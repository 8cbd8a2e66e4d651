import Buddy3dProxy.Tokio.Broadcast

/-!
# What a receiver of a broadcast channel has been given

`Receipts sent p out q`: a receiver that moved from position `p` to `q` was given `out`. The values it
was given were sent in between, each once and in the order of the sends, and those it was not given
are the ones its lag reports count.
-/

namespace Tokio

variable {α : Type}

namespace Recv

def value? : Recv α → Option α
  | ok v => some v
  | lagged _ => none

def missed : Recv α → Nat
  | ok _ => 0
  | lagged n => n

end Recv

/-- The values among what a receiver was given. -/
def received (out : List (Recv α)) : List α := out.filterMap Recv.value?

/-- How many values the receiver was told it missed. -/
def missed (out : List (Recv α)) : Nat := out.foldl (fun n x => n + x.missed) 0

structure Receipts (sent : List α) (p : Nat) (out : List (Recv α)) (q : Nat) : Prop where
  le : p ≤ q
  le_length : q ≤ sent.length
  sublist : (received out).Sublist ((sent.take q).drop p)
  count : (received out).length + missed out = q - p

namespace Receipts

variable {sent : List α} {p q : Nat} {out : List (Recv α)}

theorem nil (h : p ≤ sent.length) : Receipts sent p [] p := by
  refine ⟨Nat.le_refl _, h, ?_, ?_⟩
  · exact List.nil_sublist _
  · simp [received, missed]

theorem send (h : Receipts sent p out q) (v : α) : Receipts (sent ++ [v]) p out q := by
  have hle := h.le_length
  refine ⟨h.le, ?_, ?_, h.count⟩
  · rw [List.length_append]
    omega
  · rw [List.take_append_of_le_length hle]
    exact h.sublist

/-- The receiver moves on to `q'` and is given `x`. -/
theorem snoc (h : Receipts sent p out q) {x : Recv α} {q' : Nat} (hle : q ≤ q')
    (hlen : q' ≤ sent.length) (hvalue : x.value?.toList.Sublist ((sent.take q').drop q))
    (hcount : x.value?.toList.length + x.missed = q' - q) : Receipts sent p (out ++ [x]) q' := by
  have hreceived : received (out ++ [x]) = received out ++ x.value?.toList := by
    unfold received
    rw [List.filterMap_append]
    cases hx : x.value? <;> simp [hx]
  have hmissed : missed (out ++ [x]) = missed out + x.missed := by simp [missed]
  have hqp := h.le
  refine ⟨by omega, hlen, ?_, ?_⟩
  · have hsplit : (sent.take q').drop p = (sent.take q).drop p ++ (sent.take q').drop q := by
      have htake : (sent.take q').take q = sent.take q := by
        rw [List.take_take, Nat.min_eq_left hle]
      have hlen : (sent.take q).length = q := by
        rw [List.length_take]
        omega
      conv_lhs => rw [← List.take_append_drop q (sent.take q'), htake]
      rw [List.drop_append_of_le_length (by omega)]
    rw [hreceived, hsplit]
    exact h.sublist.append hvalue
  · have hbefore := h.count
    rw [hreceived, hmissed, List.length_append]
    omega

theorem recv (b : Broadcast α) (h : Receipts b.sent p out q) {x : Recv α} {q' : Nat}
    (hr : b.recv q = some (x, q')) : Receipts b.sent p (out ++ [x]) q' := by
  unfold Broadcast.recv at hr
  split at hr
  · rename_i hlag
    obtain ⟨rfl, rfl⟩ := Prod.mk.inj (Option.some.inj hr)
    refine h.snoc (by omega) (by omega) (List.nil_sublist _) ?_
    show 0 + (b.sent.length - b.capacity - q) = _
    omega
  · obtain ⟨v, hv, he⟩ := Option.map_eq_some_iff.mp hr
    obtain ⟨rfl, rfl⟩ := Prod.mk.inj he
    obtain ⟨hlt, hget⟩ := List.getElem?_eq_some_iff.mp hv
    refine h.snoc (by omega) hlt ?_ ?_
    · have hlast : (b.sent.take (q + 1)).drop q = [v] := by
        rw [List.take_add_one, hv, List.drop_append_of_le_length (by rw [List.length_take]; omega)]
        simp
      rw [hlast]
      exact List.Sublist.refl _
    · show 1 + 0 = _
      omega

/-- Without a lag report the receiver was given every value. -/
theorem received_eq (h : Receipts sent p out q) (hmissed : missed out = 0) :
    received out = (sent.take q).drop p := by
  have hcount := h.count
  have hlen := h.le_length
  refine h.sublist.eq_of_length ?_
  rw [List.length_drop, List.length_take]
  omega

end Receipts

end Tokio
