import Mathlib.Data.List.Basic

/-!
# Readers of a stream

Messages that come one after the other in a stream of units, and a loop that reads them from whatever
chunks the stream is cut into. What has not made up a message yet stays in the loop's buffer.
-/

namespace Codec

variable {β μ : Type}

/-- A reader of the message at the front of a stream; `none` while there is none. -/
structure Reader (β μ : Type) where
  /-- The message and what comes after it. -/
  read : List β → Option (μ × List β)
  shrinks : ∀ {s rest : List β} {m : μ}, read s = some (m, rest) → rest.length < s.length
  /-- More of the stream does not change a message that was read. -/
  stable : ∀ {s rest : List β} {m : μ} (t : List β), read s = some (m, rest) →
    read (s ++ t) = some (m, rest ++ t)

namespace Reader

variable (r : Reader β μ)

/-- Read as many messages as the buffer can yield, and keep what is left. -/
def drain (buf : List β) : List μ × List β :=
  match _h : r.read buf with
  | none => ([], buf)
  | some (m, rest) => (m :: (drain rest).1, (drain rest).2)
termination_by buf.length
decreasing_by all_goals exact r.shrinks _h

/-- The loop on the chunks that arrive one after the other. -/
def loop (buf : List β) : List (List β) → List μ × List β
  | [] => ([], buf)
  | chunk :: chunks =>
    ((r.drain (buf ++ chunk)).1 ++ (loop (r.drain (buf ++ chunk)).2 chunks).1,
      (loop (r.drain (buf ++ chunk)).2 chunks).2)

variable {r}

theorem drain_of_none {buf : List β} (h : r.read buf = none) : r.drain buf = ([], buf) := by
  rw [drain]
  split <;> simp_all

theorem drain_of_some {buf rest : List β} {m : μ} (h : r.read buf = some (m, rest)) :
    r.drain buf = (m :: (r.drain rest).1, (r.drain rest).2) := by
  rw [drain]
  split <;> simp_all

theorem read_nil : r.read [] = none := by
  rw [Option.eq_none_iff_forall_ne_some]
  rintro ⟨m, rest⟩ h
  have hshort := r.shrinks h
  simp at hshort

/-- The loop of `drain`, as an induction. -/
theorem drain_induction {P : List β → Prop} (none : ∀ buf, r.read buf = none → P buf)
    (some : ∀ buf m rest, r.read buf = some (m, rest) → P rest → P buf) (buf : List β) : P buf := by
  induction hn : buf.length using Nat.strongRecOn generalizing buf with
  | ind n ih =>
    cases hread : r.read buf with
    | none => exact none buf hread
    | some x =>
      obtain ⟨m, rest⟩ := x
      have hshort := r.shrinks hread
      exact some buf m rest hread (ih rest.length (by omega) rest rfl)

/-- Nothing is left that could be read. -/
theorem read_drain (buf : List β) : r.read (r.drain buf).2 = none := by
  induction buf using r.drain_induction with
  | none buf hread => rw [drain_of_none hread, hread]
  | some buf m rest hread ih => rw [drain_of_some hread, ih]

/-- The messages of a stream are those of its beginning, and those of what this leaves with the rest. -/
theorem drain_append (buf t : List β) :
    r.drain (buf ++ t) = ((r.drain buf).1 ++ (r.drain ((r.drain buf).2 ++ t)).1,
      (r.drain ((r.drain buf).2 ++ t)).2) := by
  induction buf using r.drain_induction with
  | none buf hread => simp only [drain_of_none hread, List.nil_append]
  | some buf m rest hread ih =>
    rw [drain_of_some (r.stable t hread), drain_of_some hread, ih]
    rfl

/-- The chunks do not matter. -/
theorem loop_eq {buf : List β} (h : r.read buf = none) (chunks : List (List β)) :
    r.loop buf chunks = r.drain (buf ++ chunks.flatten) := by
  induction chunks generalizing buf with
  | nil => rw [loop, List.flatten_nil, List.append_nil, drain_of_none h]
  | cons chunk chunks ih =>
    have hrest := ih (r.read_drain (buf ++ chunk))
    rw [loop, hrest, List.flatten_cons, ← List.append_assoc, r.drain_append (buf ++ chunk)]

/-- From the beginning of a stream a beginning of its messages is read. -/
theorem drain_prefix {s t : List β} (h : s <+: t) : (r.drain s).1 <+: (r.drain t).1 := by
  obtain ⟨rest, rfl⟩ := h
  rw [r.drain_append s rest]
  exact List.prefix_append _ _

/-! ## Written messages -/

/-- The text of a message: the message is read from it, whatever comes after it. -/
def Writes (r : Reader β μ) (m : μ) (text : List β) : Prop := ∀ t, r.read (text ++ t) = some (m, t)

theorem Writes.drain {m : μ} {text : List β} (h : r.Writes m text) (t : List β) :
    r.drain (text ++ t) = (m :: (r.drain t).1, (r.drain t).2) := drain_of_some (h t)

end Reader

end Codec
