import Buddy3dProxy.Snapshot.Packetization
import Mathlib.Data.List.Forall2

/-!
# Packets without a payload

A sender may put packets that consist of padding alone between the others. They take sequence numbers
of their own, and the reassembler does not note them: the next packet looks like one after a gap.
-/

namespace Buddy3dProxy.Snapshot

/-- The second sequence is the first one with empty payloads inserted. -/
inductive Inserts : List (List UInt8) → List (List UInt8) → Prop where
  | nil : Inserts [] []
  | keep (payload : List UInt8) {ps qs : List (List UInt8)} (h : Inserts ps qs) :
      Inserts (payload :: ps) (payload :: qs)
  | insert {ps qs : List (List UInt8)} (h : Inserts ps qs) : Inserts ps ([] :: qs)

/-- The payloads that are not empty, each with the number of empty ones right before it, `n` of them
before the first. -/
def spaced : Nat → List (List UInt8) → List (Nat × List UInt8)
  | _, [] => []
  | n, [] :: rest => spaced (n + 1) rest
  | n, (b :: bytes) :: rest => (n, b :: bytes) :: spaced 0 rest

/-- So many empty payloads leave no gap in the 16-bit sequence numbers. -/
def gapless (n : Nat) : Bool := n % 65536 = 0

/-- The first fragment of a run. -/
def startsRun : List UInt8 → Bool
  | nalHeader :: fuHeader :: _ => nalHeader &&& 0x1F = 28 ∧ fuHeader &&& 0x80 ≠ 0
  | _ => false

/-- The last fragment of a run. -/
def endsRun : List UInt8 → Bool
  | nalHeader :: fuHeader :: _ =>
    nalHeader &&& 0x1F = 28 ∧ fuHeader &&& 0x80 = 0 ∧ fuHeader &&& 0x40 ≠ 0
  | _ => false

/-- The run begun before these payloads goes on without a gap to its last fragment. -/
def completes : List (Nat × List UInt8) → Bool
  | [] => false
  | (n, payload) :: rest =>
    gapless n && (endsRun payload || !startsRun payload && completes rest)

/-- The payload at position `i` begins a run that goes on without a gap to its last fragment. -/
def completeAt (payloads : List (Nat × List UInt8)) (i : Nat) : Bool :=
  match payloads.drop i with
  | [] => false
  | (_, payload) :: rest => startsRun payload && completes rest

/-- The same runs of fragments are complete in both sequences. -/
def SameRuns (ps qs : List (List UInt8)) : Prop :=
  ∀ i, completeAt (spaced 0 ps) i = completeAt (spaced 0 qs) i

/-- Where the first sequence has a gap, so has the second. -/
def KeepsGaps (ps qs : List (List UInt8)) : Prop :=
  List.Forall₂ (fun x y => gapless y.1 → gapless x.1) (spaced 0 ps) (spaced 0 qs)

/-! ## What a payload does -/

section Payload

variable {payload : List UInt8}

theorem endsRun_of_startsRun (h : startsRun payload) : endsRun payload = false := by
  match payload, h with
  | nalHeader :: fuHeader :: fragment, h =>
    simp only [startsRun, decide_eq_true_eq] at h
    simp [endsRun, h.2]

theorem accept_startsRun (h : startsRun payload) :
    ∃ buf, ∀ gathered, accept gathered payload = (some buf, []) := by
  match payload, h with
  | nalHeader :: fuHeader :: fragment, h =>
    simp only [startsRun, decide_eq_true_eq] at h
    exact ⟨_, fun gathered => accept_start gathered h.1 h.2⟩

/-- Without its first fragment, no fragment counts. -/
theorem accept_fragment_none {nalHeader fuHeader : UInt8} {fragment : List UInt8}
    (h : nalHeader &&& 0x1F = 28) (hs : fuHeader &&& 0x80 = 0) :
    accept none (nalHeader :: fuHeader :: fragment) = (none, []) := by
  simp [accept, Reassembler.push, Reassembler.detectGap, Reassembler.pushFuA, h, hs]

theorem accept_endsRun (h : endsRun payload) (gathered : Option (List UInt8)) :
    (accept gathered payload).1 = none ∧
      (accept gathered payload).2.length = gathered.isSome.toNat := by
  match payload, h with
  | nalHeader :: fuHeader :: fragment, h =>
    simp only [endsRun, decide_eq_true_eq] at h
    obtain ⟨h28, hs, he⟩ := h
    cases gathered with
    | none => simp [accept_fragment_none h28 hs]
    | some buf => simp [accept_end h28 hs he]

/-- Any other payload completes the same units whatever is gathered, and goes on gathering. -/
theorem accept_inside (hs : startsRun payload = false) (he : endsRun payload = false) :
    (∀ gathered, (accept gathered payload).2 = (accept none payload).2) ∧
      ∀ gathered, (accept gathered payload).1.isSome = gathered.isSome := by
  rw [← forall_and]
  intro gathered
  match payload with
  | [] => simp [accept, Reassembler.push]
  | [nalHeader] =>
    by_cases hu : 1 ≤ nalHeader &&& 0x1F ∧ nalHeader &&& 0x1F ≤ 23
    · simp [accept_single _ hu]
    by_cases h24 : nalHeader &&& 0x1F = 24
    · simp [accept_stapA _ h24]
    · simp [accept, Reassembler.push, Reassembler.detectGap, hu, h24]
  | nalHeader :: fuHeader :: fragment =>
    by_cases hu : 1 ≤ nalHeader &&& 0x1F ∧ nalHeader &&& 0x1F ≤ 23
    · simp [accept_single _ hu]
    by_cases h24 : nalHeader &&& 0x1F = 24
    · simp [accept_stapA _ h24]
    by_cases h28 : nalHeader &&& 0x1F = 28
    · have hstart : fuHeader &&& 0x80 = 0 := by simpa [startsRun, h28] using hs
      have hend : fuHeader &&& 0x40 = 0 := by simpa [endsRun, h28, hstart] using he
      cases gathered with
      | none => simp [accept_fragment_none h28 hstart]
      | some buf => simp [accept_fragment_none h28 hstart, accept_middle h28 hstart hend]
    · simp [accept, Reassembler.push, Reassembler.detectGap, hu, h24, h28]

end Payload

/-! ## What is emitted -/

/-- The fragments that are still there after `n` empty payloads. -/
def afterGap (gathered : Option (List UInt8)) (n : Nat) : Option (List UInt8) :=
  if gapless n then gathered else none

theorem isSome_and_gapless (gathered : Option (List UInt8)) (n : Nat) (rest : Bool) :
    (gathered.isSome && (gapless n && rest)) = ((afterGap gathered n).isSome && rest) := by
  unfold afterGap
  cases gapless n <;> simp

/-- What payloads complete, given the number of empty ones before each. -/
def emitted (gathered : Option (List UInt8)) : List (Nat × List UInt8) → List Nal
  | [] => []
  | (n, payload) :: rest =>
    (accept (afterGap gathered n) payload).2 ++ emitted (accept (afterGap gathered n) payload).1 rest

/-- A packet that comes `n` numbers too late finds the fragments that are still there. -/
theorem kept_afterGap {r : Reassembler} {prev : UInt16} (hprev : r.lastSeq = some prev) (n : Nat) :
    r.kept (prev + 1 + UInt16.ofNat n) = afterGap r.fuABuf n := by
  have hgap : prev + 1 + UInt16.ofNat n = prev + 1 ↔ gapless n := by
    simp only [gapless, decide_eq_true_eq, ← UInt16.toNat_inj, UInt16.toNat_add,
      UInt16.toNat_ofNat', UInt16.toNat_one]
    have hlt := prev.toNat_lt
    omega
  unfold Reassembler.kept Reassembler.detectGap afterGap
  rw [hprev]
  by_cases hn : gapless n
  · simp [hgap, hn]
  · cases hbuf : r.fuABuf <;> simp [hgap, hn, hbuf]

/-- The empty payloads since the last packet that was noted make the gap before the next one. -/
theorem pushAll_number_spaced {r : Reassembler} {prev : UInt16} (hprev : r.lastSeq = some prev)
    (n : Nat) (payloads : List (List UInt8)) :
    (r.pushAll (number (prev + 1 + UInt16.ofNat n) payloads)).2 =
      emitted r.fuABuf (spaced n payloads) := by
  induction payloads generalizing r prev n with
  | nil => rfl
  | cons payload rest ih =>
    cases payload with
    | nil =>
      have hnum : prev + 1 + UInt16.ofNat n + 1 = prev + 1 + UInt16.ofNat (n + 1) := by
        rw [UInt16.ofNat_add, UInt16.add_assoc]
        rfl
      simp only [number, hnum, Reassembler.pushAll, Reassembler.push, List.nil_append, spaced]
      exact ih hprev (n + 1)
    | cons b bytes =>
      obtain ⟨hbuf, hseq, hout⟩ :=
        r.push_eq (prev + 1 + UInt16.ofNat n) (List.cons_ne_nil b bytes)
      have hrest := ih hseq 0
      rw [show UInt16.ofNat 0 = 0 from rfl, UInt16.add_zero] at hrest
      simp only [number, Reassembler.pushAll, spaced, emitted]
      rw [hrest, hout, hbuf, kept_afterGap hprev]

/-- Before the first packet that it notes, a new reassembler has nothing to lose. -/
theorem pushAll_number_new (n : Nat) (seq : UInt16) (payloads : List (List UInt8)) :
    (Reassembler.new.pushAll (number seq payloads)).2 = emitted none (spaced n payloads) := by
  induction payloads generalizing n seq with
  | nil => rfl
  | cons payload rest ih =>
    cases payload with
    | nil =>
      simp only [number, Reassembler.pushAll, Reassembler.push, List.nil_append, spaced]
      exact ih (n + 1) (seq + 1)
    | cons b bytes =>
      obtain ⟨hbuf, hseq, hout⟩ := Reassembler.new.push_eq seq (List.cons_ne_nil b bytes)
      have hkept : Reassembler.new.kept seq = none := rfl
      have hnone : afterGap none n = none := by
        unfold afterGap
        exact ite_self none
      have hrest := pushAll_number_spaced hseq 0 rest
      rw [show UInt16.ofNat 0 = 0 from rfl, UInt16.add_zero] at hrest
      simp only [number, Reassembler.pushAll, spaced, emitted]
      rw [hrest, hout, hbuf, hkept, hnone]

/-! ## Two spacings of the same payloads -/

/-- The same payloads, spaced in two ways. -/
def Respaced (xs ys : List (Nat × List UInt8)) : Prop := List.Forall₂ (fun x y => x.2 = y.2) xs ys

/-- What a start gathers is the same in both sequences, and what the runs before it gathered no longer
counts. Two sequences with the same complete runs emit the same. -/
theorem emitted_eq {xs ys : List (Nat × List UInt8)} (h : Respaced xs ys)
    (hruns : ∀ i, completeAt xs i = completeAt ys i) {b c : Option (List UInt8)}
    (hopen : (b.isSome && completes xs) = (c.isSome && completes ys))
    (hbuf : b = c ∨ b = none ∨ c = none) : emitted b xs = emitted c ys := by
  induction h generalizing b c with
  | nil => rfl
  | @cons x y xs ys hxy _ ih =>
    obtain ⟨n, payload⟩ := x
    obtain ⟨m, _⟩ := y
    obtain rfl : payload = _ := hxy
    have hrest : ∀ i, completeAt xs i = completeAt ys i := fun i => hruns (i + 1)
    have hgap : afterGap b n = afterGap c m ∨ afterGap b n = none ∨ afterGap c m = none := by
      unfold afterGap
      cases gapless n <;> cases gapless m <;> simp [hbuf]
    simp only [completes, isSome_and_gapless] at hopen
    simp only [emitted]
    by_cases hstart : startsRun payload
    · obtain ⟨buf, hacc⟩ := accept_startsRun hstart
      have hfirst : completes xs = completes ys := by
        simpa [completeAt, hstart] using hruns 0
      rw [hacc, hacc]
      exact congrArg _ (ih hrest (by rw [hfirst]) (.inl rfl))
    by_cases hend : endsRun payload
    · have hiff : (afterGap b n).isSome = (afterGap c m).isSome := by simpa [hend] using hopen
      have heq : afterGap b n = afterGap c m := by
        rcases hgap with h | h | h
        · exact h
        · rw [h] at hiff ⊢
          exact (Option.isSome_eq_false_iff.mp hiff.symm |> Option.isNone_iff_eq_none.mp).symm
        · rw [h] at hiff ⊢
          exact Option.isSome_eq_false_iff.mp hiff |> Option.isNone_iff_eq_none.mp
      rw [heq, (accept_endsRun hend _).1]
      exact congrArg _ (ih hrest rfl (.inl rfl))
    · obtain ⟨hout, hmore⟩ := accept_inside (by simpa using hstart) (by simpa using hend)
      rw [hout, hout (afterGap c m)]
      refine congrArg _ (ih hrest ?_ ?_)
      · rw [hmore, hmore]
        simpa [hstart, hend] using hopen
      · have hnone : (accept none payload).1 = none := by simpa using hmore none
        rcases hgap with h | h | h
        · exact .inl (by rw [h])
        · exact .inr (.inl (by rw [h, hnone]))
        · exact .inr (.inr (by rw [h, hnone]))

/-- A sequence with more gaps emits at most as much, and as much only if no run is interrupted. -/
theorem length_emitted_le {xs ys : List (Nat × List UInt8)} (h : Respaced xs ys)
    (hgaps : List.Forall₂ (fun x y => gapless y.1 → gapless x.1) xs ys)
    {b c : Option (List UInt8)} (hbuf : c = b ∨ c = none) :
    (emitted c ys).length ≤ (emitted b xs).length ∧
      ((emitted c ys).length = (emitted b xs).length →
        (∀ i, completeAt xs i = completeAt ys i) ∧
          (b.isSome && completes xs) = (c.isSome && completes ys)) := by
  induction h generalizing b c with
  | nil => simp [emitted, completeAt, completes]
  | @cons x y xs ys hxy _ ih =>
    obtain ⟨n, payload⟩ := x
    obtain ⟨m, _⟩ := y
    obtain rfl : payload = _ := hxy
    obtain ⟨hnm, hgaps⟩ := List.forall₂_cons.mp hgaps
    have hgap : afterGap c m = afterGap b n ∨ afterGap c m = none := by
      unfold afterGap
      by_cases hm : gapless m
      · simpa [hm, hnm hm] using hbuf
      · simp [hm]
    have hat : ∀ k, (∀ i, completeAt xs i = completeAt ys i) →
        (startsRun payload → completes xs = completes ys) →
        completeAt ((n, payload) :: xs) k = completeAt ((m, payload) :: ys) k := by
      intro k hrest hfirst
      cases k with
      | zero => cases hs : startsRun payload <;> simp_all [completeAt]
      | succ i => exact hrest i
    simp only [emitted, List.length_append, completes, isSome_and_gapless]
    by_cases hstart : startsRun payload
    · obtain ⟨buf, hacc⟩ := accept_startsRun hstart
      obtain ⟨hle, heq⟩ := ih hgaps (b := some buf) (.inl rfl)
      simp only [hacc, List.length_nil, Nat.zero_add]
      refine ⟨hle, ?_⟩
      intro hlen
      obtain ⟨hrest, hopen⟩ := heq hlen
      have hfirst : completes xs = completes ys := by simpa using hopen
      exact ⟨fun k => hat k hrest fun _ => hfirst, by simp [hstart, endsRun_of_startsRun hstart]⟩
    by_cases hend : endsRun payload
    · obtain ⟨hb, hblen⟩ := accept_endsRun hend (afterGap b n)
      obtain ⟨hc, hclen⟩ := accept_endsRun hend (afterGap c m)
      obtain ⟨hle, heq⟩ := ih hgaps (b := none) (.inl rfl)
      rw [hb, hc, hblen, hclen]
      have hsub : (afterGap c m).isSome.toNat ≤ (afterGap b n).isSome.toNat := by
        rcases hgap with hgap | hgap
        · exact Nat.le_of_eq (by rw [hgap])
        · rw [hgap]
          exact Nat.zero_le _
      refine ⟨by omega, ?_⟩
      intro hlen
      have hsame : (afterGap b n).isSome = (afterGap c m).isSome := by
        have hnat : (afterGap b n).isSome.toNat = (afterGap c m).isSome.toNat := by omega
        revert hnat
        cases (afterGap b n).isSome <;> cases (afterGap c m).isSome <;> decide
      obtain ⟨hrest, -⟩ := heq (by omega)
      exact ⟨fun k => hat k hrest fun hs => absurd hs hstart, by simp [hend, hsame]⟩
    · obtain ⟨hout, hmore⟩ := accept_inside (by simpa using hstart) (by simpa using hend)
      have hnone : (accept none payload).1 = none := by simpa using hmore none
      have hnext : (accept (afterGap c m) payload).1 = (accept (afterGap b n) payload).1 ∨
          (accept (afterGap c m) payload).1 = none := by
        rcases hgap with hgap | hgap
        · exact .inl (by rw [hgap])
        · exact .inr (by rw [hgap, hnone])
      obtain ⟨hle, heq⟩ := ih hgaps hnext
      have hlen_out : (accept (afterGap c m) payload).2.length =
          (accept (afterGap b n) payload).2.length := by
        rw [hout, ← hout (afterGap b n)]
      refine ⟨by omega, ?_⟩
      intro hlen
      obtain ⟨hrest, hopen⟩ := heq (by omega)
      rw [hmore, hmore] at hopen
      exact ⟨fun k => hat k hrest fun hs => absurd hs hstart, by simpa [hstart, hend] using hopen⟩

/-! ## Inserted packets -/

theorem Inserts.respaced {ps qs : List (List UInt8)} (h : Inserts ps qs) (n m : Nat) :
    Respaced (spaced n ps) (spaced m qs) := by
  induction h generalizing n m with
  | nil => exact .nil
  | keep payload _ ih =>
    cases payload with
    | nil => exact ih (n + 1) (m + 1)
    | cons b bytes => exact .cons rfl (ih 0 0)
  | insert _ ih => exact ih n (m + 1)

/-- A sequence without empty payloads has no gaps. -/
theorem Inserts.keepsGaps {ps qs : List (List UInt8)} (h : Inserts ps qs) (hne : [] ∉ ps) :
    KeepsGaps ps qs := by
  have key : ∀ m, List.Forall₂ (fun x y => gapless y.1 → gapless x.1) (spaced 0 ps) (spaced m qs) := by
    induction h with
    | nil => exact fun _ => .nil
    | keep payload _ ih =>
      intro m
      rw [List.mem_cons, not_or] at hne
      cases payload with
      | nil => exact absurd rfl hne.1
      | cons b bytes => exact .cons (fun _ => rfl) (ih hne.2 0)
    | insert _ ih => exact fun m => ih hne (m + 1)
  exact key 0

/-- If the same runs of fragments are complete in both sequences, the same units are emitted; unless
gaps of the first sequence are filled, only then. -/
theorem pushAll_inserts {ps qs : List (List UInt8)} (h : Inserts ps qs) (seq : UInt16) :
    (SameRuns ps qs →
        (Reassembler.new.pushAll (number seq qs)).2 = (Reassembler.new.pushAll (number seq ps)).2) ∧
      (KeepsGaps ps qs →
        (Reassembler.new.pushAll (number seq qs)).2 = (Reassembler.new.pushAll (number seq ps)).2 →
          SameRuns ps qs) := by
  rw [pushAll_number_new 0, pushAll_number_new 0]
  constructor
  · intro hruns
    exact (emitted_eq (h.respaced 0 0) hruns rfl (.inl rfl)).symm
  · intro hgaps hsame
    exact ((length_emitted_le (h.respaced 0 0) hgaps (.inl rfl)).2 (congrArg _ hsame)).1

/-- Padding before and after a run whose numbers wrap around. -/
theorem pushAll_inserts_around :
    let idr : NalUnit := ⟨0x65, [1, 2], by decide⟩
    let run := [fuAPayload idr 0x80 [1], fuAPayload idr 0x40 [2]]
    (Reassembler.new.pushAll (number 65534 ([] :: run ++ [[]]))).2 =
      (Reassembler.new.pushAll (number 65534 run)).2 := by
  intro idr run
  have hins : Inserts run ([] :: run ++ [[]]) := .insert (.keep _ (.keep _ (.insert .nil)))
  have hruns : SameRuns run ([] :: run ++ [[]]) := by
    intro i
    match i with
    | 0 => decide
    | 1 => decide
    | i + 2 => simp [run, spaced, fuAPayload, completeAt]
  exact (pushAll_inserts hins 65534).1 hruns

/-- Padding between two fragments: the unit is lost. -/
theorem not_pushAll_inserts_between :
    let idr : NalUnit := ⟨0x65, [1, 2], by decide⟩
    let first := fuAPayload idr 0x80 [1]
    let last := fuAPayload idr 0x40 [2]
    Inserts [first, last] [first, [], last] ∧
      (Reassembler.new.pushAll (number 7 [first, last])).2 = [idr.nal] ∧
      (Reassembler.new.pushAll (number 7 [first, [], last])).2 = [] := by
  intro idr first last
  exact ⟨.keep _ (.insert (.keep _ .nil)), by decide, by decide⟩

end Buddy3dProxy.Snapshot
