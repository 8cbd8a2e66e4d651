import Mathlib.Data.List.Basic

/-!
# Byte streams of NAL units

The byte stream format of H.264. A unit comes after a start code, and ends before the next three bytes
that are 0 0 0 or 0 0 1, or where the stream ends. Units without such bytes that do not end in zero are
read back from their stream.
-/

namespace Codec.ByteStream

def startCode : List UInt8 := [0, 0, 0, 1]

/-- The bytes 0 0 0 or 0 0 1, with which a unit before them ends. -/
def ends : List UInt8 → Bool
  | a :: b :: c :: _ => a = 0 && b = 0 && c ≤ 1
  | _ => false

/-- The unit at the front of a stream, and what comes after it. -/
def unit : List UInt8 → List UInt8 × List UInt8
  | [] => ([], [])
  | b :: bs => if ends (b :: bs) then ([], b :: bs) else (b :: (unit bs).1, (unit bs).2)

/-- What comes after the next start code. -/
def afterStart : List UInt8 → Option (List UInt8)
  | [] => none
  | b :: bs => if [0, 0, 1].isPrefixOf (b :: bs) then some (bs.drop 2) else afterStart bs

theorem length_unit (s : List UInt8) : (unit s).2.length ≤ s.length := by
  induction s with
  | nil => exact Nat.le_refl _
  | cons b bs ih =>
    rw [unit]
    split
    · exact Nat.le_refl _
    · exact Nat.le_succ_of_le ih

theorem length_afterStart {s rest : List UInt8} (h : afterStart s = some rest) :
    rest.length < s.length := by
  induction s with
  | nil => cases h
  | cons b bs ih =>
    rw [afterStart] at h
    split at h
    · cases h
      rw [List.length_drop, List.length_cons]
      omega
    · have hshort := ih h
      rw [List.length_cons]
      omega

/-- The units of a stream, in order. -/
def units (s : List UInt8) : List (List UInt8) :=
  match _h : afterStart s with
  | none => []
  | some rest => (unit rest).1 :: units (unit rest).2
termination_by s.length
decreasing_by exact Nat.lt_of_le_of_lt (length_unit rest) (length_afterStart _h)

/-- A unit that can stand in a stream: its end is not to be seen before it ends. -/
structure Plain (u : List UInt8) : Prop where
  inner : ∀ s ∈ u.tails, ends s = false
  last : u.getLast? ≠ some 0

instance (u : List UInt8) : Decidable (Plain u) :=
  decidable_of_iff ((∀ s ∈ u.tails, ends s = false) ∧ u.getLast? ≠ some 0)
    ⟨fun h => ⟨h.1, h.2⟩, fun h => ⟨h.inner, h.last⟩⟩

section Read

variable {u t : List UInt8} {b : UInt8}

theorem Plain.tail (h : Plain (b :: u)) : Plain u where
  inner s hs := h.inner s (by simp [hs])
  last hlast := by
    apply h.last
    rw [List.getLast?_cons, hlast]
    rfl

/-- Within a unit, the start code after it is too far away to be taken for its end. -/
theorem Plain.ends_append (h : Plain (b :: u)) (t : List UInt8) :
    ends (b :: (u ++ (startCode ++ t))) = false := by
  cases u with
  | nil =>
    have hb : b ≠ 0 := by simpa using h.last
    simp [startCode, ends, hb]
  | cons c u =>
    cases u with
    | nil =>
      have hc : c ≠ 0 := by simpa using h.last
      simp [startCode, ends, hc]
    | cons d u => exact h.inner (b :: c :: d :: u) (by simp)

theorem unit_append (h : Plain u) (t : List UInt8) :
    unit (u ++ (startCode ++ t)) = (u, startCode ++ t) := by
  induction u with
  | nil => exact if_pos rfl
  | cons b u ih =>
    rw [List.cons_append, unit, if_neg (Bool.eq_false_iff.mp (h.ends_append t)), ih h.tail]

theorem unit_self (h : Plain u) : unit u = (u, []) := by
  induction u with
  | nil => rfl
  | cons b u ih =>
    have hinner : ends (b :: u) = false := h.inner (b :: u) (by simp)
    rw [unit, if_neg (Bool.eq_false_iff.mp hinner), ih h.tail]

theorem afterStart_startCode (t : List UInt8) : afterStart (startCode ++ t) = some t := by
  simp [startCode, afterStart]

theorem units_nil : units [] = [] := by
  rw [units]
  rfl

theorem units_startCode (t : List UInt8) :
    units (startCode ++ t) = (unit t).1 :: units (unit t).2 := by
  rw [units, afterStart_startCode]

end Read

/-- The units of a stream are the ones it was made of. -/
theorem units_flatMap {us : List (List UInt8)} (h : ∀ u ∈ us, Plain u) :
    units (us.flatMap (startCode ++ ·)) = us := by
  induction us with
  | nil => exact units_nil
  | cons u us ih =>
    have hu : Plain u := h u (by simp)
    have hrest := ih fun v hv => h v (by simp [hv])
    rw [List.flatMap_cons, List.append_assoc, units_startCode]
    cases us with
    | nil => rw [List.flatMap_nil, List.append_nil, unit_self hu, units_nil]
    | cons v us =>
      rw [List.flatMap_cons, List.append_assoc] at hrest ⊢
      rw [unit_append hu, hrest]

end Codec.ByteStream
