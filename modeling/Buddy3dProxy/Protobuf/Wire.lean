import Mathlib.Algebra.Group.Nat.Defs

/-!
# The protobuf wire format

A message is a sequence of fields, each a tag and a value. The tag has the number of the field and the
wire type, on which the form of the value depends.
-/

namespace Protobuf

/-- The value of a field. A group stands between two fields without a value of their own. -/
inductive Value where
  | varint (n : Nat)
  | i64 (bytes : List UInt8)
  | len (bytes : List UInt8)
  | startGroup
  | endGroup
  | i32 (bytes : List UInt8)
  deriving DecidableEq, Repr

structure Field where
  number : Nat
  value : Value
  deriving DecidableEq, Repr

/-! ## The grammar -/

/-- A number in at most `size` bytes of seven bits each, the lowest ones first, and what follows it. -/
def varint : Nat → List UInt8 → Option (Nat × List UInt8)
  | 0, _ => none
  | _ + 1, [] => none
  | size + 1, b :: rest =>
    if b.toNat < 128 then some (b.toNat, rest)
    else (varint size rest).map fun p => (b.toNat - 128 + 128 * p.1, p.2)

/-- A varint of an unsigned integer type. -/
def uint (bits : Nat) (input : List UInt8) : Option (Nat × List UInt8) :=
  (varint 10 input).filter (·.1 < 2 ^ bits)

def take (n : Nat) (input : List UInt8) : Option (List UInt8 × List UInt8) :=
  if n ≤ input.length then some (input.take n, input.drop n) else none

def value (wireType : Nat) (input : List UInt8) : Option (Value × List UInt8) :=
  match wireType with
  | 0 => (uint 64 input).map fun p => (.varint p.1, p.2)
  | 1 => (take 8 input).map fun p => (.i64 p.1, p.2)
  | 2 => (uint 64 input).bind fun size => (take size.1 size.2).map fun p => (.len p.1, p.2)
  | 3 => some (.startGroup, input)
  | 4 => some (.endGroup, input)
  | 5 => (take 4 input).map fun p => (.i32 p.1, p.2)
  | _ => none

/-- The numbers of fields start at 1. -/
def field (input : List UInt8) : Option (Field × List UInt8) :=
  (uint 32 input).bind fun tag =>
    if tag.1 / 8 = 0 then none
    else (value (tag.1 % 8) tag.2).map fun p => (⟨tag.1 / 8, p.1⟩, p.2)

section Length

variable {input rest : List UInt8}

theorem length_of_varint {size n : Nat} (h : varint size input = some (n, rest)) :
    rest.length < input.length := by
  induction size generalizing input n with
  | zero => cases h
  | succ size ih =>
    cases input with
    | nil => cases h
    | cons b input =>
      unfold varint at h
      split at h
      · cases h
        simp
      · obtain ⟨⟨m, rest'⟩, hm, heq⟩ := Option.map_eq_some_iff.mp h
        cases heq
        exact Nat.lt_succ_of_lt (ih hm)

theorem length_of_uint {bits n : Nat} (h : uint bits input = some (n, rest)) :
    rest.length < input.length :=
  length_of_varint (Option.filter_eq_some_iff.mp h).1

theorem length_of_take {n : Nat} {bytes : List UInt8} (h : take n input = some (bytes, rest)) :
    rest.length ≤ input.length := by
  unfold take at h
  split at h
  · cases h
    simp
  · cases h

theorem length_of_value {wireType : Nat} {v : Value} (h : value wireType input = some (v, rest)) :
    rest.length ≤ input.length := by
  unfold value at h
  split at h
  · obtain ⟨p, hp, heq⟩ := Option.map_eq_some_iff.mp h
    cases heq
    exact Nat.le_of_lt (length_of_uint hp)
  · obtain ⟨p, hp, heq⟩ := Option.map_eq_some_iff.mp h
    cases heq
    exact length_of_take hp
  · obtain ⟨size, hsize, h⟩ := Option.bind_eq_some_iff.mp h
    obtain ⟨p, hp, heq⟩ := Option.map_eq_some_iff.mp h
    cases heq
    exact Nat.le_trans (length_of_take hp) (Nat.le_of_lt (length_of_uint hsize))
  · cases h
    exact Nat.le_refl _
  · cases h
    exact Nat.le_refl _
  · obtain ⟨p, hp, heq⟩ := Option.map_eq_some_iff.mp h
    cases heq
    exact length_of_take hp
  · cases h

/-- A field takes at least the byte of its tag. -/
theorem length_of_field {f : Field} (h : field input = some (f, rest)) : rest.length < input.length := by
  obtain ⟨tag, htag, h⟩ := Option.bind_eq_some_iff.mp h
  split at h
  · cases h
  · obtain ⟨p, hp, heq⟩ := Option.map_eq_some_iff.mp h
    cases heq
    exact Nat.lt_of_le_of_lt (length_of_value hp) (length_of_uint htag)

end Length

/-- The fields of an input that is a message as a whole. -/
def message (input : List UInt8) : Option (List Field) :=
  if input = [] then some []
  else
    match _h : field input with
    | none => none
    | some (f, rest) => (message rest).map (f :: ·)
termination_by input.length
decreasing_by exact length_of_field _h

/-! ## Reading what is known -/

section Read

variable {rest : List UInt8}

@[simp] theorem message_nil : message [] = some [] := by
  rw [message, if_pos rfl]

theorem message_of_field {input : List UInt8} {f : Field} (h : field input = some (f, rest)) :
    message input = (message rest).map (f :: ·) := by
  have hne : input ≠ [] := by
    rintro rfl
    cases h
  rw [message, if_neg hne]
  split
  · next hnone =>
    rw [hnone] at h
    cases h
  · next f' rest' hsome =>
    rw [hsome] at h
    cases h
    rfl

theorem message_singleton {input : List UInt8} {f : Field} (h : field input = some (f, [])) :
    message input = some [f] := by
  rw [message_of_field h, message_nil, Option.map_some]

@[simp] theorem take_append (bytes rest : List UInt8) :
    take bytes.length (bytes ++ rest) = some (bytes, rest) := by
  simp [take]

/-- A field from its tag and its value. -/
theorem field_of_value {input inner : List UInt8} {number wireType : Nat} {v : Value} (hpos : 1 ≤ number)
    (hwire : wireType < 8) (htag : uint 32 input = some (number * 8 + wireType, inner))
    (hvalue : value wireType inner = some (v, rest)) : field input = some (⟨number, v⟩, rest) := by
  have hnumber : (number * 8 + wireType) / 8 = number := by omega
  have htype : (number * 8 + wireType) % 8 = wireType := by omega
  unfold field
  rw [htag, Option.bind_some, hnumber, htype, if_neg (by omega), hvalue]
  rfl

end Read

end Protobuf
