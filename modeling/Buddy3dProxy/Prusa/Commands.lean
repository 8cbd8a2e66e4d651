import Buddy3dProxy.Protobuf.Wire
import Buddy3dProxy.Rust.Bytes
import Buddy3dProxy.Rust.Utf8

/-!
# Command payloads

`prusa/commands.rs`: the protobuf payloads of the camera commands.
-/

namespace Buddy3dProxy.Prusa

/-- `encode_varint`: seven bits a byte, the lowest ones first. -/
def encodeVarint (value : Nat) : List UInt8 :=
  if 0x80 ≤ value then (UInt8.ofNat value ||| 0x80) :: encodeVarint (value / 128)
  else [UInt8.ofNat value]
termination_by value
decreasing_by omega

/-- A field of wire type 2: its tag, its length and its bytes. -/
def encodeBytes (fieldNum : Nat) (bytes : List UInt8) : List UInt8 :=
  encodeVarint (fieldNum * 8 + 2) ++ encodeVarint bytes.length ++ bytes

/-- `encode_camera_trigger`. The tag is a `u32`. -/
def encodeCameraTrigger (fieldNum : UInt32) (token : String) : List UInt8 :=
  encodeVarint (fieldNum <<< 3).toNat ++ encodeVarint 1 ++ encodeBytes 11 (Rust.utf8 token.toList)

/-- `encode_set_mode`. -/
def encodeSetMode (mode : UInt32) (token : String) : List UInt8 :=
  encodeBytes 3 (encodeVarint (4 * 8 + 0) ++ encodeVarint mode.toNat) ++
    encodeBytes 6 (Rust.utf8 token.toList)

/-- `encode_set_quality`. -/
def encodeSetQuality (quality : UInt32) (token : String) : List UInt8 :=
  encodeVarint (4 * 8 + 2) ++ encodeVarint 0 ++ encodeBytes 6 (Rust.utf8 token.toList) ++
    encodeBytes 8 (encodeVarint (1 * 8 + 0) ++ encodeVarint quality.toNat)

/-! ## Reading back -/

theorem encodeVarint_of_le {n : Nat} (h : 0x80 ≤ n) :
    encodeVarint n = (UInt8.ofNat n ||| 0x80) :: encodeVarint (n / 128) := by
  rw [encodeVarint, if_pos h]

theorem encodeVarint_of_lt {n : Nat} (h : ¬ 0x80 ≤ n) : encodeVarint n = [UInt8.ofNat n] := by
  rw [encodeVarint, if_neg h]

theorem or_0x80 (n : Nat) : UInt8.ofNat n ||| 0x80 = UInt8.ofNat (n % 128 + 128) := by
  have hbyte : ∀ x : UInt8, x ||| 0x80 = UInt8.ofNat (x.toNat % 128 + 128) :=
    fun x => Rust.forall_uint8 (p := fun x => x ||| 0x80 = UInt8.ofNat (x.toNat % 128 + 128)) (by decide) x
  rw [hbyte, UInt8.toNat_ofNat']
  congr 2
  omega

/-- A number and what follows it are read back. -/
theorem encodeVarint_append_inj {m n : Nat} {xs ys : List UInt8}
    (h : encodeVarint m ++ xs = encodeVarint n ++ ys) : m = n ∧ xs = ys := by
  induction m using Nat.strongRecOn generalizing n with
  | ind m ih =>
    have hlow : ∀ {k : Nat}, k < 256 → (UInt8.ofNat k).toNat = k := by
      intro k hk
      simpa using hk
    by_cases hm : 0x80 ≤ m <;> by_cases hn : 0x80 ≤ n
    · rw [encodeVarint_of_le hm, encodeVarint_of_le hn, or_0x80, or_0x80, List.cons_append, List.cons_append,
        List.cons.injEq] at h
      obtain ⟨hbyte, hrest⟩ := h
      have hbits := congrArg UInt8.toNat hbyte
      rw [hlow (by omega), hlow (by omega)] at hbits
      obtain ⟨hhigh, htail⟩ := ih (m / 128) (by omega) hrest
      exact ⟨by omega, htail⟩
    · rw [encodeVarint_of_le hm, encodeVarint_of_lt hn, or_0x80] at h
      have hbits := congrArg UInt8.toNat (List.cons.inj h).1
      rw [hlow (by omega), hlow (by omega)] at hbits
      omega
    · rw [encodeVarint_of_lt hm, encodeVarint_of_le hn, or_0x80] at h
      have hbits := congrArg UInt8.toNat (List.cons.inj h).1
      rw [hlow (by omega), hlow (by omega)] at hbits
      omega
    · rw [encodeVarint_of_lt hm, encodeVarint_of_lt hn] at h
      obtain ⟨hbyte, hrest⟩ := List.cons.inj h
      have hbits := congrArg UInt8.toNat hbyte
      rw [hlow (by omega), hlow (by omega)] at hbits
      exact ⟨hbits, hrest⟩

theorem encodeVarint_inj {m n : Nat} (h : encodeVarint m = encodeVarint n) : m = n := by
  have happ : encodeVarint m ++ [] = encodeVarint n ++ [] := by rw [h]
  exact (encodeVarint_append_inj happ).1

theorem encodeBytes_append_inj {fieldNum : Nat} {a b xs ys : List UInt8}
    (h : encodeBytes fieldNum a ++ xs = encodeBytes fieldNum b ++ ys) : a = b ∧ xs = ys := by
  simp only [encodeBytes, List.append_assoc] at h
  obtain ⟨-, hbody⟩ := encodeVarint_append_inj h
  obtain ⟨hlen, hrest⟩ := encodeVarint_append_inj hbody
  exact List.append_inj hrest hlen

/-- The payload says which mode it sets. -/
theorem encodeSetMode_inj {m n : UInt32} {token : String}
    (h : encodeSetMode m token = encodeSetMode n token) : m = n := by
  obtain ⟨hsub, -⟩ := encodeBytes_append_inj h
  exact UInt32.toNat_inj.mp (encodeVarint_inj (List.append_cancel_left hsub))

theorem encodeSetQuality_inj {m n : UInt32} {token : String}
    (h : encodeSetQuality m token = encodeSetQuality n token) : m = n := by
  have hfield : encodeBytes 8 (encodeVarint (1 * 8 + 0) ++ encodeVarint m.toNat) ++ [] =
      encodeBytes 8 (encodeVarint (1 * 8 + 0) ++ encodeVarint n.toNat) ++ [] := by
    rw [List.append_nil, List.append_nil]
    exact List.append_cancel_left h
  obtain ⟨hsub, -⟩ := encodeBytes_append_inj hfield
  exact UInt32.toNat_inj.mp (encodeVarint_inj (List.append_cancel_left hsub))

/-- A mode payload is no quality payload: their first fields differ. -/
theorem encodeSetMode_ne_encodeSetQuality (m n : UInt32) (token : String) :
    encodeSetMode m token ≠ encodeSetQuality n token := by
  intro h
  simp only [encodeSetMode, encodeSetQuality, encodeBytes, List.append_assoc] at h
  have htag := (encodeVarint_append_inj h).1
  omega

/-! ## Parsing as protobuf messages -/

theorem length_encodeVarint {size n : Nat} (h : n < 128 ^ (size + 1)) :
    (encodeVarint n).length ≤ size + 1 := by
  induction size generalizing n with
  | zero => rw [encodeVarint_of_lt (by omega), List.length_singleton]
  | succ size ih =>
    by_cases hn : 0x80 ≤ n
    · have hrest := ih (n := n / 128) (by omega)
      rw [encodeVarint_of_le hn, List.length_cons]
      omega
    · rw [encodeVarint_of_lt hn, List.length_singleton]
      omega

theorem varint_encodeVarint {size n : Nat} (h : n < 128 ^ (size + 1)) (rest : List UInt8) :
    Protobuf.varint (size + 1) (encodeVarint n ++ rest) = some (n, rest) := by
  have hlow : ∀ {k : Nat}, k < 256 → (UInt8.ofNat k).toNat = k := by
    intro k hk
    simpa using hk
  induction size generalizing n with
  | zero =>
    have hn : ¬ 0x80 ≤ n := by omega
    rw [encodeVarint_of_lt hn, List.singleton_append, Protobuf.varint, hlow (by omega), if_pos (by omega)]
  | succ size ih =>
    by_cases hn : 0x80 ≤ n
    · have hrest := ih (n := n / 128) (by omega)
      rw [encodeVarint_of_le hn, or_0x80, List.cons_append, Protobuf.varint, hlow (by omega),
        if_neg (by omega), hrest, Option.map_some, Option.some.injEq, Prod.mk.injEq]
      exact ⟨by omega, rfl⟩
    · rw [encodeVarint_of_lt hn, List.singleton_append, Protobuf.varint, hlow (by omega), if_pos (by omega)]

theorem uint_encodeVarint {bits n : Nat} (hbits : bits ≤ 64) (h : n < 2 ^ bits) (rest : List UInt8) :
    Protobuf.uint bits (encodeVarint n ++ rest) = some (n, rest) := by
  have hsize : n < 128 ^ (9 + 1) :=
    calc n < 2 ^ bits := h
      _ ≤ 2 ^ 64 := Nat.pow_le_pow_right (by omega) hbits
      _ < 128 ^ (9 + 1) := by decide
  rw [Protobuf.uint, varint_encodeVarint hsize, Option.filter_some, if_pos (by simpa using h)]

/-- A field number with its three bits of wire type fits in the tag. -/
theorem uint_tag {fieldNum wireType : Nat} (hnum : fieldNum < 2 ^ 29) (hwire : wireType < 8)
    (rest : List UInt8) : Protobuf.uint 32 (encodeVarint (fieldNum * 8 + wireType) ++ rest) =
      some (fieldNum * 8 + wireType, rest) :=
  uint_encodeVarint (by omega) (by omega) rest

theorem field_encodeBytes {fieldNum : Nat} (hpos : 1 ≤ fieldNum) (hnum : fieldNum < 2 ^ 29)
    {bytes : List UInt8} (hsize : bytes.length < 2 ^ 64) (rest : List UInt8) :
    Protobuf.field (encodeBytes fieldNum bytes ++ rest) = some (⟨fieldNum, .len bytes⟩, rest) := by
  have hvalue : Protobuf.value 2 (encodeVarint bytes.length ++ (bytes ++ rest)) =
      some (.len bytes, rest) := by
    rw [Protobuf.value, uint_encodeVarint (by omega) hsize, Option.bind_some, Protobuf.take_append]
    rfl
  rw [encodeBytes, List.append_assoc, List.append_assoc]
  exact Protobuf.field_of_value hpos (by omega) (uint_tag hnum (by omega) _) hvalue

/-- A field of wire type 0. -/
theorem field_encodeVarint {fieldNum : Nat} (hpos : 1 ≤ fieldNum) (hnum : fieldNum < 2 ^ 29) {n : Nat}
    (hn : n < 2 ^ 64) (rest : List UInt8) :
    Protobuf.field (encodeVarint (fieldNum * 8 + 0) ++ (encodeVarint n ++ rest)) =
      some (⟨fieldNum, .varint n⟩, rest) := by
  have hvalue : Protobuf.value 0 (encodeVarint n ++ rest) = some (.varint n, rest) := by
    rw [Protobuf.value, uint_encodeVarint (by omega) hn]
    rfl
  exact Protobuf.field_of_value hpos (by omega) (uint_tag hnum (by omega) _) hvalue

/-- A field with a message that has one number in it. -/
theorem message_number {fieldNum : Nat} (hpos : 1 ≤ fieldNum) (hnum : fieldNum < 2 ^ 29) (n : UInt32) :
    Protobuf.message (encodeVarint (fieldNum * 8 + 0) ++ encodeVarint n.toNat) =
      some [⟨fieldNum, .varint n.toNat⟩] := by
  have hn := n.toNat_lt
  have hfield := field_encodeVarint hpos hnum (n := n.toNat) (by omega) []
  rw [List.append_nil] at hfield
  exact Protobuf.message_singleton hfield

theorem length_number {fieldNum : Nat} (hnum : fieldNum < 2 ^ 29) (n : UInt32) :
    (encodeVarint (fieldNum * 8 + 0) ++ encodeVarint n.toNat).length < 2 ^ 64 := by
  have hn := n.toNat_lt
  have htag : fieldNum * 8 + 0 < 128 ^ (4 + 1) := by omega
  have hvalue : n.toNat < 128 ^ (4 + 1) := by omega
  have htagLength := length_encodeVarint htag
  have hvalueLength := length_encodeVarint hvalue
  rw [List.length_append]
  omega

theorem message_encodeBytes {fieldNum : Nat} (hpos : 1 ≤ fieldNum) (hnum : fieldNum < 2 ^ 29)
    {bytes : List UInt8} (hsize : bytes.length < 2 ^ 64) :
    Protobuf.message (encodeBytes fieldNum bytes) = some [⟨fieldNum, .len bytes⟩] := by
  have hfield := field_encodeBytes hpos hnum hsize []
  rw [List.append_nil] at hfield
  exact Protobuf.message_singleton hfield

/-- The payloads are messages with exactly these fields. The length of a token is a `usize`. -/
theorem message_commands {token : String} (htoken : (Rust.utf8 token.toList).length < 2 ^ 64) :
    (∀ mode : UInt32, ∃ sub, Protobuf.message (encodeSetMode mode token) =
        some [⟨3, .len sub⟩, ⟨6, .len (Rust.utf8 token.toList)⟩] ∧
      Protobuf.message sub = some [⟨4, .varint mode.toNat⟩]) ∧
    (∀ quality : UInt32, ∃ sub, Protobuf.message (encodeSetQuality quality token) =
        some [⟨4, .len []⟩, ⟨6, .len (Rust.utf8 token.toList)⟩, ⟨8, .len sub⟩] ∧
      Protobuf.message sub = some [⟨1, .varint quality.toNat⟩]) ∧
    ∀ fieldNum : UInt32, 1 ≤ fieldNum.toNat → fieldNum.toNat < 2 ^ 29 →
      Protobuf.message (encodeCameraTrigger fieldNum token) =
        some [⟨fieldNum.toNat, .varint 1⟩, ⟨11, .len (Rust.utf8 token.toList)⟩] := by
  refine ⟨fun mode => ?_, fun quality => ?_, fun fieldNum hpos hnum => ?_⟩
  · refine ⟨_, ?_, message_number (by omega) (by omega) mode⟩
    rw [encodeSetMode, Protobuf.message_of_field (field_encodeBytes (by omega) (by omega)
      (length_number (by omega) mode) _), message_encodeBytes (by omega) (by omega) htoken]
    rfl
  · refine ⟨_, ?_, message_number (by omega) (by omega) quality⟩
    have hempty : encodeVarint (4 * 8 + 2) ++ encodeVarint 0 = encodeBytes 4 [] := by
      rw [encodeBytes, List.append_nil]
      rfl
    have hone : (1 : Nat) < 2 ^ 29 := by omega
    have hsub := message_encodeBytes (by omega : 1 ≤ 8) (by omega) (length_number hone quality)
    rw [encodeSetQuality, hempty, List.append_assoc,
      Protobuf.message_of_field (field_encodeBytes (by omega) (by omega) (by simp) _),
      Protobuf.message_of_field (field_encodeBytes (by omega) (by omega) htoken _), hsub]
    rfl
  · have htag : (fieldNum <<< 3).toNat = fieldNum.toNat * 8 + 0 := by
      rw [UInt32.toNat_shiftLeft]
      simp [Nat.shiftLeft_eq]
      omega
    rw [encodeCameraTrigger, htag, List.append_assoc,
      Protobuf.message_of_field (field_encodeVarint hpos hnum (by omega) _),
      message_encodeBytes (by omega) (by omega) htoken]
    rfl

/-- The captured payloads. -/
theorem message_commands_captured :
    (∃ sub, Protobuf.message (encodeSetMode 1 "I47hvQfXx6SOPWD4bO00") =
        some [⟨3, .len sub⟩, ⟨6, .len (Rust.utf8 "I47hvQfXx6SOPWD4bO00".toList)⟩] ∧
      Protobuf.message sub = some [⟨4, .varint 1⟩]) ∧
    (∃ sub, Protobuf.message (encodeSetQuality 3 "I47hvQfXx6SOPWD4bO00") =
        some [⟨4, .len []⟩, ⟨6, .len (Rust.utf8 "I47hvQfXx6SOPWD4bO00".toList)⟩, ⟨8, .len sub⟩] ∧
      Protobuf.message sub = some [⟨1, .varint 3⟩]) ∧
    Protobuf.message (encodeCameraTrigger 9 "I47hvQfXx6SOPWD4bO00") =
      some [⟨9, .varint 1⟩, ⟨11, .len (Rust.utf8 "I47hvQfXx6SOPWD4bO00".toList)⟩] := by
  have htoken : (Rust.utf8 "I47hvQfXx6SOPWD4bO00".toList).length < 2 ^ 64 := by decide +kernel
  obtain ⟨hmode, hquality, htrigger⟩ := message_commands htoken
  exact ⟨hmode 1, hquality 3, htrigger 9 (by decide) (by decide)⟩

end Buddy3dProxy.Prusa
