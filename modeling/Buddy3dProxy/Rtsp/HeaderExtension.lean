import Buddy3dProxy.Rtsp.Forward

/-!
# The length of a header extension

`header_to_bytes` declares the length of the extension it writes. What it declares and what it writes,
and where a receiver that goes by the declaration looks for the payload.
-/

namespace Buddy3dProxy.Rtsp

/-- The payload of a packet as RFC 3550 lays it out: behind the fixed header, the CSRCs it counts and
the extension it declares. -/
def payloadBytes : List UInt8 → Option (List UInt8)
  | b0 :: _ :: _ :: _ :: _ :: _ :: _ :: _ :: _ :: _ :: _ :: _ :: rest => do
    let (_, rest) ← readCsrc (b0 &&& 0x0F).toNat rest
    if b0 &&& 0x10 ≠ 0 then skipExtension rest else some rest
  | _ => none

/-- The length after the extension profile of a header with `n` CSRCs. -/
def declaredWords (n : Nat) (bytes : List UInt8) : Option Nat :=
  match bytes.drop (12 + 4 * n + 2) with
  | a :: b :: _ => some (Rust.u16FromBe a b)
  | _ => none

/-- The extension data of a header with `n` CSRCs. -/
def extensionData (n : Nat) (bytes : List UInt8) : List UInt8 := bytes.drop (12 + 4 * n + 4)

/-- The declared length is that of the data, and a receiver finds every payload where it begins. -/
structure Header.DeclaresExtension (h : Header) : Prop where
  words : ∃ w, declaredWords h.csrc.length (headerToBytes h) = some w ∧
    (extensionData h.csrc.length (headerToBytes h)).length = 4 * w
  payload : ∀ payload, payloadBytes (headerToBytes h ++ payload) = some payload

/-! ## What is written -/

/-- The words of an element as it is written: id, length and payload. -/
def Extension.words (e : Extension) : Nat := (2 + e.payload.length + 3) / 4

/-- The words that `header_to_bytes` counts for an element. -/
def Extension.counted (e : Extension) : Nat := (e.payload.length + 1 + 3) / 4

def Extension.bytes (e : Extension) : List UInt8 :=
  padTo4 ([e.id, UInt8.ofNat e.payload.length] ++ e.payload)

theorem Extension.length_bytes (e : Extension) : e.bytes.length = 4 * e.words := by
  simp only [bytes, words, padTo4, List.length_append, List.length_replicate, List.length_cons,
    List.length_nil]
  omega

/-- At most one word is missing in the count, for payloads that leave a remainder of 3. -/
theorem Extension.counted_le (e : Extension) : e.counted ≤ e.words := by
  unfold counted words
  omega

theorem Extension.counted_eq_iff (e : Extension) : e.counted = e.words ↔ e.payload.length % 4 ≠ 3 := by
  unfold counted words
  omega

theorem pushExtension_of_aligned {buf : List UInt8} (h : buf.length % 4 = 0) (e : Extension) :
    pushExtension buf e = buf ++ e.bytes := by
  have hpad : (buf ++ [e.id, UInt8.ofNat e.payload.length] ++ e.payload).length % 4 =
      ([e.id, UInt8.ofNat e.payload.length] ++ e.payload).length % 4 := by
    simp only [List.length_append]
    omega
  unfold pushExtension Extension.bytes padTo4
  rw [hpad]
  simp

theorem foldl_pushExtension {buf : List UInt8} (h : buf.length % 4 = 0) (es : List Extension) :
    es.foldl pushExtension buf = buf ++ es.flatMap Extension.bytes := by
  induction es generalizing buf with
  | nil => simp
  | cons e es ih =>
    have hnext : (buf ++ e.bytes).length % 4 = 0 := by
      rw [List.length_append, e.length_bytes]
      omega
    rw [List.foldl_cons, pushExtension_of_aligned h, ih hnext, List.flatMap_cons, List.append_assoc]

theorem length_flatMap_bytes (es : List Extension) :
    (es.flatMap Extension.bytes).length = 4 * (es.map Extension.words).sum := by
  induction es with
  | nil => rfl
  | cons e es ih =>
    rw [List.flatMap_cons, List.length_append, e.length_bytes, ih, List.map_cons, List.sum_cons]
    omega

theorem sum_counted_le (es : List Extension) :
    (es.map Extension.counted).sum ≤ (es.map Extension.words).sum := by
  induction es with
  | nil => exact Nat.le_refl _
  | cons e es ih =>
    have he := e.counted_le
    simp only [List.map_cons, List.sum_cons]
    omega

/-- The counts add up exactly when each of them is right. -/
theorem sum_counted_eq_iff (es : List Extension) :
    (es.map Extension.counted).sum = (es.map Extension.words).sum ↔
      ∀ e ∈ es, e.payload.length % 4 ≠ 3 := by
  induction es with
  | nil => simp
  | cons e es ih =>
    have he := e.counted_le
    have hes := sum_counted_le es
    simp only [List.map_cons, List.sum_cons, List.forall_mem_cons, ← ih, ← e.counted_eq_iff]
    omega

theorem length_flatMap_be32 (csrc : List UInt32) : (csrc.flatMap be32).length = 4 * csrc.length := by
  induction csrc with
  | nil => rfl
  | cons x xs ih =>
    rw [List.flatMap_cons, List.length_append, ih]
    simp only [be32, List.length_cons, List.length_nil]
    omega

/-- The header up to the extension profile. -/
def Header.fixed (h : Header) : List UInt8 :=
  [firstByte h, secondByte h] ++ be16 h.sequenceNumber ++ be32 h.timestamp ++ be32 h.ssrc ++
    h.csrc.flatMap be32 ++ be16 h.extensionProfile

theorem Header.length_fixed (h : Header) : h.fixed.length = 12 + 4 * h.csrc.length + 2 := by
  simp only [fixed, List.length_append, length_flatMap_be32, be16, be32, List.length_cons,
    List.length_nil]

/-- The bytes of a header with an extension, part by part. -/
theorem headerToBytes_extension {h : Header} (hx : h.extension = true) :
    headerToBytes h =
      h.fixed ++ (be16 (UInt16.ofNat (h.extensions.map Extension.counted).sum) ++
        h.extensions.flatMap Extension.bytes) := by
  have hcounted : (fun e : Extension => (e.payload.length + 1 + 3) / 4) = Extension.counted := rfl
  unfold headerToBytes
  rw [if_pos hx, foldl_pushExtension, hcounted]
  · simp [Header.fixed]
  · simp only [List.length_append, length_flatMap_be32, be16, be32, List.length_cons,
      List.length_nil]
    omega

/-! ## What is read -/

theorem declaredWords_headerToBytes {h : Header} (hx : h.extension = true)
    (hsize : (h.extensions.map Extension.words).sum < 65536) :
    declaredWords h.csrc.length (headerToBytes h) = some (h.extensions.map Extension.counted).sum := by
  have hle := sum_counted_le h.extensions
  have hcount : (UInt16.ofNat (h.extensions.map Extension.counted).sum).toNat =
      (h.extensions.map Extension.counted).sum := by
    rw [UInt16.toNat_ofNat']
    omega
  unfold declaredWords
  rw [headerToBytes_extension hx, List.drop_left' h.length_fixed]
  show some (Rust.u16FromBe _ _) = _
  rw [u16FromBe_be16, hcount]

theorem extensionData_headerToBytes {h : Header} (hx : h.extension = true) :
    extensionData h.csrc.length (headerToBytes h) = h.extensions.flatMap Extension.bytes := by
  have hlen : ∀ x : UInt16, (h.fixed ++ be16 x).length = 12 + 4 * h.csrc.length + 4 := by
    intro x
    rw [List.length_append, h.length_fixed]
    rfl
  unfold extensionData
  rw [headerToBytes_extension hx, ← List.append_assoc, List.drop_left' (hlen _)]

/-- Whatever its version and padding flag, the first byte counts the CSRCs and flags the extension. -/
theorem firstByte_extension {h : Header} (hx : h.extension = true) (hc : h.csrc.length ≤ 15) :
    (firstByte h &&& 0x0F).toNat = h.csrc.length ∧ firstByte h &&& 0x10 ≠ 0 := by
  have key : ∀ (v : Fin 4) (n : Fin 16) (padding : Bool),
      let b := (UInt8.ofNat v <<< 6) ||| (if padding then (0x20 : UInt8) else 0) ||| 0x10 |||
        (UInt8.ofNat n &&& 0x0F)
      (b &&& 0x0F).toNat = n ∧ b &&& 0x10 ≠ 0 := by
    decide
  have hversion : ∀ x : UInt8, ∃ v : Fin 4, x &&& 0x3 = UInt8.ofNat v :=
    Rust.forall_uint8 (p := fun x => ∃ v : Fin 4, x &&& 0x3 = UInt8.ofNat v) (by decide)
  obtain ⟨v, hv⟩ := hversion h.version
  simpa [firstByte, hx, hv] using key v ⟨h.csrc.length, by omega⟩ h.padding

/-- A receiver skips as many words as are counted. -/
theorem payloadBytes_headerToBytes {h : Header} (hx : h.extension = true) (hc : h.csrc.length ≤ 15)
    (hsize : (h.extensions.map Extension.words).sum < 65536) (payload : List UInt8) :
    payloadBytes (headerToBytes h ++ payload) =
      some ((h.extensions.flatMap Extension.bytes ++ payload).drop
        (4 * (h.extensions.map Extension.counted).sum)) := by
  obtain ⟨hcount, hflag⟩ := firstByte_extension hx hc
  have hle := sum_counted_le h.extensions
  have hlen := length_flatMap_bytes h.extensions
  have hwords : (UInt16.ofNat (h.extensions.map Extension.counted).sum).toNat =
      (h.extensions.map Extension.counted).sum := by
    rw [UInt16.toNat_ofNat']
    omega
  have hfits : 4 * (h.extensions.map Extension.counted).sum ≤
      (h.extensions.flatMap Extension.bytes ++ payload).length := by
    rw [List.length_append]
    omega
  rw [headerToBytes_extension hx]
  simp only [Header.fixed, be16, be32, List.cons_append, List.nil_append, List.append_assoc,
    payloadBytes, hcount]
  rw [show List.flatMap (fun x : UInt32 => be32 x) h.csrc = h.csrc.flatMap be32 from rfl,
    readCsrc_be32]
  simp only [Option.bind_eq_bind, Option.bind_some, if_pos hflag, skipExtension, u16FromBe_be16,
    hwords, if_pos hfits]

/-- The length declared is that of the extension data, and receivers find every payload, exactly when
no element has a payload whose length leaves a remainder of 3 modulo 4. -/
theorem declaresExtension_iff {h : Header} (hx : h.extension = true) (hc : h.csrc.length ≤ 15)
    (hsize : (h.extensions.map Extension.words).sum < 65536) :
    h.DeclaresExtension ↔ ∀ e ∈ h.extensions, e.payload.length % 4 ≠ 3 := by
  rw [← sum_counted_eq_iff]
  constructor
  · rintro ⟨⟨w, hw, hlen⟩, -⟩
    rw [declaredWords_headerToBytes hx hsize, Option.some.injEq] at hw
    rw [extensionData_headerToBytes hx, length_flatMap_bytes] at hlen
    omega
  · intro hsum
    refine ⟨⟨_, declaredWords_headerToBytes hx hsize, ?_⟩, ?_⟩
    · rw [extensionData_headerToBytes hx, length_flatMap_bytes, hsum]
    · intro payload
      rw [payloadBytes_headerToBytes hx hc hsize, hsum, ← length_flatMap_bytes, List.drop_left]

/-- The header of a keyframe packet that carries the given extension elements. -/
def Header.withExtensions (es : List Extension) : Header where
  version := 2
  padding := false
  extension := true
  marker := true
  payloadType := 96
  sequenceNumber := 1
  timestamp := 90000
  ssrc := 0x1234
  csrc := []
  extensionProfile := 0x1000
  extensions := es

/-- An element of one byte and one of two. -/
theorem declaresExtension_iff_two :
    (Header.withExtensions [⟨1, [0x10]⟩, ⟨2, [0x20, 0x21]⟩]).DeclaresExtension := by
  have hcsrc : (Header.withExtensions [⟨1, [0x10]⟩, ⟨2, [0x20, 0x21]⟩]).csrc.length ≤ 15 := by decide
  have hsize : (([⟨1, [0x10]⟩, ⟨2, [0x20, 0x21]⟩] : List Extension).map Extension.words).sum < 65536 := by
    decide
  have hlen : ∀ e ∈ ([⟨1, [0x10]⟩, ⟨2, [0x20, 0x21]⟩] : List Extension), e.payload.length % 4 ≠ 3 := by
    decide
  exact (declaresExtension_iff rfl hcsrc hsize).mpr hlen

/-- An element of three bytes takes two words and is declared as one: the receiver takes its last byte
and the zeros after it for payload. -/
theorem not_declaresExtension_three :
    ¬ (Header.withExtensions [⟨1, [0xA0, 0xA1, 0xA2]⟩]).DeclaresExtension := by
  rintro ⟨-, hpayload⟩
  have h := hpayload [0x65]
  revert h
  decide

end Buddy3dProxy.Rtsp
