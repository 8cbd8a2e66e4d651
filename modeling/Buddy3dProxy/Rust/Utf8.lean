import Buddy3dProxy.Rust.Lines

/-!
# UTF-8

The bytes of a text. The bytes of characters other than the ASCII ones are all 128 or more, so an
ASCII pattern occurs in the bytes only where it occurs in the text.
-/

namespace Rust

/-- `as_bytes`. -/
def utf8 (s : List Char) : List UInt8 := s.flatMap String.utf8EncodeChar

/-- `str::from_utf8`. -/
def fromUtf8 (bytes : List UInt8) : Option (List Char) :=
  bytes.toByteArray.utf8Decode?.map Array.toList

theorem fromUtf8_utf8 (s : List Char) : fromUtf8 (utf8 s) = some s := by
  have hdecode : (utf8 s).toByteArray.utf8Decode? = some s.toArray :=
    List.utf8Decode?_utf8Encode
  simp [fromUtf8, hdecode]

@[simp] theorem utf8_nil : utf8 [] = [] := rfl

@[simp] theorem utf8_cons (c : Char) (s : List Char) :
    utf8 (c :: s) = String.utf8EncodeChar c ++ utf8 s := rfl

@[simp] theorem utf8_append (s t : List Char) : utf8 (s ++ t) = utf8 s ++ utf8 t := by
  simp [utf8]

theorem length_utf8_toList (s : String) : (utf8 s.toList).length = s.utf8ByteSize := by
  have hbytes : s.toByteArray = (utf8 s.toList).toByteArray := by
    conv_lhs => rw [← String.ofList_toList (s := s)]
    rfl
  rw [← String.size_toByteArray, hbytes, List.size_toByteArray]

theorem utf8EncodeChar_ascii {c : Char} (h : c.toNat < 128) :
    String.utf8EncodeChar c = [UInt8.ofNat c.toNat] := by
  have hle : c.val.toNat ≤ 0x7f := Nat.le_of_lt_succ h
  exact if_pos hle

theorem le_of_mem_utf8EncodeChar {c : Char} (h : 128 ≤ c.toNat) {b : UInt8}
    (hb : b ∈ String.utf8EncodeChar c) : 128 ≤ b.toNat := by
  have hgt : ¬ c.val.toNat ≤ 0x7f := Nat.not_le_of_lt h
  simp only [String.utf8EncodeChar, if_neg hgt] at hb
  split at hb
  · simp only [List.mem_cons, List.not_mem_nil, or_false] at hb
    rcases hb with rfl | rfl <;> simp only [UInt8.toNat_ofNat'] <;> omega
  · split at hb
    · simp only [List.mem_cons, List.not_mem_nil, or_false] at hb
      rcases hb with rfl | rfl | rfl <;> simp only [UInt8.toNat_ofNat'] <;> omega
    · simp only [List.mem_cons, List.not_mem_nil, or_false] at hb
      rcases hb with rfl | rfl | rfl | rfl <;> simp only [UInt8.toNat_ofNat'] <;> omega

section Ascii

variable {pat : List Char} (hpat : ∀ c ∈ pat, c.toNat < 128)

include hpat

theorem prefix_of_utf8 {s : List Char} (h : utf8 pat <+: utf8 s) : pat <+: s := by
  induction pat generalizing s with
  | nil => exact List.nil_prefix
  | cons c pat ih =>
    have hc : c.toNat < 128 := hpat c (by simp)
    cases s with
    | nil => simp [utf8EncodeChar_ascii hc] at h
    | cons d s =>
      rw [utf8_cons, utf8EncodeChar_ascii hc, utf8_cons] at h
      by_cases hd : d.toNat < 128
      · rw [utf8EncodeChar_ascii hd] at h
        obtain ⟨hcd, hrest⟩ := List.cons_prefix_cons.mp h
        have hnat : c.toNat = d.toNat := by
          have hbyte := congrArg UInt8.toNat hcd
          simp only [UInt8.toNat_ofNat'] at hbyte
          omega
        obtain rfl : c = d := Char.ext (UInt32.toNat_inj.mp hnat)
        exact List.cons_prefix_cons.mpr ⟨rfl, ih (fun x hx => hpat x (by simp [hx])) hrest⟩
      · obtain ⟨b, bs, hb⟩ := List.exists_cons_of_ne_nil (String.utf8EncodeChar_ne_nil (c := d))
        have hlarge := le_of_mem_utf8EncodeChar (Nat.le_of_not_lt hd) (b := b) (by simp [hb])
        rw [hb] at h
        obtain ⟨hcb, -⟩ := List.cons_prefix_cons.mp h
        rw [← hcb, UInt8.toNat_ofNat'] at hlarge
        omega

/-- An ASCII pattern in the bytes of a text is one in the text. -/
theorem infix_of_utf8 (hne : pat ≠ []) {s : List Char} (h : utf8 pat <:+: utf8 s) : pat <:+: s := by
  have hsmall : ∀ b ∈ utf8 pat, b.toNat < 128 := by
    intro b hb
    obtain ⟨c, hc, hbc⟩ := List.mem_flatMap.mp hb
    have hlt := hpat c hc
    rw [utf8EncodeChar_ascii hlt, List.mem_singleton] at hbc
    rw [hbc, UInt8.toNat_ofNat']
    omega
  have hbytes : utf8 pat ≠ [] := by
    obtain ⟨c, rest, rfl⟩ := List.exists_cons_of_ne_nil hne
    simp [String.utf8EncodeChar_ne_nil]
  induction s with
  | nil => simp [hbytes] at h
  | cons d s ih =>
    by_cases hd : d.toNat < 128
    · have hstart : utf8 (d :: s) = UInt8.ofNat d.toNat :: utf8 s := by
        rw [utf8_cons, utf8EncodeChar_ascii hd, List.singleton_append]
      rw [hstart, List.infix_cons_iff, ← hstart] at h
      rcases h with hprefix | hinfix
      · exact (prefix_of_utf8 hpat hprefix).isInfix
      · exact List.infix_cons (ih hinfix)
    · rw [utf8_cons] at h
      refine List.infix_cons (ih (infix_of_infix_append hbytes ?_ h))
      intro b hb hmem
      have hlarge := le_of_mem_utf8EncodeChar (Nat.le_of_not_lt hd) hb
      have hlt := hsmall b hmem
      omega

end Ascii

end Rust
