/-!
# Big-endian numbers

What `from_be_bytes` reads.
-/

namespace Rust

/-- `u16::from_be_bytes`. -/
def u16FromBe (a b : UInt8) : Nat := 256 * a.toNat + b.toNat

/-- `u32::from_be_bytes`. -/
def u32FromBe (a b c d : UInt8) : Nat := 65536 * u16FromBe a b + u16FromBe c d

theorem u16FromBe_ofNat {n : Nat} (h : n < 65536) :
    u16FromBe (UInt8.ofNat (n / 256)) (UInt8.ofNat n) = n := by
  simp only [u16FromBe, UInt8.toNat_ofNat']
  omega

/-- A property of bytes is one of eight-bit vectors, where it can be decided. -/
theorem forall_uint8 {p : UInt8 → Prop} (h : ∀ b : BitVec 8, p ⟨b⟩) (x : UInt8) : p x := h x.toBitVec

end Rust
