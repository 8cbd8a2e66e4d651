import Mathlib.Data.List.Basic

/-!
# Numbered maps

Hash maps that are filled under the numbers 0, 1, 2 and so on, each entry under the size the map has
when it is inserted.
-/

namespace Rust

variable {α : Type*}

/-- The `len() as u32` of a map. -/
def len (m : Std.HashMap UInt32 α) : UInt32 := UInt32.ofNat m.size

/-- The map has exactly the keys `0, .., xs.length - 1`, and under each of them the element of `xs`
there. -/
structure Numbered (m : Std.HashMap UInt32 α) (xs : List α) : Prop where
  size : m.size = xs.length
  getElem? : ∀ k : UInt32, m[k]? = xs[k.toNat]?

namespace Numbered

variable {m : Std.HashMap UInt32 α} {xs : List α}

theorem empty : Numbered (∅ : Std.HashMap UInt32 α) [] where
  size := by simp
  getElem? := by simp

theorem mem_iff (h : Numbered m xs) (k : UInt32) : k ∈ m ↔ k.toNat < m.size := by
  rw [Std.HashMap.mem_iff_isSome_getElem?, h.getElem?, h.size]
  simp

theorem toNat_len (h : Numbered m xs) (hsize : xs.length < 4294967296) :
    (len m).toNat = xs.length := by
  rw [len, UInt32.toNat_ofNat', h.size]
  omega

/-- The next entry comes under the size. -/
theorem insert (h : Numbered m xs) (hsize : xs.length < 4294967296) (x : α) :
    Numbered (m.insert (len m) x) (xs ++ [x]) where
  size := by
    have hnew : len m ∉ m := by
      rw [h.mem_iff, h.toNat_len hsize, h.size]
      omega
    rw [Std.HashMap.size_insert, if_neg hnew, h.size, List.length_append, List.length_singleton]
  getElem? := by
    intro k
    have hlen := h.toNat_len hsize
    rw [Std.HashMap.getElem?_insert]
    by_cases hk : len m = k
    · subst hk
      simp [hlen]
    · have hne : k.toNat ≠ xs.length := by
        rw [← hlen]
        exact fun heq => hk (UInt32.toNat_inj.mp heq).symm
      rw [if_neg (by simpa using hk), h.getElem?]
      by_cases hlt : k.toNat < xs.length
      · rw [List.getElem?_append_left hlt]
      · have hend : (xs ++ [x]).length ≤ k.toNat := by
          rw [List.length_append, List.length_singleton]
          omega
        rw [List.getElem?_eq_none (by omega), List.getElem?_eq_none hend]

/-- Every number below the size is found. -/
theorem map_getElem? (h : Numbered m xs) (hsize : xs.length < 4294967296) :
    ((List.range xs.length).map fun i => m[UInt32.ofNat i]?) = xs.map some := by
  apply List.ext_getElem
  · simp
  · intro i hi hi'
    have hlt : i < xs.length := by simpa using hi
    have hnum : (UInt32.ofNat i).toNat = i := by
      rw [UInt32.toNat_ofNat']
      omega
    rw [List.getElem_map, List.getElem_range, List.getElem_map, h.getElem?, hnum,
      List.getElem?_eq_getElem hlt]

end Numbered

end Rust
