import Mathlib.Data.List.DropRight
import Mathlib.Data.List.Infix

/-!
# Text operations

The operations of Rust's `str` on its sequence of characters, and the search in a byte slice.
-/

namespace Rust

section Split

variable {α : Type} [DecidableEq α]

/-- `find`: the index of the first occurrence of `pat`. -/
def find (pat : List α) : List α → Option Nat
  | [] => if pat = [] then some 0 else none
  | x :: xs => if pat <+: x :: xs then some 0 else (find pat xs).map (· + 1)

/-- `split_once`: the text before the first occurrence of `c` and the text after it. -/
def splitOnce (c : α) : List α → Option (List α × List α)
  | [] => none
  | x :: xs => if x = c then some ([], xs) else (splitOnce c xs).map fun p => (x :: p.1, p.2)

/-- `rsplit_once`: the text before the last occurrence of `c` and the text after it. -/
def rsplitOnce (c : α) (s : List α) : Option (List α × List α) :=
  (splitOnce c s.reverse).map fun p => (p.2.reverse, p.1.reverse)

/-- `splitn`: at most `n` pieces, the last one being what is left. -/
def splitN : Nat → α → List α → List (List α)
  | 0, _, _ => []
  | 1, _, s => [s]
  | n + 2, c, s =>
    match splitOnce c s with
    | none => [s]
    | some (a, b) => a :: splitN (n + 1) c b

/-- The pieces of a text between the occurrences of `sep`, where the first `skip` characters belong
to an occurrence that has begun. -/
def splitFrom (sep : List α) : Nat → List α → List (List α)
  | _, [] => [[]]
  | skip + 1, _ :: xs => splitFrom sep skip xs
  | 0, x :: xs =>
    if sep <+: x :: xs then [] :: splitFrom sep (sep.length - 1) xs
    else (splitFrom sep 0 xs).modifyHead (x :: ·)

/-- `split` on a non-empty pattern. -/
def split (sep : List α) (s : List α) : List (List α) := splitFrom sep 0 s

/-- `split_inclusive`: the pieces of a text, each but perhaps the last one with the `c` at its end. -/
def splitInclusive (c : α) : List α → List (List α)
  | [] => []
  | x :: xs =>
    if x = c then [x] :: splitInclusive c xs
    else
      match splitInclusive c xs with
      | [] => [[x]]
      | piece :: rest => (x :: piece) :: rest

/-- `trim_end_matches`. -/
def trimEndMatches (c : α) (s : List α) : List α := s.rdropWhile (· = c)

/-- `trim_matches`. -/
def trimMatches (c : α) (s : List α) : List α := (s.dropWhile (· = c)).rdropWhile (· = c)

end Split

/-- What holds of all characters of a text is decided on the text, not on all characters there are. -/
instance decidableForallMem (p : Char → Prop) [DecidablePred p] (s : List Char) :
    Decidable (∀ c ∈ s, p c) :=
  List.decidableBAll p s

/-- The text of a line without its end. -/
def stripLineEnd (piece : List Char) : List Char :=
  match ['\n'].isSuffixOf? piece with
  | some line => (['\r'].isSuffixOf? line).getD line
  | none => piece

/-- `lines`. -/
def lines (s : List Char) : List (List Char) := (splitInclusive '\n' s).map stripLineEnd

/-- The Unicode property `White_Space`. -/
def isWhitespace (c : Char) : Bool :=
  let n := c.toNat
  (9 ≤ n && n ≤ 13) || n = 0x20 || n = 0x85 || n = 0xA0 || n = 0x1680 ||
    (0x2000 ≤ n && n ≤ 0x200A) || n = 0x2028 || n = 0x2029 || n = 0x202F || n = 0x205F || n = 0x3000

/-- `trim`. -/
def trim (s : List Char) : List Char := (s.dropWhile isWhitespace).rdropWhile isWhitespace

/-- `to_ascii_lowercase`. -/
def toAsciiLowercase (s : List Char) : List Char := s.map Char.toLower

/-- The value of a text of decimal digits, if it is one. -/
def digits? : List Char → Option Nat
  | [] => none
  | s => if s.all Char.isDigit then some (Nat.ofDigitChars 10 s 0) else none

/-- `parse` for an unsigned integer type with values below `size`: decimal digits, with at most one
`+` before them. -/
def parseUnsigned (size : Nat) (s : List Char) : Option Nat :=
  match digits? (if s.head? = some '+' then s.tail else s) with
  | some n => if n < size then some n else none
  | none => none

theorem parseUnsigned_lt {size n : Nat} {s : List Char} (h : parseUnsigned size s = some n) :
    n < size := by
  unfold parseUnsigned at h
  split at h
  · split at h
    · cases h
      assumption
    · cases h
  · cases h

theorem isDigit_of_mem_toDigits {n : Nat} {c : Char} (h : c ∈ Nat.toDigits 10 n) : c.isDigit = true :=
  Nat.isDigit_of_mem_toDigits (by omega) (by omega) h

/-- What is no digit does not stand in a printed number. -/
theorem not_mem_toDigits {c : Char} (hc : c.isDigit = false) (n : Nat) : c ∉ Nat.toDigits 10 n := by
  intro h
  rw [isDigit_of_mem_toDigits h] at hc
  cases hc

theorem digits?_toDigits (n : Nat) : digits? (Nat.toDigits 10 n) = some n := by
  have hdigits : ∀ c ∈ Nat.toDigits 10 n, c.isDigit = true := fun c hc => isDigit_of_mem_toDigits hc
  cases hn : Nat.toDigits 10 n with
  | nil => exact absurd hn Nat.toDigits_ne_nil
  | cons c cs =>
    simp only [digits?]
    rw [← hn, if_pos (List.all_eq_true.mpr hdigits), Nat.ofDigitChars_ten_toDigits]

/-- A printed number is parsed back. -/
theorem parseUnsigned_toDigits {n size : Nat} (h : n < size) :
    parseUnsigned size (Nat.toDigits 10 n) = some n := by
  have hplus : (Nat.toDigits 10 n).head? ≠ some '+' := by
    intro hhead
    have hplus := isDigit_of_mem_toDigits (List.mem_of_mem_head? hhead)
    simp at hplus
  simp [parseUnsigned, hplus, digits?_toDigits, h]

end Rust
