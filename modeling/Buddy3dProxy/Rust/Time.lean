import Mathlib.Algebra.Order.Ring.Rat
import Mathlib.Tactic.Linarith

/-!
# Times

`Duration` and `SystemTime`, both in nanoseconds, the latter since the UNIX epoch.
-/

namespace Rust

abbrev Duration := Nat

abbrev SystemTime := Int

/-- `Duration::from_secs`. -/
def Duration.fromSecs (secs : Nat) : Duration := secs * 1000000000

/-- `Duration::as_secs`. -/
def Duration.asSecs (d : Duration) : Nat := d / 1000000000

/-- `Duration::from_secs_f64`, which rounds to the nearest nanosecond, a tie to the even one. It panics
(`none`) on a negative number and where the seconds do not fit into a `u64`. -/
def Duration.fromSecsF64 (secs : Rat) : Option Duration :=
  let nanos := secs * 1000000000
  let below := nanos.floor.toNat
  let rest := nanos - below
  let rounded := if rest < 1 / 2 ∨ (rest = 1 / 2 ∧ below % 2 = 0) then below else below + 1
  if 0 ≤ secs ∧ rounded < 18446744073709551616 * 1000000000 then some rounded else none

/-- Adding a duration to a time. It panics (`none`) where the seconds do not fit into an `i64`. -/
def SystemTime.add (t : SystemTime) (d : Duration) : Option SystemTime :=
  if t + d < 9223372036854775808 * 1000000000 then some (t + d) else none

/-- The whole seconds since the epoch: `duration_since(UNIX_EPOCH).unwrap_or_default().as_secs()`. -/
def SystemTime.secsSinceEpoch (t : SystemTime) : Nat := t.toNat / 1000000000

/-! ## What does not panic -/

/-- A number of nanoseconds is rounded to less than an even number if and only if it is less by more than
a half. -/
theorem Duration.rounded_lt_iff {nanos : Rat} (hpos : 0 ≤ nanos) {n : Nat} (hn : n % 2 = 0) :
    (if nanos - (nanos.floor.toNat : Rat) < 1 / 2 ∨
        (nanos - (nanos.floor.toNat : Rat) = 1 / 2 ∧ nanos.floor.toNat % 2 = 0)
      then nanos.floor.toNat else nanos.floor.toNat + 1) < n ↔ nanos < n - 1 / 2 := by
  have hfloor : 0 ≤ nanos.floor := Rat.le_floor_iff.mpr hpos
  have hcast : ((nanos.floor.toNat : Int) : Rat) = nanos.floor := by rw [Int.toNat_of_nonneg hfloor]
  have hle : (nanos.floor.toNat : Rat) ≤ nanos := by
    have h := Rat.floor_le nanos
    rw [← hcast] at h
    exact_mod_cast h
  have hlt : nanos < (nanos.floor.toNat : Rat) + 1 := by
    have h := Rat.lt_floor_add_one nanos
    rw [Int.cast_add, ← hcast] at h
    exact_mod_cast h
  generalize nanos.floor.toNat = below at hle hlt ⊢
  constructor
  · intro hround
    split at hround
    · rename_i hdown
      rcases Nat.lt_or_ge (below + 1) n with hmore | hlast
      · have hcast' : (below : Rat) + 2 ≤ n := by exact_mod_cast hmore
        linarith
      · -- the last number below `n` is odd, so only less than half a nanosecond is rounded off
        have hn' : (below : Rat) + 1 = n := by exact_mod_cast (by omega : below + 1 = n)
        rcases hdown with hhalf | ⟨-, heven⟩
        · linarith
        · omega
    · have hcast' : (below : Rat) + 2 ≤ n := by exact_mod_cast hround
      linarith
  · intro hnanos
    split
    · have hcast' : (below : Rat) < n := by linarith
      exact_mod_cast hcast'
    · rename_i hup
      have hhalf : 1 / 2 ≤ nanos - below := not_lt.mp fun h => hup (.inl h)
      have hcast' : (below : Rat) + 1 < n := by linarith
      exact_mod_cast hcast'

theorem SystemTime.add_epoch_isSome (d : Nat) :
    (SystemTime.add 0 d).isSome ↔ d < 9223372036854775808 * 1000000000 := by
  have hcast : (0 : Int) + (d : Int) < 9223372036854775808 * 1000000000 ↔
      d < 9223372036854775808 * 1000000000 := by omega
  unfold SystemTime.add
  by_cases hd : d < 9223372036854775808 * 1000000000
  · rw [if_pos (hcast.mpr hd)]
    exact ⟨fun _ => hd, fun _ => rfl⟩
  · rw [if_neg (fun h => hd (hcast.mp h))]
    exact ⟨fun h => absurd h Bool.false_ne_true, fun h => absurd h hd⟩

/-- A number of seconds becomes a time if and only if it is not negative and its nanoseconds, rounded,
are less than 2^63 seconds. -/
theorem fromSecsF64_add_isSome (secs : Rat) :
    ((Duration.fromSecsF64 secs).bind (SystemTime.add 0)).isSome ↔
      0 ≤ secs ∧ secs * 1000000000 < 9223372036854775808 * 1000000000 - 1 / 2 := by
  by_cases hsecs : 0 ≤ secs
  · have hnanos : 0 ≤ secs * 1000000000 := mul_nonneg hsecs (by norm_num)
    have hround := Duration.rounded_lt_iff hnanos (n := 9223372036854775808 * 1000000000) (by norm_num)
    have hlimit : ((9223372036854775808 * 1000000000 : Nat) : Rat) = 9223372036854775808 * 1000000000 := by
      norm_num
    rw [hlimit] at hround
    simp only [hsecs, true_and]
    rw [← hround]
    simp only [Duration.fromSecsF64, hsecs, true_and]
    generalize (if secs * 1000000000 - ((secs * 1000000000).floor.toNat : Rat) < 1 / 2 ∨
        (secs * 1000000000 - ((secs * 1000000000).floor.toNat : Rat) = 1 / 2 ∧
          (secs * 1000000000).floor.toNat % 2 = 0)
      then (secs * 1000000000).floor.toNat else (secs * 1000000000).floor.toNat + 1) = rounded
    by_cases hfits : rounded < 18446744073709551616 * 1000000000
    · rw [if_pos hfits, Option.bind_some]
      exact SystemTime.add_epoch_isSome rounded
    · rw [if_neg hfits, Option.bind_none]
      simp only [Option.isSome_none, Bool.false_eq_true, false_iff]
      omega
  · simp [Duration.fromSecsF64, hsecs]

theorem fromSecs_add_isSome (secs : Nat) :
    (SystemTime.add 0 (.fromSecs secs)).isSome ↔ secs < 9223372036854775808 := by
  rw [SystemTime.add_epoch_isSome]
  exact Nat.mul_lt_mul_right (by decide)

end Rust
