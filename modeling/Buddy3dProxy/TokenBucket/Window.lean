import Mathlib.Data.Nat.Basic

/-!
# Spending in a window

An account whose balance grows by at most one per tick, and from which something is spent only with at
most `limit` in it. In every window as much is spent as the limit, the length of the window and what is
earned in it allow, however the account was used before.
-/

namespace TokenBucket

/-- What is spent and earned at one instant, in units of some price. -/
structure Entry where
  time : Nat
  spent : Nat
  earned : Nat
  deriving DecidableEq, Repr

namespace Entry

variable (s t : Nat)

/-- The units spent from `s` to `t`. -/
def spentIn : List Entry → Nat
  | [] => 0
  | e :: rest => (if s ≤ e.time ∧ e.time ≤ t then e.spent else 0) + spentIn rest

/-- The units earned from `s` to `t`. -/
def earnedIn : List Entry → Nat
  | [] => 0
  | e :: rest => (if s ≤ e.time ∧ e.time ≤ t then e.earned else 0) + earnedIn rest

end Entry

/-- `Paced limit price last balance entries`: the account has `balance` at `last`, and the entries after
it are paid for. Each begins with a balance `before` and ends with a balance `after`. -/
inductive Paced (limit price : Nat) : Nat → Nat → List Entry → Prop where
  | nil (last balance : Nat) : Paced limit price last balance []
  | cons {last balance : Nat} {e : Entry} {rest : List Entry} (before after : Nat)
      (htime : last ≤ e.time) (hgrows : before ≤ balance + (e.time - last))
      (hlimit : 0 < e.spent → before ≤ limit)
      (hpaid : after + price * e.spent ≤ before + price * e.earned)
      (hrest : Paced limit price e.time after rest) : Paced limit price last balance (e :: rest)

namespace Paced

variable {limit price last balance : Nat} {entries : List Entry}

theorem spentIn_of_lt (h : Paced limit price last balance entries) {s t : Nat} (hlate : t < last) :
    Entry.spentIn s t entries = 0 := by
  induction h with
  | nil => rfl
  | cons before after htime hgrows hlimit hpaid hrest ih =>
    rw [Entry.spentIn, if_neg (by omega), ih (by omega)]

/-- From an instant in the window on, the balance and the rest of the window pay for what is spent. -/
theorem spentIn_le_balance (h : Paced limit price last balance entries) {s t : Nat} (hs : s ≤ last)
    (ht : last ≤ t) :
    price * Entry.spentIn s t entries ≤
      balance + (t - last) + price * Entry.earnedIn s t entries := by
  induction h with
  | nil => exact Nat.le_add_left 0 _
  | @cons last balance e rest before after htime hgrows hlimit hpaid hrest ih =>
    unfold Entry.spentIn Entry.earnedIn
    by_cases hin : e.time ≤ t
    · have hle := ih (by omega) hin
      rw [if_pos ⟨by omega, hin⟩, if_pos ⟨by omega, hin⟩, Nat.mul_add, Nat.mul_add]
      omega
    · rw [if_neg (by omega), hrest.spentIn_of_lt (by omega), Nat.add_zero, Nat.mul_zero]
      exact Nat.zero_le _

/-- What was left before the window is at most the limit when the first unit in it is spent. -/
theorem spentIn_le (h : Paced limit price last balance entries) (s t : Nat) :
    price * Entry.spentIn s t entries ≤
      limit + (t - s) + price * Entry.earnedIn s t entries := by
  induction h with
  | nil => exact Nat.le_add_left 0 _
  | @cons last balance e rest before after htime hgrows hlimit hpaid hrest ih =>
    unfold Entry.spentIn Entry.earnedIn
    by_cases hin : s ≤ e.time ∧ e.time ≤ t
    · rw [if_pos hin, if_pos hin, Nat.mul_add, Nat.mul_add]
      rcases Nat.eq_zero_or_pos e.spent with hzero | hpos
      · rw [hzero, Nat.mul_zero]
        omega
      · have hbefore := hlimit hpos
        have hle := hrest.spentIn_le_balance hin.1 hin.2
        omega
    · rw [if_neg hin, if_neg hin, Nat.zero_add, Nat.zero_add]
      exact ih

/-- The bound in whole units, for a limit of `capacity` units. -/
theorem spentIn_le_div {capacity : Nat} (h : Paced (capacity * price) price last balance entries)
    (hprice : 0 < price) (s t : Nat) :
    Entry.spentIn s t entries ≤ capacity + Entry.earnedIn s t entries + (t - s) / price := by
  have hle := h.spentIn_le s t
  have hrest : Entry.spentIn s t entries - (capacity + Entry.earnedIn s t entries) ≤
      (t - s) / price := by
    rw [Nat.le_div_iff_mul_le hprice, Nat.sub_mul, Nat.add_mul, Nat.mul_comm _ price,
      Nat.mul_comm (Entry.earnedIn s t entries)]
    omega
  omega

end Paced

end TokenBucket
