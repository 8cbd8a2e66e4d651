/-!
# Watch channels

The `tokio::sync::watch` channel of one value: a sender, any number of receivers, and a version that
grows with every value sent. `send` is refused when no receiver exists and then leaves the stored
value as it is. A receiver remembers the last version it has seen; `changed()` completes once the
current version is another one.
-/

namespace Tokio

/-- The shared state of a watch channel. -/
structure Watch (α : Type) where
  /-- The stored value. -/
  value : α
  /-- Grows with every value stored. -/
  version : Nat
  /-- The number of live receivers. -/
  receivers : Nat
  deriving DecidableEq, Repr

namespace Watch

variable {α : Type} (w : Watch α) (v : α)

/-- A new channel whose first receiver has been dropped. -/
def new : Watch α := ⟨v, 0, 0⟩

/-- `Sender::send`: without a receiver the value is handed back and nothing changes. -/
def send : Watch α :=
  if w.receivers = 0 then w else { w with value := v, version := w.version + 1 }

/-- `Sender::subscribe`. -/
def subscribe : Watch α := { w with receivers := w.receivers + 1 }

/-- A receiver is dropped. -/
def dropReceiver : Watch α := { w with receivers := w.receivers - 1 }

@[simp] theorem send_receivers : (w.send v).receivers = w.receivers := by
  unfold send; split <;> rfl

@[simp] theorem subscribe_receivers : w.subscribe.receivers = w.receivers + 1 := rfl
@[simp] theorem dropReceiver_receivers : w.dropReceiver.receivers = w.receivers - 1 := rfl

theorem send_version (h : 0 < w.receivers) : (w.send v).version = w.version + 1 := by
  unfold send; rw [if_neg (by omega)]

theorem version_le_send : w.version ≤ (w.send v).version := by
  unfold send
  split
  · exact Nat.le_refl _
  · exact Nat.le_succ _

end Watch

end Tokio
