import Mathlib.Data.List.Basic

/-!
# Broadcast channels

The `tokio::sync::broadcast` channel: every value sent reaches every receiver that exists, in the
order of the sends. The channel keeps the last `capacity` values. A receiver is the position of the
next value it will read; one that has fallen behind the retained values is told that it lagged and
moved to the oldest retained one.
-/

namespace Tokio

/-- A broadcast channel, with every value ever sent on it. -/
structure Broadcast (α : Type) where
  /-- How many values are retained. -/
  capacity : Nat
  /-- The values sent so far, oldest first. -/
  sent : List α
  deriving DecidableEq, Repr

/-- The outcome of `Receiver::recv` when it does not have to wait. -/
inductive Recv (α : Type) where
  /-- The next value. -/
  | ok (v : α)
  /-- The receiver lagged by `n` values. -/
  | lagged (n : Nat)
  deriving DecidableEq, Repr

namespace Broadcast

variable {α : Type} (b : Broadcast α)

/-- `broadcast::channel(capacity)`. -/
def channel (capacity : Nat) : Broadcast α := ⟨capacity, []⟩

/-- `Sender::send`. -/
def send (v : α) : Broadcast α := { b with sent := b.sent ++ [v] }

/-- The position of a receiver created now (`Sender::subscribe`, `Receiver::resubscribe`). -/
def tail : Nat := b.sent.length

/-- `Receiver::recv` at position `next`, with the position after it; `none` while there is nothing
to read. -/
def recv (next : Nat) : Option (Recv α × Nat) :=
  if next + b.capacity < b.sent.length then
    some (.lagged (b.sent.length - b.capacity - next), b.sent.length - b.capacity)
  else
    b.sent[next]?.map fun v => (.ok v, next + 1)

@[simp] theorem sent_send (v : α) : (b.send v).sent = b.sent ++ [v] := rfl

/-- A value that is received has been sent. -/
theorem mem_sent_of_recv {next next' : Nat} {v : α} (h : b.recv next = some (.ok v, next')) :
    v ∈ b.sent := by
  unfold recv at h
  split at h
  · simp at h
  · obtain ⟨w, hw, he⟩ := Option.map_eq_some_iff.mp h
    simp only [Prod.mk.injEq, Recv.ok.injEq] at he
    exact he.1 ▸ List.mem_of_getElem? hw

end Broadcast

end Tokio
