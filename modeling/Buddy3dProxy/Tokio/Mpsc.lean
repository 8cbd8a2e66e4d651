import Mathlib.Data.List.Basic

/-!
# Bounded channels

The `tokio::sync::mpsc` channel: a queue with a fixed number of slots. A send that finds no free slot
waits; waiting senders get the slots that become free in the order they came.
-/

namespace Tokio

/-- A channel of capacity `n`. A sender waits only while no slot is free. -/
structure Mpsc (n : Nat) (α : Type) where
  /-- The values in the slots, oldest first. -/
  queue : List α
  /-- The values of the waiting senders, in the order they came. -/
  waiting : List α
  length_le : queue.length ≤ n
  full_of_waiting : waiting ≠ [] → queue.length = n
  deriving DecidableEq, Repr

namespace Mpsc

variable {n : Nat} {α : Type} (c : Mpsc n α)

/-- `mpsc::channel(n)`. -/
def channel : Mpsc n α := ⟨[], [], Nat.zero_le _, by simp⟩

/-- Whether a slot is free, so that a send completes at once. -/
def hasRoom : Bool := c.queue.length < n

/-- `Sender::send`: the value takes a free slot, or its sender waits. -/
def send (v : α) : Mpsc n α :=
  if h : c.queue.length < n then
    ⟨c.queue ++ [v], c.waiting, by simp only [List.length_append, List.length_singleton]; omega,
      fun hw => absurd (c.full_of_waiting hw) (by omega)⟩
  else
    ⟨c.queue, c.waiting ++ [v], c.length_le, fun _ => Nat.le_antisymm c.length_le (by omega)⟩

theorem length_rest_le {v : α} {rest : List α} (hq : c.queue = v :: rest) : rest.length ≤ n := by
  have hlen := c.length_le
  rw [hq, List.length_cons] at hlen
  omega

theorem length_refill {v w : α} {rest ws : List α} (hq : c.queue = v :: rest)
    (hw : c.waiting = w :: ws) : (rest ++ [w]).length = n := by
  have hlen := c.full_of_waiting (by simp [hw])
  simpa [hq] using hlen

/-- `Receiver::recv`: the oldest value, and the channel where the first waiting sender has taken its
slot; `none` while there is nothing to receive. -/
def recv : Option (α × Mpsc n α) :=
  match hq : c.queue, hw : c.waiting with
  | [], _ => none
  | v :: rest, [] => some (v, ⟨rest, [], length_rest_le c hq, by simp⟩)
  | v :: rest, w :: ws =>
    some (v, ⟨rest ++ [w], ws, Nat.le_of_eq (length_refill c hq hw), fun _ => length_refill c hq hw⟩)

theorem recv_of_empty (h : c.queue = []) : c.recv = none := by
  unfold recv
  split
  · rfl
  · simp_all
  · simp_all

theorem queue_send_of_hasRoom {v : α} (h : c.hasRoom) : (c.send v).queue = c.queue ++ [v] := by
  have hlt : c.queue.length < n := by simpa [hasRoom] using h
  simp [send, hlt]

theorem queue_send_of_full {v : α} (h : c.queue.length = n) : (c.send v).queue = c.queue := by
  simp [send, h]

theorem length_queue_send_le (v : α) : (c.send v).queue.length ≤ c.queue.length + 1 := by
  by_cases h : c.queue.length < n <;> simp [send, h]

/-- What is sent comes after all that waits to be received. -/
theorem pending_send (v : α) : (c.send v).queue ++ (c.send v).waiting = c.queue ++ c.waiting ++ [v] := by
  by_cases h : c.queue.length < n
  · have hwaiting : c.waiting = [] := by
      by_contra hw
      exact absurd (c.full_of_waiting hw) (by omega)
    simp [send, h, hwaiting]
  · simp [send, h]

/-- What is received came first of all that waits to be received. -/
theorem pending_recv {v : α} {rest : Mpsc n α} (h : c.recv = some (v, rest)) :
    c.queue ++ c.waiting = v :: (rest.queue ++ rest.waiting) := by
  unfold recv at h
  split at h
  · cases h
  · rename_i hq hw
    obtain ⟨rfl, rfl⟩ := Prod.mk.inj (Option.some.inj h)
    simp [hq, hw]
  · rename_i hq hw
    obtain ⟨rfl, rfl⟩ := Prod.mk.inj (Option.some.inj h)
    simp [hq, hw]

end Mpsc

end Tokio
