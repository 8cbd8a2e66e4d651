/-!
# Logs

A log lists what happened in a run, oldest first. `OnLog P log` says of every entry what `P` says of
it and the entries before it.
-/

namespace Transition

variable {α : Type _} {P : List α → α → Prop} {log : List α}

/-- Every entry `x` of the log has `P pre x`, where `pre` lists the entries before it. -/
def OnLog (P : List α → α → Prop) (log : List α) : Prop :=
  ∀ pre x post, log = pre ++ x :: post → P pre x

theorem OnLog.nil : OnLog P [] := by simp [OnLog]

/-- A log is extended by an entry that fits what came before. -/
theorem OnLog.snoc (h : OnLog P log) {x : α} (hx : P log x) : OnLog P (log ++ [x]) := by
  intro pre y post heq
  rcases List.eq_nil_or_concat post with rfl | ⟨post', z, rfl⟩
  · obtain ⟨rfl, hyx⟩ := List.append_inj' heq (by simp)
    cases hyx
    exact hx
  · have hsplit : log ++ [x] = (pre ++ y :: post') ++ [z] := by simpa using heq
    exact h pre y post' (List.append_inj' hsplit (by simp)).1

/-- It is extended by entries that fit whatever comes right before them. -/
theorem OnLog.append (h : OnLog P log) {more : List α} (hmore : ∀ x ∈ more, ∀ mid, P (log ++ mid) x) :
    OnLog P (log ++ more) := by
  induction more generalizing log with
  | nil => simpa using h
  | cons x more ih =>
    have hx : OnLog P (log ++ [x]) := h.snoc (by simpa using hmore x (by simp) [])
    have hrest : ∀ y ∈ more, ∀ mid, P (log ++ [x] ++ mid) y := by
      intro y hy mid
      simpa using hmore y (by simp [hy]) (x :: mid)
    simpa using ih hx hrest

end Transition
