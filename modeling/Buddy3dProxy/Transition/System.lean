import Mathlib.Logic.Relation

/-!
# Transition systems with an executable step

A system is a step function on states: `step s a = some s'` when the action `a` is enabled in `s`.
One definition serves to replay a concrete run (`run`, `runWhere`) and to prove what holds in every
reachable state (`ReachableWhere.induct`).

Runs are taken relative to a condition `ok s a` on the state before a step and the action taken:
`ReachableWhere M ok` and `PathWhere M ok` follow only steps that meet it, and `Reachable M` follows
every step.
-/

namespace Transition

/-- A transition system: an initial state and a partial step function. -/
structure System (σ α : Type*) where
  /-- The state in which every run starts. -/
  init : σ
  /-- One step; `none` when the action is not enabled. -/
  step : σ → α → Option σ

variable {σ α : Type*} {M : System σ α} {ok ok' : σ → α → Prop}

/-- The states reached by runs all of whose steps meet `ok`. -/
inductive ReachableWhere (M : System σ α) (ok : σ → α → Prop) : σ → Prop where
  /-- The initial state. -/
  | init : ReachableWhere M ok M.init
  /-- One more step that meets the condition. -/
  | step {s s' : σ} {a : α} (h : ReachableWhere M ok s) (hok : ok s a)
      (hs : M.step s a = some s') : ReachableWhere M ok s'

/-- The states reached by any run. -/
abbrev Reachable (M : System σ α) : σ → Prop := ReachableWhere M fun _ _ => True

/-- `PathWhere M ok s as s'`: the actions `as`, taken in order from `s`, lead to `s'`, and every one
of these steps meets `ok`. -/
inductive PathWhere (M : System σ α) (ok : σ → α → Prop) : σ → List α → σ → Prop where
  /-- The empty path. -/
  | nil (s : σ) : PathWhere M ok s [] s
  /-- A path extended by a last step. -/
  | snoc {s s' s'' : σ} {as : List α} {a : α} (h : PathWhere M ok s as s') (hok : ok s' a)
      (hs : M.step s' a = some s'') : PathWhere M ok s (as ++ [a]) s''

/-- Any path. -/
abbrev Path (M : System σ α) : σ → List α → σ → Prop := PathWhere M fun _ _ => True

/-- The induction rule for invariants: what holds initially and is preserved by every step of a
reachable state that meets the condition holds in every reachable state. -/
theorem ReachableWhere.induct {P : σ → Prop} (hinit : P M.init)
    (hstep : ∀ s a s', ReachableWhere M ok s → ok s a → M.step s a = some s' → P s → P s')
    {s : σ} (h : ReachableWhere M ok s) : P s := by
  induction h with
  | init => exact hinit
  | step h hok hs ih => exact hstep _ _ _ h hok hs ih

theorem ReachableWhere.mono (hok : ∀ s a, ok s a → ok' s a) {s : σ}
    (h : ReachableWhere M ok s) : ReachableWhere M ok' s := by
  induction h with
  | init => exact .init
  | step _ h hs ih => exact .step ih (hok _ _ h) hs

/-- A state reached under a condition is reachable. -/
theorem ReachableWhere.reachable {s : σ} (h : ReachableWhere M ok s) : Reachable M s :=
  h.mono fun _ _ _ => trivial

/-- A path from a reachable state leads to a reachable state. -/
theorem PathWhere.reachableWhere {s s' : σ} {as : List α} (hp : PathWhere M ok s as s')
    (h : ReachableWhere M ok s) : ReachableWhere M ok s' := by
  induction hp with
  | nil => exact h
  | snoc _ hok hs ih => exact .step ih hok hs

/-- The induction rule along a path: what holds at its start and is preserved by each step taken
from a reachable state holds at its end. -/
theorem PathWhere.induct {P : σ → Prop} {s s' : σ} {as : List α} (hp : PathWhere M ok s as s')
    (hr : ReachableWhere M ok s) (h0 : P s)
    (hstep : ∀ t a t', ReachableWhere M ok t → ok t a → M.step t a = some t' → P t → P t') :
    P s' := by
  induction hp with
  | nil => exact h0
  | snoc hp hok hs ih => exact hstep _ _ _ (hp.reachableWhere hr) hok hs ih

theorem PathWhere.path {s s' : σ} {as : List α} (hp : PathWhere M ok s as s') : Path M s as s' := by
  induction hp with
  | nil => exact .nil _
  | snoc _ _ hs ih => exact .snoc ih trivial hs

/-- The same along a path under a condition that the way to its start need not meet. -/
theorem PathWhere.inductFrom {P : σ → Prop} {s s' : σ} {as : List α} (hp : PathWhere M ok s as s')
    (hr : Reachable M s) (h0 : P s)
    (hstep : ∀ t a t', Reachable M t → ok t a → M.step t a = some t' → P t → P t') : P s' := by
  induction hp with
  | nil => exact h0
  | snoc hp hok hs ih => exact hstep _ _ _ (hp.path.reachableWhere hr) hok hs ih

/-! ## Replaying a run -/

/-- Take the actions in order as long as they are enabled and meet the decidable condition `c`. -/
def runWhere (M : System σ α) (c : σ → α → Bool) : σ → List α → Option σ
  | s, [] => some s
  | s, a :: as => if c s a then (M.step s a).bind (runWhere M c · as) else none

/-- Take the actions in order as long as they are enabled. -/
def run (M : System σ α) : σ → List α → Option σ := runWhere M fun _ _ => true

/-- A replay under a condition stays within the states reachable under it. -/
theorem reachableWhere_of_runWhere {c : σ → α → Bool} (hc : ∀ s a, c s a = true → ok s a) :
    ∀ {as : List α} {s s' : σ}, ReachableWhere M ok s → runWhere M c s as = some s' →
      ReachableWhere M ok s'
  | [], s, s', h, hr => by
    simp only [runWhere, Option.some.injEq] at hr
    exact hr ▸ h
  | a :: as, s, s', h, hr => by
    simp only [runWhere] at hr
    split at hr
    · rename_i hca
      obtain ⟨t, ht, hrest⟩ := Option.bind_eq_some_iff.mp hr
      exact reachableWhere_of_runWhere hc (.step h (hc _ _ hca) ht) hrest
    · cases hr

/-- A replay under a condition is a path under it. -/
theorem pathWhere_of_runWhere {c : σ → α → Bool} (hc : ∀ s a, c s a = true → ok s a)
    {s₀ s s' : σ} {as bs : List α} (hp : PathWhere M ok s₀ as s)
    (hr : runWhere M c s bs = some s') : PathWhere M ok s₀ (as ++ bs) s' := by
  induction bs generalizing as s with
  | nil =>
    simp only [runWhere, Option.some.injEq] at hr
    simpa [hr] using hp
  | cons b bs ih =>
    simp only [runWhere] at hr
    split at hr
    · rename_i hcb
      obtain ⟨t, ht, hrest⟩ := Option.bind_eq_some_iff.mp hr
      simpa using ih (.snoc hp (hc _ _ hcb) ht) hrest
    · cases hr

/-- A replay that ends in a state with a decidable property `p` shows a state with `p` reachable
under the condition. -/
theorem exists_reachableWhere_of_runWhere (M : System σ α) (c : σ → α → Bool) (as : List α)
    (p : σ → Bool) (h : (runWhere M c M.init as).any p = true) :
    ∃ s, ReachableWhere M (fun s a => c s a = true) s ∧ p s = true := by
  obtain ⟨s, hr, hp⟩ := (Option.any_eq_true _ _).mp h
  exact ⟨s, reachableWhere_of_runWhere (fun _ _ hc => hc) .init hr, hp⟩

/-- The same without a condition. -/
theorem exists_reachable_of_run (M : System σ α) (as : List α) (p : σ → Bool)
    (h : (run M M.init as).any p = true) : ∃ s, Reachable M s ∧ p s = true := by
  obtain ⟨s, hr, hp⟩ := exists_reachableWhere_of_runWhere M (fun _ _ => true) as p h
  exact ⟨s, hr.reachable, hp⟩

/-- The same for a path from a given state. -/
theorem exists_path_of_run {s : σ} {as : List α} {p : σ → Bool}
    (h : (run M s as).any p = true) : ∃ s', Path M s as s' ∧ p s' = true := by
  obtain ⟨s', hr, hp⟩ := (Option.any_eq_true _ _).mp h
  exact ⟨s', pathWhere_of_runWhere (fun _ _ _ => trivial) (.nil s) hr, hp⟩

end Transition
