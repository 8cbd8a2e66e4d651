import Buddy3dProxy.Transition.System

/-!
# Paths and what they pass

Paths put together, and the states a path passes: `Passes M s as s' φ` says that on the way from `s` to
`s'` by the actions `as` there is a state with `φ`, which may look at the actions taken up to it.
-/

namespace Transition

variable {σ α : Type*} {M : System σ α} {ok : σ → α → Prop} {s s' s'' : σ} {as bs : List α} {a : α}

theorem PathWhere.append (h : PathWhere M ok s as s') (h' : PathWhere M ok s' bs s'') :
    PathWhere M ok s (as ++ bs) s'' := by
  induction h' with
  | nil => rwa [List.append_nil]
  | snoc _ hok hs ih =>
    rw [← List.append_assoc]
    exact .snoc ih hok hs

theorem Path.single (h : M.step s a = some s') : Path M s [a] s' := .snoc (.nil s) trivial h

/-- The path passes a state with `φ`. -/
def Passes (M : System σ α) (s : σ) (as : List α) (s' : σ) (φ : List α → σ → Prop) : Prop :=
  ∃ bs cs t, as = bs ++ cs ∧ Path M s bs t ∧ Path M t cs s' ∧ φ bs t

variable {φ : List α → σ → Prop}

theorem Passes.last (hp : Path M s as s') (h : φ as s') : Passes M s as s' φ :=
  ⟨as, [], s', (List.append_nil as).symm, hp, .nil s', h⟩

theorem Passes.snoc (h : Passes M s as s' φ) (hs : M.step s' a = some s'') :
    Passes M s (as ++ [a]) s'' φ := by
  obtain ⟨bs, cs, t, rfl, hbs, hcs, ht⟩ := h
  exact ⟨bs, cs ++ [a], t, List.append_assoc .., hbs, .snoc hcs trivial hs, ht⟩

/-- The induction rule for what a path has passed: the invariant may look at the actions taken. -/
theorem Path.inductOn {P : List α → σ → Prop} (hp : Path M s as s') (h0 : P [] s)
    (hstep : ∀ bs t b t', Path M s bs t → M.step t b = some t' → P bs t → P (bs ++ [b]) t') :
    P as s' := by
  induction hp with
  | nil => exact h0
  | snoc hp _ hs ih => exact hstep _ _ _ _ hp hs ih

end Transition
