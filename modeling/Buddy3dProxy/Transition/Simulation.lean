import Buddy3dProxy.Transition.Paths

/-!
# Simulation

A relation between the states of two systems that every step of the first one keeps, while the second
one takes any number of steps. It carries over to runs, by induction on the run of the first system.
-/

namespace Transition

variable {σ α τ β : Type*} {C : System σ α} {A : System τ β}

/-- Each step of `C` from a reachable state is matched by a path of `A`. -/
def Simulates (C : System σ α) (A : System τ β) (R : σ → τ → Prop) : Prop :=
  ∀ s a s' t, Reachable C s → C.step s a = some s' → R s t → ∃ bs t', Path A t bs t' ∧ R s' t'

variable {R : σ → τ → Prop} {s s' : σ} {t : τ}

/-- Each path of `C` is matched by a path of `A`. -/
theorem Simulates.path (h : Simulates C A R) {as : List α} (hr : Reachable C s)
    (hp : Path C s as s') (ht : R s t) : ∃ bs t', Path A t bs t' ∧ R s' t' := by
  induction hp with
  | nil => exact ⟨[], t, .nil t, ht⟩
  | snoc hp _ hs ih =>
    obtain ⟨bs, u, hbs, hu⟩ := ih
    obtain ⟨cs, t', hcs, ht'⟩ := h _ _ _ u (hp.reachableWhere hr) hs hu
    exact ⟨bs ++ cs, t', hbs.append hcs, ht'⟩

end Transition
