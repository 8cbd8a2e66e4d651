import Buddy3dProxy.Transition.System

/-!
# What is seen along a path

An observer sees some values at each step: `see s a` at the step `a` from `s`. `Observed` is a path
together with what is seen along it, oldest first.
-/

namespace Transition

variable {σ α β : Type*} {M : System σ α} {ok : σ → α → Prop} {see : σ → α → List β}

/-- A path from `s` to `s'` on which every step meets `ok` and `out` is seen. -/
inductive Observed (M : System σ α) (ok : σ → α → Prop) (see : σ → α → List β) :
    σ → List β → σ → Prop where
  | nil (s : σ) : Observed M ok see s [] s
  | snoc {s s' s'' : σ} {out : List β} {a : α} (h : Observed M ok see s out s') (hok : ok s' a)
      (hs : M.step s' a = some s'') : Observed M ok see s (out ++ see s' a) s''

theorem Observed.reachable {s s' : σ} {out : List β} (h : Observed M ok see s out s')
    (hr : Reachable M s) : Reachable M s' := by
  induction h with
  | nil => exact hr
  | snoc _ _ hs ih => exact .step ih trivial hs

/-- The induction rule: what holds of the start with nothing seen, and is kept by each step with what
is seen at it, holds of the end with all that was seen. -/
theorem Observed.induct {P : List β → σ → Prop} {s s' : σ} {out : List β}
    (h : Observed M ok see s out s') (hr : Reachable M s) (h0 : P [] s)
    (hstep : ∀ t a t' out, Reachable M t → ok t a → M.step t a = some t' → P out t →
      P (out ++ see t a) t') : P out s' := by
  induction h with
  | nil => exact h0
  | snoc h hok hs ih => exact hstep _ _ _ _ (h.reachable hr) hok hs ih

/-- A replay as long as the steps are enabled and meet the condition `c`, with what is seen. -/
def observe (M : System σ α) (c : σ → α → Bool) (see : σ → α → List β) :
    σ → List α → Option (List β × σ)
  | s, [] => some ([], s)
  | s, a :: as =>
    if c s a then
      (M.step s a).bind fun t => (observe M c see t as).map fun x => (see s a ++ x.1, x.2)
    else none

theorem observed_of_observe {c : σ → α → Bool} {s₀ s s' : σ} {before out : List β} {as : List α}
    (h : Observed M (fun s a => c s a = true) see s₀ before s)
    (hr : observe M c see s as = some (out, s')) :
    Observed M (fun s a => c s a = true) see s₀ (before ++ out) s' := by
  induction as generalizing before s out with
  | nil =>
    simp only [observe, Option.some.injEq, Prod.mk.injEq] at hr
    obtain ⟨rfl, rfl⟩ := hr
    rwa [List.append_nil]
  | cons a as ih =>
    simp only [observe] at hr
    split at hr
    · rename_i hca
      obtain ⟨t, ht, hrest⟩ := Option.bind_eq_some_iff.mp hr
      obtain ⟨⟨more, u⟩, hmore, he⟩ := Option.map_eq_some_iff.mp hrest
      obtain ⟨rfl, rfl⟩ := Prod.mk.inj he
      rw [← List.append_assoc]
      exact ih (.snoc h hca ht) hmore
    · cases hr

end Transition
