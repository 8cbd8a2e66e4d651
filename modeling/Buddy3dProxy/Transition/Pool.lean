import Mathlib.Data.List.Basic

/-!
# Pools of tasks

The tasks of one kind are kept in a list: a task is addressed by its index, spawning appends to the
list, and a step of a task rewrites its entry with `List.set`. The lemmas below say how the number
of tasks with a property changes with one such rewrite, which is all that counting invariants need.
-/

namespace Transition.Pool

variable {τ : Type*} {p : τ → Bool} {l : List τ} {i j : Nat} {a b : τ}

/-- One task moves from `a` to `b`: the count changes by the difference between the two. -/
theorem countP_set (h : l[i]? = some a) :
    (l.set i b).countP p + (if p a then 1 else 0) = l.countP p + (if p b then 1 else 0) := by
  obtain ⟨hi, rfl⟩ := List.getElem?_eq_some_iff.mp h
  have hle : (if p l[i] then 1 else 0) ≤ l.countP p := by
    split
    · rename_i hp
      exact List.countP_pos_iff.mpr ⟨_, List.getElem_mem hi, hp⟩
    · exact Nat.zero_le _
  rw [List.countP_set hi]
  omega

/-- A rewrite that keeps the property keeps the count. -/
theorem countP_set_eq (h : l[i]? = some a) (hp : p b = p a) :
    (l.set i b).countP p = l.countP p := by
  have := countP_set (p := p) (b := b) h
  rw [hp] at this
  omega

theorem countP_set_gain (h : l[i]? = some a) (ha : p a = false) (hb : p b = true) :
    (l.set i b).countP p = l.countP p + 1 := by
  have := countP_set (p := p) (b := b) h
  simpa [ha, hb] using this

theorem countP_set_lose (h : l[i]? = some a) (ha : p a = true) (hb : p b = false) :
    (l.set i b).countP p + 1 = l.countP p := by
  have := countP_set (p := p) (b := b) h
  simpa [ha, hb] using this

theorem countP_pos (h : l[i]? = some a) (hp : p a = true) : 0 < l.countP p :=
  List.countP_pos_iff.mpr ⟨a, List.mem_of_getElem? h, hp⟩

theorem of_countP_eq_zero (h : l.countP p = 0) (ha : a ∈ l) : p a = false := by
  simpa using List.countP_eq_zero.mp h a ha

theorem forall_set {P : τ → Prop} (h : ∀ x ∈ l, P x) (hb : P b) : ∀ x ∈ l.set i b, P x := by
  intro x hx
  rcases List.mem_or_eq_of_mem_set hx with hx | rfl
  · exact h x hx
  · exact hb

theorem forall_append {P : τ → Prop} (h : ∀ x ∈ l, P x) (hb : P b) : ∀ x ∈ l ++ [b], P x := by
  intro x hx
  rcases List.mem_append.mp hx with hx | hx
  · exact h x hx
  · exact List.mem_singleton.mp hx ▸ hb

/-- A task of the rewritten pool is the new one or has kept its place. -/
theorem mem_set_cases {x : τ} (h : x ∈ l.set i b) : x = b ∨ ∃ k, k ≠ i ∧ l[k]? = some x := by
  obtain ⟨k, hk⟩ := List.mem_iff_getElem?.mp h
  by_cases hki : k = i
  · subst hki
    have hlt := (List.getElem?_eq_some_iff.mp hk).1
    rw [List.length_set] at hlt
    rw [List.getElem?_set_self hlt] at hk
    exact Or.inl (Option.some.inj hk).symm
  · rw [List.getElem?_set_ne (Ne.symm hki)] at hk
    exact Or.inr ⟨k, hki, hk⟩

theorem mem_set_of_ne {x : τ} (h : l[i]? = some a) (hne : a ≠ x) (hx : x ∈ l) :
    x ∈ l.set i b := by
  obtain ⟨k, hk⟩ := List.mem_iff_getElem?.mp hx
  have hki : i ≠ k := by
    rintro rfl
    exact hne (Option.some.inj (h.symm.trans hk))
  refine List.mem_of_getElem? (i := k) ?_
  rw [List.getElem?_set_ne hki]
  exact hk

/-- What all tasks have after a rewrite, they had before, if the one rewritten had it. -/
theorem forall_of_forall_set {P : τ → Prop} (hi : l[i]? = some a) (ha : P b → P a)
    (h : ∀ x ∈ l.set i b, P x) : ∀ x ∈ l, P x := by
  intro x hx
  by_cases hxa : a = x
  · have hlt := (List.getElem?_eq_some_iff.mp hi).1
    exact hxa ▸ ha (h b (List.mem_set hlt _))
  · exact h x (mem_set_of_ne hi hxa hx)

/-- A rewrite with a task that lacks the property if the old one did gives nobody the property. -/
theorem any_of_any_set (hi : l[i]? = some a) (hba : p b = true → p a = true)
    (h : (l.set i b).any p = true) : l.any p = true := by
  obtain ⟨x, hx, hpx⟩ := List.any_eq_true.mp h
  rcases List.mem_or_eq_of_mem_set hx with hx | rfl
  · exact List.any_eq_true.mpr ⟨x, hx, hpx⟩
  · exact List.any_eq_true.mpr ⟨a, List.mem_of_getElem? hi, hba hpx⟩

/-- A rewrite with a task that has the property if the old one had keeps somebody with it. -/
theorem any_set (hi : l[i]? = some a) (hab : p a = true → p b = true) (h : l.any p = true) :
    (l.set i b).any p = true := by
  obtain ⟨x, hx, hpx⟩ := List.any_eq_true.mp h
  by_cases hxa : a = x
  · have hlt := (List.getElem?_eq_some_iff.mp hi).1
    exact List.any_eq_true.mpr ⟨b, List.mem_set hlt _, hab (hxa ▸ hpx)⟩
  · exact List.any_eq_true.mpr ⟨x, mem_set_of_ne hi hxa hx, hpx⟩

/-- When at most one task has the property, two indices of such tasks are the same. -/
theorem eq_of_countP_le_one (h : l.countP p ≤ 1) (hi : l[i]? = some a) (hj : l[j]? = some b)
    (ha : p a = true) (hb : p b = true) : i = j := by
  induction l generalizing i j with
  | nil => simp at hi
  | cons x xs ih =>
    rw [List.countP_cons] at h
    cases i with
    | zero =>
      cases j with
      | zero => rfl
      | succ j =>
        have hx : x = a := by simpa using hi
        have hpos := countP_pos (l := xs) (p := p) (by simpa using hj) hb
        rw [hx, if_pos ha] at h
        omega
    | succ i =>
      cases j with
      | zero =>
        have hx : x = b := by simpa using hj
        have hpos := countP_pos (l := xs) (p := p) (by simpa using hi) ha
        rw [hx, if_pos hb] at h
        omega
      | succ j =>
        have : xs.countP p ≤ 1 := by omega
        exact congrArg (· + 1) (ih this (by simpa using hi) (by simpa using hj))

theorem getElem?_set_of_ne (hij : i ≠ j) (h : l[j]? = some b) : (l.set i a)[j]? = some b := by
  rw [List.getElem?_set_ne hij, h]

theorem getElem?_set_self (h : l[i]? = some a) : (l.set i b)[i]? = some b := by
  obtain ⟨hi, -⟩ := List.getElem?_eq_some_iff.mp h
  simp [hi]

theorem getElem?_append_of_some (h : l[i]? = some a) : (l ++ [b])[i]? = some a := by
  obtain ⟨hi, -⟩ := List.getElem?_eq_some_iff.mp h
  rw [List.getElem?_append_left hi, h]

section Entry

variable {q : τ → Bool} {f : τ → τ} {k : Nat}

/-- A property of an entry that an update takes from no entry that lacks it. -/
theorem any_of_any_modify (hf : ∀ x, l[k]? = some x → q (f x) = true → q x = true)
    (h : (l.modify k f)[j]?.any q = true) : l[j]?.any q = true := by
  rw [List.getElem?_modify] at h
  obtain ⟨y, hy, hq⟩ := (Option.any_eq_true _ _).mp h
  obtain ⟨x, hx, rfl⟩ := Option.map_eq_some_iff.mp hy
  refine (Option.any_eq_true _ _).mpr ⟨x, hx, ?_⟩
  split at hq
  · rename_i hkj
    subst hkj
    exact hf x hx hq
  · exact hq

theorem any_modify (hf : ∀ x, l[k]? = some x → q (f x) = q x) :
    (l.modify k f)[j]?.any q = l[j]?.any q := by
  rw [List.getElem?_modify]
  cases hx : l[j]? with
  | none => rfl
  | some x =>
    by_cases hkj : k = j
    · subst hkj
      simpa using hf x hx
    · simp [hkj]

theorem any_append (hb : q b = false) : (l ++ [b])[j]?.any q = l[j]?.any q := by
  rcases Nat.lt_trichotomy j l.length with hj | hj | hj
  · rw [List.getElem?_append_left hj]
  · subst hj
    simp [hb]
  · rw [List.getElem?_eq_none (by simp; omega), List.getElem?_eq_none (by omega)]

end Entry

section Map

variable {υ : Type*} {g : τ → υ} {f : τ → τ}

theorem map_modify_eq (hf : ∀ x, l[i]? = some x → g (f x) = g x) :
    (l.modify i f).map g = l.map g := by
  refine List.ext_getElem? ?_
  intro k
  rw [List.getElem?_map, List.getElem?_map, List.getElem?_modify]
  cases hx : l[k]? with
  | none => rfl
  | some x =>
    by_cases hik : i = k
    · subst hik
      simpa using hf x hx
    · simp [hik]

theorem map_modify_set (h : l[i]? = some a) :
    (l.modify i f).map g = (l.map g).set i (g (f a)) := by
  have hlt := (List.getElem?_eq_some_iff.mp h).1
  refine List.ext_getElem? ?_
  intro k
  rw [List.getElem?_map, List.getElem?_modify]
  by_cases hik : i = k
  · subst hik
    rw [List.getElem?_set_self (by simpa using hlt), h]
    simp
  · rw [List.getElem?_set_ne hik, List.getElem?_map]
    simp [hik]

end Map

section Filter

variable {υ : Type*} {f : τ → υ}

theorem getElem?_set_cases {x : τ} (h : (l.set i b)[j]? = some x) :
    j = i ∧ x = b ∨ j ≠ i ∧ l[j]? = some x := by
  by_cases hij : j = i
  · subst hij
    have hlt := (List.getElem?_eq_some_iff.mp h).1
    rw [List.length_set] at hlt
    rw [List.getElem?_set_self hlt] at h
    exact .inl ⟨rfl, (Option.some.inj h).symm⟩
  · rw [List.getElem?_set_ne (Ne.symm hij)] at h
    exact .inr ⟨hij, h⟩

theorem getElem?_append_cases {x : τ} (h : (l ++ [b])[i]? = some x) :
    l[i]? = some x ∨ i = l.length ∧ x = b := by
  rcases Nat.lt_trichotomy i l.length with hi | hi | hi
  · rw [List.getElem?_append_left hi] at h
    exact .inl h
  · subst hi
    exact .inr ⟨rfl, by simpa using h.symm⟩
  · rw [List.getElem?_eq_none (by simp; omega)] at h
    exact absurd h (by simp)

/-- A rewrite that no filter and no projection sees. -/
theorem map_filter_set (h : l[i]? = some a) (hp : p b = p a) (hf : p a = true → f b = f a) :
    ((l.set i b).filter p).map f = (l.filter p).map f := by
  induction l generalizing i with
  | nil => rfl
  | cons x xs ih =>
    cases i with
    | zero =>
      obtain rfl : x = a := by simpa using h
      by_cases ha : p x = true
      · simp [hp, ha, hf ha]
      · simp [hp, ha]
    | succ i =>
      have hrest := ih (by simpa using h)
      by_cases hx : p x = true <;> simp [hx, hrest]

end Filter

/-! ## The tasks from some place on -/

section Drop

/-- A new task without the property counts nowhere. -/
theorem countP_drop_append (hb : p b = false) : ((l ++ [b]).drop i).countP p = (l.drop i).countP p := by
  have hnone : ([b].drop (i - l.length)).countP p = 0 := by
    refine List.countP_eq_zero.mpr fun x hx => ?_
    rw [List.mem_singleton.mp (List.mem_of_mem_drop hx), hb]
    exact Bool.false_ne_true
  rw [List.drop_append, List.countP_append, hnone, Nat.add_zero]

/-- A rewrite adds at most the task that it puts. -/
theorem countP_drop_set_le (hi : l[i]? = some a) :
    ((l.set i b).drop j).countP p ≤
      (l.drop j).countP p + if p b = true ∧ p a = false then 1 else 0 := by
  rw [List.drop_set]
  split
  · exact Nat.le_add_right _ _
  · rename_i hij
    have hi : (l.drop j)[i - j]? = some a := by
      rw [List.getElem?_drop, Nat.add_sub_cancel' (Nat.not_lt.mp hij), hi]
    have hset := countP_set (p := p) (b := b) hi
    cases ha : p a <;> cases hb : p b <;> simp [ha, hb] at hset ⊢ <;> omega

/-- The tasks with the property all stand from the first of them on. -/
theorem exists_first (h : 0 < l.countP p) :
    ∃ i a, l[i]? = some a ∧ p a = true ∧ (l.drop i).countP p = l.countP p := by
  induction l with
  | nil => cases h
  | cons x xs ih =>
    by_cases hx : p x = true
    · exact ⟨0, x, rfl, hx, rfl⟩
    · rw [List.countP_cons_of_neg hx] at h ⊢
      obtain ⟨i, a, hi, ha, hcount⟩ := ih h
      exact ⟨i + 1, a, hi, ha, hcount⟩

end Drop

/-! ## Tasks that take turns -/

theorem pairwise_set {R : τ → τ → Prop} (h : l.Pairwise R) (hi : l[i]? = some a)
    (hbefore : ∀ x, R x a → R x b) (hafter : ∀ x, R a x → R b x) :
    (l.set i b).Pairwise R := by
  induction l generalizing i with
  | nil => exact h
  | cons x xs ih =>
    obtain ⟨hx, hxs⟩ := List.pairwise_cons.mp h
    cases i with
    | zero =>
      obtain rfl : x = a := Option.some.inj hi
      exact List.pairwise_cons.mpr ⟨fun y hy => hafter y (hx y hy), hxs⟩
    | succ i =>
      have hi : xs[i]? = some a := hi
      refine List.pairwise_cons.mpr ⟨?_, ih hxs hi⟩
      exact forall_set hx (hbefore x (hx a (List.mem_of_getElem? hi)))

section Turns

variable {υ : Type*} {q done done' : τ → Bool} {f : τ → υ}

/-- Behind a task with `q` that is not done, the tasks with `q` have its value. -/
def Turns (q done : τ → Bool) (f : τ → υ) (l : List τ) : Prop :=
  (l.filter q).Pairwise fun a b => done a = false → f b = f a

namespace Turns

theorem nil : Turns q done f [] := List.Pairwise.nil

theorem mono (h : Turns q done f l) (hdone : ∀ a, done' a = false → done a = false) :
    Turns q done' f l := List.Pairwise.imp (fun himp ha => himp (hdone _ ha)) h

/-- A task goes on with its value. -/
theorem set (h : Turns q done f l) (hi : l[i]? = some a) (hq : q b = q a) (hf : f b = f a)
    (hdone : done b = false → done a = false) : Turns q done f (l.set i b) := by
  unfold Turns at h ⊢
  rw [List.pairwise_filter] at h ⊢
  refine pairwise_set h hi ?_ ?_
  · intro x hx hqx hqb hdx
    exact hf.trans (hx hqx (hq ▸ hqb) hdx)
  · intro x hx hqb hqx hdb
    exact (hx (hq ▸ hqb) hqx (hdone hdb)).trans hf.symm

/-- A task whose turn has come, or that has the value of the tasks ahead of it. -/
theorem snoc (h : Turns q done f l)
    (hb : q b = true → ∀ a ∈ l, q a = true → done a = false → f b = f a) :
    Turns q done f (l ++ [b]) := by
  unfold Turns at h ⊢
  rw [List.pairwise_filter] at h ⊢
  refine List.pairwise_append.mpr ⟨h, List.pairwise_singleton _ _, ?_⟩
  intro a ha x hx hqa hqx hda
  obtain rfl := List.mem_singleton.mp hx
  exact hb hqx a ha hqa hda

/-- Whichever task that is not done does it next, it is the value whose turn it is. -/
theorem take_succ (h : Turns q done f l) (ha : a ∈ l) (hq : q a = true) (hdone : done a = false) :
    ((l.filter q).map f).take (l.countP (fun x => done x && q x) + 1) =
      ((l.filter q).map f).take (l.countP fun x => done x && q x) ++ [f a] := by
  rw [← List.countP_filter]
  have ha : a ∈ l.filter q := List.mem_filter.mpr ⟨ha, hq⟩
  unfold Turns at h
  generalize l.filter q = xs at h ha
  induction xs with
  | nil => cases ha
  | cons x xs ih =>
    obtain ⟨hx, hxs⟩ := List.pairwise_cons.mp h
    by_cases hdx : done x = true
    · have hax : a ∈ xs := by
        refine (List.mem_cons.mp ha).resolve_left ?_
        rintro rfl
        rw [hdone] at hdx
        cases hdx
      rw [List.countP_cons_of_pos hdx, List.map_cons, List.take_succ_cons, List.take_succ_cons,
        ih hxs hax, List.cons_append]
    · -- from here on all have one value
      have hsame : ∀ y ∈ x :: xs, f y = f x := by
        intro y hy
        rcases List.mem_cons.mp hy with rfl | hy
        · rfl
        · exact hx y hy (by simpa using hdx)
      have hall : (x :: xs).map f = List.replicate (xs.length + 1) (f x) :=
        List.eq_replicate_iff.mpr ⟨by simp, fun v hv => by
          obtain ⟨y, hy, rfl⟩ := List.mem_map.mp hv
          exact hsame y hy⟩
      have hle := List.countP_le_length (p := done) (l := xs)
      rw [List.countP_cons_of_neg hdx, hall, hsame a ha, List.take_replicate, List.take_replicate,
        Nat.min_eq_left (by omega), Nat.min_eq_left (by omega), List.replicate_succ']

/-- The last value is that of any task that is not done. -/
theorem getLast? (h : Turns q done f l) (ha : a ∈ l) (hq : q a = true) (hdone : done a = false) :
    ((l.filter q).map f).getLast? = some (f a) := by
  obtain ⟨pre, post, hsplit⟩ := List.append_of_mem (List.mem_filter.mpr ⟨ha, hq⟩)
  unfold Turns at h
  rw [hsplit] at h ⊢
  have hafter := (List.pairwise_cons.mp (List.pairwise_append.mp h).2.1).1
  rcases List.eq_nil_or_concat post with rfl | ⟨post, y, rfl⟩
  · simp
  · have hend : pre ++ a :: post.concat y = (pre ++ a :: post) ++ [y] := by simp
    rw [hend, List.map_append, List.map_singleton, List.getLast?_concat, hafter y (by simp) hdone]

end Turns

end Turns

end Transition.Pool
