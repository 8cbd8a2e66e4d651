import Buddy3dProxy.Rust.Text

/-!
# Texts made of lines

What `find`, `split`, `split_once`, `splitn` and `trim` do on texts whose parts are known. A line ends
in a separator of two different characters, such as CR LF.
-/

namespace Rust

section Find

variable {α : Type} [DecidableEq α] {pat : List α}

theorem find_length_le {s : List α} {i : Nat} (h : find pat s = some i) : i + pat.length ≤ s.length := by
  induction s generalizing i with
  | nil =>
    by_cases hpat : pat = []
    · simp only [find, hpat, if_true, Option.some.injEq] at h
      simp [← h, hpat]
    · simp [find, hpat] at h
  | cons x s ih =>
    by_cases hprefix : pat <+: x :: s
    · simp only [find, hprefix, if_true, Option.some.injEq] at h
      simpa [← h] using hprefix.length_le
    · simp only [find, hprefix, if_false, Option.map_eq_some_iff] at h
      obtain ⟨j, hj, rfl⟩ := h
      have hle := ih hj
      simp only [List.length_cons]
      omega

/-- What is found stays the first occurrence when the text goes on. -/
theorem find_append {s : List α} {i : Nat} (h : find pat s = some i) (t : List α) :
    find pat (s ++ t) = some i := by
  induction s generalizing i with
  | nil =>
    by_cases hpat : pat = []
    · simp only [find, hpat, if_true, Option.some.injEq] at h
      subst h
      cases t <;> simp [find, hpat]
    · simp [find, hpat] at h
  | cons x s ih =>
    by_cases hprefix : pat <+: x :: s
    · simp only [find, hprefix, if_true, Option.some.injEq] at h
      have hlonger : pat <+: x :: (s ++ t) := hprefix.trans (List.prefix_append (x :: s) t)
      simp [find, hlonger, ← h]
    · simp only [find, hprefix, if_false, Option.map_eq_some_iff] at h
      obtain ⟨j, hj, rfl⟩ := h
      have hle := find_length_le hj
      have hnot : ¬ pat <+: x :: (s ++ t) := by
        intro hlonger
        refine hprefix (List.prefix_of_prefix_length_le hlonger (List.prefix_append (x :: s) t) ?_)
        simp only [List.length_cons]
        omega
      simp [find, hnot, ih hj]

/-- Before the first occurrence is complete, nothing is found. -/
theorem find_eq_none_of_append {s t : List α} {i : Nat} (h : find pat (s ++ t) = some i)
    (hlt : s.length < i + pat.length) : find pat s = none := by
  cases hs : find pat s with
  | none => rfl
  | some j =>
    have hle := find_length_le hs
    have hsame : some j = some i := (find_append hs t).symm.trans h
    cases hsame
    omega

end Find

/-! ## Where a pattern can occur -/

section Infix

variable {α : Type} {pat : List α}

/-- A pattern that occurs behind characters that are none of its own occurs after them. -/
theorem infix_of_infix_append {skip l : List α} (hpat : pat ≠ []) (hskip : ∀ x ∈ skip, x ∉ pat)
    (h : pat <:+: skip ++ l) : pat <:+: l := by
  induction skip with
  | nil => exact h
  | cons x skip ih =>
    rw [List.cons_append, List.infix_cons_iff] at h
    rcases h with hprefix | hinfix
    · obtain ⟨y, pat, rfl⟩ := List.exists_cons_of_ne_nil hpat
      obtain ⟨rfl, -⟩ := List.cons_prefix_cons.mp hprefix
      exact absurd (by simp) (hskip y (by simp))
    · exact ih (fun y hy => hskip y (by simp [hy])) hinfix

/-- The same with such characters on both sides. -/
theorem infix_of_infix_padded {left l right : List α} (hpat : pat ≠ [])
    (hleft : ∀ x ∈ left, x ∉ pat) (hright : ∀ x ∈ right, x ∉ pat)
    (h : pat <:+: left ++ l ++ right) : pat <:+: l := by
  rw [List.append_assoc] at h
  have hinner := infix_of_infix_append hpat hleft h
  rw [← List.reverse_infix, List.reverse_append] at hinner
  rw [← List.reverse_infix]
  refine infix_of_infix_append (by simpa using hpat) ?_ hinner
  simpa using hright

/-- A pattern does not reach across a character that is none of its own. -/
theorem infix_of_infix_append_cons {s t : List α} {c : α} (hc : c ∉ pat)
    (h : pat <:+: s ++ c :: t) : pat <:+: s ∨ pat <:+: t := by
  induction s with
  | nil =>
    rw [List.nil_append, List.infix_cons_iff] at h
    rcases h with hprefix | hinfix
    · cases pat with
      | nil => exact .inr (List.nil_infix)
      | cons y pat =>
        obtain ⟨rfl, -⟩ := List.cons_prefix_cons.mp hprefix
        exact absurd (by simp) hc
    · exact .inr hinfix
  | cons x s ih =>
    rw [List.cons_append, List.infix_cons_iff] at h
    rcases h with hprefix | hinfix
    · -- a pattern that starts here ends before the character
      rcases List.prefix_or_prefix_of_prefix hprefix (List.prefix_append (x :: s) (c :: t)) with
        hshort | ⟨rest, rfl⟩
      · exact .inl hshort.isInfix
      · cases rest with
        | nil => exact .inl (by simp)
        | cons y rest =>
          have hrest : y :: rest <+: c :: t := (List.prefix_append_right_inj (x :: s)).mp hprefix
          obtain ⟨rfl, -⟩ := List.cons_prefix_cons.mp hrest
          exact absurd (by simp) hc
    · exact (ih hinfix).imp (fun hs => List.infix_cons hs) id

end Infix

/-! ## Pieces -/

section Pieces

variable {α : Type} [DecidableEq α] {sep : List α}

theorem splitFrom_eq_cons (skip : Nat) (s : List α) :
    ∃ piece rest, splitFrom sep skip s = piece :: rest ∧ piece <+: s.drop skip := by
  fun_induction splitFrom sep skip s with
  | case1 => exact ⟨[], [], rfl, List.nil_prefix⟩
  | case2 skip x xs ih => simpa using ih
  | case3 x xs h => exact ⟨[], _, rfl, List.nil_prefix⟩
  | case4 x xs h ih =>
    obtain ⟨piece, rest, heq, hprefix⟩ := ih
    rw [heq]
    exact ⟨x :: piece, rest, rfl, by simpa using hprefix⟩

/-- The separator is in none of the pieces. -/
theorem not_infix_of_mem_splitFrom (hsep : sep ≠ []) {skip : Nat} {s piece : List α}
    (h : piece ∈ splitFrom sep skip s) : ¬ sep <:+: piece := by
  fun_induction splitFrom sep skip s generalizing piece with
  | case1 => simpa [List.mem_singleton.mp h] using hsep
  | case2 skip x xs ih => exact ih h
  | case3 x xs hstart ih =>
    rcases List.mem_cons.mp h with rfl | hrest
    · simpa using hsep
    · exact ih hrest
  | case4 x xs hprefix ih =>
    obtain ⟨first, rest, heq, hfirst⟩ := splitFrom_eq_cons 0 xs
    rw [heq] at h ih
    rcases List.mem_cons.mp h with rfl | hrest
    · rw [List.infix_cons_iff]
      rintro (hstart | hinfix)
      · have hlonger : x :: first <+: x :: xs := List.cons_prefix_cons.mpr ⟨rfl, hfirst⟩
        exact hprefix (hstart.trans hlonger)
      · exact ih (by simp) hinfix
    · exact ih (by simp [hrest])

/-- The first piece is what stands before the first separator. -/
theorem head?_split_singleton (c : α) (s : List α) : (split [c] s).head? = some (s.takeWhile (· ≠ c)) := by
  unfold split
  induction s with
  | nil => rfl
  | cons x s ih =>
    by_cases hx : x = c
    · simp [splitFrom, hx]
    · have hcx : c ≠ x := fun h => hx h.symm
      simp [splitFrom, hx, hcx, List.head?_modifyHead, ih]

theorem not_infix_of_mem_split (hsep : sep ≠ []) {s piece : List α} (h : piece ∈ split sep s) :
    ¬ sep <:+: piece :=
  not_infix_of_mem_splitFrom hsep h

theorem mem_of_mem_splitFrom {skip : Nat} {s piece : List α} (h : piece ∈ splitFrom sep skip s) {x : α}
    (hx : x ∈ piece) : x ∈ s := by
  fun_induction splitFrom sep skip s generalizing piece with
  | case1 =>
    rw [List.mem_singleton.mp h] at hx
    exact hx
  | case2 skip y ys ih => exact List.mem_cons_of_mem y (ih h hx)
  | case3 y ys hstart ih =>
    rcases List.mem_cons.mp h with rfl | hrest
    · exact absurd hx (List.not_mem_nil)
    · exact List.mem_cons_of_mem y (ih hrest hx)
  | case4 y ys hstart ih =>
    obtain ⟨first, rest, heq, -⟩ := splitFrom_eq_cons 0 ys
    rw [heq] at h ih
    rcases List.mem_cons.mp h with rfl | hrest
    · rcases List.mem_cons.mp hx with rfl | hmem
      · exact List.mem_cons_self
      · exact List.mem_cons_of_mem y (ih List.mem_cons_self hmem)
    · exact List.mem_cons_of_mem y (ih (List.mem_cons_of_mem first hrest) hx)

theorem mem_of_mem_split {s piece : List α} (h : piece ∈ split sep s) {x : α} (hx : x ∈ piece) : x ∈ s :=
  mem_of_mem_splitFrom h hx

theorem split_singleton {c : α} {s : List α} (h : c ∉ s) : split [c] s = [s] := by
  unfold split
  induction s with
  | nil => rfl
  | cons x s ih =>
    have hx : c ≠ x := fun hcx => h (by simp [hcx])
    have hs : c ∉ s := fun hmem => h (by simp [hmem])
    simp [splitFrom, hx, ih hs]

theorem split_singleton_append {c : α} {s : List α} (h : c ∉ s) (t : List α) :
    split [c] (s ++ c :: t) = s :: split [c] t := by
  unfold split
  induction s with
  | nil => simp [splitFrom]
  | cons x s ih =>
    have hx : c ≠ x := fun hcx => h (by simp [hcx])
    have hs : c ∉ s := fun hmem => h (by simp [hmem])
    simp [splitFrom, hx, ih hs]

/-- Pieces put together with a separator between any two are taken apart again. -/
theorem split_intercalate {c : α} {pieces : List (List α)} (hne : pieces ≠ [])
    (h : ∀ piece ∈ pieces, c ∉ piece) : split [c] ([c].intercalate pieces) = pieces := by
  induction pieces with
  | nil => exact absurd rfl hne
  | cons first rest ih =>
    have hfirst : c ∉ first := h first (by simp)
    cases rest with
    | nil => simpa using split_singleton hfirst
    | cons next rest =>
      have hrest := ih (by simp) fun piece hpiece => h piece (by simp [hpiece])
      rw [List.intercalate_cons_cons, List.append_assoc, List.singleton_append, split_singleton_append hfirst,
        hrest]

end Pieces

/-! ## Lines -/

section Lines

variable {α : Type} {a b : α}

/-- Lines with an end each are lines with a separator between any two, and one more end. -/
theorem flatMap_append_separator (first : List α) (rest : List (List α)) (sep : List α) :
    (first :: rest).flatMap (· ++ sep) = first ++ rest.flatMap (sep ++ ·) ++ sep := by
  induction rest generalizing first with
  | nil => simp
  | cons l rest ih =>
    rw [List.flatMap_cons, ih l]
    simp

theorem not_mem_intercalate {c x : α} {pieces : List (List α)} (hx : x ≠ c) :
    x ∉ [c].intercalate pieces ↔ ∀ piece ∈ pieces, x ∉ piece := by
  induction pieces with
  | nil => simp
  | cons first rest ih =>
    cases rest with
    | nil => simp
    | cons next rest => simp [hx, ih]

theorem split_line [DecidableEq α] {l : List α} (hl : ¬ [a, b] <:+: l) : split [a, b] l = [l] := by
  unfold split
  induction l with
  | nil => rfl
  | cons x l ih =>
    have hprefix : ¬ [a, b] <+: x :: l := fun h => hl h.isInfix
    have hrest : ¬ [a, b] <:+: l := fun h => hl (List.infix_cons h)
    simp [splitFrom, hprefix, ih hrest]

variable (hab : a ≠ b)

include hab

/-- A separator is not made up across the end of a line. -/
theorem not_prefix_line {l t : List α} (hl : ¬ [a, b] <:+: l) (hne : l ≠ []) :
    ¬ [a, b] <+: l ++ a :: t := by
  intro h
  obtain ⟨x, l, rfl⟩ := List.exists_cons_of_ne_nil hne
  obtain ⟨rfl, hrest⟩ := List.cons_prefix_cons.mp h
  cases l with
  | nil =>
    obtain ⟨hba, -⟩ := List.cons_prefix_cons.mp hrest
    exact hab hba.symm
  | cons y l =>
    obtain ⟨rfl, -⟩ := List.cons_prefix_cons.mp hrest
    exact hl (List.prefix_append [a, b] l).isInfix

variable [DecidableEq α]

theorem split_line_append {l : List α} (hl : ¬ [a, b] <:+: l) (t : List α) :
    split [a, b] (l ++ a :: b :: t) = l :: split [a, b] t := by
  unfold split
  induction l with
  | nil => simp [splitFrom]
  | cons x l ih =>
    have hprefix := not_prefix_line hab hl (by simp) (t := b :: t)
    have hrest : ¬ [a, b] <:+: l := fun h => hl (List.infix_cons h)
    rw [List.cons_append] at hprefix ⊢
    simp [splitFrom, hprefix, ih hrest]

/-- Lines are split again at their ends. -/
theorem split_lines {first : List α} {rest : List (List α)} (hfirst : ¬ [a, b] <:+: first)
    (hrest : ∀ l ∈ rest, ¬ [a, b] <:+: l) :
    split [a, b] (first ++ rest.flatMap ([a, b] ++ ·)) = first :: rest := by
  induction rest generalizing first with
  | nil => simpa using split_line hfirst
  | cons l rest ih =>
    have hsplit := split_line_append hab hfirst (l ++ rest.flatMap ([a, b] ++ ·))
    simp only [List.flatMap_cons, List.cons_append, List.nil_append] at hsplit ⊢
    rw [hsplit]
    congr 1
    exact ih (hrest l (by simp)) fun l' hl' => hrest l' (by simp [hl'])

/-- The search for an empty line passes over a line. -/
theorem find_line {l : List α} (hl : ¬ [a, b] <:+: l) (t : List α) :
    find [a, b, a, b] (l ++ a :: t) = (find [a, b, a, b] (a :: t)).map (· + l.length) := by
  induction l with
  | nil => simp
  | cons x l ih =>
    have hrest : ¬ [a, b] <:+: l := fun h => hl (List.infix_cons h)
    have hprefix : ¬ [a, b, a, b] <+: x :: (l ++ a :: t) := by
      intro h
      exact not_prefix_line hab hl (by simp) ((List.prefix_append [a, b] [a, b]).trans h)
    rw [List.cons_append, find, if_neg hprefix, ih hrest, Option.map_map]
    rfl

/-- Nor does it stop at the end of a line that another line follows. -/
theorem find_line_end {l : List α} (hl : ¬ [a, b] <:+: l) (hne : l ≠ []) (t : List α) :
    find [a, b, a, b] (a :: b :: (l ++ a :: t)) =
      (find [a, b, a, b] (l ++ a :: t)).map (· + 2) := by
  have hfirst : ¬ [a, b, a, b] <+: a :: b :: (l ++ a :: t) := by
    intro h
    exact not_prefix_line hab hl hne ((List.prefix_append_right_inj [a, b]).mp h)
  have hsecond : ¬ [a, b, a, b] <+: b :: (l ++ a :: t) := by
    intro h
    exact hab (List.cons_prefix_cons.mp h).1
  rw [find, if_neg hfirst, find, if_neg hsecond, Option.map_map]
  rfl

/-- The end of the lines is the first empty line. -/
theorem find_lines {first : List α} {rest : List (List α)} (hfirst : ¬ [a, b] <:+: first)
    (hrest : ∀ l ∈ rest, l ≠ [] ∧ ¬ [a, b] <:+: l) (t : List α) :
    find [a, b, a, b] (first ++ rest.flatMap ([a, b] ++ ·) ++ a :: b :: a :: b :: t) =
      some (first ++ rest.flatMap ([a, b] ++ ·)).length := by
  induction rest generalizing first with
  | nil =>
    have hend : find [a, b, a, b] (a :: b :: a :: b :: t) = some 0 := by simp [find]
    simp [find_line hab hfirst, hend]
  | cons l rest ih =>
    obtain ⟨hne, hl⟩ := hrest l (by simp)
    have hfound := ih hl fun l' hl' => hrest l' (by simp [hl'])
    -- whatever follows the line starts with a separator
    have hnext : ∃ t', rest.flatMap ([a, b] ++ ·) ++ a :: b :: a :: b :: t = a :: t' := by
      cases rest with
      | nil => exact ⟨_, rfl⟩
      | cons l' rest => exact ⟨_, rfl⟩
    obtain ⟨t', ht'⟩ := hnext
    rw [List.append_assoc, ht'] at hfound
    have htext : first ++ (l :: rest).flatMap ([a, b] ++ ·) ++ a :: b :: a :: b :: t =
        first ++ a :: b :: (l ++ a :: t') := by
      simp [← ht']
    rw [htext, find_line hab hfirst, find_line_end hab hl hne, hfound]
    simp only [Option.map_some, Option.some.injEq, List.flatMap_cons, List.length_append,
      List.length_cons, List.length_nil]
    omega

end Lines

/-! ## Fields -/

section Fields

variable {α : Type} [DecidableEq α] {c : α} {s : List α}

theorem splitOnce_append (h : c ∉ s) (t : List α) : splitOnce c (s ++ c :: t) = some (s, t) := by
  induction s with
  | nil => simp [splitOnce]
  | cons x s ih =>
    have hx : x ≠ c := fun hxc => h (by simp [hxc])
    have hs : c ∉ s := fun hmem => h (by simp [hmem])
    simp [splitOnce, hx, ih hs]

theorem splitOnce_eq_none (h : c ∉ s) : splitOnce c s = none := by
  induction s with
  | nil => rfl
  | cons x s ih =>
    have hx : x ≠ c := fun hxc => h (by simp [hxc])
    have hs : c ∉ s := fun hmem => h (by simp [hmem])
    simp [splitOnce, hx, ih hs]

theorem eq_of_splitOnce {a b : List α} (h : splitOnce c s = some (a, b)) : s = a ++ c :: b ∧ c ∉ a := by
  by_cases hmem : c ∈ s
  · obtain ⟨pre, post, rfl, hpre⟩ := List.eq_append_cons_of_mem hmem
    rw [splitOnce_append hpre, Option.some.injEq, Prod.mk.injEq] at h
    obtain ⟨rfl, rfl⟩ := h
    exact ⟨rfl, hpre⟩
  · rw [splitOnce_eq_none hmem] at h
    cases h

theorem not_mem_takeWhile_ne (s : List α) : c ∉ s.takeWhile (· ≠ c) := by
  intro h
  simpa using List.mem_takeWhile_imp h

theorem takeWhile_ne_eq_self (h : c ∉ s) : s.takeWhile (· ≠ c) = s := by
  rw [List.takeWhile_eq_self_iff]
  intro x hx
  simpa using fun hxc : x = c => h (hxc ▸ hx)

theorem takeWhile_ne_append (h : c ∉ s) (t : List α) : (s ++ c :: t).takeWhile (· ≠ c) = s := by
  rw [List.takeWhile_append_of_pos, List.takeWhile_cons_of_neg (by simp), List.append_nil]
  intro x hx
  simpa using fun hxc : x = c => h (hxc ▸ hx)

theorem splitN_cons {n : Nat} (h : c ∉ s) (t : List α) :
    splitN (n + 2) c (s ++ c :: t) = s :: splitN (n + 1) c t := by
  rw [splitN, splitOnce_append h]

theorem infix_of_mem_splitN {n : Nat} {piece : List α} (h : piece ∈ splitN n c s) : piece <:+: s := by
  fun_induction splitN n c s with
  | case1 => simp at h
  | case2 s => simp [List.mem_singleton.mp h]
  | case3 n s _ => simp [List.mem_singleton.mp h]
  | case4 n c s a b hsplit ih =>
    obtain ⟨hs, -⟩ := eq_of_splitOnce hsplit
    rw [hs]
    rcases List.mem_cons.mp h with rfl | hrest
    · exact (List.prefix_append piece _).isInfix
    · exact (ih hrest).trans ⟨a ++ [c], [], by simp⟩

theorem rsplitOnce_append {t : List α} (h : c ∉ t) (s : List α) :
    rsplitOnce c (s ++ c :: t) = some (s, t) := by
  have hrev : (s ++ c :: t).reverse = t.reverse ++ c :: s.reverse := by simp
  unfold rsplitOnce
  rw [hrev, splitOnce_append (by simpa using h)]
  simp

theorem rsplitOnce_eq_none (h : c ∉ s) : rsplitOnce c s = none := by
  unfold rsplitOnce
  rw [splitOnce_eq_none (by simpa using h)]
  rfl

theorem exists_rsplitOnce (h : c ∈ s) : ∃ a b, rsplitOnce c s = some (a, b) := by
  obtain ⟨pre, post, hrev, hpre⟩ := List.eq_append_cons_of_mem (List.mem_reverse.mpr h)
  have hsplit : s = post.reverse ++ c :: pre.reverse := by
    rw [← List.reverse_reverse s, hrev]
    simp
  rw [hsplit]
  exact ⟨_, _, rsplitOnce_append (by simpa using hpre) _⟩

theorem eq_of_rsplitOnce {a b : List α} (h : rsplitOnce c s = some (a, b)) : s = a ++ c :: b ∧ c ∉ b := by
  unfold rsplitOnce at h
  obtain ⟨⟨x, y⟩, hsplit, hpair⟩ := Option.map_eq_some_iff.mp h
  obtain ⟨hs, hx⟩ := eq_of_splitOnce hsplit
  rw [Prod.mk.injEq] at hpair
  obtain ⟨rfl, rfl⟩ := hpair
  refine ⟨?_, by simpa using hx⟩
  rw [← List.reverse_reverse s, hs]
  simp

/-- The first occurrence of a separator parts a text in one way. -/
theorem append_cons_inj {s' t t' : List α} (h : c ∉ s) (h' : c ∉ s') (heq : s ++ c :: t = s' ++ c :: t') :
    s = s' ∧ t = t' := by
  have hsplit := splitOnce_append h t
  rw [heq, splitOnce_append h' t', Option.some.injEq, Prod.mk.injEq] at hsplit
  exact ⟨hsplit.1.symm, hsplit.2.symm⟩

/-- So does the last one. -/
theorem append_cons_inj_last {s' t t' : List α} (h : c ∉ t) (h' : c ∉ t')
    (heq : s ++ c :: t = s' ++ c :: t') : s = s' ∧ t = t' := by
  have hsplit := rsplitOnce_append h s
  rw [heq, rsplitOnce_append h' s', Option.some.injEq, Prod.mk.injEq] at hsplit
  exact ⟨hsplit.1.symm, hsplit.2.symm⟩

end Fields

/-! ## The lines of a text -/

section TextLines

variable {s : List Char}

theorem splitInclusive_append {α : Type} [DecidableEq α] {c : α} {s : List α} (h : c ∉ s) (t : List α) :
    splitInclusive c (s ++ c :: t) = (s ++ [c]) :: splitInclusive c t := by
  induction s with
  | nil => simp [splitInclusive]
  | cons x s ih =>
    have hx : x ≠ c := fun hxc => h (by simp [hxc])
    have hs : c ∉ s := fun hmem => h (by simp [hmem])
    simp [splitInclusive, hx, ih hs]

theorem splitInclusive_of_not_mem {α : Type} [DecidableEq α] {c : α} {s : List α} (h : c ∉ s)
    (hne : s ≠ []) : splitInclusive c s = [s] := by
  induction s with
  | nil => exact absurd rfl hne
  | cons x s ih =>
    have hx : x ≠ c := fun hxc => h (by simp [hxc])
    have hs : c ∉ s := fun hmem => h (by simp [hmem])
    cases s with
    | nil => simp [splitInclusive, hx]
    | cons y s =>
      have hrest := ih hs (by simp)
      rw [splitInclusive, if_neg hx, hrest]

theorem lines_append (h : '\n' ∉ s) (t : List Char) :
    lines (s ++ '\n' :: t) = stripLineEnd (s ++ ['\n']) :: lines t := by
  unfold lines
  rw [splitInclusive_append h, List.map_cons]

theorem isSuffixOf?_concat (c d : Char) (s : List Char) :
    [c].isSuffixOf? (s ++ [d]) = if c = d then some s else none := by
  by_cases hcd : c = d <;> simp [List.isSuffixOf?, List.isPrefixOf?, hcd]

theorem stripLineEnd_of_not_mem (h : '\n' ∉ s) : stripLineEnd s = s := by
  unfold stripLineEnd
  induction s using List.reverseRecOn with
  | nil => rfl
  | append_singleton s d _ =>
    have hd : '\n' ≠ d := fun hd => h (hd ▸ by simp)
    rw [isSuffixOf?_concat, if_neg hd]

theorem lines_of_not_mem (h : '\n' ∉ s) (hne : s ≠ []) : lines s = [s] := by
  unfold lines
  rw [splitInclusive_of_not_mem h hne, List.map_singleton, stripLineEnd_of_not_mem h]

theorem mem_of_mem_stripLineEnd {x : Char} (h : x ∈ stripLineEnd (s ++ ['\n'])) : x ∈ s := by
  unfold stripLineEnd at h
  rw [isSuffixOf?_concat, if_pos rfl] at h
  induction s using List.reverseRecOn with
  | nil => exact h
  | append_singleton s d _ =>
    simp only [isSuffixOf?_concat] at h
    split at h
    · exact List.mem_append_left [d] h
    · exact h

/-- A text is one line, or it has a first line and goes on. -/
theorem lines_induction {P : List Char → Prop} (last : ∀ s, '\n' ∉ s → P s)
    (line : ∀ s t, '\n' ∉ s → P t → P (s ++ '\n' :: t)) (s : List Char) : P s := by
  induction hlen : s.length using Nat.strong_induction_on generalizing s with
  | _ n ih =>
    by_cases h : '\n' ∈ s
    · obtain ⟨first, rest, rfl, hfirst⟩ := List.eq_append_cons_of_mem h
      refine line first rest hfirst (ih rest.length ?_ rest rfl)
      rw [← hlen, List.length_append, List.length_cons]
      omega
    · exact last s h

theorem not_mem_of_mem_lines {l : List Char} (h : l ∈ lines s) : '\n' ∉ l := by
  induction s using lines_induction with
  | last s hs =>
    by_cases hne : s = []
    · simp [hne, lines, splitInclusive] at h
    · rw [lines_of_not_mem hs hne, List.mem_singleton] at h
      exact h ▸ hs
  | line s t hs ih =>
    rw [lines_append hs] at h
    rcases List.mem_cons.mp h with rfl | hrest
    · exact fun hmem => hs (mem_of_mem_stripLineEnd hmem)
    · exact ih hrest

theorem trimEndMatches_stripLineEnd (s : List Char) :
    trimEndMatches '\r' (stripLineEnd (s ++ ['\n'])) = trimEndMatches '\r' s := by
  unfold stripLineEnd
  rw [isSuffixOf?_concat, if_pos rfl]
  induction s using List.reverseRecOn with
  | nil => rfl
  | append_singleton s d _ =>
    by_cases hd : '\r' = d
    · subst hd
      simp [isSuffixOf?_concat, trimEndMatches]
    · simp [isSuffixOf?_concat, hd]

end TextLines

section Trim

variable {s : List Char}

theorem trim_infix (s : List Char) : trim s <:+: s :=
  (List.rdropWhile_prefix isWhitespace _).isInfix.trans (List.dropWhile_suffix isWhitespace).isInfix

theorem trim_trim (s : List Char) : trim (trim s) = trim s := by
  have hdrop : (trim s).dropWhile isWhitespace = trim s := by
    cases htrim : trim s with
    | nil => rfl
    | cons x rest =>
      have hprefix : x :: rest <+: s.dropWhile isWhitespace := htrim ▸ List.rdropWhile_prefix isWhitespace _
      obtain ⟨more, hmore⟩ := hprefix
      have hfixed := List.dropWhile_idempotent isWhitespace s
      rw [← hmore, List.cons_append] at hfixed
      have hx : ¬ isWhitespace x = true := by
        simpa using List.dropWhile_eq_self_iff.mp hfixed (by simp)
      exact List.dropWhile_cons_of_neg hx
  rw [trim, hdrop, trim, List.rdropWhile_idempotent]

theorem dropWhile_of_trim (h : trim s = s) : s.dropWhile isWhitespace = s := by
  have hlen := (List.rdropWhile_prefix isWhitespace (s.dropWhile isWhitespace)).length_le
  refine (List.dropWhile_suffix isWhitespace).eq_of_length_le ?_
  rwa [← trim, h] at hlen

theorem rdropWhile_of_trim (h : trim s = s) : s.rdropWhile isWhitespace = s := by
  rw [trim, dropWhile_of_trim h] at h
  exact h

/-- A text that ends in no white space has none of it at its end to be trimmed. -/
theorem trimEndMatches_append {c : Char} {t : List Char} (hc : isWhitespace c = true)
    (hs : trimEndMatches c s = s) (ht : trim t = t) : trimEndMatches c (s ++ t) = s ++ t := by
  by_cases hne : t = []
  · rw [hne, List.append_nil, hs]
  · have hlast := List.rdropWhile_eq_self_iff.mp (rdropWhile_of_trim ht) hne
    refine List.rdropWhile_eq_self_iff.mpr fun _ => ?_
    rw [List.getLast_append_of_ne_nil _ hne]
    intro heq
    rw [of_decide_eq_true heq] at hlast
    exact hlast hc

theorem mem_dropWhile {α : Type} {p : α → Bool} {x : α} {s : List α} (hx : p x = false) :
    x ∈ s.dropWhile p ↔ x ∈ s := by
  constructor
  · exact fun h => (List.dropWhile_suffix p).subset h
  · intro h
    rw [← List.takeWhile_append_dropWhile (p := p) (l := s), List.mem_append] at h
    rcases h with htake | hdrop
    · have hp := List.mem_takeWhile_imp htake
      rw [hx] at hp
      cases hp
    · exact hdrop

/-- Trimming takes away no other character. -/
theorem mem_trimMatches {α : Type} [DecidableEq α] {c x : α} {s : List α} (hx : x ≠ c) :
    x ∈ trimMatches c s ↔ x ∈ s := by
  have hdrop (t : List α) : x ∈ t.dropWhile (· = c) ↔ x ∈ t := mem_dropWhile (by simpa using hx)
  rw [trimMatches, List.rdropWhile, List.mem_reverse, hdrop, List.mem_reverse, hdrop]

theorem trimMatches_eq_nil {α : Type} [DecidableEq α] {c : α} {s : List α} (h : ∀ x ∈ s, x = c) :
    trimMatches c s = [] := by
  have hdrop : s.dropWhile (· = c) = [] := List.dropWhile_eq_nil_iff.mpr (by simpa using h)
  rw [trimMatches, hdrop]
  rfl

end Trim

theorem trim_padded {left s right : List Char} (hs : trim s = s)
    (hleft : ∀ c ∈ left, isWhitespace c = true) (hright : ∀ c ∈ right, isWhitespace c = true) :
    trim (left ++ s ++ right) = s := by
  have hdrop := dropWhile_of_trim hs
  have hrdrop := rdropWhile_of_trim hs
  have hright' : (s ++ right).rdropWhile isWhitespace = s.rdropWhile isWhitespace := by
    rw [List.rdropWhile, List.reverse_append, List.dropWhile_append_of_pos (by simpa using hright)]
    rfl
  rw [trim, List.append_assoc, List.dropWhile_append_of_pos hleft]
  cases s with
  | nil =>
    have hnil : right.dropWhile isWhitespace = [] := List.dropWhile_eq_nil_iff.mpr hright
    simp [hnil]
  | cons x s =>
    have hx : ¬ isWhitespace x = true := by
      have hhead := List.dropWhile_eq_self_iff.mp hdrop (by simp)
      simpa using hhead
    rw [List.cons_append, List.dropWhile_cons_of_neg hx, ← List.cons_append, hright', hrdrop]

/-- The visible ASCII characters are not white space. -/
theorem isWhitespace_eq_false {c : Char} (h : 33 ≤ c.toNat ∧ c.toNat ≤ 126) :
    isWhitespace c = false := by
  simp only [isWhitespace, Bool.or_eq_false_iff, Bool.and_eq_false_iff, decide_eq_false_iff_not]
  omega

theorem isWhitespace_of_isDigit {c : Char} (h : c.isDigit = true) : isWhitespace c = false := by
  have hrange : 48 ≤ c.toNat ∧ c.toNat ≤ 57 := Char.isDigit_iff_toNat.mp h
  exact isWhitespace_eq_false (by omega)

theorem trim_eq_self {s : List Char} (h : ∀ c ∈ s, isWhitespace c = false) : trim s = s := by
  have hdrop : s.dropWhile isWhitespace = s := by
    rw [List.dropWhile_eq_self_iff]
    intro hs
    simp [h _ (List.getElem_mem hs)]
  have hlast : ∀ hs : s ≠ [], isWhitespace (s.getLast hs) = false := fun hs => h _ (List.getLast_mem hs)
  rw [trim, hdrop, List.rdropWhile_eq_self_iff]
  simpa using hlast

theorem trim_toDigits (n : Nat) : trim (Nat.toDigits 10 n) = Nat.toDigits 10 n :=
  trim_eq_self fun _ hc => isWhitespace_of_isDigit (isDigit_of_mem_toDigits hc)

/-- Only the capital letters are changed, each to a small letter. -/
theorem toLower_cases (c : Char) :
    c.toLower = c ∨ 65 ≤ c.toNat ∧ c.toNat ≤ 90 ∧ c.toLower.toNat = c.toNat + 32 := by
  by_cases hupper : c.val ≥ 65 ∧ c.val ≤ 90
  · have hrange : 65 ≤ c.toNat ∧ c.toNat ≤ 90 := by
      obtain ⟨hle, hge⟩ := hupper
      exact ⟨UInt32.le_iff_toNat_le.mp hle, UInt32.le_iff_toNat_le.mp hge⟩
    have hupper' : c.val ≥ 'A'.val ∧ c.val ≤ 'Z'.val := hupper
    have hval : c.toLower.val = c.val + 32 := congrArg Char.val (dif_pos hupper')
    have hnat : c.val.toNat = c.toNat := rfl
    refine .inr ⟨hrange.1, hrange.2, ?_⟩
    show c.toLower.val.toNat = c.toNat + 32
    rw [hval, UInt32.toNat_add, hnat]
    simp only [UInt32.reduceToNat]
    omega
  · exact .inl (dif_neg hupper)

/-- A character other than the small letters comes from itself alone. -/
theorem eq_of_toLower {c d : Char} (h : c.toLower = d) (hd : d.toNat < 97) : c = d := by
  rcases toLower_cases c with hsame | ⟨hle, -, hlower⟩
  · rw [← h, hsame]
  · rw [h] at hlower
    omega

theorem isWhitespace_toLower (c : Char) : isWhitespace c.toLower = isWhitespace c := by
  rcases toLower_cases c with hsame | ⟨hle, hge, hlower⟩
  · rw [hsame]
  · rw [isWhitespace_eq_false (c := c) (by omega), isWhitespace_eq_false (by omega)]

theorem trim_toAsciiLowercase (s : List Char) :
    trim (toAsciiLowercase s) = toAsciiLowercase (trim s) := by
  have hcomp : isWhitespace ∘ Char.toLower = isWhitespace := funext isWhitespace_toLower
  simp only [trim, toAsciiLowercase, List.rdropWhile, List.dropWhile_map, hcomp, ← List.map_reverse]

end Rust
