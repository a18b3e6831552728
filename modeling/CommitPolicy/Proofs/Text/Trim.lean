import CommitPolicy.Text.Blank

namespace CommitPolicy.Text

theorem not_isBlank_of_head?_trimLeft {cs : List Char} :
    ∀ c ∈ (trimLeft cs).head?, ¬ isBlank c := by
  induction cs with
  | nil => simp [trimLeft]
  | cons c cs ih =>
    by_cases h : isBlank c
    · rwa [trimLeft, List.dropWhile_cons_of_pos h]
    · rw [trimLeft, List.dropWhile_cons_of_neg h]
      rintro _ ⟨⟩
      exact h

theorem trimLeft_eq_self {cs : List Char} (h : ∀ c ∈ cs.head?, ¬ isBlank c) :
    trimLeft cs = cs := by
  cases cs with
  | nil => rfl
  | cons c cs => exact List.dropWhile_cons_of_neg (h c rfl)

theorem trimLeft_append {xs : List Char} (h : trimLeft xs ≠ []) (ys : List Char) :
    trimLeft (xs ++ ys) = trimLeft xs ++ ys := by
  rw [trimLeft] at h
  rw [trimLeft, List.dropWhile_append, if_neg fun he => h (List.isEmpty_iff.1 he), trimLeft]

theorem trimLeft_append_of_blank {xs : List Char} (h : ∀ c ∈ xs, isBlank c) (ys : List Char) :
    trimLeft (xs ++ ys) = trimLeft ys := List.dropWhile_append_of_pos h

theorem trimRight_append {ys : List Char} (h : trimRight ys ≠ []) (xs : List Char) :
    trimRight (xs ++ ys) = xs ++ trimRight ys := by
  rw [trimRight, ne_eq, List.reverse_eq_nil_iff] at h
  rw [trimRight, List.reverse_append, trimLeft_append h, List.reverse_append, List.reverse_reverse,
    trimRight]

theorem trimRight_append_of_blank {ys : List Char} (h : ∀ c ∈ ys, isBlank c) (xs : List Char) :
    trimRight (xs ++ ys) = trimRight xs := by
  have hrev : ∀ c ∈ ys.reverse, isBlank c := fun c hc => h c (List.mem_reverse.1 hc)
  rw [trimRight, List.reverse_append, trimLeft_append_of_blank hrev, trimRight]

theorem trimRight_eq_self {cs : List Char} (h : ∀ c ∈ cs.getLast?, ¬ isBlank c) :
    trimRight cs = cs := by
  rw [trimRight, trimLeft_eq_self, List.reverse_reverse]
  rwa [List.head?_reverse]

theorem not_isBlank_of_getLast?_trimRight {cs : List Char} :
    ∀ c ∈ (trimRight cs).getLast?, ¬ isBlank c := by
  rw [trimRight, List.getLast?_reverse]
  exact not_isBlank_of_head?_trimLeft

theorem trimRight_eq_nil_iff {cs : List Char} : trimRight cs = [] ↔ ∀ c ∈ cs, isBlank c := by
  rw [trimRight, List.reverse_eq_nil_iff, trimLeft_eq_nil_iff]
  simp only [List.mem_reverse]

theorem exists_eq_trimRight_append (cs : List Char) :
    ∃ blanks, (∀ c ∈ blanks, isBlank c) ∧ cs = trimRight cs ++ blanks := by
  refine ⟨(cs.reverse.takeWhile isBlank).reverse, ?_, ?_⟩
  · intro c hc
    exact List.all_eq_true.1 List.all_takeWhile c (List.mem_reverse.1 hc)
  · rw [trimRight, trimLeft, ← List.reverse_append, List.takeWhile_append_dropWhile,
      List.reverse_reverse]

theorem trimRight_subset (cs : List Char) : trimRight cs ⊆ cs := by
  obtain ⟨blanks, -, h⟩ := exists_eq_trimRight_append cs
  intro c hc
  rw [h]
  exact List.mem_append_left blanks hc

/-- A text that does not end in a blank stays whole in front of whatever follows it. -/
theorem trimRight_append_of_getLast? {xs : List Char} (h : ∀ c ∈ xs.getLast?, ¬ isBlank c)
    (ys : List Char) : trimRight (xs ++ ys) = xs ++ trimRight ys := by
  by_cases hy : trimRight ys = []
  · rw [trimRight_append_of_blank (trimRight_eq_nil_iff.1 hy), trimRight_eq_self h, hy,
      List.append_nil]
  · exact trimRight_append hy xs

theorem trim_eq_nil_iff {cs : List Char} : trim cs = [] ↔ ∀ c ∈ cs, isBlank c := by
  rw [trim, trimRight_eq_nil_iff]
  constructor
  · intro h c hc
    rw [← List.takeWhile_append_dropWhile (p := isBlank) (l := cs)] at hc
    rcases List.mem_append.1 hc with hc | hc
    · exact List.all_eq_true.1 List.all_takeWhile c hc
    · exact h c hc
  · intro h c hc
    exact h c ((List.dropWhile_sublist _).subset hc)

theorem isInfix_trim (cs : List Char) : trim cs <:+: cs := by
  obtain ⟨blanks, -, h⟩ := exists_eq_trimRight_append (trimLeft cs)
  have hprefix : trim cs <+: trimLeft cs := ⟨blanks, h.symm⟩
  exact hprefix.isInfix.trans (List.dropWhile_suffix _).isInfix

theorem not_isBlank_of_head?_trim {cs : List Char} : ∀ c ∈ (trim cs).head?, ¬ isBlank c := by
  intro c hc
  obtain ⟨blanks, -, h⟩ := exists_eq_trimRight_append (trimLeft cs)
  have hhead : c ∈ (trimLeft cs).head? := by
    rw [h, List.head?_append, ← trim, Option.mem_def.1 hc]
    rfl
  exact not_isBlank_of_head?_trimLeft c hhead

theorem trim_eq_trimRight {cs : List Char} (h : ∀ c ∈ cs.head?, ¬ isBlank c) :
    trim cs = trimRight cs := by
  rw [trim, trimLeft_eq_self h]

theorem trim_eq_self {cs : List Char} (hstart : ∀ c ∈ cs.head?, ¬ isBlank c)
    (hstop : ∀ c ∈ cs.getLast?, ¬ isBlank c) : trim cs = cs := by
  rw [trim_eq_trimRight hstart, trimRight_eq_self hstop]

theorem trim_trim (cs : List Char) : trim (trim cs) = trim cs :=
  trim_eq_self not_isBlank_of_head?_trim not_isBlank_of_getLast?_trimRight

end CommitPolicy.Text
