import CommitPolicy.Check.SubjectCase
import CommitPolicy.Proofs.Text.LetterCase
import CommitPolicy.Proofs.Text.Trim

namespace CommitPolicy

namespace Text

theorem exists_wordsAfter {word : List Char} (h : word ≠ []) (afterHump : Bool) (cs : List Char) :
    ∃ more ws, wordsAfter word afterHump cs = (word ++ more) :: ws := by
  have hword : word.isEmpty = false := by simpa using h
  induction cs generalizing word afterHump with
  | nil => exact ⟨[], [], by simp [wordsAfter, hword]⟩
  | cons c cs ih =>
    rw [wordsAfter]
    split
    · split
      · exact ⟨[], _, by rw [List.append_nil]⟩
      · have hne : word ++ [c] ≠ [] := by simp
        obtain ⟨more, ws, hw⟩ := ih hne (endsHump c) (by simp)
        exact ⟨c :: more, ws, by rw [hw, List.append_assoc, List.singleton_append]⟩
    · rw [hword]
      exact ⟨[], _, by rw [List.append_nil]; rfl⟩

theorem exists_words_cons {c : Char} (h : isAlphanumeric c) (cs : List Char) :
    ∃ more ws, words (c :: cs) = (c :: more) :: ws := by
  have hnew : words (c :: cs) = wordsAfter [c] (endsHump c) cs := by
    simp [words, wordsAfter, h]
  rw [hnew]
  exact exists_wordsAfter (List.cons_ne_nil c []) (endsHump c) cs

theorem dropQuoted_cons {c : Char} (h : ¬ isQuoteMark c) (cs : List Char) :
    dropQuoted (c :: cs) = c :: dropQuoted cs := by
  rw [dropQuoted, if_neg h]

theorem plain_of_isAlpha {c : Char} (h : c.isAlpha) : ¬ isBlank c ∧ ¬ isQuoteMark c := by
  have hn : (65 ≤ c.toNat ∧ c.toNat ≤ 90) ∨ (97 ≤ c.toNat ∧ c.toNat ≤ 122) := by
    rwa [isAlpha_iff, isUpper_iff, isLower_iff] at h
  constructor
  · simp only [isBlank, Bool.or_eq_true, Bool.and_eq_true, decide_eq_true_eq, beq_iff_eq]
    omega
  · intro hq
    simp only [isQuoteMark, Bool.or_eq_true, beq_iff_eq] at hq
    rcases hq with (rfl | rfl) | rfl <;> simp at hn

end Text

namespace SubjectCase

open Text

theorem exists_unquoted_cons {c : Char} (h : c.isAlpha) (cs : List Char) :
    ∃ rest, unquoted (c :: cs) = c :: rest := by
  obtain ⟨hblank, hmark⟩ := plain_of_isAlpha h
  have hlast : ∀ d ∈ [c].getLast?, ¬ isBlank d := by simpa using hblank
  refine ⟨trimRight (dropQuoted cs), ?_⟩
  rw [unquoted, dropQuoted_cons hmark, trim_eq_trimRight (by simpa using hblank),
    ← List.singleton_append, trimRight_append_of_getLast? hlast, List.singleton_append]

/-- Every case writes a capital where the text starts with a small letter. -/
theorem head?_transform (k : SubjectCase) {c : Char} (h : c.isLower) (cs : List Char) :
    (k.transform (c :: cs)).head? = some c.toUpper := by
  have hascii := isAscii_of_isLower h
  have hc : Text.upper c = [c.toUpper] := if_pos hascii
  have hnum : isAlphanumeric c := by
    rw [isAlphanumeric, if_pos hascii]
    simp [Char.isAlphanum, Char.isAlpha, h]
  obtain ⟨more, ws, hw⟩ := exists_words_cons hnum cs
  cases k with
  | sentence => rw [transform, capitalize, hc]; rfl
  | start =>
    rw [transform, hw, List.map_cons, capitalize, hc]
    cases ws <;> rfl
  | pascal =>
    rw [transform, hw, List.flatMap_cons, lowerCase,
      lowerCaseAfter_cons hascii (Char.not_isUpper_of_isLower h), capitalize, hc]
    rfl
  | upper => rw [transform, upperCase, List.flatMap_cons, hc]; rfl

theorem not_holds_of_isLower (k : SubjectCase) {c : Char} (h : c.isLower) (cs : List Char) :
    ¬ k.holds (c :: cs) := by
  have hhead := k.head?_transform h cs
  intro hk
  rw [holds] at hk
  split at hk
  · cases hk
  · rename_i d ds hd
    rw [hd] at hhead
    simp only [Bool.and_eq_true, beq_iff_eq, List.cons.injEq] at hk
    obtain ⟨-, rfl, -⟩ := hk
    exact toUpper_ne_self h (Option.some.inj hhead).symm

theorem sentence_holds {c : Char} (h : c.isUpper) (cs : List Char) : sentence.holds (c :: cs) := by
  have hself : transform .sentence (c :: cs) = c :: cs := by
    rw [transform, capitalize, upper_eq_singleton (isAscii_of_isUpper h)
      (Char.not_isLower_of_isUpper h)]
    rfl
  have hdigit : ¬ c.isDigit := by
    rw [isUpper_iff] at h
    rw [isDigit_iff]
    omega
  rw [holds, hself]
  simpa using hdigit

theorem casesOf_eq_nil_iff {subject : List Char} :
    casesOf subject = [] ↔ ∀ c ∈ subject.head?, ¬ c.isUpper := by
  cases subject with
  | nil => simp [casesOf]
  | cons c cs =>
    rw [casesOf, List.head?_cons]
    constructor
    · rintro h _ ⟨⟩ hu
      have ha : c.isAlpha := isAlpha_iff.2 (.inl hu)
      obtain ⟨rest, hrest⟩ := exists_unquoted_cons ha cs
      rw [if_pos ha, hrest, List.filter_eq_nil_iff] at h
      exact h .sentence (by decide) (sentence_holds hu rest)
    · intro h
      split
      · rename_i ha
        have hl : c.isLower := (isAlpha_iff.1 ha).resolve_left (h c rfl)
        obtain ⟨rest, hrest⟩ := exists_unquoted_cons ha cs
        rw [hrest, List.filter_eq_nil_iff]
        exact fun k _ => k.not_holds_of_isLower hl rest
      · rfl

end SubjectCase

end CommitPolicy
