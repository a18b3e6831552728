import CommitPolicy.Proofs.Header.Pattern
import CommitPolicy.Proofs.Message.Footer
import CommitPolicy.Proofs.Pattern.AnyCase
import CommitPolicy.Text.Table.CaseFolding

namespace CommitPolicy.Message

open Pattern Expr

theorem startsWithReference_iff {cs : List Char} :
    startsWithReference cs ↔ (∃ c rest, cs = '#' :: c :: rest ∧ c.isDigit) ∨
      ∃ id rest, cs = id ++ rest ∧ Issue.IsIdentifier id := by
  constructor
  · intro h
    rw [startsWithReference.eq_def] at h
    split at h
    · rename_i c rest
      exact .inl ⟨c, rest, rfl, h⟩
    · obtain ⟨⟨id, rest⟩, hid⟩ := Option.isSome_iff_exists.1 h
      exact .inr ⟨id, rest, (Issue.append_of_leading? hid).symm, Issue.isIdentifier_of_leading? hid⟩
  · rintro (⟨c, rest, rfl, hc⟩ | ⟨id, rest, rfl, hid⟩)
    · exact hc
    · exact startsWithReference_of_isIdentifier hid rest

theorem not_isBlank_of_startsWithReference {cs : List Char} (h : startsWithReference cs) :
    ∀ c ∈ cs.head?, ¬ Text.isBlank c := by
  rcases startsWithReference_iff.1 h with ⟨c, rest, rfl, -⟩ | ⟨id, rest, rfl, hid⟩
  · simp +decide
  · obtain ⟨key, number, hkey, -, hupper, -, rfl⟩ := hid
    cases key with
    | nil => exact absurd rfl hkey
    | cons k key =>
      rintro _ ⟨⟩ hblank
      have hk := hupper k List.mem_cons_self
      rw [Text.isUpper_iff] at hk
      simp only [Text.isBlank, Bool.or_eq_true, Bool.and_eq_true, decide_eq_true_eq,
        beq_iff_eq] at hblank
      omega

theorem startsWithBlankReference_iff {cs : List Char} :
    startsWithBlankReference cs ↔ ∃ blanks rest, cs = blanks ++ rest ∧ 1 ≤ blanks.length ∧
      (∀ c ∈ blanks, Text.isBlank c) ∧ startsWithReference rest := by
  constructor
  · intro h
    cases cs with
    | nil => simp [startsWithBlankReference] at h
    | cons c cs =>
      rw [startsWithBlankReference, Bool.and_eq_true] at h
      refine ⟨c :: cs.takeWhile Text.isBlank, Text.trimLeft cs, ?_, by simp, ?_, h.2⟩
      · rw [List.cons_append, Text.trimLeft, List.takeWhile_append_dropWhile]
      · exact List.forall_mem_cons.2 ⟨h.1, fun d hd => List.mem_takeWhile_imp hd⟩
  · rintro ⟨blanks, rest, rfl, hlength, hblanks, hrest⟩
    cases blanks with
    | nil => simp at hlength
    | cons c blanks =>
      obtain ⟨hc, hblanks⟩ := List.forall_mem_cons.1 hblanks
      rw [List.cons_append, startsWithBlankReference, Text.trimLeft_append_of_blank hblanks,
        Text.trimLeft_eq_self (not_isBlank_of_startsWithReference hrest), hc, hrest]
      rfl

def keywordLetters : List Char := ['c', 'd', 'e', 'f', 'i', 'l', 'o', 'r', 's', 'v', 'x']

set_option maxRecDepth 20000 in
theorem caseFold_keywordLetters :
    (keywordLetters.all fun k =>
      Text.Table.caseFold.runs.all (!·.covers k.toNat) &&
      (Text.Table.caseFold.preimages k).all (matchesLetter k) &&
      Text.Table.caseFold.apply k.toUpper == [k]) ∧
    Text.Table.caseFold.apply 'ſ' = ['s'] := by
  -- The statement is a Boolean, since one that is bounded by a list of characters would be decided
  -- by going through all characters there are.
  rw [Text.Table.caseFold, Text.CodePointMap.ofText_eq rfl]
  decide +kernel

theorem contains_anyCase_letter_iff {k c : Char} (hk : k ∈ keywordLetters) :
    ((CharSet.char k).anyCase true).contains c ↔ matchesLetter k c := by
  obtain ⟨hletters, hlong⟩ := caseFold_keywordLetters
  have hletter := List.all_eq_true.1 hletters k hk
  simp only [Bool.and_eq_true, List.all_eq_true, Bool.not_eq_true', beq_iff_eq] at hletter
  obtain ⟨⟨hruns, hpreimages⟩, hupper⟩ := hletter
  have hzero : k ≠ '\x00' := by
    rintro rfl
    exact absurd hk (by decide)
  rw [CharSet.contains_anyCase_char_iff hzero fun r hr => Bool.eq_false_iff.1 (hruns r hr)]
  constructor
  · rintro (rfl | h)
    · simp [matchesLetter]
    · rcases Text.CodePointMap.mem_preimages_of_apply hzero h with rfl | h
      · simp [matchesLetter]
      · exact hpreimages c h
  · intro h
    simp only [matchesLetter, Bool.or_eq_true, Bool.and_eq_true, beq_iff_eq] at h
    obtain (rfl | rfl) | ⟨rfl, rfl⟩ := h
    · exact .inl rfl
    · exact .inr hupper
    · exact .inr hlong

theorem afterKeyword?_eq_some_iff {keyword cs rest : List Char}
    (hkeyword : ∀ k ∈ keyword, k ∈ keywordLetters) :
    afterKeyword? keyword cs = some rest ↔ ∃ start, cs = start ++ rest ∧
      List.Forall₂ (fun k c => ((CharSet.char k).anyCase true).contains c) keyword start := by
  induction keyword generalizing cs with
  | nil => simp [afterKeyword?]
  | cons k keyword ih =>
    obtain ⟨hk, hkeyword⟩ := List.forall_mem_cons.1 hkeyword
    simp only [List.forall₂_cons_left_iff]
    cases cs with
    | nil => simp [afterKeyword?]
    | cons c cs =>
      rw [afterKeyword?, Option.ite_none_right_eq_some, ← contains_anyCase_letter_iff hk,
        ih hkeyword]
      constructor
      · rintro ⟨hc, start, rfl, hstart⟩
        exact ⟨c :: start, rfl, c, start, hc, hstart, rfl⟩
      · rintro ⟨_, hcs, d, start, hd, hstart, rfl⟩
        obtain ⟨rfl, rfl⟩ := List.cons_eq_cons.1 hcs
        exact ⟨hd, start, rfl, hstart⟩

def inflection : CharSet := .anyCase true (.unionOf [.char 's', .char 'd'])

def inflected (stem : String) (ending : Expr) : Expr :=
  anyCaseLiteral stem.toList <| .seq (.repeated ending 0 (some 1)) .empty

/-- `close[sd]?|fix(?:e[sd])?|resolve[sd]?` in any letter case. -/
def keywordExpr : Expr :=
  .alt (.alt (inflected "close" (.set inflection))
    (inflected "fix" (anyCaseLiteral "e".toList <| .seq (.set inflection) .empty)))
    (inflected "resolve" (.set inflection))

/-- `#[0-9]+|[A-Z]+-[0-9]+` -/
def referenceExpr : Expr :=
  .alt (.seq (.set (.char '#')) <| .seq (.repeated (.set Header.numberSet) 1 none) .empty)
    (.seq (.repeated (.set Header.keySet) 1 none) <| .seq (.set (.char '-')) <|
      .seq (.repeated (.set Header.numberSet) 1 none) .empty)

def blankReferenceExpr : Expr :=
  .seq (.repeated (.set .blank) 1 none) <| .seq referenceExpr .empty

def footerPattern : Pattern where
  source :=
    "^(?:BREAKING CHANGE: |BREAKING-CHANGE: |(?i:close[sd]?|fix(?:e[sd])?|resolve[sd]?)\\s+(?:#[0-9]+|[A-Z]+-[0-9]+))"
  expr := .seq (.assert .textStart) <| .seq
    (.alt (.alt (literal "BREAKING CHANGE: ".toList .empty)
      (literal "BREAKING-CHANGE: ".toList .empty))
      (.seq keywordExpr blankReferenceExpr)) .empty

theorem ofSource?_footerPattern :
    Pattern.ofSource? footerPattern.source = some footerPattern := by
  rfl

section Pieces

variable {e ending : Expr} {stem : String} {front back : List Char}

theorem matchesBetween_inflected : (seq (inflected stem ending) e).MatchesBetween front back ↔
    (anyCaseLiteral stem.toList e).MatchesBetween front back ∨
      (anyCaseLiteral stem.toList (seq ending e)).MatchesBetween front back := by
  simp only [inflected, matchesBetween_seq_anyCaseLiteral, matchesBetween_anyCaseLiteral,
    matchesBetween_seq_seq, matchesBetween_seq_optional, matchesBetween_seq_seq_empty, and_or_left,
    exists_or]

theorem matchesBetween_inflection {stem : List Char} :
    (anyCaseLiteral stem (seq (set inflection) e)).MatchesBetween front back ↔
      (anyCaseLiteral (stem ++ ['s']) e).MatchesBetween front back ∨
        (anyCaseLiteral (stem ++ ['d']) e).MatchesBetween front back := by
  simp only [anyCaseLiteral_append, @matchesBetween_anyCaseLiteral _ _ stem, inflection,
    anyCaseLiteral, matchesBetween_seq_set, CharSet.contains_anyCase_unionOf, List.mem_cons,
    List.not_mem_nil, or_false, exists_eq_left, or_and_right, and_or_left, exists_or]

theorem matchesBetween_vowel_inflection {stem vowel : List Char} :
    (anyCaseLiteral stem (seq (anyCaseLiteral vowel (seq (set inflection) empty)) e)).MatchesBetween
        front back ↔
      (anyCaseLiteral (stem ++ vowel ++ ['s']) e).MatchesBetween front back ∨
        (anyCaseLiteral (stem ++ vowel ++ ['d']) e).MatchesBetween front back := by
  rw [← matchesBetween_inflection, anyCaseLiteral_append]
  simp only [matchesBetween_anyCaseLiteral, matchesBetween_seq_anyCaseLiteral,
    matchesBetween_seq_seq, matchesBetween_seq_seq_empty]

/-- The pattern for keywords stands for the nine of them. -/
theorem matchesBetween_keywordExpr : (seq keywordExpr e).MatchesBetween front back ↔
    ∃ keyword ∈ closingKeywords, (anyCaseLiteral keyword.toList e).MatchesBetween front back := by
  simp only [keywordExpr, matchesBetween_seq_alt, matchesBetween_inflected,
    matchesBetween_inflection, matchesBetween_vowel_inflection, closingKeywords, List.mem_cons,
    List.not_mem_nil, or_false, exists_eq_or_imp, exists_eq_left, or_assoc]
  exact Iff.rfl

theorem matchesBetween_referenceExpr :
    (seq referenceExpr .empty).MatchesBetween front back ↔ startsWithReference back := by
  simp only [referenceExpr, matchesBetween_seq_alt, matchesBetween_seq_seq, matchesBetween_seq_set,
    matchesBetween_seq_repeated_set, matchesBetween_seq_empty, matchesBetween_empty, and_true,
    CharSet.contains_char, Header.contains_numberSet, Header.contains_keySet,
    startsWithReference_iff]
  refine or_congr ?_ ?_
  · constructor
    · rintro ⟨_, _, rfl, rfl, number, rest, rfl, hlength, hdigit⟩
      cases number with
      | nil => simp at hlength
      | cons c number => exact ⟨c, number ++ rest, rfl, hdigit c List.mem_cons_self⟩
    · rintro ⟨c, rest, rfl, hc⟩
      have hdigit : ∀ d ∈ [c], d.isDigit := List.forall_mem_singleton.2 hc
      exact ⟨'#', c :: rest, rfl, rfl, [c], rest, rfl, Nat.le_refl 1, hdigit⟩
  · constructor
    · rintro ⟨key, _, rfl, hkey, hupper, _, _, rfl, rfl, number, rest, rfl, hnumber, hdigit⟩
      exact ⟨key ++ '-' :: number, rest, by simp, key, number, List.length_pos_iff.1 hkey,
        List.length_pos_iff.1 hnumber, hupper, hdigit, rfl⟩
    · rintro ⟨_, rest, rfl, key, number, hkey, hnumber, hupper, hdigit, rfl⟩
      exact ⟨key, '-' :: (number ++ rest), by simp, List.length_pos_iff.2 hkey, hupper, _, _, rfl,
        rfl, number, rest, rfl, List.length_pos_iff.2 hnumber, hdigit⟩

theorem matchesBetween_blankReferenceExpr :
    (seq blankReferenceExpr empty).MatchesBetween front back ↔ startsWithBlankReference back := by
  simp only [blankReferenceExpr, matchesBetween_seq_seq, matchesBetween_seq_seq_empty,
    matchesBetween_seq_repeated_set, CharSet.contains, matchesBetween_referenceExpr,
    startsWithBlankReference_iff]

end Pieces

theorem subset_keywordLetters :
    ∀ keyword ∈ closingKeywords, keyword.toList ⊆ keywordLetters := by
  decide

theorem occursIn_footerPattern {line : String} :
    footerPattern.occursIn line ↔ isFooterLine line.toList := by
  rw [Pattern.occursIn, footerPattern, occursIn_textStart_iff, isFooterLine, Bool.or_eq_true]
  simp only [matchesBetween_seq_alt, matchesBetween_seq_literal, matchesBetween_seq_seq,
    matchesBetween_literal, matchesBetween_seq_empty, matchesBetween_empty, and_true,
    matchesBetween_keywordExpr]
  apply or_congr
  · simp only [breakingNotes, List.any_cons, List.any_nil, Bool.or_false, Bool.or_eq_true,
      List.isPrefixOf_iff_prefix]
    exact or_congr (exists_congr fun _ => eq_comm) (exists_congr fun _ => eq_comm)
  · rw [List.any_eq_true]
    refine exists_congr fun keyword => and_congr_right fun hkeyword => ?_
    simp only [matchesBetween_anyCaseLiteral, matchesBetween_blankReferenceExpr,
      Option.any_eq_true, afterKeyword?_eq_some_iff (subset_keywordLetters keyword hkeyword)]
    constructor
    · rintro ⟨start, rest, hline, hstart, hrest⟩
      exact ⟨rest, ⟨start, hline, hstart⟩, hrest⟩
    · rintro ⟨rest, ⟨start, hline, hstart⟩, hrest⟩
      exact ⟨start, rest, hline, hstart, hrest⟩

end CommitPolicy.Message
