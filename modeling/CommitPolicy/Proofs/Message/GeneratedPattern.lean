import CommitPolicy.Proofs.Header.Pattern
import CommitPolicy.Proofs.Message.Generated

namespace CommitPolicy.Message

theorem firstLine_append {word : List Char} (h : '\n' ∉ word) (rest : List Char) :
    firstLine (word ++ rest) = word ++ firstLine rest :=
  List.takeWhile_append_of_pos (Text.bne_of_not_mem h)

/-- A word stands in the first line if it follows a run of characters that are no line feeds. -/
theorem infix_firstLine_iff {word cs : List Char} (hword : '\n' ∉ word) :
    word <:+: firstLine cs ↔ ∃ start rest, cs = start ++ rest ∧ 0 ≤ start.length ∧
      (∀ c ∈ start, c ≠ '\n') ∧ ∃ more, rest = word ++ more := by
  constructor
  · rintro ⟨start, rest, h⟩
    have hcs : firstLine cs ++ cs.dropWhile (· != '\n') = cs := List.takeWhile_append_dropWhile
    rw [← h] at hcs
    refine ⟨start, word ++ (rest ++ cs.dropWhile (· != '\n')), by simpa using hcs.symm,
      Nat.zero_le _, fun c hc => ?_, _, rfl⟩
    have hmem : c ∈ firstLine cs := by
      rw [← h]
      simp [hc]
    simpa using List.mem_takeWhile_imp hmem
  · rintro ⟨start, _, rfl, -, hstart, rest, rfl⟩
    rw [firstLine_append fun hm => hstart '\n' hm rfl, firstLine_append hword]
    exact ⟨start, firstLine rest, by simp⟩

theorem occursIn_iff_isInfix {part cs : List Char} : occursIn part cs ↔ part <:+: cs := by
  induction cs with
  | nil => simp [occursIn]
  | cons c cs ih => rw [occursIn, Bool.or_eq_true, List.isPrefixOf_iff_prefix, ih,
      List.infix_cons_iff]

namespace GeneratedHeader

theorem startsWithDigit_iff {cs : List Char} :
    startsWithDigit cs ↔ ∃ digits rest, cs = digits ++ rest ∧ 1 ≤ digits.length ∧
      ∀ c ∈ digits, Text.isDecimalDigit c := by
  constructor
  · intro h
    cases cs with
    | nil => simp [startsWithDigit] at h
    | cons c cs => exact ⟨[c], cs, rfl, Nat.le_refl 1, List.forall_mem_singleton.2 h⟩
  · rintro ⟨digits, rest, rfl, hlength, h⟩
    cases digits with
    | nil => simp at hlength
    | cons c digits => exact h c List.mem_cons_self

theorem namesTarget_iff {cs : List Char} :
    namesTarget cs ↔ ∃ name rest, cs = name ++ rest ∧ 1 ≤ name.length ∧
      (∀ c ∈ name, ¬ Text.isBlank c) ∧ (startsWith " in " rest ∨ startsWith " into " rest) := by
  constructor
  · intro h
    simp only [namesTarget, Bool.and_eq_true, Bool.or_eq_true, Bool.not_eq_true',
      List.isEmpty_eq_false_iff] at h
    refine ⟨_, _, List.takeWhile_append_dropWhile.symm, List.length_pos_iff.2 h.1, ?_, h.2⟩
    intro c hc
    simpa using List.mem_takeWhile_imp hc
  · rintro ⟨name, rest, rfl, hlength, hname, hrest⟩
    have hblank : ∀ c ∈ rest.head?, ¬ (!Text.isBlank c) := by
      obtain ⟨more, rfl⟩ | ⟨more, rfl⟩ := hrest.imp startsWith_iff.1 startsWith_iff.1
      · simp +decide
      · simp +decide
    have hname : ∀ c ∈ name, !Text.isBlank c := by simpa using hname
    simp only [namesTarget, Text.takeWhile_append hname hblank,
      Text.dropWhile_append hname hblank, Bool.and_eq_true, Bool.or_eq_true]
    exact ⟨by simpa using List.length_pos_iff.1 hlength, hrest⟩

open Pattern Expr

def source : GeneratedHeader → String
  | .mergedPullRequest => "^Merge pull request #\\d+"
  | .mergedBranch => "^Merge (?:remote-tracking )?branch "
  | .mergedTag => "^Merge tag "
  | .hostedMerge => "^Merged \\S+ in(?:to)? "
  | .revertByTitle => "^Revert \".*\""
  | .autosquash => "^(?:fixup|squash|amend)! "
  | .automaticMerge => "^Automatic merge"
  | .autoMerged => "^Auto-merged .* into "

def expr : GeneratedHeader → Expr
  | .mergedPullRequest =>
    literal "Merge pull request #".toList <| .seq (.repeated (.set .digit) 1 none) .empty
  | .mergedBranch =>
    literal "Merge ".toList <|
      .seq (.repeated (literal "remote-tracking ".toList .empty) 0 (some 1)) <|
      literal "branch ".toList .empty
  | .mergedTag => literal "Merge tag ".toList .empty
  | .hostedMerge =>
    literal "Merged ".toList <| .seq (.repeated (.set (.compl .blank)) 1 none) <|
      literal " in".toList <| .seq (.repeated (literal "to".toList .empty) 0 (some 1)) <|
      literal " ".toList .empty
  | .revertByTitle =>
    literal "Revert \"".toList <| .seq (.repeated (.set Header.lineSet) 0 none) <|
      literal "\"".toList .empty
  | .autosquash =>
    .seq (.alt (.alt (literal "fixup".toList .empty) (literal "squash".toList .empty))
      (literal "amend".toList .empty)) <| literal "! ".toList .empty
  | .automaticMerge => literal "Automatic merge".toList .empty
  | .autoMerged =>
    literal "Auto-merged ".toList <| .seq (.repeated (.set Header.lineSet) 0 none) <|
      literal " into ".toList .empty

def pattern (k : GeneratedHeader) : Pattern := ⟨k.source, .seq (.assert .textStart) k.expr⟩

theorem ofSource?_source (k : GeneratedHeader) : Pattern.ofSource? k.source = some k.pattern := by
  cases k <;> rfl

theorem exists_append_append_iff {first second cs : List Char} :
    (∃ rest, cs = first ++ rest ∧ ∃ more, rest = second ++ more) ↔
      ∃ more, cs = first ++ second ++ more := by
  constructor
  · rintro ⟨_, rfl, more, rfl⟩
    exact ⟨more, (List.append_assoc first second more).symm⟩
  · rintro ⟨more, rfl⟩
    exact ⟨second ++ more, List.append_assoc first second more, more, rfl⟩

theorem matchesBetween_expr (k : GeneratedHeader) {front cs : List Char} :
    k.expr.MatchesBetween front cs ↔ k.matchesHeader cs := by
  cases k with
  | mergedPullRequest =>
    simp only [expr, matchesHeader, any_after?_iff, startsWithDigit_iff, matchesBetween_literal,
      matchesBetween_seq_repeated_set, matchesBetween_empty, and_true, CharSet.contains]
  | mergedTag | automaticMerge =>
    simp only [expr, matchesHeader, startsWith_iff, matchesBetween_literal, matchesBetween_empty,
      and_true]
  | mergedBranch =>
    simp only [expr, matchesHeader, Bool.or_eq_true, startsWith_iff, matchesBetween_literal,
      matchesBetween_seq_optional, matchesBetween_seq_literal, matchesBetween_seq_empty,
      matchesBetween_empty, and_true, exists_append_append_iff, and_or_left, exists_or]
    exact Iff.rfl
  | hostedMerge =>
    simp only [expr, matchesHeader, any_after?_iff, namesTarget_iff, startsWith_iff,
      matchesBetween_literal, matchesBetween_seq_repeated_set, matchesBetween_seq_optional,
      matchesBetween_seq_literal, matchesBetween_seq_empty, matchesBetween_empty, and_true,
      CharSet.contains, exists_append_append_iff, and_or_left, exists_or, Bool.not_eq_true,
      Bool.not_eq_true']
    exact Iff.rfl
  | revertByTitle =>
    have hword : '\n' ∉ "\"".toList := by decide
    simp only [expr, matchesHeader, any_after?_iff, matchesBetween_literal,
      matchesBetween_seq_repeated_set, matchesBetween_empty, and_true, Header.contains_lineSet,
      ← infix_firstLine_iff hword]
    simp [List.singleton_infix_iff]
  | autosquash =>
    simp only [expr, matchesHeader, Bool.or_eq_true, startsWith_iff, matchesBetween_seq_alt,
      matchesBetween_seq_literal, matchesBetween_seq_empty, matchesBetween_literal,
      matchesBetween_empty, and_true, exists_append_append_iff]
    exact Iff.rfl
  | autoMerged =>
    have hword : '\n' ∉ " into ".toList := by decide
    simp only [expr, matchesHeader, any_after?_iff, matchesBetween_literal, occursIn_iff_isInfix,
      matchesBetween_seq_repeated_set, matchesBetween_empty, and_true, Header.contains_lineSet,
      ← infix_firstLine_iff hword]

theorem occursIn_pattern (k : GeneratedHeader) {line : String} :
    k.pattern.occursIn line ↔ k.matchesHeader line.toList := by
  rw [Pattern.occursIn, pattern, occursIn_textStart_iff, matchesBetween_expr]

end GeneratedHeader

theorem isGenerated_iff {line : String} :
    isGenerated line ↔ ∃ k : GeneratedHeader, k.pattern.occursIn line := by
  simp only [GeneratedHeader.occursIn_pattern]
  rw [isGenerated, List.any_eq_true]
  constructor
  · rintro ⟨k, -, h⟩
    exact ⟨k, h⟩
  · rintro ⟨k, h⟩
    exact ⟨k, by cases k <;> decide, h⟩

end CommitPolicy.Message
