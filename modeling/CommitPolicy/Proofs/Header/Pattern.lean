import CommitPolicy.Pattern.Parser
import CommitPolicy.Proofs.Header.Shape
import CommitPolicy.Proofs.Pattern.Meaning
import CommitPolicy.Proofs.Text.LetterCase

namespace CommitPolicy.Header

open Pattern (Assertion CharSet Expr)
open Pattern.CharSet (contains_char contains_range contains_unionOf)

def IsIssueScoped (line : List Char) : Prop :=
  '\n' ∉ line ∧ ∃ type id breaking subject, (∀ c ∈ type, isWordChar c) ∧ Issue.IsIdentifier id ∧
    line = type ++ '(' :: (id ++ ')' :: separated breaking subject)

def IsUnscoped (line : List Char) : Prop :=
  '\n' ∉ line ∧ ∃ type breaking subject, (∀ c ∈ type, isWordChar c) ∧
    line = type ++ separated breaking subject

theorem isIssueScoped_iff {line : List Char} :
    IsIssueScoped line ↔ ∃ type id breaking subject,
      Parts.ofLine? .issueScope line = some ⟨type, some id, breaking, subject⟩ := by
  constructor
  · rintro ⟨hline, type, id, b, subject, ht, hid, rfl⟩
    have hformat := Parts.format_eq ⟨type, some id, b, subject⟩
    rw [Parts.afterType] at hformat
    rw [← hformat] at hline ⊢
    refine ⟨type, id, b, subject, Parts.ofLine?_format ⟨ht, ?_, hline⟩⟩
    rintro _ ⟨⟩
    exact hid
  · rintro ⟨type, id, b, subject, h⟩
    obtain ⟨rfl, hlegal⟩ := Parts.ofLine?_eq_some_iff.1 h
    exact ⟨hlegal.line, type, id, b, subject, hlegal.type, hlegal.scope id rfl, Parts.format_eq _⟩

theorem isUnscoped_iff {line : List Char} :
    IsUnscoped line ↔ ∃ type breaking subject,
      Parts.ofLine? .issueScope line = some ⟨type, none, breaking, subject⟩ := by
  constructor
  · rintro ⟨hline, type, b, subject, ht, rfl⟩
    have hformat := Parts.format_eq ⟨type, none, b, subject⟩
    rw [Parts.afterType] at hformat
    rw [← hformat] at hline ⊢
    exact ⟨type, b, subject, Parts.ofLine?_format ⟨ht, by simp, hline⟩⟩
  · rintro ⟨type, b, subject, h⟩
    obtain ⟨rfl, hlegal⟩ := Parts.ofLine?_eq_some_iff.1 h
    exact ⟨hlegal.line, type, b, subject, hlegal.type, Parts.format_eq _⟩

theorem isSome_ofLine?_iff {line : List Char} :
    (Parts.ofLine? .issueScope line).isSome ↔ IsIssueScoped line ∨ IsUnscoped line := by
  rw [isIssueScoped_iff, isUnscoped_iff]
  rcases Parts.ofLine? .issueScope line with _ | ⟨type, _ | id, b, subject⟩ <;> simp

def wordSet : CharSet := .unionOf [.range 'A' 'Z', .range 'a' 'z', .range '0' '9', .char '_']

def keySet : CharSet := .unionOf [.range 'A' 'Z']

def numberSet : CharSet := .unionOf [.range '0' '9']

def lineSet : CharSet := .compl (.char '\n')

theorem contains_keySet {c : Char} : keySet.contains c ↔ c.isUpper := by
  simp only [keySet, contains_unionOf, List.mem_singleton, exists_eq_left, contains_range,
    Text.isUpper_iff]
  exact Iff.rfl

theorem contains_numberSet {c : Char} : numberSet.contains c ↔ c.isDigit := by
  simp only [numberSet, contains_unionOf, List.mem_singleton, exists_eq_left, contains_range,
    Text.isDigit_iff]
  exact Iff.rfl

theorem contains_wordSet {c : Char} : wordSet.contains c ↔ isWordChar c := by
  simp only [wordSet, contains_unionOf, List.mem_cons, List.not_mem_nil, or_false,
    exists_eq_or_imp, exists_eq_left, contains_range, contains_char, isWordChar, Char.isAlphanum,
    Bool.or_eq_true, beq_iff_eq, Text.isAlpha_iff, Text.isUpper_iff, Text.isLower_iff,
    Text.isDigit_iff, or_assoc]
  exact Iff.rfl

theorem contains_lineSet {c : Char} : lineSet.contains c ↔ c ≠ '\n' := by
  rw [lineSet, CharSet.contains, Bool.not_eq_true', ← Bool.not_eq_true, contains_char]

/-- `\([A-Z]+-[0-9]+\)`, followed by `e`. -/
def scopeThen (e : Expr) : Expr :=
  .seq (.set (.char '(')) <| .seq (.repeated (.set keySet) 1 none) <| .seq (.set (.char '-')) <|
    .seq (.repeated (.set numberSet) 1 none) <| .seq (.set (.char ')')) e

def separatedExpr : Expr :=
  .seq (.repeated (.set (.char '!')) 0 (some 1)) <| .seq (.set (.char ':')) <|
    .seq (.set (.char ' ')) <| .seq (.repeated (.set lineSet) 0 none) <|
    .seq (.assert .textEnd) .empty

/-- `(?:\(([A-Z]+-[0-9]+)\))?`, followed by `e`. -/
def groupedScopeThen (e : Expr) : Expr :=
  .seq (.repeated
    (.seq (.set (.char '(')) <| .seq
      (.seq (.repeated (.set keySet) 1 none) <| .seq (.set (.char '-')) <|
        .seq (.repeated (.set numberSet) 1 none) .empty) <|
      .seq (.set (.char ')')) .empty) 0 (some 1)) e

/-- `(!)?: (.*)$` -/
def groupedSeparatedExpr : Expr :=
  .seq (.repeated (.seq (.set (.char '!')) .empty) 0 (some 1)) <| .seq (.set (.char ':')) <|
    .seq (.set (.char ' ')) <| .seq (.seq (.repeated (.set lineSet) 0 none) .empty) <|
    .seq (.assert .textEnd) .empty

section Pieces

variable {e : Expr} {front back : List Char}

theorem matchesBetween_scopeThen :
    (scopeThen e).MatchesBetween front back ↔ ∃ id rest, back = '(' :: (id ++ ')' :: rest) ∧
      Issue.IsIdentifier id ∧ e.MatchesBetween (front ++ '(' :: (id ++ [')'])) rest := by
  simp only [scopeThen, Expr.matchesBetween_seq_repeated_set, Expr.matchesBetween_seq_set,
    contains_keySet, contains_numberSet, contains_char]
  constructor
  · rintro ⟨_, _, rfl, rfl, key, _, rfl, hkey, hupper, _, _, rfl, rfl, number, _, rfl, hnumber,
      hdigit, _, rest, rfl, rfl, h⟩
    exact ⟨key ++ '-' :: number, rest, by simp, ⟨key, number, List.length_pos_iff.1 hkey,
      List.length_pos_iff.1 hnumber, hupper, hdigit, rfl⟩, by simpa using h⟩
  · rintro ⟨_, rest, rfl, ⟨key, number, hkey, hnumber, hupper, hdigit, rfl⟩, h⟩
    exact ⟨_, _, rfl, rfl, key, '-' :: (number ++ ')' :: rest), by simp,
      List.length_pos_iff.2 hkey, hupper, _, _, rfl, rfl, number, _, rfl,
      List.length_pos_iff.2 hnumber, hdigit, _, _, rfl, rfl, by simpa using h⟩

theorem matchesBetween_separatedExpr : separatedExpr.MatchesBetween front back ↔
    ∃ breaking subject, back = separated breaking subject ∧ '\n' ∉ subject := by
  simp only [separatedExpr, Expr.matchesBetween_seq_optional, Expr.matchesBetween_seq_set,
    contains_char, Expr.matchesBetween_seq_repeated_set, contains_lineSet,
    Expr.matchesBetween_seq_assert, Assertion.holds, Option.isNone_iff_eq_none,
    List.head?_eq_none_iff, Expr.matchesBetween_empty, and_true]
  constructor
  · rintro (⟨_, _, rfl, rfl, _, _, rfl, rfl, subject, _, rfl, -, hs, rfl⟩ |
      ⟨_, _, rfl, rfl, _, _, rfl, rfl, _, _, rfl, rfl, subject, _, rfl, -, hs, rfl⟩)
    · exact ⟨false, subject, by simp [separated], fun hm => hs '\n' hm rfl⟩
    · exact ⟨true, subject, by simp [separated], fun hm => hs '\n' hm rfl⟩
  · rintro ⟨breaking, subject, rfl, hs⟩
    have hline : ∀ c ∈ subject, c ≠ '\n' := fun c hc hn => hs (hn ▸ hc)
    cases breaking with
    | false =>
      exact .inl ⟨_, _, rfl, rfl, _, _, rfl, rfl, subject, [], by simp, Nat.zero_le _, hline, rfl⟩
    | true =>
      exact .inr ⟨_, _, rfl, rfl, _, _, rfl, rfl, _, _, rfl, rfl, subject, [], by simp,
        Nat.zero_le _, hline, rfl⟩

theorem matchesBetween_groupedScopeThen : (groupedScopeThen e).MatchesBetween front back ↔
    e.MatchesBetween front back ∨ (scopeThen e).MatchesBetween front back := by
  simp only [groupedScopeThen, scopeThen, Expr.matchesBetween_seq_optional,
    Expr.matchesBetween_seq_seq, Expr.matchesBetween_seq_empty, Expr.matchesBetween_seq_set,
    Expr.matchesBetween_seq_repeated_set]

theorem matchesBetween_groupedSeparatedExpr :
    groupedSeparatedExpr.MatchesBetween front back ↔ separatedExpr.MatchesBetween front back := by
  simp only [groupedSeparatedExpr, separatedExpr, Expr.matchesBetween_seq_optional,
    Expr.matchesBetween_seq_seq, Expr.matchesBetween_seq_empty, Expr.matchesBetween_seq_set,
    Expr.matchesBetween_seq_repeated_set]

end Pieces

def issueScopedPattern : Pattern where
  source := "^[A-Za-z0-9_]*\\([A-Z]+-[0-9]+\\)!?: .*$"
  expr := .seq (.assert .textStart) <| .seq (.repeated (.set wordSet) 0 none) <|
    scopeThen separatedExpr

def issueScopePattern : Pattern where
  source :=
    "^(?P<type>[A-Za-z0-9_]*)(?:\\((?P<scope>[A-Z]+-[0-9]+)\\))?(?P<breaking>!)?: (?P<subject>.*)$"
  expr := .seq (.assert .textStart) <| .seq (.seq (.repeated (.set wordSet) 0 none) .empty) <|
    groupedScopeThen groupedSeparatedExpr

theorem ofSource?_issueScopedPattern :
    Pattern.ofSource? issueScopedPattern.source = some issueScopedPattern := by
  rfl

theorem ofSource?_issueScopePattern :
    Pattern.ofSource? issueScopePattern.source = some issueScopePattern := by
  rfl

theorem occursIn_issueScopedPattern {line : String} :
    issueScopedPattern.occursIn line ↔ IsIssueScoped line.toList := by
  rw [Pattern.occursIn, issueScopedPattern, Expr.occursIn_textStart_iff,
    Expr.matchesBetween_seq_repeated_set]
  simp only [contains_wordSet, matchesBetween_scopeThen, matchesBetween_separatedExpr]
  constructor
  · rintro ⟨type, _, hline, -, ht, id, _, rfl, hid, b, subject, rfl, hs⟩
    have hlegal := (Parts.legal_issueScope b ht hid hs).line
    rw [Parts.format_eq, Parts.afterType, ← hline] at hlegal
    exact ⟨hlegal, type, id, b, subject, ht, hid, hline⟩
  · rintro ⟨hline, type, id, b, subject, ht, hid, hformat⟩
    have hs : '\n' ∉ subject := fun hm => hline (by simp [hformat, separated, hm])
    exact ⟨type, _, hformat, Nat.zero_le _, ht, id, _, rfl, hid, b, subject, rfl, hs⟩

theorem occursIn_issueScopePattern {line : String} :
    issueScopePattern.occursIn line ↔ IsIssueScoped line.toList ∨ IsUnscoped line.toList := by
  rw [← occursIn_issueScopedPattern]
  simp only [Pattern.occursIn, issueScopePattern, issueScopedPattern, Expr.occursIn_textStart_iff,
    Expr.matchesBetween_seq_seq, Expr.matchesBetween_seq_empty,
    Expr.matchesBetween_seq_repeated_set, contains_wordSet, matchesBetween_groupedScopeThen,
    matchesBetween_scopeThen, matchesBetween_groupedSeparatedExpr, matchesBetween_separatedExpr,
    and_or_left, exists_or]
  rw [or_comm]
  refine or_congr_right ?_
  constructor
  · rintro ⟨type, _, hline, -, ht, b, subject, rfl, hs⟩
    have hlegal : '\n' ∉ Parts.format ⟨type, none, b, subject⟩ := by
      rw [Parts.newline_mem_format_iff ht]
      simpa using hs
    rw [Parts.format_eq, Parts.afterType, ← hline] at hlegal
    exact ⟨hlegal, type, b, subject, ht, hline⟩
  · rintro ⟨hline, type, b, subject, ht, hformat⟩
    have hs : '\n' ∉ subject := fun hm => hline (by simp [hformat, separated, hm])
    exact ⟨type, _, hformat, Nat.zero_le _, ht, b, subject, rfl, hs⟩

end CommitPolicy.Header
