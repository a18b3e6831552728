import CommitPolicy.Header.Basic
import CommitPolicy.Proofs.Issue.Identifier

namespace CommitPolicy

namespace Header

def separated (breaking : Bool) (subject : List Char) : List Char :=
  (if breaking then ['!'] else []) ++ ':' :: ' ' :: subject

theorem separated_eq_append (breaking : Bool) (subject : List Char) :
    separated breaking subject = separated breaking [] ++ subject := by
  simp [separated]

theorem separator?_separated (breaking : Bool) (subject : List Char) :
    separator? (separated breaking subject) = some (breaking, subject) := by
  cases breaking <;> rfl

theorem separator?_eq_some_iff {cs subject : List Char} {breaking : Bool} :
    separator? cs = some (breaking, subject) ↔ cs = separated breaking subject := by
  constructor
  · intro h
    exact (format_of_separator? h).symm
  · rintro rfl
    exact separator?_separated breaking subject

theorem separated_inj {breaking breaking' : Bool} {subject subject' : List Char} :
    separated breaking subject = separated breaking' subject' ↔
      breaking = breaking' ∧ subject = subject' := by
  rw [← separator?_eq_some_iff, separator?_separated, Option.some.injEq, Prod.mk.injEq]

theorem longestScope?_cons_of_ne {c : Char} (hc : c ≠ ')') (cs : List Char) :
    longestScope? (c :: cs) = (longestScope? cs).map fun r => (c :: r.1, r.2) := by
  rw [longestScope?]
  cases longestScope? cs with
  | none => simp [hc]
  | some r => rfl

theorem longestScope?_append {cs scope subject : List Char} {breaking : Bool} (pre : List Char)
    (h : longestScope? cs = some (scope, breaking, subject)) :
    longestScope? (pre ++ cs) = some (pre ++ scope, breaking, subject) := by
  induction pre with
  | nil => exact h
  | cons c pre ih => rw [List.cons_append, longestScope?, ih]; rfl

theorem longestScope?_separated (breaking : Bool) (subject : List Char) :
    longestScope? (separated breaking subject) =
      (longestScope? subject).map fun r => (separated breaking r.1, r.2) := by
  cases breaking <;> simp [separated, longestScope?_cons_of_ne] <;> rfl

theorem longestScope?_of_none {subject : List Char} (h : longestScope? subject = none)
    (scope : List Char) (breaking : Bool) :
    longestScope? (scope ++ ')' :: separated breaking subject) =
      some (scope, breaking, subject) := by
  have hs : longestScope? (')' :: separated breaking subject) = some ([], breaking, subject) := by
    rw [longestScope?, longestScope?_separated, h, separator?_separated]
    rfl
  simpa using longestScope?_append scope hs

theorem longestScope?_of_some {subject scope' subject' : List Char} {breaking' : Bool}
    (h : longestScope? subject = some (scope', breaking', subject'))
    (scope : List Char) (breaking : Bool) :
    longestScope? (scope ++ ')' :: separated breaking subject) =
      some (scope ++ ')' :: separated breaking scope', breaking', subject') := by
  have hs := longestScope?_append (scope ++ ')' :: separated breaking []) h
  rw [separated_eq_append breaking subject, separated_eq_append breaking scope']
  simpa using hs

theorem exists_longestScope? (scope : List Char) (breaking : Bool) (subject : List Char) :
    ∃ scope' breaking' subject', scope <+: scope' ∧
      longestScope? (scope ++ ')' :: separated breaking subject) =
        some (scope', breaking', subject') := by
  cases h : longestScope? subject with
  | none =>
    exact ⟨scope, breaking, subject, List.prefix_rfl, longestScope?_of_none h scope breaking⟩
  | some r => exact ⟨_, _, _, List.prefix_append _ _, longestScope?_of_some h scope breaking⟩

theorem longestScope?_eq_some_iff {cs scope subject : List Char} {breaking : Bool} :
    longestScope? cs = some (scope, breaking, subject) ↔
      cs = scope ++ ')' :: separated breaking subject ∧ longestScope? subject = none := by
  constructor
  · intro h
    have hcs : cs = scope ++ ')' :: separated breaking subject := (format_of_longestScope? h).symm
    refine ⟨hcs, ?_⟩
    cases hs : longestScope? subject with
    | none => rfl
    | some r =>
      rw [hcs, longestScope?_of_some hs] at h
      simp at h
  · rintro ⟨rfl, h⟩
    exact longestScope?_of_none h scope breaking

theorem longestScope?_eq_none_iff {cs : List Char} :
    longestScope? cs = none ↔ ∀ breaking, ¬ (')' :: separated breaking []) <:+: cs := by
  constructor
  · rintro h breaking ⟨before, after, rfl⟩
    obtain ⟨scope, breaking', subject, -, hs⟩ := exists_longestScope? before breaking after
    rw [separated_eq_append, ← List.cons_append, ← List.append_assoc, h] at hs
    cases hs
  · intro h
    cases hs : longestScope? cs with
    | none => rfl
    | some r =>
      obtain ⟨scope, breaking, subject⟩ := r
      refine absurd ⟨scope, subject, ?_⟩ (h breaking)
      rw [(longestScope?_eq_some_iff.1 hs).1, separated_eq_append breaking subject]
      simp

theorem issueScope?_eq_some_iff {cs scope subject : List Char} {breaking : Bool} :
    issueScope? cs = some (scope, breaking, subject) ↔
      cs = scope ++ ')' :: separated breaking subject ∧ Issue.IsIdentifier scope := by
  constructor
  · intro h
    refine ⟨(format_of_issueScope? h).symm, ?_⟩
    rw [issueScope?] at h
    split at h
    · rename_i id rest hid
      obtain ⟨⟨b, t⟩, -, he⟩ := Option.map_eq_some_iff.1 h
      obtain ⟨rfl, -, -⟩ : id = scope ∧ b = breaking ∧ t = subject := by simpa using he
      exact Issue.isIdentifier_of_leading? hid
    · simp at h
  · rintro ⟨rfl, h⟩
    have hhead : ∀ c ∈ (')' :: separated breaking subject).head?, ¬ c.isDigit := by simp +decide
    have hl := Issue.leading?_append h hhead
    simp only [issueScope?, hl, separator?_separated, Option.map_some]

end Header

/-- The scope can stand before the subject: nothing in the subject could end a longer scope, or the
scope is an identifier. -/
def Grammar.Fits : Grammar → (scope subject : List Char) → Prop
  | .anyScope, _, subject => Header.longestScope? subject = none
  | .issueScope, scope, _ => Issue.IsIdentifier scope

namespace Header

theorem scope?_eq_some_iff {g : Grammar} {cs scope subject : List Char} {breaking : Bool} :
    scope? g cs = some (scope, breaking, subject) ↔
      cs = scope ++ ')' :: separated breaking subject ∧ g.Fits scope subject := by
  cases g with
  | anyScope => exact longestScope?_eq_some_iff
  | issueScope => exact issueScope?_eq_some_iff

namespace Parts

structure Legal (g : Grammar) (p : Parts) : Prop where
  type : ∀ c ∈ p.type, isWordChar c
  scope : ∀ scope ∈ p.scope, g.Fits scope p.subject
  line : '\n' ∉ p.format

def afterType : Parts → List Char
  | ⟨_, some scope, breaking, subject⟩ => '(' :: (scope ++ ')' :: separated breaking subject)
  | ⟨_, none, breaking, subject⟩ => separated breaking subject

theorem format_eq (p : Parts) : p.format = p.type ++ p.afterType := by
  obtain ⟨type, scope, breaking, subject⟩ := p
  cases scope <;> simp [format, afterType, separated]

theorem exists_format_eq_append (p : Parts) : ∃ start, p.format = start ++ ' ' :: p.subject := by
  rw [format, List.append_cons _ (':')]
  exact ⟨_, rfl⟩

theorem head?_afterType (p : Parts) : ∀ c ∈ p.afterType.head?, ¬ isWordChar c := by
  obtain ⟨type, scope, breaking, subject⟩ := p
  cases scope <;> cases breaking <;> simp +decide [afterType, separated]

theorem format_inj_type {p q : Parts} (hp : ∀ c ∈ p.type, isWordChar c)
    (hq : ∀ c ∈ q.type, isWordChar c) (h : p.format = q.format) :
    p.type = q.type ∧ p.afterType = q.afterType := by
  rw [format_eq, format_eq] at h
  exact Text.append_inj_span hp hq p.head?_afterType q.head?_afterType h

theorem format_inj_scope {type type' scope scope' subject subject' : List Char}
    {breaking breaking' : Bool} (ht : ∀ c ∈ type, isWordChar c)
    (ht' : ∀ c ∈ type', isWordChar c) (hs : ')' ∉ scope) (hs' : ')' ∉ scope')
    (h : format ⟨type, some scope, breaking, subject⟩ =
      format ⟨type', some scope', breaking', subject'⟩) :
    type = type' ∧ scope = scope' ∧ breaking = breaking' ∧ subject = subject' := by
  obtain ⟨htype, hafter⟩ := format_inj_type ht ht' h
  simp only [afterType, List.cons.injEq, true_and] at hafter
  obtain ⟨hscope, hclose⟩ := Text.append_inj_span (Text.bne_of_not_mem hs)
    (Text.bne_of_not_mem hs') (by simp) (by simp) hafter
  rw [List.cons.injEq, separated_inj] at hclose
  exact ⟨htype, hscope, hclose.2⟩

theorem format_unscoped_ne_scoped {type type' scope subject subject' : List Char}
    {breaking breaking' : Bool} (ht : ∀ c ∈ type, isWordChar c) (ht' : ∀ c ∈ type', isWordChar c) :
    format ⟨type, none, breaking, subject⟩ ≠ format ⟨type', some scope, breaking', subject'⟩ := by
  intro h
  have hafter := (format_inj_type ht ht' h).2
  cases breaking <;> simp [afterType, separated] at hafter

theorem afterType?_afterType {g : Grammar} {p : Parts} (h : p.Legal g) :
    afterType? g p.type p.afterType = some p := by
  obtain ⟨type, scope, breaking, subject⟩ := p
  cases scope with
  | none => cases breaking <;> rfl
  | some scope =>
    have hs : scope? g (scope ++ ')' :: separated breaking subject) =
        some (scope, breaking, subject) := scope?_eq_some_iff.2 ⟨rfl, h.scope scope rfl⟩
    simp only [afterType, afterType?, hs, Option.map_some]

theorem ofLine?_format {g : Grammar} {p : Parts} (h : p.Legal g) :
    ofLine? g p.format = some p := by
  rw [ofLine?, if_neg h.line, format_eq, Text.takeWhile_append h.type p.head?_afterType,
    Text.dropWhile_append h.type p.head?_afterType, afterType?_afterType h]

theorem legal_of_ofLine? {g : Grammar} {line : List Char} {p : Parts}
    (h : ofLine? g line = some p) : p.Legal g := by
  have hformat := format_of_ofLine? h
  rw [ofLine?] at h
  split at h
  · simp at h
  · rename_i hline
    rw [← hformat] at hline
    have htype : ∀ c ∈ line.takeWhile isWordChar, isWordChar c := fun c => List.mem_takeWhile_imp
    rw [afterType?.eq_def] at h
    split at h
    · obtain ⟨⟨scope, b, t⟩, hs, rfl⟩ := Option.map_eq_some_iff.1 h
      refine ⟨htype, ?_, hline⟩
      rintro _ ⟨⟩
      exact (scope?_eq_some_iff.1 hs).2
    · obtain ⟨⟨b, t⟩, -, rfl⟩ := Option.map_eq_some_iff.1 h
      exact ⟨htype, (by simp), hline⟩

/-- A grammar reads pieces off a line exactly when they are legal and format to the line. -/
theorem ofLine?_eq_some_iff {g : Grammar} {line : List Char} {p : Parts} :
    ofLine? g line = some p ↔ p.format = line ∧ p.Legal g := by
  constructor
  · intro h
    exact ⟨format_of_ofLine? h, legal_of_ofLine? h⟩
  · rintro ⟨rfl, h⟩
    exact ofLine?_format h

end Parts

end Header

end CommitPolicy
