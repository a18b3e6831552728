import CommitPolicy.Proofs.Header.Pattern

namespace CommitPolicy.Header

namespace Parts

structure MakesUp (p : Parts) (line : List Char) : Prop where
  newline : '\n' ∉ line
  type : ∀ c ∈ p.type, isWordChar c
  format : p.format = line

def scopeLength (p : Parts) : Nat := (p.scope.getD []).length

/-- Every other way to make up the line has a shorter scope. -/
def IsLongest (p : Parts) (line : List Char) : Prop :=
  p.MakesUp line ∧ ∀ q : Parts, q.MakesUp line → q ≠ p → q.scopeLength < p.scopeLength

variable {p q : Parts} {line : List Char}

theorem makesUp_of_ofLine? {g : Grammar} (h : ofLine? g line = some p) : p.MakesUp line := by
  obtain ⟨rfl, hlegal⟩ := ofLine?_eq_some_iff.1 h
  exact ⟨hlegal.line, hlegal.type, rfl⟩

theorem makesUp_iff : p.MakesUp line ↔ line = p.type ++ p.afterType ∧
    (∀ c ∈ p.type, isWordChar c) ∧ (∀ scope ∈ p.scope, '\n' ∉ scope) ∧ '\n' ∉ p.subject := by
  have hnewline (htype : ∀ c ∈ p.type, isWordChar c) :
      '\n' ∉ p.format ↔ (∀ scope ∈ p.scope, '\n' ∉ scope) ∧ '\n' ∉ p.subject := by
    simp [newline_mem_format_iff htype]
  constructor
  · rintro ⟨hline, htype, rfl⟩
    exact ⟨p.format_eq, htype, (hnewline htype).1 hline⟩
  · rintro ⟨rfl, htype, hrest⟩
    rw [← p.format_eq]
    exact ⟨(hnewline htype).2 hrest, htype, rfl⟩

theorem MakesUp.type_eq (hp : p.MakesUp line) (hq : q.MakesUp line) :
    p.type = q.type ∧ p.scope.isSome = q.scope.isSome := by
  have hformat : p.format = q.format := hp.format.trans hq.format.symm
  refine ⟨(format_inj_type hp.type hq.type hformat).1, ?_⟩
  obtain ⟨type, scope, breaking, subject⟩ := p
  obtain ⟨type', scope', breaking', subject'⟩ := q
  cases scope with
  | none =>
    cases scope' with
    | none => rfl
    | some scope' => exact absurd hformat (format_unscoped_ne_scoped hp.type hq.type)
  | some scope =>
    cases scope' with
    | none => exact absurd hformat.symm (format_unscoped_ne_scoped hq.type hp.type)
    | some scope' => rfl

theorem MakesUp.exists_ofLine? (h : p.MakesUp line) :
    ∃ q, ofLine? .anyScope line = some q ∧ (p ≠ q → p.scopeLength < q.scopeLength) := by
  obtain ⟨hline, htype, rfl⟩ := h
  obtain ⟨type, scope, breaking, subject⟩ := p
  cases scope with
  | none => exact ⟨_, ofLine?_format ⟨htype, by simp, hline⟩, fun hne => absurd rfl hne⟩
  | some scope =>
    obtain ⟨longest, b, rest, hprefix, hlongest⟩ := exists_longestScope? scope breaking subject
    refine ⟨_, ofLine?_anyScope_of_longestScope? htype hline hlongest, fun hne => ?_⟩
    apply lt_of_le_of_ne hprefix.length_le
    intro hlength
    apply hne
    obtain rfl : scope = longest := hprefix.eq_of_length hlength
    have hrest := List.append_cancel_left (longestScope?_eq_some_iff.1 hlongest).1
    obtain ⟨rfl, rfl⟩ := separated_inj.1 (List.cons_inj_right _ |>.1 hrest)
    rfl

theorem ofLine?_anyScope_eq_some_iff :
    ofLine? .anyScope line = some p ↔ p.IsLongest line := by
  constructor
  · intro h
    refine ⟨makesUp_of_ofLine? h, fun q hq hne => ?_⟩
    obtain ⟨r, hr, hlt⟩ := hq.exists_ofLine?
    obtain rfl : p = r := Option.some.inj (h.symm.trans hr)
    exact hlt hne
  · rintro ⟨hp, hlongest⟩
    obtain ⟨q, hq, hlt⟩ := hp.exists_ofLine?
    by_cases hne : p = q
    · rw [hq, hne]
    · have hback := hlongest q (makesUp_of_ofLine? hq) (Ne.symm hne)
      have hforth := hlt hne
      omega

theorem ofLine?_anyScope_eq_none_iff :
    ofLine? .anyScope line = none ↔ ∀ p : Parts, ¬ p.MakesUp line := by
  constructor
  · intro h p hp
    obtain ⟨q, hq, -⟩ := hp.exists_ofLine?
    rw [h] at hq
    cases hq
  · intro h
    cases hread : ofLine? .anyScope line with
    | none => rfl
    | some p => exact absurd (makesUp_of_ofLine? hread) (h p)

end Parts

/-- The fields are these pieces; a type and a subject that are empty are absent, an empty scope is
not. -/
structure Reports (h : Header) (p : Parts) : Prop where
  type : h.type = if p.type = [] then none else some (String.ofList p.type)
  scope : h.scope = p.scope.map String.ofList
  breaking : h.breaking = p.breaking
  subject : h.subject = if p.subject = [] then none else some (String.ofList p.subject)

def parts (h : Header) : Parts :=
  ⟨(h.type.getD "").toList, h.scope.map String.toList, h.breaking, (h.subject.getD "").toList⟩

theorem nonEmpty?_eq_ite (cs : List Char) :
    nonEmpty? cs = if cs = [] then none else some (String.ofList cs) := by
  cases cs <;> simp [nonEmpty?]

theorem reports_ofParts (raw : String) (p : Parts) : (ofParts raw p).Reports p :=
  ⟨nonEmpty?_eq_ite p.type, rfl, rfl, nonEmpty?_eq_ite p.subject⟩

theorem parts_ofParts (raw : String) (p : Parts) : (ofParts raw p).parts = p := by
  obtain ⟨type, scope, breaking, subject⟩ := p
  cases scope <;> simp [parts, ofParts, toList_getD_nonEmpty?]

def anyScopeThen (e : Pattern.Expr) : Pattern.Expr :=
  .seq (.repeated
    (.seq (.set (.char '(')) <| .seq (.seq (.repeated (.set lineSet) 0 none) .empty) <|
      .seq (.set (.char ')')) .empty) 0 (some 1)) e

def anyScopePattern : Pattern where
  source := "^(?P<type>[A-Za-z0-9_]*)(?:\\((?P<scope>.*)\\))?(?P<breaking>!)?: (?P<subject>.*)$"
  expr := .seq (.assert .textStart) <| .seq (.seq (.repeated (.set wordSet) 0 none) .empty) <|
    anyScopeThen groupedSeparatedExpr

theorem ofSource?_anyScopePattern :
    Pattern.ofSource? anyScopePattern.source = some anyScopePattern := by
  rfl

theorem matchesBetween_anyScopeThen {e : Pattern.Expr} {front back : List Char} :
    (anyScopeThen e).MatchesBetween front back ↔ e.MatchesBetween front back ∨
      ∃ scope rest, back = '(' :: (scope ++ ')' :: rest) ∧ '\n' ∉ scope ∧
        e.MatchesBetween (front ++ '(' :: (scope ++ [')'])) rest := by
  simp only [anyScopeThen, Pattern.Expr.matchesBetween_seq_optional,
    Pattern.Expr.matchesBetween_seq_seq, Pattern.Expr.matchesBetween_seq_empty,
    Pattern.Expr.matchesBetween_seq_set, Pattern.Expr.matchesBetween_seq_repeated_set,
    Pattern.CharSet.contains_char, contains_lineSet]
  apply or_congr_right
  constructor
  · rintro ⟨_, _, rfl, rfl, scope, _, rfl, -, hscope, _, rest, rfl, rfl, h⟩
    exact ⟨scope, rest, rfl, fun hm => hscope '\n' hm rfl, by simpa using h⟩
  · rintro ⟨scope, rest, rfl, hscope, h⟩
    exact ⟨_, _, rfl, rfl, scope, _, rfl, Nat.zero_le _, fun c hc hn => hscope (hn ▸ hc), _, rest,
      rfl, rfl, by simpa using h⟩

theorem occursIn_anyScopePattern {line : String} :
    anyScopePattern.occursIn line ↔ ∃ p : Parts, p.MakesUp line.toList := by
  simp only [Pattern.occursIn, anyScopePattern, Pattern.Expr.occursIn_textStart_iff,
    Pattern.Expr.matchesBetween_seq_seq, Pattern.Expr.matchesBetween_seq_empty,
    Pattern.Expr.matchesBetween_seq_repeated_set, contains_wordSet, matchesBetween_anyScopeThen,
    matchesBetween_groupedSeparatedExpr, matchesBetween_separatedExpr]
  constructor
  · rintro ⟨type, _, hline, -, htype, ⟨b, subject, rfl, hs⟩ |
      ⟨scope, _, rfl, hscope, b, subject, rfl, hs⟩⟩
    · exact ⟨⟨type, none, b, subject⟩, Parts.makesUp_iff.2 ⟨hline, htype, by simp, hs⟩⟩
    · exact ⟨⟨type, some scope, b, subject⟩,
        Parts.makesUp_iff.2 ⟨hline, htype, by simpa using hscope, hs⟩⟩
  · rintro ⟨⟨type, scope, b, subject⟩, h⟩
    obtain ⟨hline, htype, hscope, hs⟩ := Parts.makesUp_iff.1 h
    refine ⟨type, _, hline, Nat.zero_le _, htype, ?_⟩
    cases scope with
    | none => exact .inl ⟨b, subject, rfl, hs⟩
    | some scope => exact .inr ⟨scope, _, rfl, hscope scope rfl, b, subject, rfl, hs⟩

/-- The any-scope grammar is the choice of the longest scope. It keeps the line; all ways to make up
a line have one type; the fields are the pieces of the one way with the longest scope, so they make
up the line again; and a line that no pieces make up has no field at all. The pattern describes the
lines that are made up of pieces. -/
theorem ofLine_anyScope_reports_longest (line : String) :
    let h := ofLine .anyScope line
    h.raw = line ∧
    (∀ p q : Parts, p.MakesUp line.toList → q.MakesUp line.toList → p.type = q.type) ∧
    ((∃ p : Parts, p.MakesUp line.toList) → ∃ p : Parts, p.IsLongest line.toList ∧ h.Reports p ∧
      h.parts.format = line.toList) ∧
    ((∀ p : Parts, ¬ p.MakesUp line.toList) →
      h.type = none ∧ h.scope = none ∧ h.breaking = false ∧ h.subject = none) ∧
    ∃ pattern, Pattern.ofSource? anyScopePattern.source = some pattern ∧
      (pattern.occursIn line ↔ ∃ p : Parts, p.MakesUp line.toList) := by
  intro h
  refine ⟨raw_ofLine .anyScope line, fun p q hp hq => (hp.type_eq hq).1, ?_, ?_,
    anyScopePattern, ofSource?_anyScopePattern, occursIn_anyScopePattern⟩
  · rintro ⟨p, hp⟩
    obtain ⟨q, hq, -⟩ := hp.exists_ofLine?
    have hread : h = ofParts line q := ofLine_of_some hq
    have hlongest := Parts.ofLine?_anyScope_eq_some_iff.1 hq
    refine ⟨q, hlongest, ?_, ?_⟩
    · rw [hread]
      exact reports_ofParts line q
    · rw [hread, parts_ofParts]
      exact hlongest.1.format
  · intro hnone
    have hread : h = unstructured line :=
      ofLine_of_none (Parts.ofLine?_anyScope_eq_none_iff.2 hnone)
    rw [hread]
    exact ⟨rfl, rfl, rfl, rfl⟩

example : ofLine .anyScope "revert(RCD-2)!: feat(): x): " =
    ⟨"revert(RCD-2)!: feat(): x): ", some "revert", some "RCD-2)!: feat(): x", false, none⟩ := by
  decide

end CommitPolicy.Header
