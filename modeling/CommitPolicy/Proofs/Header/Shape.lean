import CommitPolicy.Header.Shape
import CommitPolicy.Proofs.Header.Grammar

namespace CommitPolicy.Header

namespace Parts

theorem mem_format_iff {c : Char} {p : Parts} (h : c ∉ ['(', ')', '!', ':', ' ']) :
    c ∈ p.format ↔ c ∈ p.type ∨ (∃ scope ∈ p.scope, c ∈ scope) ∨ c ∈ p.subject := by
  obtain ⟨type, scope, breaking, subject⟩ := p
  cases scope <;> cases breaking <;> simp_all [format]

theorem newline_mem_format_iff {p : Parts} (h : ∀ c ∈ p.type, isWordChar c) :
    '\n' ∈ p.format ↔ (∃ scope ∈ p.scope, '\n' ∈ scope) ∨ '\n' ∈ p.subject := by
  have ht : '\n' ∉ p.type := fun hm => absurd (h _ hm) (by decide)
  rw [mem_format_iff (by decide), or_iff_right ht]

theorem newline_not_mem_format {type scope subject : List Char} (breaking : Bool)
    (ht : ∀ c ∈ type, isWordChar c) (hscope : '\n' ∉ scope) (hs : '\n' ∉ subject) :
    '\n' ∉ format ⟨type, some scope, breaking, subject⟩ := by
  rw [newline_mem_format_iff ht]
  rintro (⟨_, ⟨⟩, hm⟩ | hm)
  · exact hscope hm
  · exact hs hm

theorem Legal.subject {g : Grammar} {p : Parts} (h : p.Legal g) : '\n' ∉ p.subject :=
  fun hm => h.line ((newline_mem_format_iff h.type).2 (.inr hm))

theorem legal_issueScope {type id subject : List Char} (breaking : Bool)
    (ht : ∀ c ∈ type, isWordChar c) (hid : Issue.IsIdentifier id) (hs : '\n' ∉ subject) :
    Legal .issueScope ⟨type, some id, breaking, subject⟩ := by
  refine ⟨ht, ?_, newline_not_mem_format breaking ht (hid.not_mem (by decide)) hs⟩
  rintro _ ⟨⟩
  exact hid

theorem legal_unscoped_iff {g g' : Grammar} {type subject : List Char} {breaking : Bool} :
    Legal g ⟨type, none, breaking, subject⟩ ↔ Legal g' ⟨type, none, breaking, subject⟩ :=
  ⟨fun h => ⟨h.type, by simp, h.line⟩, fun h => ⟨h.type, by simp, h.line⟩⟩

theorem ofLine?_unscoped {g : Grammar} (g' : Grammar) {line type subject : List Char}
    {breaking : Bool} (h : ofLine? g line = some ⟨type, none, breaking, subject⟩) :
    ofLine? g' line = some ⟨type, none, breaking, subject⟩ := by
  rw [ofLine?_eq_some_iff] at h ⊢
  exact ⟨h.1, legal_unscoped_iff.1 h.2⟩

theorem ofLine?_anyScope_of_longestScope? {type scope subject longest rest : List Char}
    {breaking b : Bool} (ht : ∀ c ∈ type, isWordChar c)
    (hline : '\n' ∉ format ⟨type, some scope, breaking, subject⟩)
    (h : longestScope? (scope ++ ')' :: separated breaking subject) = some (longest, b, rest)) :
    ofLine? .anyScope (format ⟨type, some scope, breaking, subject⟩) =
      some ⟨type, some longest, b, rest⟩ := by
  obtain ⟨heq, hnone⟩ := longestScope?_eq_some_iff.1 h
  have hformat : format ⟨type, some longest, b, rest⟩ =
      format ⟨type, some scope, breaking, subject⟩ := by
    rw [format_eq, format_eq, afterType, afterType, heq]
  refine ofLine?_eq_some_iff.2 ⟨hformat, ht, ?_, hformat ▸ hline⟩
  rintro _ ⟨⟩
  exact hnone

theorem ofLine?_anyScope_of_scoped {line type id subject : List Char} {breaking : Bool}
    (h : ofLine? .issueScope line = some ⟨type, some id, breaking, subject⟩) :
    ∃ scope breaking' subject', id <+: scope ∧
      ofLine? .anyScope line = some ⟨type, some scope, breaking', subject'⟩ := by
  obtain ⟨rfl, hl⟩ := ofLine?_eq_some_iff.1 h
  obtain ⟨scope, b, t, hpre, hs⟩ := exists_longestScope? id breaking subject
  exact ⟨scope, b, t, hpre, ofLine?_anyScope_of_longestScope? hl.type hl.line hs⟩

theorem ofLine?_issueScope_of_anyScope_none {line : List Char}
    (h : ofLine? .anyScope line = none) : ofLine? .issueScope line = none := by
  cases hi : ofLine? .issueScope line with
  | none => rfl
  | some p =>
    obtain ⟨type, scope, breaking, subject⟩ := p
    cases scope with
    | none => rw [ofLine?_unscoped .anyScope hi] at h; cases h
    | some id =>
      obtain ⟨scope, b, t, -, ha⟩ := ofLine?_anyScope_of_scoped hi
      rw [ha] at h
      cases h

/-- A longest scope without an identifier in it leaves the line outside the issue-scope grammar. -/
theorem ofLine?_issueScope_of_not_occurs {line type scope subject : List Char} {breaking : Bool}
    (h : ofLine? .anyScope line = some ⟨type, some scope, breaking, subject⟩)
    (hscope : ¬ Issue.Occurs scope) : ofLine? .issueScope line = none := by
  cases hi : ofLine? .issueScope line with
  | none => rfl
  | some p =>
    obtain ⟨type', scope', b, t⟩ := p
    cases scope' with
    | none => rw [ofLine?_unscoped .anyScope hi] at h; cases h
    | some id =>
      have hid : Issue.IsIdentifier id := (legal_of_ofLine? hi).scope id rfl
      obtain ⟨scope', _, _, hpre, ha⟩ := ofLine?_anyScope_of_scoped hi
      rw [ha] at h
      cases h
      exact absurd ⟨id, hid, hpre.isInfix⟩ hscope

end Parts

theorem nonEmpty?_eq_some_iff {cs : List Char} {s : String} :
    nonEmpty? cs = some s ↔ cs ≠ [] ∧ String.ofList cs = s := by
  cases cs <;> simp [nonEmpty?]

theorem nonEmpty?_eq_none_iff {cs : List Char} : nonEmpty? cs = none ↔ cs = [] := by
  cases cs <;> simp [nonEmpty?]

theorem toList_getD_nonEmpty? (cs : List Char) : ((nonEmpty? cs).getD "").toList = cs := by
  cases cs <;> simp [nonEmpty?]

theorem ofLine_of_some {g : Grammar} {line : String} {p : Parts}
    (h : Parts.ofLine? g line.toList = some p) : ofLine g line = ofParts line p := by
  rw [ofLine, h]

theorem ofLine_of_none {g : Grammar} {line : String} (h : Parts.ofLine? g line.toList = none) :
    ofLine g line = unstructured line := by
  rw [ofLine, h]

theorem isStructured_ofLine_iff {g : Grammar} {line : String} :
    (ofLine g line).isStructured ↔
      ∃ p, Parts.ofLine? g line.toList = some p ∧ p.type ≠ [] := by
  cases h : Parts.ofLine? g line.toList with
  | none => simp [ofLine_of_none h, unstructured, isStructured]
  | some p => simp [ofLine_of_some h, ofParts, isStructured, nonEmpty?]

theorem isSome_scope_ofLine_iff {g : Grammar} {line : String} :
    (ofLine g line).scope.isSome ↔ ∃ type scope breaking subject,
      Parts.ofLine? g line.toList = some ⟨type, some scope, breaking, subject⟩ := by
  cases h : Parts.ofLine? g line.toList with
  | none => simp [ofLine_of_none h, unstructured]
  | some p =>
    obtain ⟨type, scope, breaking, subject⟩ := p
    cases scope <;> simp [ofLine_of_some h, ofParts]

theorem isRevert_ofParts_iff {raw : String} {p : Parts} :
    (ofParts raw p).isRevert ↔ p.type = Revert.keyword.toList := by
  rw [isRevert, beq_iff_eq]
  constructor
  · intro h
    have ht : String.ofList p.type = Revert.keyword := (nonEmpty?_eq_some_iff.1 h).2
    rw [← ht, String.toList_ofList]
  · intro h
    have ht : p.type ≠ [] := h ▸ by decide
    exact nonEmpty?_eq_some_iff.2 ⟨ht, by rw [h, Revert.keyword, String.ofList_toList]⟩

namespace Shape

theorem ofLine_of_none {line : String} (h : Parts.ofLine? .issueScope line.toList = none) :
    ofLine line = .unstructured := by
  rw [ofLine, h]

theorem ofLine_of_unscoped {line : String} {type subject : List Char} {breaking : Bool}
    (h : Parts.ofLine? .issueScope line.toList = some ⟨type, none, breaking, subject⟩) :
    ofLine line = .conventional := by
  rw [ofLine, h]
  rfl

theorem ofLine_eq_issueScoped_iff {line : String} :
    ofLine line = .issueScoped ↔ ∃ type scope breaking subject,
      Parts.ofLine? .issueScope line.toList = some ⟨type, some scope, breaking, subject⟩ := by
  cases h : Parts.ofLine? .issueScope line.toList with
  | none => simp [ofLine_of_none h]
  | some p =>
    obtain ⟨type, scope, breaking, subject⟩ := p
    cases scope <;> simp [ofLine, h]

theorem ofLine_eq_conventional_iff {line : String} :
    ofLine line = .conventional ↔ ∃ type breaking subject,
      Parts.ofLine? .issueScope line.toList = some ⟨type, none, breaking, subject⟩ := by
  cases h : Parts.ofLine? .issueScope line.toList with
  | none => simp [ofLine_of_none h]
  | some p =>
    obtain ⟨type, scope, breaking, subject⟩ := p
    cases scope <;> simp [ofLine, h]

theorem ofLine_eq_unstructured_iff {line : String} :
    ofLine line = .unstructured ↔ Parts.ofLine? .issueScope line.toList = none := by
  cases h : Parts.ofLine? .issueScope line.toList with
  | none => simp [ofLine_of_none h]
  | some p =>
    obtain ⟨type, scope, breaking, subject⟩ := p
    cases scope <;> simp [ofLine, h]

end Shape

namespace Revert

/-- The header of a commit that reverts the commit with the given header. -/
def wrap (id : List Char) (breaking : Bool) (header : List Char) : List Char :=
  Parts.format ⟨keyword.toList, some id, breaking, header⟩

theorem keyword_isWord : ∀ c ∈ keyword.toList, isWordChar c := List.all_eq_true.1 (by decide)

theorem keyword_ne_nil : keyword.toList ≠ [] := by decide

def WrapsScoped (line : List Char) : Prop :=
  ∃ id breaking type id' breaking' subject,
    Issue.IsIdentifier id ∧ (∀ c ∈ type, isWordChar c) ∧ Issue.IsIdentifier id' ∧
      '\n' ∉ subject ∧ line = wrap id breaking (Parts.format ⟨type, some id', breaking', subject⟩)

theorem ofLine?_eq_some_iff {line : String} {r : Revert} :
    ofLine? line = some r ↔ ∃ id breaking inner,
      Parts.ofLine? .issueScope line.toList =
        some ⟨keyword.toList, some id, breaking, inner⟩ ∧
      r = ⟨String.ofList id, breaking, ofLine .issueScope (String.ofList inner)⟩ := by
  constructor
  · intro h
    rw [ofLine?] at h
    split at h
    · rename_i type id b inner hp
      split at h
      · rename_i ht
        cases h
        exact ⟨id, b, inner, ht ▸ hp, rfl⟩
      · cases h
    · cases h
  · rintro ⟨id, b, inner, hp, rfl⟩
    rw [ofLine?, hp]
    exact if_pos rfl

theorem WrapsScoped.keyword_isPrefixOf {line : List Char} (h : WrapsScoped line) :
    keyword.toList.isPrefixOf line := by
  obtain ⟨id, b, _, _, _, _, -, -, -, -, rfl⟩ := h
  rw [List.isPrefixOf_iff_prefix, wrap, Parts.format_eq]
  exact List.prefix_append _ _

theorem ofLine?_wrap {id inner : List Char} (breaking : Bool) (hid : Issue.IsIdentifier id)
    (hinner : '\n' ∉ inner) : Parts.ofLine? .issueScope (wrap id breaking inner) =
      some ⟨keyword.toList, some id, breaking, inner⟩ :=
  Parts.ofLine?_format (Parts.legal_issueScope breaking keyword_isWord hid hinner)

theorem exists_wrapsFullHeader_iff {line : String} :
    (∃ r, ofLine? line = some r ∧ r.wrapsFullHeader) ↔ WrapsScoped line.toList := by
  constructor
  · rintro ⟨r, hr, hw⟩
    obtain ⟨id, b, inner, hp, rfl⟩ := ofLine?_eq_some_iff.1 hr
    obtain ⟨type, id', b', subject, hi⟩ := isSome_scope_ofLine_iff.1 hw
    rw [String.toList_ofList] at hi
    obtain ⟨hline, hlegal⟩ := Parts.ofLine?_eq_some_iff.1 hp
    obtain ⟨rfl, hlegal'⟩ := Parts.ofLine?_eq_some_iff.1 hi
    exact ⟨id, b, type, id', b', subject, hlegal.scope id rfl, hlegal'.type, hlegal'.scope id' rfl,
      hlegal'.subject, hline.symm⟩
  · rintro ⟨id, b, type, id', b', subject, hid, ht, hid', hs, hline⟩
    have hlegal := Parts.legal_issueScope b' ht hid' hs
    have hp := ofLine?_wrap b hid hlegal.line
    rw [← hline] at hp
    refine ⟨_, ofLine?_eq_some_iff.2 ⟨id, b, _, hp, rfl⟩,
      isSome_scope_ofLine_iff.2 ⟨type, id', b', subject, ?_⟩⟩
    rw [String.toList_ofList]
    exact Parts.ofLine?_format hlegal

instance (line : List Char) : Decidable (WrapsScoped line) :=
  decidable_of_iff ((ofLine? (String.ofList line)).any wrapsFullHeader) (by
    rw [Option.any_eq_true, exists_wrapsFullHeader_iff, String.toList_ofList])

end Revert

end CommitPolicy.Header
