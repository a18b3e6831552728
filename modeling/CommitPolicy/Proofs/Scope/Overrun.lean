import CommitPolicy.Proofs.Scope.Acceptance

namespace CommitPolicy

open Header

namespace Header

def ScopeCanEnd (before text : List Char) : Prop :=
  ∃ breaking after, text = before ++ ')' :: separated breaking after

/-- Wherever a scope that runs into the text can end, what it took of the text is upper-case. -/
def TakenUpper (text : List Char) : Prop :=
  ∀ before, ScopeCanEnd before text → Text.upperCase before = before

def TakenIdentifier (text : List Char) : Prop :=
  ∃ before, ScopeCanEnd before text ∧ Issue.Occurs before

theorem scopeCanEnd_of_longestScope? {text : List Char} {r : List Char × Bool × List Char}
    (h : longestScope? text = some r) : ScopeCanEnd r.1 text :=
  ⟨r.2.1, r.2.2, (longestScope?_eq_some_iff.1 h).1⟩

theorem ScopeCanEnd.exists_longestScope? {before text : List Char} (h : ScopeCanEnd before text) :
    ∃ r, longestScope? text = some r ∧ before <+: r.1 := by
  obtain ⟨breaking, after, rfl⟩ := h
  obtain ⟨scope, b, subject, hpre, hs⟩ := Header.exists_longestScope? before breaking after
  exact ⟨_, hs, hpre⟩

theorem takenUpper_iff {text : List Char} :
    TakenUpper text ↔ ∀ r ∈ longestScope? text, Text.upperCase r.1 = r.1 := by
  constructor
  · intro h r hr
    exact h r.1 (scopeCanEnd_of_longestScope? hr)
  · intro h before hbefore
    obtain ⟨r, hr, hpre⟩ := hbefore.exists_longestScope?
    exact Text.upperCase_eq_self_of_prefix hpre (h r hr)

theorem takenIdentifier_iff {text : List Char} :
    TakenIdentifier text ↔ ∃ r ∈ longestScope? text, Issue.Occurs r.1 := by
  constructor
  · rintro ⟨before, hbefore, id, hid, hin⟩
    obtain ⟨r, hr, hpre⟩ := hbefore.exists_longestScope?
    exact ⟨r, hr, id, hid, hin.trans hpre.isInfix⟩
  · rintro ⟨r, hr, hocc⟩
    exact ⟨r.1, scopeCanEnd_of_longestScope? hr, hocc⟩

instance (text : List Char) : Decidable (TakenUpper text) := decidable_of_iff _ takenUpper_iff.symm

instance (text : List Char) : Decidable (TakenIdentifier text) :=
  decidable_of_iff _ takenIdentifier_iff.symm

theorem upperCase_separated_eq_self_iff {breaking : Bool} {subject : List Char} :
    Text.upperCase (separated breaking subject) = separated breaking subject ↔
      Text.upperCase subject = subject := by
  have hmark : Text.upperCase (separated breaking []) = separated breaking [] := by
    cases breaking <;> decide
  rw [separated_eq_append, Text.upperCase_append_eq_self_iff, and_iff_right hmark]

theorem occurs_separated_iff {breaking : Bool} {subject : List Char} :
    Issue.Occurs (separated breaking subject) ↔ Issue.Occurs subject := by
  have hcolon : Issue.Occurs (':' :: ' ' :: subject) ↔ Issue.Occurs subject := by
    rw [Issue.occurs_cons_iff (by decide), Issue.occurs_cons_iff (by decide)]
  cases breaking with
  | false => exact hcolon
  | true => exact (Issue.occurs_cons_iff (by decide)).trans hcolon

theorem Parts.exists_ofLine?_anyScope {type scope subject : List Char} (breaking : Bool)
    (ht : ∀ c ∈ type, isWordChar c) (hscope : '\n' ∉ scope) (hs : '\n' ∉ subject) :
    ∃ longest b rest, ofLine? .anyScope (format ⟨type, some scope, breaking, subject⟩) =
        some ⟨type, some longest, b, rest⟩ ∧
      (Text.upperCase longest = longest ↔ Text.upperCase scope = scope ∧ TakenUpper subject) ∧
      (Issue.Occurs longest ↔ Issue.Occurs scope ∨ TakenIdentifier subject) := by
  have hline := newline_not_mem_format breaking ht hscope hs
  rw [takenUpper_iff, takenIdentifier_iff]
  cases h : longestScope? subject with
  | none =>
    have hread := ofLine?_anyScope_of_longestScope? ht hline
      (longestScope?_of_none h scope breaking)
    exact ⟨scope, breaking, subject, hread, by simp⟩
  | some r =>
    obtain ⟨taken, b, rest⟩ := r
    have hread := ofLine?_anyScope_of_longestScope? ht hline
      (longestScope?_of_some h scope breaking)
    refine ⟨_, b, rest, hread, ?_, ?_⟩
    · rw [Text.upperCase_append_eq_self_iff, Text.upperCase_cons_eq_self_iff,
        upperCase_separated_eq_self_iff]
      simp +decide
    · rw [Issue.occurs_append_cons_iff (by decide), occurs_separated_iff]
      simp

end Header

namespace ScopePolicy

open Issue

variable {type : List Char}

theorem exists_flexible_format (scope subject : List Char) (breaking : Bool)
    (ht : ∀ c ∈ type, isWordChar c) (hbare : type ≠ Revert.keyword.toList)
    (hscope : '\n' ∉ scope) (hs : '\n' ∉ subject) :
    ∃ reason, flexible (ofLine .anyScope
        (String.ofList (Parts.format ⟨type, some scope, breaking, subject⟩))) =
      if Text.upperCase scope = scope ∧ TakenUpper subject then
        if Occurs scope ∨ TakenIdentifier subject then .pass else .fail reason
      else .fail .notUppercase := by
  obtain ⟨longest, b, rest, hread, hupper, hocc⟩ :=
    Parts.exists_ofLine?_anyScope breaking ht hscope hs
  have hwrap : ¬ Revert.WrapsScoped (Parts.format ⟨type, some scope, breaking, subject⟩) := by
    rintro ⟨_, _, _, _, _, _, -, -, -, -, h⟩
    exact hbare (Parts.format_inj_type ht Revert.keyword_isWord h).1
  refine ⟨if rest = [] then .subjectRequired else .notIssueId, ?_⟩
  rw [flexible_ofLine, tabulated, String.toList_ofList, hread]
  simp only [← hupper, ← hocc, if_neg hwrap, if_neg hbare, ite_not]

/-- Outside reverts the flexible variant accepts a header exactly if its scope, and whatever a
longer scope takes of the subject, is upper-case and an identifier stands in one of them. A subject
in which no scope can end adds nothing to the scope. -/
theorem flexible_pass_iff_upper_and_identified (type scope subject : List Char) (breaking : Bool)
    (ht : ∀ c ∈ type, isWordChar c) (hbare : type ≠ Revert.keyword.toList)
    (hscope : '\n' ∉ scope) (hs : '\n' ∉ subject) :
    flexible (ofLine .anyScope
        (String.ofList (Parts.format ⟨type, some scope, breaking, subject⟩))) = .pass ↔
      Text.upperCase scope = scope ∧ TakenUpper subject ∧
        (Occurs scope ∨ TakenIdentifier subject) := by
  obtain ⟨reason, h⟩ := exists_flexible_format scope subject breaking ht hbare hscope hs
  rw [h, ← and_assoc]
  by_cases hupper : Text.upperCase scope = scope ∧ TakenUpper subject
  · by_cases hocc : Occurs scope ∨ TakenIdentifier subject
    · rw [if_pos hupper, if_pos hocc]
      exact iff_of_true rfl ⟨hupper, hocc⟩
    · rw [if_pos hupper, if_neg hocc]
      exact iff_of_false (by simp) fun h => hocc h.2
  · rw [if_neg hupper]
    exact iff_of_false (by simp) fun h => hupper h.1

theorem flexible_pass_of_rename :
    flexible (ofLine .anyScope "fix(CORE)!: RENAME (RCD-1)!: done") = .pass := by
  have hword : ∀ c ∈ "fix".toList, isWordChar c := List.all_eq_true.1 (by decide)
  exact (flexible_pass_iff_upper_and_identified "fix".toList "CORE".toList
    "RENAME (RCD-1)!: done".toList true hword (by decide) (by decide) (by decide)).2 (by decide)

/-- An accepted header may have no identifier in its own scope: the subject of
`feat(HEYA): SEE (RCD-1): x` lends it one. -/
theorem flexible_pass_without_identifier_in_scope :
    ¬ ∀ (type scope subject : List Char) (breaking : Bool), (∀ c ∈ type, isWordChar c) →
      type ≠ Revert.keyword.toList → '(' ∉ scope → ')' ∉ scope → '\n' ∉ scope →
      '\n' ∉ subject →
      flexible (ofLine .anyScope
        (String.ofList (Parts.format ⟨type, some scope, breaking, subject⟩))) = .pass →
      Text.upperCase scope = scope ∧ Occurs scope := by
  intro h
  have hword : ∀ c ∈ "feat".toList, isWordChar c := List.all_eq_true.1 (by decide)
  obtain ⟨reason, hpass⟩ := exists_flexible_format "HEYA".toList
    "SEE (RCD-1): x".toList false hword (by decide) (by decide) (by decide)
  rw [if_pos (by decide), if_pos (by decide)] at hpass
  have hscope := h _ _ _ _ hword (by decide) (by decide) (by decide) (by decide) (by decide) hpass
  exact absurd hscope.2 (by decide)

theorem ruling_of_identifier_scope (id subject : List Char) (breaking : Bool)
    (ht : ∀ c ∈ type, isWordChar c) (hbare : type ≠ Revert.keyword.toList)
    (hid : IsIdentifier id) (hs : '\n' ∉ subject) :
    strict (ofLine .issueScope
        (String.ofList (Parts.format ⟨type, some id, breaking, subject⟩))) = .pass ∧
      flexible (ofLine .anyScope
        (String.ofList (Parts.format ⟨type, some id, breaking, subject⟩))) =
      if TakenUpper subject then .pass else .fail .notUppercase := by
  constructor
  · rw [strict_eq_pass_iff, String.toList_ofList]
    exact ⟨_, _, _, _, Parts.ofLine?_format (Parts.legal_issueScope breaking ht hid hs)⟩
  · have hline : '\n' ∉ id := hid.not_mem (by decide)
    obtain ⟨reason, h⟩ := exists_flexible_format id subject breaking ht hbare hline hs
    simp only [h, upperCase_of_isIdentifier hid, true_and, if_pos (Or.inl hid.occurs)]

/-- A header that the strict variant accepts, and that is no revert, is refused by the flexible
variant exactly if its subject has text that is not upper-case in front of a place where a scope can
end. So it goes with every header that has an identifier as its scope. -/
theorem flexible_ruling_of_strict_pass :
    (∀ line : String, ¬ (ofLine .issueScope line).isRevert →
      strict (ofLine .issueScope line) = .pass →
      flexible (ofLine .anyScope line) =
        if TakenUpper ((ofLine .issueScope line).subject.getD "").toList then .pass
        else .fail .notUppercase) ∧
    (∀ (type id subject : List Char) (breaking : Bool), (∀ c ∈ type, isWordChar c) →
      type ≠ Revert.keyword.toList → IsIdentifier id → '\n' ∉ subject →
      let line := String.ofList (Parts.format ⟨type, some id, breaking, subject⟩)
      strict (ofLine .issueScope line) = .pass ∧
        flexible (ofLine .anyScope line) =
          if TakenUpper subject then .pass else .fail .notUppercase) := by
  constructor
  · intro line hbare hstrict
    obtain ⟨type, id, breaking, subject, hread⟩ := strict_eq_pass_iff.1 hstrict
    obtain ⟨hline, hlegal⟩ := Parts.ofLine?_eq_some_iff.1 hread
    have hid : IsIdentifier id := hlegal.scope id rfl
    rw [ofLine_of_some hread] at hbare ⊢
    rw [isRevert_ofParts_iff] at hbare
    have h := (ruling_of_identifier_scope id subject breaking hlegal.type hbare hid hlegal.subject).2
    rwa [hline, String.ofList_toList, ← toList_getD_nonEmpty? subject] at h
  · intro type id subject breaking ht hbare hid hs line
    exact ruling_of_identifier_scope id subject breaking ht hbare hid hs

theorem flexible_ruling_of_notes :
    flexible (ofLine .anyScope "docs(RCD-2): FAQ (RCD-1): add notes") = .pass ∧
      strict (ofLine .issueScope "docs(RCD-2): FAQ (RCD-1): add notes") = .pass ∧
      flexible (ofLine .anyScope "docs(RCD-2)!: drop (some): notes") = .fail .notUppercase := by
  have hword : ∀ c ∈ "docs".toList, isWordChar c := List.all_eq_true.1 (by decide)
  obtain ⟨hstrict, hflexible⟩ := flexible_ruling_of_strict_pass.2 "docs".toList "RCD-2".toList
    "FAQ (RCD-1): add notes".toList false hword (by decide) (by decide) (by decide)
  have hdrop := flexible_ruling_of_strict_pass.1 "docs(RCD-2)!: drop (some): notes" (by decide)
    (by decide)
  rw [if_pos (by decide)] at hflexible
  rw [if_neg (by decide)] at hdrop
  exact ⟨hflexible, hstrict, hdrop⟩

/-- The strict variant accepts `feat(RCD-2): feat(RCD-1): a valid commit message`, of which the
flexible variant reads a longer scope. -/
theorem strict_pass_without_flexible_pass :
    ¬ ∀ line : String, ¬ (ofLine .issueScope line).isRevert →
      strict (ofLine .issueScope line) = .pass → flexible (ofLine .anyScope line) = .pass := by
  intro h
  have hpass := h "feat(RCD-2): feat(RCD-1): a valid commit message" (by decide) (by decide)
  have hword : ∀ c ∈ "feat".toList, isWordChar c := List.all_eq_true.1 (by decide)
  have hfail := (ruling_of_identifier_scope "RCD-2".toList "feat(RCD-1): a valid commit message".toList
    false hword (by decide) (by decide) (by decide)).2
  rw [if_neg (by decide)] at hfail
  exact absurd (hfail.symm.trans hpass) (by decide)

end ScopePolicy

end CommitPolicy
