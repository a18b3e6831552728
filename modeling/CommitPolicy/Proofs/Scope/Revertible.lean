import CommitPolicy.Proofs.Scope.Acceptance

namespace CommitPolicy

open Header Header.Revert

namespace Header.Revert

theorem wrapsScoped_wrap_iff_issueScoped {id : List Char} {line : String} (breaking : Bool)
    (hid : Issue.IsIdentifier id) :
    WrapsScoped (wrap id breaking line.toList) ↔ Shape.ofLine line = .issueScoped := by
  rw [Shape.ofLine_eq_issueScoped_iff]
  constructor
  · rintro ⟨id₀, _, type, id', b', subject, hid₀, ht, hid', hs, h⟩
    obtain ⟨-, -, hline⟩ := wrap_inj (hid.not_mem (by decide)) (hid₀.not_mem (by decide)) h
    rw [hline]
    exact ⟨type, id', b', subject, Parts.ofLine?_format (Parts.legal_issueScope b' ht hid' hs)⟩
  · rintro ⟨type, id', b', subject, hread⟩
    obtain ⟨hline, hlegal⟩ := Parts.ofLine?_eq_some_iff.1 hread
    rw [← hline]
    exact ⟨id, breaking, type, id', b', subject, hid, hlegal.type, hlegal.scope id' rfl,
      hlegal.subject, rfl⟩

theorem issueScoped_of_wrapsScoped {line : String} (h : WrapsScoped line.toList) :
    Shape.ofLine line = .issueScoped := by
  obtain ⟨id, b, type, id', b', subject, hid, ht, hid', hs, hline⟩ := h
  have hinner := (Parts.legal_issueScope b' ht hid' hs).line
  rw [Shape.ofLine_eq_issueScoped_iff, hline]
  exact ⟨_, id, b, _, ofLine?_wrap b hid hinner⟩

end Header.Revert

namespace ScopePolicy

theorem wrapsScoped_of_flexible_eq_pass {line : String}
    (hpass : flexible (ofLine .anyScope line) = .pass)
    (hrevert : (ofLine .anyScope line).isRevert) : WrapsScoped line.toList := by
  obtain ⟨type, scope, b, subject, hocc, hread⟩ := exists_scope_of_flexible_eq_pass hpass
  rw [ofLine_of_some hread, isRevert_ofParts_iff] at hrevert
  rw [flexible_ofLine, tabulated, hread] at hpass
  by_cases hu : Text.upperCase scope ≠ scope
  · by_contra hw
    simp [hu, hw] at hpass
  · simp only [if_neg hu, if_pos hocc, if_pos hrevert] at hpass
    cases hpass

/-- The revert of an accepted header with a small letter in its type is accepted exactly if the
header has a single identifier as its scope, as accepted reverts have. -/
theorem revert_of_accepted_ruling (line : String) (id : List Char) (breaking : Bool)
    (hid : Issue.IsIdentifier id) (hpass : flexible (ofLine .anyScope line) = .pass)
    (hlower : ∃ type ∈ (ofLine .anyScope line).type, ∃ c ∈ type.toList, c.isLower) :
    let reverted := flexible (ofLine .anyScope (String.ofList (wrap id breaking line.toList)))
    reverted = (if Shape.ofLine line = .issueScoped then .pass else .fail .notUppercase) ∧
      ((ofLine .anyScope line).isRevert → reverted = .pass) := by
  intro reverted
  have hruling : reverted =
      if Shape.ofLine line = .issueScoped then .pass else .fail .notUppercase := by
    obtain ⟨type, scope, b, subject, -, hread⟩ := exists_scope_of_flexible_eq_pass hpass
    obtain ⟨hline, hlegal⟩ := Parts.ofLine?_eq_some_iff.1 hread
    have hsmall : ∃ c ∈ type, c.isLower := by
      obtain ⟨text, htext, c, hc, hl⟩ := hlower
      rw [ofLine_of_some hread, ofParts, Option.mem_def, nonEmpty?_eq_some_iff] at htext
      obtain ⟨-, rfl⟩ := htext
      rw [String.toList_ofList] at hc
      exact ⟨c, hc, hl⟩
    have h := flexible_wrap_of_lower breaking b (hid.not_mem (by decide)) hlegal.line hsmall
    simp only [hline, wrapsScoped_wrap_iff_issueScoped breaking hid] at h
    exact h
  refine ⟨hruling, fun hrevert => ?_⟩
  rw [hruling, if_pos (issueScoped_of_wrapsScoped (wrapsScoped_of_flexible_eq_pass hpass hrevert))]

theorem revert_of_reverted_drop_ruling :
    flexible (ofLine .anyScope "revert(RCD-3)!: revert(RCD-2): feat(RCD-1): drop x") = .pass ∧
      flexible (ofLine .anyScope "revert(RCD-3): feat(RCD-1, RCD-2): drop x") =
        .fail .notUppercase := by
  have hid : Issue.IsIdentifier "RCD-3".toList := by decide
  have hagain := revert_of_accepted_ruling "revert(RCD-2): feat(RCD-1): drop x" "RCD-3".toList true
    hid (by decide) ⟨"revert", by decide, 'r', by decide, by decide⟩
  have hboth := revert_of_accepted_ruling "feat(RCD-1, RCD-2): drop x" "RCD-3".toList false hid
    (by decide) ⟨"feat", by decide, 'f', by decide, by decide⟩
  exact ⟨hagain.2 (by decide), hboth.1.trans (if_neg (by decide))⟩

/-- Not every accepted header can be reverted, neither with several identifiers in its scope nor
without a small letter in its type. -/
theorem not_revertible_with_two_identifiers_or_capital_type :
    (¬ ∀ (line : String) (id : List Char) (breaking : Bool), Issue.IsIdentifier id →
      (∃ type ∈ (ofLine .anyScope line).type, ∃ c ∈ type.toList, c.isLower) →
      flexible (ofLine .anyScope line) = .pass →
      flexible (ofLine .anyScope (String.ofList (wrap id breaking line.toList))) = .pass) ∧
    (¬ ∀ (line : String) (id : List Char) (breaking : Bool), Issue.IsIdentifier id →
      Shape.ofLine line = .issueScoped → flexible (ofLine .anyScope line) = .pass →
      flexible (ofLine .anyScope (String.ofList (wrap id breaking line.toList))) = .pass) := by
  constructor
  · intro h
    have hpass := h "fix(RCD-1, RCD-2): patch both" "RCD-3".toList false (by decide)
      ⟨"fix", by decide, 'f', by decide, by decide⟩ (by decide)
    exact absurd hpass (by decide)
  · intro h
    have hpass := h "FIX(RCD-1): patch" "RCD-3".toList false (by decide) (by decide) (by decide)
    exact absurd hpass (by decide)

end ScopePolicy

end CommitPolicy
