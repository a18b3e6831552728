import CommitPolicy.Proofs.Scope.Revert

namespace CommitPolicy.ScopePolicy

open Header

theorem strict_eq_pass_iff {line : String} :
    strict (ofLine .issueScope line) = .pass ↔ ∃ type id breaking subject,
      Parts.ofLine? .issueScope line.toList = some ⟨type, some id, breaking, subject⟩ := by
  cases h : Parts.ofLine? .issueScope line.toList with
  | none => simp [strict, ofLine_of_none h, unstructured, Shape.ofLine_of_none h]
  | some p =>
    obtain ⟨type, scope, breaking, subject⟩ := p
    cases scope with
    | none => simp [strict, ofLine_of_some h, ofParts, Shape.ofLine_of_unscoped h]
    | some id =>
      have hid : Issue.IsIdentifier id := (Parts.legal_of_ofLine? h).scope id rfl
      have hocc : Issue.occursIn id := Issue.occursIn_iff.2 hid.occurs
      simp [strict, ofLine_of_some h, ofParts, hocc]

theorem exists_scope_of_wrapsScoped {line : List Char} (h : Revert.WrapsScoped line) :
    ∃ scope breaking subject, Issue.Occurs scope ∧ Parts.ofLine? .anyScope line =
      some ⟨Revert.keyword.toList, some scope, breaking, subject⟩ := by
  obtain ⟨id, b, type, id', b', subject, hid, ht, hid', hs, rfl⟩ := h
  have hinner := (Parts.legal_issueScope b' ht hid' hs).line
  obtain ⟨scope, b₀, subject₀, hpre, hp⟩ :=
    Parts.ofLine?_anyScope_of_scoped (Revert.ofLine?_wrap b hid hinner)
  exact ⟨scope, b₀, subject₀, ⟨id, hid, hpre.isInfix⟩, hp⟩

theorem exists_scope_of_flexible_eq_pass {line : String}
    (h : flexible (ofLine .anyScope line) = .pass) :
    ∃ type scope breaking subject, Issue.Occurs scope ∧
      Parts.ofLine? .anyScope line.toList = some ⟨type, some scope, breaking, subject⟩ := by
  rw [flexible_ofLine, tabulated] at h
  split at h
  · cases h
  · cases h
  · rename_i type scope b subject hp
    split at h
    · split at h
      · rename_i hw
        obtain ⟨scope, b, subject, hocc, hp⟩ := exists_scope_of_wrapsScoped hw
        exact ⟨_, scope, b, subject, hocc, hp⟩
      · cases h
    · split at h
      · rename_i hocc
        exact ⟨type, scope, b, subject, hocc, hp⟩
      · cases h

theorem exists_scope_of_rule_eq_pass {v : Variant} {line : String}
    (h : rule v (ofLine v.grammar line) = .pass) :
    ∃ type scope breaking subject, Issue.Occurs scope ∧
      Parts.ofLine? v.grammar line.toList = some ⟨type, some scope, breaking, subject⟩ := by
  cases v with
  | flexible => exact exists_scope_of_flexible_eq_pass h
  | strict =>
    obtain ⟨type, id, b, subject, hp⟩ := strict_eq_pass_iff.1 h
    have hid : Issue.IsIdentifier id := (Parts.legal_of_ofLine? hp).scope id rfl
    exact ⟨type, id, b, subject, hid.occurs, hp⟩

theorem upperCase_of_isIdentifier {id : List Char} (h : Issue.IsIdentifier id) :
    Text.upperCase id = id := by
  rw [Text.upperCase_eq_self_iff]
  intro c hc
  rcases h.mem hc with hu | rfl | hd
  · exact Text.upper_eq_singleton (Text.isAscii_of_isUpper hu) (Char.not_isLower_of_isUpper hu)
  · decide
  · rw [Text.isDigit_iff] at hd
    refine Text.upper_eq_singleton ?_ ?_
    · rw [Text.isAscii, decide_eq_true_eq]
      omega
    · rw [Text.isLower_iff]
      omega

theorem rule_wrap (v : Variant) {x y type subject : List Char} (b b' : Bool)
    (hx : Issue.IsIdentifier x) (hy : Issue.IsIdentifier y) (ht : ∀ c ∈ type, isWordChar c)
    (hlower : ∃ c ∈ type, c.isLower) (hs : '\n' ∉ subject) :
    rule v (ofLine v.grammar (String.ofList
      (Revert.wrap x b (Parts.format ⟨type, some y, b', subject⟩)))) = .pass := by
  cases v with
  | flexible =>
    have h := flexible_wrap b b' (hx.not_mem (by decide)) (hx.not_mem (by decide))
      (hy.not_mem (by decide)) (hy.not_mem (by decide)) ht hlower hs
    rwa [if_pos ⟨hx, hy⟩] at h
  | strict =>
    have h := strict_wrap b (hx.not_mem (by decide)) (Parts.legal_issueScope b' ht hy hs).line
    rwa [if_pos hx] at h

end CommitPolicy.ScopePolicy
