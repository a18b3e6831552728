import CommitPolicy.Proofs.Header.Decomposition

namespace CommitPolicy.Header

def HoldsScopeEnd (text : List Char) : Prop := "): ".toList <:+: text ∨ ")!: ".toList <:+: text

theorem holdsScopeEnd_iff {text : List Char} :
    HoldsScopeEnd text ↔ (longestScope? text).isSome := by
  rw [Option.isSome_iff_ne_none, Ne, longestScope?_eq_none_iff, Bool.forall_bool, not_and_or,
    not_not, not_not]
  exact Iff.rfl

instance (text : List Char) : Decidable (HoldsScopeEnd text) :=
  decidable_of_iff _ holdsScopeEnd_iff.symm

namespace Parts

structure WellFormed (p : Parts) : Prop where
  type : ∀ c ∈ p.type, isWordChar c
  scope : ∀ id ∈ p.scope, Issue.IsIdentifier id
  subject : '\n' ∉ p.subject

variable {p q : Parts}

theorem wellFormed_iff : p.WellFormed ↔ p.Legal .issueScope := by
  constructor
  · intro h
    refine ⟨h.type, h.scope, ?_⟩
    rw [newline_mem_format_iff h.type]
    rintro (⟨id, hid, hm⟩ | hm)
    · exact (h.scope id hid).not_mem (by decide) hm
    · exact h.subject hm
  · intro h
    exact ⟨h.type, h.scope, h.subject⟩

theorem WellFormed.ofLine?_issueScope (h : p.WellFormed) :
    ofLine? .issueScope p.format = some p := ofLine?_format (wellFormed_iff.1 h)

theorem WellFormed.format_inj (hp : p.WellFormed) (hq : q.WellFormed)
    (h : q.format = p.format) : q = p := by
  have hread := hq.ofLine?_issueScope
  rw [h, hp.ofLine?_issueScope] at hread
  exact (Option.some.inj hread).symm

theorem WellFormed.ofLine?_anyScope (h : p.WellFormed)
    (hend : p.scope = none ∨ ¬ HoldsScopeEnd p.subject) :
    ofLine? .anyScope p.format = some p := by
  apply ofLine?_format
  refine ⟨h.type, fun scope hscope => ?_, (wellFormed_iff.1 h).line⟩
  rcases hend with hnone | hclosed
  · rw [hnone] at hscope
    cases hscope
  · rwa [holdsScopeEnd_iff, Option.not_isSome_iff_eq_none] at hclosed

/-- Where a scope could end in the subject, the any-scope grammar takes the subject into the scope
as far as that. -/
theorem WellFormed.exists_ofLine?_anyScope (h : p.WellFormed) {id : List Char}
    (hid : p.scope = some id) (hend : HoldsScopeEnd p.subject) :
    ∃ taken breaking subject, ofLine? .anyScope p.format =
      some ⟨p.type, some (id ++ ')' :: separated p.breaking taken), breaking, subject⟩ := by
  obtain ⟨⟨taken, b, rest⟩, hr⟩ := Option.isSome_iff_exists.1 (holdsScopeEnd_iff.1 hend)
  have hline := (wellFormed_iff.1 h).line
  obtain ⟨type, scope, breaking, subject⟩ := p
  obtain rfl : scope = some id := hid
  exact ⟨taken, b, rest,
    ofLine?_anyScope_of_longestScope? h.type hline (longestScope?_of_some hr id breaking)⟩

end Parts

structure Refines (wide narrow : Header) (p : Parts) : Prop where
  type : wide.type = narrow.type
  same : p.scope = none ∨ ¬ HoldsScopeEnd p.subject → wide = narrow
  longer : ∀ id ∈ p.scope, HoldsScopeEnd p.subject →
    ∃ scope ∈ wide.scope, id ++ ')' :: separated p.breaking [] <+: scope.toList

theorem refines_format {p : Parts} (h : p.WellFormed) :
    (ofLine .anyScope (String.ofList p.format)).Refines
      (ofLine .issueScope (String.ofList p.format)) p := by
  have hnarrow : ofLine .issueScope (String.ofList p.format) = ofParts (String.ofList p.format) p :=
    ofLine_of_some (by rw [String.toList_ofList, h.ofLine?_issueScope])
  have hsame (hend : p.scope = none ∨ ¬ HoldsScopeEnd p.subject) :
      ofLine .anyScope (String.ofList p.format) = ofParts (String.ofList p.format) p :=
    ofLine_of_some (by rw [String.toList_ofList, h.ofLine?_anyScope hend])
  have hlonger {id : List Char} (hid : p.scope = some id) (hend : HoldsScopeEnd p.subject) :
      ∃ taken breaking subject, ofLine .anyScope (String.ofList p.format) =
        ofParts (String.ofList p.format)
          ⟨p.type, some (id ++ ')' :: separated p.breaking taken), breaking, subject⟩ := by
    obtain ⟨taken, b, subject, hread⟩ := h.exists_ofLine?_anyScope hid hend
    exact ⟨taken, b, subject, ofLine_of_some (by rw [String.toList_ofList, hread])⟩
  rw [hnarrow]
  refine ⟨?_, hsame, ?_⟩
  · by_cases hend : HoldsScopeEnd p.subject
    · cases hid : p.scope with
      | none => rw [hsame (.inl hid)]
      | some id =>
        obtain ⟨taken, b, subject, hwide⟩ := hlonger hid hend
        rw [hwide]
        rfl
    · rw [hsame (.inr hend)]
  · intro id hid hend
    obtain ⟨taken, b, subject, hwide⟩ := hlonger hid hend
    refine ⟨_, congrArg Header.scope hwide, ?_⟩
    rw [String.toList_ofList, separated_eq_append p.breaking taken]
    exact ⟨taken, by simp⟩

theorem exists_wellFormed_of_shape {line : String} (h : Shape.ofLine line ≠ .unstructured) :
    ∃ p : Parts, p.WellFormed ∧ p.format = line.toList := by
  rw [Ne, Shape.ofLine_eq_unstructured_iff, ← Ne, Option.ne_none_iff_exists'] at h
  obtain ⟨p, hp⟩ := h
  obtain ⟨hformat, hlegal⟩ := Parts.ofLine?_eq_some_iff.1 hp
  exact ⟨p, Parts.wellFormed_iff.2 hlegal, hformat⟩

theorem shape_ne_unstructured_iff {line : String} :
    Shape.ofLine line ≠ .unstructured ↔ issueScopePattern.occursIn line := by
  rw [Ne, Shape.ofLine_eq_unstructured_iff, ← Ne, ← Option.isSome_iff_ne_none, isSome_ofLine?_iff,
    occursIn_issueScopePattern]

/-- Well-formed pieces are read back from their line, which no other pieces have, and the fields of
a line that has a shape are formatted to the line again. The any-scope grammar refines every such
reading. The lines with a shape are those of the pattern that its source is read as. -/
theorem issueScope_reads_format_and_refines :
    (∀ p : Parts, p.WellFormed →
      let line := String.ofList p.format
      let h := ofLine .issueScope line
      h.raw = line ∧ h.Reports p ∧ (∀ q : Parts, q.WellFormed → q.format = p.format → q = p) ∧
        Shape.ofLine line ≠ .unstructured ∧ (ofLine .anyScope line).Refines h p) ∧
    (∀ line : String,
      let h := ofLine .issueScope line
      (Shape.ofLine line ≠ .unstructured ↔ issueScopePattern.occursIn line) ∧
      (Shape.ofLine line ≠ .unstructured → h.parts.WellFormed ∧ h.parts.format = line.toList ∧
        (ofLine .anyScope line).Refines h h.parts)) ∧
    Pattern.ofSource? issueScopePattern.source = some issueScopePattern := by
  refine ⟨?_, ?_, ofSource?_issueScopePattern⟩
  · intro p hp line h
    have hread : Parts.ofLine? .issueScope line.toList = some p := by
      rw [String.toList_ofList, hp.ofLine?_issueScope]
    have hh : h = ofParts line p := ofLine_of_some hread
    refine ⟨raw_ofLine .issueScope line, hh ▸ reports_ofParts line p,
      fun q hq => hp.format_inj hq, ?_, refines_format hp⟩
    rw [Ne, Shape.ofLine_eq_unstructured_iff, hread]
    exact Option.some_ne_none p
  · intro line h
    refine ⟨shape_ne_unstructured_iff, fun hshape => ?_⟩
    obtain ⟨p, hp, hformat⟩ := exists_wellFormed_of_shape hshape
    have hrefines := refines_format hp
    rw [hformat, String.ofList_toList] at hrefines
    have hparts : h.parts = p := by
      have hh : h = ofParts line p := ofLine_of_some (by rw [← hformat, hp.ofLine?_issueScope])
      rw [hh, parts_ofParts]
    rw [hparts]
    exact ⟨hp, hformat, hrefines⟩

/-- The subject is itself a header, so that the two grammars end the scope in different places. -/
theorem issueScope_reads_revert_of_fix :
    let line := "revert(RCD-2)!: fix(RCD-1): x"
    let p : Parts := ⟨"revert".toList, some "RCD-2".toList, true, "fix(RCD-1): x".toList⟩
    p.WellFormed ∧ HoldsScopeEnd p.subject ∧ (ofLine .issueScope line).Reports p ∧
      Shape.ofLine line ≠ .unstructured ∧ (ofLine .issueScope line).parts.format = line.toList ∧
      ∃ scope ∈ (ofLine .anyScope line).scope, "RCD-2)!: ".toList <+: scope.toList := by
  intro line p
  have hp : p.WellFormed := ⟨List.all_eq_true.1 (by decide), by rintro _ ⟨⟩; decide, by decide⟩
  obtain ⟨-, hreports, -, hshape, hrefines⟩ := issueScope_reads_format_and_refines.1 p hp
  have hback := (issueScope_reads_format_and_refines.2.1 line).2 hshape
  have hend : HoldsScopeEnd p.subject := by decide
  exact ⟨hp, hend, hreports, hshape, hback.2.1, hrefines.longer _ rfl hend⟩

end CommitPolicy.Header
