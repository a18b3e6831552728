import CommitPolicy.Check.Inspection
import CommitPolicy.Proofs.Check.SubjectCase
import CommitPolicy.Proofs.Message.Layout

namespace CommitPolicy.Check

open Message

section Layout

variable {g : Grammar} {raw : String} {header : List Char} {rest : List (List Char)}

theorem bodyLeadingBlank_eq_none_iff (h : Text.lines raw.toList = header :: rest) :
    bodyLeadingBlank (ofClean g raw) = none ↔ BodySetOff rest := by
  rw [bodyLeadingBlank, lineAfterHeader?_ofClean h, BodySetOff,
    ← isSome_body_ofClean_iff (g := g) h]
  simp

theorem footerLeadingBlank_eq_none_iff (h : Text.lines raw.toList = header :: rest) :
    footerLeadingBlank (ofClean g raw) = none ↔ FooterSetOff header rest := by
  rw [footerLeadingBlank, FooterSetOff]
  by_cases hf : HasFooter rest
  · obtain ⟨footer, hfooter⟩ := Option.isSome_iff_exists.1 ((isSome_footer_ofClean_iff h).2 hf)
    rw [footerStart_ofClean h, if_pos hf, hfooter]
    dsimp only
    rw [Nat.add_sub_cancel, getElem?_lines_ofClean h]
    simp [hf]
  · rw [footerStart_ofClean h, if_neg hf]
    simp [hf]

end Layout

variable {s : Settings} {m : Message}

theorem headerMaxLength_eq_none_iff :
    headerMaxLength s m = none ↔ m.header.raw.toList.length ≤ s.headerMaxLength := by
  simp [headerMaxLength]

theorem subjectCase_eq_none_iff :
    subjectCase m = none ↔
      ∀ subject ∈ m.header.subject, ∀ c ∈ subject.toList.head?, ¬ c.isUpper := by
  rw [subjectCase]
  cases m.header.subject with
  | none => simp
  | some subject =>
    rw [Option.bind_eq_bind, Option.bind_some]
    cases h : SubjectCase.casesOf subject.toList with
    | nil => simpa using SubjectCase.casesOf_eq_nil_iff.1 h
    | cons k ks => simpa [h] using SubjectCase.casesOf_eq_nil_iff.not.1 (by simp [h])

theorem subjectFullStop_eq_none_iff :
    subjectFullStop m = none ↔ ∀ subject ∈ m.header.subject, '.' ∉ subject.toList.getLast? := by
  rw [subjectFullStop]
  cases m.header.subject with
  | none => simp
  | some subject => simp

theorem typeCase_eq_none_iff :
    typeCase m = none ↔ ∀ type ∈ m.header.type, Text.lowerCase type.toList = type.toList := by
  rw [typeCase]
  cases m.header.type with
  | none => simp
  | some type => simp

theorem typeEnum_eq_none_iff :
    typeEnum s m = none ↔ ∀ type ∈ m.header.type, type ∈ s.types := by
  rw [typeEnum]
  cases m.header.type with
  | none => simp
  | some type => simp

theorem scopeIssueId_eq_none_iff :
    scopeIssueId s m = none ↔ ScopePolicy.rule s.variant m.header = .pass := by
  rw [scopeIssueId]
  split
  · simp_all
  · simp_all

end CommitPolicy.Check
