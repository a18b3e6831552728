import CommitPolicy.Proofs.Check.Inspection
import CommitPolicy.Proofs.Lint.Findings
import CommitPolicy.Settings.Preset

namespace CommitPolicy

theorem SubjectCase.head?_casesOf {subject : List Char} (h : casesOf subject ≠ []) :
    (casesOf subject).head? = some .sentence := by
  obtain ⟨c, hc, hu⟩ : ∃ c ∈ subject.head?, c.isUpper := by
    by_contra hnone
    push Not at hnone
    exact h (casesOf_eq_nil_iff.2 fun c hc => by simpa using hnone c hc)
  obtain ⟨cs, rfl⟩ := List.head?_eq_some_iff.1 hc
  have ha : c.isAlpha := Text.isAlpha_iff.2 (.inl hu)
  obtain ⟨rest, hrest⟩ := exists_unquoted_cons ha cs
  rw [casesOf, if_pos ha, hrest, all]
  simp only [List.filter_cons, sentence_holds hu rest, if_true, List.head?_cons]

theorem SubjectCase.casesOf_sublist (subject : List Char) : (casesOf subject).Sublist all := by
  cases subject with
  | nil => exact List.nil_sublist all
  | cons c cs =>
    rw [casesOf]
    split
    · exact List.filter_sublist
    · exact List.nil_sublist all

theorem Check.exists_cases_of_subjectCase {m : Message} {o : Objection}
    (h : subjectCase m = some o) : ∃ subject ∈ m.header.subject,
      SubjectCase.casesOf subject.toList ≠ [] ∧ o.data.field? "matched_cases" =
        some (.strings ((SubjectCase.casesOf subject.toList).map (·.name))) := by
  obtain ⟨subject, hsubject, h⟩ := Option.bind_eq_some_iff.1 h
  refine ⟨subject, hsubject, ?_⟩
  split at h
  · cases h
  · rename_i hne
    obtain ⟨⟩ := h
    exact ⟨hne, rfl⟩

theorem Text.between_iff_isUpper {c : Char} : ('A' ≤ c ∧ c ≤ 'Z') ↔ c.isUpper := by
  rw [isUpper_iff]
  exact Iff.rfl

namespace Settings

/-- The subject case check reports a subject exactly if it starts with a capital ASCII letter,
whatever follows. The cases it names stand in their fixed order and start with sentence case. -/
theorem subjectCase_reports_capitals (s : Settings) (m : Message)
    (h : (s.activePolicy? .subjectCase).isSome) :
    ((∃ f ∈ s.findings m, f.checkId = CheckId.subjectCase.name) ↔
      ∃ subject c, m.header.subject = some subject ∧ subject.toList.head? = some c ∧
        'A' ≤ c ∧ c ≤ 'Z') ∧
    ∀ f ∈ s.findings m, f.checkId = CheckId.subjectCase.name →
      ∃ names, f.data.field? "matched_cases" = some (.strings names) ∧
        names ≠ [] ∧ names.Nodup ∧
        names.Sublist ["sentence-case", "start-case", "pascal-case", "upper-case"] ∧
        names.head? = some "sentence-case" := by
  constructor
  · have hreports : (∃ f ∈ s.findings m, f.checkId = CheckId.subjectCase.name) ↔
        Check.subjectCase m ≠ none := by
      simp only [mem_findings_of_check_iff, ← Option.isSome_iff_exists]
      rw [Option.isSome_iff_ne_none, ne_eq, CheckId.finding?_eq_none_iff, h]
      simp [CheckId.inspect]
    rw [hreports, ne_eq, Check.subjectCase_eq_none_iff]
    push Not
    simp only [Option.mem_def, Text.between_iff_isUpper, exists_and_left]
  · intro f hf hcheck
    obtain ⟨-, o, -, ho, rfl⟩ :=
      CheckId.finding?_eq_some_iff.1 (mem_findings_of_check_iff.1 ⟨hf, hcheck⟩)
    obtain ⟨subject, -, hne, hfield⟩ := Check.exists_cases_of_subjectCase ho
    have hnodup : (SubjectCase.all.map (·.name)).Nodup := by decide
    have hsub := (SubjectCase.casesOf_sublist subject.toList).map (·.name)
    refine ⟨_, hfield, by simpa using hne, hnodup.sublist hsub, hsub, ?_⟩
    rw [List.head?_map, SubjectCase.head?_casesOf hne]
    rfl

/-- Two words of capitals, one of them with letters outside ASCII, and a quoted segment. -/
theorem subjectCase_reports_shouted_subject :
    let s := Settings.preset .strict
    let m := Message.ofText .strip s.variant.grammar "feat(RCD-1): ADD \u00c9T\u00c9 'x'"
    (s.activePolicy? .subjectCase).isSome ∧
    m.header.subject = some "ADD \u00c9T\u00c9 'x'" ∧
    ∃ f ∈ s.findings m, f.checkId = CheckId.subjectCase.name ∧
      ∃ names, f.data.field? "matched_cases" = some (.strings names) ∧
        names.Sublist ["sentence-case", "start-case", "pascal-case", "upper-case"] ∧
        names.head? = some "sentence-case" := by
  intro s m
  have hactive : (s.activePolicy? .subjectCase).isSome := by decide
  have hsubject : m.header.subject = some "ADD \u00c9T\u00c9 'x'" := by decide +kernel
  obtain ⟨hreports, hcases⟩ := subjectCase_reports_capitals s m hactive
  obtain ⟨f, hf, hcheck⟩ := hreports.2 ⟨_, 'A', hsubject, rfl, by decide, by decide⟩
  obtain ⟨names, hnames, -, -, hsub, hhead⟩ := hcases f hf hcheck
  exact ⟨hactive, hsubject, f, hf, hcheck, names, hnames, hsub, hhead⟩

end Settings

end CommitPolicy
