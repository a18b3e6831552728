import CommitPolicy.Proofs.Lint.Findings
import CommitPolicy.Proofs.Message.Split
import CommitPolicy.Settings.Preset

namespace CommitPolicy

open Message Text

def Message.HasBodyLine (lines : List String) : Prop :=
  ∃ i line, 1 ≤ i ∧ (∀ first, FirstFooterLine lines first → i < first) ∧
    lines[i]? = some line ∧ ∃ c ∈ line.toList, ¬ isBlank c

/-- The finding points to a line of the message, counted from one and written in 32 bits. -/
structure Finding.PointsTo (f : Finding) (m : Message) (line : Nat) : Prop where
  pos : 1 ≤ line
  le_length : line ≤ m.lines.length
  location : f.location = some ⟨m.commit, some (.ofNat line), none⟩
  toNat : m.lines.length < 2 ^ 32 → (UInt32.ofNat line).toNat = line

variable {s : Settings} {m : Message} {f : Finding}

theorem Message.FirstFooterLine.exists_before {lines : List String} {i : Nat}
    (h : FirstFooterLine lines i) : ∃ before, lines[i - 1]? = some before := by
  have hlt := h.lt_length
  exact ⟨_, List.getElem?_eq_getElem (by omega)⟩

theorem Message.HasBodyLine.exists_second {lines : List String} (h : HasBodyLine lines) :
    ∃ second, lines[1]? = some second := by
  obtain ⟨i, line, hi, -, hline, -⟩ := h
  have hlt := (List.getElem?_eq_some_iff.1 hline).1
  exact ⟨_, List.getElem?_eq_getElem (by omega)⟩

namespace Message.IsSplit

theorem withCommit (hm : m.IsSplit) (commit : Option String) : (m.withCommit commit).IsSplit :=
  { hm with }

theorem isSome_body_iff (hm : m.IsSplit) : m.body.isSome ↔ HasBodyLine m.lines := by
  rw [hm.body, HasBodyLine]
  simp only [Option.mem_def, hm.footerStart]

theorem header_ne_empty (hm : m.IsSplit) {header : String} (h : m.lines[0]? = some header) :
    header ≠ "" := by
  rintro rfl
  have hraw : m.raw = "" := by
    rw [← hm.header_eq_empty, hm.header, List.headD_eq_head?_getD, List.head?_eq_getElem?, h,
      Option.getD_some]
  have hlines : m.lines = [] := by
    rw [hm.lines, hraw]
    rfl
  rw [hlines] at h
  cases h

end Message.IsSplit

namespace CheckId

theorem isSome_finding?_iff {c : CheckId} (h : (s.activePolicy? c).isSome) :
    (c.finding? s m).isSome ↔ (c.inspect s m).isSome := by
  obtain ⟨policy, hpolicy⟩ := Option.isSome_iff_exists.1 h
  simp [finding?, hpolicy]

theorem pointsTo_of_toFinding {c : CheckId} {o : Objection} {severity : Severity}
    (hpos : 1 ≤ o.line) (hle : o.line ≤ m.lines.length) :
    (o.toFinding c severity m).PointsTo m o.line where
  pos := hpos
  le_length := hle
  location := rfl
  toNat hlength := UInt32.toNat_ofNat_of_lt' (by rw [UInt32.size]; omega)

theorem isSome_inspect_bodyLeadingBlank_iff (hm : m.IsSplit) :
    (bodyLeadingBlank.inspect s m).isSome ↔
      (∃ second, m.lines[1]? = some second ∧ second ≠ "") ∧ HasBodyLine m.lines := by
  rw [inspect, Check.bodyLeadingBlank, Option.isSome_ite, Bool.and_eq_true, hm.isSome_body_iff,
    lineAfterHeader?, bne_iff_ne]
  constructor
  · rintro ⟨hbody, hblank⟩
    obtain ⟨second, hsecond⟩ := hbody.exists_second
    refine ⟨⟨second, hsecond, ?_⟩, hbody⟩
    rintro rfl
    exact hblank hsecond
  · rintro ⟨⟨second, hsecond, hne⟩, hbody⟩
    refine ⟨hbody, ?_⟩
    rw [hsecond]
    exact fun h => hne (Option.some.inj h)

theorem isSome_inspect_footerLeadingBlank_iff (hm : m.IsSplit) :
    (footerLeadingBlank.inspect s m).isSome ↔ ∃ i before, FirstFooterLine m.lines i ∧
      m.lines[i - 1]? = some before ∧ before ≠ "" := by
  rw [inspect, Check.footerLeadingBlank]
  cases hstart : m.footerStart with
  | none =>
    refine iff_of_false (by simp) ?_
    rintro ⟨i, before, hi, -⟩
    rw [(hm.footerStart i).2 hi] at hstart
    cases hstart
  | some start =>
    obtain ⟨footer, hfooter⟩ := Option.isSome_iff_exists.1 (hm.footer.1 (by rw [hstart]; rfl))
    have hfirst : ∀ i, FirstFooterLine m.lines i ↔ start = i := fun i => by
      rw [← hm.footerStart, hstart, Option.some.injEq]
    obtain ⟨before, hbefore⟩ := ((hfirst start).2 rfl).exists_before
    simp [hfooter, hfirst, hbefore]

theorem pointsTo_bodyLeadingBlank (hm : m.IsSplit) (h : bodyLeadingBlank.finding? s m = some f) :
    f.PointsTo m 2 := by
  obtain ⟨policy, o, -, ho, rfl⟩ := finding?_eq_some_iff.1 h
  obtain ⟨second, hsecond, -⟩ :=
    ((isSome_inspect_bodyLeadingBlank_iff hm).1 (by rw [ho]; rfl)).1
  obtain ⟨-, ⟨⟩⟩ := Option.ite_none_right_eq_some.1 ho
  exact pointsTo_of_toFinding (Nat.le_add_left 1 1) (List.getElem?_eq_some_iff.1 hsecond).1

theorem pointsTo_footerLeadingBlank (hm : m.IsSplit) {i : Nat} (hi : FirstFooterLine m.lines i)
    (h : footerLeadingBlank.finding? s m = some f) : f.PointsTo m (i + 1) := by
  obtain ⟨policy, o, -, ho, rfl⟩ := finding?_eq_some_iff.1 h
  rw [inspect, Check.footerLeadingBlank, (hm.footerStart i).2 hi] at ho
  split at ho
  · rename_i start footer hstart hfooter
    obtain ⟨⟩ := hstart
    obtain ⟨-, ⟨⟩⟩ := Option.ite_none_right_eq_some.1 ho
    exact pointsTo_of_toFinding (Nat.le_add_left 1 i) hi.lt_length
  · cases ho

end CheckId

/-- Both checks for empty lines, for every text, commit and settings that enable them. -/
theorem Settings.blank_line_checks_exact (c : Cleanup) (g : Grammar) (text : String)
    (commit : Option String) (s : Settings) (hbody : (s.activePolicy? .bodyLeadingBlank).isSome)
    (hfooter : (s.activePolicy? .footerLeadingBlank).isSome) :
    let m := (Message.ofText c g text).withCommit commit
    ((CheckId.bodyLeadingBlank.finding? s m).isSome ↔
      (∃ second, m.lines[1]? = some second ∧ second ≠ "") ∧ HasBodyLine m.lines) ∧
    ((CheckId.footerLeadingBlank.finding? s m).isSome ↔ ∃ i before, FirstFooterLine m.lines i ∧
      m.lines[i - 1]? = some before ∧ before ≠ "") ∧
    (∀ f, CheckId.bodyLeadingBlank.finding? s m = some f → f.PointsTo m 2) ∧
    (∀ i, FirstFooterLine m.lines i →
      (1 ≤ i ∧ ∃ before, m.lines[i - 1]? = some before) ∧
      ∀ f, CheckId.footerLeadingBlank.finding? s m = some f → f.PointsTo m (i + 1)) ∧
    (FirstFooterLine m.lines 1 → CheckId.bodyLeadingBlank.finding? s m = none ∧
      (CheckId.footerLeadingBlank.finding? s m).isSome) := by
  intro m
  have hm : m.IsSplit :=
    (isSplit_ofClean (c.not_isBlank_of_head?_normalize text)).withCommit commit
  have hbodyChecked := CheckId.isSome_inspect_bodyLeadingBlank_iff (s := s) hm
  have hfooterChecked := CheckId.isSome_inspect_footerLeadingBlank_iff (s := s) hm
  rw [← CheckId.isSome_finding?_iff hbody] at hbodyChecked
  rw [← CheckId.isSome_finding?_iff hfooter] at hfooterChecked
  refine ⟨hbodyChecked, hfooterChecked, fun f => CheckId.pointsTo_bodyLeadingBlank hm,
    fun i hi => ⟨⟨hi.afterHeader, hi.exists_before⟩, fun f =>
      CheckId.pointsTo_footerLeadingBlank hm hi⟩, fun hnext => ⟨?_, ?_⟩⟩
  · rw [← Option.not_isSome_iff_eq_none, hbodyChecked]
    rintro ⟨-, i, line, hi, hbefore, -⟩
    exact absurd (hbefore 1 hnext) (by omega)
  · obtain ⟨header, hheader⟩ := hnext.exists_before
    exact hfooterChecked.2 ⟨1, header, hnext, hheader, hm.header_ne_empty hheader⟩

/-- A body and a footer with no empty line around them. -/
theorem Settings.blank_line_checks_exact_of_crowded_message :
    let s := Settings.preset .flexible
    let text := "feat(RCD-1): x\r\nbody\nFixes #1\n"
    let m := (Message.ofText .strip s.variant.grammar text).withCommit (some "abc")
    (s.activePolicy? .bodyLeadingBlank).isSome ∧ (s.activePolicy? .footerLeadingBlank).isSome ∧
      m.lines = ["feat(RCD-1): x", "body", "Fixes #1"] ∧ HasBodyLine m.lines ∧
      FirstFooterLine m.lines 2 ∧
      (∃ f, CheckId.bodyLeadingBlank.finding? s m = some f ∧ f.PointsTo m 2) ∧
      ∃ f, CheckId.footerLeadingBlank.finding? s m = some f ∧ f.PointsTo m 3 := by
  intro s text m
  have hbody : (s.activePolicy? .bodyLeadingBlank).isSome := by decide
  have hfooter : (s.activePolicy? .footerLeadingBlank).isSome := by decide
  have hfirst : FirstFooterLine m.lines 2 := footerIndex?_eq_some_iff.1 (by decide)
  obtain ⟨hbodyChecked, hfooterChecked, hbodyLine, hfooterLine, -⟩ :=
    blank_line_checks_exact .strip s.variant.grammar text (some "abc") s hbody hfooter
  have hreported : (CheckId.bodyLeadingBlank.finding? s m).isSome := by decide
  obtain ⟨f, hf⟩ := Option.isSome_iff_exists.1 hreported
  obtain ⟨f', hf'⟩ := Option.isSome_iff_exists.1
    (hfooterChecked.2 ⟨2, "body", hfirst, by decide, by decide⟩)
  exact ⟨hbody, hfooter, by decide, (hbodyChecked.1 hreported).2, hfirst,
    ⟨f, hf, hbodyLine f hf⟩, f', hf', (hfooterLine 2 hfirst).2 f' hf'⟩

end CommitPolicy
