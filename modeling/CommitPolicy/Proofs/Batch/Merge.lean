import CommitPolicy.Batch
import CommitPolicy.Pattern.Parser
import CommitPolicy.Proofs.Lint.Findings
import CommitPolicy.Proofs.Severity

namespace CommitPolicy

def LintResult.Settled (failOn : FailOn) (r : LintResult) : Prop :=
  r = .skipped ∨ r = .ofFindings failOn r.findings

namespace LintResult.Settled

variable {failOn : FailOn} {r : LintResult}

theorem counts (h : r.Settled failOn) : r.counts = .ofSeverities (r.findings.map (·.severity)) := by
  rcases h with h | h <;> rw [h] <;> rfl

theorem verdict_le_iff (h : r.Settled failOn) {v : Verdict} : r.verdict ≤ v ↔
    (r.ignored = false → .pass ≤ v) ∧
      ∀ f ∈ r.findings, Verdict.ofSeverities failOn [f.severity] ≤ v := by
  rcases h with h | h
  · rw [h]
    refine iff_of_true bot_le ⟨fun hlinted => ?_, fun f hf => ?_⟩
    · cases hlinted
    · cases hf
  · have hall : Verdict.ofSeverities failOn (r.findings.map (·.severity)) ≤ v ↔ .pass ≤ v ∧
        ∀ f ∈ r.findings, Verdict.ofSeverities failOn [f.severity] ≤ v := by
      rw [Verdict.ofSeverities_le_iff, List.forall_mem_map]
    rw [h]
    exact hall.trans (and_congr_left' ⟨fun hpass _ => hpass, fun hpass => hpass rfl⟩)

theorem verdict_eq_skip_iff (h : r.Settled failOn) : r.verdict = .skip ↔ r.ignored = true := by
  constructor
  · intro hskip
    by_contra hlinted
    have hpass := (h.verdict_le_iff.1 hskip.le).1 (Bool.eq_false_iff.2 hlinted)
    exact absurd hpass (by decide)
  · intro hignored
    rcases h with h | h
    · rw [h]
      rfl
    · rw [h] at hignored
      cases hignored

end LintResult.Settled

theorem toNat_sum_of_lt {counters : List UInt32} (h : (counters.map (·.toNat)).sum < 2 ^ 32) :
    counters.sum.toNat = (counters.map (·.toNat)).sum := by
  induction counters with
  | nil => rfl
  | cons n counters ih =>
    rw [List.map_cons, List.sum_cons] at h ⊢
    rw [List.sum_cons, UInt32.toNat_add, ih (by omega), Nat.mod_eq_of_lt h]

/-- What a report says about messages that came to these results one by one. The counters have 32
bits, and so have their sums. -/
structure Report.Merges (r : Report) (results : List LintResult) : Prop where
  findings : r.findings = results.flatMap (·.findings)
  ignored : r.summary.messagesIgnored.toNat = results.countP (·.ignored)
  total : r.summary.messagesChecked.toNat + r.summary.messagesIgnored.toNat = results.length
  errors : r.summary.errors = (results.map (·.counts.error)).sum
  errors_exact : (results.map (·.counts.error.toNat)).sum < 2 ^ 32 →
    r.summary.errors.toNat = (results.map (·.counts.error.toNat)).sum
  warnings : r.summary.warnings = (results.map (·.counts.warning)).sum
  warnings_exact : (results.map (·.counts.warning.toNat)).sum < 2 ^ 32 →
    r.summary.warnings.toNat = (results.map (·.counts.warning.toNat)).sum
  skip : r.verdict = .skip ↔ ∀ x ∈ results, x.ignored = true
  verdict : (∃ x ∈ results, x.ignored = false) →
    IsGreatest {v | ∃ x ∈ results, x.ignored = false ∧ x.verdict = v} r.verdict
  exitCode : r.verdict.exitCode = 2 ↔ ∃ x ∈ results, x.verdict = .fail

structure Report.Joins (r front back : Report) : Prop where
  findings : r.findings = front.findings ++ back.findings
  verdict : r.verdict = max front.verdict back.verdict
  checked : r.summary.messagesChecked =
    front.summary.messagesChecked + back.summary.messagesChecked
  ignored : r.summary.messagesIgnored =
    front.summary.messagesIgnored + back.summary.messagesIgnored
  errors : r.summary.errors = front.summary.errors + back.summary.errors
  warnings : r.summary.warnings = front.summary.warnings + back.summary.warnings

structure Report.AgreesWith (r : Report) (x : LintResult) : Prop where
  findings : r.findings = x.findings
  verdict : r.verdict = x.verdict
  errors : r.summary.errors = x.counts.error
  warnings : r.summary.warnings = x.counts.warning
  ignored : r.summary.messagesIgnored = if x.ignored then 1 else 0
  checked : r.summary.messagesChecked = if x.ignored then 0 else 1

namespace Settings

theorem evaluate_settled (s : Settings) (m : Message) : (s.evaluate m).Settled s.failOn := by
  rw [evaluate]
  split
  · exact .inl rfl
  · exact .inr rfl

variable {s : Settings} {results results' : List LintResult} {startedAt finishedAt : Timestamp}

theorem toNat_messagesIgnored (h : results.length < 2 ^ 32) :
    (s.summary results).messagesIgnored.toNat = results.countP (·.ignored) :=
  UInt32.toNat_ofNat_of_lt' (lt_of_le_of_lt List.countP_le_length h)

theorem messagesChecked_eq (s : Settings) (results : List LintResult) :
    (s.summary results).messagesChecked =
      .ofNat (results.length - results.countP (·.ignored)) :=
  (UInt32.ofNat_sub List.countP_le_length).symm

theorem toNat_messagesChecked (h : results.length < 2 ^ 32) :
    (s.summary results).messagesChecked.toNat =
      results.length - results.countP (·.ignored) := by
  rw [messagesChecked_eq]
  exact UInt32.toNat_ofNat_of_lt' (lt_of_le_of_lt (Nat.sub_le _ _) h)

theorem messagesChecked_eq_zero_iff (h : results.length < 2 ^ 32) :
    (s.summary results).messagesChecked = 0 ↔ ∀ x ∈ results, x.ignored = true := by
  have hle : results.countP (·.ignored) ≤ results.length := List.countP_le_length
  have hall : results.countP (·.ignored) = results.length ↔ ∀ x ∈ results, x.ignored = true :=
    List.countP_eq_length
  rw [← hall, ← UInt32.toNat_inj, toNat_messagesChecked h, UInt32.toNat_zero]
  omega

theorem ofNat_count_severities (x : Severity) (results : List LintResult) :
    UInt32.ofNat (((results.flatMap (·.findings)).map (·.severity)).count x) =
      (results.map fun r => UInt32.ofNat ((r.findings.map (·.severity)).count x)).sum := by
  induction results with
  | nil => rfl
  | cons r results ih =>
    rw [List.flatMap_cons, List.map_append, List.count_append, UInt32.ofNat_add, ih,
      List.map_cons, List.sum_cons]

section Settled

variable (hsettled : ∀ x ∈ results, x.Settled s.failOn)

include hsettled

theorem ofNat_count_eq_sum_counts {x : Severity} {count : SeverityCounts → UInt32}
    (hcount : ∀ severities, count (.ofSeverities severities) = .ofNat (severities.count x)) :
    UInt32.ofNat (((results.flatMap (·.findings)).map (·.severity)).count x) =
      (results.map (count ·.counts)).sum := by
  rw [ofNat_count_severities]
  congr 1
  apply List.map_congr_left
  intro r hr
  rw [(hsettled r hr).counts, hcount]

theorem errors_summary :
    (s.summary results).errors = (results.map (·.counts.error)).sum :=
  ofNat_count_eq_sum_counts hsettled fun _ => rfl

theorem warnings_summary :
    (s.summary results).warnings = (results.map (·.counts.warning)).sum :=
  ofNat_count_eq_sum_counts hsettled fun _ => rfl

theorem verdict_report (h : results.length < 2 ^ 32) :
    (s.report results startedAt finishedAt).verdict = .worst (results.map (·.verdict)) := by
  have hreport : (s.report results startedAt finishedAt).verdict =
      if (s.summary results).messagesChecked = 0 then .skip
      else .ofSeverities s.failOn ((results.flatMap (·.findings)).map (·.severity)) := rfl
  rw [hreport]
  split
  · rename_i hzero
    have hall := (messagesChecked_eq_zero_iff h).1 hzero
    rw [eq_comm, Verdict.worst_eq_skip_iff, List.forall_mem_map]
    exact fun x hx => (hsettled x hx).verdict_eq_skip_iff.2 (hall x hx)
  · rename_i hsome
    rw [messagesChecked_eq_zero_iff h] at hsome
    -- Both sides have the same upper bounds, since some message is judged.
    apply eq_of_forall_ge_iff
    intro v
    rw [Verdict.ofSeverities_le_iff, Verdict.worst_le_iff, List.forall_mem_map,
      List.forall_mem_map, List.forall_mem_flatMap]
    obtain ⟨y, hy, hlinted⟩ : ∃ x ∈ results, ¬ x.ignored = true := by simpa using hsome
    constructor
    · intro hv x hx
      exact (hsettled x hx).verdict_le_iff.2 ⟨fun _ => hv.1, hv.2 x hx⟩
    · intro hv
      exact ⟨((hsettled y hy).verdict_le_iff.1 (hv y hy)).1 (Bool.eq_false_iff.2 hlinted),
        fun x hx => ((hsettled x hx).verdict_le_iff.1 (hv x hx)).2⟩

theorem verdict_report_eq_skip_iff (h : results.length < 2 ^ 32) :
    (s.report results startedAt finishedAt).verdict = .skip ↔ ∀ x ∈ results, x.ignored = true := by
  rw [verdict_report hsettled h, Verdict.worst_eq_skip_iff, List.forall_mem_map]
  exact forall₂_congr fun x hx => (hsettled x hx).verdict_eq_skip_iff

theorem isGreatest_verdict_report (h : results.length < 2 ^ 32)
    (hlinted : ∃ x ∈ results, x.ignored = false) :
    IsGreatest {v | ∃ x ∈ results, x.ignored = false ∧ x.verdict = v}
      (s.report results startedAt finishedAt).verdict := by
  have hskip : (s.report results startedAt finishedAt).verdict ≠ .skip := by
    rw [Ne, verdict_report_eq_skip_iff hsettled h]
    obtain ⟨y, hy, hfalse⟩ := hlinted
    intro hall
    rw [hall y hy] at hfalse
    cases hfalse
  rw [verdict_report hsettled h] at hskip ⊢
  obtain ⟨x, hx, hxv⟩ := List.mem_map.1 (Verdict.worst_mem hskip)
  constructor
  · rw [← hxv, Ne, (hsettled x hx).verdict_eq_skip_iff] at hskip
    exact ⟨x, hx, Bool.eq_false_iff.2 hskip, hxv⟩
  · rintro _ ⟨z, hz, -, rfl⟩
    exact Verdict.le_worst (List.mem_map_of_mem hz)

theorem report_merges (h : results.length < 2 ^ 32) :
    (s.report results startedAt finishedAt).Merges results := by
  have hle : results.countP (·.ignored) ≤ results.length := List.countP_le_length
  have hignored : (s.summary results).messagesIgnored.toNat = results.countP (·.ignored) :=
    toNat_messagesIgnored h
  have hchecked := toNat_messagesChecked (s := s) h
  exact {
    findings := rfl
    ignored := hignored
    total := by
      rw [report, hignored, hchecked]
      omega
    errors := errors_summary hsettled
    errors_exact := fun hlt => by
      rw [report, errors_summary hsettled, toNat_sum_of_lt (by rwa [List.map_map]), List.map_map]
      rfl
    warnings := warnings_summary hsettled
    warnings_exact := fun hlt => by
      rw [report, warnings_summary hsettled, toNat_sum_of_lt (by rwa [List.map_map]), List.map_map]
      rfl
    skip := verdict_report_eq_skip_iff hsettled h
    verdict := isGreatest_verdict_report hsettled h
    exitCode := by
      rw [verdict_report hsettled h, Verdict.exitCode_eq_two_iff, Verdict.worst_eq_fail_iff,
        List.mem_map] }

theorem report_joins (hsettled' : ∀ x ∈ results', x.Settled s.failOn)
    (h : (results ++ results').length < 2 ^ 32) :
    (s.report (results ++ results') startedAt finishedAt).Joins
      (s.report results startedAt finishedAt) (s.report results' startedAt finishedAt) := by
  have hboth : ∀ x ∈ results ++ results', x.Settled s.failOn :=
    List.forall_mem_append.2 ⟨hsettled, hsettled'⟩
  have hlength : results.length < 2 ^ 32 ∧ results'.length < 2 ^ 32 := by
    rw [List.length_append] at h
    omega
  have hignored : (s.summary (results ++ results')).messagesIgnored =
      (s.summary results).messagesIgnored + (s.summary results').messagesIgnored := by
    simp only [summary, List.countP_append, UInt32.ofNat_add]
  exact {
    findings := List.flatMap_append
    verdict := by
      rw [verdict_report hboth h, verdict_report hsettled hlength.1,
        verdict_report hsettled' hlength.2, List.map_append, Verdict.worst_append]
    checked := by
      simp only [report, summary, List.length_append, List.countP_append, UInt32.ofNat_add]
      grind
    ignored := hignored
    errors := by
      simp only [report, summary, SeverityCounts.ofSeverities, List.flatMap_append,
        List.map_append, List.count_append, UInt32.ofNat_add]
    warnings := by
      simp only [report, summary, SeverityCounts.ofSeverities, List.flatMap_append,
        List.map_append, List.count_append, UInt32.ofNat_add] }

end Settled

theorem summary_perm (h : results.Perm results') : s.summary results = s.summary results' := by
  have hseverities := (h.flatMap_right (·.findings)).map (·.severity)
  simp only [summary, h.countP_eq, h.length_eq, SeverityCounts.ofSeverities_perm hseverities]

theorem report_agreesWith {x : LintResult} (hx : x.Settled s.failOn) :
    (s.report [x] startedAt finishedAt).AgreesWith x := by
  have hsettled : ∀ y ∈ [x], y.Settled s.failOn := by simpa using hx
  have hlength : [x].length < 2 ^ 32 := by simp
  exact {
    findings := List.append_nil x.findings
    verdict := by
      rw [verdict_report hsettled hlength, List.map_singleton, Verdict.worst_singleton]
    errors := (errors_summary hsettled).trans (UInt32.add_zero x.counts.error)
    warnings := (warnings_summary hsettled).trans (UInt32.add_zero x.counts.warning)
    ignored := by
      simp only [report, summary, List.countP_singleton]
      cases x.ignored <;> rfl
    checked := by
      simp only [report, summary, List.countP_singleton, List.length_singleton]
      cases x.ignored <;> decide }

theorem findings_check (s : Settings) (submissions : List Submission) :
    (s.check submissions startedAt finishedAt).findings =
      (submissions.map (·.lint s)).flatMap (·.findings) := rfl

theorem exists_submission_of_mem_findings {submissions : List Submission} {f : Finding}
    (h : f ∈ (s.check submissions startedAt finishedAt).findings) :
    ∃ x ∈ submissions, f ∈ s.findings (x.message s.variant.grammar) := by
  obtain ⟨result, hresult, hf⟩ := List.mem_flatMap.1 h
  obtain ⟨x, hx, rfl⟩ := List.mem_map.1 hresult
  exact ⟨x, hx, mem_findings_of_mem_evaluate hf⟩

theorem summary_check (s : Settings) (submissions : List Submission) :
    (s.check submissions startedAt finishedAt).summary =
      s.summary (submissions.map (·.lint s)) := rfl

end Settings

theorem Submission.lint_editorText (text : String) (s : Settings) :
    Submission.lint ⟨none, text, .strip⟩ s = s.lint text := by
  have hcommit (m : Message) (h : m.commit = none) : m.withCommit none = m := by
    rw [Message.withCommit, ← h]
  exact congrArg s.evaluate (hcommit _ rfl)

theorem checkMessages_eq_ok [Pattern.Compiler] {config : String} {o : Settings.Overrides} {s : Settings}
    (hs : Settings.ofFile config o = .ok s) (submissions : List Submission)
    (startedAt finishedAt : Timestamp) :
    checkMessages config o submissions startedAt finishedAt =
      .ok (s.check submissions startedAt finishedAt) := by
  rw [checkMessages, hs]
  rfl

/-- A run whose settings resolve reports the merge of the lints of its messages, each read with its
own cleanup and under its own commit. A cut of the run joins two reports, another order of the
messages reorders the findings and nothing else, and a run over one text agrees with its lint. -/
theorem checkMessages_merges [Pattern.Compiler] {config : String} {o : Settings.Overrides}
    {s : Settings} (hs : Settings.ofFile config o = .ok s) {submissions : List Submission}
    (hlength : submissions.length < 2 ^ 32) (startedAt finishedAt : Timestamp) :
    ∃ r, checkMessages config o submissions startedAt finishedAt = .ok r ∧
      r.Merges (submissions.map fun m => s.evaluate
        ((Message.ofText m.cleanup s.variant.grammar m.text).withCommit m.commit)) ∧
      (∀ front back, submissions = front ++ back → ∃ rf rb,
        checkMessages config o front startedAt finishedAt = .ok rf ∧
        checkMessages config o back startedAt finishedAt = .ok rb ∧ r.Joins rf rb) ∧
      (∀ shuffled, shuffled.Perm submissions → ∃ rs,
        checkMessages config o shuffled startedAt finishedAt = .ok rs ∧
        rs.findings.Perm r.findings ∧ rs.verdict = r.verdict ∧ rs.summary = r.summary) ∧
      (∀ text, ∃ one,
        checkMessages config o [⟨none, text, .strip⟩] startedAt finishedAt = .ok one ∧
        one.AgreesWith (s.lint text)) := by
  have hsettled (batch : List Submission) :
      ∀ x ∈ batch.map (·.lint s), x.Settled s.failOn := by
    rw [List.forall_mem_map]
    exact fun m _ => s.evaluate_settled _
  have hresults : (submissions.map (·.lint s)).length < 2 ^ 32 := by rwa [List.length_map]
  refine ⟨_, checkMessages_eq_ok hs submissions startedAt finishedAt,
    Settings.report_merges (hsettled submissions) hresults, ?_, ?_, ?_⟩
  · rintro front back rfl
    rw [List.map_append] at hresults
    refine ⟨_, _, checkMessages_eq_ok hs front startedAt finishedAt,
      checkMessages_eq_ok hs back startedAt finishedAt, ?_⟩
    rw [Settings.check, List.map_append]
    exact Settings.report_joins (hsettled front) (hsettled back) hresults
  · intro shuffled hperm
    have hmap := hperm.map (·.lint s)
    have hshuffled : (shuffled.map (·.lint s)).length < 2 ^ 32 := by rwa [hmap.length_eq]
    refine ⟨_, checkMessages_eq_ok hs shuffled startedAt finishedAt, ?_, ?_, ?_⟩
    · rw [Settings.findings_check, Settings.findings_check]
      exact hmap.flatMap_right _
    · rw [Settings.check, Settings.check, Settings.verdict_report (hsettled shuffled) hshuffled,
        Settings.verdict_report (hsettled submissions) hresults,
        Verdict.worst_perm (hmap.map (·.verdict))]
    · rw [Settings.summary_check, Settings.summary_check]
      exact Settings.summary_perm hmap
  · intro text
    refine ⟨_, checkMessages_eq_ok hs [⟨none, text, .strip⟩] startedAt finishedAt, ?_⟩
    rw [Settings.check, List.map_singleton, Submission.lint_editorText]
    exact Settings.report_agreesWith (s.evaluate_settled _)

/-- A run over a message that passes, one that is skipped and one that fails for a warning, cut behind
the second message and turned around. -/
theorem checkMessages_merges_of_mixed_run :
    let config := "header_max_length = 50"
    let o : Settings.Overrides := ⟨some "strict", none, some "warning"⟩
    let s : Settings := { Settings.preset .strict with failOn := .warning, headerMaxLength := 50 }
    let front : List Submission := [⟨some "c1", "feat(RCD-1): add export", .whitespace⟩,
      ⟨some "c2", "Merge branch 'main'", .whitespace⟩]
    let back : List Submission := [⟨none, "fix(RCD-2): add rows\nThey were lost.", .strip⟩]
    Settings.ofFile config o = .ok s ∧ (front ++ back).length < 2 ^ 32 ∧
    (front ++ back).map (fun m => (m.lint s).verdict) = [.pass, .skip, .fail] ∧
    ∃ r, checkMessages config o (front ++ back) default default = .ok r ∧
      r.Merges ((front ++ back).map fun m => s.evaluate
        ((Message.ofText m.cleanup s.variant.grammar m.text).withCommit m.commit)) ∧
      (∃ rf rb, checkMessages config o front default default = .ok rf ∧
        checkMessages config o back default default = .ok rb ∧ r.Joins rf rb) ∧
      (∃ rs, checkMessages config o (front ++ back).reverse default default = .ok rs ∧
        rs.findings.Perm r.findings ∧ rs.verdict = r.verdict ∧ rs.summary = r.summary) ∧
      (∃ one,
        checkMessages config o [⟨none, "feat: add export", .strip⟩] default default = .ok one ∧
        one.AgreesWith (s.lint "feat: add export")) := by
  intro config o s front back
  have hdocument : Settings.Document.ofFile? config =
      some { Settings.Document.empty with headerMaxLength := some 50 } := by decide +kernel
  have hs : Settings.ofFile config o = .ok s := by
    rw [Settings.ofFile, hdocument]
    rfl
  have hlength : (front ++ back).length < 2 ^ 32 := by decide
  obtain ⟨r, hr, hmerges, hjoins, hperm, hagrees⟩ :=
    checkMessages_merges hs hlength default default
  exact ⟨hs, hlength, by decide +kernel, r, hr, hmerges, hjoins front back rfl, hperm _ (List.reverse_perm _),
    hagrees "feat: add export"⟩

end CommitPolicy
