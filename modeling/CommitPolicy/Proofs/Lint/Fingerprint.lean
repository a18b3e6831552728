import CommitPolicy.Batch
import CommitPolicy.Proofs.Digest.Sha256
import CommitPolicy.Proofs.Issue.Identifier
import CommitPolicy.Proofs.Lint.Findings

namespace CommitPolicy

open Digest.Sha256 (Collide hexOf_eq_iff)
open Text (Lacks)

inductive LintRun where
  | lint (s : Settings) (text : String)
  | check (s : Settings) (submissions : List Submission) (startedAt finishedAt : Timestamp)

namespace LintRun

def settings : LintRun → Settings
  | lint s _ => s
  | check s _ _ _ => s

def messages : LintRun → List Message
  | lint s text => [Message.ofText .strip s.variant.grammar text]
  | check s submissions _ _ => submissions.map (·.message s.variant.grammar)

def findings : LintRun → List Finding
  | lint s text => (s.lint text).findings
  | check s submissions startedAt finishedAt =>
    (s.check submissions startedAt finishedAt).findings

def Emits (r : LintRun) (f : Finding) (m : Message) : Prop :=
  m ∈ r.messages ∧ f ∈ (r.settings.evaluate m).findings

theorem mem_findings_iff {r : LintRun} {f : Finding} : f ∈ r.findings ↔ ∃ m, r.Emits f m := by
  cases r with
  | lint s text => simp [findings, Emits, messages, settings, Settings.lint]
  | check s submissions startedAt finishedAt =>
    simp [findings, Emits, messages, settings, Settings.check, Settings.report, Submission.lint]

end LintRun

namespace Finding

theorem toList_identity (check code header : String) :
    (identity check code header).toList =
      check.toList ++ '|' :: (code.toList ++ '|' :: header.toList) := by
  rw [identity, String.intercalate_cons_cons, String.intercalate_cons_cons,
    String.intercalate_singleton]
  simp

theorem append_bar_inj {xs xs' ys ys' : List Char} (hxs : '|' ∉ xs) (hxs' : '|' ∉ xs') :
    xs ++ '|' :: ys = xs' ++ '|' :: ys' ↔ xs = xs' ∧ ys = ys' := by
  constructor
  · intro h
    obtain ⟨hx, hy⟩ := Text.append_inj_span (Text.bne_of_not_mem hxs) (Text.bne_of_not_mem hxs')
      (by simp) (by simp) h
    exact ⟨hx, List.tail_eq_of_cons_eq hy⟩
  · rintro ⟨rfl, rfl⟩
    rfl

/-- Only the header may hold bars. -/
theorem identity_inj {check check' code code' header header' : String} (hcheck : Lacks '|' check)
    (hcheck' : Lacks '|' check') (hcode : Lacks '|' code) (hcode' : Lacks '|' code') :
    identity check code header = identity check' code' header' ↔
      check = check' ∧ code = code' ∧ header = header' := by
  rw [← String.toList_inj, toList_identity, toList_identity, append_bar_inj hcheck hcheck',
    append_bar_inj hcode hcode', String.toList_inj, String.toList_inj, String.toList_inj]

end Finding

namespace LintRun

variable {r r' : LintRun} {f g : Finding} {m m' : Message}

theorem Emits.fields (h : r.Emits f m) :
    Lacks '|' f.checkId ∧ Lacks '|' f.code ∧
      f.fingerprint = some (Finding.fingerprintOf f.checkId f.code m.header.raw) := by
  obtain ⟨c, policy, o, -, -, rfl⟩ :=
    Settings.exists_objection_of_mem_findings (Settings.mem_findings_of_mem_evaluate h.2)
  exact ⟨c.lacks_name (by decide), o.code.lacks_name (by decide), rfl⟩

theorem Emits.fingerprint_eq_iff (hf : r.Emits f m) (hg : r'.Emits g m') :
    f.fingerprint = g.fingerprint ↔
      (f.checkId = g.checkId ∧ f.code = g.code ∧ m.header.raw = m'.header.raw) ∨
      Collide (Finding.identity f.checkId f.code m.header.raw).toUTF8.toList
        (Finding.identity g.checkId g.code m'.header.raw).toUTF8.toList := by
  obtain ⟨hcheck, hcode, hfinger⟩ := hf.fields
  obtain ⟨hcheck', hcode', hfinger'⟩ := hg.fields
  rw [hfinger, hfinger', Option.some_inj, Finding.fingerprintOf, Finding.fingerprintOf,
    hexOf_eq_iff, Finding.identity_inj hcheck hcheck' hcode hcode']

/-- Findings of any two runs on messages with the same header have the same fingerprint if they come
from the same check under the same code; unless the hash function collides on what is hashed, they
have it only then. -/
theorem fingerprints_identify (hf : f ∈ r.findings) (hg : g ∈ r'.findings) :
    (∃ m, r.Emits f m) ∧ (∃ m', r'.Emits g m') ∧
    ∀ m m', r.Emits f m → r'.Emits g m' →
      (f.checkId = g.checkId ∧ f.code = g.code ∧ m.header.raw = m'.header.raw →
        f.fingerprint = g.fingerprint) ∧
      (¬ Collide (Finding.identity f.checkId f.code m.header.raw).toUTF8.toList
          (Finding.identity g.checkId g.code m'.header.raw).toUTF8.toList →
        f.fingerprint = g.fingerprint →
        f.checkId = g.checkId ∧ f.code = g.code ∧ m.header.raw = m'.header.raw) := by
  refine ⟨mem_findings_iff.1 hf, mem_findings_iff.1 hg, fun m m' hm hm' => ⟨fun h => ?_, ?_⟩⟩
  · exact (hm.fingerprint_eq_iff hm').2 (.inl h)
  · intro hcollide h
    exact ((hm.fingerprint_eq_iff hm').1 h).resolve_right hcollide

/-- A header with a bar in it, linted with a body by the flexible variant and checked as a commit by
the strict one, where all checks only warn. -/
theorem fingerprints_identify_of_barred_header :
    let s : Settings := { Settings.preset .strict with checks := fun _ => some ⟨true, .warning⟩ }
    let r : LintRun := .lint (Settings.preset .flexible) "feat: a|b\n\nWhy."
    let r' : LintRun := .check s [⟨some "c1", "feat: a|b", .whitespace⟩] default default
    ∃ f ∈ r.findings, ∃ g ∈ r'.findings, f.severity = .error ∧ g.severity = .warning ∧
      f.fingerprint = g.fingerprint := by
  intro s r r'
  have hr : ("scope.issue_id", "scope_required", Severity.error) ∈
      r.findings.map fun f => (f.checkId, f.code, f.severity) := by decide +kernel
  have hr' : ("scope.issue_id", "scope_required", Severity.warning) ∈
      r'.findings.map fun f => (f.checkId, f.code, f.severity) := by decide +kernel
  obtain ⟨f, hf, hfields⟩ := List.mem_map.1 hr
  obtain ⟨g, hg, hfields'⟩ := List.mem_map.1 hr'
  obtain ⟨⟨m, hm⟩, ⟨m', hm'⟩, hall⟩ := fingerprints_identify hf hg
  have hheader : ∀ m ∈ r.messages, m.header.raw = "feat: a|b" := by decide +kernel
  have hheader' : ∀ m ∈ r'.messages, m.header.raw = "feat: a|b" := by decide +kernel
  have hsame : m.header.raw = m'.header.raw :=
    (hheader m hm.1).trans (hheader' m' hm'.1).symm
  simp only [Prod.mk.injEq] at hfields hfields'
  refine ⟨f, hf, g, hg, hfields.2.2, hfields'.2.2, (hall m m' hm hm').1 ⟨?_, ?_, hsame⟩⟩
  · rw [hfields.1, hfields'.1]
  · rw [hfields.2.1, hfields'.2.1]

end LintRun

end CommitPolicy
