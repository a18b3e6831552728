import CommitPolicy.Check.Inspection
import CommitPolicy.Digest.Sha256
import CommitPolicy.Report.Finding

namespace CommitPolicy

/-- The text that identifies a finding about a header from run to run. -/
def Finding.identity (checkId code header : String) : String :=
  "|".intercalate [checkId, code, header]

def Finding.fingerprintOf (checkId code header : String) : String :=
  Digest.Sha256.hexOf (identity checkId code header)

def Objection.toFinding (o : Objection) (c : CheckId) (severity : Severity) (m : Message) :
    Finding where
  severity := severity
  checkId := c.name
  code := o.code.name
  message := o.message
  location := some ⟨m.commit, some (.ofNat o.line), none⟩
  help := some o.help
  url := none
  fingerprint := some (Finding.fingerprintOf c.name o.code.name m.header.raw)
  data := o.data

def CheckId.finding? (c : CheckId) (s : Settings) (m : Message) : Option Finding :=
  (s.activePolicy? c).bind fun policy =>
    (c.inspect s m).map fun o => o.toFinding c policy.severity m

structure LintResult where
  verdict : Verdict
  findings : List Finding
  counts : SeverityCounts
  ignored : Bool
deriving Inhabited

namespace LintResult

def skipped : LintResult := ⟨.skip, [], .zero, true⟩

def ofFindings (failOn : FailOn) (findings : List Finding) : LintResult :=
  let severities := findings.map (·.severity)
  ⟨.ofSeverities failOn severities, findings, .ofSeverities severities, false⟩

def errors (r : LintResult) : List Finding := r.findings.filter (·.severity = .error)

def warnings (r : LintResult) : List Finding := r.findings.filter (·.severity = .warning)

def isValid (r : LintResult) : Bool := r.counts.error == 0

end LintResult

def Settings.findings (s : Settings) (m : Message) : List Finding :=
  CheckId.all.filterMap (·.finding? s m)

def Settings.evaluate (s : Settings) (m : Message) : LintResult :=
  if s.skips m.header.raw then .skipped else .ofFindings s.failOn (s.findings m)

def Settings.lint (s : Settings) (text : String) : LintResult :=
  s.evaluate (Message.ofText .strip s.variant.grammar text)

end CommitPolicy
