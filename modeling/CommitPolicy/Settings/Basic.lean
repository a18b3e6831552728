import CommitPolicy.Check.Code
import CommitPolicy.Message.Generated
import CommitPolicy.Pattern.Basic
import CommitPolicy.Severity

namespace CommitPolicy

structure CheckPolicy where
  enabled : Bool
  severity : Severity
deriving DecidableEq, Repr, Inhabited

structure Settings where
  profile : String
  variant : Variant
  failOn : FailOn
  headerMaxLength : Nat
  /-- The allowed commit types, in the order in which they are shown. -/
  types : List String
  defaultIgnores : Bool
  ignores : List Pattern
  checks : CheckId → Option CheckPolicy

namespace Settings

def activePolicy? (s : Settings) (c : CheckId) : Option CheckPolicy :=
  (s.checks c).filter (·.enabled)

def skips (s : Settings) (header : String) : Bool :=
  (s.defaultIgnores && Message.isGenerated header) || s.ignores.any (·.occursIn header)

end Settings

end CommitPolicy
