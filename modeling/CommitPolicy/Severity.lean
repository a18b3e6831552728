namespace CommitPolicy

inductive Severity where
  | info
  | warning
  | error
deriving DecidableEq, Repr, Inhabited

namespace Severity

def name : Severity → String
  | .info => "info"
  | .warning => "warning"
  | .error => "error"

def ofName? : String → Option Severity
  | "info" => some .info
  | "warning" => some .warning
  | "error" => some .error
  | _ => none

def rank : Severity → Nat
  | .info => 0
  | .warning => 1
  | .error => 2

instance : LE Severity := ⟨fun a b => a.rank ≤ b.rank⟩

instance (a b : Severity) : Decidable (a ≤ b) := inferInstanceAs (Decidable (a.rank ≤ b.rank))

end Severity

inductive Verdict where
  | pass
  | warn
  | fail
  /-- Nothing was linted. -/
  | skip
deriving DecidableEq, Repr, Inhabited

namespace Verdict

def name : Verdict → String
  | .pass => "pass"
  | .warn => "warn"
  | .fail => "fail"
  | .skip => "skip"

def ofName? : String → Option Verdict
  | "pass" => some .pass
  | "warn" => some .warn
  | "fail" => some .fail
  | "skip" => some .skip
  | _ => none

def rank : Verdict → Nat
  | .skip => 0
  | .pass => 1
  | .warn => 2
  | .fail => 3

instance : LE Verdict := ⟨fun a b => a.rank ≤ b.rank⟩

instance (a b : Verdict) : Decidable (a ≤ b) := inferInstanceAs (Decidable (a.rank ≤ b.rank))

def exitCode : Verdict → UInt32
  | .fail => 2
  | _ => 0

end Verdict

inductive FailOn where
  | error
  | warning
deriving DecidableEq, Repr, Inhabited

namespace FailOn

def name : FailOn → String
  | .error => "error"
  | .warning => "warning"

end FailOn

def Verdict.ofSeverities (failOn : FailOn) (severities : List Severity) : Verdict :=
  if .error ∈ severities then .fail
  else if .warning ∈ severities then
    match failOn with
    | .warning => .fail
    | .error => .warn
  else .pass

/-- How many findings there are of each severity, in 32 bits each. -/
structure SeverityCounts where
  info : UInt32
  warning : UInt32
  error : UInt32
deriving DecidableEq, Repr, Inhabited

namespace SeverityCounts

def zero : SeverityCounts := ⟨0, 0, 0⟩

def ofSeverities (severities : List Severity) : SeverityCounts :=
  ⟨.ofNat (severities.count .info), .ofNat (severities.count .warning),
    .ofNat (severities.count .error)⟩

end SeverityCounts

end CommitPolicy
