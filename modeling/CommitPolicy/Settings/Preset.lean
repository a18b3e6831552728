import CommitPolicy.Settings.Basic

namespace CommitPolicy.Settings

inductive Profile where
  | flexible
  | strict
deriving DecidableEq, Repr, Inhabited

namespace Profile

def all : List Profile := [.flexible, .strict]

def name : Profile → String
  | .flexible => "flexible"
  | .strict => "strict"

def ofName? : String → Option Profile
  | "flexible" => some .flexible
  | "strict" => some .strict
  | _ => none

end Profile

def defaultTypes : List String :=
  ["build", "chore", "ci", "docs", "feat", "fix", "perf", "refactor", "revert", "style", "test"]

def defaultHeaderMaxLength : Nat := 72

/-- The strict profile only warns where a blank line is missing. -/
def Profile.severity : Profile → CheckId → Severity
  | .strict, .bodyLeadingBlank | .strict, .footerLeadingBlank => .warning
  | _, _ => .error

def Profile.variant : Profile → Variant
  | .flexible => .flexible
  | .strict => .strict

def preset (p : Profile) : Settings where
  profile := p.name
  variant := p.variant
  failOn := .error
  headerMaxLength := defaultHeaderMaxLength
  types := defaultTypes
  defaultIgnores := true
  ignores := []
  checks := fun c => some ⟨true, p.severity c⟩

end CommitPolicy.Settings
