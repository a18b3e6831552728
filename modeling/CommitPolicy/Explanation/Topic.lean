import CommitPolicy.Explanation.Basic
import CommitPolicy.Settings.Preset
import CommitPolicy.Text.Line

namespace CommitPolicy

inductive Topic where
  | check (c : CheckId)
  | code (k : Code)
deriving DecidableEq, Repr

namespace Topic

open Settings (Profile)

def ofName? (name : String) : Option Topic :=
  match Code.ofName? name with
  | some k => some (code k)
  | none => (CheckId.ofName? name).map check

def name : Topic → String
  | check c => c.name
  | code k => k.name

def checkId : Topic → CheckId
  | check c => c
  | code k => k.check

def codes : Topic → List Code
  | check c => c.codes
  | code k => [k]

def explanation : Topic → Explanation
  | check c => c.explanation
  | code k => k.explanation

/-- The severity of the check under each profile; none where it is off. -/
def severities (t : Topic) : List (Profile × Option Severity) :=
  Profile.all.map fun p => (p, ((Settings.preset p).activePolicy? t.checkId).map (·.severity))

def reasons (t : Topic) : List ScopeReason :=
  t.codes.filterMap fun k => ScopeReason.ofCodeName? k.name

def severityNote (p : Profile) (severity : Option Severity) : String :=
  p.name ++ "=" ++ (severity.map Severity.name).getD "off"

def reasonLine (r : ScopeReason) : String :=
  (Code.scope r).name ++ ": \"" ++ r.message ++ "\" ("
    ++ ", ".intercalate (r.variants.map Variant.name) ++ ")"

def reasonLines (t : Topic) : List String :=
  if t.reasons.isEmpty then []
  else "Messages" :: "--------" :: t.reasons.map reasonLine ++ [""]

def codeBlock (title content : String) : List String :=
  [title, "\x60\x60\x60text", content, "\x60\x60\x60"]

def page (t : Topic) : String :=
  let e := t.explanation
  Text.unlines <|
    [e.title, String.ofList (List.replicate e.title.length '='), "",
      "check: " ++ t.checkId.name,
      "codes: " ++ ", ".intercalate (t.codes.map Code.name),
      "profiles: " ++ ", ".intercalate (t.severities.map fun (p, s) => severityNote p s), "",
      e.description, ""]
    ++ t.reasonLines
    ++ ["Remediation", "-----------", e.remediation, ""]
    ++ codeBlock "Before (violation):" e.before
    ++ "" :: codeBlock "After (fixed):" e.after

def unknownPage (name : String) : String :=
  Text.unlines <|
    ["Unknown check_id or code: " ++ name, "", "Known checks and codes:"]
    ++ CheckId.all.flatMap fun c =>
      ("  " ++ c.name) :: c.codes.map fun k => "    - " ++ k.name

end Topic

end CommitPolicy
