import CommitPolicy.Json.Parser
import CommitPolicy.Json.Printer
import CommitPolicy.Report.Basic

namespace CommitPolicy

namespace Report

def schema : String := "commitguard.report.v1"

def present (fields : List (String × Option Json)) : Json :=
  .object (fields.filterMap fun (key, v?) => v?.map (key, ·))

def word (n : UInt32) : Json := .nat n.toNat

end Report

def Location.toJson (l : Location) : Json :=
  Report.present [("commit", l.commit.map .string), ("line", l.line.map Report.word),
    ("col", l.col.map Report.word)]

def Finding.toJson (f : Finding) : Json :=
  Report.present [
    ("severity", some (.string f.severity.name)),
    ("check_id", some (.string f.checkId)),
    ("code", some (.string f.code)),
    ("message", some (.string f.message)),
    ("location", f.location.map Location.toJson),
    ("help", f.help.map .string),
    ("url", f.url.map .string),
    ("fingerprint", f.fingerprint.map .string),
    ("data", if f.data.isNull then none else some f.data)]

namespace Report

def Tool.toJson (t : Tool) : Json :=
  .object [("name", .string t.name), ("version", .string t.version)]

def Summary.toJson (s : Summary) : Json :=
  .object [
    ("profile", .string s.profile),
    ("variant", .string s.variant),
    ("messages_checked", word s.messagesChecked),
    ("messages_ignored", word s.messagesIgnored),
    ("errors", word s.errors),
    ("warnings", word s.warnings)]

def toJson (r : Report) : Json :=
  .object [
    ("schema", .string schema),
    ("tool", r.tool.toJson),
    ("started_at", .string r.startedAt.format),
    ("finished_at", .string r.finishedAt.format),
    ("verdict", .string r.verdict.name),
    ("findings", .array (r.findings.map Finding.toJson)),
    ("data", r.summary.toJson)]

def serialize (r : Report) : String := r.toJson.pretty

/-- The fields of a record, which is an object or a list of its values in the order of `names`.
A list may lack the last `spare` values. -/
def record? (names : List String) (spare : Nat) : Json → Option (List (String × Json))
  | .object fields => some fields
  | .array items =>
    if items.length ≤ names.length ∧ names.length ≤ items.length + spare then
      some (names.zip items)
    else none
  | _ => none

def required? {α : Type} (read? : Json → Option α) (key : String)
    (fields : List (String × Json)) : Option α :=
  (Json.lookup key fields).bind read?

def optional? {α : Type} (read? : Json → Option α) (key : String)
    (fields : List (String × Json)) : Option (Option α) :=
  match Json.lookup key fields with
  | none | some .null => some none
  | some v => (read? v).map some

def word? : Json → Option UInt32
  | .number (.int n) => if 0 ≤ n ∧ n < UInt32.size then some (.ofNat n.toNat) else none
  | _ => none

def name? {α : Type} (ofName? : String → Option α) (v : Json) : Option α :=
  match v.canonical with
  | .string s => ofName? s
  | .object [(s, .null)] => ofName? s
  | _ => none

def items? {α : Type} (read? : Json → Option α) : Json → Option (List α)
  | .array items => items.mapM read?
  | _ => none

end Report

open Report (record? required? optional? word? name? items?)

def Location.ofJson? (v : Json) : Option Location := do
  let fields ← record? ["commit", "line", "col"] 0 v
  some ⟨← optional? Json.text? "commit" fields, ← optional? word? "line" fields,
    ← optional? word? "col" fields⟩

def Finding.ofJson? (v : Json) : Option Finding := do
  let fields ← record? ["severity", "check_id", "code", "message", "location", "help", "url",
    "fingerprint", "data"] 1 v
  some {
    severity := ← required? (name? Severity.ofName?) "severity" fields
    checkId := ← required? Json.text? "check_id" fields
    code := ← required? Json.text? "code" fields
    message := ← required? Json.text? "message" fields
    location := ← optional? Location.ofJson? "location" fields
    help := ← optional? Json.text? "help" fields
    url := ← optional? Json.text? "url" fields
    fingerprint := ← optional? Json.text? "fingerprint" fields
    data := ((Json.lookup "data" fields).getD .null).canonical }

namespace Report

def Tool.ofJson? (v : Json) : Option Tool := do
  let fields ← record? ["name", "version"] 0 v
  some ⟨← required? Json.text? "name" fields, ← required? Json.text? "version" fields⟩

def Summary.ofJson? (v : Json) : Option Summary := do
  let fields ← record? ["profile", "variant", "messages_checked", "messages_ignored", "errors",
    "warnings"] 0 v
  some {
    profile := ← required? Json.text? "profile" fields
    variant := ← required? Json.text? "variant" fields
    messagesChecked := ← required? word? "messages_checked" fields
    messagesIgnored := ← required? word? "messages_ignored" fields
    errors := ← required? word? "errors" fields
    warnings := ← required? word? "warnings" fields }

def timestamp? (v : Json) : Option Timestamp := v.text?.bind Timestamp.ofText?

def ofFields? (fields : List (String × Json)) : Option Report := do
  some {
    tool := ← required? Tool.ofJson? "tool" fields
    startedAt := ← required? timestamp? "started_at" fields
    finishedAt := ← required? timestamp? "finished_at" fields
    verdict := ← required? (name? Verdict.ofName?) "verdict" fields
    findings := ← required? (items? Finding.ofJson?) "findings" fields
    summary := ← required? Summary.ofJson? "data" fields }

inductive ReadError where
  | notJson
  | unknownSchema (name : String)
  | wrongShape
deriving DecidableEq, Repr

def ReadError.message : ReadError → String
  | notJson => "parse report json"
  | unknownSchema name => "unknown report schema: " ++ name ++ " (expected " ++ schema ++ ")"
  | wrongShape => "parse commitguard v1 report"

def schemaOf (v : Json) : String := ((v.field? "schema").bind Json.text?).getD ""

def ofJson (v : Json) : Except ReadError Report :=
  if schemaOf v = schema then
    match v with
    | .object fields => match ofFields? fields with
      | some r => .ok r
      | none => .error .wrongShape
    | _ => .error .wrongShape
  else .error (.unknownSchema (schemaOf v))

def parse (text : String) : Except ReadError Report :=
  match Json.parse? text with
  | some v => ofJson v
  | none => .error .notJson

end Report

end CommitPolicy
