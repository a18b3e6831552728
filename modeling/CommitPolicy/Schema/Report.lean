import CommitPolicy.Report.Json
import CommitPolicy.Schema.Basic

namespace CommitPolicy.Schema

def reportId : String := Report.schema

def location : Json :=
  .object <| described "Where in the linted input a finding points." <| record [
    ("col", .object wordOrNull),
    ("commit", .object (described
      "Commit the message belongs to, when linting a git range." textOrNull)),
    ("line", .object (described "1-based line within the message." wordOrNull))] []

def severity : Json :=
  .object <| described "Severity is intentionally small: it maps cleanly to CI signals."
    (oneOf ([Severity.info, .warning, .error].map Severity.name))

def verdict : Json :=
  .object [("oneOf", .array [
    .object (oneOf ([Verdict.pass, .warn, .fail].map Verdict.name)),
    .object (described "Every message in the run matched an ignore rule."
      (text ++ [("const", .string Verdict.skip.name)]))])]

def tool : Json :=
  .object <| record [("name", .object text), ("version", .object text)] ["name", "version"]

def summary : Json :=
  .object <| described "Commitguard-specific summary payload for the report." <| record [
    ("errors", .object word),
    ("messages_checked", .object word),
    ("messages_ignored", .object word),
    ("profile", .object text),
    ("variant", .object (described
      "Active scope policy variant (\x60flexible\x60 or \x60strict\x60)." text)),
    ("warnings", .object word)]
    ["profile", "variant", "messages_checked", "messages_ignored", "errors", "warnings"]

def fingerprintDescription : String := "\n".intercalate [
  "Stable identifier intended for dedup across runs: a hash of",
  "\x60check_id + code + header\x60."]

def finding : Json :=
  .object <| record [
    ("check_id", .object text),
    ("code", .object text),
    ("data", .object (described
      "Check-specific structured payload (kept open-ended for forward compatibility)." [])),
    ("fingerprint", .object (described fingerprintDescription textOrNull)),
    ("help", .object textOrNull),
    ("location", .object [("anyOf", .array [reference "Location", .object (ofType "null")])]),
    ("message", .object text),
    ("severity", reference "Severity"),
    ("url", .object textOrNull)]
    ["severity", "check_id", "code", "message"]

def reportProperties : List (String × Json) := [
  ("data", reference "CommitguardData"),
  ("findings", .object (listOf (reference "Finding") (ofType "array"))),
  ("finished_at", .object text),
  ("schema", .object (described "Versioned schema identifier for the envelope shape." text)),
  ("started_at", .object text),
  ("tool", reference "ToolMeta"),
  ("verdict", reference "Verdict")]

def reportDescription : String := "\n".intercalate [
  "A generic receipt/envelope.",
  "",
  "Keeping this generic allows commitguard to embed tool-specific data while still enforcing",
  "a stable outer shape."]

def report : Json :=
  document "ReportEnvelope"
    (described reportDescription (record reportProperties
      ["schema", "tool", "started_at", "finished_at", "verdict", "findings", "data"]))
    [("CommitguardData", summary), ("Finding", finding), ("Location", location),
      ("Severity", severity), ("ToolMeta", tool), ("Verdict", verdict)]

end CommitPolicy.Schema
