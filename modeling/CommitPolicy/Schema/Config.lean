import CommitPolicy.Schema.Basic

namespace CommitPolicy.Schema

def configId : String := "commitguard.config.v1"

def checkEntry : Json :=
  .object <| record [
    ("enabled", .object (described "Override preset enable/disable." (orNull "boolean"))),
    ("severity", .object (described
      "Override preset severity: \x60info\x60, \x60warning\x60, \x60error\x60." textOrNull))] []

def configProperties : List (String × Json) := [
  ("checks", .object (described "Map of check_id -> config."
    (ofType "object" ++ [
      ("additionalProperties", reference "CheckConfig"), ("default", .object [])]))),
  ("default_ignores", .object (described
    "Skip merge commits, git-generated reverts and autosquash headers (default true)."
    (orNull "boolean"))),
  ("fail_on", .object (described
    "When to fail the check: \x60error\x60 (default) or \x60warning\x60." textOrNull)),
  ("header_max_length", .object (described
    "Maximum header length in characters." (wholeNumber "uint" (orNull "integer")))),
  ("ignores", .object (described
    "Extra regular expressions; matching headers are not linted."
    (listOf (.object text) (ofType "array")))),
  ("profile", .object (described
    "Preset profile: \x60flexible\x60 (default) or \x60strict\x60." textOrNull)),
  ("schema", .object (described
    "Optional schema string for tooling (\x60commitguard.config.v1\x60)." textOrNull)),
  ("types", .object (described
    "Allowed commit types. Replaces the default list when set."
    (listOf (.object text) (orNull "array")))),
  ("variant", .object (described
    "Scope policy variant override: \x60flexible\x60 or \x60strict\x60." textOrNull))]

def configDescription : String := "\n".intercalate [
  "\x60commitguard.toml\x60 schema v1.",
  "",
  "This is a *user-facing* config model: every key is optional and resolution fills the",
  "gaps from the selected profile."]

def config : Json :=
  document "CommitguardConfigV1" (described configDescription (record configProperties []))
    [("CheckConfig", checkEntry)]

end CommitPolicy.Schema
