import CommitPolicy.CommandLine.RunError
import CommitPolicy.Explanation.Basic
import CommitPolicy.Files.Path
import CommitPolicy.Host.Basic
import CommitPolicy.Schema.Config
import CommitPolicy.Schema.Report

namespace CommitPolicy.CommandLine.Maintenance

variable {m : Type → Type} [Monad m]

def help : String := Text.unlines [
  "xtask commands:",
  "  help                Show this message",
  "  emit-schemas [DIR]  Generate JSON schemas from Rust types (default: schemas/)",
  "  print-schema-ids    Print known schema IDs",
  "  explain-coverage    Validate all check IDs and codes have explanations"]

def schemas : List (String × Json) :=
  [(Schema.reportId, Schema.report), (Schema.configId, Schema.config)]

def defaultDirectory : String := "schemas"

def fail (host : Host m) (steps : List String) : m UInt32 := do
  host.printError (errorText steps)
  pure 1

/-- Writes schemas into a directory; the steps of a failure come outermost first. -/
def writeSchemas (host : Host m) (directory : String) :
    List (String × Json) → m (Except (List String) Unit)
  | [] => pure (.ok ())
  | (id, schema) :: rest => do
    let path := Files.Path.child directory (id ++ ".json")
    match ← host.writeFile path (schema.pretty ++ "\n") with
    | .error cause => pure (.error ["Failed to write schema to " ++ path, cause.message])
    | .ok _ => do
      host.print ("Wrote " ++ path ++ "\n")
      writeSchemas host directory rest

def emitSchemas (host : Host m) (directory : String) : m UInt32 := do
  match ← host.createDirectories directory with
  | .error cause =>
    fail host ["xtask failed", "Failed to create schemas directory", cause.message]
  | .ok _ => do
    match ← writeSchemas host directory schemas with
    | .error steps => fail host ("xtask failed" :: steps)
    | .ok _ => do
      host.print "\nSchemas emitted successfully.\n"
      pure 0

def emptyParts (e : Explanation) : List String :=
  let parts := [("title", e.title), ("description", e.description),
    ("remediation", e.remediation), ("before example", e.before), ("after example", e.after)]
  (parts.filter fun (_, text) => (Text.trim text.toList).isEmpty).map Prod.fst

def gapsOf (kind name : String) (e : Explanation) : List String :=
  (emptyParts e).map fun part => kind ++ " '" ++ name ++ "' has empty " ++ part

def gaps : List String :=
  (CheckId.all.flatMap fun c => gapsOf "Check ID" c.name c.explanation)
    ++ Code.all.flatMap fun k => gapsOf "Code" k.name k.explanation

def explainCoverage (host : Host m) : m UInt32 := do
  if gaps.isEmpty then do
    host.print (Text.unlines [
      "✓ " ++ toString CheckId.all.length ++ " check IDs have explanations",
      "✓ " ++ toString Code.all.length ++ " codes have explanations",
      "",
      "✓ All explain coverage checks passed!"])
    pure 0
  else do
    host.printError (Text.unlines (gaps.map fun gap => "  - " ++ gap))
    fail host ["xtask failed",
      "Explain coverage validation failed with " ++ toString gaps.length ++ " errors"]

def run (host : Host m) (args : List String) : m UInt32 :=
  match args.headD "help" with
  | "help" | "--help" | "-h" => do
    host.printError help
    pure 0
  | "emit-schemas" => emitSchemas host (args[1]?.getD defaultDirectory)
  | "explain-coverage" => explainCoverage host
  | "print-schema-ids" => do
    host.print (Text.unlines (schemas.map Prod.fst))
    pure 0
  | other => fail host
      ["unknown xtask command: " ++ other ++ "\n\nRun \x60cargo xtask help\x60 for usage."]

end CommitPolicy.CommandLine.Maintenance
