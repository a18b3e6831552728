import CommitPolicy.Text.Blank
import CommitPolicy.Toml.Parser

namespace CommitPolicy.Settings

structure CheckEntry where
  enabled : Option Bool
  severity : Option String
deriving DecidableEq, Repr, Inhabited

structure Document where
  schema : Option String
  profile : Option String
  variant : Option String
  failOn : Option String
  headerMaxLength : Option Nat
  types : Option (List String)
  defaultIgnores : Option Bool
  ignores : List String
  /-- Entries by the name of their check, sorted by name. -/
  checks : List (String × CheckEntry)
deriving DecidableEq, Repr

namespace Document

open Toml (Value)

def empty : Document := ⟨none, none, none, none, none, none, none, [], []⟩

instance : Inhabited Document := ⟨empty⟩

def optional? {α : Type} (read? : Value → Option α) : Option Value → Option (Option α)
  | none => some none
  | some v => (read? v).map some

/-- An entry is a table. A list gives the two values in order, and a date or time none. -/
def entryOf? : Value → Option CheckEntry
  | .table fields => do
    some ⟨← optional? Value.bool? (fields.lookup "enabled"),
      ← optional? Value.text? (fields.lookup "severity")⟩
  | .array items => do
    some ⟨← optional? Value.bool? items[0]?, ← optional? Value.text? items[1]?⟩
  | .moment => some ⟨none, none⟩
  | _ => none

def entriesOf? : Value → Option (List (String × CheckEntry))
  | .table fields => do
    let entries ← fields.mapM fun (name, v) => (entryOf? v).map (name, ·)
    some (entries.mergeSort fun a b => a.1 ≤ b.1)
  | _ => none

def greatestLength : Nat := .pow 2 64 - 1

def ofFields? (fields : List (String × Value)) : Option Document := do
  let ignores ← optional? Value.texts? (fields.lookup "ignores")
  let checks ← optional? entriesOf? (fields.lookup "checks")
  some {
    schema := ← optional? Value.text? (fields.lookup "schema")
    profile := ← optional? Value.text? (fields.lookup "profile")
    variant := ← optional? Value.text? (fields.lookup "variant")
    failOn := ← optional? Value.text? (fields.lookup "fail_on")
    headerMaxLength :=
      ← optional? (Value.natUpTo? greatestLength) (fields.lookup "header_max_length")
    types := ← optional? Value.texts? (fields.lookup "types")
    defaultIgnores := ← optional? Value.bool? (fields.lookup "default_ignores")
    ignores := ignores.getD []
    checks := checks.getD [] }

def ofText? (text : String) : Option Document := (Toml.parse? text).bind ofFields?

def ofFile? (text : String) : Option Document :=
  if (Text.trim text.toList).isEmpty then some empty else ofText? text

end Document

end CommitPolicy.Settings
