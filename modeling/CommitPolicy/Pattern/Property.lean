import CommitPolicy.Pattern.CharSet
import CommitPolicy.Text.Table.Category
import CommitPolicy.Text.Table.Property
import CommitPolicy.Text.Table.Script
import CommitPolicy.Text.Table.ScriptExtension

namespace CommitPolicy.Pattern

open Text (CodePointSet)

def isNameFiller (c : Char) : Bool := c == ' ' || c == '_' || c == '-'

/-- The part of a name that counts. The name `isc` is kept whole, for `c` is a name of its own. -/
def looseName (name : List Char) : String :=
  let kept (cs : List Char) :=
    (cs.filter fun c => !isNameFiller c && Text.isAscii c).map Char.toLower
  match name with
  | a :: b :: rest =>
    if a.toLower = 'i' ∧ b.toLower = 's' then
      if kept rest = ['c'] then "isc" else String.ofList (kept rest)
    else String.ofList (kept name)
  | _ => String.ofList (kept name)

def tableSet? (table : List (List String × String)) (name : String) : Option CharSet :=
  (table.find? (·.1.contains name)).map fun e => .table (.ofText e.2)

def category? (name : String) : Option CharSet :=
  match name with
  | "any" => some .all
  | "ascii" => some (.range '\x00' '\x7f')
  | "assigned" => (tableSet? Text.Table.categories "cn").map .compl
  | name =>
    match Text.Table.categoryGroups.find? (·.1.contains name) with
    | some group => some (.unionOf (group.2.filterMap (tableSet? Text.Table.categories)))
    | none => tableSet? Text.Table.categories name

/-- A property named alone: a property that a character has or lacks, a general category or a
script. Three short names stand for categories although properties share them. -/
def property? (name : List Char) : Option CharSet :=
  let name := looseName name
  let alone :=
    if ["cf", "sc", "lc"].contains name then none else tableSet? Text.Table.properties name
  (alone.or (category? name)).or (tableSet? Text.Table.scripts name)

/-- A property given by the name of a classification and a value. Ages and the kinds of breaks between
characters, words and sentences are not known. -/
def propertyValue? (name value : List Char) : Option CharSet :=
  let value := looseName value
  match looseName name with
  | "generalcategory" | "gc" => category? value
  | "script" | "sc" => tableSet? Text.Table.scripts value
  | "scriptextensions" | "scx" => tableSet? Text.Table.scriptExtensions value
  | _ => none

end CommitPolicy.Pattern
