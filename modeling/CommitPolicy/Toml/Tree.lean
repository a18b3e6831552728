import CommitPolicy.Toml.Value

namespace CommitPolicy.Toml

/-- How a table that can still grow was made. That decides which later headers and dotted keys may
add to it. -/
inductive Origin where
  | header
  | implied
  | dotted
deriving DecidableEq, Repr

inductive Node where
  | leaf (v : Value)
  | table (origin : Origin) (fields : List (String × Node))
  | tables (last : List (String × Node)) (earlier : List (List (String × Node)))
deriving Inhabited

abbrev Fields := List (String × Node)

namespace Fields

def update? (key : String) (f : Option Node → Option Node) : Fields → Option Fields
  | [] => (f none).map fun node => [(key, node)]
  | (k, node) :: rest =>
    if k = key then (f (some node)).map fun changed => (k, changed) :: rest
    else (update? key f rest).map ((k, node) :: ·)

def through? (f : Fields → Option Fields) : Option Node → Option Node
  | none => (f []).map (.table .implied)
  | some (.table origin fields) => (f fields).map (.table origin)
  | some (.tables last earlier) => (f last).map (.tables · earlier)
  | some (.leaf _) => none

def atHeader? (f : Option Node → Option Node) : List String → Fields → Option Fields
  | [], _ => none
  | [key], fields => update? key f fields
  | key :: path, fields => update? key (through? (atHeader? f path)) fields

/-- Fills the table of a header `[path]`, which no header or dotted key may have made before. -/
def open? (f : Fields → Option Fields) : Option Node → Option Node
  | none => (f []).map (.table .header)
  | some (.table .implied fields) => (f fields).map (.table .header)
  | some _ => none

def append? (f : Fields → Option Fields) : Option Node → Option Node
  | none => (f []).map (.tables · [])
  | some (.tables last earlier) => (f []).map (.tables · (last :: earlier))
  | some _ => none

/-- Goes through a table on a dotted key. `nearest` tells that the key ends in this table: then
only a dotted key may have made it. -/
def throughDotted? (nearest : Bool) (f : Fields → Option Fields) : Option Node → Option Node
  | none => (f []).map (.table .dotted)
  | some (.table .dotted fields) => (f fields).map (.table .dotted)
  | some (.table .implied fields) => if nearest then none else (f fields).map (.table .implied)
  | some (.table .header _) => none
  | some (.tables last earlier) => if nearest then none else (f last).map (.tables · earlier)
  | some (.leaf _) => none

def define? (v : Value) : Option Node → Option Node
  | none => some (.leaf v)
  | some _ => none

def assign? (v : Value) : List String → Fields → Option Fields
  | [], _ => none
  | [key], fields => update? key (define? v) fields
  | key :: path, fields =>
    update? key (throughDotted? (path.length == 1) (assign? v path)) fields

def assignAll? (assignments : List (List String × Value)) (fields : Fields) : Option Fields :=
  assignments.foldlM (fun fields (path, v) => assign? v path fields) fields

end Fields

mutual

def Node.value : Node → Value
  | .leaf v => v
  | .table _ fields => .table (fieldValues fields)
  | .tables last earlier => .array (.table (fieldValues last) :: tableValues earlier).reverse

def fieldValues : List (String × Node) → List (String × Value)
  | [] => []
  | (k, node) :: rest => (k, node.value) :: fieldValues rest

def tableValues : List (List (String × Node)) → List Value
  | [] => []
  | fields :: rest => .table (fieldValues fields) :: tableValues rest

end

inductive Heading where
  | root
  | table (path : List String)
  | element (path : List String)
deriving Repr

structure Section where
  heading : Heading
  assignments : List (List String × Value)

def Section.addTo? (s : Section) (fields : Fields) : Option Fields :=
  let fill := Fields.assignAll? s.assignments
  match s.heading with
  | .root => fill fields
  | .table path => Fields.atHeader? (Fields.open? fill) path fields
  | .element path => Fields.atHeader? (Fields.append? fill) path fields

def Section.build? (sections : List Section) : Option (List (String × Value)) :=
  (sections.foldlM (fun fields (s : Section) => s.addTo? fields) []).map fieldValues

end CommitPolicy.Toml
