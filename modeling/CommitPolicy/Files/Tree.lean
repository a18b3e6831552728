import CommitPolicy.Files.Failure
import CommitPolicy.Files.Path

namespace CommitPolicy.Files

/-- Places are lists of names, the last name first; the directory itself is the empty list. -/
abbrev Place := List String

structure Tree where
  files : List (Place × ByteArray)
  directories : List Place

inductive Entry where
  | file (content : ByteArray)
  | directory

namespace Tree

def empty : Tree := ⟨[], []⟩

instance : Inhabited Tree := ⟨empty⟩

def entryAt? (t : Tree) (p : Place) : Option Entry :=
  if p = [] ∨ p ∈ t.directories then some .directory else (t.files.lookup p).map .file

/-- Follows names from a place; each of them but the last has to lead to a directory. -/
def walk (t : Tree) (p : Place) : List String → Except Failure Place
  | [] => .ok p
  | name :: rest =>
    match t.entryAt? p with
    | none => .error .notFound
    | some (.file _) => .error .notDirectory
    | some .directory =>
      if name = ".." then
        match p with
        | [] => .error .notFound
        | _ :: up => walk t up rest
      else if Path.maxNameBytes < name.utf8ByteSize then .error .nameTooLong
      else walk t (name :: p) rest

def placeOf (t : Tree) (path : String) : Except Failure Place :=
  if Path.maxBytes < path.utf8ByteSize then .error .nameTooLong
  else if path.isEmpty ∨ Path.isAbsolute path then .error .notFound
  else t.walk [] (Path.names path)

def read (t : Tree) (path : String) : Except Failure ByteArray := do
  match t.entryAt? (← t.placeOf path) with
  | none => .error .notFound
  | some .directory => .error .isDirectory
  | some (.file content) => if Path.namesDirectory path then .error .notDirectory else .ok content

def write (t : Tree) (path : String) (content : ByteArray) : Except Failure Tree := do
  let p ← t.placeOf path
  match t.entryAt? p with
  | some .directory => .error .isDirectory
  | some (.file _) =>
    if Path.namesDirectory path then .error .notDirectory
    else .ok { t with files := (p, content) :: t.files }
  | none =>
    if Path.namesDirectory path then .error .isDirectory
    else .ok { t with files := (p, content) :: t.files }

def makeDirectories (t : Tree) (p : Place) : List String → Except Failure Tree
  | [] => .ok t
  | name :: rest =>
    if name = ".." then
      match p with
      | [] => .error .notFound
      | _ :: up => makeDirectories t up rest
    else if Path.maxNameBytes < name.utf8ByteSize then .error .nameTooLong
    else
      match t.entryAt? (name :: p) with
      | some .directory => makeDirectories t (name :: p) rest
      | some (.file _) => .error (if rest.isEmpty then .alreadyThere else .notDirectory)
      | none =>
        makeDirectories { t with directories := (name :: p) :: t.directories } (name :: p) rest

def createDirectories (t : Tree) (path : String) : Except Failure Tree :=
  if Path.maxBytes < path.utf8ByteSize then .error .nameTooLong
  else if Path.isAbsolute path then .error .notFound
  else t.makeDirectories [] (Path.names path)

/-- Adds a file and the directories above it; what cannot be added is left out. -/
def add (t : Tree) (file : String × ByteArray) : Tree :=
  match t.createDirectories (Path.parent file.1) with
  | .error _ => t
  | .ok withParent => (withParent.write file.1 file.2).toOption.getD withParent

def ofFiles (files : List (String × ByteArray)) : Tree := files.foldl add empty

end Tree

end CommitPolicy.Files
