import CommitPolicy.Files.Tree
import CommitPolicy.Host.Basic

namespace CommitPolicy.Host

structure Memory where
  files : Files.Tree
  input : ByteArray
  /-- What git answers; none if there is no git. -/
  git : Option GitOutput
  time : Timestamp
  output : String
  errors : String
  gitRequest : Option (List String)

namespace Memory

def start (files : Files.Tree) (input : ByteArray) (git : Option GitOutput) : Memory :=
  ⟨files, input, git, .epoch, "", "", none⟩

def update (change : Files.Tree → Except Files.Failure Files.Tree) :
    StateM Memory (Except Files.Failure Unit) :=
  fun s => match change s.files with
    | .ok files => (.ok (), { s with files := files })
    | .error e => (.error e, s)

def runGit (args : List String) : StateM Memory (Except Files.Failure GitOutput) :=
  fun s => match s.git with
    | some answer => (.ok answer, { s with gitRequest := some args })
    | none => (.error .notFound, s)

end Memory

def memory : Host (StateM Memory) where
  readFile path := fun s => (s.files.read path, s)
  readInput := fun s => (.ok s.input, s)
  createDirectories path := Memory.update (·.createDirectories path)
  writeFile path text := Memory.update (·.write path text.toUTF8)
  runGit := Memory.runGit
  now := fun s => (s.time, s)
  print text := fun s => ((), { s with output := s.output ++ text })
  printError text := fun s => ((), { s with errors := s.errors ++ text })

end CommitPolicy.Host
