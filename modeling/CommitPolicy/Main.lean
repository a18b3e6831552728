import CommitPolicy.CommandLine.Run
import Std.Time.DateTime.Timestamp

namespace CommitPolicy.Host

def failureOf : IO.Error → Files.Failure
  | .noFileOrDirectory .. => .notFound
  | .alreadyExists .. => .alreadyThere
  | .invalidArgument _ 36 _ => .nameTooLong
  | .inappropriateType _ code _ => if code = 21 then .isDirectory else .notDirectory
  | e => .other (toString e)

def attempt {α : Type} (act : IO α) : IO (Except Files.Failure α) := do
  match ← act.toBaseIO with
  | .ok a => pure (.ok a)
  | .error e => pure (.error (failureOf e))

def readStandardInput : IO ByteArray := do (← IO.getStdin).readBinToEnd

/-- Git is not started from here: its answer is read from the standard input. -/
def gitAnswer : IO GitOutput := do pure ⟨← readStandardInput, ByteArray.empty, true⟩

def system : Host IO where
  readFile path := attempt (IO.FS.readBinFile path)
  readInput := attempt readStandardInput
  createDirectories path := attempt (IO.FS.createDirAll path)
  writeFile path text := attempt (IO.FS.writeFile path text)
  runGit _ := attempt gitAnswer
  now := do
    let t ← Std.Time.Timestamp.now
    pure (Timestamp.ofNanoseconds t.toNanosecondsSinceUnixEpoch.val.toNat)
  print text := do (← IO.getStdout).putStr text
  printError text := do (← IO.getStderr).putStr text

end CommitPolicy.Host

def main (args : List String) : IO UInt32 :=
  CommitPolicy.CommandLine.run CommitPolicy.Host.system args
