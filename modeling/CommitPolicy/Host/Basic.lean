import CommitPolicy.Files.Failure
import CommitPolicy.Report.Timestamp

namespace CommitPolicy

structure GitOutput where
  output : ByteArray
  errors : ByteArray
  succeeded : Bool

/-- What a command needs from the machine that it runs on. Commands run in `IO` as well as against a
directory in memory. -/
structure Host (m : Type → Type) where
  readFile : String → m (Except Files.Failure ByteArray)
  readInput : m (Except Files.Failure ByteArray)
  createDirectories : String → m (Except Files.Failure Unit)
  writeFile : String → String → m (Except Files.Failure Unit)
  runGit : List String → m (Except Files.Failure GitOutput)
  now : m Timestamp
  print : String → m Unit
  printError : String → m Unit

end CommitPolicy
