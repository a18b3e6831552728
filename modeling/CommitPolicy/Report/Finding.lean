import CommitPolicy.Json.Basic
import CommitPolicy.Severity

namespace CommitPolicy

/-- Where in a linted message a finding points; lines count from one. The numbers of a report have
32 bits. -/
structure Location where
  commit : Option String
  line : Option UInt32
  col : Option UInt32
deriving DecidableEq, Repr, Inhabited

structure Finding where
  severity : Severity
  checkId : String
  code : String
  message : String
  location : Option Location
  help : Option String
  url : Option String
  fingerprint : Option String
  /-- Further facts, as the check chooses; null when there are none. -/
  data : Json
deriving Repr, Inhabited

end CommitPolicy
