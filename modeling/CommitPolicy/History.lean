import CommitPolicy.Batch

namespace CommitPolicy.History

def recordSeparator : Char := '\x1e'

def logArguments (start stop : String) : List String :=
  ["log", "--reverse", "--format=%H%x00%B%x1e", start ++ ".." ++ stop]

def isLineEnd (c : Char) : Bool := c == '\n' || c == '\r'

/-- The message in a record: an identifier, a null character and the message. A record without a
null character holds none. Git has already taken the comments out. -/
def submission? (record : List Char) : Option Submission :=
  let record := record.dropWhile isLineEnd
  match record.dropWhile (· != '\x00') with
  | [] => none
  | _ :: text =>
    some {
      commit := some (String.ofList (Text.trim (record.takeWhile (· != '\x00'))))
      text := String.ofList text
      cleanup := .whitespace }

def submissionsOf (log : List Char) : List Submission :=
  (Text.pieces recordSeparator log).filterMap submission?

def submissions (log : String) : List Submission := submissionsOf log.toList

end CommitPolicy.History
