import CommitPolicy.Report.Finding
import CommitPolicy.Report.Timestamp

namespace CommitPolicy

namespace Report

structure Tool where
  name : String
  version : String
deriving DecidableEq, Repr, Inhabited

structure Summary where
  profile : String
  variant : String
  messagesChecked : UInt32
  messagesIgnored : UInt32
  errors : UInt32
  warnings : UInt32
deriving DecidableEq, Repr, Inhabited

def Tool.current : Tool := ⟨"commitguard", "0.1.0"⟩

end Report

structure Report where
  tool : Report.Tool
  startedAt : Timestamp
  finishedAt : Timestamp
  verdict : Verdict
  findings : List Finding
  summary : Report.Summary
deriving Repr, Inhabited

namespace Report

def ofRuntimeError (profile message : String) (now : Timestamp) : Report where
  tool := .current
  startedAt := now
  finishedAt := now
  verdict := .fail
  findings := [{
    severity := .error
    checkId := "tool.runtime"
    code := "runtime_error"
    message := message
    location := none
    help := some "Fix the tool error and re-run commitguard."
    url := none
    fingerprint := none
    data := .null }]
  summary := ⟨profile, "unknown", 0, 0, 1, 0⟩

end Report

end CommitPolicy
