import CommitPolicy.Report.Basic

namespace CommitPolicy

structure View.Item where
  severity : Severity
  checkId : Option String
  code : String
  message : String
  header : Option String
  location : Option Location
  help : Option String
  url : Option String
deriving DecidableEq, Repr, Inhabited

structure View where
  verdict : Verdict
  items : List View.Item
  summary : Report.Summary
deriving DecidableEq, Repr, Inhabited

def View.Item.commit (i : View.Item) : Option String := i.location.bind (·.commit)

def View.Item.line (i : View.Item) : Option UInt32 := i.location.bind (·.line)

/-- Checks leave the header in the data of their findings. -/
def Finding.header (f : Finding) : Option String := (f.data.field? "header").bind Json.text?

def Finding.item (f : Finding) : View.Item where
  severity := f.severity
  checkId := some f.checkId
  code := f.code
  message := f.message
  header := f.header
  location := f.location
  help := f.help
  url := f.url

def Report.view (r : Report) : View := ⟨r.verdict, r.findings.map Finding.item, r.summary⟩

end CommitPolicy
