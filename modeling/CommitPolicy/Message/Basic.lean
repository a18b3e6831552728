import CommitPolicy.Header.Basic
import CommitPolicy.Message.Footer
import CommitPolicy.Text.Line

namespace CommitPolicy

inductive Cleanup where
  /-- Text from an editor: lines that start with `#` are comments. -/
  | strip
  /-- Text from history, where comments are already gone. -/
  | whitespace
deriving DecidableEq, Repr, Inhabited

namespace Cleanup

def keeps : Cleanup → List Char → Bool
  | .strip, line => line.head? != some '#'
  | .whitespace, _ => true

def normalize (c : Cleanup) (text : String) : String :=
  String.ofList (Text.trim (Text.join '\n' ((Text.lines text.toList).filter c.keeps)))

end Cleanup

structure Message where
  commit : Option String
  raw : String
  lines : List String
  header : Header
  body : Option String
  footer : Option String
  footerStart : Option Nat
deriving DecidableEq, Repr, Inhabited

namespace Message

def paragraph? (lines : List String) : Option String :=
  Header.nonEmpty? (Text.trim (Text.join '\n' (lines.map String.toList)))

/-- The index of the first footer line. The header is never one. -/
def footerIndex? (lines : List String) : Option Nat :=
  ((lines.drop 1).findIdx? (isFooterLine ·.toList)).map (· + 1)

def bodyLines (lines : List String) (footerStart : Option Nat) : List String :=
  (lines.take (footerStart.getD lines.length)).drop 1

def ofClean (g : Grammar) (raw : String) : Message :=
  let lines := Text.linesOf raw
  let footerStart := footerIndex? lines
  { commit := none
    raw := raw
    lines := lines
    header := Header.ofLine g (lines.headD "")
    body := paragraph? (bodyLines lines footerStart)
    footer := footerStart.bind fun start => paragraph? (lines.drop start)
    footerStart := footerStart }

def ofText (c : Cleanup) (g : Grammar) (text : String) : Message := ofClean g (c.normalize text)

def withCommit (m : Message) (commit : Option String) : Message := { m with commit := commit }

def lineAfterHeader? (m : Message) : Option String := m.lines[1]?

end Message

end CommitPolicy
