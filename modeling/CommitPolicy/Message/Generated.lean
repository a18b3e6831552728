import CommitPolicy.Text.Blank
import CommitPolicy.Text.Letter

namespace CommitPolicy.Message

def after? (start : String) (cs : List Char) : Option (List Char) :=
  if start.toList.isPrefixOf cs then some (cs.drop start.toList.length) else none

def startsWith (start : String) (cs : List Char) : Bool := start.toList.isPrefixOf cs

def occursIn (part : List Char) : List Char → Bool
  | [] => part.isEmpty
  | c :: cs => part.isPrefixOf (c :: cs) || occursIn part cs

def firstLine (cs : List Char) : List Char := cs.takeWhile (· != '\n')

inductive GeneratedHeader where
  | mergedPullRequest
  | mergedBranch
  | mergedTag
  | hostedMerge
  | revertByTitle
  | autosquash
  | automaticMerge
  | autoMerged
deriving DecidableEq, Repr

namespace GeneratedHeader

def all : List GeneratedHeader :=
  [.mergedPullRequest, .mergedBranch, .mergedTag, .hostedMerge, .revertByTitle, .autosquash,
    .automaticMerge, .autoMerged]

def startsWithDigit : List Char → Bool
  | c :: _ => Text.isDecimalDigit c
  | [] => false

/-- A name without blanks, and then `in` or `into` between blanks. -/
def namesTarget (cs : List Char) : Bool :=
  let name := cs.takeWhile (!Text.isBlank ·)
  let rest := cs.dropWhile (!Text.isBlank ·)
  !name.isEmpty && (startsWith " in " rest || startsWith " into " rest)

def matchesHeader : GeneratedHeader → List Char → Bool
  | .mergedPullRequest, cs => (after? "Merge pull request #" cs).any startsWithDigit
  | .mergedBranch, cs =>
    startsWith "Merge branch " cs || startsWith "Merge remote-tracking branch " cs
  | .mergedTag, cs => startsWith "Merge tag " cs
  | .hostedMerge, cs => (after? "Merged " cs).any namesTarget
  | .revertByTitle, cs => (after? "Revert \"" cs).any fun rest =>
    (firstLine rest).contains '\x22'
  | .autosquash, cs =>
    startsWith "fixup! " cs || startsWith "squash! " cs || startsWith "amend! " cs
  | .automaticMerge, cs => startsWith "Automatic merge" cs
  | .autoMerged, cs => (after? "Auto-merged " cs).any fun rest =>
    occursIn " into ".toList (firstLine rest)

end GeneratedHeader

def isGenerated (header : String) : Bool :=
  GeneratedHeader.all.any (·.matchesHeader header.toList)

end CommitPolicy.Message
