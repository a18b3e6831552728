import CommitPolicy.Issue
import CommitPolicy.Text.Blank

namespace CommitPolicy.Message

def breakingNotes : List String := ["BREAKING CHANGE: ", "BREAKING-CHANGE: "]

def closingKeywords : List String :=
  ["close", "closes", "closed", "fix", "fixes", "fixed", "resolve", "resolves", "resolved"]

/-- Equality up to case with a lower-case letter. Of the letters in the keywords only `s` has a
third form, the long s. -/
def matchesLetter (letter c : Char) : Bool :=
  c == letter || c == letter.toUpper || (letter == 's' && c == 'ſ')

def afterKeyword? : List Char → List Char → Option (List Char)
  | [], cs => some cs
  | _ :: _, [] => none
  | k :: ks, c :: cs => if matchesLetter k c then afterKeyword? ks cs else none

def startsWithReference : List Char → Bool
  | '#' :: c :: _ => c.isDigit
  | cs => (Issue.leading? cs).isSome

def startsWithBlankReference : List Char → Bool
  | c :: cs => Text.isBlank c && startsWithReference (Text.trimLeft cs)
  | [] => false

def isFooterLine (line : List Char) : Bool :=
  breakingNotes.any (·.toList.isPrefixOf line) ||
    closingKeywords.any fun keyword =>
      (afterKeyword? keyword.toList line).any startsWithBlankReference

end CommitPolicy.Message
