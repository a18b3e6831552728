import CommitPolicy.Text.Letter

namespace CommitPolicy.Text

def endsHump (c : Char) : Bool := isLower c || c.isDigit

/-- The words of a text of which the unfinished word `word` is already read; `afterHump` tells
whether its last character ends a hump. -/
def wordsAfter (word : List Char) (afterHump : Bool) : List Char → List (List Char)
  | [] => if word.isEmpty then [] else [word]
  | c :: cs =>
    if isAlphanumeric c then
      if isUpper c && afterHump && !word.isEmpty then word :: wordsAfter [c] (endsHump c) cs
      else wordsAfter (word ++ [c]) (endsHump c) cs
    else if word.isEmpty then wordsAfter [] false cs
    else word :: wordsAfter [] false cs

/-- Maximal runs of letters and digits, cut once more where an upper-case letter follows a
lower-case letter or an ASCII digit. -/
def words (cs : List Char) : List (List Char) := wordsAfter [] false cs

end CommitPolicy.Text
