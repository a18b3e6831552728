import CommitPolicy.Text.Table.Letter
import CommitPolicy.Text.Table.LetterCase

namespace CommitPolicy.Text

def isAscii (c : Char) : Bool := c.toNat < 128

def isDecimalDigit (c : Char) : Bool :=
  if isAscii c then c.isDigit else Table.decimalDigit.contains c

def isAlphabetic (c : Char) : Bool :=
  if isAscii c then c.isAlpha else Table.alphabetic.contains c

def isAlphanumeric (c : Char) : Bool :=
  if isAscii c then c.isAlphanum
  else Table.alphabetic.contains c || Table.decimalDigit.contains c || Table.otherNumber.contains c

def isLower (c : Char) : Bool :=
  if isAscii c then c.isLower else Table.lowercase.contains c

def isUpper (c : Char) : Bool :=
  if isAscii c then c.isUpper else Table.uppercase.contains c

def upper (c : Char) : List Char :=
  if isAscii c then [c.toUpper] else Table.toUpper.apply c

def lower (c : Char) : List Char :=
  if isAscii c then [c.toLower] else Table.toLower.apply c

def upperCase (cs : List Char) : List Char := cs.flatMap upper

def meetsCased (cs : List Char) : Bool :=
  match cs.dropWhile Table.caseIgnorable.contains with
  | c :: _ => Table.cased.contains c
  | [] => false

/-- Lower-cases a text of which `before` is already read, nearest character first. A capital
sigma that ends a word becomes the final sigma. -/
def lowerCaseAfter (before : List Char) : List Char → List Char
  | [] => []
  | c :: cs =>
    (if c = 'Σ' then [if meetsCased before && !meetsCased cs then 'ς' else 'σ'] else lower c)
      ++ lowerCaseAfter (c :: before) cs

def lowerCase (cs : List Char) : List Char := lowerCaseAfter [] cs

def capitalize : List Char → List Char
  | [] => []
  | c :: cs => upper c ++ cs

end CommitPolicy.Text
