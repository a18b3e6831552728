import CommitPolicy.Text.Blank
import CommitPolicy.Text.Letter
import CommitPolicy.Text.Table.CaseFolding

namespace CommitPolicy.Pattern

open Text (CodePointSet)

inductive CharSet where
  | range (lo hi : Char)
  | table (s : CodePointSet)
  | digit
  | blank
  | word
  | none
  | union (a b : CharSet)
  | inter (a b : CharSet)
  | diff (a b : CharSet)
  | symmDiff (a b : CharSet)
  | compl (a : CharSet)
  /-- Closed under a change of letter case, over all of Unicode or among ASCII letters only. -/
  | anyCase (unicode : Bool) (a : CharSet)
deriving Inhabited

/-- A character of a word: a letter, a mark, a decimal digit, or a connector. -/
def isWordChar (c : Char) : Bool :=
  if Text.isAscii c then c.isAlphanum || c == '_'
  else Text.Table.alphabetic.contains c || Text.Table.decimalDigit.contains c ||
    Text.Table.wordMark.contains c

def caseVariants (unicode : Bool) (c : Char) : List Char :=
  if unicode then
    match Text.Table.caseFold.apply c with
    | [rep] => c :: rep :: Text.Table.caseFold.preimages rep
    | _ => [c]
  else [c, c.toUpper, c.toLower]

namespace CharSet

def char (c : Char) : CharSet := .range c c

def contains : CharSet → Char → Bool
  | .range lo hi, c => lo ≤ c && c ≤ hi
  | .table s, c => s.contains c
  | .digit, c => Text.isDecimalDigit c
  | .blank, c => Text.isBlank c
  | .word, c => isWordChar c
  | .none, _ => false
  | .union a b, c => a.contains c || b.contains c
  | .inter a b, c => a.contains c && b.contains c
  | .diff a b, c => a.contains c && !b.contains c
  | .symmDiff a b, c => a.contains c != b.contains c
  | .compl a, c => !a.contains c
  | .anyCase unicode a, c => (caseVariants unicode c).any a.contains

def size : CharSet → Nat
  | .range _ _ => 1
  | .table s => s.ranges.length
  | .digit => 72
  | .blank => 10
  | .word => 780
  | .none => 0
  | .union a b | .inter a b | .diff a b | .symmDiff a b => a.size + b.size
  | .compl a => a.size + 1
  | .anyCase _ a => 2 * a.size

def all : CharSet := .compl .none

def unionOf (xs : List CharSet) : CharSet := xs.foldr .union .none

def ranges (xs : List (Char × Char)) : CharSet := unionOf (xs.map fun r => .range r.1 r.2)

def asciiDigit : CharSet := .range '0' '9'

def asciiBlank : CharSet := ranges [('\t', '\r'), (' ', ' ')]

def asciiWord : CharSet := ranges [('0', '9'), ('A', 'Z'), ('_', '_'), ('a', 'z')]

def ofAsciiName? : String → Option CharSet
  | "alnum" => some (ranges [('0', '9'), ('A', 'Z'), ('a', 'z')])
  | "alpha" => some (ranges [('A', 'Z'), ('a', 'z')])
  | "ascii" => some (ranges [('\x00', '\x7f')])
  | "blank" => some (ranges [('\t', '\t'), (' ', ' ')])
  | "cntrl" => some (ranges [('\x00', '\x1f'), ('\x7f', '\x7f')])
  | "digit" => some asciiDigit
  | "graph" => some (ranges [('!', '~')])
  | "lower" => some (ranges [('a', 'z')])
  | "print" => some (ranges [(' ', '~')])
  | "punct" => some (ranges [('!', '/'), (':', '@'), ('[', '\x60'), ('\x7b', '~')])
  | "space" => some asciiBlank
  | "upper" => some (ranges [('A', 'Z')])
  | "word" => some asciiWord
  | "xdigit" => some (ranges [('0', '9'), ('A', 'F'), ('a', 'f')])
  | _ => Option.none

end CharSet

end CommitPolicy.Pattern
