import CommitPolicy.Pattern.Basic
import CommitPolicy.Pattern.Bracket

namespace CommitPolicy.Pattern

structure DeepExpr where
  expr : Expr
  depth : Nat
deriving Inhabited

inductive Part where
  | expr (e : DeepExpr)
  | switch

def Part.depth : Part → Nat
  | .expr e => e.depth
  | .switch => 0

def Part.toExpr : Part → Expr
  | .expr e => e.expr
  | .switch => .empty

def sequence (parts : List Part) : DeepExpr :=
  let depth := parts.foldl (fun n p => max n p.depth) 0
  ⟨(parts.map Part.toExpr).foldr Expr.seq .empty, if parts.length < 2 then depth else depth + 1⟩

def alternatives (branches : List DeepExpr) : DeepExpr :=
  match branches with
  | [] => ⟨.empty, 0⟩
  | [e] => e
  | e :: rest =>
    ⟨rest.foldl (fun a b => .alt a b.expr) e.expr,
      branches.foldl (fun n b => max n b.depth) 0 + 1⟩

structure Scope where
  flags : Flags
  names : List (List Char)

def repeatLast? (parts : List Part) (least : Nat) (most : Option Nat) : Option (List Part) :=
  match parts.getLast? with
  | some (.expr e) =>
    some (parts.dropLast ++ [.expr ⟨.repeated e.expr least most, e.depth + 1⟩])
  | _ => none

def dropLazyMark : List Char → List Char
  | '?' :: cs => cs
  | cs => cs

def maxCount : Nat := .pow 2 32 - 1

def countDigits (f : Flags) (fuel : Nat) (value : Option Nat) (cs : List Char) :
    Option Nat × List Char :=
  match fuel, cs with
  | fuel + 1, c :: _ =>
    if c.isDigit then
      countDigits f fuel (some (10 * value.getD 0 + (c.toNat - '0'.toNat))) (advance f cs)
    else (value, cs)
  | _, _ => (value, cs)

/-- A count with blanks around it. The outer result fails if the count is too large. -/
def count? (f : Flags) (cs : List Char) : Option (Option Nat × List Char) :=
  let cs := Text.trimLeft cs
  let (value, cs) := countDigits f cs.length none cs
  if maxCount < value.getD 0 then none else some (value, skip f (Text.trimLeft cs))

def bounds? (f : Flags) (cs : List Char) : Option ((Nat × Option Nat) × List Char) := do
  let (least, cs) ← count? f (skip f cs)
  let least ← least
  match cs with
  | '}' :: rest => some ((least, some least), rest)
  | ',' :: rest =>
    match skip f rest with
    | '}' :: rest => some ((least, none), rest)
    | rest => do
      let (most, rest) ← count? f rest
      let most ← most
      match rest with
      | '}' :: rest => if least ≤ most then some ((least, some most), rest) else none
      | _ => none
  | _ => none

inductive FlagItem where
  | negation
  | flag (c : Char)
deriving DecidableEq

def flagItems? (seen : List FlagItem) : List Char → Option (List FlagItem × Char × List Char)
  | [] => none
  | c :: cs =>
    if c = ':' ∨ c = ')' then
      if seen.getLast? = some .negation then none else some (seen, c, cs)
    else
      let item : FlagItem := if c = '-' then .negation else .flag c
      if item ∈ seen ∨ (c ≠ '-' ∧ c ∉ ['i', 'm', 's', 'U', 'u', 'R', 'x']) then none
      else flagItems? (seen ++ [item]) cs

def Flags.switch (f : Flags) (c : Char) (on : Bool) : Flags :=
  match c with
  | 'i' => { f with ignoreCase := on }
  | 'm' => { f with multiLine := on }
  | 's' => { f with dotAll := on }
  | 'u' => { f with unicode := on }
  | 'R' => { f with returnLines := on }
  | 'x' => { f with extended := on }
  | _ => f

def Flags.apply (f : Flags) (items : List FlagItem) : Flags :=
  (items.foldl (fun (f, on) item => match item with
    | .negation => (f, false)
    | .flag c => (f.switch c on, on)) (f, true)).1

def isNameChar (first : Bool) (c : Char) : Bool :=
  if first then c == '_' || Text.isAlphabetic c
  else c == '_' || c == '.' || c == '[' || c == ']' || Text.isAlphanumeric c

def groupName? (cs : List Char) : Option (List Char × List Char) :=
  match cs.takeWhile (· != '>'), cs.dropWhile (· != '>') with
  | c :: name, '>' :: rest =>
    if isNameChar true c && name.all (isNameChar false) then some (c :: name, rest) else none
  | _, _ => none

inductive Opening where
  | switch (s : Scope)
  | group (s : Scope)

def opening? (s : Scope) (cs : List Char) : Option (Opening × List Char) :=
  match skip s.flags cs with
  | '?' :: '=' :: _ => none
  | '?' :: '!' :: _ => none
  | '?' :: '<' :: '=' :: _ => none
  | '?' :: '<' :: '!' :: _ => none
  | '?' :: 'P' :: '<' :: rest => named rest
  | '?' :: '<' :: rest => named rest
  | '?' :: rest => do
    let (items, last, rest) ← flagItems? [] rest
    let inner := { s with flags := s.flags.apply items }
    if last = ':' then some (.group inner, rest)
    else if items.isEmpty then none
    else some (.switch inner, rest)
  | rest => some (.group s, rest)
where
  named (rest : List Char) : Option (Opening × List Char) := do
    let (name, rest) ← groupName? rest
    if name ∈ s.names then none
    else some (.group { s with names := name :: s.names }, rest)

/-- Reads up to the end of the text or to a parenthesis that closes an outer group. `branches`
are the alternatives before the current one, and `parts` the parts of the current one. -/
def alternation? (fuel : Nat) (s : Scope) (branches : List DeepExpr) (parts : List Part)
    (cs : List Char) : Option (DeepExpr × Scope × List Char) :=
  match fuel with
  | 0 => none
  | fuel + 1 =>
    let f := s.flags
    let item (e? : Option Expr) (rest : List Char) := do
      let e ← e?
      alternation? fuel s branches (parts ++ [.expr ⟨e, 0⟩]) rest
    let repeatPart (least : Nat) (most : Option Nat) (rest : List Char) := do
      alternation? fuel s branches (← repeatLast? parts least most) (dropLazyMark rest)
    match skip f cs with
    | [] => some (alternatives (branches ++ [sequence parts]), s, [])
    | ')' :: rest => some (alternatives (branches ++ [sequence parts]), s, ')' :: rest)
    | '|' :: rest => alternation? fuel s (branches ++ [sequence parts]) [] rest
    | '(' :: rest => do
      match ← opening? s rest with
      | (.switch s, rest) => alternation? fuel s branches (parts ++ [.switch]) rest
      | (.group inner, rest) =>
        match ← alternation? fuel inner [] [] rest with
        | (e, inner, ')' :: rest) =>
          let s := { s with names := inner.names }
          alternation? fuel s branches (parts ++ [.expr ⟨e.expr, e.depth + 1⟩]) rest
        | _ => none
    | '[' :: rest => do
      let (set, rest) ← bracket? f rest
      alternation? fuel s branches (parts ++ [.expr ⟨.set set.set, set.depth⟩]) rest
    | '?' :: rest => repeatPart 0 (some 1) rest
    | '*' :: rest => repeatPart 0 none rest
    | '+' :: rest => repeatPart 1 none rest
    | '{' :: rest => do
      let ((least, most), rest) ← bounds? f rest
      alternation? fuel s branches (← repeatLast? parts least most) (dropLazyMark (skip f rest))
    | '\\' :: rest => do
      let (escaped, rest) ← escape? f rest
      item (escaped.expr? f) rest
    | '.' :: rest => item (dotExpr? f) rest
    | '^' :: rest => item (some (.assert (caretAssertion f))) rest
    | '$' :: rest => item (some (.assert (dollarAssertion f))) rest
    | c :: rest => item (charExpr? f c false) rest

def maxNesting : Nat := 250

def maxWeight : Nat := 10 * .pow 2 20

def expr? (text : List Char) : Option Expr :=
  match alternation? (text.length + 1) ⟨Flags.initial, []⟩ [] [] text with
  | some (e, _, []) =>
    if e.depth ≤ maxNesting ∧ e.expr.weight ≤ maxWeight then some e.expr else none
  | _ => none

/-- Not all patterns of the common syntax are read: see `propertyValue?` for the classifications of
characters, and the memory that a pattern takes is an estimate. -/
def ofSource? (source : String) : Option Pattern :=
  (expr? source.toList).map fun e => ⟨source, e⟩

theorem source_of_ofSource? {source : String} {p : Pattern} (h : ofSource? source = some p) :
    p.source = source := by
  obtain ⟨e, -, rfl⟩ := Option.map_eq_some_iff.1 h
  rfl

instance : Compiler := ⟨ofSource?, source_of_ofSource?⟩

end CommitPolicy.Pattern
