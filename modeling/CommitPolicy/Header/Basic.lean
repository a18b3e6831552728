import CommitPolicy.Issue

namespace CommitPolicy

inductive Grammar where
  | anyScope
  | issueScope
deriving DecidableEq, Repr, Inhabited

namespace Header

structure Parts where
  type : List Char
  scope : Option (List Char)
  breaking : Bool
  subject : List Char
deriving DecidableEq, Repr

namespace Parts

def format (p : Parts) : List Char :=
  p.type ++ (match p.scope with
    | some scope => '(' :: (scope ++ [')'])
    | none => [])
  ++ (if p.breaking then ['!'] else []) ++ ':' :: ' ' :: p.subject

end Parts

def isWordChar (c : Char) : Bool := c.isAlphanum || c == '_'

def separator? : List Char → Option (Bool × List Char)
  | ':' :: ' ' :: subject => some (false, subject)
  | '!' :: ':' :: ' ' :: subject => some (true, subject)
  | _ => none

/-- Cuts at the last closing parenthesis that a separator follows: the scope, the breaking marker
and the subject. -/
def longestScope? : List Char → Option (List Char × Bool × List Char)
  | [] => none
  | c :: cs =>
    match longestScope? cs with
    | some (scope, breaking, subject) => some (c :: scope, breaking, subject)
    | none =>
      if c = ')' then (separator? cs).map fun (breaking, subject) => ([], breaking, subject)
      else none

def issueScope? (cs : List Char) : Option (List Char × Bool × List Char) :=
  match Issue.leading? cs with
  | some (id, ')' :: rest) =>
    (separator? rest).map fun (breaking, subject) => (id, breaking, subject)
  | _ => none

def scope? : Grammar → List Char → Option (List Char × Bool × List Char)
  | .anyScope => longestScope?
  | .issueScope => issueScope?

def Parts.afterType? (g : Grammar) (type : List Char) : List Char → Option Parts
  | '(' :: rest =>
    (scope? g rest).map fun (scope, breaking, subject) => ⟨type, some scope, breaking, subject⟩
  | rest => (separator? rest).map fun (breaking, subject) => ⟨type, none, breaking, subject⟩

/-- The pieces of a line in the given grammar; a text with a line feed is no line. -/
def Parts.ofLine? (g : Grammar) (line : List Char) : Option Parts :=
  if '\n' ∈ line then none
  else afterType? g (line.takeWhile isWordChar) (line.dropWhile isWordChar)

end Header

structure Header where
  raw : String
  type : Option String
  scope : Option String
  breaking : Bool
  subject : Option String
deriving DecidableEq, Repr, Inhabited

namespace Header

def nonEmpty? (cs : List Char) : Option String :=
  if cs.isEmpty then none else some (String.ofList cs)

def ofParts (raw : String) (p : Parts) : Header :=
  ⟨raw, nonEmpty? p.type, p.scope.map String.ofList, p.breaking, nonEmpty? p.subject⟩

def unstructured (raw : String) : Header := ⟨raw, none, none, false, none⟩

/-- An empty type and an empty subject count as absent; an empty scope does not. -/
def ofLine (g : Grammar) (line : String) : Header :=
  match Parts.ofLine? g line.toList with
  | some p => ofParts line p
  | none => unstructured line

def isRevert (h : Header) : Bool := h.type == some "revert"

def isStructured (h : Header) : Bool := h.type.isSome

@[simp] theorem raw_ofLine (g : Grammar) (line : String) : (ofLine g line).raw = line := by
  rw [ofLine]; split <;> rfl

theorem format_of_separator? {cs subject : List Char} {breaking : Bool}
    (h : separator? cs = some (breaking, subject)) :
    (if breaking then ['!'] else []) ++ ':' :: ' ' :: subject = cs := by
  rw [separator?.eq_def] at h
  split at h <;> simp_all

theorem format_of_longestScope? {cs scope subject : List Char} {breaking : Bool}
    (h : longestScope? cs = some (scope, breaking, subject)) :
    scope ++ ')' :: ((if breaking then ['!'] else []) ++ ':' :: ' ' :: subject) = cs := by
  induction cs generalizing scope with
  | nil => simp [longestScope?] at h
  | cons c cs ih =>
    rw [longestScope?] at h
    split at h
    · rename_i s b t hs
      obtain ⟨rfl, rfl, rfl⟩ : c :: s = scope ∧ b = breaking ∧ t = subject := by simpa using h
      simp [ih hs]
    · split at h
      · rename_i hc
        obtain ⟨⟨b, t⟩, hsep, he⟩ := Option.map_eq_some_iff.1 h
        obtain ⟨rfl, rfl, rfl⟩ : [] = scope ∧ b = breaking ∧ t = subject := by simpa using he
        simp [format_of_separator? hsep, hc]
      · simp at h

theorem format_of_issueScope? {cs scope subject : List Char} {breaking : Bool}
    (h : issueScope? cs = some (scope, breaking, subject)) :
    scope ++ ')' :: ((if breaking then ['!'] else []) ++ ':' :: ' ' :: subject) = cs := by
  rw [issueScope?] at h
  split at h
  · rename_i id rest hid
    obtain ⟨⟨b, t⟩, hsep, he⟩ := Option.map_eq_some_iff.1 h
    obtain ⟨rfl, rfl, rfl⟩ : id = scope ∧ b = breaking ∧ t = subject := by simpa using he
    rw [format_of_separator? hsep, Issue.append_of_leading? hid]
  · simp at h

theorem Parts.format_of_ofLine? {g : Grammar} {line : List Char} {p : Parts}
    (h : Parts.ofLine? g line = some p) : p.format = line := by
  rw [Parts.ofLine?] at h
  split at h
  · simp at h
  · rw [← List.takeWhile_append_dropWhile (p := isWordChar) (l := line)]
    rw [Parts.afterType?.eq_def] at h
    split at h
    · rename_i rest hrest
      obtain ⟨⟨s, b, t⟩, hs, rfl⟩ := Option.map_eq_some_iff.1 h
      rw [hrest]
      have : s ++ ')' :: ((if b then ['!'] else []) ++ ':' :: ' ' :: t) = rest := by
        cases g
        · exact format_of_longestScope? hs
        · exact format_of_issueScope? hs
      simp [Parts.format, ← this]
    · rename_i rest _
      obtain ⟨⟨b, t⟩, hs, rfl⟩ := Option.map_eq_some_iff.1 h
      simp [Parts.format, ← format_of_separator? hs]

end Header

end CommitPolicy
