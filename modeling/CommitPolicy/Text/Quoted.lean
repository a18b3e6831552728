namespace CommitPolicy.Text

def isQuoteMark (c : Char) : Bool := c == '\x22' || c == '\x27' || c == '\x60'

def afterMark? (mark : Char) : List Char → Option (List Char)
  | [] => none
  | c :: cs =>
    if c = mark then some cs
    else if c = '\n' then none
    else afterMark? mark cs

theorem length_afterMark?_le {mark : Char} {cs rest : List Char}
    (h : afterMark? mark cs = some rest) : rest.length ≤ cs.length := by
  induction cs with
  | nil => simp [afterMark?] at h
  | cons c cs ih =>
    rw [afterMark?] at h
    split at h
    · simp_all
    · split at h
      · simp at h
      · exact Nat.le_succ_of_le (ih h)

/-- A quoted segment runs from a mark to the nearest mark of the same kind on the same line; a mark
without a partner is ordinary text. -/
def dropQuoted : List Char → List Char
  | [] => []
  | c :: cs =>
    if isQuoteMark c then
      match h : afterMark? c cs with
      | some rest => have := length_afterMark?_le h; dropQuoted rest
      | none => c :: dropQuoted cs
    else c :: dropQuoted cs
termination_by cs => cs.length

end CommitPolicy.Text
