namespace CommitPolicy.Issue

/-- The identifier that a text starts with, as long as possible, and what follows it. -/
def leading? (cs : List Char) : Option (List Char × List Char) :=
  let key := cs.takeWhile Char.isUpper
  match cs.dropWhile Char.isUpper with
  | '-' :: rest =>
    let number := rest.takeWhile Char.isDigit
    if key.isEmpty || number.isEmpty then none
    else some (key ++ '-' :: number, rest.dropWhile Char.isDigit)
  | _ => none

/-- One or more capital letters, a hyphen and one or more digits, all ASCII. -/
def isId (cs : List Char) : Bool :=
  match leading? cs with
  | some (_, rest) => rest.isEmpty
  | none => false

def occursIn : List Char → Bool
  | [] => false
  | c :: cs => (leading? (c :: cs)).isSome || occursIn cs

theorem append_of_leading? {cs id rest : List Char} (h : leading? cs = some (id, rest)) :
    id ++ rest = cs := by
  rw [leading?] at h
  split at h
  · rename_i tail heq
    dsimp only at h
    split at h
    · simp at h
    · simp only [Option.some.injEq, Prod.mk.injEq] at h
      obtain ⟨rfl, rfl⟩ := h
      rw [List.append_assoc, List.cons_append, List.takeWhile_append_dropWhile, ← heq,
        List.takeWhile_append_dropWhile]
  · simp at h

end CommitPolicy.Issue
