import CommitPolicy.Text.Line
import CommitPolicy.Proofs.Text.Trim

namespace CommitPolicy.Text

theorem pieces_cons_of_ne {sep c : Char} (h : c ≠ sep) (cs : List Char) :
    ∃ p ps, pieces sep cs = p :: ps ∧ pieces sep (c :: cs) = (c :: p) :: ps := by
  cases hp : pieces sep cs with
  | nil => exact absurd hp (pieces_ne_nil sep cs)
  | cons p ps =>
    refine ⟨p, ps, rfl, ?_⟩
    rw [pieces, if_neg h, hp]

/-- Where two texts meet, the last piece of the one grows by the first piece of the other. -/
theorem pieces_append (sep : Char) (xs ys : List Char) :
    ∃ init last first more, pieces sep xs = init ++ [last] ∧ pieces sep ys = first :: more ∧
      pieces sep (xs ++ ys) = init ++ (last ++ first) :: more := by
  induction xs with
  | nil =>
    cases hy : pieces sep ys with
    | nil => exact absurd hy (pieces_ne_nil sep ys)
    | cons first more => exact ⟨[], [], first, more, rfl, rfl, hy⟩
  | cons c xs ih =>
    obtain ⟨init, last, first, more, hx, hy, hxy⟩ := ih
    by_cases hc : c = sep
    · refine ⟨[] :: init, last, first, more, ?_, hy, ?_⟩
      · rw [pieces, if_pos hc, hx, List.cons_append]
      · rw [List.cons_append, pieces, if_pos hc, hxy, List.cons_append]
    · obtain ⟨p, ps, hp, hcx⟩ := pieces_cons_of_ne hc xs
      obtain ⟨q, qs, hq, hcxy⟩ := pieces_cons_of_ne hc (xs ++ ys)
      rw [hp] at hx
      rw [hq] at hxy
      rw [List.cons_append, hcx, hcxy]
      cases init with
      | nil =>
        obtain ⟨rfl, rfl⟩ := List.cons_eq_cons.1 hx
        obtain ⟨rfl, rfl⟩ := List.cons_eq_cons.1 hxy
        exact ⟨[], c :: p, first, qs, rfl, hy, rfl⟩
      | cons i init =>
        obtain ⟨rfl, rfl⟩ := List.cons_eq_cons.1 hx
        obtain ⟨rfl, rfl⟩ := List.cons_eq_cons.1 hxy
        exact ⟨(c :: q) :: init, last, first, more, rfl, hy, rfl⟩

theorem pieces_of_not_mem {sep : Char} {p : List Char} (h : sep ∉ p) : pieces sep p = [p] := by
  induction p with
  | nil => rfl
  | cons c p ih =>
    obtain ⟨hc, hp⟩ := List.ne_and_not_mem_of_not_mem_cons h
    rw [pieces, if_neg (Ne.symm hc), ih hp]

theorem pieces_append_cons {sep : Char} {p : List Char} (h : sep ∉ p) (cs : List Char) :
    pieces sep (p ++ sep :: cs) = p :: pieces sep cs := by
  induction p with
  | nil => rw [List.nil_append, pieces, if_pos rfl]
  | cons c p ih =>
    obtain ⟨hc, hp⟩ := List.ne_and_not_mem_of_not_mem_cons h
    rw [List.cons_append, pieces, if_neg (Ne.symm hc), ih hp]

theorem pieces_append_sep (sep : Char) (xs ys : List Char) :
    pieces sep (xs ++ sep :: ys) = pieces sep xs ++ pieces sep ys := by
  obtain ⟨init, last, first, more, hx, hy, hxy⟩ := pieces_append sep xs (sep :: ys)
  have hsep : pieces sep (sep :: ys) = [] :: pieces sep ys := by simp [pieces]
  rw [hsep] at hy
  obtain ⟨rfl, rfl⟩ := List.cons_eq_cons.1 hy
  simp [hxy, hx]

theorem nil_not_mem_getLast?_pieces {sep : Char} {cs : List Char} (hne : cs ≠ [])
    (h : sep ∉ cs.getLast?) : [] ∉ (pieces sep cs).getLast? := by
  obtain ⟨xs, c, rfl⟩ := List.eq_nil_or_concat cs |>.resolve_left hne
  obtain ⟨init, last, first, more, -, hc, hxc⟩ := pieces_append sep xs [c]
  have hsep : sep ∉ [c] := by simpa [eq_comm] using h
  rw [pieces_of_not_mem hsep] at hc
  obtain ⟨rfl, rfl⟩ := List.cons_eq_cons.1 hc
  rw [List.concat_eq_append, hxc]
  simp

theorem pieces_join {sep : Char} {ps : List (List Char)} (hne : ps ≠ [])
    (h : ∀ p ∈ ps, sep ∉ p) : pieces sep (join sep ps) = ps := by
  induction ps with
  | nil => exact absurd rfl hne
  | cons p ps ih =>
    obtain ⟨hp, hps⟩ := List.forall_mem_cons.1 h
    cases ps with
    | nil => exact pieces_of_not_mem hp
    | cons q ps => rw [join, pieces_append_cons hp, ih (List.cons_ne_nil q ps) hps]; simp

theorem join_cons {sep : Char} (p : List Char) {ps : List (List Char)} (h : ps ≠ []) :
    join sep (p :: ps) = p ++ sep :: join sep ps := by
  cases ps with
  | nil => exact absurd rfl h
  | cons q ps => rfl

theorem mem_join {sep c : Char} {ps : List (List Char)} (h : c ∈ join sep ps) :
    c = sep ∨ ∃ p ∈ ps, c ∈ p := by
  induction ps with
  | nil => simp [join] at h
  | cons p ps ih =>
    cases ps with
    | nil => exact .inr ⟨p, List.mem_cons_self, h⟩
    | cons q ps =>
      rw [join_cons p (List.cons_ne_nil q ps), List.mem_append, List.mem_cons] at h
      rcases h with h | rfl | h
      · exact .inr ⟨p, List.mem_cons_self, h⟩
      · exact .inl rfl
      · rcases ih h with rfl | ⟨r, hr, hc⟩
        · exact .inl rfl
        · exact .inr ⟨r, List.mem_cons_of_mem p hr, hc⟩

theorem mem_join_of_mem {sep c : Char} {p : List Char} {ps : List (List Char)} (hp : p ∈ ps)
    (hc : c ∈ p) : c ∈ join sep ps := by
  induction ps with
  | nil => simp at hp
  | cons q ps ih =>
    cases ps with
    | nil =>
      obtain rfl := List.mem_singleton.1 hp
      exact hc
    | cons r ps =>
      rw [join_cons q (List.cons_ne_nil r ps), List.mem_append, List.mem_cons]
      rcases List.mem_cons.1 hp with rfl | hp
      · exact .inl hc
      · exact .inr (.inr (ih hp))

theorem dropReturn_eq_self {line : List Char} (h : '\r' ∉ line) : dropReturn line = line := by
  rw [dropReturn, if_neg fun hl => h (List.mem_of_getLast? hl)]

theorem dropReturn_eq_self_of_getLast? {line : List Char} (h : ∀ c ∈ line.getLast?, ¬ isBlank c) :
    dropReturn line = line := by
  have hreturn : ¬ line.getLast? = some '\r' := fun hl => h '\r' hl (by decide)
  rw [dropReturn, if_neg hreturn]

theorem exists_eq_dropReturn_append (line : List Char) :
    ∃ blanks, (∀ c ∈ blanks, isBlank c) ∧ line = dropReturn line ++ blanks := by
  rw [dropReturn]
  split
  · rename_i h
    refine ⟨['\r'], List.forall_mem_singleton.2 (by decide), ?_⟩
    obtain ⟨start, rfl⟩ := List.getLast?_eq_some_iff.1 h
    simp
  · exact ⟨[], by simp, (List.append_nil line).symm⟩

theorem trimRight_dropReturn (line : List Char) :
    trimRight (dropReturn line) = trimRight line := by
  obtain ⟨blanks, hblanks, hline⟩ := exists_eq_dropReturn_append line
  calc trimRight (dropReturn line)
      = trimRight (dropReturn line ++ blanks) := (trimRight_append_of_blank hblanks _).symm
    _ = trimRight line := by rw [← hline]

theorem dropReturn_subset (line : List Char) : dropReturn line ⊆ line := by
  rw [dropReturn]
  split
  · exact List.dropLast_subset line
  · exact List.Subset.refl line

theorem forall_mem_join_isBlank_iff {ps : List (List Char)} :
    (∀ c ∈ join '\n' ps, isBlank c) ↔ ∀ p ∈ ps, ∀ c ∈ p, isBlank c := by
  constructor
  · intro h p hp c hc
    exact h c (mem_join_of_mem hp hc)
  · intro h c hc
    rcases mem_join hc with rfl | ⟨p, hp, hc⟩
    · decide
    · exact h p hp c hc

theorem lines_of_newline_not_mem {line : List Char} (h : '\n' ∉ line) (hne : line ≠ []) :
    lines line = [line] := by
  rw [lines, pieces_of_not_mem h]
  exact if_neg fun he => hne (List.isEmpty_iff.1 he)

theorem lines_cons {line : List Char} (h : '\n' ∉ line) (cs : List Char) :
    lines (line ++ '\n' :: cs) = dropReturn line :: lines cs := by
  rw [lines, pieces_append_cons h, lines]
  cases hp : pieces '\n' cs with
  | nil => exact absurd hp (pieces_ne_nil _ cs)
  | cons p ps => rfl

theorem exists_piece_of_mem_linesOfPieces {line : List Char} {ps : List (List Char)}
    (h : line ∈ linesOfPieces ps) : ∃ p ∈ ps, line ⊆ p := by
  induction ps with
  | nil => simp [linesOfPieces] at h
  | cons p ps ih =>
    cases ps with
    | nil =>
      rw [linesOfPieces] at h
      split at h
      · simp at h
      · exact ⟨line, h, List.Subset.refl line⟩
    | cons q ps =>
      rcases List.mem_cons.1 h with rfl | h
      · exact ⟨p, List.mem_cons_self, dropReturn_subset p⟩
      · obtain ⟨r, hr, hl⟩ := ih h
        exact ⟨r, List.mem_cons_of_mem p hr, hl⟩

theorem newline_not_mem_of_mem_lines {line cs : List Char} (h : line ∈ lines cs) :
    '\n' ∉ line := by
  obtain ⟨p, hp, hl⟩ := exists_piece_of_mem_linesOfPieces h
  exact fun hm => not_mem_of_mem_pieces hp (hl hm)

theorem mem_of_mem_lines {c : Char} {line cs : List Char} (h : line ∈ lines cs) (hc : c ∈ line) :
    c ∈ cs := by
  obtain ⟨p, hp, hl⟩ := exists_piece_of_mem_linesOfPieces h
  rw [← join_pieces '\n' cs]
  exact mem_join_of_mem hp (hl hc)

theorem linesOfPieces_cons_cons (p q : List Char) (ps : List (List Char)) :
    linesOfPieces (p :: q :: ps) = dropReturn p :: linesOfPieces (q :: ps) := rfl

theorem linesOfPieces_eq_self {ps : List (List Char)}
    (hreturn : ∀ p ∈ ps.dropLast, p.getLast? ≠ some '\r') (hlast : [] ∉ ps.getLast?) :
    linesOfPieces ps = ps := by
  induction ps with
  | nil => rfl
  | cons p ps ih =>
    cases ps with
    | nil => exact if_neg fun h => hlast (by rw [List.isEmpty_iff.1 h]; rfl)
    | cons q ps =>
      rw [List.dropLast_cons_of_ne_nil (List.cons_ne_nil q ps)] at hreturn
      obtain ⟨hp, hps⟩ := List.forall_mem_cons.1 hreturn
      rw [linesOfPieces_cons_cons, dropReturn, if_neg hp, ih hps (by simpa using hlast)]

theorem eq_of_lines_eq_singleton {cs line : List Char} (h : lines cs = [line])
    (hend : '\n' ∉ cs.getLast?) : cs = line := by
  have hjoin := join_pieces '\n' cs
  rw [lines] at h
  cases hp : pieces '\n' cs with
  | nil => exact absurd hp (pieces_ne_nil _ cs)
  | cons p ps =>
    rw [hp] at h hjoin
    cases ps with
    | nil =>
      rw [linesOfPieces] at h
      split at h
      · cases h
      · rw [← hjoin, join, List.singleton_inj.1 h]
    | cons q ps =>
      rw [linesOfPieces_cons_cons, List.cons_eq_cons] at h
      cases ps with
      | nil =>
        obtain rfl : q = [] := by simpa [linesOfPieces] using h.2
        refine absurd ?_ hend
        rw [← hjoin, join_cons p (List.cons_ne_nil [] []), join]
        simp
      | cons r ps => cases h.2

/-- Trimming the end of some lines drops lines from the end, and shortens the last that is left. -/
theorem lines_trimRight_join {ps : List (List Char)} (hcr : ∀ p ∈ ps, '\r' ∉ p)
    (hlf : ∀ p ∈ ps, '\n' ∉ p) (h : trimRight (join '\n' ps) ≠ []) :
    ∃ init last tail more, ps = init ++ (last ++ tail) :: more ∧
      lines (trimRight (join '\n' ps)) = init ++ [last] := by
  obtain ⟨blanks, -, hj⟩ := exists_eq_trimRight_append (join '\n' ps)
  obtain ⟨init, last, tail, more, hx, -, hxy⟩ :=
    pieces_append '\n' (trimRight (join '\n' ps)) blanks
  have hne : ps ≠ [] := by
    rintro rfl
    exact h rfl
  rw [← hj, pieces_join hne hlf] at hxy
  refine ⟨init, last, tail, more, hxy, ?_⟩
  have hreturn : ∀ p ∈ (pieces '\n' (trimRight (join '\n' ps))).dropLast,
      p.getLast? ≠ some '\r' := by
    rw [hx, List.dropLast_concat]
    intro p hp hl
    exact hcr p (by simp [hxy, hp]) (List.mem_of_getLast? hl)
  have hend : '\n' ∉ (trimRight (join '\n' ps)).getLast? :=
    fun hl => not_isBlank_of_getLast?_trimRight '\n' hl (by decide)
  rw [lines, linesOfPieces_eq_self hreturn (nil_not_mem_getLast?_pieces h hend), hx]

theorem append_emptyLine_append (header rest : String) :
    header ++ "\n\n" ++ rest = String.ofList (header.toList ++ '\n' :: '\n' :: rest.toList) := by
  rw [← String.toList_inj]
  simp

end CommitPolicy.Text
