import CommitPolicy.Proofs.Issue.Identifier
import CommitPolicy.Proofs.Text.Line
import Mathlib.Data.List.Infix

namespace CommitPolicy.Text

theorem append_sep_infix_append_iff {sep : Char} {word p : List Char} (hword : sep ∉ word)
    (hp : sep ∉ p) (rest : List Char) :
    word ++ [sep] <:+: p ++ sep :: rest ↔ word <:+ p ∨ word ++ [sep] <:+: rest := by
  have hprefix : ∀ q, sep ∉ q → (word ++ [sep] <+: q ++ sep :: rest ↔ word = q) := by
    intro q hq
    constructor
    · rintro ⟨tail, h⟩
      rw [List.append_assoc, List.singleton_append] at h
      exact (append_inj_span (bne_of_not_mem hword) (bne_of_not_mem hq) (by simp) (by simp) h).1
    · rintro rfl
      exact ⟨rest, by simp⟩
  induction p with
  | nil => rw [List.nil_append, List.infix_cons_iff, List.suffix_nil, ← hprefix [] hp,
      List.nil_append]
  | cons c p ih =>
    have htail : sep ∉ p := fun h => hp (List.mem_cons_of_mem c h)
    have hstart := hprefix (c :: p) hp
    rw [List.cons_append] at hstart
    simp only [List.cons_append, List.infix_cons_iff, hstart, ih htail, List.suffix_cons_iff,
      or_assoc]

theorem append_sep_infix_join_iff {sep : Char} {word : List Char} {ps : List (List Char)}
    (hword : sep ∉ word) (hps : ∀ p ∈ ps, sep ∉ p) :
    word ++ [sep] <:+: join sep ps ↔ ∃ p ∈ ps.dropLast, word <:+ p := by
  have hmem : ∀ {cs}, word ++ [sep] <:+: cs → sep ∈ cs := fun h => h.subset (by simp)
  induction ps with
  | nil => exact iff_of_false (fun h => absurd (hmem h) List.not_mem_nil) (by simp)
  | cons p ps ih =>
    obtain ⟨hp, hps⟩ := List.forall_mem_cons.1 hps
    cases ps with
    | nil => exact iff_of_false (fun h => hp (hmem h)) (by simp)
    | cons q ps =>
      simp only [join_cons p (List.cons_ne_nil q ps), append_sep_infix_append_iff hword hp, ih hps,
        List.dropLast_cons_of_ne_nil (List.cons_ne_nil q ps), List.mem_cons, exists_eq_or_imp]

theorem return_suffix_iff {line : List Char} : ['\r'] <:+ line ↔ line.getLast? = some '\r' := by
  rw [List.getLast?_eq_some_iff]
  exact exists_congr fun start => eq_comm

/-- A carriage return is left at the end of a line where there were two. -/
theorem returns_suffix_of_dropReturn {line : List Char} (h : ['\r'] <:+ dropReturn line) :
    ['\r', '\r'] <:+ line := by
  rw [dropReturn] at h
  split at h
  · rename_i hlast
    obtain ⟨start, rfl⟩ := List.getLast?_eq_some_iff.1 hlast
    rw [List.dropLast_concat] at h
    obtain ⟨front, rfl⟩ := h
    exact ⟨front, by simp⟩
  · rename_i hlast
    exact absurd (return_suffix_iff.1 h) hlast

theorem exists_piece_of_mem_dropLast_linesOfPieces {line : List Char} {ps : List (List Char)}
    (h : line ∈ (linesOfPieces ps).dropLast) : ∃ p ∈ ps.dropLast, line = dropReturn p := by
  induction ps with
  | nil => simp [linesOfPieces] at h
  | cons p ps ih =>
    cases ps with
    | nil =>
      rw [linesOfPieces] at h
      split at h <;> simp at h
    | cons q ps =>
      rw [linesOfPieces_cons_cons] at h
      rw [List.dropLast_cons_of_ne_nil (List.cons_ne_nil q ps)]
      by_cases hnil : linesOfPieces (q :: ps) = []
      · simp [hnil] at h
      · rw [List.dropLast_cons_of_ne_nil hnil] at h
        rcases List.mem_cons.1 h with rfl | h
        · exact ⟨p, List.mem_cons_self, rfl⟩
        · obtain ⟨r, hr, rfl⟩ := ih h
          exact ⟨r, List.mem_cons_of_mem p hr, rfl⟩

theorem not_return_suffix_of_mem_dropLast_lines {cs line : List Char}
    (h : ¬ ['\r', '\r', '\n'] <:+: cs) (hline : line ∈ (lines cs).dropLast) :
    ¬ ['\r'] <:+ line := by
  obtain ⟨p, hp, rfl⟩ := exists_piece_of_mem_dropLast_linesOfPieces hline
  intro hreturn
  apply h
  have hpieces : ∀ p ∈ pieces '\n' cs, '\n' ∉ p := fun p => not_mem_of_mem_pieces
  have hword : '\n' ∉ ['\r', '\r'] := by decide
  rw [← join_pieces '\n' cs]
  exact (append_sep_infix_join_iff hword hpieces).2 ⟨p, hp, returns_suffix_of_dropReturn hreturn⟩

/-- A text without a carriage return in front of a line feed is its lines. -/
theorem join_lines {cs : List Char} (h : ¬ ['\r', '\n'] <:+: cs) (hend : '\n' ∉ cs.getLast?) :
    join '\n' (lines cs) = cs := by
  by_cases hnil : cs = []
  · subst hnil
    rfl
  · have hpieces : ∀ p ∈ pieces '\n' cs, '\n' ∉ p := fun p => not_mem_of_mem_pieces
    have hword : '\n' ∉ ['\r'] := by decide
    have hreturn : ∀ p ∈ (pieces '\n' cs).dropLast, p.getLast? ≠ some '\r' := by
      intro p hp hlast
      apply h
      rw [← join_pieces '\n' cs]
      exact (append_sep_infix_join_iff hword hpieces).2 ⟨p, hp, return_suffix_iff.2 hlast⟩
    rw [lines, linesOfPieces_eq_self hreturn (nil_not_mem_getLast?_pieces hnil hend), join_pieces]

theorem dropLast_filter_subset {α : Type} (p : α → Bool) (xs : List α) :
    (xs.filter p).dropLast ⊆ xs.dropLast := by
  rcases List.eq_nil_or_concat xs with rfl | ⟨init, last, rfl⟩
  · simp
  · intro x hx
    rw [List.concat_eq_append, List.filter_append] at hx
    rw [List.concat_eq_append, List.dropLast_concat]
    by_cases hlast : p last
    · simp only [List.filter_cons_of_pos hlast, List.filter_nil, List.dropLast_concat] at hx
      exact List.mem_of_mem_filter hx
    · simp only [List.filter_cons_of_neg hlast, List.filter_nil, List.append_nil] at hx
      exact List.mem_of_mem_filter (List.dropLast_subset _ hx)

def withReturns (cs : List Char) : List Char :=
  cs.flatMap fun c => if c = '\n' then ['\r', '\n'] else [c]

theorem withReturns_cons_newline (cs : List Char) :
    withReturns ('\n' :: cs) = ['\r'] ++ '\n' :: withReturns cs := rfl

theorem withReturns_cons {c : Char} (h : c ≠ '\n') (cs : List Char) :
    withReturns (c :: cs) = c :: withReturns cs := by
  rw [withReturns, List.flatMap_cons, if_neg h, List.singleton_append, withReturns]

theorem dropReturn_cons {c : Char} (hc : c ≠ '\r') (line : List Char) :
    dropReturn (c :: line) = c :: dropReturn line := by
  cases line with
  | nil => exact if_neg (by simpa using hc)
  | cons d line =>
    rw [dropReturn, dropReturn, List.getLast?_cons_cons]
    split <;> rfl

theorem map_dropReturn_pieces_withReturns {cs : List Char} (h : '\r' ∉ cs) :
    (pieces '\n' (withReturns cs)).map dropReturn = (pieces '\n' cs).map dropReturn := by
  induction cs with
  | nil => rfl
  | cons c cs ih =>
    obtain ⟨hc, hcs⟩ := List.ne_and_not_mem_of_not_mem_cons h
    specialize ih hcs
    by_cases hn : c = '\n'
    · subst hn
      have hreturn : '\n' ∉ ['\r'] := by decide
      rw [withReturns_cons_newline, pieces_append_cons hreturn, pieces, if_pos rfl, List.map_cons,
        List.map_cons, ih]
      rfl
    · obtain ⟨p, ps, hp, hcp⟩ := pieces_cons_of_ne hn cs
      obtain ⟨q, qs, hq, hcq⟩ := pieces_cons_of_ne hn (withReturns cs)
      rw [hp, hq, List.map_cons, List.map_cons, List.cons_eq_cons] at ih
      rw [withReturns_cons hn, hcp, hcq, List.map_cons, List.map_cons,
        dropReturn_cons (Ne.symm hc), dropReturn_cons (Ne.symm hc), ih.1, ih.2]

end CommitPolicy.Text
