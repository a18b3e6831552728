import CommitPolicy.Proofs.Message.Layout

namespace CommitPolicy

open Text

/-- A line that stays the first one: it starts with a character that is neither blank nor the mark
of a comment. -/
structure OpensMessage (line : List Char) : Prop where
  start : ∃ c ∈ line.head?, ¬ isBlank c ∧ c ≠ '#'
  newline : '\n' ∉ line

structure IsClean (line : List Char) : Prop where
  start : ∃ c ∈ line.head?, ¬ isBlank c ∧ c ≠ '#'
  stop : ∀ c ∈ line.getLast?, ¬ isBlank c
  newline : '\n' ∉ line
  carriage : '\r' ∉ line

variable {line : List Char}

namespace OpensMessage

theorem exists_mem_not_isBlank (h : OpensMessage line) : ∃ c ∈ line, ¬ isBlank c := by
  obtain ⟨c, hc, hb, -⟩ := h.start
  exact ⟨c, List.mem_of_mem_head? hc, hb⟩

theorem ne_nil (h : OpensMessage line) : line ≠ [] := by
  obtain ⟨c, hc, -⟩ := h.exists_mem_not_isBlank
  exact List.ne_nil_of_mem hc

theorem trimRight_ne_nil (h : OpensMessage line) : trimRight line ≠ [] := by
  obtain ⟨c, hc, hb⟩ := h.exists_mem_not_isBlank
  exact fun hnil => hb (trimRight_eq_nil_iff.1 hnil c hc)

theorem keeps (h : OpensMessage line) : Cleanup.strip.keeps line := by
  obtain ⟨c, hc, -, hne⟩ := h.start
  rw [Cleanup.keeps, Option.mem_def.1 hc]
  simpa using hne

theorem trim_append (h : OpensMessage line) (tail : List Char) :
    trim (line ++ tail) = trimRight (line ++ tail) := by
  obtain ⟨c, hc, hb, -⟩ := h.start
  refine trim_eq_trimRight fun d hd => ?_
  rw [List.head?_append, Option.mem_def.1 hc] at hd
  obtain rfl : c = d := Option.some.inj hd
  exact hb

theorem dropReturn (h : OpensMessage line) : OpensMessage (dropReturn line) := by
  refine ⟨?_, fun hm => h.newline (dropReturn_subset line hm)⟩
  have hne : Text.dropReturn line ≠ [] := by
    intro hnil
    apply h.trimRight_ne_nil
    rw [← trimRight_dropReturn, hnil]
    rfl
  obtain ⟨blanks, -, hline⟩ := exists_eq_dropReturn_append line
  obtain ⟨c, hc, hstart⟩ := h.start
  rw [hline, List.head?_append, Option.or_of_isSome (List.isSome_head?.2 hne)] at hc
  exact ⟨c, hc, hstart⟩

end OpensMessage

namespace IsClean

theorem opens (h : IsClean line) : OpensMessage line := ⟨h.start, h.newline⟩

theorem ne_nil (h : IsClean line) : line ≠ [] := h.opens.ne_nil

theorem lines_eq (h : IsClean line) : lines line = [line] :=
  lines_of_newline_not_mem h.newline h.ne_nil

end IsClean

namespace Cleanup

/-- Something is left of the text when comments and blanks are gone. -/
def LeavesText (c : Cleanup) (text : List Char) : Prop :=
  ∃ line ∈ lines text, c.keeps line ∧ ∃ ch ∈ line, ¬ isBlank ch

instance (c : Cleanup) (text : List Char) : Decidable (c.LeavesText text) :=
  decidable_of_iff ((lines text).any fun line => c.keeps line && line.any (!isBlank ·))
    (by simp [LeavesText])

theorem trimRight_join_keeps_eq_nil_iff {c : Cleanup} {text : List Char} :
    trimRight (join '\n' ([] :: (lines text).filter c.keeps)) = [] ↔ ¬ c.LeavesText text := by
  rw [trimRight_eq_nil_iff, forall_mem_join_isBlank_iff]
  simp [LeavesText]

theorem normalize_line (h : OpensMessage line) :
    strip.normalize (String.ofList line) = String.ofList (trimRight line) := by
  have ht := h.trim_append []
  rw [List.append_nil] at ht
  rw [normalize, String.toList_ofList, lines_of_newline_not_mem h.newline h.ne_nil,
    List.filter_cons_of_pos h.keeps]
  exact congrArg String.ofList ht

theorem normalize_append (h : OpensMessage line) (rest : List Char) :
    strip.normalize (String.ofList (line ++ '\n' :: '\n' :: rest)) =
      String.ofList (trimRight (dropReturn line ++
        '\n' :: join '\n' ([] :: (lines rest).filter strip.keeps))) := by
  have hlines : lines (line ++ '\n' :: '\n' :: rest) = dropReturn line :: [] :: lines rest := by
    have hnil : lines ('\n' :: rest) = [] :: lines rest := lines_cons List.not_mem_nil rest
    rw [lines_cons h.newline, hnil]
  have hkeep : strip.keeps [] := rfl
  rw [normalize, String.toList_ofList, hlines, List.filter_cons_of_pos h.dropReturn.keeps,
    List.filter_cons_of_pos hkeep, join_cons _ (List.cons_ne_nil _ _), h.dropReturn.trim_append]

theorem lines_normalize_line (h : OpensMessage line) :
    lines (strip.normalize (String.ofList line)).toList = [trimRight line] := by
  rw [normalize_line h, String.toList_ofList]
  exact lines_of_newline_not_mem (fun hm => h.newline (trimRight_subset line hm))
    h.trimRight_ne_nil

theorem lines_normalize_append_of_not_leavesText {rest : List Char} (h : OpensMessage line)
    (hrest : ¬ strip.LeavesText rest) :
    lines (strip.normalize (String.ofList (line ++ '\n' :: '\n' :: rest))).toList =
      [trimRight line] := by
  rw [← trimRight_join_keeps_eq_nil_iff, trimRight_eq_nil_iff] at hrest
  have hblank : ∀ c ∈ '\n' :: join '\n' ([] :: (lines rest).filter strip.keeps), isBlank c :=
    List.forall_mem_cons.2 ⟨by decide, hrest⟩
  rw [← lines_normalize_line h, normalize_line h, normalize_append h,
    trimRight_append_of_blank hblank, trimRight_dropReturn]

theorem lines_normalize_append_of_leavesText {rest : List Char} (h : OpensMessage line)
    (hrest : strip.LeavesText rest) :
    lines (strip.normalize (String.ofList (line ++ '\n' :: '\n' :: rest))).toList =
      dropReturn (dropReturn line) ::
        lines (trimRight (join '\n' ([] :: (lines rest).filter strip.keeps))) := by
  have hleft := mt trimRight_join_keeps_eq_nil_iff.1 (not_not.2 hrest)
  rw [normalize_append h, String.toList_ofList, List.append_cons, trimRight_append hleft,
    List.append_assoc, List.singleton_append, lines_cons h.dropReturn.newline]

theorem normalize_of_isClean (h : IsClean line) :
    strip.normalize (String.ofList line) = String.ofList line := by
  rw [normalize_line h.opens, trimRight_eq_self h.stop]

theorem exists_lines_normalize_append {rest : List Char} (h : IsClean line) (hcr : '\r' ∉ rest)
    (hcomment : ∀ l ∈ lines rest, l.head? ≠ some '#')
    (hfooter : Message.FooterSetOff line ([] :: lines rest)) :
    ∃ kept, lines (strip.normalize (String.ofList (line ++ '\n' :: '\n' :: rest))).toList =
        line :: kept ∧ Message.BodySetOff kept ∧ Message.FooterSetOff line kept := by
  have hfilter : (lines rest).filter strip.keeps = lines rest :=
    List.filter_eq_self.2 fun l hl => bne_iff_ne.2 (hcomment l hl)
  by_cases hleaves : strip.LeavesText rest
  · have hleft := mt trimRight_join_keeps_eq_nil_iff.1 (not_not.2 hleaves)
    rw [hfilter] at hleft
    have hcr' : ∀ l ∈ [] :: lines rest, '\r' ∉ l :=
      List.forall_mem_cons.2 ⟨List.not_mem_nil, fun l hl hc => hcr (mem_of_mem_lines hl hc)⟩
    have hlf : ∀ l ∈ [] :: lines rest, '\n' ∉ l :=
      List.forall_mem_cons.2 ⟨List.not_mem_nil, fun l hl => newline_not_mem_of_mem_lines hl⟩
    obtain ⟨init, last, tail, more, hsplit, hkept⟩ := lines_trimRight_join hcr' hlf hleft
    refine ⟨init ++ [last], ?_, fun _ => ?_, ?_⟩
    · rw [lines_normalize_append_of_leavesText h.opens hleaves, hfilter, hkept,
        dropReturn_eq_self h.carriage, dropReturn_eq_self h.carriage]
    · -- The first line that is kept is the empty one, or what is left of it.
      cases init with
      | nil => simp_all
      | cons first init => simp_all
    · rw [hsplit] at hfooter
      exact hfooter.of_shortened
  · refine ⟨[], ?_, Message.bodySetOff_nil, Message.footerSetOff_nil⟩
    rw [lines_normalize_append_of_not_leavesText h.opens hleaves, trimRight_eq_self h.stop]

end Cleanup

end CommitPolicy
