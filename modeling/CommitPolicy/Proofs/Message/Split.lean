import CommitPolicy.Proofs.Message.FooterPattern
import CommitPolicy.Proofs.Message.Layout

namespace CommitPolicy

namespace Text

def visible (cs : List Char) : List Char := cs.filter (!isBlank ·)

variable {cs : List Char}

theorem visible_append (xs ys : List Char) : visible (xs ++ ys) = visible xs ++ visible ys :=
  List.filter_append xs ys

theorem visible_eq_nil (h : ∀ c ∈ cs, isBlank c) : visible cs = [] := by
  rw [visible, List.filter_eq_nil_iff]
  intro c hc
  simp [h c hc]

theorem visible_of_eq_append {xs blanks : List Char} (hblanks : ∀ c ∈ blanks, isBlank c)
    (h : cs = xs ++ blanks) : visible xs = visible cs := by
  rw [h, visible_append, visible_eq_nil hblanks, List.append_nil]

theorem visible_trimRight (cs : List Char) : visible (trimRight cs) = visible cs := by
  obtain ⟨blanks, hblanks, h⟩ := exists_eq_trimRight_append cs
  exact visible_of_eq_append hblanks h

theorem visible_trimLeft (cs : List Char) : visible (trimLeft cs) = visible cs := by
  induction cs with
  | nil => rfl
  | cons c cs ih =>
    by_cases h : isBlank c
    · rw [trimLeft, List.dropWhile_cons_of_pos h, ← trimLeft, ih]
      simp [visible, h]
    · rw [trimLeft, List.dropWhile_cons_of_neg h]

theorem visible_trim (cs : List Char) : visible (trim cs) = visible cs := by
  rw [trim, visible_trimRight, visible_trimLeft]

theorem visible_dropReturn (line : List Char) : visible (dropReturn line) = visible line := by
  obtain ⟨blanks, hblanks, h⟩ := exists_eq_dropReturn_append line
  exact visible_of_eq_append hblanks h

theorem visible_join (ps : List (List Char)) : visible (join '\n' ps) = ps.flatMap visible := by
  induction ps with
  | nil => rfl
  | cons p ps ih =>
    by_cases hps : ps = []
    · simp [hps, join]
    · have hsep : visible ['\n'] = [] := visible_eq_nil (List.forall_mem_singleton.2 (by decide))
      rw [join_cons p hps, ← List.singleton_append, visible_append, visible_append, hsep, ih,
        List.flatMap_cons, List.nil_append]

theorem flatMap_visible_linesOfPieces (ps : List (List Char)) :
    (linesOfPieces ps).flatMap visible = ps.flatMap visible := by
  induction ps with
  | nil => rfl
  | cons p ps ih =>
    cases ps with
    | nil =>
      rw [linesOfPieces]
      split
      · rename_i h
        rw [List.isEmpty_iff.1 h]
        rfl
      · rfl
    | cons q ps =>
      rw [linesOfPieces_cons_cons, List.flatMap_cons, visible_dropReturn, ih, ← List.flatMap_cons]

/-- Reading lines drops nothing but blanks. -/
theorem flatMap_visible_lines (cs : List Char) : (lines cs).flatMap visible = visible cs := by
  rw [lines, flatMap_visible_linesOfPieces, ← visible_join, join_pieces]

theorem exists_lines_eq_cons {c : Char} (hc : ¬ isBlank c) (cs : List Char) :
    ∃ line rest, lines (c :: cs) = line :: rest ∧ line ≠ [] := by
  have hnewline : c ≠ '\n' := by
    rintro rfl
    exact hc (by decide)
  obtain ⟨p, ps, -, hcs⟩ := pieces_cons_of_ne hnewline cs
  rw [lines, hcs]
  cases ps with
  | nil => exact ⟨c :: p, [], rfl, List.cons_ne_nil c p⟩
  | cons q ps =>
    refine ⟨dropReturn (c :: p), _, rfl, ?_⟩
    intro hnil
    have hvisible := visible_dropReturn (c :: p)
    rw [hnil] at hvisible
    simp [visible, hc] at hvisible

end Text

theorem Cleanup.not_isBlank_of_head?_normalize (c : Cleanup) (text : String) :
    ∀ ch ∈ (c.normalize text).toList.head?, ¬ Text.isBlank ch := by
  rw [normalize, String.toList_ofList]
  exact Text.not_isBlank_of_head?_trim

namespace Message

open Text

structure FirstFooterLine (lines : List String) (i : Nat) : Prop where
  afterHeader : 1 ≤ i
  footer : ∃ line, lines[i]? = some line ∧ footerPattern.occursIn line
  first : ∀ j line, 1 ≤ j → j < i → lines[j]? = some line → ¬ footerPattern.occursIn line

theorem footerIndex?_eq_some_iff {lines : List String} {i : Nat} :
    footerIndex? lines = some i ↔ FirstFooterLine lines i := by
  rw [footerIndex?, Option.map_eq_some_iff]
  simp only [List.findIdx?_eq_some_iff_getElem, List.getElem_drop, List.length_drop,
    ← occursIn_footerPattern]
  constructor
  · rintro ⟨k, ⟨hlt, hfooter, hfirst⟩, rfl⟩
    refine ⟨by omega, ⟨lines[1 + k], ?_, hfooter⟩, ?_⟩
    · rw [Nat.add_comm, List.getElem?_eq_getElem]
    · intro j line hj hji hline
      obtain ⟨hjlt, rfl⟩ := List.getElem?_eq_some_iff.1 hline
      obtain ⟨n, rfl⟩ := Nat.exists_eq_add_of_le hj
      exact hfirst n (by omega)
  · rintro ⟨hi, ⟨line, hline, hfooter⟩, hfirst⟩
    obtain ⟨n, rfl⟩ := Nat.exists_eq_add_of_le hi
    obtain ⟨hlt, rfl⟩ := List.getElem?_eq_some_iff.1 hline
    refine ⟨n, ⟨by omega, hfooter, ?_⟩, Nat.add_comm n 1⟩
    intro j hj
    exact hfirst (1 + j) _ (by omega) (by omega) (List.getElem?_eq_getElem _)

theorem FirstFooterLine.lt_length {lines : List String} {i : Nat} (h : FirstFooterLine lines i) :
    i < lines.length := by
  obtain ⟨line, hline, -⟩ := h.footer
  exact (List.getElem?_eq_some_iff.1 hline).1

theorem mem_bodyLines_iff {lines : List String} {start : Option Nat} {line : String} :
    line ∈ bodyLines lines start ↔
      ∃ i, 1 ≤ i ∧ (∀ first ∈ start, i < first) ∧ lines[i]? = some line := by
  -- Without a footer the bound is the number of lines, which every index of a line is below.
  have hlt : ∀ i, lines[i]? = some line →
      (i < start.getD lines.length ↔ ∀ first ∈ start, i < first) := by
    intro i hline
    cases start with
    | none => simpa using (List.getElem?_eq_some_iff.1 hline).1
    | some first => simp
  rw [bodyLines, List.mem_iff_getElem?]
  simp only [List.getElem?_drop, List.getElem?_take, Option.ite_none_right_eq_some]
  constructor
  · rintro ⟨n, hn, hline⟩
    exact ⟨1 + n, Nat.le_add_right 1 n, (hlt _ hline).1 hn, hline⟩
  · rintro ⟨i, hi, hbefore, hline⟩
    obtain ⟨n, rfl⟩ := Nat.exists_eq_add_of_le hi
    exact ⟨n, (hlt _ hline).2 hbefore, hline⟩

theorem header_append_bodyLines_append {lines : List String} {start : Option Nat}
    (h : ∀ i ∈ start, 1 ≤ i) :
    lines.take 1 ++ bodyLines lines start ++ start.elim [] lines.drop = lines := by
  cases start with
  | none =>
    rw [bodyLines, Option.getD_none, List.take_length, Option.elim_none, List.append_nil,
      List.take_append_drop]
  | some i =>
    obtain ⟨n, rfl⟩ := Nat.exists_eq_add_of_le (h i rfl)
    have htake : lines.take 1 = (lines.take (1 + n)).take 1 := by simp [List.take_take]
    rw [bodyLines, Option.getD_some, Option.elim_some, htake, List.take_append_drop,
      List.take_append_drop]

section Paragraph

variable {lines : List String} {text : String}

theorem isSome_paragraph?_iff_exists_mem :
    (paragraph? lines).isSome ↔ ∃ line ∈ lines, ∃ c ∈ line.toList, ¬ isBlank c := by
  have hlines : (lines.map String.toList).map String.ofList = lines := by simp
  rw [← hlines, isSome_paragraph?_iff, hlines]
  simp

theorem visible_paragraph? (lines : List String) :
    visible ((paragraph? lines).getD "").toList = lines.flatMap (visible ·.toList) := by
  rw [paragraph?, Header.toList_getD_nonEmpty?, visible_trim, visible_join, List.flatMap_map]

def IsTrimmed (text : String) : Prop :=
  (∀ c ∈ text.toList.head?, ¬ isBlank c) ∧ ∀ c ∈ text.toList.getLast?, ¬ isBlank c

theorem isTrimmed_paragraph? (h : paragraph? lines = some text) : IsTrimmed text := by
  obtain ⟨-, rfl⟩ := Header.nonEmpty?_eq_some_iff.1 h
  rw [IsTrimmed, String.toList_ofList]
  exact ⟨not_isBlank_of_head?_trim, not_isBlank_of_getLast?_trimRight⟩

end Paragraph

structure IsSplit (m : Message) : Prop where
  lines : m.lines = linesOf m.raw
  header : m.header.raw = m.lines.headD ""
  header_eq_empty : m.header.raw = "" ↔ m.raw = ""
  footerStart : ∀ i, m.footerStart = some i ↔ FirstFooterLine m.lines i
  footerStart_bounds : ∀ i ∈ m.footerStart, 1 ≤ i ∧ i < m.lines.length
  footer : m.footerStart.isSome ↔ m.footer.isSome
  body : m.body.isSome ↔ ∃ i line, 1 ≤ i ∧ (∀ first ∈ m.footerStart, i < first) ∧
    m.lines[i]? = some line ∧ ∃ c ∈ line.toList, ¬ isBlank c
  body_isTrimmed : ∀ body ∈ m.body, IsTrimmed body
  footer_isTrimmed : ∀ footer ∈ m.footer, IsTrimmed footer
  visible : visible m.raw.toList = visible m.header.raw.toList ++
    visible (m.body.getD "").toList ++ visible (m.footer.getD "").toList

section OfClean

variable {g : Grammar} {raw : String}

theorem lines_ofClean_eq_linesOf (g : Grammar) (raw : String) :
    (ofClean g raw).lines = linesOf raw := rfl

theorem header_raw_ofClean (g : Grammar) (raw : String) :
    (ofClean g raw).header.raw = (ofClean g raw).lines.headD "" := by
  rw [ofClean, Header.raw_ofLine]

theorem footerStart_ofClean_eq_some_iff {i : Nat} :
    (ofClean g raw).footerStart = some i ↔ FirstFooterLine (ofClean g raw).lines i := by
  rw [← footerIndex?_eq_some_iff]
  rfl

theorem visible_ofClean (g : Grammar) (raw : String) :
    Text.visible raw.toList = Text.visible (ofClean g raw).header.raw.toList ++
      Text.visible ((ofClean g raw).body.getD "").toList ++
      Text.visible ((ofClean g raw).footer.getD "").toList := by
  have hstart : ∀ i ∈ (ofClean g raw).footerStart, 1 ≤ i := fun i hi =>
    (footerStart_ofClean_eq_some_iff.1 hi).afterHeader
  have hraw : Text.visible raw.toList = (ofClean g raw).lines.flatMap (Text.visible ·.toList) := by
    rw [lines_ofClean_eq_linesOf, linesOf, List.flatMap_map, ← flatMap_visible_lines]
    simp only [String.toList_ofList]
  have hheader : Text.visible (ofClean g raw).header.raw.toList =
      ((ofClean g raw).lines.take 1).flatMap (Text.visible ·.toList) := by
    rw [header_raw_ofClean]
    cases (ofClean g raw).lines <;> simp [Text.visible]
  have hfooter : Text.visible ((ofClean g raw).footer.getD "").toList =
      ((ofClean g raw).footerStart.elim [] (ofClean g raw).lines.drop).flatMap
        (Text.visible ·.toList) := by
    rw [footer_ofClean]
    cases (ofClean g raw).footerStart with
    | none => rfl
    | some start => exact visible_paragraph? _
  rw [hheader, body_ofClean, visible_paragraph?, hfooter, ← List.flatMap_append,
    ← List.flatMap_append, header_append_bodyLines_append hstart, hraw]

theorem isSome_footer_ofClean_iff_isSome_footerStart :
    (ofClean g raw).footer.isSome ↔ (ofClean g raw).footerStart.isSome := by
  rw [footer_ofClean]
  cases hstart : (ofClean g raw).footerStart with
  | none => simp
  | some start =>
    obtain ⟨-, ⟨line, hline, hfooter⟩, -⟩ := footerStart_ofClean_eq_some_iff.1 hstart
    rw [Option.bind_some, isSome_paragraph?_iff_exists_mem]
    refine iff_of_true ⟨line, ?_, ?_⟩ rfl
    · rw [List.mem_iff_getElem?]
      exact ⟨0, by rw [List.getElem?_drop, Nat.add_zero, hline]⟩
    · exact exists_not_isBlank_of_isFooterLine (occursIn_footerPattern.1 hfooter)

theorem header_raw_ofClean_eq_empty_iff (h : ∀ c ∈ raw.toList.head?, ¬ isBlank c) :
    (ofClean g raw).header.raw = "" ↔ raw = "" := by
  rw [header_raw_ofClean, lines_ofClean_eq_linesOf, linesOf]
  cases hraw : raw.toList with
  | nil =>
    rw [String.toList_eq_nil_iff] at hraw
    exact iff_of_true rfl hraw
  | cons c cs =>
    obtain ⟨line, rest, hcs, hne⟩ := exists_lines_eq_cons (h c (by rw [hraw]; rfl)) cs
    rw [hcs, List.map_cons, List.headD_cons]
    refine iff_of_false ?_ ?_
    · simpa using hne
    · rintro rfl
      simp at hraw

theorem isSplit_ofClean (h : ∀ c ∈ raw.toList.head?, ¬ isBlank c) : (ofClean g raw).IsSplit where
  lines := lines_ofClean_eq_linesOf g raw
  header := header_raw_ofClean g raw
  header_eq_empty := header_raw_ofClean_eq_empty_iff h
  footerStart i := footerStart_ofClean_eq_some_iff
  footerStart_bounds i hi := lt_length_of_footerStart_ofClean hi
  footer := isSome_footer_ofClean_iff_isSome_footerStart.symm
  body := by
    rw [body_ofClean, isSome_paragraph?_iff_exists_mem]
    simp only [mem_bodyLines_iff]
    constructor
    · rintro ⟨line, ⟨i, hi, hbefore, hline⟩, hvisible⟩
      exact ⟨i, line, hi, hbefore, hline, hvisible⟩
    · rintro ⟨i, line, hi, hbefore, hline, hvisible⟩
      exact ⟨line, ⟨i, hi, hbefore, hline⟩, hvisible⟩
  body_isTrimmed body hbody := isTrimmed_paragraph? ((body_ofClean g raw).symm.trans hbody)
  footer_isTrimmed footer hfooter := by
    rw [Option.mem_def, footer_ofClean, Option.bind_eq_some_iff] at hfooter
    obtain ⟨start, -, hfooter⟩ := hfooter
    exact isTrimmed_paragraph? hfooter
  visible := visible_ofClean g raw

end OfClean

/-- Nothing of a message is lost or repeated when it is split, however it is cleaned and whichever
grammar reads its header. -/
theorem isSplit_ofText (c : Cleanup) (g : Grammar) (text : String) :
    Pattern.ofSource? footerPattern.source = some footerPattern ∧ (ofText c g text).IsSplit :=
  ⟨ofSource?_footerPattern, isSplit_ofClean (c.not_isBlank_of_head?_normalize text)⟩

/-- A line of blanks between the header and the footer is no body. -/
example :
    let m := ofText .strip .anyScope "feat: x\r\n \t\nFixes #1\r\nmore\n"
    m.lines = ["feat: x", " \t", "Fixes #1", "more"] ∧ m.body = none ∧ m.footerStart = some 2 ∧
      m.footer = some "Fixes #1\nmore" := by decide

end Message

end CommitPolicy
