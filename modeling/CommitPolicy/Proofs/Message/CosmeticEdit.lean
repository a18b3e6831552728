import CommitPolicy.Lint
import CommitPolicy.Proofs.Text.Joined
import CommitPolicy.Proofs.Text.LineEnding
import CommitPolicy.Proofs.Text.OneLine
import CommitPolicy.Settings.Preset
import Mathlib.Logic.Relation

namespace CommitPolicy

open Text (Lacks)

inductive AddsComments : List String → List String → Prop
  | nil : AddsComments [] []
  | keep {lines lines' : List String} (line : String) (h : AddsComments lines lines') :
      AddsComments (line :: lines) (line :: lines')
  | insert {lines lines' : List String} {comment : String}
      (hstart : comment.toList.head? = some '#') (hline : Lacks '\n' comment)
      (h : AddsComments lines lines') : AddsComments lines (comment :: lines')

inductive CosmeticEdit : Cleanup → String → String → Prop
  | comments {lines lines' : List String} (hlines : ∀ line ∈ lines, Lacks '\n' line)
      (h : AddsComments lines lines') :
      CosmeticEdit .strip ("\n".intercalate lines) ("\n".intercalate lines')
  | blankLinesBefore (c : Cleanup) {blanks : List String}
      (h : ∀ line ∈ blanks, ∀ ch ∈ line.toList, Text.isBlank ch) (text : String) :
      CosmeticEdit c text (Text.unlines blanks ++ text)
  | blanksAfter (c : Cleanup) (text : String) {blanks : String}
      (h : ∀ ch ∈ blanks.toList, Text.isBlank ch) :
      CosmeticEdit c (text ++ "\n") (text ++ "\n" ++ blanks)
  | returns (c : Cleanup) {text : String} (h : Lacks '\r' text) :
      CosmeticEdit c text (String.ofList (Text.withReturns text.toList))

namespace Cleanup

open Text

variable {c : Cleanup}

def keptLines (c : Cleanup) (cs : List Char) : List (List Char) :=
  ((pieces '\n' cs).map dropReturn).filter c.keeps

theorem keeps_of_blank {line : List Char} (h : ∀ ch ∈ line, isBlank ch) : c.keeps line := by
  cases c with
  | whitespace => rfl
  | strip =>
    cases line with
    | nil => rfl
    | cons ch line =>
      have hne : ch ≠ '#' := by
        rintro rfl
        exact absurd (h '#' List.mem_cons_self) (by decide)
      simpa [keeps] using hne

theorem keeps_append {line : List Char} (h : line ≠ []) (tail : List Char) :
    c.keeps (line ++ tail) = c.keeps line := by
  obtain ⟨ch, rest, rfl⟩ := List.exists_cons_of_ne_nil h
  cases c <;> rfl

theorem keeps_dropReturn (line : List Char) : c.keeps (dropReturn line) = c.keeps line := by
  obtain ⟨blanks, hblanks, hline⟩ := exists_eq_dropReturn_append line
  by_cases hnil : dropReturn line = []
  · rw [hnil, List.nil_append] at hline
    have hkeep : c.keeps line := keeps_of_blank (hline ▸ hblanks)
    rw [hnil, hkeep]
    exact keeps_of_blank (by simp)
  · conv_rhs => rw [hline, keeps_append hnil]

theorem keptLines_append_newline (c : Cleanup) (xs ys : List Char) :
    c.keptLines (xs ++ '\n' :: ys) = c.keptLines xs ++ c.keptLines ys := by
  rw [keptLines, pieces_append_sep, List.map_append, List.filter_append, keptLines, keptLines]

theorem isBlank_of_mem_keptLines {cs line : List Char} (h : ∀ ch ∈ cs, isBlank ch)
    (hline : line ∈ c.keptLines cs) : ∀ ch ∈ line, isBlank ch := by
  obtain ⟨p, hp, rfl⟩ := List.mem_map.1 (List.mem_of_mem_filter hline)
  intro ch hch
  apply h
  rw [← join_pieces '\n' cs]
  exact mem_join_of_mem hp (dropReturn_subset p hch)

/-- Cleaning reads a text through its kept lines alone. That the last line ends without a line feed
makes a difference to its own end only, and is lost in trimming. -/
theorem normalize_eq_trim_keptLines (c : Cleanup) (text : String) :
    c.normalize text = String.ofList (trim (join '\n' (c.keptLines text.toList))) := by
  rw [normalize, lines, keptLines]
  congr 1
  obtain ⟨init, last, hps⟩ := (List.eq_nil_or_concat (pieces '\n' text.toList)).resolve_left
    (pieces_ne_nil '\n' text.toList)
  rw [List.concat_eq_append] at hps
  rw [hps, linesOfPieces_concat, List.filter_append, List.map_append, List.filter_append]
  by_cases hlast : last = []
  · have hblank : ∀ line ∈ [dropReturn last].filter c.keeps, ∀ ch ∈ line, isBlank ch := by
      intro line hline
      obtain rfl := List.mem_singleton.1 (List.mem_of_mem_filter hline)
      simp [hlast, dropReturn]
    rw [if_pos (List.isEmpty_iff.2 hlast), List.filter_nil, List.append_nil]
    exact (trim_join_append_of_blank _ hblank).symm
  · rw [if_neg (by simpa using hlast), List.map_singleton]
    by_cases hkept : c.keeps last
    · obtain ⟨blanks, hblanks, hline⟩ := exists_eq_dropReturn_append last
      have hkept' : c.keeps (dropReturn last) := (keeps_dropReturn last).trans hkept
      rw [List.filter_cons_of_pos hkept, List.filter_cons_of_pos hkept', List.filter_nil]
      conv_lhs => rw [hline, join_concat_append, trim_append_of_blank hblanks]
    · have hdropped : ¬ c.keeps (dropReturn last) := by rwa [keeps_dropReturn]
      rw [List.filter_cons_of_neg hkept, List.filter_cons_of_neg hdropped]

theorem normalize_blank_line_append {blanks : List Char} (h : ∀ ch ∈ blanks, isBlank ch)
    (rest : List Char) :
    c.normalize (String.ofList (blanks ++ '\n' :: rest)) = c.normalize (String.ofList rest) := by
  rw [normalize_eq_trim_keptLines, normalize_eq_trim_keptLines, String.toList_ofList,
    String.toList_ofList, keptLines_append_newline,
    trim_join_blank_append fun line => isBlank_of_mem_keptLines h]

theorem normalize_unlines_append {blanks : List String}
    (h : ∀ line ∈ blanks, ∀ ch ∈ line.toList, isBlank ch) (text : String) :
    c.normalize (unlines blanks ++ text) = c.normalize text := by
  induction blanks with
  | nil => simp [unlines]
  | cons line blanks ih =>
    obtain ⟨hline, hblanks⟩ := List.forall_mem_cons.1 h
    have hsplit : unlines (line :: blanks) ++ text =
        String.ofList (line.toList ++ '\n' :: (unlines blanks ++ text).toList) := by
      rw [← String.toList_inj]
      simp [unlines_cons]
    rw [hsplit, normalize_blank_line_append hline, String.ofList_toList, ih hblanks]

theorem normalize_append_blanks {blanks : String} (h : ∀ ch ∈ blanks.toList, isBlank ch)
    (text : String) : c.normalize (text ++ "\n" ++ blanks) = c.normalize (text ++ "\n") := by
  have htext : (text ++ "\n").toList = text.toList ++ '\n' :: [] := by simp
  have hmore : (text ++ "\n" ++ blanks).toList = text.toList ++ '\n' :: blanks.toList := by simp
  have hempty : ∀ ch ∈ ([] : List Char), isBlank ch := by simp
  rw [normalize_eq_trim_keptLines, normalize_eq_trim_keptLines, hmore, htext,
    keptLines_append_newline, keptLines_append_newline,
    trim_join_append_of_blank _ fun line => isBlank_of_mem_keptLines h,
    trim_join_append_of_blank _ fun line => isBlank_of_mem_keptLines hempty]

theorem normalize_withReturns {text : String} (h : Lacks '\r' text) :
    c.normalize (String.ofList (withReturns text.toList)) = c.normalize text := by
  rw [normalize_eq_trim_keptLines, normalize_eq_trim_keptLines, String.toList_ofList, keptLines,
    map_dropReturn_pieces_withReturns h, keptLines]

theorem normalize_intercalate {lines : List String} (h : ∀ line ∈ lines, Lacks '\n' line) :
    c.normalize ("\n".intercalate lines) = String.ofList
      (trim (join '\n' ((lines.map fun line => dropReturn line.toList).filter c.keeps))) := by
  cases lines with
  | nil => cases c <;> rfl
  | cons line lines =>
    have hpieces : ∀ p ∈ (line :: lines).map String.toList, '\n' ∉ p := by simpa [Lacks] using h
    rw [normalize_eq_trim_keptLines, keptLines, toList_intercalate '\n' rfl,
      pieces_join (by simp) hpieces, List.map_map]
    rfl

end Cleanup

namespace AddsComments

variable {lines lines' : List String}

theorem lacks (h : AddsComments lines lines') (hlines : ∀ line ∈ lines, Lacks '\n' line) :
    ∀ line ∈ lines', Lacks '\n' line := by
  induction h with
  | nil => exact hlines
  | keep line h ih =>
    obtain ⟨hline, hrest⟩ := List.forall_mem_cons.1 hlines
    exact List.forall_mem_cons.2 ⟨hline, ih hrest⟩
  | insert hstart hline h ih => exact List.forall_mem_cons.2 ⟨hline, ih hlines⟩

theorem filter_keeps (h : AddsComments lines lines') :
    (lines'.map fun line => Text.dropReturn line.toList).filter Cleanup.strip.keeps =
      (lines.map fun line => Text.dropReturn line.toList).filter Cleanup.strip.keeps := by
  induction h with
  | nil => rfl
  | keep line h ih => rw [List.map_cons, List.map_cons, List.filter_cons, List.filter_cons, ih]
  | @insert lines lines' comment hstart hline h ih =>
    have hdropped : ¬ Cleanup.strip.keeps (Text.dropReturn comment.toList) := by
      rw [Cleanup.keeps_dropReturn, Cleanup.keeps, hstart]
      decide
    rw [List.map_cons, List.filter_cons_of_neg hdropped, ih]

end AddsComments

variable {c : Cleanup} {text text' : String}

theorem CosmeticEdit.normalize_eq (h : CosmeticEdit c text text') :
    c.normalize text' = c.normalize text := by
  cases h with
  | comments hlines h =>
    rw [Cleanup.normalize_intercalate (h.lacks hlines), Cleanup.normalize_intercalate hlines,
      h.filter_keeps]
  | blankLinesBefore _ h => exact Cleanup.normalize_unlines_append h text
  | blanksAfter _ text h => exact Cleanup.normalize_append_blanks h text
  | returns _ h => exact Cleanup.normalize_withReturns h

/-- Cosmetic edits, one after the other, leave the message as it is and so every lint of it. -/
theorem Message.ofText_of_cosmeticEdits
    (h : Relation.ReflTransGen (CosmeticEdit c) text text') :
    (∀ g, ofText c g text' = ofText c g text) ∧
    (∀ (s : Settings) (g : Grammar) (commit : Option String),
      s.evaluate ((ofText c g text').withCommit commit) =
        s.evaluate ((ofText c g text).withCommit commit)) ∧
    (c = .strip → ∀ s : Settings, s.lint text' = s.lint text) := by
  have hclean : c.normalize text' = c.normalize text := by
    induction h with
    | refl => rfl
    | tail _ hedit ih => exact hedit.normalize_eq.trans ih
  have hsame : ∀ g, ofText c g text' = ofText c g text := fun g => by rw [ofText, hclean, ofText]
  refine ⟨hsame, fun s g commit => by rw [hsame], ?_⟩
  rintro rfl s
  rw [Settings.lint, hsame, Settings.lint]

/-- A text given carriage returns, then comments, a blank line in front and blanks at its end. -/
theorem Message.ofText_of_edited_buffer :
    let text := "feat(RCD-1): x\n\nbody\n"
    let edited := " \t\n# why\nfeat(RCD-1): x\r\n\r\nbody\r\n#\r\n  "
    Relation.ReflTransGen (CosmeticEdit .strip) text edited ∧
      ofText .strip .anyScope edited = ofText .strip .anyScope text ∧
      (Settings.preset .flexible).lint edited = (Settings.preset .flexible).lint text := by
  intro text edited
  let lines := ["feat(RCD-1): x\r", "\r", "body\r", ""]
  let lines' := ["# why", "feat(RCD-1): x\r", "\r", "body\r", "#\r", ""]
  have hcommented : AddsComments lines lines' :=
    .insert rfl (by decide) <| .keep _ <| .keep _ <| .keep _ <| .insert rfl (by decide) <|
      .keep _ .nil
  have hreturns := CosmeticEdit.returns .strip (show Lacks '\r' text by decide)
  have hcomments := CosmeticEdit.comments (by decide) hcommented
  have hbefore := CosmeticEdit.blankLinesBefore .strip
    (List.forall_mem_singleton.2 (List.all_eq_true.1 (show " \t".toList.all Text.isBlank from rfl)))
    ("\n".intercalate lines')
  have hafter := CosmeticEdit.blanksAfter .strip
    " \t\n# why\nfeat(RCD-1): x\r\n\r\nbody\r\n#\r"
    (List.all_eq_true.1 (show "  ".toList.all Text.isBlank from rfl))
  have hjoined : String.ofList (Text.withReturns text.toList) = "\n".intercalate lines := by decide
  have hended : Text.unlines [" \t"] ++ "\n".intercalate lines' =
      " \t\n# why\nfeat(RCD-1): x\r\n\r\nbody\r\n#\r" ++ "\n" := by decide
  have hedited : " \t\n# why\nfeat(RCD-1): x\r\n\r\nbody\r\n#\r" ++ "\n" ++ "  " = edited := by
    decide
  rw [hjoined] at hreturns
  rw [hended] at hbefore
  rw [hedited] at hafter
  have hedits : Relation.ReflTransGen (CosmeticEdit .strip) text edited :=
    .tail (.tail (.tail (.single hreturns) hcomments) hbefore) hafter
  obtain ⟨hsame, -, hlint⟩ := ofText_of_cosmeticEdits hedits
  exact ⟨hedits, hsame .anyScope, hlint rfl (Settings.preset .flexible)⟩

end CommitPolicy
