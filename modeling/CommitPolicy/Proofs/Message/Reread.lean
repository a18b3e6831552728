import CommitPolicy.Lint
import CommitPolicy.Proofs.Text.LineEnding
import CommitPolicy.Settings.Preset

namespace CommitPolicy

open Text

namespace Cleanup

variable {c : Cleanup} {text : String}

theorem not_return_infix_join_filter (h : ¬ ['\r', '\r', '\n'] <:+: text.toList) :
    ¬ ['\r', '\n'] <:+: join '\n' ((lines text.toList).filter c.keeps) := by
  have hword : '\n' ∉ ['\r'] := by decide
  have hlines : ∀ line ∈ (lines text.toList).filter c.keeps, '\n' ∉ line := fun line hline =>
    newline_not_mem_of_mem_lines (List.mem_of_mem_filter hline)
  intro hreturn
  obtain ⟨line, hline, hend⟩ := (append_sep_infix_join_iff hword hlines).1 hreturn
  exact not_return_suffix_of_mem_dropLast_lines h (dropLast_filter_subset c.keeps _ hline) hend

theorem normalize_normalize (h : ¬ ['\r', '\r', '\n'] <:+: text.toList) :
    whitespace.normalize (c.normalize text) = c.normalize text := by
  have hreturn : ¬ ['\r', '\n'] <:+: (c.normalize text).toList := by
    intro hin
    apply not_return_infix_join_filter (c := c) h
    rw [normalize, String.toList_ofList] at hin
    exact hin.trans (isInfix_trim _)
  have hend : '\n' ∉ (c.normalize text).toList.getLast? := by
    rw [normalize, String.toList_ofList]
    exact fun hl => not_isBlank_of_getLast?_trimRight '\n' hl (by decide)
  have hkeep : (lines (c.normalize text).toList).filter whitespace.keeps =
      lines (c.normalize text).toList := List.filter_eq_self.2 fun _ _ => rfl
  rw [normalize, hkeep, join_lines hreturn hend, normalize, String.toList_ofList, trim_trim]

end Cleanup

namespace Message

theorem raw_ofText (c : Cleanup) (g : Grammar) (text : String) :
    (ofText c g text).raw = c.normalize text := rfl

/-- A cleaned text is the same message when it is read back from history, and is linted alike. The
condition cannot be dropped: of a line that ends in two carriage returns each reading takes one. -/
theorem ofText_raw (c : Cleanup) (g : Grammar) (text : String)
    (h : ¬ ['\r', '\r', '\n'] <:+: text.toList) :
    ofText .whitespace g (ofText c g text).raw = ofText c g text ∧
      ∀ s : Settings, s.evaluate (ofText .whitespace g (ofText c g text).raw) =
        s.evaluate (ofText c g text) := by
  have hsame : ofText .whitespace g (ofText c g text).raw = ofText c g text := by
    rw [raw_ofText, ofText, ofText, Cleanup.normalize_normalize h]
  exact ⟨hsame, fun s => by rw [hsame]⟩

/-- Both kinds of line ends, comments, blanks around the text and a carriage return at its end. -/
theorem ofText_raw_of_edited_text :
    let text := "\r\n  feat(RCD-1): x\r\n# why\r\n\r\n# Body \n #1\n#\r\n\t\r"
    let message := ofText .strip .anyScope text
    ¬ ['\r', '\r', '\n'] <:+: text.toList ∧ message.raw = "feat(RCD-1): x\n\n #1" ∧
      ofText .whitespace .anyScope message.raw = message ∧
      (Settings.preset .flexible).evaluate (ofText .whitespace .anyScope message.raw) =
        (Settings.preset .flexible).evaluate message := by
  intro text message
  have h : ¬ ['\r', '\r', '\n'] <:+: text.toList := by decide
  obtain ⟨hsame, hlint⟩ := ofText_raw .strip .anyScope text h
  exact ⟨h, by decide, hsame, hlint (Settings.preset .flexible)⟩

example : Cleanup.whitespace.normalize (Cleanup.strip.normalize "a\r\r\nb") = "a\nb" ∧
    Cleanup.strip.normalize "a\r\r\nb" = "a\r\nb" := by decide

end Message

end CommitPolicy
