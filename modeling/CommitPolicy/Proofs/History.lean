import CommitPolicy.History
import CommitPolicy.Proofs.Issue.Identifier
import CommitPolicy.Proofs.Text.Line

namespace CommitPolicy.History

structure Commit where
  id : String
  message : String

namespace Commit

def record (c : Commit) : String := c.id ++ "\x00" ++ c.message ++ "\x1e\n"

structure Loggable (c : Commit) : Prop where
  id : ∀ ch ∈ c.id.toList, ch ≠ '\x00' ∧ ch ≠ recordSeparator ∧ ¬ Text.isBlank ch
  message : '\x00' ∉ c.message.toList

-- `List.all`, since a bounded `∀` over characters may be decided by going through all of them.
instance (c : Commit) : Decidable c.Loggable :=
  decidable_of_iff
    (c.id.toList.all (fun ch => ch ≠ '\x00' ∧ ch ≠ recordSeparator ∧ ¬ Text.isBlank ch) ∧
      '\x00' ∉ c.message.toList)
    ⟨fun h => ⟨by simpa using h.1, h.2⟩, fun h => ⟨by simpa using h.id, h.message⟩⟩

/-- What is read back: the message ends at its first record separator. -/
def submission (c : Commit) : Submission where
  commit := some c.id
  text := String.ofList (c.message.toList.takeWhile (· != recordSeparator))
  cleanup := .whitespace

theorem text_submission {c : Commit} (h : recordSeparator ∉ c.message.toList) :
    c.submission.text = c.message := by
  have hall : ∀ ch ∈ c.message.toList, ch != recordSeparator := Text.bne_of_not_mem h
  simp [submission, List.takeWhile_eq_self_iff.2 hall]

end Commit

def log (commits : List Commit) : String := String.join (commits.map Commit.record)

theorem submissionsOf_append_separator (xs ys : List Char) :
    submissionsOf (xs ++ recordSeparator :: ys) = submissionsOf xs ++ submissionsOf ys := by
  simp [submissionsOf, Text.pieces_append_sep]

theorem submissionsOf_eq_nil {cs : List Char} (h : '\x00' ∉ cs) : submissionsOf cs = [] := by
  rw [submissionsOf, List.filterMap_eq_nil_iff]
  intro piece hpiece
  have hnull : '\x00' ∉ piece.dropWhile isLineEnd := by
    intro hmem
    apply h
    rw [← Text.join_pieces recordSeparator cs]
    exact Text.mem_join_of_mem hpiece ((List.dropWhile_sublist _).subset hmem)
  rw [submission?, List.dropWhile_eq_nil_iff.2 (Text.bne_of_not_mem hnull)]

theorem submissionsOf_newline_cons (cs : List Char) :
    submissionsOf ('\n' :: cs) = submissionsOf cs := by
  obtain ⟨piece, pieces, hcs, hcons⟩ :=
    Text.pieces_cons_of_ne (show '\n' ≠ recordSeparator by decide) cs
  have hline : submission? ('\n' :: piece) = submission? piece := by simp [submission?, isLineEnd]
  simp only [submissionsOf, hcs, hcons, List.filterMap_cons, hline]

section Record

variable {id : List Char}
  (hid : ∀ ch ∈ id, ch ≠ '\x00' ∧ ch ≠ recordSeparator ∧ ¬ Text.isBlank ch)

include hid

theorem trim_id : Text.trim id = id := by
  apply Text.trim_eq_self
  · exact fun ch hch => (hid ch (List.mem_of_mem_head? hch)).2.2
  · exact fun ch hch => (hid ch (List.mem_of_getLast? hch)).2.2

theorem dropWhile_isLineEnd_append (text : List Char) :
    (id ++ '\x00' :: text).dropWhile isLineEnd = id ++ '\x00' :: text := by
  cases id with
  | nil => rfl
  | cons ch id =>
    apply List.dropWhile_cons_of_neg
    intro hend
    apply (hid ch List.mem_cons_self).2.2
    obtain rfl | rfl : ch = '\n' ∨ ch = '\r' := by simpa [isLineEnd] using hend
    · decide
    · decide

theorem submission?_append (text : List Char) :
    submission? (id ++ '\x00' :: text) = some {
      commit := some (String.ofList id), text := String.ofList text, cleanup := .whitespace } := by
  have hnull : ∀ ch ∈ id, ch != '\x00' := fun ch hch => bne_iff_ne.2 (hid ch hch).1
  have hstop : ∀ ch ∈ ('\x00' :: text).head?, ¬ (ch != '\x00') := by simp
  simp only [submission?, dropWhile_isLineEnd_append hid, Text.dropWhile_append hnull hstop,
    Text.takeWhile_append hnull hstop, trim_id hid]

theorem submissionsOf_append_message {message : List Char} (hmessage : '\x00' ∉ message) :
    submissionsOf (id ++ '\x00' :: message) = [{
      commit := some (String.ofList id)
      text := String.ofList (message.takeWhile (· != recordSeparator))
      cleanup := .whitespace }] := by
  have hpiece : ∀ text, recordSeparator ∉ text → recordSeparator ∉ id ++ '\x00' :: text := by
    intro text htext
    have hsep : recordSeparator ∉ id := fun hmem => (hid _ hmem).2.1 rfl
    rw [List.mem_append, List.mem_cons]
    simp [hsep, htext, show recordSeparator ≠ '\x00' by decide]
  by_cases hcut : recordSeparator ∈ message
  · obtain ⟨text, more, rfl, htext⟩ := List.eq_append_cons_of_mem hcut
    have hmore : '\x00' ∉ more := fun hmem => hmessage (by simp [hmem])
    have hall : ∀ ch ∈ text, ch != recordSeparator := Text.bne_of_not_mem htext
    have hassoc : id ++ '\x00' :: (text ++ recordSeparator :: more) =
        (id ++ '\x00' :: text) ++ recordSeparator :: more := by simp
    rw [hassoc, submissionsOf_append_separator, submissionsOf_eq_nil hmore, submissionsOf,
      Text.pieces_of_not_mem (hpiece text htext), Text.takeWhile_append hall (by simp)]
    simp [submission?_append hid]
  · have hall : ∀ ch ∈ message, ch != recordSeparator := Text.bne_of_not_mem hcut
    rw [submissionsOf, Text.pieces_of_not_mem (hpiece message hcut),
      List.takeWhile_eq_self_iff.2 hall]
    simp [submission?_append hid]

end Record

theorem submissionsOf_record_append {c : Commit} (h : c.Loggable) (rest : List Char) :
    submissionsOf (c.record.toList ++ rest) = c.submission :: submissionsOf rest := by
  have hrecord : c.record.toList ++ rest =
      (c.id.toList ++ '\x00' :: c.message.toList) ++ recordSeparator :: '\n' :: rest := by
    simp [Commit.record, recordSeparator]
  rw [hrecord, submissionsOf_append_separator, submissionsOf_newline_cons,
    submissionsOf_append_message h.id h.message]
  simp [Commit.submission]

/-- The log of some commits is read as these commits, in order; a message loses what stands behind
its first record separator, and nothing if it has none. -/
theorem submissions_log (commits : List Commit) (h : ∀ c ∈ commits, c.Loggable) :
    submissions (log commits) = commits.map Commit.submission ∧
      ∀ c ∈ commits, recordSeparator ∉ c.message.toList → c.submission.text = c.message := by
  refine ⟨?_, fun c _ => Commit.text_submission⟩
  rw [submissions, log, String.toList_join]
  induction commits with
  | nil => rfl
  | cons c commits ih =>
    obtain ⟨hc, hcommits⟩ := List.forall_mem_cons.1 h
    rw [List.map_cons, List.flatMap_cons, submissionsOf_record_append hc, ih hcommits,
      List.map_cons]

/-- A message that starts with a line feed and holds record separators, an empty message, and a
message of several lines that is kept whole. -/
theorem submissions_log_of_cut_message :
    let whole : Commit := ⟨"9c", "fix: y\n\nz\n"⟩
    let commits : List Commit :=
      [⟨"4f2a", "\nfeat(RCD-1): x\n\x1ecut off\x1e\n"⟩, ⟨"b07", ""⟩, whole]
    (∀ c ∈ commits, c.Loggable) ∧
      submissions (log commits) = [⟨some "4f2a", "\nfeat(RCD-1): x\n", .whitespace⟩,
        ⟨some "b07", "", .whitespace⟩, ⟨some "9c", "fix: y\n\nz\n", .whitespace⟩] ∧
      recordSeparator ∉ whole.message.toList ∧ whole.submission.text = whole.message := by
  intro whole commits
  have h : ∀ c ∈ commits, c.Loggable := by decide
  have hwhole : recordSeparator ∉ whole.message.toList := by decide
  obtain ⟨hlog, htext⟩ := submissions_log commits h
  exact ⟨h, hlog.trans (by decide), hwhole, htext whole (by simp [commits]) hwhole⟩

end CommitPolicy.History
