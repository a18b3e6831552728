import CommitPolicy.Message.Footer
import CommitPolicy.Proofs.Issue.Identifier
import CommitPolicy.Proofs.Text.Trim

namespace CommitPolicy.Message

theorem append_of_afterKeyword? {keyword cs rest : List Char}
    (h : afterKeyword? keyword cs = some rest) : ∃ start, cs = start ++ rest := by
  induction keyword generalizing cs with
  | nil => exact ⟨[], Option.some.inj h⟩
  | cons k ks ih =>
    cases cs with
    | nil => simp [afterKeyword?] at h
    | cons c cs =>
      rw [afterKeyword?] at h
      split at h
      · obtain ⟨start, rfl⟩ := ih h
        exact ⟨c :: start, rfl⟩
      · simp at h

theorem afterKeyword?_append {keyword cs rest : List Char}
    (h : afterKeyword? keyword cs = some rest) (tail : List Char) :
    afterKeyword? keyword (cs ++ tail) = some (rest ++ tail) := by
  induction keyword generalizing cs with
  | nil =>
    obtain rfl := Option.some.inj h
    rfl
  | cons k ks ih =>
    cases cs with
    | nil => simp [afterKeyword?] at h
    | cons c cs =>
      rw [afterKeyword?] at h
      split at h
      · rename_i hc
        rw [List.cons_append, afterKeyword?, if_pos hc, ih h]
      · simp at h

theorem startsWithReference_of_isIdentifier {id : List Char} (h : Issue.IsIdentifier id)
    (rest : List Char) : startsWithReference (id ++ rest) := by
  have hl := Issue.isSome_leading?_append h rest
  rw [startsWithReference.eq_def]
  split
  · rename_i c cs heq
    cases id with
    | nil => exact absurd rfl h.ne_nil
    | cons k id =>
      obtain ⟨rfl, -⟩ := List.cons_eq_cons.1 heq
      exact absurd List.mem_cons_self (h.not_mem (by decide))
  · exact hl

theorem startsWithReference_append {cs : List Char} (h : startsWithReference cs)
    (tail : List Char) : startsWithReference (cs ++ tail) := by
  rw [startsWithReference.eq_def] at h
  split at h
  · exact h
  · obtain ⟨⟨id, rest⟩, hid⟩ := Option.isSome_iff_exists.1 h
    rw [← Issue.append_of_leading? hid, List.append_assoc]
    exact startsWithReference_of_isIdentifier (Issue.isIdentifier_of_leading? hid) (rest ++ tail)

theorem trimLeft_ne_nil_of_startsWithReference {cs : List Char}
    (h : startsWithReference (Text.trimLeft cs)) : Text.trimLeft cs ≠ [] := by
  intro hn
  rw [hn] at h
  exact absurd h (by decide)

theorem startsWithBlankReference_append {cs : List Char} (h : startsWithBlankReference cs)
    (tail : List Char) : startsWithBlankReference (cs ++ tail) := by
  cases cs with
  | nil => simp [startsWithBlankReference] at h
  | cons c cs =>
    rw [startsWithBlankReference, Bool.and_eq_true] at h
    obtain ⟨hc, hr⟩ := h
    have hne := trimLeft_ne_nil_of_startsWithReference hr
    rw [List.cons_append, startsWithBlankReference, hc, Text.trimLeft_append hne]
    exact startsWithReference_append hr tail

/-- What makes a line a footer line stands at its start. -/
theorem isFooterLine_append {line : List Char} (h : isFooterLine line) (tail : List Char) :
    isFooterLine (line ++ tail) := by
  rw [isFooterLine, Bool.or_eq_true, List.any_eq_true, List.any_eq_true] at h ⊢
  rcases h with ⟨note, hm, hp⟩ | ⟨keyword, hm, hr⟩
  · refine .inl ⟨note, hm, ?_⟩
    rw [List.isPrefixOf_iff_prefix] at hp ⊢
    exact hp.trans (List.prefix_append line tail)
  · obtain ⟨rest, hk, hr⟩ := (Option.any_eq_true _ _).1 hr
    refine .inr ⟨keyword, hm, (Option.any_eq_true _ _).2 ⟨rest ++ tail, ?_, ?_⟩⟩
    · exact afterKeyword?_append hk tail
    · exact startsWithBlankReference_append hr tail

theorem exists_not_isBlank_of_isFooterLine {line : List Char} (h : isFooterLine line) :
    ∃ c ∈ line, ¬ Text.isBlank c := by
  rw [isFooterLine, Bool.or_eq_true, List.any_eq_true, List.any_eq_true] at h
  rcases h with ⟨note, hm, hp⟩ | ⟨keyword, -, hany⟩
  · rw [List.isPrefixOf_iff_prefix] at hp
    have hb : ∀ note ∈ breakingNotes, 'B' ∈ note.toList := by decide
    exact ⟨'B', hp.subset (hb note hm), by decide⟩
  · obtain ⟨rest, hk, hr⟩ := (Option.any_eq_true _ _).1 hany
    obtain ⟨start, rfl⟩ := append_of_afterKeyword? hk
    cases rest with
    | nil => simp [startsWithBlankReference] at hr
    | cons c cs =>
      rw [startsWithBlankReference, Bool.and_eq_true] at hr
      have hne := trimLeft_ne_nil_of_startsWithReference hr.2
      rw [Ne, Text.trimLeft_eq_nil_iff, not_forall] at hne
      obtain ⟨d, hd⟩ := hne
      obtain ⟨hd, hb⟩ := Classical.not_imp.1 hd
      exact ⟨d, by simp [hd], hb⟩

end CommitPolicy.Message
