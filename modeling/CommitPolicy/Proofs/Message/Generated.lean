import CommitPolicy.Header.Basic
import CommitPolicy.Message.Generated

namespace CommitPolicy

namespace Message.GeneratedHeader

/-- How the headers of this kind can start. -/
def starts : GeneratedHeader → List String
  | .mergedPullRequest => ["Merge pull request #"]
  | .mergedBranch => ["Merge branch ", "Merge remote-tracking branch "]
  | .mergedTag => ["Merge tag "]
  | .hostedMerge => ["Merged "]
  | .revertByTitle => ["Revert \""]
  | .autosquash => ["fixup! ", "squash! ", "amend! "]
  | .automaticMerge => ["Automatic merge"]
  | .autoMerged => ["Auto-merged "]

theorem any_after?_iff {start : String} {cs : List Char} {p : List Char → Bool} :
    (after? start cs).any p ↔ ∃ rest, cs = start.toList ++ rest ∧ p rest := by
  rw [after?]
  split
  · rename_i h
    obtain ⟨rest, rfl⟩ := List.isPrefixOf_iff_prefix.1 h
    simp
  · rename_i h
    refine iff_of_false (by simp) ?_
    rintro ⟨rest, rfl, -⟩
    exact h (List.isPrefixOf_iff_prefix.2 (List.prefix_append _ rest))

theorem startsWith_iff {start : String} {cs : List Char} :
    startsWith start cs ↔ ∃ rest, cs = start.toList ++ rest := by
  rw [startsWith, List.isPrefixOf_iff_prefix]
  exact exists_congr fun rest => eq_comm

theorem exists_start_of_matchesHeader {k : GeneratedHeader} {cs : List Char}
    (h : k.matchesHeader cs) : ∃ start ∈ k.starts, ∃ rest, cs = start.toList ++ rest := by
  cases k with
  | mergedPullRequest | hostedMerge | revertByTitle | autoMerged =>
    obtain ⟨rest, hcs, -⟩ := any_after?_iff.1 h
    exact ⟨_, List.mem_singleton_self _, rest, hcs⟩
  | mergedTag | automaticMerge =>
    exact ⟨_, List.mem_singleton_self _, startsWith_iff.1 h⟩
  | mergedBranch =>
    rw [matchesHeader, Bool.or_eq_true] at h
    rcases h with h | h
    · exact ⟨_, by simp [starts], startsWith_iff.1 h⟩
    · exact ⟨_, by simp [starts], startsWith_iff.1 h⟩
  | autosquash =>
    rw [matchesHeader, Bool.or_eq_true, Bool.or_eq_true] at h
    rcases h with (h | h) | h
    · exact ⟨_, by simp [starts], startsWith_iff.1 h⟩
    · exact ⟨_, by simp [starts], startsWith_iff.1 h⟩
    · exact ⟨_, by simp [starts], startsWith_iff.1 h⟩

end Message.GeneratedHeader

open Header Message

theorem Header.Parts.ofLine?_of_start (g : Grammar) (k : GeneratedHeader) {start : String}
    (h : start ∈ k.starts) (rest : List Char) :
    Parts.ofLine? g (start.toList ++ rest) = none := by
  have hafter : ∀ start ∈ k.starts, ∀ type, Parts.afterType? g type
      ((start.toList ++ rest).dropWhile isWordChar) = none := by
    intro start hstart type
    cases k <;>
      simp only [GeneratedHeader.starts, List.mem_cons, List.not_mem_nil, or_false] at hstart
    all_goals rcases hstart with rfl | rfl | rfl <;> rfl
  rw [Parts.ofLine?]
  split
  · rfl
  · exact hafter start h _

theorem Message.not_isGenerated_of_ofLine? {g : Grammar} {line : List Char} {p : Parts}
    (h : Parts.ofLine? g line = some p) : ¬ isGenerated (String.ofList line) := by
  intro hgen
  rw [isGenerated, String.toList_ofList, List.any_eq_true] at hgen
  obtain ⟨k, -, hk⟩ := hgen
  obtain ⟨start, hs, rest, rfl⟩ := GeneratedHeader.exists_start_of_matchesHeader hk
  rw [Parts.ofLine?_of_start g k hs rest] at h
  cases h

end CommitPolicy
