import CommitPolicy.Proofs.Header.Decomposition
import CommitPolicy.Proofs.Message.GeneratedPattern
import CommitPolicy.Settings.Preset

namespace CommitPolicy

open Header

inductive Header.Recognized (line : String) : Prop where
  | grammar (g : Grammar) (h : (Parts.ofLine? g line.toList).isSome)
  | pattern (h : anyScopePattern.occursIn line)
  | shape (h : Shape.ofLine line ≠ .unstructured)
  | revert (h : (Revert.ofLine? line).isSome)

theorem Header.Parts.isSome_anyScope_of_isSome {g : Grammar} {line : List Char}
    (h : (ofLine? g line).isSome) : (ofLine? .anyScope line).isSome := by
  obtain ⟨p, hp⟩ := Option.isSome_iff_exists.1 h
  obtain ⟨q, hq, -⟩ := (makesUp_of_ofLine? hp).exists_ofLine?
  exact Option.isSome_of_eq_some hq

theorem Header.recognized_iff {line : String} :
    Recognized line ↔ (Parts.ofLine? .anyScope line.toList).isSome := by
  constructor
  · intro h
    cases h with
    | grammar g h => exact Parts.isSome_anyScope_of_isSome h
    | pattern h =>
      obtain ⟨p, hp⟩ := occursIn_anyScopePattern.1 h
      obtain ⟨q, hq, -⟩ := hp.exists_ofLine?
      exact Option.isSome_of_eq_some hq
    | shape h =>
      apply Parts.isSome_anyScope_of_isSome (g := .issueScope)
      rw [Option.isSome_iff_ne_none]
      exact fun hnone => h (Shape.ofLine_of_none hnone)
    | revert h =>
      obtain ⟨r, hr⟩ := Option.isSome_iff_exists.1 h
      obtain ⟨id, b, inner, hp, -⟩ := Revert.ofLine?_eq_some_iff.1 hr
      exact Parts.isSome_anyScope_of_isSome (Option.isSome_of_eq_some hp)
  · exact .grammar .anyScope

theorem Header.Recognized.not_isGenerated {line : String} (h : Recognized line) :
    ¬ Message.isGenerated line := by
  obtain ⟨p, hp⟩ := Option.isSome_iff_exists.1 (recognized_iff.1 h)
  have hgen := Message.not_isGenerated_of_ofLine? hp
  rwa [String.ofList_toList] at hgen

namespace Settings

/-- No pattern of generated headers occurs in a recognized header, and only patterns of the settings'
own skip it; without such patterns nothing does. -/
theorem skips_recognized_iff (s : Settings) {line : String} (h : Recognized line) :
    (∀ k : Message.GeneratedHeader,
        ∃ p, Pattern.ofSource? k.source = some p ∧ ¬ p.occursIn line) ∧
      (s.skips line ↔ ∃ p ∈ s.ignores, p.occursIn line) ∧ (s.ignores = [] → ¬ s.skips line) := by
  have hgen := h.not_isGenerated
  have hskips : s.skips line ↔ ∃ p ∈ s.ignores, p.occursIn line := by
    rw [skips, Bool.or_eq_true, Bool.and_eq_true, List.any_eq_true]
    exact or_iff_right fun hs => hgen hs.2
  refine ⟨fun k => ⟨k.pattern, k.ofSource?_source, fun hk => ?_⟩, hskips, fun hnone => ?_⟩
  · exact hgen (Message.isGenerated_iff.2 ⟨k, hk⟩)
  · rw [hskips, hnone]
    simp

/-- One character apart: `fixup! ` opens a generated header and `fixup!: ` a breaking change, which
is skipped where the settings name a pattern of their own for it. -/
theorem skips_of_breaking_fixup :
    let line := "fixup!: Merge tag "
    let own : Pattern :=
      ⟨"^fixup", .seq (.assert .textStart) (Pattern.Expr.literal "fixup".toList .empty)⟩
    let s : Settings := { preset .strict with ignores := [own] }
    Recognized line ∧
      (∀ k : Message.GeneratedHeader,
        ∃ p, Pattern.ofSource? k.source = some p ∧ ¬ p.occursIn line) ∧
      ¬ (preset .strict).skips line ∧ s.skips line ∧
      (preset .strict).skips "fixup! Merge tag " := by
  intro line own s
  have h : Recognized line := .grammar .issueScope (by decide)
  obtain ⟨hpatterns, -, hpreset⟩ := skips_recognized_iff (preset .strict) h
  have hown := (skips_recognized_iff s h).2.1
  exact ⟨h, hpatterns, hpreset rfl, hown.2 ⟨own, List.mem_singleton_self own, by decide⟩, by decide⟩

end Settings

end CommitPolicy
