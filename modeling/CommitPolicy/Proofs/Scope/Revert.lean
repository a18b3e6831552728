import CommitPolicy.Proofs.Scope.DecisionTable
import CommitPolicy.Proofs.Text.LetterCase

namespace CommitPolicy

open Header

namespace Header.Revert

def wrapAll (layers : List (List Char × Bool)) (header : List Char) : List Char :=
  layers.foldr (fun layer inner => wrap layer.1 layer.2 inner) header

theorem wrap_inj {x x' header header' : List Char} {breaking breaking' : Bool} (hx : ')' ∉ x)
    (hx' : ')' ∉ x') (h : wrap x breaking header = wrap x' breaking' header') :
    x = x' ∧ breaking = breaking' ∧ header = header' :=
  (Parts.format_inj_scope keyword_isWord keyword_isWord hx hx' h).2

theorem newline_not_mem_wrap {x header : List Char} (breaking : Bool) (hx : '\n' ∉ x)
    (hheader : '\n' ∉ header) : '\n' ∉ wrap x breaking header := by
  rw [wrap]
  exact Parts.newline_not_mem_format breaking keyword_isWord hx hheader

theorem newline_not_mem_wrapAll {layers : List (List Char × Bool)} {header : List Char}
    (hlayers : ∀ layer ∈ layers, Issue.IsIdentifier layer.1) (hheader : '\n' ∉ header) :
    '\n' ∉ wrapAll layers header := by
  induction layers with
  | nil => exact hheader
  | cons layer layers ih =>
    obtain ⟨hid, hrest⟩ := List.forall_mem_cons.1 hlayers
    exact newline_not_mem_wrap _ (hid.not_mem (by decide)) (ih hrest)

theorem wrapsScoped_wrap_iff {x y type subject : List Char} {b b' : Bool} (hx : ')' ∉ x)
    (hy : ')' ∉ y) (ht : ∀ c ∈ type, isWordChar c) (hs : '\n' ∉ subject) :
    WrapsScoped (wrap x b (Parts.format ⟨type, some y, b', subject⟩)) ↔
      Issue.IsIdentifier x ∧ Issue.IsIdentifier y := by
  constructor
  · rintro ⟨id, _, type', id', _, _, hid, ht', hid', -, h⟩
    obtain ⟨rfl, -, h⟩ := wrap_inj hx (hid.not_mem (by decide)) h
    obtain ⟨-, rfl, -⟩ := Parts.format_inj_scope ht ht' hy (hid'.not_mem (by decide)) h
    exact ⟨hid, hid'⟩
  · rintro ⟨hid, hid'⟩
    exact ⟨x, b, type, y, b', subject, hid, ht, hid', hs, rfl⟩

theorem wrap_format (x type y subject : List Char) (b b' : Bool) :
    wrap x b (Parts.format ⟨type, some y, b', subject⟩) =
      Parts.format ⟨keyword.toList, some (x ++ ')' :: separated b (type ++ '(' :: y)), b',
        subject⟩ := by
  rw [wrap, Parts.format_eq, Parts.format_eq, Parts.afterType, Parts.afterType, Parts.format_eq,
    Parts.afterType, separated_eq_append b (type ++ '(' :: y), separated_eq_append b (_ ++ _)]
  simp

theorem exists_scope_of_wrap {x y type subject : List Char} (b b' : Bool)
    (hx : '\n' ∉ x) (hinner : '\n' ∉ Parts.format ⟨type, some y, b', subject⟩) :
    ∃ scope b₀ subject₀, type ⊆ scope ∧
      Parts.ofLine? .anyScope (wrap x b (Parts.format ⟨type, some y, b', subject⟩)) =
        some ⟨keyword.toList, some scope, b₀, subject₀⟩ := by
  obtain ⟨scope, b₀, subject₀, hpre, hs⟩ :=
    exists_longestScope? (x ++ ')' :: separated b (type ++ '(' :: y)) b' subject
  have hline := newline_not_mem_wrap b hx hinner
  rw [wrap_format] at hline ⊢
  refine ⟨scope, b₀, subject₀, ?_,
    Parts.ofLine?_anyScope_of_longestScope? keyword_isWord hline hs⟩
  intro c hc
  apply hpre.subset
  rw [separated_eq_append]
  simp [hc]

theorem ofLine?_wrap_eq_none {x header : List Char} {b : Bool} (hx : ')' ∉ x)
    (hid : ¬ Issue.IsIdentifier x) : Parts.ofLine? .issueScope (wrap x b header) = none := by
  cases h : Parts.ofLine? .issueScope (wrap x b header) with
  | none => rfl
  | some p =>
    obtain ⟨hformat, hlegal⟩ := Parts.ofLine?_eq_some_iff.1 h
    obtain ⟨type, scope, b', subject⟩ := p
    cases scope with
    | none => exact absurd hformat (Parts.format_unscoped_ne_scoped hlegal.type keyword_isWord)
    | some id =>
      have hid' : Issue.IsIdentifier id := hlegal.scope id rfl
      obtain ⟨-, rfl, -⟩ := Parts.format_inj_scope hlegal.type keyword_isWord
        (hid'.not_mem (by decide)) hx hformat
      exact absurd hid' hid

end Header.Revert

namespace ScopePolicy

open Header.Revert

/-- The revert of a header with a small letter in its type never has an upper-case scope, so the
ruling hangs on whether it wraps a header with an issue scope. -/
theorem flexible_wrap_of_lower {x y type subject : List Char} (b b' : Bool) (hx : '\n' ∉ x)
    (hinner : '\n' ∉ Parts.format ⟨type, some y, b', subject⟩) (hlower : ∃ c ∈ type, c.isLower) :
    flexible (ofLine .anyScope
        (String.ofList (wrap x b (Parts.format ⟨type, some y, b', subject⟩)))) =
      if WrapsScoped (wrap x b (Parts.format ⟨type, some y, b', subject⟩)) then .pass
      else .fail .notUppercase := by
  obtain ⟨scope, b₀, subject₀, hsub, hp⟩ := exists_scope_of_wrap b b' hx hinner
  obtain ⟨c, hc, hl⟩ := hlower
  have hu : Text.upperCase scope ≠ scope := Text.upperCase_ne_self (hsub hc) hl
  rw [flexible_ofLine, tabulated, String.toList_ofList, hp]
  exact if_pos hu

theorem flexible_wrap {x y type subject : List Char} (b b' : Bool) (hx : ')' ∉ x) (hx' : '\n' ∉ x)
    (hy : ')' ∉ y) (hy' : '\n' ∉ y) (ht : ∀ c ∈ type, isWordChar c)
    (hlower : ∃ c ∈ type, c.isLower) (hs : '\n' ∉ subject) :
    flexible (ofLine .anyScope
        (String.ofList (wrap x b (Parts.format ⟨type, some y, b', subject⟩)))) =
      if Issue.IsIdentifier x ∧ Issue.IsIdentifier y then .pass else .fail .notUppercase := by
  have hinner := Parts.newline_not_mem_format b' ht hy' hs
  rw [flexible_wrap_of_lower b b' hx' hinner hlower]
  simp only [wrapsScoped_wrap_iff hx hy ht hs]

theorem strict_wrap {x header : List Char} (b : Bool) (hx : ')' ∉ x) (hheader : '\n' ∉ header) :
    strict (ofLine .issueScope (String.ofList (wrap x b header))) =
      if Issue.IsIdentifier x then .pass else .fail .notIssueId := by
  by_cases hid : Issue.IsIdentifier x
  · have hp := ofLine?_wrap b hid hheader
    rw [← String.toList_ofList (l := wrap x b header)] at hp
    have hocc : Issue.occursIn x := Issue.occursIn_iff.2 hid.occurs
    rw [if_pos hid, ofLine_of_some hp, strict, ofParts]
    simp [hocc]
  · have hp : Parts.ofLine? .issueScope (wrap x b header) = none := ofLine?_wrap_eq_none hx hid
    rw [← String.toList_ofList (l := wrap x b header)] at hp
    rw [if_neg hid, ofLine_of_none hp, strict, unstructured, Shape.ofLine_of_none hp]
    rfl

theorem flexible_wrapAll {layers : List (List Char × Bool)} {y type subject : List Char} (b : Bool)
    (hne : layers ≠ []) (hlayers : ∀ layer ∈ layers, Issue.IsIdentifier layer.1)
    (hy : Issue.IsIdentifier y) (ht : ∀ c ∈ type, isWordChar c) (hlower : ∃ c ∈ type, c.isLower)
    (hs : '\n' ∉ subject) :
    flexible (ofLine .anyScope
      (String.ofList (wrapAll layers (Parts.format ⟨type, some y, b, subject⟩)))) = .pass := by
  have hclose : ∀ {id}, Issue.IsIdentifier id → ')' ∉ id := fun h => h.not_mem (by decide)
  have hline : ∀ {id}, Issue.IsIdentifier id → '\n' ∉ id := fun h => h.not_mem (by decide)
  cases layers with
  | nil => exact absurd rfl hne
  | cons layer layers =>
    obtain ⟨hid, hrest⟩ := List.forall_mem_cons.1 hlayers
    cases layers with
    | nil =>
      have h := flexible_wrap layer.2 b (hclose hid) (hline hid) (hclose hy) (hline hy) ht hlower hs
      rwa [if_pos ⟨hid, hy⟩] at h
    | cons layer' layers =>
      -- The next layer is itself a header with an issue scope, of type `revert`.
      obtain ⟨hid', hrest'⟩ := List.forall_mem_cons.1 hrest
      have hinner := newline_not_mem_wrapAll hrest' (Parts.legal_issueScope b ht hy hs).line
      have h := flexible_wrap layer.2 layer'.2 (hclose hid) (hline hid) (hclose hid') (hline hid')
        keyword_isWord ⟨'r', by decide, by decide⟩ hinner
      rwa [if_pos ⟨hid, hid'⟩] at h

theorem strict_wrapAll {layers : List (List Char × Bool)} {header : List Char}
    (hne : layers ≠ []) (hlayers : ∀ layer ∈ layers, Issue.IsIdentifier layer.1)
    (hheader : '\n' ∉ header) :
    strict (ofLine .issueScope (String.ofList (wrapAll layers header))) = .pass := by
  cases layers with
  | nil => exact absurd rfl hne
  | cons layer layers =>
    obtain ⟨hid, hrest⟩ := List.forall_mem_cons.1 hlayers
    have h := strict_wrap layer.2 (hid.not_mem (by decide)) (newline_not_mem_wrapAll hrest hheader)
    rwa [if_pos hid] at h

/-- The ruling on a revert hangs on its identifiers and on nothing else: under the flexible variant
on both of them, under the strict variant on the outer one. Neither breaking markers nor the
subject matter, and reverts of reverts are accepted at any depth. -/
theorem revert_ruled_by_identifiers (x y type subject : List Char) (b b' : Bool)
    (hx : ')' ∉ x ∧ '\n' ∉ x) (hy : ')' ∉ y ∧ '\n' ∉ y) (ht : ∀ c ∈ type, isWordChar c)
    (hlower : ∃ c ∈ type, c.isLower) (hs : '\n' ∉ subject) :
    let header := Parts.format ⟨type, some y, b', subject⟩
    let line := String.ofList (wrap x b header)
    flexible (ofLine .anyScope line) =
        (if Issue.IsIdentifier x ∧ Issue.IsIdentifier y then .pass else .fail .notUppercase) ∧
      strict (ofLine .issueScope line) =
        (if Issue.IsIdentifier x then .pass else .fail .notIssueId) ∧
      (Issue.IsIdentifier y → ∀ layers ≠ [], (∀ layer ∈ layers, Issue.IsIdentifier layer.1) →
        flexible (ofLine .anyScope (String.ofList (wrapAll layers header))) = .pass ∧
        strict (ofLine .issueScope (String.ofList (wrapAll layers header))) = .pass) := by
  intro header line
  have hheader := Parts.newline_not_mem_format b' ht hy.2 hs
  refine ⟨flexible_wrap b b' hx.1 hx.2 hy.1 hy.2 ht hlower hs, strict_wrap b hx.1 hheader, ?_⟩
  intro hid layers hne hlayers
  exact ⟨flexible_wrapAll b' hne hlayers hid ht hlower hs, strict_wrapAll hne hlayers hheader⟩

/-- The subject of the wrapped header looks like the end of another scope. -/
theorem revert_of_export_ruled_by_identifiers :
    flexible (ofLine .anyScope "revert(RCD-2)!: feat(RCD-1): drop (the old): export") = .pass ∧
      strict (ofLine .issueScope "revert(RCD-2)!: feat(RCD-1): drop (the old): export") = .pass ∧
      flexible (ofLine .anyScope
        "revert(RCD-3): revert(RCD-2)!: feat(RCD-1): drop (the old): export") = .pass := by
  have hword : ∀ c ∈ "feat".toList, isWordChar c := List.all_eq_true.1 (by decide)
  obtain ⟨hf, hs, hall⟩ := revert_ruled_by_identifiers "RCD-2".toList "RCD-1".toList "feat".toList
    "drop (the old): export".toList true false (by decide) (by decide) hword
    ⟨'f', by decide, by decide⟩ (by decide)
  rw [if_pos (by decide)] at hf hs
  have hlayers := hall (by decide) [("RCD-3".toList, false), ("RCD-2".toList, true)] (by decide)
    (by decide)
  exact ⟨hf, hs, hlayers.1⟩

end ScopePolicy

end CommitPolicy
