import CommitPolicy.Proofs.Header.Pattern
import CommitPolicy.Proofs.Scope.Revert

namespace CommitPolicy.Header.Revert

def IsWrapped (line : List Char) : Prop :=
  '\n' ∉ line ∧ ∃ id breaking header, Issue.IsIdentifier id ∧ line = wrap id breaking header

def layer (r : Revert) : List Char × Bool := (r.issue.toList, r.breaking)

/-- Reverts are taken off the line, each from the header that the one before it wraps, until the
header that is left is no revert. -/
inductive Unwraps : String → List Revert → String → Prop where
  | stop {line : String} (h : ofLine? line = none) : Unwraps line [] line
  | next {line header : String} {r : Revert} {rs : List Revert} (h : ofLine? line = some r)
      (hrest : Unwraps r.reverted.raw rs header) : Unwraps line (r :: rs) header

variable {line header : String} {r : Revert} {rs : List Revert}

theorem eq_wrap_of_ofLine? (h : ofLine? line = some r) :
    Issue.IsIdentifier r.issue.toList ∧ '\n' ∉ line.toList ∧
      r.reverted = ofLine .issueScope r.reverted.raw ∧
      line.toList = wrap r.issue.toList r.breaking r.reverted.raw.toList := by
  obtain ⟨id, b, inner, hread, rfl⟩ := ofLine?_eq_some_iff.1 h
  obtain ⟨hformat, hlegal⟩ := Parts.ofLine?_eq_some_iff.1 hread
  have hid : Issue.IsIdentifier id := hlegal.scope id rfl
  rw [raw_ofLine, String.toList_ofList, String.toList_ofList]
  exact ⟨hid, hformat ▸ hlegal.line, rfl, hformat.symm⟩

theorem ofLine?_ofList_wrap {id inner : List Char} (breaking : Bool) (hid : Issue.IsIdentifier id)
    (hinner : '\n' ∉ inner) : ofLine? (String.ofList (wrap id breaking inner)) =
      some ⟨String.ofList id, breaking, ofLine .issueScope (String.ofList inner)⟩ := by
  refine ofLine?_eq_some_iff.2 ⟨id, breaking, inner, ?_, rfl⟩
  rw [String.toList_ofList, ofLine?_wrap breaking hid hinner]

theorem newline_not_mem_of_wrap {id header : List Char} {breaking : Bool}
    (h : '\n' ∉ wrap id breaking header) : '\n' ∉ header := by
  rw [wrap, Parts.newline_mem_format_iff keyword_isWord, not_or] at h
  exact h.2

theorem isSome_ofLine?_iff : (ofLine? line).isSome ↔ IsWrapped line.toList := by
  constructor
  · intro h
    obtain ⟨r, hr⟩ := Option.isSome_iff_exists.1 h
    obtain ⟨hid, hnewline, -, hline⟩ := eq_wrap_of_ofLine? hr
    exact ⟨hnewline, _, _, _, hid, hline⟩
  · rintro ⟨hnewline, id, b, header, hid, hline⟩
    rw [hline] at hnewline
    have hread := ofLine?_ofList_wrap b hid (newline_not_mem_of_wrap hnewline)
    rw [← hline, String.ofList_toList] at hread
    exact Option.isSome_of_eq_some hread

instance (line : List Char) : Decidable (IsWrapped line) :=
  decidable_of_iff ((ofLine? (String.ofList line)).isSome) (by
    rw [isSome_ofLine?_iff, String.toList_ofList])

theorem wrap_eq (id header : List Char) (breaking : Bool) :
    wrap id breaking header =
      keyword.toList ++ '(' :: (id ++ ')' :: separated breaking header) := by
  rw [wrap, Parts.format_eq, Parts.afterType]

theorem ofList_wrap (id header : List Char) (breaking : Bool) :
    String.ofList (wrap id breaking header) =
      "revert(" ++ String.ofList id ++ ")" ++ (if breaking then "!" else "") ++ ": " ++
        String.ofList header := by
  apply String.toList_inj.1
  cases breaking <;> simp [wrap, Parts.format, keyword]

theorem length_reverted_lt (h : ofLine? line = some r) : r.reverted.raw.length < line.length := by
  obtain ⟨-, -, -, hline⟩ := eq_wrap_of_ofLine? h
  rw [← String.length_toList, ← String.length_toList, hline, wrap_eq,
    separated_eq_append]
  simp only [List.length_append, List.length_cons]
  omega

theorem exists_unwraps (line : String) : ∃ rs header, Unwraps line rs header := by
  induction hn : line.length using Nat.strong_induction_on generalizing line with
  | _ n ih =>
    cases h : ofLine? line with
    | none => exact ⟨[], line, .stop h⟩
    | some r =>
      obtain ⟨rs, header, hrest⟩ := ih _ (hn ▸ length_reverted_lt h) r.reverted.raw rfl
      exact ⟨r :: rs, header, .next h hrest⟩

theorem Unwraps.unique (h : Unwraps line rs header) {rs' : List Revert} {header' : String}
    (h' : Unwraps line rs' header') : rs = rs' ∧ header = header' := by
  induction h generalizing rs' with
  | stop hnone =>
    cases h' with
    | stop => exact ⟨rfl, rfl⟩
    | next hsome => simp [hnone] at hsome
  | next hsome _ ih =>
    cases h' with
    | stop hnone => simp [hnone] at hsome
    | next hsome' hrest =>
      obtain rfl := Option.some.inj (hsome.symm.trans hsome')
      obtain ⟨rfl, rfl⟩ := ih hrest
      exact ⟨rfl, rfl⟩

theorem Unwraps.eq_wrapAll (h : Unwraps line rs header) :
    line.toList = wrapAll (rs.map layer) header.toList := by
  induction h with
  | stop => rfl
  | next hsome _ ih =>
    obtain ⟨-, -, -, hline⟩ := eq_wrap_of_ofLine? hsome
    rw [hline, ih]
    rfl

theorem unwraps_wrapAll {layers : List (List Char × Bool)} {inner : List Char}
    (hlayers : ∀ layer ∈ layers, Issue.IsIdentifier layer.1) (hinner : '\n' ∉ inner)
    (hlast : ¬ IsWrapped inner) :
    ∃ rs, Unwraps (String.ofList (wrapAll layers inner)) rs (String.ofList inner) ∧
      rs.map layer = layers := by
  induction layers with
  | nil =>
    have hnone : ofLine? (String.ofList inner) = none := by
      rwa [← Option.not_isSome_iff_eq_none, isSome_ofLine?_iff, String.toList_ofList]
    exact ⟨[], .stop hnone, rfl⟩
  | cons outer layers ih =>
    obtain ⟨hid, hrest⟩ := List.forall_mem_cons.1 hlayers
    obtain ⟨rs, hunwraps, hmap⟩ := ih hrest
    have hread := ofLine?_ofList_wrap outer.2 hid (newline_not_mem_wrapAll hrest hinner)
    refine ⟨_ :: rs, .next hread ?_, ?_⟩
    · rwa [raw_ofLine]
    · rw [List.map_cons, hmap, layer, String.toList_ofList]

section Pattern

open CommitPolicy.Pattern

def pattern : Pattern where
  source := "^revert\\((?P<scope>[A-Z]+-[0-9]+)\\)(?P<breaking>!)?: (?P<inner>.*)$"
  expr := .seq (.assert .textStart) <| Expr.literal keyword.toList <| .seq (.set (.char '(')) <|
    .seq (.seq (.repeated (.set keySet) 1 none) <| .seq (.set (.char '-')) <|
      .seq (.repeated (.set numberSet) 1 none) .empty) <|
    .seq (.set (.char ')')) groupedSeparatedExpr

theorem ofSource?_pattern : Pattern.ofSource? pattern.source = some pattern := by
  rfl

theorem occursIn_pattern : pattern.occursIn line ↔ (ofLine? line).isSome := by
  have hscope : pattern.occursIn line ↔
      (Expr.literal keyword.toList (scopeThen separatedExpr)).MatchesBetween [] line.toList := by
    simp only [Pattern.occursIn, pattern, scopeThen, Expr.occursIn_textStart_iff,
      Expr.matchesBetween_literal, Expr.matchesBetween_seq_seq, Expr.matchesBetween_seq_empty,
      Expr.matchesBetween_seq_set, Expr.matchesBetween_seq_repeated_set,
      matchesBetween_groupedSeparatedExpr]
  rw [hscope, isSome_ofLine?_iff]
  simp only [Expr.matchesBetween_literal, matchesBetween_scopeThen, matchesBetween_separatedExpr]
  constructor
  · rintro ⟨_, hline, id, _, rfl, hid, b, header, rfl, hheader⟩
    rw [← wrap_eq] at hline
    have hnewline := newline_not_mem_wrap b (hid.not_mem (by decide)) hheader
    exact ⟨hline ▸ hnewline, id, b, header, hid, hline⟩
  · rintro ⟨hnewline, id, b, header, hid, hline⟩
    rw [hline] at hnewline
    exact ⟨_, hline.trans (wrap_eq id header b), id, _, rfl, hid, b, header, rfl,
      newline_not_mem_of_wrap hnewline⟩

end Pattern

/-- A header that is no revert, wrapped in any layers, is unwrapped to the header and the layers in
their order. A revert is its line cut into parts, of which the wrapped header is read with the
issue-scope grammar and shorter than the line, so every line is unwrapped, in one way, and put
together again from what it is unwrapped to. The reverts are the lines of the pattern. -/
theorem unwraps_layers :
    (∀ (layers : List (List Char × Bool)) (inner : List Char),
      (∀ layer ∈ layers, Issue.IsIdentifier layer.1) → '\n' ∉ inner → ¬ IsWrapped inner →
      ∃ rs, Unwraps (String.ofList (wrapAll layers inner)) rs (String.ofList inner) ∧
        rs.map layer = layers) ∧
    (∀ (raw : String) (r : Revert), ofLine? raw = some r →
      raw = "revert(" ++ r.issue ++ ")" ++ (if r.breaking then "!" else "") ++ ": " ++
        r.reverted.raw ∧
      r.reverted = ofLine .issueScope r.reverted.raw ∧ r.reverted.raw.length < raw.length) ∧
    (∀ raw : String, ∃! unwrapped : List Revert × String, Unwraps raw unwrapped.1 unwrapped.2) ∧
    (∀ (raw : String) (rs : List Revert) (header : String), Unwraps raw rs header →
      raw.toList = wrapAll (rs.map layer) header.toList) ∧
    ∃ p, Pattern.ofSource? pattern.source = some p ∧
      ∀ raw, p.occursIn raw ↔ (ofLine? raw).isSome := by
  refine ⟨fun layers inner => unwraps_wrapAll, ?_, ?_, fun raw rs header h => h.eq_wrapAll,
    pattern, ofSource?_pattern, fun raw => occursIn_pattern⟩
  · intro raw r h
    obtain ⟨-, -, hreverted, hline⟩ := eq_wrap_of_ofLine? h
    have hraw := congrArg String.ofList hline
    rw [ofList_wrap, String.ofList_toList, String.ofList_toList, String.ofList_toList] at hraw
    exact ⟨hraw, hreverted, length_reverted_lt h⟩
  · intro raw
    obtain ⟨rs, header, h⟩ := exists_unwraps raw
    refine ⟨(rs, header), h, ?_⟩
    rintro ⟨rs', header'⟩ h'
    obtain ⟨rfl, rfl⟩ := h.unique h'
    rfl

/-- The innermost header starts like one more revert, but what it has as its scope is no
identifier. -/
theorem unwraps_layers_of_two_reverts :
    let layers := [("RCD-3".toList, false), ("RCD-2".toList, true)]
    let inner := "revert(core): revert(RCD-1): x"
    let line := "revert(RCD-3): revert(RCD-2)!: revert(core): revert(RCD-1): x"
    (∀ layer ∈ layers, Issue.IsIdentifier layer.1) ∧ ¬ IsWrapped inner.toList ∧
      (∃ rs, Unwraps line rs inner ∧ rs.map layer = layers) ∧
      ∃ r, ofLine? line = some r ∧ r.reverted.raw.length < line.length := by
  intro layers inner line
  have hlayers : ∀ layer ∈ layers, Issue.IsIdentifier layer.1 := by decide
  have hinner : ¬ IsWrapped inner.toList := by decide
  have hline : String.ofList (wrapAll layers inner.toList) = line := by decide
  obtain ⟨rs, hunwraps, hmap⟩ :=
    unwraps_layers.1 layers inner.toList hlayers (by decide) hinner
  rw [hline, String.ofList_toList] at hunwraps
  have hsome : (ofLine? line).isSome := by decide
  obtain ⟨r, hr⟩ := Option.isSome_iff_exists.1 hsome
  exact ⟨hlayers, hinner, ⟨rs, hunwraps, hmap⟩, r, hr, (unwraps_layers.2.1 line r hr).2.2⟩

end CommitPolicy.Header.Revert
