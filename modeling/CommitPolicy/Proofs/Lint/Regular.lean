import CommitPolicy.Proofs.Lint.Conformance
import CommitPolicy.Proofs.Message.Cleanup
import CommitPolicy.Proofs.Message.Generated
import CommitPolicy.Proofs.Scope.Overrun

namespace CommitPolicy

open Header Message

theorem Header.toNat_of_isWordChar {c : Char} (h : isWordChar c) :
    (48 ≤ c.toNat ∧ c.toNat ≤ 57) ∨ (65 ≤ c.toNat ∧ c.toNat ≤ 90) ∨ c.toNat = 95 ∨
      (97 ≤ c.toNat ∧ c.toNat ≤ 122) := by
  simp only [isWordChar, Char.isAlphanum, Bool.or_eq_true, beq_iff_eq, Text.isAlpha_iff,
    Text.isUpper_iff, Text.isLower_iff, Text.isDigit_iff] at h
  rcases h with ((h | h) | h) | rfl
  · exact .inr (.inl h)
  · exact .inr (.inr (.inr h))
  · exact .inl h
  · exact .inr (.inr (.inl rfl))

theorem Header.isAscii_of_isWordChar {c : Char} (h : isWordChar c) : Text.isAscii c := by
  have hn := toNat_of_isWordChar h
  rw [Text.isAscii, decide_eq_true_eq]
  omega

theorem Header.not_isBlank_of_isWordChar {c : Char} (h : isWordChar c) : ¬ Text.isBlank c := by
  have hn := toNat_of_isWordChar h
  simp only [Text.isBlank, Bool.or_eq_true, Bool.and_eq_true, decide_eq_true_eq, beq_iff_eq]
  omega

theorem Header.Parts.head?_format {p : Parts} (h : p.type ≠ []) :
    p.format.head? = p.type.head? := by
  rw [format_eq, List.head?_append, Option.or_of_isSome (List.isSome_head?.2 h)]

theorem Header.Parts.getLast?_format {p : Parts} (h : p.subject ≠ []) :
    p.format.getLast? = p.subject.getLast? := by
  obtain ⟨start, hformat⟩ := p.exists_format_eq_append
  rw [hformat, List.append_cons, List.getLast?_append,
    Option.or_of_isSome (List.getLast?_isSome.2 h)]

theorem isClean_format {p : Parts} (htype : p.type ≠ []) (hword : ∀ c ∈ p.type, isWordChar c)
    (hscope : ∀ scope ∈ p.scope, Issue.IsIdentifier scope) (hne : p.subject ≠ [])
    (hstop : ∀ c ∈ p.subject.getLast?, ¬ Text.isBlank c) (hnewline : '\n' ∉ p.subject)
    (hcarriage : '\r' ∉ p.subject) : IsClean p.format := by
  have hnot : ∀ c, ¬ isWordChar c → c ∉ ['(', ')', '!', ':', ' '] →
      ¬ (c.isUpper ∨ c = '-' ∨ c.isDigit) → c ∉ p.subject → c ∉ p.format := by
    intro c hw hc hid hs
    rw [Parts.mem_format_iff hc]
    rintro (hm | ⟨scope, hm, hcs⟩ | hm)
    · exact hw (hword c hm)
    · exact (hscope scope hm).not_mem hid hcs
    · exact hs hm
  constructor
  · rw [Parts.head?_format htype]
    obtain ⟨c, hc⟩ := Option.isSome_iff_exists.1 (List.isSome_head?.2 htype)
    have hcw := hword c (List.mem_of_mem_head? hc)
    refine ⟨c, hc, not_isBlank_of_isWordChar hcw, ?_⟩
    rintro rfl
    exact absurd hcw (by decide)
  · rwa [Parts.getLast?_format hne]
  · exact hnot '\n' (by decide) (by decide) (by decide) hnewline
  · exact hnot '\r' (by decide) (by decide) (by decide) hcarriage

namespace Settings

structure PlainType (s : Settings) (type : List Char) : Prop where
  word : ∀ c ∈ type, isWordChar c
  lower : ∀ c ∈ type, ¬ c.isUpper
  letter : ∃ c ∈ type, c.isAlpha
  allowed : String.ofList type ∈ s.types
  bare : type ≠ Revert.keyword.toList

/-- A subject that starts with a small letter and in which no scope could end. -/
structure PlainSubject (subject : List Char) : Prop where
  start : ∃ c ∈ subject.head?, c.isLower
  stop : ∀ c ∈ subject.getLast?, c ≠ '.' ∧ ¬ Text.isBlank c
  newline : '\n' ∉ subject
  carriage : '\r' ∉ subject
  closed : ¬ "): ".toList <:+: subject
  closedBreaking : ¬ ")!: ".toList <:+: subject

structure Plain (s : Settings) (p : Parts) : Prop where
  type : s.PlainType p.type
  scope : ∃ id, p.scope = some id ∧ Issue.IsIdentifier id
  subject : PlainSubject p.subject

inductive Regular (s : Settings) : List Char → Prop where
  | plain {p : Parts} (h : s.Plain p) : Regular s p.format
  | revert {p : Parts} {id : List Char} (breaking : Bool) (hrevert : Revert.keyword ∈ s.types)
      (hid : Issue.IsIdentifier id) (h : s.Plain p) :
      Regular s (Revert.wrap id breaking p.format)

variable {s : Settings} {p : Parts} {header : List Char}

theorem PlainSubject.longestScope? {subject : List Char} (h : PlainSubject subject) :
    longestScope? subject = none := by
  rw [longestScope?_eq_none_iff]
  rintro (_ | _)
  · exact h.closed
  · exact h.closedBreaking

theorem PlainSubject.takenUpper {subject : List Char} (h : PlainSubject subject) :
    TakenUpper subject := by
  rw [takenUpper_iff, h.longestScope?]
  simp

theorem PlainSubject.ne_nil {subject : List Char} (h : PlainSubject subject) : subject ≠ [] := by
  rintro rfl
  obtain ⟨c, hc, -⟩ := h.start
  cases hc

theorem PlainType.ne_nil {type : List Char} (h : s.PlainType type) : type ≠ [] := by
  rintro rfl
  obtain ⟨c, hc, -⟩ := h.letter
  cases hc

theorem PlainSubject.not_isUpper {subject : List Char} (h : PlainSubject subject) :
    ∀ c ∈ subject.head?, ¬ c.isUpper := by
  obtain ⟨c, hc, hl⟩ := h.start
  intro d hd
  obtain rfl := Option.mem_unique hc hd
  exact Char.not_isUpper_of_isLower hl

theorem PlainType.exists_isLower {type : List Char} (h : s.PlainType type) :
    ∃ c ∈ type, c.isLower := by
  obtain ⟨c, hc, ha⟩ := h.letter
  exact ⟨c, hc, (Text.isAlpha_iff.1 ha).resolve_left (h.lower c hc)⟩

theorem PlainType.lowerCase {type : List Char} (h : s.PlainType type) :
    Text.lowerCase type = type :=
  Text.lowerCase_eq_self fun c hc => ⟨isAscii_of_isWordChar (h.word c hc), h.lower c hc⟩

namespace Plain

theorem isIdentifier (h : s.Plain p) : ∀ scope ∈ p.scope, Issue.IsIdentifier scope := by
  obtain ⟨id, hscope, hid⟩ := h.scope
  intro scope hm
  obtain rfl := Option.some.inj (hscope.symm.trans hm)
  exact hid

theorem isClean (h : s.Plain p) : IsClean p.format :=
  isClean_format h.type.ne_nil h.type.word h.isIdentifier h.subject.ne_nil
    (fun c hc => (h.subject.stop c hc).2) h.subject.newline h.subject.carriage

theorem legal (h : s.Plain p) (g : Grammar) : p.Legal g := by
  refine ⟨h.type.word, fun scope hscope => ?_, h.isClean.newline⟩
  cases g with
  | anyScope => exact h.subject.longestScope?
  | issueScope => exact h.isIdentifier scope hscope

theorem dot_not_mem (h : s.Plain p) : '.' ∉ p.subject.getLast? :=
  fun hm => (h.subject.stop '.' hm).1 rfl

/-- Whatever a grammar takes as the subject of the revert of a plain header, it starts and ends like
a plain one. -/
theorem exists_read_wrap (h : s.Plain p) (g : Grammar) {id : List Char} (breaking : Bool)
    (hid : Issue.IsIdentifier id) :
    ∃ q : Parts, q.format = Revert.wrap id breaking p.format ∧
      Parts.ofLine? g q.format = some q ∧ q.type = Revert.keyword.toList ∧
      (∀ c ∈ q.subject.head?, ¬ c.isUpper) ∧ '.' ∉ q.subject.getLast? := by
  cases g with
  | anyScope =>
    obtain ⟨type, _, b, subject⟩ := p
    obtain ⟨id', rfl, -⟩ := h.scope
    have hformat := Revert.wrap_format id type id' subject breaking b
    refine ⟨_, hformat.symm, Parts.ofLine?_format ⟨Revert.keyword_isWord, ?_, ?_⟩, rfl,
      h.subject.not_isUpper, h.dot_not_mem⟩
    · rintro _ ⟨⟩
      exact h.subject.longestScope?
    · rw [← hformat]
      exact Revert.newline_not_mem_wrap breaking (hid.not_mem (by decide)) h.isClean.newline
  | issueScope =>
    refine ⟨_, rfl, Revert.ofLine?_wrap breaking hid h.isClean.newline, rfl, ?_, ?_⟩
    · intro c hc
      rw [Parts.head?_format h.type.ne_nil] at hc
      exact h.type.lower c (List.mem_of_mem_head? hc)
    · rw [Parts.getLast?_format h.subject.ne_nil]
      exact h.dot_not_mem

theorem rule_eq_pass (h : s.Plain p) (v : Variant) :
    ScopePolicy.rule v (ofLine v.grammar (String.ofList p.format)) = .pass := by
  obtain ⟨type, _, b, subject⟩ := p
  obtain ⟨id, rfl, hid⟩ := h.scope
  obtain ⟨hstrict, hflexible⟩ := ScopePolicy.ruling_of_identifier_scope id subject b h.type.word
    h.type.bare hid h.subject.newline
  cases v with
  | flexible => exact hflexible.trans (if_pos h.subject.takenUpper)
  | strict => exact hstrict

theorem rule_wrap_eq_pass (h : s.Plain p) (v : Variant) {id : List Char} (breaking : Bool)
    (hid : Issue.IsIdentifier id) :
    ScopePolicy.rule v (ofLine v.grammar (String.ofList (Revert.wrap id breaking p.format))) =
      .pass := by
  obtain ⟨type, _, b, subject⟩ := p
  obtain ⟨id', rfl, hid'⟩ := h.scope
  exact ScopePolicy.rule_wrap v breaking b hid hid' h.type.word h.type.exists_isLower
    h.subject.newline

end Plain

theorem Regular.isClean (h : s.Regular header) : IsClean header := by
  cases h with
  | plain h => exact h.isClean
  | revert breaking _ hid h =>
    have hinner := h.isClean
    refine isClean_format Revert.keyword_ne_nil Revert.keyword_isWord ?_ hinner.ne_nil hinner.stop
      hinner.newline hinner.carriage
    rintro _ ⟨⟩
    exact hid

theorem Regular.exists_conforms (h : s.Regular header)
    (hlength : header.length ≤ s.headerMaxLength) :
    ∃ p : Parts, p.format = header ∧ Parts.ofLine? s.variant.grammar p.format = some p ∧
      ∀ rest, BodySetOff rest → FooterSetOff header rest → s.Conforms p rest := by
  cases h with
  | @plain p h =>
    exact ⟨p, rfl, Parts.ofLine?_format (h.legal _), fun rest hbody hfooter => ⟨hbody, hfooter,
      hlength, h.subject.not_isUpper, h.dot_not_mem, h.type.lowerCase, fun _ => h.type.allowed,
      h.rule_eq_pass s.variant⟩⟩
  | revert breaking hrevert hid h =>
    have hrule := h.rule_wrap_eq_pass s.variant breaking hid
    obtain ⟨q, hformat, hread, htype, hstart, hstop⟩ :=
      h.exists_read_wrap s.variant.grammar breaking hid
    rw [← hformat] at hrule hlength
    refine ⟨q, hformat, hread, fun rest hbody hfooter => ⟨hbody, hformat ▸ hfooter, hlength, hstart,
      hstop, ?_, fun _ => ?_, hrule⟩⟩
    · rw [htype]
      decide
    · rw [htype, Revert.keyword, String.ofList_toList]
      exact hrevert

theorem Regular.lint_eq_pass (h : s.Regular header) (hignores : s.ignores = [])
    (hlength : header.length ≤ s.headerMaxLength) {text : String} {rest : List (List Char)}
    (hlines : Text.lines (Cleanup.strip.normalize text).toList = header :: rest)
    (hbody : BodySetOff rest) (hfooter : FooterSetOff header rest) :
    s.lint text = ⟨.pass, [], .zero, false⟩ := by
  obtain ⟨p, rfl, hread, hconforms⟩ := h.exists_conforms hlength
  have hnone := (forall_inspect_eq_none_iff hlines hread).2 (hconforms rest hbody hfooter)
  refine evaluate_of_findings_eq_nil ?_ (findings_eq_nil_iff.2 fun c _ => hnone c)
  have hgenerated := not_isGenerated_of_ofLine? hread
  rw [Message.ofText, header_ofClean hlines, raw_ofLine]
  simp [skips, hignores, hgenerated]

/-- A regular header that is not too long passes without findings, on its own and in front of any
text without comments whose footer, if it has one, is set off by an empty line. -/
theorem regular_header_passes (s : Settings) (header : List Char) (h : s.Regular header)
    (hignores : s.ignores = []) (hlength : header.length ≤ s.headerMaxLength) :
    s.lint (String.ofList header) = ⟨.pass, [], .zero, false⟩ ∧
    ∀ rest : String, '\r' ∉ rest.toList →
      (∀ line ∈ Text.lines rest.toList, line.head? ≠ some '#') →
      FooterSetOff header ([] :: Text.lines rest.toList) →
      s.lint (String.ofList header ++ "\n\n" ++ rest) = ⟨.pass, [], .zero, false⟩ := by
  have hclean := h.isClean
  constructor
  · have hlines :
        Text.lines (Cleanup.strip.normalize (String.ofList header)).toList = [header] := by
      rw [Cleanup.normalize_of_isClean hclean, String.toList_ofList, hclean.lines_eq]
    exact h.lint_eq_pass hignores hlength hlines bodySetOff_nil footerSetOff_nil
  · intro rest hcarriage hcomment hfooter
    obtain ⟨kept, hlines, hbody, hfooter⟩ :=
      Cleanup.exists_lines_normalize_append hclean hcarriage hcomment hfooter
    rw [Text.append_emptyLine_append, String.toList_ofList]
    exact h.lint_eq_pass hignores hlength hlines hbody hfooter

theorem revert_of_drop_passes :
    (preset .strict).lint "revert(RCD-2)!: feat(RCD-1): drop (the old) export" =
      ⟨.pass, [], .zero, false⟩ ∧
    (preset .strict).lint
        "revert(RCD-2)!: feat(RCD-1): drop (the old) export\n\nIt broke.\n\nCloses #4\n" =
      ⟨.pass, [], .zero, false⟩ := by
  have hlower : ∀ c ∈ "feat".toList, ¬ c.isUpper := by
    intro c hc
    exact Char.not_isUpper_of_isLower (List.all_eq_true.1 (show "feat".toList.all _ by decide) c hc)
  have htype : (preset .strict).PlainType "feat".toList :=
    ⟨List.all_eq_true.1 (by decide), hlower, ⟨'f', by decide, by decide⟩, by decide, by decide⟩
  have hopen := longestScope?_eq_none_iff.1
    (show longestScope? "drop (the old) export".toList = none by decide)
  have hstop : ∀ c ∈ "drop (the old) export".toList.getLast?, c ≠ '.' ∧ ¬ Text.isBlank c := by
    intro c hc
    obtain rfl : 't' = c := Option.some.inj hc
    decide
  have hsubject : PlainSubject "drop (the old) export".toList :=
    ⟨⟨'d', rfl, by decide⟩, hstop, by decide, by decide, hopen false, hopen true⟩
  have hinner : (preset .strict).Plain
      ⟨"feat".toList, some "RCD-1".toList, false, "drop (the old) export".toList⟩ :=
    ⟨htype, ⟨_, rfl, by decide⟩, hsubject⟩
  have hid : Issue.IsIdentifier "RCD-2".toList := by decide
  have hregular := Regular.revert true (by decide) hid hinner
  obtain ⟨hplain, hmore⟩ := regular_header_passes _ _ hregular rfl (by decide)
  have hbroke := hmore "It broke.\n\nCloses #4\n" (by decide) (by decide) (by decide)
  have hheader : String.ofList (Revert.wrap "RCD-2".toList true
      (Parts.format ⟨"feat".toList, some "RCD-1".toList, false, "drop (the old) export".toList⟩)) =
      "revert(RCD-2)!: feat(RCD-1): drop (the old) export" := by decide
  have htext : "revert(RCD-2)!: feat(RCD-1): drop (the old) export" ++ "\n\n" ++
      "It broke.\n\nCloses #4\n" =
      "revert(RCD-2)!: feat(RCD-1): drop (the old) export\n\nIt broke.\n\nCloses #4\n" := by decide
  rw [hheader] at hplain hbroke
  rw [htext] at hbroke
  exact ⟨hplain, hbroke⟩

end Settings

end CommitPolicy
