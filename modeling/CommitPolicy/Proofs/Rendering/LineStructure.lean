import CommitPolicy.Pattern.Parser
import CommitPolicy.Proofs.Batch.Merge
import CommitPolicy.Proofs.Settings.Resolution
import CommitPolicy.Proofs.Text.Line
import CommitPolicy.Proofs.Text.OneLine
import CommitPolicy.Rendering.Annotation
import CommitPolicy.Rendering.Markdown
import Mathlib.Data.List.SplitBy

namespace CommitPolicy

open Text (Lacks lacks_ofList lineFeeds)

structure View.Item.KeepsLines (i : View.Item) : Prop where
  checkId : ∀ name ∈ i.checkId, Lacks '\n' name
  code : Lacks '\n' i.code
  message : Lacks '\n' i.message
  header : ∃ header, i.header = some header ∧ Lacks '\n' header
  commit : ∀ commit ∈ i.commit, Lacks '\n' commit
  help : ∃ help, i.help = some help ∧ Lacks '\n' help
  url : i.url = none

structure Objection.KeepsLines (o : Objection) (m : Message) : Prop where
  message : Lacks '\n' o.message
  help : Lacks '\n' o.help
  header : (o.data.field? "header").bind Json.text? = some m.header.raw

theorem ScopeReason.lacks_message (r : ScopeReason) : Lacks '\n' r.message := by
  cases r <;> exact lacks_ofList.2 (by decide)

theorem Objection.keepsLines_mk {m : Message} {code : Code} {message help : String} {line : Nat}
    {data : Json} (hmessage : Lacks '\n' message) (hhelp : Lacks '\n' help)
    (hdata : (data.field? "header").bind Json.text? = some m.header.raw) :
    (Objection.mk code message line help data).KeepsLines m :=
  ⟨hmessage, hhelp, hdata⟩

namespace CheckId

variable {c : CheckId} {s : Settings} {m : Message} {o : Objection}

theorem keepsLines_of_inspect (htypes : ∀ type ∈ s.types, Lacks '\n' type)
    (h : c.inspect s m = some o) : o.KeepsLines m := by
  cases c with
  | bodyLeadingBlank =>
    obtain ⟨-, ⟨⟩⟩ := Option.ite_none_right_eq_some.1 h
    exact Objection.keepsLines_mk (lacks_ofList.2 (by decide)) (lacks_ofList.2 (by decide)) rfl
  | footerLeadingBlank =>
    rw [inspect, Check.footerLeadingBlank] at h
    split at h
    · obtain ⟨-, ⟨⟩⟩ := Option.ite_none_right_eq_some.1 h
      exact Objection.keepsLines_mk (lacks_ofList.2 (by decide)) (lacks_ofList.2 (by decide)) rfl
    · cases h
  | headerMaxLength =>
    obtain ⟨-, ⟨⟩⟩ := Option.ite_none_right_eq_some.1 h
    exact Objection.keepsLines_mk (by simp +decide [Text.lacks_repr]) (lacks_ofList.2 (by decide))
      rfl
  | subjectCase =>
    obtain ⟨subject, -, h⟩ := Option.bind_eq_some_iff.1 h
    split at h
    · cases h
    · obtain ⟨⟩ := h
      have hnames : ∀ name ∈ SubjectCase.all.map (·.name), Lacks '\n' name := by decide
      refine Objection.keepsLines_mk (Text.lacks_append.2 ⟨lacks_ofList.2 (by decide), ?_⟩)
        (lacks_ofList.2 (by decide)) rfl
      exact Text.lacks_intercalate (by decide) hnames
  | subjectFullStop =>
    obtain ⟨subject, -, h⟩ := Option.bind_eq_some_iff.1 h
    obtain ⟨-, ⟨⟩⟩ := Option.ite_none_right_eq_some.1 h
    exact Objection.keepsLines_mk (lacks_ofList.2 (by decide)) (lacks_ofList.2 (by decide)) rfl
  | typeCase =>
    obtain ⟨type, -, h⟩ := Option.bind_eq_some_iff.1 h
    obtain ⟨-, ⟨⟩⟩ := Option.ite_none_right_eq_some.1 h
    exact Objection.keepsLines_mk (lacks_ofList.2 (by decide)) (lacks_ofList.2 (by decide)) rfl
  | typeEnum =>
    obtain ⟨type, -, h⟩ := Option.bind_eq_some_iff.1 h
    obtain ⟨-, ⟨⟩⟩ := Option.ite_none_left_eq_some.1 h
    have hjoined : Lacks '\n' (", ".intercalate s.types) :=
      Text.lacks_intercalate (by decide) htypes
    exact Objection.keepsLines_mk (by simp +decide [hjoined]) (lacks_ofList.2 (by decide)) rfl
  | scopeIssueId =>
    rw [inspect, Check.scopeIssueId] at h
    split at h
    · cases h
    · rename_i reason hreason
      obtain ⟨⟩ := h
      exact Objection.keepsLines_mk reason.lacks_message
        (Text.lacks_append.2 ⟨lacks_ofList.2 (by decide), lacks_ofList.2 (by decide)⟩) rfl

end CheckId

namespace Settings

variable {s : Settings} {m : Message}

theorem keepsLines_of_mem_findings (htypes : ∀ type ∈ s.types, Lacks '\n' type)
    (hheader : Lacks '\n' m.header.raw) (hcommit : ∀ commit ∈ m.commit, Lacks '\n' commit)
    {f : Finding} (h : f ∈ s.findings m) : f.item.KeepsLines := by
  obtain ⟨c, policy, o, -, ho, rfl⟩ := exists_objection_of_mem_findings h
  have hlines := CheckId.keepsLines_of_inspect htypes ho
  refine ⟨?_, o.code.lacks_name (by decide), hlines.message, ⟨_, hlines.header, hheader⟩, hcommit,
    ⟨_, rfl, hlines.help⟩, rfl⟩
  rintro _ ⟨⟩
  exact c.lacks_name (by decide)

end Settings

theorem Message.lacks_header_ofText (cleanup : Cleanup) (g : Grammar) (text : String) :
    Lacks '\n' (Message.ofText cleanup g text).header.raw := by
  rw [Message.ofText, Message.ofClean, Header.raw_ofLine]
  cases hlines : Text.linesOf (cleanup.normalize text) with
  | nil => exact List.not_mem_nil
  | cons line lines =>
    have hmem : line ∈ Text.linesOf (cleanup.normalize text) := hlines ▸ List.mem_cons_self
    obtain ⟨cs, hcs, rfl⟩ := List.mem_map.1 hmem
    exact Text.lacks_ofList.2 (Text.newline_not_mem_of_mem_lines hcs)

theorem Submission.lacks_header_message (x : Submission) (g : Grammar) :
    Lacks '\n' (x.message g).header.raw :=
  Message.lacks_header_ofText x.cleanup g x.text

theorem Settings.keepsLines_of_mem_check {s : Settings} {submissions : List Submission}
    {startedAt finishedAt : Timestamp} (htypes : ∀ type ∈ s.types, Lacks '\n' type)
    (hcommits : ∀ x ∈ submissions, ∀ commit ∈ x.commit, Lacks '\n' commit)
    {i : View.Item} (h : i ∈ (s.check submissions startedAt finishedAt).view.items) :
    i.KeepsLines := by
  obtain ⟨f, hf, rfl⟩ := List.mem_map.1 h
  obtain ⟨x, hx, hf⟩ := exists_submission_of_mem_findings hf
  exact keepsLines_of_mem_findings htypes (x.lacks_header_message s.variant.grammar)
    (hcommits x hx) hf

namespace Rendering

variable {v : View}

theorem lacks_number {c : Char} (hc : ¬ c.isDigit) (n : UInt32) : Lacks c (number n) :=
  Text.lacks_repr hc n.toNat

def runs (items : List View.Item) : List (List View.Item) :=
  items.splitBy fun i j => groupOf i == groupOf j

theorem length_splitBy_loop {α : Type} (r : α → α → Bool) (l : List α) (a : α) (g : List α)
    (gs : List (List α)) :
    (List.splitBy.loop r l a g gs).length =
      gs.length + (List.splitBy.loop r l a [] []).length := by
  induction l generalizing a g gs with
  | nil => simp [List.splitBy.loop]
  | cons b l ih =>
    rw [List.splitBy.loop, List.splitBy.loop]
    cases r a b <;> dsimp only
    · rw [ih b [] (_ :: gs), ih b [] [_], List.length_cons, List.length_singleton]
      omega
    · rw [ih b _ gs, ih b [a] [], List.length_nil, Nat.zero_add]

theorem length_runs_cons_cons (i j : View.Item) (items : List View.Item) :
    (runs (i :: j :: items)).length =
      (runs (j :: items)).length + if groupOf i = groupOf j then 0 else 1 := by
  rw [runs, runs, List.splitBy, List.splitBy, List.splitBy.loop]
  by_cases h : groupOf i = groupOf j
  · rw [beq_iff_eq.2 h, if_pos h]
    exact (length_splitBy_loop _ _ _ _ _).trans (Nat.zero_add _)
  · rw [beq_eq_false_iff_ne.2 h, if_neg h]
    exact (length_splitBy_loop _ _ _ _ _).trans (Nat.add_comm _ _)

theorem exists_inputLine? {i : View.Item} (h : i.KeepsLines) :
    ∃ line, (groupOf i).inputLine? = some line ∧ Lacks '\n' line := by
  obtain ⟨header, hheader, hlacks⟩ := h.header
  rw [groupOf, hheader]
  cases hcommit : i.commit with
  | none => exact ⟨_, rfl, by simp +decide [hlacks]⟩
  | some commit => exact ⟨_, rfl, by simp +decide [hlacks, h.commit commit hcommit]⟩

theorem lacks_itemLine {i : View.Item} (h : i.KeepsLines) : Lacks '\n' (itemLine i) := by
  have hsymbol : Lacks '\n' (severitySymbol i.severity) := by
    cases i.severity <;> decide
  rw [itemLine]
  cases hcheck : i.checkId with
  | none => simp +decide [hsymbol, h.message]
  | some name => simp +decide [hsymbol, h.message, h.checkId name hcheck]

theorem lacks_of_mem_itemLines {items : List View.Item} (h : ∀ i ∈ items, i.KeepsLines)
    {previous : Option Group} {line : String} (hline : line ∈ itemLines previous items) :
    Lacks '\n' line := by
  induction items generalizing previous with
  | nil => cases hline
  | cons i items ih =>
    obtain ⟨hi, hitems⟩ := List.forall_mem_cons.1 h
    obtain ⟨input, hinput, hlacks⟩ := exists_inputLine? hi
    rw [itemLines, opening, hinput, List.mem_append, List.mem_cons] at hline
    rcases hline with hline | rfl | hline
    · split at hline
      · cases hline
      · rcases List.mem_append.1 hline with hline | hline
        · split at hline
          · obtain rfl := List.mem_singleton.1 hline
            decide
          · cases hline
        · obtain rfl := List.mem_singleton.1 hline
          exact hlacks
    · exact lacks_itemLine hi
    · exact ih hitems hline

/-- After an item each further item has its line, and each further run an empty line and the line of
its message. -/
theorem length_itemLines_some (i : View.Item) {items : List View.Item}
    (h : ∀ j ∈ items, j.KeepsLines) :
    (itemLines (some (groupOf i)) items).length + 2 =
      items.length + 2 * (runs (i :: items)).length := by
  induction items generalizing i with
  | nil => rfl
  | cons j items ih =>
    obtain ⟨hj, hitems⟩ := List.forall_mem_cons.1 h
    obtain ⟨input, hinput, -⟩ := exists_inputLine? hj
    have hrest := ih j hitems
    rw [itemLines, opening, hinput, length_runs_cons_cons, List.length_append, List.length_cons,
      List.length_cons]
    by_cases hgroup : groupOf i = groupOf j
    · rw [if_pos (congrArg some hgroup), if_pos hgroup, List.length_nil]
      omega
    · rw [if_neg fun he => hgroup (Option.some.inj he), if_neg hgroup]
      simp only [Option.isSome_some, if_true, Option.toList_some, List.length_append,
        List.length_singleton]
      omega

theorem length_itemLines_none {items : List View.Item} (h : ∀ i ∈ items, i.KeepsLines)
    (hne : items ≠ []) :
    (itemLines none items).length + 1 = items.length + 2 * (runs items).length := by
  cases items with
  | nil => exact absurd rfl hne
  | cons i items =>
    obtain ⟨hi, hitems⟩ := List.forall_mem_cons.1 h
    obtain ⟨input, hinput, -⟩ := exists_inputLine? hi
    have hrest := length_itemLines_some i hitems
    rw [itemLines, opening, hinput, if_neg (by simp), List.length_append, List.length_cons,
      List.length_cons]
    simp only [Option.isSome_none, Bool.false_eq_true, if_false, Option.toList_some,
      List.nil_append, List.length_singleton]
    omega

theorem lacks_problemLine (v : View) : Lacks '\n' (problemLine v) := by
  have hsymbol : Lacks '\n' (verdictSymbol v.verdict) := by
    cases v.verdict <;> decide
  simp +decide [problemLine, hsymbol, lacks_number]

structure KeepsLines (s : Report.Summary) : Prop where
  profile : Lacks '\n' s.profile
  variant : Lacks '\n' s.variant

theorem lacks_runLine {s : Report.Summary} (h : KeepsLines s) : Lacks '\n' (runLine s) := by
  simp +decide [runLine, h.profile, h.variant, lacks_number]

theorem lineFeeds_terminal (hsummary : KeepsLines v.summary) (h : ∀ i ∈ v.items, i.KeepsLines) :
    lineFeeds (terminal v) =
      if v.items.length = 0 then 2 else 2 * (runs v.items).length + v.items.length + 2 := by
  have hlines : ∀ line ∈ terminalLines v, Lacks '\n' line := by
    intro line hline
    simp only [terminalLines, List.mem_append, List.mem_cons, List.not_mem_nil, or_false] at hline
    rcases hline with (hline | hline) | rfl | rfl
    · exact lacks_of_mem_itemLines h hline
    · split at hline
      · cases hline
      · obtain rfl := List.mem_singleton.1 hline
        decide
    · exact lacks_problemLine v
    · exact lacks_runLine hsummary
  rw [terminal, Text.lineFeeds_unlines hlines, terminalLines, List.length_append,
    List.length_append]
  cases hitems : v.items with
  | nil => rfl
  | cons i items =>
    have hlength := length_itemLines_none h (hitems ▸ List.cons_ne_nil i items)
    rw [hitems, List.length_cons] at hlength
    rw [if_neg (by simp), List.length_cons, if_neg (by simp)]
    simp only [List.length_cons, List.length_nil]
    omega

namespace Markdown

theorem lacks_titleLine {i : View.Item} (h : i.KeepsLines) : Lacks '\n' (titleLine i) := by
  have hseverity : Lacks '\n' (severityWord i.severity) := by
    cases i.severity <;> decide
  have hcheck : Lacks '\n' (i.checkId.getD "") := by
    cases hcheck : i.checkId with
    | none => decide
    | some name => exact h.checkId name hcheck
  have hplace : Lacks '\n' (", ".intercalate (place i)) := by
    refine Text.lacks_intercalate (by decide) fun s hs => ?_
    simp only [place, List.mem_append, Option.mem_toList, Option.map_eq_some_iff] at hs
    rcases hs with ⟨commit, hcommit, rfl⟩ | ⟨n, -, rfl⟩
    · simp +decide [quoted, h.commit commit hcommit]
    · simp +decide [lacks_number]
  have hnote : Lacks '\n' (placeNote i) := by
    rw [placeNote]
    split
    · decide
    · simp +decide [hplace]
  simp +decide [titleLine, quoted, hseverity, hcheck, hnote, h.code, h.message]

theorem exists_itemLines {i : View.Item} (h : i.KeepsLines) :
    ∃ title header help, itemLines i = [title, header, help] ∧
      Lacks '\n' title ∧ Lacks '\n' header ∧ Lacks '\n' help := by
  obtain ⟨header, hheader, hlacks⟩ := h.header
  obtain ⟨help, hhelp, hlacks'⟩ := h.help
  refine ⟨_, _, _, by rw [itemLines, hheader, hhelp, h.url]; rfl, lacks_titleLine h, ?_, ?_⟩
  · simp +decide [quoted, hlacks]
  · simp +decide [hlacks']

theorem lacks_of_mem_summaryLines (hsummary : KeepsLines v.summary) :
    ∀ line ∈ summaryLines v, Lacks '\n' line := by
  have hverdict : Lacks '\n' (verdictWord v.verdict) := by
    cases v.verdict <;> decide
  simp +decide [summaryLines, quoted, hverdict, hsummary.profile, hsummary.variant, lacks_number]

theorem length_flatMap_itemLines {items : List View.Item} (h : ∀ i ∈ items, i.KeepsLines) :
    (items.flatMap itemLines).length = 3 * items.length := by
  have hthree : ∀ i ∈ items, (itemLines i).length = 3 := by
    intro i hi
    obtain ⟨title, header, help, hlines, -⟩ := exists_itemLines (h i hi)
    rw [hlines]
    rfl
  rw [List.length_flatMap, List.map_congr_left hthree, List.map_const', List.sum_replicate_nat,
    Nat.mul_comm]

end Markdown

theorem lineFeeds_markdown (hsummary : KeepsLines v.summary) (h : ∀ i ∈ v.items, i.KeepsLines) :
    lineFeeds (markdown v) = if v.items.length = 0 then 8 else 9 + 3 * v.items.length := by
  have hlines : ∀ line ∈ Markdown.summaryLines v ++ Markdown.findingLines v, Lacks '\n' line := by
    intro line hline
    rcases List.mem_append.1 hline with hline | hline
    · exact Markdown.lacks_of_mem_summaryLines hsummary line hline
    · rw [Markdown.findingLines] at hline
      split at hline
      · obtain rfl := List.mem_singleton.1 hline
        decide
      · rcases List.mem_cons.1 hline with rfl | hline
        · decide
        rcases List.mem_cons.1 hline with rfl | hline
        · decide
        obtain ⟨i, hi, hline⟩ := List.mem_flatMap.1 hline
        obtain ⟨title, header, help, he, htitle, hheader, hhelp⟩ :=
          Markdown.exists_itemLines (h i hi)
        rw [he] at hline
        simp only [List.mem_cons, List.not_mem_nil, or_false] at hline
        rcases hline with rfl | rfl | rfl <;> assumption
  rw [markdown, Text.lineFeeds_unlines hlines, List.length_append, Markdown.findingLines]
  cases hitems : v.items with
  | nil => rfl
  | cons i items =>
    rw [if_neg (by simp), if_neg (by simp), List.length_cons, List.length_cons,
      Markdown.length_flatMap_itemLines (hitems ▸ h)]
    simp only [Markdown.summaryLines, List.length_cons, List.length_nil]
    omega

namespace Annotation

variable {b : Char}

theorem eq_of_mem_escapeDataChar {c : Char} (hb : b ∉ ['%', '2', '5', '0', 'D', 'A'])
    (h : b ∈ escapeDataChar c) : b = c ∧ c ≠ '\r' ∧ c ≠ '\n' := by
  rw [escapeDataChar.eq_def] at h
  split at h
  · simp_all
  · simp_all
  · simp_all
  · rename_i hreturn hfeed
    exact ⟨List.mem_singleton.1 h, hreturn, hfeed⟩

theorem not_mem_escapeDataChar (hb : b = '\r' ∨ b = '\n') (c : Char) : b ∉ escapeDataChar c := by
  intro h
  obtain ⟨rfl, hreturn, hfeed⟩ :=
    eq_of_mem_escapeDataChar (by rcases hb with rfl | rfl <;> decide) h
  exact hb.elim hreturn hfeed

def separators : List Char := ['\r', '\n', ':', ',']

theorem mem_separators : b ∈ separators ↔ b = '\r' ∨ b = '\n' ∨ b = ':' ∨ b = ',' := by
  simp [separators]

theorem not_mem_escapePropertyChar (hb : b ∈ separators) (c : Char) :
    b ∉ escapePropertyChar c := by
  rw [mem_separators] at hb
  intro h
  rw [escapePropertyChar.eq_def] at h
  split at h
  · rcases hb with rfl | rfl | rfl | rfl <;> simp at h
  · rcases hb with rfl | rfl | rfl | rfl <;> simp at h
  · rename_i hcolon hcomma
    have hplain : b ∉ ['%', '2', '5', '0', 'D', 'A'] := by
      rcases hb with rfl | rfl | rfl | rfl <;> decide
    obtain ⟨rfl, hreturn, hfeed⟩ := eq_of_mem_escapeDataChar hplain h
    exact hb.elim hreturn (·.elim hfeed (·.elim hcolon hcomma))

theorem lacks_escapeData (hb : b = '\r' ∨ b = '\n') (s : String) : Lacks b (escapeData s) := by
  rw [escapeData, Text.lacks_ofList, List.mem_flatMap]
  rintro ⟨c, -, hc⟩
  exact not_mem_escapeDataChar hb c hc

theorem lacks_escapeProperty (hb : b ∈ separators) (s : String) : Lacks b (escapeProperty s) := by
  rw [escapeProperty, Text.lacks_ofList, List.mem_flatMap]
  rintro ⟨c, -, hc⟩
  exact not_mem_escapePropertyChar hb c hc

theorem lacks_of_mem_properties (hb : b ∈ separators) {i : View.Item} {s : String}
    (h : s ∈ properties i) : Lacks b s := by
  obtain ⟨hdigit, hline, htitle⟩ : ¬ b.isDigit ∧ Lacks b "line=" ∧ Lacks b "title=" := by
    rcases mem_separators.1 hb with rfl | rfl | rfl | rfl <;> decide
  simp only [properties, List.mem_append, Option.mem_toList, Option.map_eq_some_iff] at h
  rcases h with ⟨n, -, rfl⟩ | ⟨commit, -, rfl⟩
  · exact Text.lacks_append.2 ⟨hline, lacks_number hdigit n⟩
  · exact Text.lacks_append.2 ⟨htitle, lacks_escapeProperty hb _⟩

theorem lacks_command (hb : b = '\r' ∨ b = '\n') (i : View.Item) : Lacks b (command i) := by
  have hlevel : Lacks b (level i.severity) := by
    rcases hb with rfl | rfl <;> cases i.severity <;> decide
  have hproperties : Lacks b (",".intercalate (properties i)) :=
    Text.lacks_intercalate (by rcases hb with rfl | rfl <;> decide)
      fun s hs => lacks_of_mem_properties (by rcases hb with rfl | rfl <;> decide) hs
  have hdata := lacks_escapeData hb (text i)
  rw [command]
  split <;> rcases hb with rfl | rfl <;> simp +decide [hlevel, hproperties, hdata]

end Annotation

theorem annotations_eq_take_min (v : View) (limit : Nat) :
    annotations v limit = (v.items.map Annotation.command).take (min limit v.items.length) := by
  rw [annotations, List.take_eq_take_min, List.length_map]

end Rendering

open Rendering

theorem Settings.Profile.lacks_name (p : Settings.Profile) : Lacks '\n' p.name := by
  cases p <;> decide

theorem Variant.lacks_name (v : Variant) : Lacks '\n' v.name := by
  cases v <;> decide

theorem Settings.keepsLines_summary [Pattern.Compiler] {config : String} {o : Overrides} {s : Settings}
    (h : ofFile config o = .ok s) (results : List LintResult) : KeepsLines (s.summary results) := by
  rw [ofFile] at h
  split at h
  · cases h
  · rename_i d hd
    cases hresolve : resolve d o with
    | error e =>
      rw [hresolve] at h
      cases h
    | ok s' =>
      rw [hresolve] at h
      cases h
      obtain ⟨p, hp, hanswers⟩ := answers_of_resolve hresolve
      refine ⟨?_, s.variant.lacks_name⟩
      show Lacks '\n' s.profile
      rw [hanswers.profile, ← hp]
      exact p.lacks_name

/-- The number of lines of a report depends on its findings and on the runs in which they are about
one message, and on nothing that a message says. -/
theorem lineFeeds_of_checkMessages [Pattern.Compiler] {config : String} {o : Settings.Overrides}
    {s : Settings} (hs : Settings.ofFile config o = .ok s)
    (htypes : ∀ type ∈ s.types, Lacks '\n' type) {submissions : List Submission}
    (hcommits : ∀ x ∈ submissions, ∀ commit ∈ x.commit, Lacks '\n' commit)
    (startedAt finishedAt : Timestamp) :
    ∃ r, checkMessages config o submissions startedAt finishedAt = .ok r ∧
      lineFeeds (terminal r.view) =
        (if r.findings.length = 0 then 2
          else 2 * (runs r.view.items).length + r.findings.length + 2) ∧
      lineFeeds (markdown r.view) =
        (if r.findings.length = 0 then 8 else 9 + 3 * r.findings.length) ∧
      (∀ limit, annotations r.view limit =
        (r.view.items.map Annotation.command).take (min limit r.findings.length)) ∧
      ∀ (v : View) (limit : Nat), ∀ a ∈ annotations v limit, Lacks '\r' a ∧ Lacks '\n' a := by
  have hitems : ∀ i ∈ (s.check submissions startedAt finishedAt).view.items, i.KeepsLines :=
    fun i hi => s.keepsLines_of_mem_check htypes hcommits hi
  have hsummary : KeepsLines (s.check submissions startedAt finishedAt).view.summary :=
    Settings.keepsLines_summary hs _
  have hlength : (s.check submissions startedAt finishedAt).view.items.length =
      (s.check submissions startedAt finishedAt).findings.length := List.length_map _
  refine ⟨_, checkMessages_eq_ok hs submissions startedAt finishedAt, ?_, ?_, ?_, ?_⟩
  · rw [lineFeeds_terminal hsummary hitems, hlength]
  · rw [lineFeeds_markdown hsummary hitems, hlength]
  · intro limit
    rw [annotations_eq_take_min, hlength]
  · intro v limit a ha
    obtain ⟨i, -, rfl⟩ := List.mem_map.1 (List.mem_of_mem_take ha)
    constructor
    · exact Annotation.lacks_command (.inl rfl) i
    · exact Annotation.lacks_command (.inr rfl) i

/-- Two messages that try to end their line and to write lines of a report. -/
theorem lineFeeds_of_forged_messages :
    let config := "header_max_length = 10"
    let s : Settings := { Settings.preset .flexible with headerMaxLength := 10 }
    let forged : List Submission :=
      [⟨some "abc1234", "feat: Add export\r\n::error::x", .whitespace⟩,
        ⟨none, "feat: add\n\n✖   found 0 problems", .strip⟩]
    Settings.ofFile config default = .ok s ∧
    (∀ type ∈ s.types, Lacks '\n' type) ∧
    (∀ x ∈ forged, ∀ commit ∈ x.commit, Lacks '\n' commit) ∧
    ∃ r, checkMessages config default forged default default = .ok r ∧
      lineFeeds (terminal r.view) = 11 ∧ lineFeeds (markdown r.view) = 24 ∧
      (annotations r.view 3).length = 3 ∧
      ∀ a ∈ annotations r.view 3, Lacks '\r' a ∧ Lacks '\n' a := by
  intro config s forged
  have hdocument : Settings.Document.ofFile? config =
      some { Settings.Document.empty with headerMaxLength := some 10 } := by decide +kernel
  have hs : Settings.ofFile config default = .ok s := by
    rw [Settings.ofFile, hdocument]
    rfl
  have htypes : ∀ type ∈ s.types, Lacks '\n' type := by decide
  have hcommits : ∀ x ∈ forged, ∀ commit ∈ x.commit, Lacks '\n' commit := by decide
  have hcount : (s.check forged default default).findings.length = 5 := by decide +kernel
  have hruns : (runs (s.check forged default default).view.items).length = 2 := by decide +kernel
  obtain ⟨r, hr, hterminal, hmarkdown, hannotations, hbroken⟩ :=
    lineFeeds_of_checkMessages hs htypes hcommits default default
  obtain rfl : s.check forged default default = r := by
    rw [checkMessages_eq_ok hs] at hr
    exact Except.ok.inj hr
  rw [hcount, hruns] at hterminal
  rw [hcount] at hmarkdown
  refine ⟨hs, htypes, hcommits, _, hr, hterminal, hmarkdown, ?_, hbroken _ 3⟩
  rw [hannotations 3, List.length_take, List.length_map, Report.view, List.length_map, hcount]
  rfl

end CommitPolicy
