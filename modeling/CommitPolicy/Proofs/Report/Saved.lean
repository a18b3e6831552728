import CommitPolicy.Pattern.Parser
import CommitPolicy.Proofs.Batch.Merge
import CommitPolicy.Proofs.Json.Depth
import CommitPolicy.Proofs.Report.RoundTrip
import CommitPolicy.Proofs.Settings.Resolution
import CommitPolicy.Rendering.Annotation
import CommitPolicy.Rendering.Markdown

namespace CommitPolicy

open Report (maxDataDepth)

namespace Json

theorem Fits.mono {n k : Nat} {v : Json} (h : v.Fits n) (hk : n ≤ k) : v.Fits k := by
  induction v generalizing n k with
  | null => exact .null k
  | bool b => exact .bool k b
  | number x => exact .number k x
  | string s => exact .string k s
  | array items ih =>
    cases h with
    | @array n _ hitems =>
      obtain ⟨k, rfl⟩ : ∃ j, k = j + 1 := ⟨k - 1, by omega⟩
      exact .array fun v hv => ih v hv (hitems v hv) (by omega)
  | object fields ih =>
    cases h with
    | @object n _ hfields =>
      obtain ⟨k, rfl⟩ : ∃ j, k = j + 1 := ⟨k - 1, by omega⟩
      exact .object fun field hfield => ih field hfield (hfields field hfield) (by omega)

structure Storable (v : Json) : Prop where
  canonical : v.IsCanonical
  fits : v.Fits maxDataDepth

theorem storable_canonical {v : Json} (h : v.Fits maxDataDepth) : v.canonical.Storable :=
  ⟨isCanonical_canonical v, h.canonical⟩

def IsShallow (v : Json) : Prop := v.IsCanonical ∧ v.Fits 1

theorem isShallow_string (s : String) : IsShallow (.string s) := ⟨.string s, .string 1 s⟩

theorem isShallow_nat (n : Nat) : IsShallow (.nat n) := ⟨.number _, .number 1 _⟩

theorem isShallow_ofText? (s? : Option String) : IsShallow (.ofText? s?) := by
  cases s? with
  | none => exact ⟨.null, .null 1⟩
  | some s => exact isShallow_string s

theorem isShallow_strings (ss : List String) : IsShallow (.strings ss) :=
  ⟨.array (List.forall_mem_map.2 fun s _ => .string s),
    .array (List.forall_mem_map.2 fun s _ => .string 0 s)⟩

theorem storable_object {names : List String} {fields : List (String × Json)}
    (hnames : fields.map (·.1) = names) (hsorted : names.Pairwise (· < ·))
    (h : ∀ field ∈ fields, field.2.IsShallow) : Storable (.object fields) := by
  have hfields : SortedFields fields := List.pairwise_map.1 (hnames ▸ hsorted)
  have hfits : Fits 2 (.object fields) := .object fun field hfield => (h field hfield).2
  exact ⟨.object hfields fun field hfield => (h field hfield).1, hfits.mono (by decide)⟩

end Json

namespace CheckId

variable {c : CheckId} {s : Settings} {m : Message} {o : Objection}

theorem isShallow_of_mem_headerFields (h : Header) :
    ∀ field ∈ Check.headerFields h, field.2.IsShallow := by
  simp only [Check.headerFields, List.forall_mem_cons]
  exact ⟨Json.isShallow_string _, Json.isShallow_ofText? _, Json.isShallow_ofText? _,
    Json.isShallow_ofText? _, List.forall_mem_nil _⟩

theorem storable_headerData (h : Header) : (Check.headerData h).Storable :=
  Json.storable_object (rfl : _ = ["header", "scope", "subject", "type"]) (by decide)
    (isShallow_of_mem_headerFields h)

theorem storable_of_inspect (h : c.inspect s m = some o) : o.data.Storable := by
  cases c with
  | bodyLeadingBlank =>
    obtain ⟨-, ⟨⟩⟩ := Option.ite_none_right_eq_some.1 h
    exact storable_headerData m.header
  | footerLeadingBlank =>
    rw [inspect, Check.footerLeadingBlank] at h
    split at h
    · obtain ⟨-, ⟨⟩⟩ := Option.ite_none_right_eq_some.1 h
      exact storable_headerData m.header
    · cases h
  | headerMaxLength =>
    obtain ⟨-, ⟨⟩⟩ := Option.ite_none_right_eq_some.1 h
    refine Json.storable_object (rfl : _ = ["header", "length", "max_length"]) (by decide) ?_
    simp only [List.forall_mem_cons]
    exact ⟨Json.isShallow_string _, Json.isShallow_nat _, Json.isShallow_nat _,
      List.forall_mem_nil _⟩
  | subjectCase =>
    obtain ⟨subject, -, h⟩ := Option.bind_eq_some_iff.1 h
    split at h
    · cases h
    · obtain ⟨⟩ := h
      refine Json.storable_object
        (rfl : _ = ["header", "matched_cases", "scope", "subject", "type"]) (by decide) ?_
      simp only [List.forall_mem_cons]
      exact ⟨Json.isShallow_string _, Json.isShallow_strings _, Json.isShallow_ofText? _,
        Json.isShallow_ofText? _, Json.isShallow_ofText? _, List.forall_mem_nil _⟩
  | subjectFullStop =>
    obtain ⟨subject, -, h⟩ := Option.bind_eq_some_iff.1 h
    obtain ⟨-, ⟨⟩⟩ := Option.ite_none_right_eq_some.1 h
    exact storable_headerData m.header
  | typeCase =>
    obtain ⟨type, -, h⟩ := Option.bind_eq_some_iff.1 h
    obtain ⟨-, ⟨⟩⟩ := Option.ite_none_right_eq_some.1 h
    exact storable_headerData m.header
  | typeEnum =>
    obtain ⟨type, -, h⟩ := Option.bind_eq_some_iff.1 h
    obtain ⟨-, ⟨⟩⟩ := Option.ite_none_left_eq_some.1 h
    exact storable_headerData m.header
  | scopeIssueId =>
    rw [inspect, Check.scopeIssueId] at h
    split at h
    · cases h
    · obtain ⟨⟩ := h
      refine Json.storable_object
        (rfl : _ = ["header", "scope", "subject", "type", "variant"]) (by decide) ?_
      refine List.forall_mem_append.2 ⟨isShallow_of_mem_headerFields m.header, ?_⟩
      exact List.forall_mem_singleton.2 (Json.isShallow_string _)

end CheckId

theorem Settings.storable_of_mem_findings {s : Settings} {m : Message} {f : Finding}
    (h : f ∈ s.findings m) : f.data.Storable := by
  obtain ⟨c, policy, o, -, ho, rfl⟩ := exists_objection_of_mem_findings h
  exact CheckId.storable_of_inspect ho

namespace Json

theorem mem_of_lookup {key : String} {v : Json} {fields : List (String × Json)}
    (h : lookup key fields = some v) : (key, v) ∈ fields := by
  induction fields with
  | nil => cases h
  | cons field fields ih =>
    rw [lookup, Option.or_eq_some_iff] at h
    rcases h with h | ⟨-, h⟩
    · exact List.mem_cons_of_mem field (ih h)
    · obtain ⟨rfl, ⟨⟩⟩ := Option.ite_none_right_eq_some.1 h
      exact List.mem_cons_self

end Json

namespace Report

theorem fits_of_record? {names : List String} {spare n : Nat} {v : Json}
    {fields : List (String × Json)} (h : record? names spare v = some fields)
    (hv : v.Fits (n + 1)) : ∀ field ∈ fields, field.2.Fits n := by
  cases hv with
  | null | bool b | number x | string s => cases h
  | array hitems =>
    obtain ⟨-, ⟨⟩⟩ := Option.ite_none_right_eq_some.1 h
    exact fun field hfield => hitems field.2 (List.of_mem_zip hfield).2
  | object hfields =>
    cases h
    exact hfields

theorem exists_of_mem_mapM {α β : Type} {f : α → Option β} {xs : List α} {ys : List β}
    (h : xs.mapM f = some ys) : ∀ y ∈ ys, ∃ x ∈ xs, f x = some y := by
  induction xs generalizing ys with
  | nil =>
    cases h
    exact List.forall_mem_nil _
  | cons x xs ih =>
    rw [List.mapM_cons] at h
    obtain ⟨y, hy, h⟩ := Option.bind_eq_some_iff.1 h
    obtain ⟨rest, hrest, ⟨⟩⟩ := Option.bind_eq_some_iff.1 h
    refine List.forall_mem_cons.2 ⟨⟨x, List.mem_cons_self, hy⟩, fun y' hy' => ?_⟩
    obtain ⟨x', hx', hread⟩ := ih hrest y' hy'
    exact ⟨x', List.mem_cons_of_mem x hx', hread⟩

theorem storable_of_ofJson? {v : Json} {f : Finding} (h : Finding.ofJson? v = some f)
    (hv : v.Fits (maxDataDepth + 1)) : f.data.Storable := by
  simp only [Finding.ofJson?, Option.bind_eq_bind, Option.bind_eq_some_iff] at h
  obtain ⟨fields, hfields, severity, -, checkId, -, code, -, message, -, location, -, help, -,
    url, -, fingerprint, -, ⟨⟩⟩ := h
  refine Json.storable_canonical ?_
  cases hdata : Json.lookup "data" fields with
  | none => exact .null _
  | some data => exact fits_of_record? hfields hv _ (Json.mem_of_lookup hdata)

theorem ofFields?_of_parse {text : String} {r : Report} (h : parse text = .ok r) :
    ∃ fields, Json.parse? text = some (.object fields) ∧ ofFields? fields = some r := by
  rw [parse] at h
  split at h
  · rename_i v hv
    rw [ofJson.eq_def] at h
    split at h
    · split at h
      · rename_i fields _
        split at h
        · rename_i r' hr
          cases h
          exact ⟨fields, hv, hr⟩
        · cases h
      · cases h
    · cases h
  · cases h

theorem storable_of_parse {text : String} {r : Report} (h : parse text = .ok r) :
    ∀ f ∈ r.findings, f.data.Storable := by
  obtain ⟨fields, hparse, hread⟩ := ofFields?_of_parse h
  have hfits : Json.Fits (maxDataDepth + 3) (.object fields) := Json.fits_of_parse? hparse
  simp only [ofFields?, Option.bind_eq_bind, Option.bind_eq_some_iff] at hread
  obtain ⟨tool, -, startedAt, -, finishedAt, -, verdict, -, findings, hfindings, summary, -, ⟨⟩⟩ :=
    hread
  obtain ⟨v, hv, hitems⟩ := Option.bind_eq_some_iff.1 hfindings
  cases hfits with
  | object hfields =>
    have hlist := hfields _ (Json.mem_of_lookup hv)
    intro f hf
    cases hlist with
    | null | bool b | number x | string s => cases hitems
    | object _ => cases hitems
    | array hlist =>
      obtain ⟨item, hitem, hfinding⟩ := exists_of_mem_mapM hitems f hf
      exact storable_of_ofJson? hfinding (hlist item hitem)

/-- The report was made by a run over some messages, or stands for a run that failed, or was read
from a text. -/
inductive Produced : Report → Prop where
  | checked [Pattern.Compiler] {config : String} {o : Settings.Overrides}
    {submissions : List Submission} {startedAt finishedAt : Timestamp} {r : Report}
    (h : checkMessages config o submissions startedAt finishedAt = .ok r) : Produced r
  | runtimeError (profile message : String) (now : Timestamp) :
    Produced (ofRuntimeError profile message now)
  | read {text : String} {r : Report} (h : parse text = .ok r) : Produced r

theorem Produced.storable {r : Report} (h : r.Produced) :
    ∀ f ∈ r.findings, f.data.Storable := by
  cases h with
  | checked h =>
    obtain ⟨s, -, rfl⟩ := Settings.exists_of_map_eq_ok h
    intro f hf
    obtain ⟨x, -, hf⟩ := Settings.exists_submission_of_mem_findings hf
    exact Settings.storable_of_mem_findings hf
  | runtimeError profile message now =>
    exact List.forall_mem_singleton.2 ⟨.null, .null _⟩
  | read h => exact storable_of_parse h

theorem Produced.parse_eq_ok {r : Report} (h : r.Produced)
    (hexact : ∀ f ∈ r.findings, ∀ n ∈ f.data.numbers, n.IsExact) : parse r.serialize = .ok r :=
  parse_serialize (fun f hf => (h.storable f hf).canonical)
    fun f hf => ⟨(h.storable f hf).fits, hexact f hf⟩

open Rendering

/-- A report that is saved reads back as it was, as long as the numbers in the data of its findings
are whole and fit into 64 bits. What is rendered of it is what is rendered of the report that was
read back. -/
theorem parse_serialize_of_produced {r : Report} (h : r.Produced)
    (hexact : ∀ f ∈ r.findings, ∀ n ∈ f.data.numbers, n.IsExact) :
    parse r.serialize = .ok r ∧
      ∀ saved, parse r.serialize = .ok saved →
        terminal saved.view = terminal r.view ∧ markdown saved.view = markdown r.view ∧
        ∀ limit, annotations saved.view limit = annotations r.view limit := by
  have hread : parse r.serialize = .ok r := h.parse_eq_ok hexact
  refine ⟨hread, fun saved hsaved => ?_⟩
  obtain rfl : r = saved := Except.ok.inj (hread.symm.trans hsaved)
  exact ⟨rfl, rfl, fun _ => rfl⟩

/-- A run with findings that hold numbers, lists, nulls, a quote, a control character and letters
beyond ASCII. -/
theorem parse_serialize_of_odd_headers :
    let config := "header_max_length = 10"
    let s : Settings := { Settings.preset .flexible with headerMaxLength := 10 }
    let submissions : List Submission :=
      [⟨some "abc1234", "feat: Add \"rows\"\x01", .whitespace⟩, ⟨none, "prüfe ✖", .strip⟩]
    let r := s.check submissions default default
    checkMessages config default submissions default default = .ok r ∧ r.findings.length = 4 ∧
    (∀ f ∈ r.findings, ∀ n ∈ f.data.numbers, n.IsExact) ∧ parse r.serialize = .ok r := by
  intro config s submissions r
  have hdocument : Settings.Document.ofFile? config =
      some { Settings.Document.empty with headerMaxLength := some 10 } := by decide +kernel
  have hs : Settings.ofFile config default = .ok s := by
    rw [Settings.ofFile, hdocument]
    rfl
  have hchecked : checkMessages config default submissions default default = .ok r :=
    checkMessages_eq_ok hs submissions default default
  have hcount : r.findings.length = 4 := by decide +kernel
  have hexact : ∀ f ∈ r.findings, ∀ n ∈ f.data.numbers, n.IsExact := by decide +kernel
  exact ⟨hchecked, hcount, hexact, (parse_serialize_of_produced (.checked hchecked) hexact).1⟩

end Report

end CommitPolicy
