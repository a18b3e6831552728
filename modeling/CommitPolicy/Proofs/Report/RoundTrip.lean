import CommitPolicy.Proofs.Json.Canonical
import CommitPolicy.Proofs.Json.RoundTrip
import CommitPolicy.Proofs.Report.Timestamp
import CommitPolicy.Report.Json
import Mathlib.Data.List.Nodup

namespace CommitPolicy

namespace Json

theorem lookup_of_not_mem {key : String} {fields : List (String × Json)}
    (h : key ∉ fields.map (·.1)) : lookup key fields = none := by
  induction fields with
  | nil => rfl
  | cons field fields ih =>
    obtain ⟨hne, hrest⟩ := List.ne_and_not_mem_of_not_mem_cons h
    rw [lookup, ih hrest, Option.none_or, if_neg (Ne.symm hne)]

theorem lookup_of_mem {key : String} {v : Json} {fields : List (String × Json)}
    (hnodup : (fields.map (·.1)).Nodup) (h : (key, v) ∈ fields) : lookup key fields = some v := by
  induction fields with
  | nil => cases h
  | cons field fields ih =>
    obtain ⟨hnew, hrest⟩ := List.nodup_cons.1 hnodup
    rw [lookup]
    rcases List.mem_cons.1 h with rfl | h
    · rw [lookup_of_not_mem hnew, Option.none_or, if_pos rfl]
    · rw [ih hrest h, Option.some_or]

def Survives (n : Nat) (v : Json) : Prop := v.Fits n ∧ ∀ x ∈ v.numbers, x.IsExact

theorem survives_string (n : Nat) (s : String) : Survives n (.string s) :=
  ⟨.string n s, List.forall_mem_nil _⟩

theorem survives_word (n : Nat) (w : UInt32) : Survives n (Report.word w) := by
  refine ⟨.number n _, List.forall_mem_singleton.2 ?_⟩
  have hword := w.toNat_lt
  have hlow : -(9223372036854775808 : Int) ≤ w.toNat := by omega
  have hhigh : (w.toNat : Int) < 18446744073709551616 := by omega
  exact ⟨hlow, hhigh⟩

theorem survives_array {n : Nat} {items : List Json} (h : ∀ v ∈ items, Survives n v) :
    Survives (n + 1) (.array items) :=
  ⟨.array fun v hv => (h v hv).1, forall_mem_numbers_array.2 fun v hv => (h v hv).2⟩

theorem survives_object {n : Nat} {fields : List (String × Json)}
    (h : ∀ field ∈ fields, Survives n field.2) : Survives (n + 1) (.object fields) :=
  ⟨.object fun field hfield => (h field hfield).1,
    forall_mem_numbers_object.2 fun field hfield => (h field hfield).2⟩

end Json

namespace Report

open Json (Survives lookup)

def presentFields (fields : List (String × Option Json)) : List (String × Json) :=
  fields.filterMap fun (key, v?) => v?.map (key, ·)

theorem mem_presentFields_iff {fields : List (String × Option Json)} {key : String} {v : Json} :
    (key, v) ∈ presentFields fields ↔ (key, some v) ∈ fields := by
  simp only [presentFields, List.mem_filterMap, Option.map_eq_some_iff]
  constructor
  · rintro ⟨⟨key', _⟩, hmem, v', rfl, he⟩
    cases he
    exact hmem
  · exact fun h => ⟨_, h, v, rfl, rfl⟩

theorem map_fst_presentFields_sublist (fields : List (String × Option Json)) :
    ((presentFields fields).map (·.1)).Sublist (fields.map (·.1)) := by
  induction fields with
  | nil => exact .slnil
  | cons field fields ih =>
    obtain ⟨key, v?⟩ := field
    cases v? with
    | none => exact ih.cons key
    | some v => exact ih.cons_cons key

section

variable {fields : List (String × Option Json)} (hnodup : (fields.map (·.1)).Nodup)
include hnodup

theorem nodup_presentFields : ((presentFields fields).map (·.1)).Nodup :=
  hnodup.sublist (map_fst_presentFields_sublist fields)

theorem lookup_presentFields {key : String} {v? : Option Json} (h : (key, v?) ∈ fields) :
    lookup key (presentFields fields) = v? := by
  cases v? with
  | some v => exact Json.lookup_of_mem (nodup_presentFields hnodup) (mem_presentFields_iff.2 h)
  | none =>
    refine Json.lookup_of_not_mem fun hmem => ?_
    obtain ⟨⟨_, v⟩, hv, rfl⟩ := List.mem_map.1 hmem
    -- A name that is given once is not both absent and present.
    cases List.inj_on_of_nodup_map hnodup h (mem_presentFields_iff.1 hv) rfl

end

theorem required?_of_mem {α : Type} {read? : Json → Option α} {a : α} {v : Json} {key : String}
    {fields : List (String × Json)} (hnodup : (fields.map (·.1)).Nodup) (h : (key, v) ∈ fields)
    (hread : read? v = some a) : required? read? key fields = some a := by
  rw [required?, Json.lookup_of_mem hnodup h, Option.bind_some, hread]

theorem required?_presentFields {α : Type} {read? : Json → Option α} {a : α} {v : Json}
    {key : String} {fields : List (String × Option Json)} (hnodup : (fields.map (·.1)).Nodup)
    (h : (key, some v) ∈ fields) (hread : read? v = some a) :
    required? read? key (presentFields fields) = some a :=
  required?_of_mem (nodup_presentFields hnodup) (mem_presentFields_iff.2 h) hread

theorem optional?_presentFields {α : Type} {read? : Json → Option α} {write : α → Json}
    {a? : Option α} {key : String} {fields : List (String × Option Json)}
    (hnodup : (fields.map (·.1)).Nodup) (h : (key, a?.map write) ∈ fields)
    (hread : ∀ a, read? (write a) = some a) (hnull : ∀ a, write a ≠ .null) :
    optional? read? key (presentFields fields) = some a? := by
  rw [optional?, lookup_presentFields hnodup h]
  cases a? with
  | none => rfl
  | some a =>
    rw [Option.map_some]
    split
    · rename_i he
      cases he
    · rename_i he
      exact absurd (Option.some.inj he) (hnull a)
    · rename_i he
      rw [← Option.some.inj he, hread]
      rfl

theorem items?_map {α : Type} {read? : Json → Option α} {write : α → Json} {items : List α}
    (h : ∀ a ∈ items, read? (write a) = some a) :
    items? read? (.array (items.map write)) = some items := by
  rw [items?]
  induction items with
  | nil => rfl
  | cons a items ih =>
    obtain ⟨ha, hitems⟩ := List.forall_mem_cons.1 h
    rw [List.map_cons, List.mapM_cons, ha, Option.bind_eq_bind, Option.bind_some, ih hitems]
    rfl

theorem text?_string (s : String) : Json.text? (.string s) = some s := rfl

theorem word?_word (n : UInt32) : word? (word n) = some n := by
  have hword : (0 : Int) ≤ n.toNat ∧ (n.toNat : Int) < UInt32.size := by
    have hsize := n.toNat_lt
    rw [UInt32.size]
    omega
  rw [word, Json.nat, Json.int, word?, if_pos hword, Int.toNat_natCast, UInt32.ofNat_toNat]

end Report

open Report

theorem Severity.name?_name (s : Severity) : name? ofName? (.string s.name) = some s := by
  cases s <;> rfl

theorem Verdict.name?_name (v : Verdict) : name? ofName? (.string v.name) = some v := by
  cases v <;> rfl

namespace Location

def fields (l : Location) : List (String × Option Json) :=
  [("commit", l.commit.map .string), ("line", l.line.map word), ("col", l.col.map word)]

theorem nodup_fields (l : Location) : (l.fields.map (·.1)).Nodup := by
  have hnames : (["commit", "line", "col"] : List String).Nodup := by decide
  exact hnames

theorem ofJson?_toJson (l : Location) : ofJson? l.toJson = some l := by
  have hcommit : optional? Json.text? "commit" (presentFields l.fields) = some l.commit :=
    optional?_presentFields l.nodup_fields (by simp [fields]) text?_string nofun
  have hline : optional? word? "line" (presentFields l.fields) = some l.line :=
    optional?_presentFields l.nodup_fields (by simp [fields]) word?_word nofun
  have hcol : optional? word? "col" (presentFields l.fields) = some l.col :=
    optional?_presentFields l.nodup_fields (by simp [fields]) word?_word nofun
  have hrecord : record? ["commit", "line", "col"] 0 l.toJson = some (presentFields l.fields) := rfl
  simp only [ofJson?, Option.bind_eq_bind, Option.bind_eq_some_iff]
  exact ⟨_, hrecord, _, hcommit, _, hline, _, hcol, rfl⟩

end Location

namespace Finding

def fields (f : Finding) : List (String × Option Json) :=
  [("severity", some (.string f.severity.name)), ("check_id", some (.string f.checkId)),
    ("code", some (.string f.code)), ("message", some (.string f.message)),
    ("location", f.location.map Location.toJson), ("help", f.help.map .string),
    ("url", f.url.map .string), ("fingerprint", f.fingerprint.map .string),
    ("data", if f.data.isNull then none else some f.data)]

theorem nodup_fields (f : Finding) : (f.fields.map (·.1)).Nodup := by
  have hnames : (["severity", "check_id", "code", "message", "location", "help", "url",
    "fingerprint", "data"] : List String).Nodup := by decide
  exact hnames

/-- Data that is null is left out, and null is what is read where there is none. -/
theorem canonical_getD_data {f : Finding} (h : f.data.IsCanonical) :
    ((Json.lookup "data" (presentFields f.fields)).getD .null).canonical = f.data := by
  have hlookup : Json.lookup "data" (presentFields f.fields) =
      if f.data.isNull then none else some f.data :=
    lookup_presentFields f.nodup_fields (by simp [fields])
  rw [hlookup]
  cases hdata : f.data with
  | null => rfl
  | _ =>
    rw [← hdata, if_neg (by simp [hdata, Json.isNull])]
    exact h.canonical_eq

theorem ofJson?_toJson {f : Finding} (h : f.data.IsCanonical) : ofJson? f.toJson = some f := by
  have hseverity : required? (name? Severity.ofName?) "severity" (presentFields f.fields) =
      some f.severity :=
    required?_presentFields f.nodup_fields (by simp [fields]) f.severity.name?_name
  have hcheck : required? Json.text? "check_id" (presentFields f.fields) = some f.checkId :=
    required?_presentFields f.nodup_fields (by simp [fields]) (text?_string f.checkId)
  have hcode : required? Json.text? "code" (presentFields f.fields) = some f.code :=
    required?_presentFields f.nodup_fields (by simp [fields]) (text?_string f.code)
  have hmessage : required? Json.text? "message" (presentFields f.fields) = some f.message :=
    required?_presentFields f.nodup_fields (by simp [fields]) (text?_string f.message)
  have hlocation : optional? Location.ofJson? "location" (presentFields f.fields) =
      some f.location :=
    optional?_presentFields f.nodup_fields (by simp [fields]) Location.ofJson?_toJson nofun
  have hhelp : optional? Json.text? "help" (presentFields f.fields) = some f.help :=
    optional?_presentFields f.nodup_fields (by simp [fields]) text?_string nofun
  have hurl : optional? Json.text? "url" (presentFields f.fields) = some f.url :=
    optional?_presentFields f.nodup_fields (by simp [fields]) text?_string nofun
  have hfingerprint : optional? Json.text? "fingerprint" (presentFields f.fields) =
      some f.fingerprint :=
    optional?_presentFields f.nodup_fields (by simp [fields]) text?_string nofun
  have hrecord : record? ["severity", "check_id", "code", "message", "location", "help", "url",
    "fingerprint", "data"] 1 f.toJson = some (presentFields f.fields) := rfl
  simp only [ofJson?, Option.bind_eq_bind, Option.bind_eq_some_iff]
  refine ⟨_, hrecord, _, hseverity, _, hcheck, _, hcode, _, hmessage, _, hlocation, _, hhelp, _,
    hurl, _, hfingerprint, ?_⟩
  rw [canonical_getD_data h]

end Finding

namespace Report

theorem Tool.ofJson?_toJson (t : Tool) : ofJson? t.toJson = some t := rfl

namespace Summary

def fields (s : Summary) : List (String × Json) :=
  [("profile", .string s.profile), ("variant", .string s.variant),
    ("messages_checked", word s.messagesChecked), ("messages_ignored", word s.messagesIgnored),
    ("errors", word s.errors), ("warnings", word s.warnings)]

theorem nodup_fields (s : Summary) : (s.fields.map (·.1)).Nodup := by
  have hnames : (["profile", "variant", "messages_checked", "messages_ignored", "errors",
    "warnings"] : List String).Nodup := by decide
  exact hnames

theorem ofJson?_toJson (s : Summary) : ofJson? s.toJson = some s := by
  have hprofile : required? Json.text? "profile" s.fields = some s.profile :=
    required?_of_mem s.nodup_fields (by simp [fields]) (text?_string s.profile)
  have hvariant : required? Json.text? "variant" s.fields = some s.variant :=
    required?_of_mem s.nodup_fields (by simp [fields]) (text?_string s.variant)
  have hchecked : required? word? "messages_checked" s.fields = some s.messagesChecked :=
    required?_of_mem s.nodup_fields (by simp [fields]) (word?_word s.messagesChecked)
  have hignored : required? word? "messages_ignored" s.fields = some s.messagesIgnored :=
    required?_of_mem s.nodup_fields (by simp [fields]) (word?_word s.messagesIgnored)
  have herrors : required? word? "errors" s.fields = some s.errors :=
    required?_of_mem s.nodup_fields (by simp [fields]) (word?_word s.errors)
  have hwarnings : required? word? "warnings" s.fields = some s.warnings :=
    required?_of_mem s.nodup_fields (by simp [fields]) (word?_word s.warnings)
  have hrecord : record? ["profile", "variant", "messages_checked", "messages_ignored", "errors",
    "warnings"] 0 s.toJson = some s.fields := rfl
  simp only [ofJson?, Option.bind_eq_bind, Option.bind_eq_some_iff]
  exact ⟨_, hrecord, _, hprofile, _, hvariant, _, hchecked, _, hignored, _, herrors, _, hwarnings,
    rfl⟩

end Summary

theorem timestamp?_string (s : String) : timestamp? (.string s) = Timestamp.ofText? s := rfl

theorem timestamp?_format (t : Timestamp) : timestamp? (.string t.format) = some t :=
  (timestamp?_string t.format).trans t.ofText?_format

def fields (r : Report) : List (String × Json) :=
  [("schema", .string schema), ("tool", r.tool.toJson),
    ("started_at", .string r.startedAt.format), ("finished_at", .string r.finishedAt.format),
    ("verdict", .string r.verdict.name), ("findings", .array (r.findings.map Finding.toJson)),
    ("data", r.summary.toJson)]

theorem nodup_fields (r : Report) : (r.fields.map (·.1)).Nodup := by
  have hnames : (["schema", "tool", "started_at", "finished_at", "verdict", "findings",
    "data"] : List String).Nodup := by decide
  exact hnames

theorem ofFields?_fields {r : Report} (h : ∀ f ∈ r.findings, f.data.IsCanonical) :
    ofFields? r.fields = some r := by
  have htool : required? Tool.ofJson? "tool" r.fields = some r.tool :=
    required?_of_mem r.nodup_fields (by simp [fields]) r.tool.ofJson?_toJson
  have hstarted : required? timestamp? "started_at" r.fields = some r.startedAt :=
    required?_of_mem r.nodup_fields (by simp [fields]) (timestamp?_format r.startedAt)
  have hfinished : required? timestamp? "finished_at" r.fields = some r.finishedAt :=
    required?_of_mem r.nodup_fields (by simp [fields]) (timestamp?_format r.finishedAt)
  have hverdict : required? (name? Verdict.ofName?) "verdict" r.fields = some r.verdict :=
    required?_of_mem r.nodup_fields (by simp [fields]) r.verdict.name?_name
  have hfindings : required? (items? Finding.ofJson?) "findings" r.fields = some r.findings :=
    required?_of_mem r.nodup_fields (by simp [fields])
      (items?_map fun f hf => Finding.ofJson?_toJson (h f hf))
  have hsummary : required? Summary.ofJson? "data" r.fields = some r.summary :=
    required?_of_mem r.nodup_fields (by simp [fields]) r.summary.ofJson?_toJson
  simp only [ofFields?, Option.bind_eq_bind, Option.bind_eq_some_iff]
  exact ⟨_, htool, _, hstarted, _, hfinished, _, hverdict, _, hfindings, _, hsummary, rfl⟩

theorem ofJson_toJson {r : Report} (h : ∀ f ∈ r.findings, f.data.IsCanonical) :
    ofJson r.toJson = .ok r := by
  have hjson : r.toJson = .object r.fields := rfl
  have hschema : schemaOf r.toJson = schema := rfl
  rw [hjson] at hschema ⊢
  rw [ofJson, if_pos hschema, ofFields?_fields h]

open Json (Survives)

theorem survives_present {n : Nat} {fields : List (String × Option Json)}
    (h : ∀ field ∈ fields, ∀ v ∈ field.2, Survives n v) : Survives (n + 1) (present fields) :=
  Json.survives_object fun field hfield =>
    h (field.1, some field.2) (mem_presentFields_iff.1 hfield) field.2 rfl

theorem survives_text? {n : Nat} {s? : Option String} {v : Json} (h : v ∈ s?.map Json.string) :
    Survives n v := by
  obtain ⟨s, -, rfl⟩ := Option.map_eq_some_iff.1 h
  exact Json.survives_string n s

theorem survives_word? {n : Nat} {w? : Option UInt32} {v : Json} (h : v ∈ w?.map word) :
    Survives n v := by
  obtain ⟨w, -, rfl⟩ := Option.map_eq_some_iff.1 h
  exact Json.survives_word n w

theorem survives_location (n : Nat) (l : Location) : Survives (n + 1) l.toJson := by
  refine survives_present fun field hfield v hv => ?_
  simp only [List.mem_cons, List.not_mem_nil, or_false] at hfield
  rcases hfield with rfl | rfl | rfl
  · exact survives_text? hv
  · exact survives_word? hv
  · exact survives_word? hv

theorem survives_finding {n : Nat} {f : Finding} (h : Survives (n + 1) f.data) :
    Survives (n + 2) f.toJson := by
  refine survives_present fun field hfield v hv => ?_
  simp only [List.mem_cons, List.not_mem_nil, or_false] at hfield
  rcases hfield with rfl | rfl | rfl | rfl | rfl | rfl | rfl | rfl | rfl
  iterate 4
    obtain ⟨⟩ := hv
    exact Json.survives_string _ _
  · obtain ⟨l, -, rfl⟩ := Option.map_eq_some_iff.1 hv
    exact survives_location n l
  iterate 3 exact survives_text? hv
  · obtain ⟨-, ⟨⟩⟩ := Option.ite_none_left_eq_some.1 hv
    exact h

theorem survives_tool (n : Nat) (t : Tool) : Survives (n + 1) t.toJson := by
  refine Json.survives_object fun field hfield => ?_
  simp only [List.mem_cons, List.not_mem_nil, or_false] at hfield
  rcases hfield with rfl | rfl <;> exact Json.survives_string n _

theorem survives_summary (n : Nat) (s : Summary) : Survives (n + 1) s.toJson := by
  refine Json.survives_object fun field hfield => ?_
  simp only [List.mem_cons, List.not_mem_nil, or_false] at hfield
  rcases hfield with rfl | rfl | rfl | rfl | rfl | rfl
  iterate 2 exact Json.survives_string n _
  iterate 4 exact Json.survives_word n _

theorem survives_toJson {n : Nat} {r : Report} (h : ∀ f ∈ r.findings, Survives (n + 1) f.data) :
    Survives (n + 4) r.toJson := by
  refine Json.survives_object fun field hfield => ?_
  simp only [List.mem_cons, List.not_mem_nil, or_false] at hfield
  rcases hfield with rfl | rfl | rfl | rfl | rfl | rfl | rfl
  · exact Json.survives_string _ _
  · exact survives_tool _ _
  iterate 3 exact Json.survives_string _ _
  · exact Json.survives_array (List.forall_mem_map.2 fun f hf => survives_finding (h f hf))
  · exact survives_summary _ _

def maxDataDepth : Nat := Json.maxDepth - 3

/-- A report whose findings have such data reads back as it was saved. -/
theorem parse_serialize {r : Report} (hcanonical : ∀ f ∈ r.findings, f.data.IsCanonical)
    (h : ∀ f ∈ r.findings, Survives maxDataDepth f.data) : parse r.serialize = .ok r := by
  obtain ⟨hfits, hexact⟩ : Survives Json.maxDepth r.toJson := survives_toJson h
  rw [parse, serialize, Json.parse?_pretty hexact hfits]
  exact ofJson_toJson hcanonical

end Report

end CommitPolicy
