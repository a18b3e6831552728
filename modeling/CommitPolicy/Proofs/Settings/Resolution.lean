import CommitPolicy.Pattern.Parser
import CommitPolicy.Proofs.Lint.Findings
import CommitPolicy.Settings.Resolve

namespace CommitPolicy

section Names

theorem Variant.ofName?_eq_some_iff {name : String} {v : Variant} :
    ofName? name = some v ↔ name = v.name := by
  rw [ofName?.eq_def]
  split <;> cases v <;> simp_all [Variant.name]

theorem Settings.Profile.ofName?_eq_some_iff {name : String} {p : Profile} :
    ofName? name = some p ↔ name = p.name := by
  rw [ofName?.eq_def]
  split <;> cases p <;> simp_all [Profile.name]

def FailOn.IsWritten (f : FailOn) (name : String) : Prop :=
  name = f.name ∨ f = .warning ∧ name = "warn"

def Severity.IsWritten (s : Severity) (name : String) : Prop :=
  name = s.name ∨ s = .warning ∧ name = "warn"

theorem Settings.failOnOf?_eq_some_iff {name : String} {f : FailOn} :
    failOnOf? name = some f ↔ f.IsWritten name := by
  rw [failOnOf?.eq_def, FailOn.IsWritten]
  split <;> cases f <;> simp_all [FailOn.name]

theorem Settings.severityOf?_eq_some_iff {name : String} {s : Severity} :
    severityOf? name = some s ↔ s.IsWritten name := by
  rw [severityOf?, Severity.ofName?.eq_def, Severity.IsWritten]
  split
  · cases s <;> simp_all [Severity.name]
  · split <;> cases s <;> simp_all [Severity.name]

end Names

namespace Settings

open Pattern.Compiler (compile? source_of_compile?)

structure Demand where
  met : Bool
  error : ResolveError

def firstFault? (demands : List Demand) : Option ResolveError :=
  (demands.find? (!·.met)).map (·.error)

def Demand.ofName (legal : List String) (error : String → ResolveError) (name : String) : Demand :=
  ⟨name ∈ legal, error name⟩

def profileNames : List String := ["flexible", "strict"]

def variantNames : List String := ["flexible", "strict"]

def failOnNames : List String := ["error", "warning", "warn"]

def severityNames : List String := ["info", "warning", "warn", "error"]

def checkNames : List String := CheckId.all.map (·.name)

def profileName (d : Document) (o : Overrides) : String := (o.profile.or d.profile).getD "flexible"

def entryDemands (entry : String × CheckEntry) : List Demand :=
  .ofName checkNames .unknownCheck entry.1 :: (CheckId.ofName? entry.1).toList.flatMap fun c =>
    entry.2.severity.toList.map (.ofName severityNames (.unknownSeverity c))

/-- All demands, in the order in which they are looked at. A value of the document that the command
line overrides is not among what is asked for. -/
def demands [Pattern.Compiler] (d : Document) (o : Overrides) : List Demand :=
  [.ofName profileNames .unknownProfile (profileName d o)] ++
  ((o.variant.or d.variant).toList.map (.ofName variantNames .unknownVariant) ++
  ((o.failOn.or d.failOn).toList.map (.ofName failOnNames .unknownFailOn) ++
  ([⟨d.headerMaxLength ≠ some 0, .zeroMaxLength⟩] ++
  ([⟨d.types ≠ some [], .noTypes⟩] ++
  (d.ignores.map (fun source => ⟨(compile? source).isSome, .invalidPattern source⟩) ++
  d.checks.flatMap entryDemands)))))

theorem firstFault?_append (ds ds' : List Demand) :
    firstFault? (ds ++ ds') = (firstFault? ds).or (firstFault? ds') := by
  simp [firstFault?, List.find?_append, Option.map_or]

theorem firstFault?_eq_none_iff {ds : List Demand} :
    firstFault? ds = none ↔ ∀ x ∈ ds, x.met := by
  simp [firstFault?, List.find?_eq_none]

theorem firstFault?_singleton (x : Demand) :
    firstFault? [x] = if x.met then none else some x.error := by
  cases h : x.met <;> simp [firstFault?, h]

def FailsBy {α : Type} (ds : List Demand) (x : Except ResolveError α) : Prop :=
  ∀ e, x = .error e ↔ firstFault? ds = some e

namespace FailsBy

variable {α β : Type} {ds ds' : List Demand} {x : Except ResolveError α}

theorem ok {a : α} (h : firstFault? ds = none) : FailsBy ds (.ok a : Except ResolveError α) := by
  intro e
  simp [h]

theorem error {e : ResolveError} (h : firstFault? ds = some e) :
    FailsBy ds (.error e : Except ResolveError α) := by
  intro e'
  simp [h]

theorem bind {f : α → Except ResolveError β} (hx : FailsBy ds x)
    (hf : ∀ a, x = .ok a → FailsBy ds' (f a)) : FailsBy (ds ++ ds') (x >>= f) := by
  cases x with
  | error e =>
    have he : firstFault? ds = some e := (hx e).1 rfl
    refine error ?_
    rw [firstFault?_append, he, Option.some_or]
  | ok a =>
    have hnone : firstFault? ds = none := by
      rw [Option.eq_none_iff_forall_ne_some]
      intro e he
      cases (hx e).2 he
    intro e
    rw [firstFault?_append, hnone, Option.none_or]
    exact hf a rfl e

theorem map {f : α → β} (hx : FailsBy ds x) : FailsBy ds (x.map f) := by
  intro e
  rw [← hx e]
  cases x <;> simp [Except.map]

theorem exists_ok_iff (hx : FailsBy ds x) : (∃ a, x = .ok a) ↔ ∀ d ∈ ds, d.met := by
  rw [← firstFault?_eq_none_iff, Option.eq_none_iff_forall_ne_some]
  cases x with
  | error e => simpa using ⟨e, (hx e).1 rfl⟩
  | ok a =>
    refine iff_of_true ⟨a, rfl⟩ fun e he => ?_
    cases (hx e).2 he

end FailsBy

section Lookup

variable {α β : Type} {found : Option β} {legal : List String} {error : String → ResolveError}
  {name : String}

theorem failsBy_of_found (h : found.isSome ↔ name ∈ legal) {v : β} (hv : found = some v) (a : α) :
    FailsBy [.ofName legal error name] (.ok a : Except ResolveError α) := by
  have hlegal : name ∈ legal := h.1 (hv ▸ rfl)
  exact .ok (by simp [firstFault?_singleton, Demand.ofName, hlegal])

theorem failsBy_of_not_found (h : found.isSome ↔ name ∈ legal) (hnone : found = none) :
    FailsBy [.ofName legal error name] (.error (error name) : Except ResolveError α) := by
  have hillegal : name ∉ legal := by simp [← h, hnone]
  exact .error (by simp [firstFault?_singleton, Demand.ofName, hillegal])

end Lookup

theorem isSome_profile_iff (name : String) :
    (Profile.ofName? name).isSome ↔ name ∈ profileNames := by
  rw [Profile.ofName?.eq_def]
  split <;> simp_all [profileNames]

theorem isSome_variant_iff (name : String) :
    (Variant.ofName? name).isSome ↔ name ∈ variantNames := by
  rw [Variant.ofName?.eq_def]
  split <;> simp_all [variantNames]

theorem isSome_failOn_iff (name : String) : (failOnOf? name).isSome ↔ name ∈ failOnNames := by
  rw [failOnOf?.eq_def]
  split <;> simp_all [failOnNames]

theorem isSome_severity_iff (name : String) :
    (severityOf? name).isSome ↔ name ∈ severityNames := by
  rw [severityOf?, Severity.ofName?.eq_def]
  split
  · simp_all [severityNames]
  · split <;> simp_all [severityNames]

theorem isSome_check_iff (name : String) : (CheckId.ofName? name).isSome ↔ name ∈ checkNames := by
  simp only [CheckId.ofName?, checkNames, List.find?_isSome, beq_iff_eq, List.mem_map]

variable {d : Document} {o : Overrides}

theorem failsBy_resolveProfile :
    FailsBy [.ofName profileNames .unknownProfile (profileName d o)] (resolveProfile d o) := by
  rw [resolveProfile]
  split
  · rename_i p hp
    exact failsBy_of_found (isSome_profile_iff _) hp p
  · rename_i hnone
    exact failsBy_of_not_found (isSome_profile_iff _) hnone

theorem failsBy_resolveVariant (default : Variant) :
    FailsBy ((o.variant.or d.variant).toList.map (.ofName variantNames .unknownVariant))
      (resolveVariant d o default) := by
  rw [resolveVariant]
  cases o.variant.or d.variant with
  | none => exact .ok rfl
  | some name =>
    dsimp only
    split
    · rename_i v hv
      exact failsBy_of_found (isSome_variant_iff name) hv v
    · rename_i hnone
      exact failsBy_of_not_found (isSome_variant_iff name) hnone

theorem failsBy_resolveFailOn (default : FailOn) :
    FailsBy ((o.failOn.or d.failOn).toList.map (.ofName failOnNames .unknownFailOn))
      (resolveFailOn d o default) := by
  rw [resolveFailOn]
  cases o.failOn.or d.failOn with
  | none => exact .ok rfl
  | some name =>
    dsimp only
    split
    · rename_i f hf
      exact failsBy_of_found (isSome_failOn_iff name) hf f
    · rename_i hnone
      exact failsBy_of_not_found (isSome_failOn_iff name) hnone

theorem failsBy_resolveMaxLength (default : Nat) :
    FailsBy [⟨d.headerMaxLength ≠ some 0, .zeroMaxLength⟩] (resolveMaxLength d default) := by
  rw [resolveMaxLength.eq_def]
  split
  · rename_i h
    exact .ok (by simp [firstFault?_singleton, h])
  · rename_i h
    exact .error (by simp [firstFault?_singleton, h])
  · rename_i n hn h
    exact .ok (by simpa [firstFault?_singleton, h] using hn)

theorem failsBy_resolveTypes (default : List String) :
    FailsBy [⟨d.types ≠ some [], .noTypes⟩] (resolveTypes d default) := by
  rw [resolveTypes.eq_def]
  split
  · rename_i h
    exact .ok (by simp [firstFault?_singleton, h])
  · rename_i h
    exact .error (by simp [firstFault?_singleton, h])
  · rename_i types htypes h
    exact .ok (by simpa [firstFault?_singleton, h] using htypes)

theorem failsBy_resolvePattern [Pattern.Compiler] (source : String) :
    FailsBy [⟨(compile? source).isSome, .invalidPattern source⟩]
      (resolvePattern source) := by
  rw [resolvePattern]
  cases h : compile? source with
  | some p => exact .ok (by simp [firstFault?_singleton])
  | none => exact .error (by simp [firstFault?_singleton])

theorem failsBy_mapM_resolvePattern [Pattern.Compiler] (sources : List String) :
    FailsBy (sources.map fun source => ⟨(compile? source).isSome, .invalidPattern source⟩)
      (sources.mapM resolvePattern) := by
  induction sources with
  | nil => exact .ok rfl
  | cons source sources ih =>
    rw [List.mapM_cons, List.map_cons, ← List.singleton_append]
    refine (failsBy_resolvePattern source).bind fun p _ => ?_
    exact ih.map

theorem failsBy_applyTo (e : CheckEntry) (c : CheckId) (p : CheckPolicy) :
    FailsBy (e.severity.toList.map (.ofName severityNames (.unknownSeverity c)))
      (e.applyTo c p) := by
  rw [CheckEntry.applyTo]
  cases e.severity with
  | none => exact .ok rfl
  | some name =>
    dsimp only
    split
    · rename_i s hs
      exact failsBy_of_found (isSome_severity_iff name) hs _
    · rename_i hnone
      exact failsBy_of_not_found (isSome_severity_iff name) hnone

theorem failsBy_resolveEntry (policies : CheckId → CheckPolicy) (entry : String × CheckEntry) :
    FailsBy (entryDemands entry) (resolveEntry policies entry) := by
  have hname := isSome_check_iff entry.1
  rw [resolveEntry, entryDemands]
  cases hc : CheckId.ofName? entry.1 with
  | none => simpa using failsBy_of_not_found hname hc
  | some c =>
    have happly := (failsBy_applyTo entry.2 c (policies c)).map
      (f := fun p c' => if c' = c then p else policies c')
    have hfound : FailsBy [.ofName checkNames .unknownCheck entry.1]
      (.ok c : Except ResolveError CheckId) := failsBy_of_found hname hc c
    have hboth : FailsBy ([.ofName checkNames .unknownCheck entry.1] ++ _)
      ((entry.2.applyTo c (policies c)).map fun p c' => if c' = c then p else policies c') :=
      hfound.bind fun _ _ => happly
    simpa using hboth

theorem failsBy_foldlM_resolveEntry (entries : List (String × CheckEntry))
    (policies : CheckId → CheckPolicy) :
    FailsBy (entries.flatMap entryDemands) (entries.foldlM resolveEntry policies) := by
  induction entries generalizing policies with
  | nil => exact .ok rfl
  | cons entry entries ih =>
    rw [List.foldlM_cons, List.flatMap_cons]
    exact (failsBy_resolveEntry policies entry).bind fun policies' _ => ih policies'

theorem failsBy_resolve [Pattern.Compiler] (d : Document) (o : Overrides) :
    FailsBy (demands d o) (resolve d o) := by
  rw [resolve, demands]
  refine failsBy_resolveProfile.bind fun profile _ => ?_
  refine (failsBy_resolveVariant _).bind fun variant _ => ?_
  refine (failsBy_resolveFailOn _).bind fun failOn _ => ?_
  refine (failsBy_resolveMaxLength _).bind fun headerMaxLength _ => ?_
  refine (failsBy_resolveTypes _).bind fun types _ => ?_
  refine (failsBy_mapM_resolvePattern _).bind fun ignores _ => ?_
  exact (failsBy_foldlM_resolveEntry _ _).map

section Binds

variable {ε α β : Type} {x : Except ε α} {b : β}

theorem exists_of_bind_eq_ok {f : α → Except ε β} (h : x >>= f = .ok b) :
    ∃ a, x = .ok a ∧ f a = .ok b := by
  cases x with
  | error e => cases h
  | ok a => exact ⟨a, rfl, h⟩

theorem exists_of_map_eq_ok {f : α → β} (h : x.map f = .ok b) : ∃ a, x = .ok a ∧ f a = b := by
  cases x with
  | error e => cases h
  | ok a =>
    cases h
    exact ⟨a, rfl, rfl⟩

end Binds

def CheckEntry.followedBy (first second : CheckEntry) : CheckEntry :=
  ⟨second.enabled.or first.enabled, second.severity.or first.severity⟩

def entryOf (c : CheckId) : List (String × CheckEntry) → CheckEntry
  | [] => ⟨none, none⟩
  | (name, e) :: rest =>
    if name = c.name then e.followedBy (entryOf c rest) else entryOf c rest

structure CheckEntry.Changes (e : CheckEntry) (base p : CheckPolicy) : Prop where
  enabled : p.enabled = e.enabled.getD base.enabled
  severity : ∀ name ∈ e.severity, p.severity.IsWritten name
  severity_kept : e.severity = none → p.severity = base.severity

/-- The settings are what the document and the command line ask for, and otherwise what `base` has.
The command line is asked first. -/
structure Answers [Pattern.Compiler] (s base : Settings) (d : Document) (o : Overrides) : Prop where
  profile : s.profile = profileName d o
  variant : ∀ name ∈ o.variant.or d.variant, s.variant.name = name
  variant_kept : o.variant.or d.variant = none → s.variant = base.variant
  failOn : ∀ name ∈ o.failOn.or d.failOn, s.failOn.IsWritten name
  failOn_kept : o.failOn.or d.failOn = none → s.failOn = base.failOn
  headerMaxLength : s.headerMaxLength = d.headerMaxLength.getD base.headerMaxLength
  types : s.types = d.types.getD base.types
  defaultIgnores : s.defaultIgnores = d.defaultIgnores.getD base.defaultIgnores
  ignores : s.ignores.map some = d.ignores.map compile?
  ignores_source : s.ignores.map (·.source) = d.ignores
  checks : ∀ c, ∃ before after, base.checks c = some before ∧ s.checks c = some after ∧
    (entryOf c d.checks).Changes before after

theorem CheckEntry.Changes.trans {first second : CheckEntry} {p q r : CheckPolicy}
    (h : first.Changes p q) (h' : second.Changes q r) : (first.followedBy second).Changes p r := by
  obtain ⟨on, severity⟩ := first
  obtain ⟨on', severity'⟩ := second
  refine ⟨?_, ?_, ?_⟩
  · rw [h'.enabled, h.enabled]
    cases on' <;> rfl
  · intro name hname
    cases severity' with
    | some name' => exact h'.severity name hname
    | none => exact h'.severity_kept rfl ▸ h.severity name hname
  · intro hnone
    obtain ⟨hsecond, hfirst⟩ := Option.or_eq_none_iff.1 hnone
    rw [h'.severity_kept hsecond, h.severity_kept hfirst]

theorem changes_refl (p : CheckPolicy) : (⟨none, none⟩ : CheckEntry).Changes p p :=
  ⟨rfl, by simp, fun _ => rfl⟩

theorem changes_of_applyTo {e : CheckEntry} {c : CheckId} {p q : CheckPolicy}
    (h : e.applyTo c p = .ok q) : e.Changes p q := by
  obtain ⟨on, severity⟩ := e
  rw [CheckEntry.applyTo] at h
  cases severity with
  | none =>
    cases h
    exact ⟨rfl, by simp, fun _ => rfl⟩
  | some name =>
    dsimp only at h
    split at h
    · rename_i s hs
      cases h
      refine ⟨rfl, ?_, by simp⟩
      rintro _ ⟨⟩
      exact severityOf?_eq_some_iff.1 hs
    · cases h

theorem changes_of_foldlM {entries : List (String × CheckEntry)}
    {policies policies' : CheckId → CheckPolicy}
    (h : entries.foldlM resolveEntry policies = .ok policies') (c : CheckId) :
    (entryOf c entries).Changes (policies c) (policies' c) := by
  induction entries generalizing policies with
  | nil =>
    cases h
    exact changes_refl _
  | cons entry entries ih =>
    obtain ⟨name, e⟩ := entry
    rw [List.foldlM_cons] at h
    obtain ⟨between, hentry, hrest⟩ := exists_of_bind_eq_ok h
    rw [resolveEntry] at hentry
    split at hentry
    · cases hentry
    · rename_i c' hc'
      obtain ⟨p, hp, rfl⟩ := exists_of_map_eq_ok hentry
      obtain rfl := CheckId.ofName?_eq_some_iff.1 hc'
      have hchanges := ih hrest
      rw [entryOf]
      by_cases hc : c = c'
      · subst hc
        rw [if_pos rfl] at hchanges ⊢
        exact (changes_of_applyTo hp).trans hchanges
      · have hname : ¬ c'.name = c.name := fun hn => hc (CheckId.name_injective hn).symm
        rw [if_neg hc] at hchanges
        rwa [if_neg hname]

theorem eq_name_of_resolveProfile {p : Profile} (h : resolveProfile d o = .ok p) :
    p.name = profileName d o := by
  rw [resolveProfile] at h
  split at h
  · rename_i p' hp
    cases h
    exact (Profile.ofName?_eq_some_iff.1 hp).symm
  · cases h

theorem resolveVariant_eq_ok {default v : Variant} (h : resolveVariant d o default = .ok v) :
    (∀ name ∈ o.variant.or d.variant, v.name = name) ∧
      (o.variant.or d.variant = none → v = default) := by
  rw [resolveVariant] at h
  cases hname : o.variant.or d.variant with
  | none =>
    rw [hname] at h
    cases h
    simp
  | some name =>
    rw [hname] at h
    dsimp only at h
    split at h
    · rename_i v' hv
      cases h
      simpa using (Variant.ofName?_eq_some_iff.1 hv).symm
    · cases h

theorem resolveFailOn_eq_ok {default f : FailOn} (h : resolveFailOn d o default = .ok f) :
    (∀ name ∈ o.failOn.or d.failOn, f.IsWritten name) ∧
      (o.failOn.or d.failOn = none → f = default) := by
  rw [resolveFailOn] at h
  cases hname : o.failOn.or d.failOn with
  | none =>
    rw [hname] at h
    cases h
    simp
  | some name =>
    rw [hname] at h
    dsimp only at h
    split at h
    · rename_i f' hf
      cases h
      simpa using failOnOf?_eq_some_iff.1 hf
    · cases h

theorem resolveMaxLength_eq_ok {default n : Nat} (h : resolveMaxLength d default = .ok n) :
    n = d.headerMaxLength.getD default := by
  rw [resolveMaxLength.eq_def] at h
  split at h <;> cases h <;> simp [*]

theorem resolveTypes_eq_ok {default types : List String} (h : resolveTypes d default = .ok types) :
    types = d.types.getD default := by
  rw [resolveTypes.eq_def] at h
  split at h <;> cases h <;> simp [*]

theorem mapM_resolvePattern_eq_ok [Pattern.Compiler] {sources : List String}
    {patterns : List Pattern} (h : sources.mapM resolvePattern = .ok patterns) :
    patterns.map some = sources.map compile? ∧ patterns.map (·.source) = sources := by
  induction sources generalizing patterns with
  | nil =>
    cases h
    exact ⟨rfl, rfl⟩
  | cons source sources ih =>
    rw [List.mapM_cons] at h
    obtain ⟨p, hp, h⟩ := exists_of_bind_eq_ok h
    obtain ⟨ps, hps, h⟩ := exists_of_bind_eq_ok h
    cases h
    obtain ⟨hpatterns, hsources⟩ := ih hps
    rw [resolvePattern] at hp
    split at hp
    · rename_i p' hp'
      cases hp
      simp only [List.map_cons, hpatterns, hsources, hp', source_of_compile? hp', and_self]
    · cases hp

theorem answers_of_resolve [Pattern.Compiler] {s : Settings} (h : resolve d o = .ok s) :
    ∃ p : Profile, p.name = profileName d o ∧ s.Answers (preset p) d o := by
  obtain ⟨p, hp, h⟩ := exists_of_bind_eq_ok h
  obtain ⟨variant, hvariant, h⟩ := exists_of_bind_eq_ok h
  obtain ⟨failOn, hfailOn, h⟩ := exists_of_bind_eq_ok h
  obtain ⟨length, hlength, h⟩ := exists_of_bind_eq_ok h
  obtain ⟨types, htypes, h⟩ := exists_of_bind_eq_ok h
  obtain ⟨ignores, hignores, h⟩ := exists_of_bind_eq_ok h
  obtain ⟨policies, hpolicies, h⟩ := exists_of_bind_eq_ok h
  cases h
  have hname := eq_name_of_resolveProfile hp
  obtain ⟨hvariant, hvariantKept⟩ := resolveVariant_eq_ok hvariant
  obtain ⟨hfailOn, hfailOnKept⟩ := resolveFailOn_eq_ok hfailOn
  obtain ⟨hpatterns, hsources⟩ := mapM_resolvePattern_eq_ok hignores
  exact ⟨p, hname, {
    profile := hname
    variant := hvariant
    variant_kept := hvariantKept
    failOn := hfailOn
    failOn_kept := hfailOnKept
    headerMaxLength := resolveMaxLength_eq_ok hlength
    types := resolveTypes_eq_ok htypes
    defaultIgnores := rfl
    ignores := hpatterns
    ignores_source := hsources
    checks := fun c => ⟨_, _, rfl, rfl, changes_of_foldlM hpolicies c⟩ }⟩

theorem entryOf_of_not_mem {c : CheckId} {entries : List (String × CheckEntry)}
    (h : c.name ∉ entries.map (·.1)) : entryOf c entries = ⟨none, none⟩ := by
  induction entries with
  | nil => rfl
  | cons entry entries ih =>
    obtain ⟨hne, hrest⟩ := List.ne_and_not_mem_of_not_mem_cons h
    rw [entryOf, if_neg hne.symm, ih hrest]

theorem entryOf_of_mem {c : CheckId} {entries : List (String × CheckEntry)} {e : CheckEntry}
    (hnodup : (entries.map (·.1)).Nodup) (h : (c.name, e) ∈ entries) : entryOf c entries = e := by
  induction entries with
  | nil => simp at h
  | cons entry entries ih =>
    obtain ⟨hnew, hrest⟩ := List.nodup_cons.1 hnodup
    rcases List.mem_cons.1 h with rfl | h
    · rw [entryOf, if_pos rfl, entryOf_of_not_mem hnew]
      simp [CheckEntry.followedBy]
    · have hne : entry.1 ≠ c.name := fun heq => hnew (List.mem_map.2 ⟨_, h, heq.symm⟩)
      rw [entryOf, if_neg hne, ih hrest h]

/-- A document resolves exactly when all demands are met, and otherwise the first one that is not
gives the error. What it resolves to is asked for by the command line, by the document or by the
profile, in this order, and an entry of a check changes only the fields that it gives. -/
theorem resolve_answers_demands [Pattern.Compiler] (d : Document) (o : Overrides) :
    ((∃ s, resolve d o = .ok s) ↔ ∀ x ∈ demands d o, x.met) ∧
    (∀ e, resolve d o = .error e ↔ firstFault? (demands d o) = some e) ∧
    (∀ s, resolve d o = .ok s →
      ∃ p : Profile, p.name = profileName d o ∧ s.Answers (preset p) d o) ∧
    ((d.checks.map (·.1)).Nodup → ∀ c : CheckId,
      (∀ e, (c.name, e) ∈ d.checks → entryOf c d.checks = e) ∧
      (c.name ∉ d.checks.map (·.1) → entryOf c d.checks = ⟨none, none⟩)) :=
  ⟨(failsBy_resolve d o).exists_ok_iff, failsBy_resolve d o, fun _ h => answers_of_resolve h,
    fun hnodup _ => ⟨fun _ he => entryOf_of_mem hnodup he, entryOf_of_not_mem⟩⟩

/-- A variant that does not exist counts only as long as the command line does not override it; a
pattern that does not compile counts always. -/
theorem resolve_answers_overridden_variant :
    let d : Document := { Document.empty with
      variant := some "loose"
      ignores := ["^WIP", "^tmp\\d"]
      checks := [("subject.case", ⟨some false, none⟩), ("type.enum", ⟨none, some "warn"⟩)] }
    let o : Overrides := { (default : Overrides) with variant := some "strict" }
    (∃ s, resolve d o = .ok s ∧ s.Answers (preset .flexible) d o) ∧
    entryOf .typeEnum d.checks = ⟨none, some "warn"⟩ ∧
    entryOf .typeCase d.checks = ⟨none, none⟩ ∧
    resolve d default = .error (.unknownVariant "loose") ∧
    resolve { d with ignores := ["^WIP", "("] } o = .error (.invalidPattern "(") := by
  intro d o
  obtain ⟨haccepted, -, hanswers, hentries⟩ := resolve_answers_demands d o
  obtain ⟨-, hrefused, -⟩ := resolve_answers_demands d default
  obtain ⟨-, hunreadable, -⟩ := resolve_answers_demands { d with ignores := ["^WIP", "("] } o
  have hnodup : (d.checks.map (·.1)).Nodup := by decide
  obtain ⟨s, hs⟩ := haccepted.2 (by decide)
  obtain ⟨p, hp, h⟩ := hanswers s hs
  obtain rfl : p = .flexible := by
    cases p with
    | flexible => rfl
    | strict => exact absurd hp (by decide)
  exact ⟨⟨s, hs, h⟩, (hentries hnodup .typeEnum).1 _ (by decide),
    (hentries hnodup .typeCase).2 (by decide), (hrefused _).2 (by decide),
    (hunreadable _).2 (by decide)⟩

end Settings

end CommitPolicy
