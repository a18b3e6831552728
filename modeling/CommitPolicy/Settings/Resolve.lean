import CommitPolicy.Settings.Document
import CommitPolicy.Settings.Preset

namespace CommitPolicy.Settings

structure Overrides where
  profile : Option String
  variant : Option String
  failOn : Option String
deriving DecidableEq, Repr

instance : Inhabited Overrides := ⟨⟨none, none, none⟩⟩

inductive ResolveError where
  | unknownProfile (name : String)
  | unknownVariant (name : String)
  | unknownFailOn (name : String)
  | zeroMaxLength
  | noTypes
  | invalidPattern (source : String)
  | unknownCheck (name : String)
  | unknownSeverity (check : CheckId) (name : String)
deriving DecidableEq, Repr

namespace ResolveError

def message : ResolveError → String
  | unknownProfile name => "unknown profile: " ++ name ++ " (expected flexible|strict)"
  | unknownVariant name => "unknown variant: " ++ name ++ " (expected flexible|strict)"
  | unknownFailOn name => "unknown fail_on: " ++ name ++ " (expected error|warning)"
  | zeroMaxLength => "header_max_length must be greater than zero"
  | noTypes => "types must list at least one commit type"
  | invalidPattern source => "invalid ignore pattern: " ++ source
  | unknownCheck name => "unknown check id in [checks]: " ++ name
  | unknownSeverity check name =>
    "invalid severity for " ++ check.name ++ ": unknown severity: " ++ name
      ++ " (expected info|warning|error)"

end ResolveError

/-- The severity that a document names; `warn` stands for `warning`. -/
def severityOf? (name : String) : Option Severity :=
  if name = "warn" then some .warning else Severity.ofName? name

def failOnOf? : String → Option FailOn
  | "error" => some .error
  | "warning" | "warn" => some .warning
  | _ => none

def resolveProfile (d : Document) (o : Overrides) : Except ResolveError Profile :=
  let name := (o.profile.or d.profile).getD Profile.flexible.name
  match Profile.ofName? name with
  | some p => .ok p
  | none => .error (.unknownProfile name)

def resolveVariant (d : Document) (o : Overrides) (default : Variant) :
    Except ResolveError Variant :=
  match o.variant.or d.variant with
  | none => .ok default
  | some name => match Variant.ofName? name with
    | some v => .ok v
    | none => .error (.unknownVariant name)

def resolveFailOn (d : Document) (o : Overrides) (default : FailOn) : Except ResolveError FailOn :=
  match o.failOn.or d.failOn with
  | none => .ok default
  | some name => match failOnOf? name with
    | some f => .ok f
    | none => .error (.unknownFailOn name)

def resolveMaxLength (d : Document) (default : Nat) : Except ResolveError Nat :=
  match d.headerMaxLength with
  | none => .ok default
  | some 0 => .error .zeroMaxLength
  | some n => .ok n

def resolveTypes (d : Document) (default : List String) : Except ResolveError (List String) :=
  match d.types with
  | none => .ok default
  | some [] => .error .noTypes
  | some types => .ok types

def resolvePattern [Pattern.Compiler] (source : String) : Except ResolveError Pattern :=
  match Pattern.Compiler.compile? source with
  | some p => .ok p
  | none => .error (.invalidPattern source)

def CheckEntry.applyTo (e : CheckEntry) (c : CheckId) (p : CheckPolicy) :
    Except ResolveError CheckPolicy :=
  match e.severity with
  | none => .ok ⟨e.enabled.getD p.enabled, p.severity⟩
  | some name => match severityOf? name with
    | some s => .ok ⟨e.enabled.getD p.enabled, s⟩
    | none => .error (.unknownSeverity c name)

def resolveEntry (policies : CheckId → CheckPolicy) (entry : String × CheckEntry) :
    Except ResolveError (CheckId → CheckPolicy) :=
  match CheckId.ofName? entry.1 with
  | none => .error (.unknownCheck entry.1)
  | some c => (entry.2.applyTo c (policies c)).map fun p =>
      fun c' => if c' = c then p else policies c'

/-- The settings that a document and the command line ask for. The first fault in the order of
the fields is the one reported, and of faulty entries the first by name. -/
def resolve [Pattern.Compiler] (d : Document) (o : Overrides) : Except ResolveError Settings := do
  let profile ← resolveProfile d o
  let base := preset profile
  let variant ← resolveVariant d o base.variant
  let failOn ← resolveFailOn d o base.failOn
  let headerMaxLength ← resolveMaxLength d base.headerMaxLength
  let types ← resolveTypes d base.types
  let ignores ← d.ignores.mapM resolvePattern
  let policies ← d.checks.foldlM resolveEntry fun c => ⟨true, profile.severity c⟩
  .ok {
    profile := profile.name
    variant := variant
    failOn := failOn
    headerMaxLength := headerMaxLength
    types := types
    defaultIgnores := d.defaultIgnores.getD base.defaultIgnores
    ignores := ignores
    checks := fun c => some (policies c) }

end CommitPolicy.Settings
