import CommitPolicy.Proofs.Rendering.LineStructure
import CommitPolicy.Proofs.Text.Joined

namespace CommitPolicy.Rendering

open Text (pieces Lacks)

namespace Annotation

def dataEscape? : Char → Char → Option Char
  | '2', '5' => some '%'
  | '0', 'D' => some '\r'
  | '0', 'A' => some '\n'
  | _, _ => none

def propertyEscape? : Char → Char → Option Char
  | '3', 'A' => some ':'
  | '2', 'C' => some ','
  | a, b => dataEscape? a b

def unescape (escape? : Char → Char → Option Char) : List Char → List Char
  | [] => []
  | '%' :: a :: b :: rest =>
    match escape? a b with
    | some c => c :: unescape escape? rest
    | none => '%' :: unescape escape? (a :: b :: rest)
  | c :: rest => c :: unescape escape? rest

def replaceChar (old : Char) (new : String) (cs : List Char) : List Char :=
  cs.flatMap fun c => if c = old then new.toList else [c]

variable {escape? : Char → Char → Option Char}

theorem unescape_cons {c : Char} (h : c ≠ '%') (rest : List Char) :
    unescape escape? (c :: rest) = c :: unescape escape? rest := by
  rw [unescape]
  simp [h]

theorem unescape_escapeDataChar (hpercent : escape? '2' '5' = some '%')
    (hreturn : escape? '0' 'D' = some '\r') (hfeed : escape? '0' 'A' = some '\n') (c : Char)
    (rest : List Char) :
    unescape escape? (escapeDataChar c ++ rest) = c :: unescape escape? rest := by
  rw [escapeDataChar.eq_def]
  split
  · simp [unescape, hpercent]
  · simp [unescape, hreturn]
  · simp [unescape, hfeed]
  · rename_i h _ _
    exact unescape_cons h rest

theorem unescape_escapePropertyChar (c : Char) (rest : List Char) :
    unescape propertyEscape? (escapePropertyChar c ++ rest) =
      c :: unescape propertyEscape? rest := by
  rw [escapePropertyChar.eq_def]
  split
  · rfl
  · rfl
  · exact unescape_escapeDataChar rfl rfl rfl _ rest

theorem unescape_flatMap {escapeChar : Char → List Char}
    (h : ∀ c rest, unescape escape? (escapeChar c ++ rest) = c :: unescape escape? rest)
    (cs : List Char) : unescape escape? (cs.flatMap escapeChar) = cs := by
  induction cs with
  | nil => rfl
  | cons c cs ih => rw [List.flatMap_cons, h, ih]

theorem unescape_eq_self {cs : List Char} (h : '%' ∉ cs) : unescape escape? cs = cs := by
  induction cs with
  | nil => rfl
  | cons c cs ih =>
    obtain ⟨hc, hcs⟩ := List.ne_and_not_mem_of_not_mem_cons h
    rw [unescape_cons (Ne.symm hc), ih hcs]

/-- Escaping character by character is replacing one character after the other, the percent sign
before those whose escapes have one. -/
theorem escapeData_eq_replaceChar (s : String) : escapeData s = String.ofList
    (replaceChar '\n' "%0A" (replaceChar '\r' "%0D" (replaceChar '%' "%25" s.toList))) := by
  rw [escapeData, replaceChar, replaceChar, replaceChar, List.flatMap_assoc, List.flatMap_assoc]
  congr 2
  funext c
  by_cases hpercent : c = '%'
  · subst hpercent
    rfl
  by_cases hreturn : c = '\r'
  · subst hreturn
    rfl
  by_cases hfeed : c = '\n'
  · subst hfeed
    rfl
  simp [escapeDataChar, hpercent, hreturn, hfeed]

theorem escapeProperty_eq_replaceChar (s : String) : escapeProperty s = String.ofList
    (replaceChar ',' "%2C" (replaceChar ':' "%3A" (escapeData s).toList)) := by
  rw [escapeProperty, escapeData, String.toList_ofList, replaceChar, replaceChar,
    List.flatMap_assoc, List.flatMap_assoc]
  congr 2
  funext c
  by_cases hcolon : c = ':'
  · subst hcolon
    rfl
  by_cases hcomma : c = ','
  · subst hcomma
    rfl
  rw [escapePropertyChar.eq_def]
  split
  · contradiction
  · contradiction
  · rw [escapeDataChar.eq_def]
    split
    · rfl
    · rfl
    · rfl
    · simp [hcolon, hcomma]

structure Command where
  level : String
  properties : List (String × String)
  data : String
deriving DecidableEq, Repr

def cutBefore (stop : List Char → Bool) : List Char → List Char × List Char
  | [] => ([], [])
  | c :: cs =>
    if stop (c :: cs) then ([], c :: cs)
    else ((c :: (cutBefore stop cs).1), (cutBefore stop cs).2)

def startsData (cs : List Char) : Bool := [':', ':'].isPrefixOf cs

def endsLevel (cs : List Char) : Bool := cs.head? == some ' ' || startsData cs

def readProperty (cs : List Char) : String × String :=
  let (key, value) := cutBefore (·.head? == some '=') cs
  (.ofList key, .ofList (unescape propertyEscape? value.tail))

/-- A command is two colons, a level up to the first blank or two colons, behind a blank the
properties up to the next two colons, and the data. -/
def Command.ofText? (s : String) : Option Command :=
  match s.toList with
  | ':' :: ':' :: cs =>
    match cutBefore endsLevel cs with
    | (level, ':' :: ':' :: data) =>
      some ⟨.ofList level, [], .ofList (unescape dataEscape? data)⟩
    | (level, ' ' :: cs) =>
      match cutBefore startsData cs with
      | (properties, ':' :: ':' :: data) =>
        some ⟨.ofList level, (pieces ',' properties).map readProperty,
          .ofList (unescape dataEscape? data)⟩
      | _ => none
    | _ => none
  | _ => none

structure Note where
  severity : Severity
  line : Option Nat
  title : Option String
  text : String
deriving DecidableEq, Repr

def severityOf? (word : String) : Option Severity :=
  [.error, .warning, .info].find? (level · == word)

def Command.note? (c : Command) : Option Note :=
  (severityOf? c.level).map fun severity =>
    ⟨severity, (c.properties.lookup "line").bind (·.toNat?), c.properties.lookup "title", c.data⟩

def Note.ofText? (s : String) : Option Note := (Command.ofText? s).bind Command.note?

def propertiesOf (i : View.Item) : List (String × String) :=
  (i.line.map fun n => ("line", number n)).toList
    ++ (i.commit.map fun c => ("title", "commit " ++ c)).toList

def commandOf (i : View.Item) : Command := ⟨level i.severity, propertiesOf i, text i⟩

def noteOf (i : View.Item) : Note where
  severity := i.severity
  line := i.line.map UInt32.toNat
  title := i.commit.map ("commit " ++ ·)
  text := "[" ++ i.checkId.getD "commitguard" ++ ":" ++ i.code ++ "] " ++ i.message

theorem cutBefore_append {stop : List Char → Bool} {xs ys : List Char}
    (hxs : ∀ c ∈ xs, ∀ rest, ¬ stop (c :: rest)) (hys : stop ys) :
    cutBefore stop (xs ++ ys) = (xs, ys) := by
  induction xs with
  | nil =>
    cases ys with
    | nil => rfl
    | cons c ys => rw [List.nil_append, cutBefore, if_pos hys]
  | cons c xs ih =>
    obtain ⟨hc, hrest⟩ := List.forall_mem_cons.1 hxs
    rw [List.cons_append, cutBefore, if_neg (hc _), ih hrest]

theorem readProperty_append {key : List Char} (h : '=' ∉ key) (value : List Char) :
    readProperty (key ++ '=' :: value) =
      (String.ofList key, String.ofList (unescape propertyEscape? value)) := by
  have hkey : ∀ c ∈ key, ∀ rest : List Char, ¬ (c :: rest).head? == some '=' := by
    intro c hc rest hhead
    rw [List.head?_cons, beq_iff_eq, Option.some.injEq] at hhead
    exact h (hhead ▸ hc)
  rw [readProperty, cutBefore_append hkey (by simp)]
  rfl

theorem cutBefore_startsData {xs : List Char} (h : ':' ∉ xs) (data : List Char) :
    cutBefore startsData (xs ++ ':' :: ':' :: data) = (xs, ':' :: ':' :: data) := by
  refine cutBefore_append (fun c hc rest => ?_) rfl
  have hne : ':' ≠ c := fun he => h (he ▸ hc)
  simp [startsData, List.isPrefixOf, hne]

theorem cutBefore_endsLevel {word ys : List Char} (hcolon : ':' ∉ word) (hblank : ' ' ∉ word)
    (hys : endsLevel ys) : cutBefore endsLevel (word ++ ys) = (word, ys) := by
  refine cutBefore_append (fun c hc rest => ?_) hys
  have hne : ':' ≠ c := fun he => hcolon (he ▸ hc)
  have hne' : c ≠ ' ' := fun he => hblank (he ▸ hc)
  simp [endsLevel, startsData, List.isPrefixOf, hne, hne']

theorem unescape_escapeData (s : String) :
    unescape dataEscape? (escapeData s).toList = s.toList := by
  rw [escapeData, String.toList_ofList, unescape_flatMap (unescape_escapeDataChar rfl rfl rfl)]

theorem readProperty_line (n : UInt32) :
    readProperty ("line=" ++ number n).toList = ("line", number n) := by
  have hsplit : ("line=" ++ number n).toList = "line".toList ++ '=' :: (number n).toList := by simp
  have hplain : '%' ∉ (number n).toList := lacks_number (by decide) n
  rw [hsplit, readProperty_append (by decide), unescape_eq_self hplain, String.ofList_toList,
    String.ofList_toList]

theorem readProperty_title (value : String) :
    readProperty ("title=" ++ escapeProperty value).toList = ("title", value) := by
  have hsplit : ("title=" ++ escapeProperty value).toList =
      "title".toList ++ '=' :: value.toList.flatMap escapePropertyChar := by simp [escapeProperty]
  rw [hsplit, readProperty_append (by decide), unescape_flatMap unescape_escapePropertyChar,
    String.ofList_toList, String.ofList_toList]

theorem map_readProperty_properties (i : View.Item) :
    (properties i).map (readProperty ·.toList) = propertiesOf i := by
  rw [properties, propertiesOf]
  cases i.line <;> cases i.commit <;>
    simp [-String.toList_append, readProperty_line, readProperty_title]

theorem pieces_properties {i : View.Item} (h : properties i ≠ []) :
    pieces ',' (",".intercalate (properties i)).toList = (properties i).map String.toList := by
  have hlacks : ∀ p ∈ (properties i).map String.toList, ',' ∉ p := by
    intro p hp
    obtain ⟨s, hs, rfl⟩ := List.mem_map.1 hp
    exact lacks_of_mem_properties (by decide) hs
  rw [Text.toList_intercalate ',' rfl, Text.pieces_join (by simpa using h) hlacks]

theorem ofText?_command (i : View.Item) :
    Command.ofText? (command i) = some (commandOf i) := by
  have hcolon : ':' ∉ (level i.severity).toList := by cases i.severity <;> decide
  have hblank : ' ' ∉ (level i.severity).toList := by cases i.severity <;> decide
  by_cases hnil : properties i = []
  · have htext : (command i).toList = ':' :: ':' ::
        ((level i.severity).toList ++ ':' :: ':' :: (escapeData (text i)).toList) := by
      simp [command, hnil]
    have hnone : propertiesOf i = [] := by rw [← map_readProperty_properties, hnil, List.map_nil]
    have hlevel := cutBefore_endsLevel hcolon hblank
      (show endsLevel (':' :: ':' :: (escapeData (text i)).toList) from rfl)
    rw [Command.ofText?, htext]
    simp only [hlevel, unescape_escapeData, String.ofList_toList, commandOf, hnone]
  · have htext : (command i).toList = ':' :: ':' :: ((level i.severity).toList ++ ' ' ::
        ((",".intercalate (properties i)).toList ++
          ':' :: ':' :: (escapeData (text i)).toList)) := by
      simp [command, hnil]
    have hplain : ':' ∉ (",".intercalate (properties i)).toList :=
      Text.lacks_intercalate (by decide)
        fun s hs => lacks_of_mem_properties (by decide) hs
    have hlevel := cutBefore_endsLevel hcolon hblank
      (show endsLevel (' ' :: ((",".intercalate (properties i)).toList ++
        ':' :: ':' :: (escapeData (text i)).toList)) from rfl)
    rw [Command.ofText?, htext]
    simp only [hlevel, cutBefore_startsData hplain, unescape_escapeData, String.ofList_toList,
      pieces_properties hnil, List.map_map]
    rw [commandOf, ← map_readProperty_properties]
    rfl

theorem lookup_line_propertiesOf (i : View.Item) :
    ((propertiesOf i).lookup "line").bind (·.toNat?) = i.line.map UInt32.toNat := by
  rw [propertiesOf]
  cases i.line with
  | none => cases i.commit <;> rfl
  | some n => exact Nat.toNat?_repr n.toNat

theorem lookup_title_propertiesOf (i : View.Item) :
    (propertiesOf i).lookup "title" = i.commit.map ("commit " ++ ·) := by
  rw [propertiesOf]
  cases i.line <;> cases i.commit <;> rfl

theorem note?_commandOf (i : View.Item) : (commandOf i).note? = some (noteOf i) := by
  have hlevel : severityOf? (level i.severity) = some i.severity := by cases i.severity <;> decide
  rw [Command.note?, commandOf, hlevel, Option.map_some, lookup_line_propertiesOf,
    lookup_title_propertiesOf]
  rfl

end Annotation

open Annotation

/-- Every annotation reads back, whatever the texts in it: as the command it was written from, and as
what there is to tell of its item. -/
theorem annotations_read_back (v : View) (limit : Nat) :
    (annotations v limit).map Command.ofText? =
      (v.items.take limit).map (fun i => some (commandOf i)) ∧
    (annotations v limit).map Note.ofText? =
      (v.items.take limit).map (fun i => some (noteOf i)) := by
  rw [annotations, ← List.map_take, List.map_map, List.map_map]
  constructor
  · exact List.map_congr_left fun i _ => ofText?_command i
  · refine List.map_congr_left fun i _ => ?_
    rw [Function.comp_apply, Note.ofText?, ofText?_command, Option.bind_some, note?_commandOf]

example : Command.ofText? "::notice line=3,title=commit a%2Cb=%250A::[x:y] 50%25%0A::" =
    some ⟨"notice", [("line", "3"), ("title", "commit a,b=%0A")], "[x:y] 50%\n::"⟩ := by decide

end CommitPolicy.Rendering
