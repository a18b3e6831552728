import CommitPolicy.Json.Printer
import Mathlib.Data.List.Basic

namespace CommitPolicy.Json

section

variable {motive : Json → Prop} (null : motive .null) (bool : ∀ b, motive (.bool b))
  (number : ∀ n, motive (.number n)) (string : ∀ s, motive (.string s))
  (array : ∀ items, (∀ v ∈ items, motive v) → motive (.array items))
  (object : ∀ fields, (∀ field ∈ fields, motive field.2) → motive (.object fields))
include null bool number string array object

/-- What holds of an array or an object if it holds of everything in it holds of all values. -/
@[induction_eliminator]
theorem induction (v : Json) : motive v := by
  refine Json.rec (motive_1 := motive) (motive_2 := fun items => ∀ v ∈ items, motive v)
    (motive_3 := fun fields => ∀ field ∈ fields, motive field.2)
    (motive_4 := fun field => motive field.2)
    null bool number string array object ?_ ?_ ?_ ?_ ?_ v
  · exact List.forall_mem_nil _
  · exact fun v items hv hitems => List.forall_mem_cons.2 ⟨hv, hitems⟩
  · exact List.forall_mem_nil _
  · exact fun field fields hfield hfields => List.forall_mem_cons.2 ⟨hfield, hfields⟩
  · exact fun k v hv => hv

end

theorem canonicalItems_eq_map (items : List Json) : canonicalItems items = items.map canonical := by
  induction items with
  | nil => rfl
  | cons v items ih => rw [canonicalItems, ih, List.map_cons]

theorem printItems_eq_map (indent : Nat) (items : List Json) :
    printItems indent items = items.map fun v => newLine indent ++ print indent v := by
  induction items with
  | nil => rfl
  | cons v items ih => rw [printItems, ih, List.map_cons]

theorem printFields_eq_map (indent : Nat) (fields : List (String × Json)) :
    printFields indent fields = fields.map fun field =>
      newLine indent ++ printString field.1 ++ ':' :: ' ' :: print indent field.2 := by
  induction fields with
  | nil => rfl
  | cons field fields ih => rw [printFields, ih, List.map_cons]

mutual

def numbers : Json → List Number
  | .number n => [n]
  | .array items => itemNumbers items
  | .object fields => fieldNumbers fields
  | _ => []

def itemNumbers : List Json → List Number
  | [] => []
  | v :: rest => numbers v ++ itemNumbers rest

def fieldNumbers : List (String × Json) → List Number
  | [] => []
  | (_, v) :: rest => numbers v ++ fieldNumbers rest

end

theorem itemNumbers_eq_flatMap (items : List Json) : itemNumbers items = items.flatMap numbers := by
  induction items with
  | nil => rfl
  | cons v items ih => rw [itemNumbers, ih, List.flatMap_cons]

theorem fieldNumbers_eq_flatMap (fields : List (String × Json)) :
    fieldNumbers fields = fields.flatMap fun field => field.2.numbers := by
  induction fields with
  | nil => rfl
  | cons field fields ih => rw [fieldNumbers, ih, List.flatMap_cons]

theorem forall_mem_numbers_array {P : Number → Prop} {items : List Json} :
    (∀ n ∈ numbers (.array items), P n) ↔ ∀ v ∈ items, ∀ n ∈ v.numbers, P n := by
  rw [numbers, itemNumbers_eq_flatMap, List.forall_mem_flatMap]

theorem forall_mem_numbers_object {P : Number → Prop} {fields : List (String × Json)} :
    (∀ n ∈ numbers (.object fields), P n) ↔ ∀ field ∈ fields, ∀ n ∈ field.2.numbers, P n := by
  rw [numbers, fieldNumbers_eq_flatMap, List.forall_mem_flatMap]

inductive Fits : Nat → Json → Prop where
  | null (n : Nat) : Fits n .null
  | bool (n : Nat) (b : Bool) : Fits n (.bool b)
  | number (n : Nat) (x : Number) : Fits n (.number x)
  | string (n : Nat) (s : String) : Fits n (.string s)
  | array {n : Nat} {items : List Json} (h : ∀ v ∈ items, Fits n v) : Fits (n + 1) (.array items)
  | object {n : Nat} {fields : List (String × Json)} (h : ∀ field ∈ fields, Fits n field.2) :
    Fits (n + 1) (.object fields)

end CommitPolicy.Json
