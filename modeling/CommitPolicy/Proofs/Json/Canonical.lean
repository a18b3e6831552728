import CommitPolicy.Proofs.Json.Induction
import Mathlib.Data.String.Basic

namespace CommitPolicy.Json

variable {fields : List (String × Json)} {key : String} {value : Json}

def SortedFields (fields : List (String × Json)) : Prop := fields.Pairwise fun f g => f.1 < g.1

instance (fields : List (String × Json)) : Decidable (SortedFields fields) :=
  inferInstanceAs (Decidable (fields.Pairwise fun f g => f.1 < g.1))

theorem mem_insertField {field : String × Json} (h : field ∈ insertField key value fields) :
    field = (key, value) ∨ field ∈ fields := by
  induction fields with
  | nil => exact .inl (List.mem_singleton.1 h)
  | cons first fields ih =>
    rw [insertField] at h
    split at h
    · exact List.mem_cons.1 h
    · split at h
      · exact (List.mem_cons.1 h).imp_right (List.mem_cons_of_mem first)
      · rcases List.mem_cons.1 h with rfl | h
        · exact .inr List.mem_cons_self
        · exact (ih h).imp_right (List.mem_cons_of_mem first)

theorem SortedFields.insertField (h : SortedFields fields) :
    SortedFields (insertField key value fields) := by
  induction fields with
  | nil => exact List.pairwise_singleton _ _
  | cons first fields ih =>
    obtain ⟨hfirst, hfields⟩ := List.pairwise_cons.1 h
    rw [Json.insertField]
    split
    · rename_i hlt
      refine List.pairwise_cons.2 ⟨?_, h⟩
      exact List.forall_mem_cons.2 ⟨hlt, fun field hfield => hlt.trans (hfirst field hfield)⟩
    · rename_i hnlt
      split
      · rename_i heq
        exact List.pairwise_cons.2 ⟨fun field hfield => heq ▸ hfirst field hfield, hfields⟩
      · rename_i hne
        refine List.pairwise_cons.2 ⟨fun field hfield => ?_, ih hfields⟩
        rcases mem_insertField hfield with rfl | hfield
        · exact lt_of_le_of_ne (not_lt.1 hnlt) (Ne.symm hne)
        · exact hfirst field hfield

theorem insertField_of_forall_lt (h : ∀ field ∈ fields, field.1 < key) :
    insertField key value fields = fields ++ [(key, value)] := by
  induction fields with
  | nil => rfl
  | cons first fields ih =>
    obtain ⟨hfirst, hfields⟩ := List.forall_mem_cons.1 h
    rw [insertField, if_neg hfirst.not_gt, if_neg hfirst.ne', ih hfields, List.cons_append]

/-- The fields of every object are sorted by name, without repetition. -/
inductive IsCanonical : Json → Prop where
  | null : IsCanonical .null
  | bool (b : Bool) : IsCanonical (.bool b)
  | number (n : Number) : IsCanonical (.number n)
  | string (s : String) : IsCanonical (.string s)
  | array {items : List Json} (h : ∀ v ∈ items, IsCanonical v) : IsCanonical (.array items)
  | object {fields : List (String × Json)} (hsorted : SortedFields fields)
    (h : ∀ field ∈ fields, IsCanonical field.2) : IsCanonical (.object fields)

theorem canonical_array (items : List Json) :
    canonical (.array items) = .array (items.map canonical) := by
  rw [canonical, canonicalItems_eq_map]

theorem sortedFields_canonicalFields {sorted : List (String × Json)} (h : SortedFields sorted) :
    SortedFields (canonicalFields sorted fields) := by
  induction fields generalizing sorted with
  | nil => exact h
  | cons field fields ih => exact ih h.insertField

theorem forall_mem_canonicalFields {P : Json → Prop} {sorted : List (String × Json)}
    (hsorted : ∀ field ∈ sorted, P field.2) (h : ∀ field ∈ fields, P field.2.canonical) :
    ∀ field ∈ canonicalFields sorted fields, P field.2 := by
  induction fields generalizing sorted with
  | nil => exact hsorted
  | cons first fields ih =>
    obtain ⟨hfirst, hfields⟩ := List.forall_mem_cons.1 h
    refine ih (fun field hfield => ?_) hfields
    rcases mem_insertField hfield with rfl | hfield
    · exact hfirst
    · exact hsorted field hfield

theorem isCanonical_canonical (v : Json) : v.canonical.IsCanonical := by
  induction v with
  | null => exact .null
  | bool b => exact .bool b
  | number n => exact .number n
  | string s => exact .string s
  | array items ih =>
    rw [canonical_array]
    exact .array (List.forall_mem_map.2 ih)
  | object fields ih =>
    rw [Json.canonical]
    exact .object (sortedFields_canonicalFields .nil)
      (forall_mem_canonicalFields (List.forall_mem_nil _) ih)

theorem Fits.canonical {n : Nat} {v : Json} (h : v.Fits n) : v.canonical.Fits n := by
  induction v generalizing n with
  | null | bool b | number x | string s => exact h
  | array items ih =>
    cases h with
    | array h =>
      rw [canonical_array]
      exact .array (List.forall_mem_map.2 fun v hv => ih v hv (h v hv))
  | object fields ih =>
    cases h with
    | object h =>
      rw [Json.canonical]
      exact .object (forall_mem_canonicalFields (List.forall_mem_nil _)
        fun field hfield => ih field hfield (h field hfield))

theorem canonicalFields_of_sorted {sorted : List (String × Json)}
    (hsorted : SortedFields (sorted ++ fields))
    (h : ∀ field ∈ fields, field.2.canonical = field.2) :
    canonicalFields sorted fields = sorted ++ fields := by
  induction fields generalizing sorted with
  | nil => rw [canonicalFields, List.append_nil]
  | cons field fields ih =>
    obtain ⟨hfield, hfields⟩ := List.forall_mem_cons.1 h
    have hbefore : ∀ f ∈ sorted, f.1 < field.1 := fun f hf =>
      (List.pairwise_append.1 hsorted).2.2 f hf field List.mem_cons_self
    rw [List.append_cons] at hsorted ⊢
    rw [canonicalFields, hfield, insertField_of_forall_lt hbefore, ih hsorted hfields]

theorem IsCanonical.canonical_eq {v : Json} (h : v.IsCanonical) : v.canonical = v := by
  induction v with
  | null | bool b | number x | string s => rfl
  | array items ih =>
    cases h with
    | array h =>
      rw [canonical_array, List.map_congr_left fun v hv => ih v hv (h v hv), List.map_id']
  | object fields ih =>
    cases h with
    | object hsorted h =>
      have hfields : SortedFields ([] ++ fields) := hsorted
      rw [canonical, canonicalFields_of_sorted hfields
        fun field hfield => ih field hfield (h field hfield), List.nil_append]

end CommitPolicy.Json
