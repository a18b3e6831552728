import CommitPolicy.Json.Parser
import CommitPolicy.Proofs.Json.Induction

namespace CommitPolicy.Json

def room (stack : List Frame) : Nat := maxDepth - stack.length

def Frame.values : Frame → List Json
  | .array items => items
  | .object fields _ => fields.map (·.2)

/-- Everything read so far fits into what was left when its array or object had been opened. -/
def StackFits : List Frame → Prop
  | [] => True
  | frame :: below =>
    below.length < maxDepth ∧ (∀ v ∈ frame.values, v.Fits (room (frame :: below))) ∧
      StackFits below

def FieldsFit (fields : List (String × Json)) (stack : List Frame) : Prop :=
  stack.length < maxDepth ∧ (∀ field ∈ fields, field.2.Fits (maxDepth - (stack.length + 1))) ∧
    StackFits stack

def ReadState.Fits : ReadState → Prop
  | .value stack => StackFits stack
  | .arrayStart stack => stack.length < maxDepth ∧ StackFits stack
  | .objectStart stack => FieldsFit [] stack
  | .key fields stack => FieldsFit fields stack
  | .colon fields _ stack => FieldsFit fields stack
  | .ended v stack => v.Fits (room stack) ∧ StackFits stack

variable {stack : List Frame} {s s' : ReadState} {t : Token}

theorem room_cons (frame : Frame) (stack : List Frame) :
    room (frame :: stack) = maxDepth - (stack.length + 1) := rfl

theorem room_eq_succ (h : stack.length < maxDepth) :
    room stack = maxDepth - (stack.length + 1) + 1 := by
  rw [room]
  omega

theorem fieldsFit_nil (h : stack.length < maxDepth) (hstack : StackFits stack) :
    FieldsFit [] stack := ⟨h, List.forall_mem_nil _, hstack⟩

theorem stackFits_object {fields : List (String × Json)} {k : String} :
    StackFits (.object fields k :: stack) ↔ FieldsFit fields stack := by
  rw [StackFits, FieldsFit, Frame.values, List.forall_mem_map, room_cons]

theorem fits_of_startValue? (hstack : StackFits stack) (h : startValue? stack t = some s) :
    s.Fits := by
  cases t with
  | null => cases h; exact ⟨.null _, hstack⟩
  | bool b => cases h; exact ⟨.bool _ b, hstack⟩
  | number n => cases h; exact ⟨.number _ n, hstack⟩
  | string s => cases h; exact ⟨.string _ s, hstack⟩
  | openBracket =>
    obtain ⟨hroom, ⟨⟩⟩ := Option.ite_none_right_eq_some.1 h
    exact ⟨hroom, hstack⟩
  | openBrace =>
    obtain ⟨hroom, ⟨⟩⟩ := Option.ite_none_right_eq_some.1 h
    exact fieldsFit_nil hroom hstack
  | closeBrace | closeBracket | comma | colon => cases h

theorem stackFits_array_nil (h : stack.length < maxDepth) (hstack : StackFits stack) :
    StackFits (.array [] :: stack) := ⟨h, List.forall_mem_nil _, hstack⟩

theorem stackFits_array_cons {v : Json} {items : List Json}
    (h : StackFits (.array items :: stack)) (hv : v.Fits (room (.array items :: stack))) :
    StackFits (.array (v :: items) :: stack) :=
  ⟨h.1, List.forall_mem_cons.2 ⟨hv, h.2.1⟩, h.2.2⟩

theorem fieldsFit_cons {v : Json} {k : String} {fields : List (String × Json)}
    (h : StackFits (.object fields k :: stack)) (hv : v.Fits (room (.object fields k :: stack))) :
    FieldsFit ((k, v) :: fields) stack := by
  obtain ⟨hroom, hfields, hstack⟩ := stackFits_object.1 h
  exact ⟨hroom, List.forall_mem_cons.2 ⟨hv, hfields⟩, hstack⟩

theorem fits_array_reverse {items : List Json} (h : StackFits (.array items :: stack)) :
    Fits (room stack) (.array items.reverse) := by
  rw [room_eq_succ h.1]
  exact .array fun v hv => h.2.1 v (List.mem_reverse.1 hv)

theorem fits_object_reverse {fields : List (String × Json)} (h : FieldsFit fields stack) :
    Fits (room stack) (.object fields.reverse) := by
  rw [room_eq_succ h.1]
  exact .object fun field hfield => h.2.1 field (List.mem_reverse.1 hfield)

theorem fits_of_step? (hs : s.Fits) (h : s.step? t = some s') : s'.Fits := by
  rw [ReadState.step?.eq_def] at h
  split at h
  · exact fits_of_startValue? hs h
  · cases h
    have hempty := fits_array_reverse (stackFits_array_nil hs.1 hs.2)
    exact ⟨hempty, hs.2⟩
  · exact fits_of_startValue? (stackFits_array_nil hs.1 hs.2) h
  · cases h
    exact ⟨fits_object_reverse hs, hs.2.2⟩
  · cases h
    exact hs
  · cases h
    exact hs
  · cases h
    exact stackFits_object.2 hs
  · cases h
    exact stackFits_array_cons hs.2 hs.1
  · cases h
    exact ⟨fits_array_reverse (stackFits_array_cons hs.2 hs.1), hs.2.2.2⟩
  · cases h
    exact fieldsFit_cons hs.2 hs.1
  · cases h
    exact ⟨fits_object_reverse (fieldsFit_cons hs.2 hs.1), hs.2.2.2⟩
  · cases h

theorem fits_of_foldlM {ts : List Token} (hs : s.Fits)
    (h : ts.foldlM ReadState.step? s = some s') : s'.Fits := by
  induction ts generalizing s with
  | nil =>
    cases h
    exact hs
  | cons t ts ih =>
    obtain ⟨next, hnext, hrest⟩ := Option.bind_eq_some_iff.1 h
    exact ih (fits_of_step? hs hnext) hrest

/-- What is read from a text is not nested more deeply than the reader allows. -/
theorem fits_of_parse? {text : String} {v : Json} (h : parse? text = some v) :
    v.Fits maxDepth := by
  obtain ⟨ts, -, hread⟩ := Option.bind_eq_some_iff.1 h
  obtain ⟨final, hfinal, hresult⟩ := Option.bind_eq_some_iff.1 hread
  have hstart : (ReadState.value []).Fits := trivial
  have hfits := fits_of_foldlM hstart hfinal
  rw [ReadState.result?.eq_def] at hresult
  split at hresult
  · cases hresult
    exact hfits.1
  · cases hresult

end CommitPolicy.Json
