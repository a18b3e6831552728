import CommitPolicy.Check.Code
import CommitPolicy.Proofs.Text.OneLine

namespace CommitPolicy

open Text (Lacks)

def isNameChar (c : Char) : Bool := c.isLower || c == '.' || c == '_'

namespace CheckId

theorem isNameChar_of_mem_name (c : CheckId) : ∀ x ∈ c.name.toList, isNameChar x := by
  rw [← List.all_eq_true]
  cases c <;> rfl

theorem lacks_name {x : Char} (hx : ¬ isNameChar x) (c : CheckId) : Lacks x c.name :=
  fun hmem => hx (c.isNameChar_of_mem_name x hmem)

theorem ofName?_eq_some_iff {name : String} {c : CheckId} :
    ofName? name = some c ↔ name = c.name := by
  constructor
  · intro h
    have hc := List.find?_some h
    exact (beq_iff_eq.1 hc).symm
  · rintro rfl
    cases c <;> rfl

theorem name_injective : Function.Injective CheckId.name := by
  intro c d h
  have hc : ofName? c.name = some c := ofName?_eq_some_iff.2 rfl
  have hd : ofName? c.name = some d := ofName?_eq_some_iff.2 h
  exact Option.some.inj (hc.symm.trans hd)

end CheckId

namespace Code

theorem isNameChar_of_mem_name (k : Code) : ∀ x ∈ k.name.toList, isNameChar x := by
  rw [← List.all_eq_true]
  cases k with
  | scope reason => cases reason <;> rfl
  | _ => rfl

theorem lacks_name {x : Char} (hx : ¬ isNameChar x) (k : Code) : Lacks x k.name :=
  fun hmem => hx (k.isNameChar_of_mem_name x hmem)

theorem ofName?_eq_some_iff {name : String} {k : Code} : ofName? name = some k ↔ name = k.name := by
  constructor
  · intro h
    have hk := List.find?_some h
    exact (beq_iff_eq.1 hk).symm
  · rintro rfl
    cases k with
    | scope reason => cases reason <;> rfl
    | _ => rfl

theorem name_injective : Function.Injective Code.name := by
  intro k l h
  have hk : ofName? k.name = some k := ofName?_eq_some_iff.2 rfl
  have hl : ofName? k.name = some l := ofName?_eq_some_iff.2 h
  exact Option.some.inj (hk.symm.trans hl)

theorem ofName?_checkName (c : CheckId) : ofName? c.name = none := by
  cases c <;> rfl

end Code

theorem ScopeReason.ofCodeName?_eq_some_iff {name : String} {r : ScopeReason} :
    ofCodeName? name = some r ↔ name = (Code.scope r).name := by
  constructor
  · intro h
    have hr := List.find?_some h
    exact (beq_iff_eq.1 hr).symm
  · rintro rfl
    cases r <;> rfl

end CommitPolicy
