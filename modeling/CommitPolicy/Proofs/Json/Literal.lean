import CommitPolicy.Json.Printer
import CommitPolicy.Json.Token
import CommitPolicy.Proofs.Digest.Sha256
import Mathlib.Data.List.Forall2

namespace CommitPolicy

namespace Json

open Digest.Sha256 (hexDigit hexDigit?_hexDigit)

def IsPlain (c : Char) : Prop := c ≠ '\x22' ∧ c ≠ '\\' ∧ ¬ c.toNat < 0x20

instance (c : Char) : Decidable (IsPlain c) := by
  unfold IsPlain
  infer_instance

theorem isPlain_hexDigit {n : Nat} (h : n < 16) : IsPlain (hexDigit n) := by
  have hall : ∀ n < 16, IsPlain (hexDigit n) := by decide
  exact hall n h

theorem stringBody?_cons {c : Char} (h : IsPlain c) (cs : List Char) :
    stringBody? (c :: cs) = (stringBody? cs).map fun (body, after) => (c :: body, after) := by
  rw [stringBody?.eq_def]
  split
  · rename_i he
    cases he
  · rename_i he
    cases he
    exact absurd rfl h.1
  · rename_i he
    cases he
    exact absurd rfl h.2.1
  · rename_i he
    cases he
    rw [if_neg h.2.2]

theorem stringBody?_escapeChar (c : Char) (cs : List Char) :
    stringBody? (escapeChar c ++ cs) =
      (stringBody? cs).map fun (body, after) => (escapeChar c ++ body, after) := by
  rw [escapeChar.eq_def]
  split
  iterate 7 rfl
  rename_i hquote hslash _ _ _ _ _
  split
  · rename_i hcontrol
    have hhigh : IsPlain (hexDigit (c.toNat / 16)) := isPlain_hexDigit (by omega)
    have hlow : IsPlain (hexDigit (c.toNat % 16)) := isPlain_hexDigit (by omega)
    simp only [List.cons_append, List.nil_append, stringBody?]
    rw [stringBody?_cons (by decide), stringBody?_cons (by decide), stringBody?_cons hhigh,
      stringBody?_cons hlow]
    simp only [Option.map_map]
    rfl
  · rename_i hcontrol
    exact stringBody?_cons ⟨hquote, hslash, hcontrol⟩ cs

theorem stringBody?_escaped (cs rest : List Char) :
    stringBody? (cs.flatMap escapeChar ++ '\x22' :: rest) =
      some (cs.flatMap escapeChar, rest) := by
  induction cs with
  | nil => rfl
  | cons c cs ih =>
    rw [List.flatMap_cons, List.append_assoc, stringBody?_escapeChar, ih]
    rfl

inductive StringUnit.StandsFor : StringUnit → Char → Prop where
  | char (c : Char) : StandsFor (.char c) c
  | unit (c : Char) (h : c.toNat < 0x20) : StandsFor (.unit c.toNat) c

theorem hexNat?_hexDigit {n : Nat} (h : n < 256) :
    Text.hexNat? ['0', '0', hexDigit (n / 16), hexDigit (n % 16)] = some n := by
  have hhigh : Text.hexDigit? (hexDigit (n / 16)) = some (n / 16) := hexDigit?_hexDigit (by omega)
  have hlow : Text.hexDigit? (hexDigit (n % 16)) = some (n % 16) := hexDigit?_hexDigit (by omega)
  have hzero : Text.hexDigit? '0' = some 0 := rfl
  simp only [Text.hexNat?, List.foldlM_cons, List.foldlM_nil, hhigh, hlow, hzero, Option.map_some,
    Option.bind_eq_bind, Option.bind_some, Option.pure_def]
  congr 1
  omega

theorem stringUnits?_escapeChar (c : Char) :
    ∃ u : StringUnit, u.StandsFor c ∧
      ∀ cs, stringUnits? (escapeChar c ++ cs) = (stringUnits? cs).map (u :: ·) := by
  rw [escapeChar.eq_def]
  split
  iterate 7 exact ⟨_, .char _, fun cs => rfl⟩
  rename_i hslash _ _ _ _ _
  split
  · rename_i hcontrol
    refine ⟨_, .unit c hcontrol, fun cs => ?_⟩
    simp only [List.cons_append, List.nil_append, stringUnits?,
      hexNat?_hexDigit (n := c.toNat) (by omega)]
    rfl
  · refine ⟨_, .char c, fun cs => ?_⟩
    rw [List.singleton_append, stringUnits?.eq_def]
    split
    · rename_i he
      cases he
    · rename_i he
      cases he
      exact absurd rfl hslash
    · rename_i he
      cases he
      exact absurd rfl hslash
    · rename_i he
      cases he
      rfl

theorem stringUnits?_escaped (cs : List Char) :
    ∃ units, List.Forall₂ StringUnit.StandsFor units cs ∧
      stringUnits? (cs.flatMap escapeChar) = some units := by
  induction cs with
  | nil => exact ⟨[], .nil, rfl⟩
  | cons c cs ih =>
    obtain ⟨units, hunits, hread⟩ := ih
    obtain ⟨u, hu, hfirst⟩ := stringUnits?_escapeChar c
    refine ⟨u :: units, .cons hu hunits, ?_⟩
    rw [List.flatMap_cons, hfirst, hread]
    rfl

theorem joinUnits?_unit_cons {n : Nat} (hhigh : isHighSurrogate n = false)
    (hlow : isLowSurrogate n = false) (units : List StringUnit) :
    joinUnits? (.unit n :: units) = (joinUnits? units).map (Char.ofNat n :: ·) := by
  rw [joinUnits?.eq_def]
  split
  · rename_i he
    cases he
  · rename_i he
    cases he
  · rename_i he
    cases he
    simp [hhigh, hlow]
  · rename_i he
    cases he
    simp [hhigh, hlow]

theorem joinUnits?_of_forall₂ {units : List StringUnit} {cs : List Char}
    (h : List.Forall₂ StringUnit.StandsFor units cs) : joinUnits? units = some cs := by
  induction h with
  | nil => rfl
  | @cons u c units cs hu _ ih =>
    cases hu with
    | char =>
      rw [joinUnits?, ih]
      rfl
    | unit _ hcontrol =>
      have hhigh : isHighSurrogate c.toNat = false := by
        simp only [isHighSurrogate, Bool.and_eq_false_iff, decide_eq_false_iff_not]
        omega
      have hlow : isLowSurrogate c.toNat = false := by
        simp only [isLowSurrogate, Bool.and_eq_false_iff, decide_eq_false_iff_not]
        omega
      rw [joinUnits?_unit_cons hhigh hlow, ih, Option.map_some, Char.ofNat_toNat]

theorem decodeString?_escaped (s : String) :
    decodeString? (s.toList.flatMap escapeChar) = some s := by
  obtain ⟨units, hunits, hread⟩ := stringUnits?_escaped s.toList
  rw [decodeString?, hread, Option.bind_some, joinUnits?_of_forall₂ hunits, Option.map_some,
    String.ofList_toList]

/-- A whole number that fits into 64 bits, with a sign where it is negative. -/
def Number.IsExact : Number → Prop
  | .int n => -(Nat.pow 2 63 : Int) ≤ n ∧ n < (Nat.pow 2 64 : Int)
  | .float _ => False

instance (n : Number) : Decidable n.IsExact :=
  match n with
  | .int n => inferInstanceAs (Decidable (-(Nat.pow 2 63 : Int) ≤ n ∧ n < (Nat.pow 2 64 : Int)))
  | .float _ => .isFalse id

/-- What may follow a printed value. -/
def EndsValue (rest : List Char) : Prop := ∀ c ∈ rest.head?, c = ',' ∨ c = '\n'

theorem zero_not_mem_head?_toDigits {n : Nat} (h : 0 < n) : '0' ∉ (Nat.toDigits 10 n).head? := by
  induction n using Nat.strongRecOn with
  | ind n ih =>
    rw [Nat.toDigits_eq_if (by decide)]
    split
    · rename_i hn
      have hall : ∀ n < 10, 0 < n → '0' ∉ [Nat.digitChar n].head? := by decide
      exact hall n hn h
    · rename_i hn
      have hfront := ih (n / 10) (by omega) (by omega)
      rwa [List.head?_append_of_ne_nil _ Nat.toDigits_ne_nil]

theorem isDigit_of_mem_toDigits {n : Nat} {c : Char} (h : c ∈ Nat.toDigits 10 n) : c.isDigit :=
  Nat.isDigit_of_mem_toDigits (by decide) (by decide) h

section Rest

variable {rest : List Char} (hrest : EndsValue rest)
include hrest

theorem EndsValue.head_ne {c : Char} (hc : c ≠ ',' ∧ c ≠ '\n') : c ∉ rest.head? :=
  fun h => (hrest c h).elim hc.1 hc.2

theorem EndsValue.takeWhile_isDigit : rest.takeWhile Char.isDigit = [] := by
  cases rest with
  | nil => rfl
  | cons c rest =>
    have hdigit : ¬ c.isDigit := by
      rcases hrest c rfl with rfl | rfl <;> decide
    rw [List.takeWhile_cons_of_neg hdigit]

theorem EndsValue.dropWhile_isDigit : rest.dropWhile Char.isDigit = rest := by
  cases rest with
  | nil => rfl
  | cons c rest =>
    have hdigit : ¬ c.isDigit := by
      rcases hrest c rfl with rfl | rfl <;> decide
    rw [List.dropWhile_cons_of_neg hdigit]

theorem whole?_toDigits (n : Nat) :
    whole? (Nat.toDigits 10 n ++ rest) = some (Nat.toDigits 10 n, rest) := by
  rcases Nat.eq_zero_or_pos n with rfl | hn
  · rfl
  rw [whole?.eq_def]
  split
  · rename_i he
    have hhead : (Nat.toDigits 10 n ++ rest).head? = (Nat.toDigits 10 n).head? :=
      List.head?_append_of_ne_nil _ Nat.toDigits_ne_nil
    refine absurd ?_ (zero_not_mem_head?_toDigits hn)
    rw [← hhead, he]
    rfl
  · dsimp only
    rw [List.takeWhile_append_of_pos fun c hc => isDigit_of_mem_toDigits hc,
      List.dropWhile_append_of_pos fun c hc => isDigit_of_mem_toDigits hc,
      hrest.takeWhile_isDigit, hrest.dropWhile_isDigit, List.append_nil, if_neg]
    simp [Nat.toDigits_ne_nil]

theorem fraction?_of_endsValue : fraction? rest = some (none, rest) := by
  rw [fraction?.eq_def]
  split
  · exact absurd rfl (hrest.head_ne (c := '.') (by decide))
  · rfl

theorem exponent?_of_endsValue : exponent? rest = some (none, rest) := by
  rw [exponent?.eq_def]
  split
  · rename_i c cs
    rw [if_neg]
    rintro (rfl | rfl)
    · exact hrest.head_ne (c := 'e') (by decide) rfl
    · exact hrest.head_ne (c := 'E') (by decide) rfl
  · rfl

end Rest

theorem le_ofDigitChars (digits : List Char) (n : Nat) : n ≤ Nat.ofDigitChars 10 digits n := by
  induction digits generalizing n with
  | nil => exact Nat.le_refl n
  | cons d ds ih =>
    have hrest := ih (10 * n + (d.toNat - '0'.toNat))
    rw [Nat.ofDigitChars_cons]
    omega

theorem significand_eq {digits : List Char} {n : Nat}
    (h : Nat.ofDigitChars 10 digits n ≤ maxWhole) :
    significand n digits = (Nat.ofDigitChars 10 digits n, 0) := by
  induction digits generalizing n with
  | nil => rfl
  | cons d ds ih =>
    rw [Nat.ofDigitChars_cons] at h ⊢
    rw [significand, if_pos (Nat.le_trans (le_ofDigitChars ds _) h), ih h]

theorem significand_toDigits {n : Nat} (h : n ≤ maxWhole) :
    significand 0 (Nat.toDigits 10 n) = (n, 0) := by
  have hvalue : Nat.ofDigitChars 10 (Nat.toDigits 10 n) 0 = n :=
    Nat.ofDigitChars_toDigits (by decide) (by decide)
  rw [significand_eq (by rw [hvalue]; exact h), hvalue]

theorem literal?_toDigits {rest : List Char} (hrest : EndsValue rest) (n : Nat) :
    literal? (Nat.toDigits 10 n ++ rest) = some (⟨false, Nat.toDigits 10 n, none, none⟩, rest) ∧
    literal? ('-' :: (Nat.toDigits 10 n ++ rest)) =
      some (⟨true, Nat.toDigits 10 n, none, none⟩, rest) := by
  have hwhole := whole?_toDigits hrest n
  have hfraction := fraction?_of_endsValue hrest
  have hexponent := exponent?_of_endsValue hrest
  constructor
  · rw [literal?]
    · simp [hwhole, hfraction, hexponent]
    · intro cs he
      have hminus : '-' ∈ Nat.toDigits 10 n := by
        cases hdigits : Nat.toDigits 10 n with
        | nil => exact absurd hdigits Nat.toDigits_ne_nil
        | cons d ds =>
          rw [hdigits, List.cons_append] at he
          exact List.mem_cons.2 (.inl (List.cons.inj he).1.symm)
      cases isDigit_of_mem_toDigits hminus
  · rw [literal?]
    simp [hwhole, hfraction, hexponent]

theorem value?_of_isExact {n : Int} (h : (Number.int n).IsExact) :
    (Literal.mk (n < 0) (Nat.toDigits 10 n.natAbs) none none).value? = some (.int n) := by
  have hpow : Nat.pow 2 63 = 9223372036854775808 := rfl
  have hpow' : Nat.pow 2 64 = 18446744073709551616 := rfl
  obtain ⟨hlow, hhigh⟩ := h
  rw [hpow] at hlow
  rw [hpow'] at hhigh
  have hmax : n.natAbs ≤ maxWhole := by
    rw [maxWhole, hpow']
    omega
  rw [Literal.value?, significand_toDigits hmax]
  dsimp only
  by_cases hneg : n < 0
  · have hwhole : 0 < n.natAbs ∧ n.natAbs ≤ Nat.pow 2 63 := by
      rw [hpow]
      omega
    rw [if_neg (by simp [hneg]), if_pos ⟨rfl, hwhole⟩]
    congr 2
    omega
  · rw [if_pos (by simp [hneg])]
    congr 2
    omega

theorem token?_eq_number {c : Char} (h : c.isDigit ∨ c = '-') (rest : List Char) :
    token? c rest = (literal? (c :: rest)).bind fun (literal, after) =>
      literal.value?.bind fun n => some (.number n, after) := by
  rw [token?.eq_def]
  split
  iterate 10
    rcases h with h | h <;> cases h
  rfl

theorem print_int (n : Int) :
    (Number.int n).print =
      if n < 0 then '-' :: Nat.toDigits 10 n.natAbs else Nat.toDigits 10 n.natAbs := by
  rw [Number.print, Int.toString_eq_repr, Int.repr_eq_if]
  by_cases hneg : n < 0
  · have habs : (-n).toNat = n.natAbs := by omega
    rw [if_neg (by omega), if_pos hneg, String.toList_append, Nat.toList_repr, habs]
    rfl
  · have habs : n.toNat = n.natAbs := by omega
    rw [if_pos (by omega), if_neg hneg, Nat.toList_repr, habs]

theorem token?_number {n : Number} (h : n.IsExact) :
    ∃ c cs, n.print = c :: cs ∧ isSpace c = false ∧
      ∀ rest, EndsValue rest → token? c (cs ++ rest) = some (.number n, rest) := by
  cases n with
  | float x => exact absurd h id
  | int n =>
    have hvalue := value?_of_isExact h
    rw [print_int]
    by_cases hneg : n < 0
    · rw [decide_eq_true hneg] at hvalue
      rw [if_pos hneg]
      refine ⟨'-', Nat.toDigits 10 n.natAbs, rfl, rfl, fun rest hrest => ?_⟩
      rw [token?_eq_number (.inr rfl), (literal?_toDigits hrest n.natAbs).2, Option.bind_some]
      dsimp only
      rw [hvalue, Option.bind_some]
    · rw [decide_eq_false hneg] at hvalue
      rw [if_neg hneg]
      cases hdigits : Nat.toDigits 10 n.natAbs with
      | nil => exact absurd hdigits Nat.toDigits_ne_nil
      | cons d ds =>
        have hdigit : d.isDigit := isDigit_of_mem_toDigits (hdigits ▸ List.mem_cons_self)
        refine ⟨d, ds, rfl, ?_, fun rest hrest => ?_⟩
        · cases hspace : isSpace d with
          | false => rfl
          | true =>
            simp only [isSpace, Bool.or_eq_true, beq_iff_eq] at hspace
            rcases hspace with ((rfl | rfl) | rfl) | rfl <;> cases hdigit
        · rw [token?_eq_number (.inl hdigit), ← List.cons_append, ← hdigits,
            (literal?_toDigits hrest n.natAbs).1, Option.bind_some]
          dsimp only
          rw [hvalue, Option.bind_some]

end Json

end CommitPolicy
