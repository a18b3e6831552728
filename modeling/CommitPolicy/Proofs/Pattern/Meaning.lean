import CommitPolicy.Pattern.Expr
import Mathlib.Logic.Function.Iterate
import Mathlib.Order.Nat

namespace CommitPolicy.Pattern

namespace CharSet

theorem contains_range {a b c : Char} :
    (range a b).contains c ↔ a.toNat ≤ c.toNat ∧ c.toNat ≤ b.toNat := by
  simp only [contains, Bool.and_eq_true, decide_eq_true_eq]
  exact Iff.rfl

theorem contains_char {c d : Char} : (char d).contains c ↔ c = d := by
  rw [char, contains_range, ← Char.toNat_inj]
  omega

theorem contains_unionOf {sets : List CharSet} {c : Char} :
    (unionOf sets).contains c ↔ ∃ set ∈ sets, set.contains c := by
  induction sets with
  | nil => simp [unionOf, contains]
  | cons set sets ih => simpa [unionOf, contains] using or_congr_right ih

end CharSet

def Chain (step : Nat → Nat → Prop) : Nat → Nat → Nat → Prop
  | 0, i, j => i = j
  | n + 1, i, j => ∃ k, step i k ∧ Chain step n k j

/-- The expression matches what stands between two positions. -/
def Expr.Spans (text : Array Char) : Expr → Nat → Nat → Prop
  | .empty, i, j => i = j
  | .set s, i, j => (∃ c, text[i]? = some c ∧ s.contains c) ∧ i + 1 = j
  | .assert a, i, j => i = j ∧ a.holds (before? text i) text[i]?
  | .seq a b, i, j => ∃ k, a.Spans text i k ∧ b.Spans text k j
  | .alt a b, i, j => a.Spans text i j ∨ b.Spans text i j
  | .repeated a least most, i, j =>
    ∃ more, (∀ m ∈ most, more ≤ m - least) ∧ Chain (a.Spans text) (least + more) i j

section Chain

variable {step : Nat → Nat → Prop} {m n i j k : Nat}

theorem chain_add : Chain step (m + n) i j ↔ ∃ k, Chain step m i k ∧ Chain step n k j := by
  induction m generalizing i with
  | zero => simp [Chain]
  | succ m ih =>
    rw [Nat.succ_add]
    simp only [Chain, ih]
    constructor
    · rintro ⟨a, hia, b, hab, hbj⟩
      exact ⟨b, ⟨a, hia, hab⟩, hbj⟩
    · rintro ⟨b, ⟨a, hia, hab⟩, hbj⟩
      exact ⟨a, hia, b, hab, hbj⟩

theorem chain_one : Chain step 1 i j ↔ step i j := by simp [Chain]

theorem Chain.mem_of_closed {here : List Nat} (hclosed : ∀ i ∈ here, ∀ j, step i j → j ∈ here)
    (h : Chain step n i j) (hi : i ∈ here) : j ∈ here := by
  induction n generalizing i with
  | zero => exact h ▸ hi
  | succ n ih =>
    obtain ⟨k, hik, hkj⟩ := h
    exact ih hkj (hclosed i hi k hik)

variable (hle : ∀ i j, step i j → i ≤ j)

include hle

theorem Chain.le (h : Chain step n i j) : i ≤ j := by
  induction n generalizing i with
  | zero => exact h.le
  | succ n ih =>
    obtain ⟨k, hik, hkj⟩ := h
    exact (hle i k hik).trans (ih hkj)

/-- Steps that go nowhere can be left out: no more are needed than there are positions between. -/
theorem Chain.exists_short (h : Chain step n i j) :
    ∃ m, m ≤ n ∧ m ≤ j - i ∧ Chain step m i j := by
  induction n generalizing i with
  | zero => exact ⟨0, Nat.le_refl 0, Nat.zero_le _, h⟩
  | succ n ih =>
    obtain ⟨k, hik, hkj⟩ := h
    obtain ⟨m, hmn, hm, hshort⟩ := ih hkj
    have hkj' := Chain.le hle hkj
    rcases (hle i k hik).eq_or_lt with rfl | hlt
    · exact ⟨m, by omega, hm, hshort⟩
    · exact ⟨m + 1, by omega, by omega, k, hik, hshort⟩

end Chain

theorem mem_mergePositions {xs ys : List Nat} {j : Nat} :
    j ∈ mergePositions xs ys ↔ j ∈ xs ∨ j ∈ ys := by
  fun_induction mergePositions xs ys with
  | case1 ys => simp
  | case2 xs hxs => simp
  | case3 x xs y ys h ih => simp [ih, or_assoc]
  | case4 x xs y ys h h' ih => simp [ih, or_left_comm]
  | case5 x xs y ys h h' ih =>
    obtain rfl : x = y := by omega
    simp [ih, or_assoc, or_left_comm]

theorem iterate_eq (step : List Nat → List Nat) (n : Nat) (here : List Nat) :
    iterate step n here = step^[n] here := by
  induction n generalizing here with
  | zero => rfl
  | succ n ih =>
    simp only [iterate, beq_iff_eq]
    split
    · rename_i hfix
      exact (Function.iterate_fixed hfix (n + 1)).symm
    · rw [ih, Function.iterate_succ_apply]

def Computes (step : List Nat → List Nat) (relation : Nat → Nat → Prop) : Prop :=
  ∀ here j, j ∈ step here ↔ ∃ i ∈ here, relation i j

namespace Computes

variable {step : List Nat → List Nat} {relation : Nat → Nat → Prop} (h : Computes step relation)

include h

theorem iterate (n : Nat) : Computes (iterate step n) (Chain relation n) := by
  intro here j
  rw [iterate_eq]
  induction n generalizing here with
  | zero => simp [Chain]
  | succ n ih =>
    rw [Function.iterate_succ_apply, ih]
    constructor
    · rintro ⟨k, hk, hkj⟩
      obtain ⟨i, hi, hik⟩ := (h here k).1 hk
      exact ⟨i, hi, k, hik, hkj⟩
    · rintro ⟨i, hi, k, hik, hkj⟩
      exact ⟨k, (h here k).2 ⟨i, hi, hik⟩, hkj⟩

theorem reach (n : Nat) :
    Computes (reach step n) fun i j => ∃ m, m ≤ n ∧ Chain relation m i j := by
  intro here j
  induction n generalizing here with
  | zero => simp [Pattern.reach, Chain]
  | succ n ih =>
    simp only [Pattern.reach, beq_iff_eq]
    have hnext : ∀ k, k ∈ mergePositions here (step here) ↔
        k ∈ here ∨ ∃ i ∈ here, relation i k := by
      intro k
      rw [mem_mergePositions, h here k]
    split
    · rename_i hfix
      rw [hfix] at hnext
      constructor
      · intro hj
        exact ⟨j, hj, 0, Nat.zero_le _, rfl⟩
      · rintro ⟨i, hi, m, -, hij⟩
        exact hij.mem_of_closed (fun i hi k hik => (hnext k).2 (.inr ⟨i, hi, hik⟩)) hi
    · rw [ih]
      constructor
      · rintro ⟨k, hk, m, hm, hkj⟩
        rcases (hnext k).1 hk with hk | ⟨i, hi, hik⟩
        · exact ⟨k, hk, m, by omega, hkj⟩
        · exact ⟨i, hi, m + 1, by omega, k, hik, hkj⟩
      · rintro ⟨i, hi, m, hm, hij⟩
        cases m with
        | zero => exact ⟨i, (hnext i).2 (.inl hi), 0, Nat.zero_le n, hij⟩
        | succ m =>
          obtain ⟨k, hik, hkj⟩ := hij
          exact ⟨k, (hnext k).2 (.inr ⟨i, hi, hik⟩), m, by omega, hkj⟩

end Computes

namespace Expr

variable {text : Array Char}

theorem Spans.bounds {e : Expr} {i j : Nat} (h : e.Spans text i j) :
    i ≤ j ∧ j ≤ max i text.size := by
  induction e generalizing i j with
  | empty => exact ⟨h.le, h ▸ Nat.le_max_left _ _⟩
  | set s =>
    obtain ⟨⟨c, hc, -⟩, rfl⟩ := h
    have hi := (Array.getElem?_eq_some_iff.1 hc).1
    omega
  | assert a => exact ⟨h.1.le, h.1 ▸ Nat.le_max_left _ _⟩
  | seq a b iha ihb =>
    obtain ⟨k, hik, hkj⟩ := h
    have ha := iha hik
    have hb := ihb hkj
    omega
  | alt a b iha ihb => exact h.elim iha ihb
  | repeated a least most ih =>
    obtain ⟨more, -, hchain⟩ := h
    generalize least + more = n at hchain
    induction n generalizing i with
    | zero =>
      obtain rfl : i = j := hchain
      exact ⟨Nat.le_refl i, Nat.le_max_left _ _⟩
    | succ n ihn =>
      obtain ⟨k, hik, hkj⟩ := hchain
      have ha := ih hik
      have hb := ihn hkj
      omega

theorem spans_seq_iff {a b : Expr} {i j : Nat} :
    (seq a b).Spans text i j ↔ ∃ k, a.Spans text i k ∧ b.Spans text k j := Iff.rfl

theorem spans_optional_iff {a : Expr} {i j : Nat} :
    (repeated a 0 (some 1)).Spans text i j ↔ i = j ∨ a.Spans text i j := by
  simp only [Spans, Option.mem_some_iff, forall_eq', Nat.sub_zero, Nat.zero_add]
  constructor
  · rintro ⟨more, hmore, h⟩
    obtain rfl | rfl := Nat.le_one_iff_eq_zero_or_eq_one.1 hmore
    · exact .inl h
    · exact .inr (chain_one.1 h)
  · rintro (h | h)
    · exact ⟨0, Nat.zero_le 1, h⟩
    · exact ⟨1, Nat.le_refl 1, chain_one.2 h⟩

theorem spans_repeated_none_iff {a : Expr} {least i j : Nat} :
    (repeated a least none).Spans text i j ↔
      ∃ k, Chain (a.Spans text) least i k ∧
        ∃ more, more ≤ text.size + 1 ∧ Chain (a.Spans text) more k j := by
  have hle : ∀ i j, a.Spans text i j → i ≤ j := fun i j h => h.bounds.1
  simp only [Spans, Option.not_mem_none, false_implies, implies_true, true_and]
  constructor
  · rintro ⟨more, hchain⟩
    obtain ⟨k, hik, hkj⟩ := chain_add.1 hchain
    obtain ⟨m, -, hm, hshort⟩ := hkj.exists_short hle
    have hbound : (repeated a 0 none).Spans text k j := ⟨m, by simp, by rwa [Nat.zero_add]⟩
    have := hbound.bounds
    exact ⟨k, hik, m, by omega, hshort⟩
  · rintro ⟨k, hik, more, -, hkj⟩
    exact ⟨more, chain_add.2 ⟨k, hik, hkj⟩⟩

theorem computes_ends (e : Expr) : Computes (e.ends text) (e.Spans text) := by
  induction e with
  | empty =>
    intro here j
    simp [ends, Spans]
  | set s =>
    intro here j
    simp only [ends, Spans, List.mem_filterMap]
    refine exists_congr fun i => and_congr_right fun _ => ?_
    cases text[i]? with
    | none => simp
    | some c => simp
  | assert a =>
    intro here j
    simp only [ends, Spans, List.mem_filter]
    grind
  | seq a b iha ihb =>
    intro here j
    rw [ends, ihb (a.ends text here) j]
    constructor
    · rintro ⟨k, hk, hkj⟩
      obtain ⟨i, hi, hik⟩ := (iha here k).1 hk
      exact ⟨i, hi, k, hik, hkj⟩
    · rintro ⟨i, hi, k, hik, hkj⟩
      exact ⟨k, (iha here k).2 ⟨i, hi, hik⟩, hkj⟩
  | alt a b iha ihb =>
    intro here j
    rw [ends, mem_mergePositions, iha here j, ihb here j, ← exists_or]
    exact exists_congr fun i => and_or_left.symm
  | repeated a least most ih =>
    intro here j
    cases most with
    | none =>
      simp only [ends, ih.reach _ _ j, ih.iterate _ _ _, spans_repeated_none_iff]
      constructor
      · rintro ⟨k, ⟨i, hi, hik⟩, hkj⟩
        exact ⟨i, hi, k, hik, hkj⟩
      · rintro ⟨i, hi, k, hik, hkj⟩
        exact ⟨k, ⟨i, hi, hik⟩, hkj⟩
    | some m =>
      simp only [ends, ih.reach _ _ j, ih.iterate _ _ _, Spans, Option.mem_some_iff,
        forall_eq', chain_add]
      constructor
      · rintro ⟨k, ⟨i, hi, hik⟩, more, hmore, hkj⟩
        exact ⟨i, hi, more, hmore, k, hik, hkj⟩
      · rintro ⟨i, hi, more, hmore, k, hik, hkj⟩
        exact ⟨k, ⟨i, hi, hik⟩, more, hmore, hkj⟩

def MatchesBetween (e : Expr) (front back : List Char) : Prop :=
  ∃ j, e.Spans (front ++ back).toArray front.length j

theorem occursIn_iff {e : Expr} {text : List Char} :
    e.occursIn text ↔ ∃ front back, text = front ++ back ∧ e.MatchesBetween front back := by
  have hends : e.occursIn text ↔ ∃ j i, i < text.length + 1 ∧ e.Spans text.toArray i j := by
    rw [occursIn, Bool.not_eq_true', List.isEmpty_eq_false_iff_exists_mem]
    simp only [computes_ends e _ _, List.mem_range]
  rw [hends]
  constructor
  · rintro ⟨j, i, hi, hij⟩
    refine ⟨text.take i, text.drop i, (List.take_append_drop i text).symm, j, ?_⟩
    rwa [List.take_append_drop, List.length_take, Nat.min_eq_left (by omega)]
  · rintro ⟨front, back, rfl, j, hj⟩
    have hlength : front.length < (front ++ back).length + 1 := by
      rw [List.length_append]
      omega
    exact ⟨j, front.length, hlength, hj⟩

def literal : List Char → Expr → Expr
  | [], e => e
  | c :: word, e => .seq (.set (.char c)) (literal word e)

section Matches

variable {front back : List Char} {a b e : Expr} {s : CharSet}

theorem matchesBetween_empty : empty.MatchesBetween front back := ⟨front.length, rfl⟩

theorem matchesBetween_seq_empty :
    (seq empty e).MatchesBetween front back ↔ e.MatchesBetween front back := by
  simp [MatchesBetween, Spans]

theorem matchesBetween_seq_seq_empty :
    (seq a (seq empty e)).MatchesBetween front back ↔ (seq a e).MatchesBetween front back := by
  simp [MatchesBetween, Spans]

theorem matchesBetween_seq_seq :
    (seq (seq a b) e).MatchesBetween front back ↔ (seq a (seq b e)).MatchesBetween front back := by
  simp only [MatchesBetween, Spans]
  constructor
  · rintro ⟨j, l, ⟨k, hk, hl⟩, hj⟩
    exact ⟨j, k, hk, l, hl, hj⟩
  · rintro ⟨j, k, hk, l, hl, hj⟩
    exact ⟨j, l, ⟨k, hk, hl⟩, hj⟩

theorem before?_append : before? (front ++ back).toArray front.length = front.getLast? := by
  rcases List.eq_nil_or_concat front with rfl | ⟨start, c, rfl⟩
  · rfl
  · simp [before?]

theorem matchesBetween_seq_assert {t : Assertion} :
    (seq (assert t) e).MatchesBetween front back ↔
      t.holds front.getLast? back.head? ∧ e.MatchesBetween front back := by
  have hafter : (front ++ back).toArray[front.length]? = back.head? := by
    simp [List.getElem?_append_right, List.head?_eq_getElem?]
  simp only [MatchesBetween, Spans, before?_append, hafter]
  constructor
  · rintro ⟨j, k, ⟨rfl, ht⟩, hj⟩
    exact ⟨ht, j, hj⟩
  · rintro ⟨ht, j, hj⟩
    exact ⟨j, front.length, ⟨rfl, ht⟩, hj⟩

theorem matchesBetween_seq_set :
    (seq (set s) e).MatchesBetween front back ↔ ∃ c rest, back = c :: rest ∧ s.contains c ∧
      e.MatchesBetween (front ++ [c]) rest := by
  cases back with
  | nil => simp [MatchesBetween, Spans]
  | cons c rest =>
    have hafter : (front ++ c :: rest).toArray[front.length]? = some c := by simp
    simp only [MatchesBetween, Spans, hafter, List.cons.injEq]
    constructor
    · rintro ⟨j, k, ⟨⟨_, ⟨⟩, hc⟩, rfl⟩, hj⟩
      exact ⟨c, rest, ⟨rfl, rfl⟩, hc, j, by simpa using hj⟩
    · rintro ⟨_, _, ⟨rfl, rfl⟩, hc, j, hj⟩
      exact ⟨j, _, ⟨⟨c, rfl, hc⟩, rfl⟩, by simpa using hj⟩

theorem matchesBetween_seq_optional :
    (seq (repeated a 0 (some 1)) e).MatchesBetween front back ↔
      e.MatchesBetween front back ∨ (seq a e).MatchesBetween front back := by
  simp only [MatchesBetween, spans_seq_iff, spans_optional_iff]
  constructor
  · rintro ⟨j, k, rfl | hk, hj⟩
    · exact .inl ⟨j, hj⟩
    · exact .inr ⟨j, k, hk, hj⟩
  · rintro (⟨j, hj⟩ | ⟨j, k, hk, hj⟩)
    · exact ⟨j, _, .inl rfl, hj⟩
    · exact ⟨j, k, .inr hk, hj⟩

theorem matchesBetween_seq_alt :
    (seq (alt a b) e).MatchesBetween front back ↔
      (seq a e).MatchesBetween front back ∨ (seq b e).MatchesBetween front back := by
  simp only [MatchesBetween, Spans, or_and_right, exists_or]

theorem chain_set_iff {n k : Nat} :
    Chain ((set s).Spans (front ++ back).toArray) n front.length k ↔
      ∃ word rest, back = word ++ rest ∧ word.length = n ∧ (∀ c ∈ word, s.contains c) ∧
        front.length + n = k := by
  induction n generalizing front back with
  | zero =>
    constructor
    · intro h
      exact ⟨[], back, rfl, rfl, by simp, h⟩
    · rintro ⟨word, rest, -, -, -, h⟩
      exact h
  | succ n ih =>
    cases back with
    | nil => simp [Chain, Spans]
    | cons c rest =>
      have hafter : (front ++ c :: rest).toArray[front.length]? = some c := by simp
      have hmore := @ih (front ++ [c]) rest
      simp only [List.append_assoc, List.singleton_append, List.length_append,
        List.length_singleton] at hmore
      simp only [Chain, Spans, hafter]
      constructor
      · rintro ⟨_, ⟨⟨_, ⟨⟩, hc⟩, rfl⟩, hk⟩
        obtain ⟨word, after, rfl, rfl, hword, rfl⟩ := hmore.1 hk
        exact ⟨c :: word, after, rfl, rfl, List.forall_mem_cons.2 ⟨hc, hword⟩, by omega⟩
      · rintro ⟨word, after, hback, hlength, hword, rfl⟩
        cases word with
        | nil => simp at hlength
        | cons d word =>
          obtain ⟨rfl, rfl⟩ := List.cons_eq_cons.1 hback
          obtain ⟨hc, hword⟩ := List.forall_mem_cons.1 hword
          have hn : word.length = n := by simpa using hlength
          exact ⟨_, ⟨⟨c, rfl, hc⟩, rfl⟩, hmore.2 ⟨word, after, rfl, hn, hword, by omega⟩⟩

theorem matchesBetween_seq_repeated_set {least : Nat} :
    (seq (repeated (set s) least none) e).MatchesBetween front back ↔
      ∃ word rest, back = word ++ rest ∧ least ≤ word.length ∧ (∀ c ∈ word, s.contains c) ∧
        e.MatchesBetween (front ++ word) rest := by
  constructor
  · rintro ⟨j, k, ⟨more, -, hk⟩, hj⟩
    obtain ⟨word, rest, rfl, hlength, hword, rfl⟩ := chain_set_iff.1 hk
    exact ⟨word, rest, rfl, by omega, hword, j, by simpa [hlength] using hj⟩
  · rintro ⟨word, rest, rfl, hleast, hword, j, hj⟩
    have hlength : word.length = least + (word.length - least) := by omega
    refine ⟨j, front.length + word.length, ⟨word.length - least, by simp, ?_⟩, by simpa using hj⟩
    exact chain_set_iff.2 ⟨word, rest, rfl, hlength, hword, by omega⟩

theorem matchesBetween_literal {word : List Char} :
    (literal word e).MatchesBetween front back ↔
      ∃ rest, back = word ++ rest ∧ e.MatchesBetween (front ++ word) rest := by
  induction word generalizing front back with
  | nil => simp [literal]
  | cons c word ih =>
    simp only [literal, matchesBetween_seq_set, CharSet.contains_char, ih]
    constructor
    · rintro ⟨_, _, rfl, rfl, rest, rfl, h⟩
      exact ⟨rest, rfl, by simpa using h⟩
    · rintro ⟨rest, rfl, h⟩
      exact ⟨c, word ++ rest, rfl, rfl, rest, rfl, by simpa using h⟩

theorem matchesBetween_seq_literal {word : List Char} :
    (seq (literal word a) e).MatchesBetween front back ↔
      (literal word (seq a e)).MatchesBetween front back := by
  induction word generalizing front back with
  | nil => rfl
  | cons c word ih =>
    simp only [literal, matchesBetween_seq_seq, matchesBetween_seq_set, ih]

/-- A pattern that is tied to the start of the text can match nowhere else. -/
theorem occursIn_textStart_iff {text : List Char} :
    (seq (assert .textStart) e).occursIn text ↔ e.MatchesBetween [] text := by
  simp only [occursIn_iff, matchesBetween_seq_assert, Assertion.holds, Option.isNone_iff_eq_none,
    List.getLast?_eq_none_iff]
  constructor
  · rintro ⟨_, back, rfl, rfl, h⟩
    exact h
  · intro h
    exact ⟨[], text, rfl, rfl, h⟩

end Matches

end Expr

end CommitPolicy.Pattern
