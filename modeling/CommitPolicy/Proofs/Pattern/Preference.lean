import CommitPolicy.Proofs.Pattern.Meaning
import Mathlib.Data.List.Lex

namespace CommitPolicy.Pattern

def times (step : Nat → List Nat) : Nat → Nat → List Nat
  | 0, i => [i]
  | n + 1, i => (step i).flatMap (times step n)

/-- Up to `n` steps, and stopping is tried last. A step that goes nowhere is not taken again. -/
def goOn (step : Nat → List Nat) : Nat → Nat → List Nat
  | 0, i => [i]
  | n + 1, i => ((step i).flatMap fun j => if j = i then [i] else goOn step n j) ++ [i]

/-- The positions at which a backtracking matcher lets an expression end, in the order in which it
tries them, if all repetitions are greedy. -/
def Expr.tries (text : Array Char) : Expr → Nat → List Nat
  | .empty, i => [i]
  | .set s, i =>
    match text[i]? with
    | some c => if s.contains c then [i + 1] else []
    | none => []
  | .assert a, i => if a.holds (before? text i) text[i]? then [i] else []
  | .seq a b, i => (a.tries text i).flatMap (b.tries text)
  | .alt a b, i => a.tries text i ++ b.tries text i
  | .repeated a least most, i =>
    (times (a.tries text) least i).flatMap
      (goOn (a.tries text) ((most.map (· - least)).getD text.size))

section Steps

variable {step : Nat → List Nat} {n i j : Nat}

theorem mem_times_iff : j ∈ times step n i ↔ Chain (fun i j => j ∈ step i) n i j := by
  induction n generalizing i with
  | zero => simp [times, Chain, eq_comm]
  | succ n ih => simp [times, Chain, ih]

theorem mem_goOn_self : i ∈ goOn step n i := by
  cases n <;> simp [goOn]

theorem goOn_mono (h : j ∈ goOn step n i) : j ∈ goOn step (n + 1) i := by
  induction n generalizing i with
  | zero =>
    obtain rfl : j = i := by simpa [goOn] using h
    exact mem_goOn_self
  | succ n ih =>
    rw [goOn, List.mem_append, List.mem_flatMap] at h ⊢
    refine h.imp_left ?_
    rintro ⟨k, hk, hj⟩
    refine ⟨k, hk, ?_⟩
    split
    · rename_i hki
      rwa [if_pos hki] at hj
    · rename_i hki
      rw [if_neg hki] at hj
      exact ih hj

theorem mem_goOn_iff :
    j ∈ goOn step n i ↔ ∃ m ≤ n, Chain (fun i j => j ∈ step i) m i j := by
  constructor
  · intro h
    induction n generalizing i with
    | zero =>
      obtain rfl : j = i := by simpa [goOn] using h
      exact ⟨0, Nat.le_refl 0, rfl⟩
    | succ n ih =>
      rw [goOn, List.mem_append, List.mem_flatMap, List.mem_singleton] at h
      obtain ⟨k, hk, hj⟩ | rfl := h
      · split at hj
        · obtain rfl : j = i := by simpa using hj
          exact ⟨0, Nat.zero_le _, rfl⟩
        · obtain ⟨m, hm, hchain⟩ := ih hj
          exact ⟨m + 1, Nat.succ_le_succ hm, k, hk, hchain⟩
      · exact ⟨0, Nat.zero_le _, rfl⟩
  · rintro ⟨m, hm, hchain⟩
    induction n generalizing i m with
    | zero =>
      obtain rfl := Nat.le_zero.1 hm
      obtain rfl : i = j := hchain
      exact mem_goOn_self
    | succ n ih =>
      cases m with
      | zero =>
        obtain rfl : i = j := hchain
        exact mem_goOn_self
      | succ m =>
        obtain ⟨k, hk, hchain⟩ := hchain
        have hj := ih m (Nat.le_of_succ_le_succ hm) hchain
        -- A step on the spot leads to a chain that is shorter by one.
        by_cases hki : k = i
        · exact goOn_mono (hki ▸ hj)
        · rw [goOn, List.mem_append, List.mem_flatMap]
          exact .inl ⟨k, hk, by rwa [if_neg hki]⟩

end Steps

namespace Expr

variable {text : Array Char} {i j : Nat}

theorem mem_tries_iff {e : Expr} : j ∈ e.tries text i ↔ e.Spans text i j := by
  induction e generalizing i j with
  | empty => simp [tries, Spans, eq_comm]
  | set s =>
    rw [tries, Spans]
    cases text[i]? with
    | none => simp
    | some c => by_cases hc : s.contains c <;> simp [hc, eq_comm (a := j)]
  | assert a =>
    rw [tries, Spans]
    split
    · simp [*, eq_comm]
    · simp [*]
  | seq a b iha ihb => simp [tries, Spans, iha, ihb]
  | alt a b iha ihb => simp [tries, Spans, iha, ihb]
  | repeated a least most ih =>
    have hstep : (fun i j => j ∈ a.tries text i) = a.Spans text := by
      funext i j
      exact propext ih
    simp only [tries, List.mem_flatMap, mem_times_iff, mem_goOn_iff, hstep]
    cases most with
    | some m =>
      simp only [Option.map_some, Option.getD_some, Spans, Option.mem_some_iff, forall_eq',
        chain_add]
      constructor
      · rintro ⟨k, hik, more, hmore, hkj⟩
        exact ⟨more, hmore, k, hik, hkj⟩
      · rintro ⟨more, hmore, k, hik, hkj⟩
        exact ⟨k, hik, more, hmore, hkj⟩
    | none =>
      simp only [Option.map_none, Option.getD_none, Spans, Option.not_mem_none, false_implies,
        implies_true, true_and, chain_add]
      constructor
      · rintro ⟨k, hik, more, -, hkj⟩
        exact ⟨more, k, hik, hkj⟩
      · rintro ⟨more, k, hik, hkj⟩
        obtain ⟨m, -, hm, hshort⟩ := hkj.exists_short fun i j h => h.bounds.1
        have hbound : (repeated a 0 none).Spans text k j := ⟨m, by simp, by rwa [Nat.zero_add]⟩
        have := hbound.bounds
        exact ⟨k, hik, m, by omega, hshort⟩

def Takes (e : Expr) (front word rest : List Char) : Prop :=
  e.Spans (front ++ (word ++ rest)).toArray front.length (front.length + word.length)

def cuts : List Expr → List Char → List Char → List (List (List Char))
  | [], _, _ => [[]]
  | e :: es, front, back =>
    (e.tries (front ++ back).toArray front.length).flatMap fun j =>
      let word := back.take (j - front.length)
      (cuts es (front ++ word) (back.drop word.length)).map (word :: ·)

/-- The first match from the left, and there the one that is tried first: the text in front of it and
the texts that the expressions take. -/
def firstCut? (es : List Expr) (text : List Char) : Option (List Char × List (List Char)) :=
  (List.range (text.length + 1)).findSome? fun i =>
    (cuts es (text.take i) (text.drop i)).head?.map (text.take i, ·)

section Takes

variable {front word rest back : List Char} {a b e : Expr} {s : CharSet} {es : List Expr}

theorem takes_empty : empty.Takes front word rest ↔ word = [] := by
  rw [Takes, Spans, ← List.length_eq_zero_iff]
  omega

theorem takes_set : (set s).Takes front word rest ↔ ∃ c, word = [c] ∧ s.contains c := by
  have hone : front.length + 1 = front.length + word.length ↔ ∃ c, word = [c] := by
    rw [← List.length_eq_one_iff]
    omega
  rw [Takes, Spans, hone]
  constructor
  · rintro ⟨⟨c, hc, hs⟩, d, rfl⟩
    obtain rfl : d = c := by simpa using hc
    exact ⟨d, rfl, hs⟩
  · rintro ⟨c, rfl, hs⟩
    exact ⟨⟨c, by simp, hs⟩, c, rfl⟩

theorem takes_assert {t : Assertion} :
    (assert t).Takes front word rest ↔ word = [] ∧ t.holds front.getLast? rest.head? := by
  have hnone : front.length = front.length + word.length ↔ word = [] := by
    rw [← List.length_eq_zero_iff]
    omega
  rw [Takes, Spans, hnone]
  refine and_congr_right ?_
  rintro rfl
  rw [before?_append]
  simp [List.getElem?_append_right, List.head?_eq_getElem?]

theorem takes_seq : (seq a b).Takes front word rest ↔ ∃ u v, word = u ++ v ∧
    a.Takes front u (v ++ rest) ∧ b.Takes (front ++ u) v rest := by
  rw [Takes, Spans]
  constructor
  · rintro ⟨k, hik, hkj⟩
    have hfront := hik.bounds.1
    have hback := hkj.bounds.1
    obtain ⟨u, v, rfl, rfl⟩ : ∃ u v, word = u ++ v ∧ k = front.length + u.length :=
      ⟨word.take (k - front.length), word.drop (k - front.length),
        (List.take_append_drop _ _).symm, by rw [List.length_take]; omega⟩
    refine ⟨u, v, rfl, ?_, ?_⟩
    · rwa [Takes, ← List.append_assoc u]
    · rw [Takes]
      simpa [Nat.add_assoc] using hkj
  · rintro ⟨u, v, rfl, hu, hv⟩
    refine ⟨front.length + u.length, ?_, ?_⟩
    · rwa [List.append_assoc]
    · rw [Takes] at hv
      simpa [Nat.add_assoc] using hv

theorem takes_char {c : Char} : (set (.char c)).Takes front word rest ↔ word = [c] := by
  simp only [takes_set, CharSet.contains_char]
  constructor
  · rintro ⟨_, rfl, rfl⟩
    rfl
  · rintro rfl
    exact ⟨c, rfl, rfl⟩

theorem takes_seq_empty : (seq a empty).Takes front word rest ↔ a.Takes front word rest := by
  simp only [takes_seq, takes_empty]
  constructor
  · rintro ⟨u, _, rfl, h, rfl⟩
    simpa using h
  · intro h
    exact ⟨word, [], (List.append_nil word).symm, h, rfl⟩

theorem takes_optional :
    (repeated a 0 (some 1)).Takes front word rest ↔ word = [] ∨ a.Takes front word rest := by
  rw [Takes, spans_optional_iff, ← Takes, ← List.length_eq_zero_iff]
  refine or_congr_left ?_
  omega

theorem takes_repeated_set :
    (repeated (set s) 0 none).Takes front word rest ↔ ∀ c ∈ word, s.contains c := by
  constructor
  · rintro ⟨n, -, hchain⟩
    obtain ⟨taken, left, hback, hn, htaken, hlength⟩ := chain_set_iff.1 hchain
    obtain ⟨rfl, -⟩ := List.append_inj hback (by omega)
    exact htaken
  · intro h
    refine ⟨word.length, by simp, ?_⟩
    exact chain_set_iff.2 ⟨word, rest, rfl, (Nat.zero_add _).symm, h, by omega⟩

theorem mem_cuts_nil {cut : List (List Char)} : cut ∈ cuts [] front back ↔ cut = [] :=
  List.mem_singleton

theorem mem_cuts_cons {cut : List (List Char)} : cut ∈ cuts (e :: es) front back ↔
    ∃ word rest more, back = word ++ rest ∧ e.Takes front word rest ∧
      more ∈ cuts es (front ++ word) rest ∧ cut = word :: more := by
  simp only [cuts, List.mem_flatMap, List.mem_map, mem_tries_iff]
  constructor
  · rintro ⟨j, hj, more, hmore, rfl⟩
    have hbounds := hj.bounds
    simp only [List.size_toArray, List.length_append] at hbounds
    have hlength : (back.take (j - front.length)).length = j - front.length := by
      rw [List.length_take]
      omega
    refine ⟨_, _, more, (List.take_append_drop _ back).symm, ?_, ?_, rfl⟩
    · rw [Takes, List.take_append_drop, hlength]
      rwa [Nat.add_sub_cancel' hbounds.1]
    · rwa [hlength] at hmore
  · rintro ⟨word, rest, more, rfl, hword, hmore, rfl⟩
    refine ⟨front.length + word.length, hword, more, ?_, ?_⟩
    · simpa using hmore
    · simp

theorem tries_foldr_seq (es : List Expr) (front back : List Char) :
    (es.foldr seq empty).tries (front ++ back).toArray front.length =
      (cuts es front back).map fun cut => front.length + cut.flatten.length := by
  induction es generalizing front back with
  | nil => simp [tries, cuts]
  | cons e es ih =>
    simp only [List.foldr_cons, tries, cuts, List.map_flatMap, List.map_map]
    refine List.flatMap_congr fun j hj => ?_
    have hbounds := (mem_tries_iff.1 hj).bounds
    simp only [List.size_toArray, List.length_append] at hbounds
    have hlength : (back.take (j - front.length)).length = j - front.length := by
      rw [List.length_take]
      omega
    have hmore := ih (front ++ back.take (j - front.length)) (back.drop (j - front.length))
    rw [List.append_assoc, List.take_append_drop, List.length_append, hlength,
      Nat.add_sub_cancel' hbounds.1] at hmore
    rw [hmore, hlength]
    refine List.map_congr_left fun more _ => ?_
    simp only [Function.comp_apply, List.flatten_cons, List.length_append, hlength]
    omega

theorem mem_cuts_char_cons {c : Char} {cut : List (List Char)} :
    cut ∈ cuts (set (.char c) :: es) front back ↔
      ∃ rest more, back = c :: rest ∧ more ∈ cuts es (front ++ [c]) rest ∧ cut = [c] :: more := by
  simp only [mem_cuts_cons, takes_char]
  constructor
  · rintro ⟨_, rest, more, rfl, rfl, hmore, rfl⟩
    exact ⟨rest, more, rfl, hmore, rfl⟩
  · rintro ⟨rest, more, rfl, hmore, rfl⟩
    exact ⟨[c], rest, more, rfl, rfl, hmore, rfl⟩

theorem mem_cuts_textEnd {cut : List (List Char)} :
    cut ∈ cuts [assert .textEnd] front back ↔ back = [] ∧ cut = [[]] := by
  simp only [mem_cuts_cons, mem_cuts_nil, takes_assert, Assertion.holds, Option.isNone_iff_eq_none,
    List.head?_eq_none_iff]
  constructor
  · rintro ⟨_, _, _, rfl, ⟨rfl, rfl⟩, rfl, rfl⟩
    exact ⟨rfl, rfl⟩
  · rintro ⟨rfl, rfl⟩
    exact ⟨[], [], [], rfl, ⟨rfl, rfl⟩, rfl, rfl⟩

end Takes

def Eager (e : Expr) : Prop := ∀ text i, (e.tries text i).Pairwise (· > ·)

def Fixed (e : Expr) (n : Nat) : Prop := ∀ text i j, e.Spans text i j → j = i + n

section Eager

variable {a b : Expr} {s : CharSet} {n : Nat}

theorem eager_empty : Eager .empty := fun _ _ => List.pairwise_singleton _ _

theorem eager_set : Eager (.set s) := by
  intro text i
  rw [tries]
  cases text[i]? with
  | none => exact List.Pairwise.nil
  | some c =>
    dsimp only
    split <;> simp

theorem eager_assert {t : Assertion} : Eager (.assert t) := by
  intro text i
  rw [tries]
  split <;> simp

theorem fixed_empty : Fixed .empty 0 := fun _ _ _ h => h.symm

theorem fixed_set : Fixed (.set s) 1 := fun _ _ _ h => h.2.symm

theorem Fixed.seq {m : Nat} (ha : Fixed a m) (hb : Fixed b n) : Fixed (.seq a b) (m + n) := by
  rintro text i j ⟨k, hik, hkj⟩
  rw [hb text k j hkj, ha text i k hik, Nat.add_assoc]

theorem Eager.seq_of_fixed_left (ha : Eager a) (hn : Fixed a n) (hb : Eager b) :
    Eager (.seq a b) := by
  intro text i
  rw [tries, List.pairwise_flatMap]
  refine ⟨fun j _ => hb text j, (ha text i).imp_of_mem fun {j k} hj hk hjk => ?_⟩
  have hj := hn text i j (mem_tries_iff.1 hj)
  have hk := hn text i k (mem_tries_iff.1 hk)
  omega

theorem Eager.seq_of_fixed_right (ha : Eager a) (hb : Eager b) (hn : Fixed b n) :
    Eager (.seq a b) := by
  intro text i
  rw [tries, List.pairwise_flatMap]
  refine ⟨fun j _ => hb text j, (ha text i).imp fun {j k} hjk x hx y hy => ?_⟩
  have hx := hn text j x (mem_tries_iff.1 hx)
  have hy := hn text k y (mem_tries_iff.1 hy)
  omega

theorem Eager.optional (ha : Eager a) (hadvances : ∀ text i j, a.Spans text i j → i < j) :
    Eager (.repeated a 0 (some 1)) := by
  intro text i
  have hlater : ∀ j ∈ a.tries text i, i < j := fun j hj => hadvances text i j (mem_tries_iff.1 hj)
  have htries : (repeated a 0 (some 1)).tries text i = a.tries text i ++ [i] := by
    have hstop : ∀ j ∈ a.tries text i, (if j = i then [i] else goOn (a.tries text) 0 j) = [j] :=
      fun j hj => if_neg (hlater j hj).ne'
    simp only [tries, times, List.flatMap_singleton, Option.map_some, Option.getD_some, Nat.sub_zero]
    rw [goOn, List.flatMap_congr hstop, List.flatMap_singleton']
  rw [htries, List.pairwise_append]
  exact ⟨ha text i, List.pairwise_singleton _ _, by simpa using hlater⟩

theorem eager_repeated_set : Eager (.repeated (.set s) 0 none) := by
  intro text i
  have hone : ∀ i, ∀ j ∈ (set s).tries text i, j = i + 1 :=
    fun i j hj => fixed_set text i j (mem_tries_iff.1 hj)
  rw [tries, times, List.flatMap_singleton]
  generalize (Option.map (· - 0) none).getD text.size = n
  induction n generalizing i with
  | zero => exact List.pairwise_singleton _ _
  | succ n ih =>
    rw [goOn, List.pairwise_append, List.pairwise_flatMap]
    refine ⟨⟨fun j hj => ?_, (eager_set text i).imp_of_mem fun {j k} hj hk hjk => ?_⟩,
      List.pairwise_singleton _ _, fun j hj => ?_⟩
    · rw [if_neg (by have := hone i j hj; omega)]
      exact ih j
    · have hj := hone i j hj
      have hk := hone i k hk
      omega
    · obtain ⟨k, hk, hj⟩ := List.mem_flatMap.1 hj
      have hik := hone i k hk
      rw [if_neg (by omega), mem_goOn_iff] at hj
      obtain ⟨m, -, hchain⟩ := hj
      have hkj := hchain.le fun i j hj => (hone i j hj).ge.trans' (Nat.le_succ i)
      intro l hl
      rw [List.mem_singleton] at hl
      omega

end Eager

/-- If every expression tries its longer matches first, the first cut is the greatest one when the
lengths of the texts are compared one after the other. -/
theorem pairwise_cuts {es : List Expr} (h : ∀ e ∈ es, e.Eager) (front back : List Char) :
    (cuts es front back).Pairwise fun cut cut' => cut'.map List.length < cut.map List.length := by
  induction es generalizing front back with
  | nil => exact List.pairwise_singleton _ _
  | cons e es ih =>
    obtain ⟨he, hes⟩ := List.forall_mem_cons.1 h
    rw [cuts, List.pairwise_flatMap]
    refine ⟨fun j _ => ?_, (he _ _).imp_of_mem fun {j k} hj hk hjk => ?_⟩
    · refine List.pairwise_map.2 ((ih hes _ _).imp fun hlt => ?_)
      exact List.cons_lt_cons_iff.2 (.inr ⟨rfl, hlt⟩)
    · intro cut hcut cut' hcut'
      obtain ⟨more, -, rfl⟩ := List.mem_map.1 hcut
      obtain ⟨more', -, rfl⟩ := List.mem_map.1 hcut'
      have hj := (mem_tries_iff.1 hj).bounds
      have hk := (mem_tries_iff.1 hk).bounds
      simp only [List.size_toArray, List.length_append] at hj hk
      refine List.cons_lt_cons_iff.2 (.inl ?_)
      rw [List.length_take, List.length_take]
      omega

theorem head?_cuts_eq_some {es : List Expr} (h : ∀ e ∈ es, e.Eager) {front back : List Char}
    {cut : List (List Char)} (hcut : cut ∈ cuts es front back)
    (hgreatest : ∀ cut' ∈ cuts es front back, cut'.map List.length ≤ cut.map List.length) :
    (cuts es front back).head? = some cut := by
  have hpairwise := pairwise_cuts h front back
  cases hcuts : cuts es front back with
  | nil => simp [hcuts] at hcut
  | cons first cuts =>
    rw [hcuts] at hcut hgreatest hpairwise
    rcases List.mem_cons.1 hcut with rfl | hlater
    · rfl
    · have hlt := (List.pairwise_cons.1 hpairwise).1 cut hlater
      exact absurd hlt (not_lt.2 (hgreatest first List.mem_cons_self))

theorem firstCut?_eq_some_of_head? {es : List Expr} {text : List Char} {cut : List (List Char)}
    (h : (cuts es [] text).head? = some cut) : firstCut? es text = some ([], cut) := by
  rw [firstCut?, List.range_succ_eq_map, List.findSome?_cons, List.take_zero, List.drop_zero, h]
  rfl

theorem firstCut?_eq_none_iff {es : List Expr} {text : List Char} :
    firstCut? es text = none ↔
      ∀ front back cut, front ++ back = text → cut ∉ cuts es front back := by
  simp only [firstCut?, List.findSome?_eq_none_iff, List.mem_range, Nat.lt_succ_iff,
    Option.map_eq_none_iff, List.head?_eq_none_iff, List.eq_nil_iff_forall_not_mem]
  constructor
  · rintro h front back cut rfl
    have hnone := h front.length (by simp) cut
    rwa [List.take_left, List.drop_left] at hnone
  · intro h i _ cut
    exact h _ _ cut (List.take_append_drop i text)

end Expr

end CommitPolicy.Pattern
