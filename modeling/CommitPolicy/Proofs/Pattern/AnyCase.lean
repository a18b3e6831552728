import CommitPolicy.Proofs.Pattern.Meaning
import Mathlib.Data.List.Forall2

namespace CommitPolicy

namespace Text.CodePointMap

variable {m : CodePointMap} {c d : Char}

/-- A table that is spelled out as a list of characters, the form in which it can be evaluated. -/
theorem ofText_eq {s : String} {cs : List Char} (h : s = String.ofList cs) :
    ofText s = ⟨(fields cs).filterMap CodePointRun.ofItem?⟩ := by
  rw [ofText, h, String.toList_ofList]

theorem toNat_of_ofNat_eq {n : Nat} (h : Char.ofNat n = c) (hc : c ≠ '\x00') : c.toNat = n := by
  by_cases hn : n.isValidChar
  · rw [← h, Char.ofNat, dif_pos hn]
    rfl
  · rw [Char.ofNat, dif_neg hn] at h
    exact absurd h.symm hc

theorem mem_preimages_of_apply (hd : d ≠ '\x00') (h : m.apply c = [d]) :
    c = d ∨ c ∈ m.preimages d := by
  rw [apply] at h
  split at h
  · rename_i r hr
    obtain ⟨n, hn, hnd⟩ := List.map_eq_singleton_iff.1 h
    obtain ⟨t, ht, rfl⟩ := List.map_eq_singleton_iff.1 hn
    have hcovers : r.covers c.toNat := by simpa using List.find?_some hr
    have hfirst : r.first ≤ c.toNat := by
      simp only [CodePointRun.covers, Bool.and_eq_true, decide_eq_true_eq] at hcovers
      exact hcovers.1.1
    have htarget := toNat_of_ofNat_eq hnd hd
    have hsource : r.first + (d.toNat - t) = c.toNat := by omega
    have hle : t ≤ d.toNat := by omega
    refine .inr (List.mem_filterMap.2 ⟨r, List.mem_of_find?_eq_some hr, ?_⟩)
    simp [CodePointRun.preimage?, ht, hsource, hle, hcovers]
  · exact .inl (List.singleton_inj.1 h)

theorem exists_covers_of_mem_preimages (hc : c ≠ '\x00') (h : c ∈ m.preimages d) :
    ∃ r ∈ m.runs, r.covers c.toNat := by
  obtain ⟨r, hr, hpre⟩ := List.mem_filterMap.1 h
  obtain ⟨n, hn, hnc⟩ := Option.map_eq_some_iff.1 hpre
  rw [CodePointRun.preimage?] at hn
  split at hn
  · rw [Option.ite_none_right_eq_some, Bool.and_eq_true, Option.some.injEq] at hn
    obtain ⟨⟨-, hcovers⟩, rfl⟩ := hn
    rw [toNat_of_ofNat_eq hnc hc]
    exact ⟨r, hr, hcovers⟩
  · cases hn

end Text.CodePointMap

namespace Pattern.CharSet

open Text (CodePointMap)

theorem contains_anyCase_unionOf {unicode : Bool} {sets : List CharSet} {c : Char} :
    ((unionOf sets).anyCase unicode).contains c ↔
      ∃ set ∈ sets, (set.anyCase unicode).contains c := by
  simp only [contains, List.any_eq_true, contains_unionOf]
  constructor
  · rintro ⟨d, hd, set, hset, hdset⟩
    exact ⟨set, hset, d, hd, hdset⟩
  · rintro ⟨set, hset, d, hd, hdset⟩
    exact ⟨d, hd, set, hset, hdset⟩

/-- What meets a letter that folds to itself is the letter and whatever folds to it. -/
theorem contains_anyCase_char_iff {k c : Char} (hk : k ≠ '\x00')
    (hruns : ∀ r ∈ Text.Table.caseFold.runs, ¬ r.covers k.toNat) :
    ((char k).anyCase true).contains c ↔ c = k ∨ Text.Table.caseFold.apply c = [k] := by
  simp only [contains, List.any_eq_true, contains_char, exists_eq_right, caseVariants, if_true]
  split
  · rename_i rep hrep
    rw [hrep, List.mem_cons, List.mem_cons, List.singleton_inj, eq_comm, eq_comm (a := k)]
    refine or_congr_right (or_iff_left ?_)
    intro hpre
    obtain ⟨r, hr, hcovers⟩ := CodePointMap.exists_covers_of_mem_preimages hk hpre
    exact hruns r hr hcovers
  · rename_i hmany
    rw [List.mem_singleton, eq_comm]
    exact (or_iff_left (hmany k)).symm

end Pattern.CharSet

namespace Pattern.Expr

def anyCaseLiteral : List Char → Expr → Expr
  | [], e => e
  | c :: word, e => .seq (.set (.anyCase true (.char c))) (anyCaseLiteral word e)

theorem anyCaseLiteral_append (first second : List Char) (e : Expr) :
    anyCaseLiteral (first ++ second) e = anyCaseLiteral first (anyCaseLiteral second e) := by
  induction first with
  | nil => rfl
  | cons c first ih => rw [List.cons_append, anyCaseLiteral, anyCaseLiteral, ih]

variable {front back word : List Char} {a e : Expr}

theorem matchesBetween_anyCaseLiteral :
    (anyCaseLiteral word e).MatchesBetween front back ↔ ∃ start rest, back = start ++ rest ∧
      List.Forall₂ (fun k c => ((CharSet.char k).anyCase true).contains c) word start ∧
      e.MatchesBetween (front ++ start) rest := by
  induction word generalizing front back with
  | nil => simp [anyCaseLiteral]
  | cons k word ih =>
    simp only [anyCaseLiteral, matchesBetween_seq_set, ih, List.forall₂_cons_left_iff]
    constructor
    · rintro ⟨c, _, rfl, hc, start, rest, rfl, hstart, h⟩
      exact ⟨c :: start, rest, rfl, ⟨c, start, hc, hstart, rfl⟩, by simpa using h⟩
    · rintro ⟨_, rest, rfl, ⟨c, start, hc, hstart, rfl⟩, h⟩
      exact ⟨c, start ++ rest, rfl, hc, start, rest, rfl, hstart, by simpa using h⟩

theorem matchesBetween_seq_anyCaseLiteral :
    (seq (anyCaseLiteral word a) e).MatchesBetween front back ↔
      (anyCaseLiteral word (seq a e)).MatchesBetween front back := by
  induction word generalizing front back with
  | nil => rfl
  | cons k word ih =>
    simp only [anyCaseLiteral, matchesBetween_seq_seq, matchesBetween_seq_set, ih]

end Pattern.Expr

end CommitPolicy
