import CommitPolicy.Proofs.Header.Decomposition
import CommitPolicy.Proofs.Pattern.Preference

namespace CommitPolicy.Header

open Pattern (Assertion)
open Pattern.CharSet (contains_char)
open Pattern.Expr

/-- `(!)?: (.*)$`, one element after the other. -/
def separatedPieces : List Pattern.Expr :=
  [.repeated (.seq (.set (.char '!')) .empty) 0 (some 1), .set (.char ':'), .set (.char ' '),
    .seq (.repeated (.set lineSet) 0 none) .empty, .assert .textEnd]

def scopePiece : Pattern.Expr :=
  .repeated
    (.seq (.set (.char '(')) <| .seq (.seq (.repeated (.set lineSet) 0 none) .empty) <|
      .seq (.set (.char ')')) .empty) 0 (some 1)

def anyScopePieces : List Pattern.Expr :=
  .assert .textStart :: .seq (.repeated (.set wordSet) 0 none) .empty :: scopePiece ::
    separatedPieces

theorem expr_anyScopePattern : anyScopePattern.expr = anyScopePieces.foldr .seq .empty := by
  rfl

def mark (breaking : Bool) : List Char := if breaking then ['!'] else []

namespace Parts

def scopeText (p : Parts) : List Char := p.scope.elim [] fun scope => '(' :: (scope ++ [')'])

def taken (p : Parts) : List (List Char) :=
  [[], p.type, p.scopeText, mark p.breaking, [':'], [' '], p.subject, []]

theorem afterType_eq_append (p : Parts) :
    p.afterType = p.scopeText ++ separated p.breaking p.subject := by
  obtain ⟨type, scope, breaking, subject⟩ := p
  cases scope <;> simp [afterType, scopeText]

end Parts

variable {front back line rest word : List Char} {cut : List (List Char)}

theorem mem_cuts_separatedPieces : cut ∈ cuts separatedPieces front back ↔
    ∃ breaking subject, back = separated breaking subject ∧ '\n' ∉ subject ∧
      cut = [mark breaking, [':'], [' '], subject, []] := by
  rw [separatedPieces, mem_cuts_cons]
  simp only [takes_optional, takes_seq_empty, takes_char, mem_cuts_char_cons]
  simp only [mem_cuts_cons (e := .seq _ _), takes_seq_empty, takes_repeated_set, contains_lineSet,
    ne_eq, List.forall_mem_ne', mem_cuts_textEnd]
  constructor
  · rintro ⟨_, _, _, rfl, rfl | rfl, ⟨_, _, rfl, ⟨_, _, rfl,
      ⟨subject, _, _, rfl, hs, ⟨rfl, rfl⟩, rfl⟩, rfl⟩, rfl⟩, rfl⟩
    · exact ⟨false, subject, by simp [separated], hs, rfl⟩
    · exact ⟨true, subject, by simp [separated], hs, rfl⟩
  · rintro ⟨breaking, subject, rfl, hs, rfl⟩
    refine ⟨mark breaking, ':' :: ' ' :: subject, _, by simp [separated, mark], ?_,
      ⟨_, _, rfl, ⟨_, _, rfl, ⟨subject, [], _, by simp, hs, ⟨rfl, rfl⟩, rfl⟩, rfl⟩, rfl⟩, rfl⟩
    cases breaking with
    | false => exact .inl rfl
    | true => exact .inr rfl

theorem takes_scopePiece : scopePiece.Takes front word rest ↔
    ∃ scope : Option (List Char), (∀ s ∈ scope, '\n' ∉ s) ∧
      word = scope.elim [] fun s => '(' :: (s ++ [')']) := by
  simp only [scopePiece, takes_optional, takes_seq (b := .seq _ _), takes_seq_empty, takes_char,
    takes_repeated_set, contains_lineSet, ne_eq, List.forall_mem_ne']
  constructor
  · rintro (rfl | ⟨_, _, rfl, rfl, scope, _, rfl, hscope, rfl⟩)
    · exact ⟨none, by simp, rfl⟩
    · exact ⟨some scope, by simpa using hscope, rfl⟩
  · rintro ⟨_ | scope, hscope, rfl⟩
    · exact .inl rfl
    · exact .inr ⟨['('], _, rfl, rfl, scope, [')'], rfl, hscope scope rfl, rfl⟩

/-- The pattern matches a line in as many ways as the line is made up of pieces. -/
theorem mem_cuts_anyScopePieces :
    cut ∈ cuts anyScopePieces [] line ↔ ∃ p : Parts, p.MakesUp line ∧ cut = p.taken := by
  simp only [anyScopePieces, mem_cuts_cons, takes_assert, takes_seq_empty, takes_repeated_set,
    contains_wordSet, takes_scopePiece, mem_cuts_separatedPieces, Assertion.holds]
  constructor
  · rintro ⟨_, _, _, rfl, ⟨rfl, -⟩, ⟨type, _, _, rfl, htype, ⟨_, _, _, rfl, ⟨scope, hscope, rfl⟩,
      ⟨breaking, subject, rfl, hs, rfl⟩, rfl⟩, rfl⟩, rfl⟩
    have hline := Parts.afterType_eq_append ⟨type, scope, breaking, subject⟩
    exact ⟨⟨type, scope, breaking, subject⟩,
      Parts.makesUp_iff.2 ⟨congrArg (type ++ ·) hline.symm, htype, hscope, hs⟩, rfl⟩
  · rintro ⟨p, hp, rfl⟩
    obtain ⟨rfl, htype, hscope, hs⟩ := Parts.makesUp_iff.1 hp
    exact ⟨[], _, _, rfl, ⟨rfl, rfl⟩, ⟨p.type, _, _, rfl, htype, ⟨p.scopeText, _, _,
      p.afterType_eq_append, ⟨p.scope, hscope, rfl⟩, ⟨p.breaking, p.subject, rfl, hs, rfl⟩, rfl⟩,
      rfl⟩, rfl⟩

theorem eager_anyScopePieces : ∀ e ∈ anyScopePieces, Eager e := by
  have hword : Eager (.seq (.repeated (.set wordSet) 0 none) .empty) :=
    eager_repeated_set.seq_of_fixed_right eager_empty fixed_empty
  have hline : Eager (.seq (.repeated (.set lineSet) 0 none) .empty) :=
    eager_repeated_set.seq_of_fixed_right eager_empty fixed_empty
  have hclose : Eager (.seq (.set (.char ')')) .empty) :=
    eager_set.seq_of_fixed_right eager_empty fixed_empty
  have hscope : Eager scopePiece := by
    refine Eager.optional (eager_set.seq_of_fixed_left fixed_set
      (hline.seq_of_fixed_right hclose (fixed_set.seq fixed_empty))) ?_
    rintro text i j ⟨k, hik, hkj⟩
    have := fixed_set text i k hik
    have := hkj.bounds
    omega
  have hmark : Eager (.repeated (.seq (.set (.char '!')) .empty) 0 (some 1)) := by
    refine Eager.optional (eager_set.seq_of_fixed_right eager_empty fixed_empty) ?_
    intro text i j h
    have := (fixed_set.seq fixed_empty) text i j h
    omega
  simp only [anyScopePieces, separatedPieces, List.forall_mem_cons]
  exact ⟨eager_assert, hword, hscope, hmark, eager_set, eager_set, hline, eager_assert,
    List.forall_mem_nil _⟩

theorem Parts.MakesUp.taken_lt {p q : Parts} (hp : p.MakesUp line) (hq : q.MakesUp line)
    (h : q.scopeLength < p.scopeLength) : q.taken.map List.length < p.taken.map List.length := by
  obtain ⟨htype, hscope⟩ := hq.type_eq hp
  have hlonger : q.scopeText.length < p.scopeText.length := by
    obtain ⟨type, scope, breaking, subject⟩ := p
    obtain ⟨type', scope', breaking', subject'⟩ := q
    cases scope <;> cases scope' <;> simp_all [scopeLength, scopeText]
  simp only [taken, List.map_cons, htype]
  exact List.cons_lt_cons_iff.2 (.inr ⟨rfl, List.cons_lt_cons_iff.2 (.inr ⟨rfl,
    List.cons_lt_cons_iff.2 (.inl hlonger)⟩)⟩)

/-- What the any-scope grammar reads is the leftmost match of its pattern that is tried first. -/
theorem firstCut?_anyScopePieces (line : List Char) : firstCut? anyScopePieces line =
    (Parts.ofLine? .anyScope line).map fun p => ([], p.taken) := by
  cases hread : Parts.ofLine? .anyScope line with
  | none =>
    refine firstCut?_eq_none_iff.2 fun front back cut hline hcut => ?_
    have hstart : front = [] := by
      obtain ⟨_, _, _, -, hassert, -⟩ := mem_cuts_cons.1 hcut
      simpa [Assertion.holds] using (takes_assert.1 hassert).2
    subst hstart
    obtain ⟨p, hp, -⟩ := mem_cuts_anyScopePieces.1 hcut
    exact Parts.ofLine?_anyScope_eq_none_iff.1 hread p (hline ▸ hp)
  | some p =>
    obtain ⟨hp, hlongest⟩ := Parts.ofLine?_anyScope_eq_some_iff.1 hread
    refine firstCut?_eq_some_of_head? (head?_cuts_eq_some eager_anyScopePieces
      (mem_cuts_anyScopePieces.2 ⟨p, hp, rfl⟩) fun cut hcut => ?_)
    obtain ⟨q, hq, rfl⟩ := mem_cuts_anyScopePieces.1 hcut
    by_cases hne : q = p
    · rw [hne]
    · exact (hp.taken_lt hq (hlongest q hq hne)).le

example : firstCut? anyScopePieces "fix(a): b): c".toList =
    some ([], ["", "fix", "(a): b)", "", ":", " ", "c", ""].map String.toList) := by
  decide

end CommitPolicy.Header
