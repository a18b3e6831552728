import CommitPolicy.Proofs.Rendering.LineStructure
import CommitPolicy.Proofs.Text.Joined

namespace CommitPolicy.Rendering

/-- The items, cut in order into runs of one group that cannot be made longer. -/
structure IsRuns (parts : List (List View.Item)) (items : List View.Item) : Prop where
  flatten : parts.flatten = items
  nonempty : [] ∉ parts
  sameGroup : ∀ run ∈ parts, ∀ i ∈ run, ∀ j ∈ run, groupOf i = groupOf j
  maximal : parts.IsChain fun run next => ∀ i ∈ run, ∀ j ∈ next, groupOf i ≠ groupOf j

variable {parts : List (List View.Item)} {run items : List View.Item} {g : Group}

theorem IsRuns.tail (h : IsRuns (run :: parts) items) : IsRuns parts parts.flatten where
  flatten := rfl
  nonempty := fun hnil => h.nonempty (List.mem_cons_of_mem _ hnil)
  sameGroup := fun _ hrun => h.sameGroup _ (List.mem_cons_of_mem _ hrun)
  maximal := h.maximal.tail

theorem IsRuns.head_ne_nil (h : IsRuns (run :: parts) items) : run ≠ [] :=
  fun hnil => h.nonempty (hnil ▸ List.mem_cons_self)

theorem isChain_groupOf_iff :
    run.IsChain (fun i j => groupOf i == groupOf j) ↔
      ∀ i ∈ run, ∀ j ∈ run, groupOf i = groupOf j := by
  simp only [beq_iff_eq]
  have htrans : Trans (fun i j => groupOf i = groupOf j) (fun i j => groupOf i = groupOf j)
      fun i j => groupOf i = groupOf j := ⟨Eq.trans⟩
  have hsymm : Std.Symm fun i j => groupOf i = groupOf j := ⟨fun _ _ => Eq.symm⟩
  constructor
  · intro h i hi j hj
    exact h.pairwise.forall_of_forall (R := fun i j => groupOf i = groupOf j) (fun _ _ => rfl) hi hj
  · intro h
    exact (List.pairwise_of_forall_mem_list h).isChain

theorem isRuns_iff : IsRuns parts items ↔ parts = runs items := by
  rw [eq_comm, runs, List.splitBy_eq_iff]
  constructor
  · intro h
    refine ⟨h.flatten.symm, h.nonempty,
      fun run hrun => isChain_groupOf_iff.2 (h.sameGroup run hrun),
      h.maximal.imp_of_mem_imp fun run next hrun hnext hne => ?_⟩
    have hlast : run ≠ [] := fun he => h.nonempty (he ▸ hrun)
    have hhead : next ≠ [] := fun he => h.nonempty (he ▸ hnext)
    exact ⟨hlast, hhead,
      beq_eq_false_iff_ne.2 (hne _ (List.getLast_mem hlast) _ (List.head_mem hhead))⟩
  · rintro ⟨hflatten, hnonempty, hchain, hbetween⟩
    have hsame : ∀ run ∈ parts, ∀ i ∈ run, ∀ j ∈ run, groupOf i = groupOf j :=
      fun run hrun => isChain_groupOf_iff.1 (hchain run hrun)
    refine ⟨hflatten.symm, hnonempty, hsame, hbetween.imp_of_mem_imp ?_⟩
    rintro run next hrun hnext ⟨hlast, hhead, hne⟩ i hi j hj heq
    refine beq_eq_false_iff_ne.1 hne ?_
    calc groupOf (run.getLast hlast)
        = groupOf i := hsame run hrun _ (List.getLast_mem hlast) i hi
      _ = groupOf j := heq
      _ = groupOf (next.head hhead) := hsame next hnext j hj _ (List.head_mem hhead)

theorem isRuns_runs (items : List View.Item) : IsRuns (runs items) items := isRuns_iff.2 rfl

def runLines (run : List View.Item) : List String :=
  (run.head?.bind fun i => (groupOf i).inputLine?).toList ++ run.map itemLine

def runText (run : List View.Item) : String := Text.unlines (runLines run)

theorem Group.inputLine?_eq_none_iff : g.inputLine? = none ↔ g = ⟨none, none⟩ := by
  obtain ⟨commit, header⟩ := g
  cases commit <;> cases header <;> simp [inputLine?]

theorem runLines_of_mem {i : View.Item} (h : ∀ i ∈ run, ∀ j ∈ run, groupOf i = groupOf j)
    (hi : i ∈ run) : runLines run = (groupOf i).inputLine?.toList ++ run.map itemLine := by
  cases run with
  | nil => cases hi
  | cons j run => rw [runLines, List.head?_cons, Option.bind_some, h j List.mem_cons_self i hi]

theorem itemLines_some_append (h : ∀ i ∈ run, groupOf i = g) (rest : List View.Item) :
    itemLines (some g) (run ++ rest) = run.map itemLine ++ itemLines (some g) rest := by
  induction run with
  | nil => rfl
  | cons i run ih =>
    obtain ⟨hi, hrun⟩ := List.forall_mem_cons.1 h
    rw [List.cons_append, itemLines, opening, hi, if_pos rfl, ih hrun]
    rfl

theorem itemLines_append {previous : Option Group} (hne : run ≠ [])
    (hrun : ∀ i ∈ run, groupOf i = g) (hprevious : previous ≠ some g) (rest : List View.Item) :
    itemLines previous (run ++ rest) =
      (if previous.isSome then [""] else []) ++ runLines run ++ itemLines (some g) rest := by
  cases run with
  | nil => exact absurd rfl hne
  | cons i run =>
    obtain ⟨hi, hrest⟩ := List.forall_mem_cons.1 hrun
    rw [List.cons_append, itemLines, opening, hi, if_neg hprevious, itemLines_some_append hrest,
      runLines, List.head?_cons, Option.bind_some, hi]
    simp only [List.map_cons, List.append_assoc, List.cons_append]

/-- The invariant of the way through the items: behind an item of another group, what is left is
shown as blocks joined by empty lines, and one more empty line stands in front of them. -/
theorem itemLines_of_isRuns {previous : Option Group} (h : IsRuns parts items)
    (hprevious : ∀ run ∈ parts.head?, ∀ i ∈ run, previous ≠ some (groupOf i)) :
    itemLines previous items =
      (if previous.isSome && !parts.isEmpty then [""] else []) ++
        [""].intercalate (parts.map runLines) := by
  induction parts generalizing items previous with
  | nil =>
    obtain rfl := h.flatten
    simp [itemLines]
  | cons run parts ih =>
    obtain ⟨i, hi⟩ := List.exists_mem_of_ne_nil run h.head_ne_nil
    have hrun : ∀ j ∈ run, groupOf j = groupOf i :=
      fun j hj => h.sameGroup run List.mem_cons_self j hj i hi
    have hnext : ∀ next ∈ parts.head?, ∀ j ∈ next, some (groupOf i) ≠ some (groupOf j) :=
      fun next hnext j hj he =>
        (List.isChain_cons.1 h.maximal).1 next hnext i hi j hj (Option.some.inj he)
    obtain rfl := h.flatten
    rw [List.flatten_cons, itemLines_append h.head_ne_nil hrun (hprevious run rfl i hi),
      ih h.tail hnext]
    cases parts <;> simp [List.intercalate_cons_cons]

theorem itemLines_none (items : List View.Item) :
    itemLines none items = [""].intercalate ((runs items).map runLines) :=
  itemLines_of_isRuns (isRuns_runs items) fun _ _ _ _ => nofun

-- A group of which nothing is known is a group all the same: an empty line stands behind it.
example :
    let i : View.Item := ⟨.error, none, "code", "x", none, none, none, none⟩
    let j : View.Item := ⟨.warning, some "check", "code", "y", some "fix: a", none, none, none⟩
    itemLines none [i, i, j] = ["✖   x", "✖   x", "", "⧗   input: fix: a", "⚠   y [check]"] := by
  decide

/-- The report for a terminal is that of the maximal runs, each shown under the line of its message
and joined by one empty line, then the lines that sum up. There is a line for every message of which
anything is known. -/
theorem terminal_groups_runs (v : View) :
    (∀ parts, IsRuns parts v.items ↔ parts = runs v.items) ∧
    (∀ run ∈ runs v.items, ∀ i ∈ run,
      runText run = Text.unlines ((groupOf i).inputLine?.toList ++ run.map itemLine) ∧
      ((groupOf i).inputLine? = none ↔ i.commit = none ∧ i.header = none)) ∧
    terminal v = "\n".intercalate ((runs v.items).map runText) ++
      (if v.items.isEmpty then "" else "\n") ++
      problemLine v ++ "\n" ++ runLine v.summary ++ "\n" := by
  refine ⟨fun parts => isRuns_iff, fun run hrun i hi => ⟨?_, ?_⟩, ?_⟩
  · exact congrArg Text.unlines (runLines_of_mem ((isRuns_runs v.items).sameGroup run hrun) hi)
  · rw [Group.inputLine?_eq_none_iff, groupOf, Group.mk.injEq]
  · have htexts : (runs v.items).map runText = ((runs v.items).map runLines).map Text.unlines := by
      rw [List.map_map]
      rfl
    rw [terminal, terminalLines, itemLines_none, Text.unlines_append, Text.unlines_append,
      Text.unlines_intercalate, htexts, apply_ite Text.unlines]
    simp [Text.unlines_cons, String.append_assoc]

end CommitPolicy.Rendering
