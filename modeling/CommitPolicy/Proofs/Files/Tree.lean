import CommitPolicy.Files.Tree
import Mathlib.Data.List.Basic

namespace CommitPolicy.Files.Tree

def IsDirectory (t : Tree) (p : Place) : Prop := p = [] ∨ p ∈ t.directories

def Within (t : Tree) : Place → Prop
  | [] => True
  | _ :: up => t.IsDirectory up

/-- Whatever is there is in a directory, and no file stands in a directory's place. -/
structure Rooted (t : Tree) : Prop where
  directories : ∀ p ∈ t.directories, t.Within p
  files : ∀ f ∈ t.files, t.Within f.1
  apart : ∀ f ∈ t.files, ¬ t.IsDirectory f.1

variable {t u : Tree} {p q : Place} {path other name : String} {content : ByteArray}
  {names : List String}

theorem entryAt?_of_isDirectory (h : t.IsDirectory p) : t.entryAt? p = some .directory :=
  if_pos h

theorem entryAt?_of_not_isDirectory (h : ¬ t.IsDirectory p) :
    t.entryAt? p = (t.files.lookup p).map .file :=
  if_neg h

theorem entryAt?_eq_directory_iff : t.entryAt? p = some .directory ↔ t.IsDirectory p := by
  refine ⟨fun h => ?_, entryAt?_of_isDirectory⟩
  by_contra hp
  rw [entryAt?_of_not_isDirectory hp] at h
  obtain ⟨_, -, ⟨⟩⟩ := Option.map_eq_some_iff.1 h

theorem walk_cons_eq_ok_iff : t.walk p (name :: names) = .ok q ↔ t.IsDirectory p ∧
    ((name = ".." ∧ ∃ last up, p = last :: up ∧ t.walk up names = .ok q) ∨
      (name ≠ ".." ∧ name.utf8ByteSize ≤ Path.maxNameBytes ∧
        t.walk (name :: p) names = .ok q)) := by
  rw [walk.eq_def]
  dsimp only
  by_cases hp : t.IsDirectory p
  · rw [entryAt?_of_isDirectory hp]
    dsimp only
    by_cases hname : name = ".."
    · cases p <;> simp [hp, hname]
    · by_cases hlong : Path.maxNameBytes < name.utf8ByteSize
      · simp [hname, hlong, Nat.not_le_of_lt]
      · simp [hp, hname, hlong, Nat.le_of_not_lt]
  · cases hentry : t.entryAt? p with
    | none => simp [hp]
    | some e =>
      cases e with
      | file _ => simp [hp]
      | directory => exact absurd (entryAt?_eq_directory_iff.1 hentry) hp

theorem placeOf_eq_ok_iff : t.placeOf path = .ok q ↔ path.utf8ByteSize ≤ Path.maxBytes ∧
    ¬ (path.isEmpty ∨ Path.isAbsolute path) ∧ t.walk [] (Path.names path) = .ok q := by
  rw [placeOf]
  by_cases hlong : Path.maxBytes < path.utf8ByteSize
  · rw [if_pos hlong]
    exact iff_of_false nofun fun h => absurd h.1 (Nat.not_le_of_lt hlong)
  · rw [if_neg hlong]
    by_cases hoff : path.isEmpty ∨ Path.isAbsolute path
    · rw [if_pos hoff]
      exact iff_of_false nofun fun h => h.2.1 hoff
    · rw [if_neg hoff]
      exact ⟨fun h => ⟨Nat.le_of_not_lt hlong, hoff, h⟩, fun h => h.2.2⟩

/-- Directories are all that a path depends on, so it leads to the same place where there are more
of them. -/
theorem walk_mono (h : ∀ p, t.IsDirectory p → u.IsDirectory p) (hwalk : t.walk p names = .ok q) :
    u.walk p names = .ok q := by
  induction names generalizing p with
  | nil => exact hwalk
  | cons name names ih =>
    obtain ⟨hp, ⟨hname, last, up, rfl, hrest⟩ | ⟨hname, hlong, hrest⟩⟩ :=
      walk_cons_eq_ok_iff.1 hwalk
    · exact walk_cons_eq_ok_iff.2 ⟨h _ hp, .inl ⟨hname, last, up, rfl, ih hrest⟩⟩
    · exact walk_cons_eq_ok_iff.2 ⟨h _ hp, .inr ⟨hname, hlong, ih hrest⟩⟩

theorem placeOf_mono (h : ∀ p, t.IsDirectory p → u.IsDirectory p)
    (hplace : t.placeOf path = .ok q) : u.placeOf path = .ok q := by
  obtain ⟨hlong, hrelative, hwalk⟩ := placeOf_eq_ok_iff.1 hplace
  exact placeOf_eq_ok_iff.2 ⟨hlong, hrelative, walk_mono h hwalk⟩

theorem Rooted.within_of_isDirectory (ht : t.Rooted) (hp : t.IsDirectory p) : t.Within p := by
  obtain rfl | hp := hp
  · trivial
  · exact ht.directories p hp

theorem Rooted.within_of_walk (ht : t.Rooted) (hp : t.Within p) (hwalk : t.walk p names = .ok q) :
    t.Within q := by
  induction names generalizing p with
  | nil =>
    obtain rfl : p = q := Except.ok.inj hwalk
    exact hp
  | cons name names ih =>
    obtain ⟨hdirectory, ⟨-, last, up, rfl, hrest⟩ | ⟨-, -, hrest⟩⟩ := walk_cons_eq_ok_iff.1 hwalk
    · exact ih (ht.within_of_isDirectory hp) hrest
    · exact ih (p := name :: p) hdirectory hrest

theorem exists_of_write (h : t.write path content = .ok u) :
    ∃ p, t.placeOf path = .ok p ∧ ¬ t.IsDirectory p ∧ Path.namesDirectory path = false ∧
      u.directories = t.directories ∧ u.files = (p, content) :: t.files := by
  rw [write] at h
  cases hplace : t.placeOf path with
  | error e => simp [hplace, bind, Except.bind] at h
  | ok p =>
    refine ⟨p, rfl, ?_⟩
    simp only [hplace, bind, Except.bind] at h
    rw [← entryAt?_eq_directory_iff]
    split at h
    · cases h
    -- A file that is there and no file at all differ in the error only.
    all_goals
      rename_i hentry
      split at h
      · cases h
      · rename_i hname
        cases h
        exact ⟨by simp [hentry], by simpa using hname, rfl, rfl⟩

theorem read_eq_ok_iff : t.read path = .ok content ↔ ∃ p, t.placeOf path = .ok p ∧
    t.entryAt? p = some (.file content) ∧ Path.namesDirectory path = false := by
  rw [read]
  cases hplace : t.placeOf path with
  | error e => simp [bind, Except.bind]
  | ok p =>
    simp only [Except.ok.injEq, exists_eq_left', bind, Except.bind]
    cases hentry : t.entryAt? p with
    | none => simp
    | some e =>
      cases e with
      | directory => simp
      | file _ => cases Path.namesDirectory path <;> simp

theorem isDirectory_congr (h : u.directories = t.directories) :
    u.IsDirectory p ↔ t.IsDirectory p := by
  rw [IsDirectory, IsDirectory, h]

theorem placeOf_of_write (h : t.write path content = .ok u) (hplace : t.placeOf other = .ok p) :
    u.placeOf other = .ok p := by
  obtain ⟨_, -, -, -, hdirectories, -⟩ := exists_of_write h
  exact placeOf_mono (fun _ => (isDirectory_congr hdirectories).2) hplace

theorem read_write (h : t.write path content = .ok u) : u.read path = .ok content := by
  obtain ⟨p, hplace, hp, hname, hdirectories, hfiles⟩ := exists_of_write h
  refine read_eq_ok_iff.2 ⟨p, placeOf_of_write h hplace, ?_, hname⟩
  rw [entryAt?_of_not_isDirectory (mt (isDirectory_congr hdirectories).1 hp), hfiles,
    List.lookup_cons_self]
  rfl

theorem read_write_of_ne (h : t.write path content = .ok u) (hne : u.placeOf other ≠ u.placeOf path)
    {found : ByteArray} (hread : t.read other = .ok found) : u.read other = .ok found := by
  obtain ⟨p, hplace, -, -, hdirectories, hfiles⟩ := exists_of_write h
  obtain ⟨q, hother, hentry, hname⟩ := read_eq_ok_iff.1 hread
  have hqp : q ≠ p := by
    rintro rfl
    exact hne ((placeOf_of_write h hother).trans (placeOf_of_write h hplace).symm)
  have hq : ¬ t.IsDirectory q := by
    rw [← entryAt?_eq_directory_iff, hentry]
    exact nofun
  refine read_eq_ok_iff.2 ⟨q, placeOf_of_write h hother, ?_, hname⟩
  rw [entryAt?_of_not_isDirectory hq] at hentry
  rwa [entryAt?_of_not_isDirectory (mt (isDirectory_congr hdirectories).1 hq), hfiles,
    List.lookup_cons, beq_false_of_ne hqp]

theorem within_mono (h : ∀ p, t.IsDirectory p → u.IsDirectory p) (hp : t.Within p) : u.Within p := by
  cases p with
  | nil => trivial
  | cons _ up => exact h up hp

theorem rooted_empty : empty.Rooted := ⟨by simp [empty], by simp [empty], by simp [empty]⟩

theorem Rooted.write (ht : t.Rooted) (h : t.write path content = .ok u) : u.Rooted := by
  obtain ⟨p, hplace, hp, -, hdirectories, hfiles⟩ := exists_of_write h
  have hwithin : t.Within p := ht.within_of_walk (p := []) trivial (placeOf_eq_ok_iff.1 hplace).2.2
  have hmono : ∀ p, t.Within p → u.Within p :=
    fun p => within_mono fun _ => (isDirectory_congr hdirectories).2
  constructor
  · rw [hdirectories]
    exact fun p hp => hmono p (ht.directories p hp)
  · rw [hfiles]
    exact List.forall_mem_cons.2 ⟨hmono p hwithin, fun f hf => hmono f.1 (ht.files f hf)⟩
  · rw [hfiles]
    simp only [isDirectory_congr hdirectories]
    exact List.forall_mem_cons.2 ⟨hp, ht.apart⟩

theorem exists_of_makeDirectories_cons (h : t.makeDirectories p (name :: names) = .ok u) :
    (∃ last up, p = last :: up ∧ t.makeDirectories up names = .ok u) ∨
    (t.IsDirectory (name :: p) ∧ t.makeDirectories (name :: p) names = .ok u) ∨
    (t.entryAt? (name :: p) = none ∧
      makeDirectories { t with directories := (name :: p) :: t.directories } (name :: p) names =
        .ok u) := by
  rw [makeDirectories.eq_def] at h
  dsimp only at h
  by_cases hname : name = ".."
  · rw [if_pos hname] at h
    cases p with
    | nil => cases h
    | cons last up => exact .inl ⟨last, up, rfl, h⟩
  · rw [if_neg hname] at h
    by_cases hlong : Path.maxNameBytes < name.utf8ByteSize
    · rw [if_pos hlong] at h
      cases h
    · rw [if_neg hlong] at h
      cases hentry : t.entryAt? (name :: p) with
      | none => exact .inr (.inr ⟨rfl, by rwa [hentry] at h⟩)
      | some e =>
        rw [hentry] at h
        cases e with
        | directory => exact .inr (.inl ⟨entryAt?_eq_directory_iff.1 hentry, h⟩)
        | file _ => cases h

section Made

variable {d : Place}

theorem isDirectory_made : IsDirectory { t with directories := d :: t.directories } p ↔
    p = d ∨ t.IsDirectory p := by
  rw [IsDirectory, IsDirectory, List.mem_cons, or_left_comm]

theorem entryAt?_made (hfree : t.entryAt? d = none) {e : Entry} (h : t.entryAt? p = some e) :
    entryAt? { t with directories := d :: t.directories } p = some e := by
  have hne : p ≠ d := by
    rintro rfl
    cases hfree.symm.trans h
  by_cases hp : t.IsDirectory p
  · rw [entryAt?_of_isDirectory hp] at h
    rwa [entryAt?_of_isDirectory (isDirectory_made.2 (.inr hp))]
  · rw [entryAt?_of_not_isDirectory hp] at h
    have hp' := mt isDirectory_made.1 (not_or.2 ⟨hne, hp⟩)
    rwa [entryAt?_of_not_isDirectory hp']

theorem ne_of_entryAt?_eq_none (h : t.entryAt? p = none) : ∀ f ∈ t.files, f.1 ≠ p := by
  have hp : ¬ t.IsDirectory p := by
    rw [← entryAt?_eq_directory_iff, h]
    exact nofun
  rw [entryAt?_of_not_isDirectory hp, Option.map_eq_none_iff, List.lookup_eq_none_iff] at h
  rintro f hf rfl
  simpa using h f hf

theorem Rooted.cons_directory (ht : t.Rooted) (hd : t.Within d) (hfree : t.entryAt? d = none) :
    Rooted { t with directories := d :: t.directories } := by
  have hmono : ∀ p, t.Within p → Within { t with directories := d :: t.directories } p :=
    fun p => within_mono fun _ hp => isDirectory_made.2 (.inr hp)
  refine ⟨List.forall_mem_cons.2 ⟨hmono d hd, fun p hp => hmono p (ht.directories p hp)⟩,
    fun f hf => hmono f.1 (ht.files f hf), fun f hf hdirectory => ?_⟩
  obtain hsame | hdirectory := isDirectory_made.1 hdirectory
  · exact ne_of_entryAt?_eq_none hfree f hf hsame
  · exact ht.apart f hf hdirectory

end Made

theorem entryAt?_makeDirectories (h : t.makeDirectories p names = .ok u) {e : Entry}
    (hentry : t.entryAt? q = some e) : u.entryAt? q = some e := by
  induction names generalizing t p with
  | nil =>
    obtain rfl : t = u := Except.ok.inj h
    exact hentry
  | cons name names ih =>
    obtain ⟨_, up, rfl, hrest⟩ | ⟨-, hrest⟩ | ⟨hfree, hrest⟩ := exists_of_makeDirectories_cons h
    · exact ih hrest hentry
    · exact ih hrest hentry
    · exact ih hrest (entryAt?_made hfree hentry)

theorem Rooted.makeDirectories (ht : t.Rooted) (hp : t.IsDirectory p)
    (h : t.makeDirectories p names = .ok u) : u.Rooted := by
  induction names generalizing t p with
  | nil =>
    obtain rfl : t = u := Except.ok.inj h
    exact ht
  | cons name names ih =>
    obtain ⟨_, up, rfl, hrest⟩ | ⟨hname, hrest⟩ | ⟨hfree, hrest⟩ := exists_of_makeDirectories_cons h
    · exact ih ht (ht.within_of_isDirectory hp) hrest
    · exact ih ht hname hrest
    · exact ih (ht.cons_directory (d := name :: p) hp hfree) (isDirectory_made.2 (.inl rfl)) hrest

theorem makeDirectories_of_createDirectories (h : t.createDirectories path = .ok u) :
    t.makeDirectories [] (Path.names path) = .ok u := by
  rw [createDirectories] at h
  split at h
  · cases h
  · split at h
    · cases h
    · exact h

theorem read_createDirectories (h : t.createDirectories path = .ok u)
    (hread : t.read other = .ok content) : u.read other = .ok content := by
  have hmade := makeDirectories_of_createDirectories h
  obtain ⟨p, hplace, hentry, hname⟩ := read_eq_ok_iff.1 hread
  refine read_eq_ok_iff.2
    ⟨p, placeOf_mono (fun q hq => ?_) hplace, entryAt?_makeDirectories hmade hentry, hname⟩
  exact entryAt?_eq_directory_iff.1
    (entryAt?_makeDirectories hmade (entryAt?_of_isDirectory hq))

theorem Rooted.createDirectories (ht : t.Rooted) (h : t.createDirectories path = .ok u) :
    u.Rooted :=
  ht.makeDirectories (.inl rfl) (makeDirectories_of_createDirectories h)

theorem Rooted.add (ht : t.Rooted) (file : String × ByteArray) : (t.add file).Rooted := by
  rw [Tree.add]
  cases hmade : t.createDirectories (Path.parent file.1) with
  | error e => exact ht
  | ok u =>
    have hu := ht.createDirectories hmade
    dsimp only
    cases hwritten : u.write file.1 file.2 with
    | error e => exact hu
    | ok written => exact hu.write hwritten

theorem Rooted.foldl_add (ht : t.Rooted) (files : List (String × ByteArray)) :
    (files.foldl Tree.add t).Rooted := by
  induction files generalizing t with
  | nil => exact ht
  | cons file files ih =>
    rw [List.foldl_cons]
    exact ih (ht.add file)

/-- Whatever files a directory is filled with, each is in directories that are there. -/
theorem rooted_ofFiles (files : List (String × ByteArray)) : (ofFiles files).Rooted :=
  rooted_empty.foldl_add files

end CommitPolicy.Files.Tree
