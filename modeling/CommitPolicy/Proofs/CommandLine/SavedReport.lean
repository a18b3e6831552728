import CommitPolicy.CommandLine.Run
import CommitPolicy.Host.Memory
import CommitPolicy.Proofs.Files.Tree
import CommitPolicy.Proofs.Report.Saved
import CommitPolicy.Proofs.Text.Utf8

namespace CommitPolicy.CommandLine

open Host (Memory memory)

variable {s s' : Memory} {path other text : String} {content : ByteArray} {r : Report}

theorem exists_of_bind {α β : Type} {x : StateM Memory α} {f : α → StateM Memory β} {b : β}
    (h : (x >>= f) s = (b, s')) : ∃ a t, x s = (a, t) ∧ f a t = (b, s') :=
  ⟨_, _, rfl, h⟩

theorem exists_of_run_bind {ε α β : Type} {x : ExceptT ε (StateM Memory) α}
    {f : α → ExceptT ε (StateM Memory) β} {b : β} (h : (x >>= f).run s = (.ok b, s')) :
    ∃ a t, x.run s = (.ok a, t) ∧ (f a).run t = (.ok b, s') := by
  rw [ExceptT.run_bind] at h
  obtain ⟨a, t, hx, hf⟩ := exists_of_bind h
  cases a with
  | ok a => exact ⟨a, t, hx, hf⟩
  | error e => cases hf

theorem exists_of_update {f : Files.Tree → Except Files.Failure Files.Tree}
    {result : Except Files.Failure Unit} (h : Memory.update f s = (result, s')) :
    (result = .ok () ∧ f s.files = .ok s'.files) ∨ ∃ e, result = .error e := by
  rw [Memory.update] at h
  cases hfiles : f s.files with
  | ok files =>
    rw [hfiles] at h
    cases h
    exact .inl ⟨rfl, rfl⟩
  | error e =>
    rw [hfiles] at h
    cases h
    exact .inr ⟨e, rfl⟩

theorem write_of_putFile {ε : Type} {g : Files.Failure → ε}
    (h : (do pure ((← memory.writeFile path text).mapError g) : StateM Memory (Except ε Unit)) s =
      (.ok (), s')) : s.files.write path text.toUTF8 = .ok s'.files := by
  obtain ⟨result, t, hupdate, hresult⟩ := exists_of_bind h
  obtain ⟨rfl, hwrite⟩ | ⟨e, rfl⟩ :=
    exists_of_update (f := fun files => files.write path text.toUTF8) hupdate
  · cases hresult
    exact hwrite
  · cases hresult

theorem exists_of_writeFile (h : writeFile memory path text s = (.ok (), s')) :
    ∃ t : Files.Tree,
      (t = s.files ∨ s.files.createDirectories (Files.Path.parent path) = .ok t) ∧
      t.write path text.toUTF8 = .ok s'.files := by
  rw [writeFile] at h
  dsimp only at h
  -- Else the unifier evaluates the parent of a path.
  generalize Files.Path.parent path = parent at h ⊢
  split at h
  · obtain ⟨_, _, hmade, hresult⟩ := exists_of_bind h
    cases hmade
    exact ⟨s.files, .inl rfl, write_of_putFile hresult⟩
  · obtain ⟨result, t, hupdate, hresult⟩ := exists_of_bind h
    obtain ⟨rfl, hmade⟩ | ⟨e, rfl⟩ :=
      exists_of_update (f := fun files => files.createDirectories parent) hupdate
    · exact ⟨t.files, .inr hmade, write_of_putFile hresult⟩
    · cases hresult

theorem read_writeFile (h : writeFile memory path text s = (.ok (), s')) :
    s'.files.read path = .ok text.toUTF8 := by
  obtain ⟨t, -, hwrite⟩ := exists_of_writeFile h
  exact Files.Tree.read_write hwrite

theorem read_writeFile_of_ne (h : writeFile memory path text s = (.ok (), s'))
    (hne : s'.files.placeOf other ≠ s'.files.placeOf path)
    (hread : s.files.read other = .ok content) : s'.files.read other = .ok content := by
  obtain ⟨t, hmade, hwrite⟩ := exists_of_writeFile h
  refine Files.Tree.read_write_of_ne hwrite hne ?_
  obtain rfl | hmade := hmade
  · exact hread
  · exact Files.Tree.read_createDirectories hmade hread

theorem exists_of_map_mapError {ε ε' : Type} {f : ε → ε'} {x : StateM Memory (Except ε Unit)}
    (h : (do pure ((← x).mapError f) : StateM Memory (Except ε' Unit)) s = (.ok (), s')) :
    x s = (.ok (), s') := by
  obtain ⟨result, t, hx, hresult⟩ := exists_of_bind h
  cases result with
  | ok _ =>
    cases hresult
    exact hx
  | error e => cases hresult

theorem read_writeReport (h : writeReport memory r (some path) s = (.ok (), s')) :
    s'.files.read path = .ok r.serialize.toUTF8 :=
  read_writeFile (exists_of_map_mapError h)

theorem read_writeMarkdown {out : Option String} (h : writeMarkdown memory r out s = (.ok (), s'))
    (hne : ∀ p ∈ out, s'.files.placeOf path ≠ s'.files.placeOf p)
    (hread : s.files.read path = .ok content) : s'.files.read path = .ok content := by
  cases out with
  | none =>
    cases h
    exact hread
  | some out => exact read_writeFile_of_ne (exists_of_map_mapError h) (hne out rfl) hread

theorem savedReport_of_read (hread : s.files.read path = .ok r.serialize.toUTF8)
    (hparse : Report.parse r.serialize = .ok r) : savedReport memory path s = (.ok r, s) := by
  have htext : textOf (.ok r.serialize.toUTF8) = .ok r.serialize := by
    rw [textOf]
    simp only [bind, Except.bind, Text.Utf8.decode?_toUTF8]
  have hfile : memory.readFile path s = (.ok r.serialize.toUTF8, s) := by
    rw [← hread]
    rfl
  simp only [savedReport, bind, StateT.bind, hfile, htext, hparse]
  rfl

theorem exists_of_checkedReport {i : Invocation} {source : Source}
    {reportOut markdownOut : Option String}
    (h : (checkedReport memory i source reportOut markdownOut).run s = (.ok r, s')) :
    r.Produced ∧ ∃ t u, writeReport memory r reportOut t = (.ok (), u) ∧
      writeMarkdown memory r markdownOut u = (.ok (), s') := by
  rw [checkedReport] at h
  obtain ⟨config, s₁, -, h⟩ := exists_of_run_bind h
  obtain ⟨messages, s₂, -, h⟩ := exists_of_run_bind h
  obtain ⟨startedAt, s₃, -, h⟩ := exists_of_run_bind h
  obtain ⟨settings, s₄, hsettings, h⟩ := exists_of_run_bind h
  obtain ⟨finishedAt, s₅, -, h⟩ := exists_of_run_bind h
  obtain ⟨_, s₆, hreport, h⟩ := exists_of_run_bind h
  obtain ⟨_, s₇, hmarkdown, h⟩ := exists_of_run_bind h
  cases h
  refine ⟨?_, s₅, s₆, hreport, hmarkdown⟩
  have hs : Settings.ofFile config i.overrides = .ok settings := by
    cases hfile : Settings.ofFile config i.overrides with
    | ok _ =>
      rw [hfile] at hsettings
      cases hsettings
      rfl
    | error e =>
      rw [hfile] at hsettings
      cases hsettings
  exact .checked (checkMessages_eq_ok hs messages startedAt finishedAt)

/-- After a check that was asked to save its report, and that put nothing else in its place, the other
commands print what they would print of that report. -/
theorem runMarkdown_after_check {i : Invocation} {source : Source} {markdownOut : Option String}
    (h : (checkedReport memory i source (some path) markdownOut).run s = (.ok r, s'))
    (hne : ∀ p ∈ markdownOut, s'.files.placeOf path ≠ s'.files.placeOf p)
    (hexact : ∀ f ∈ r.findings, ∀ n ∈ f.data.numbers, n.IsExact) :
    runMarkdown memory path none s' =
      (0, { s' with output := s'.output ++ Rendering.markdown r.view }) ∧
    ∀ limit, runAnnotations memory path limit s' =
      (0, { s' with output := s'.output ++ Text.unlines (Rendering.annotations r.view limit) }) := by
  obtain ⟨hproduced, t, u, hreport, hmarkdown⟩ := exists_of_checkedReport h
  have hread := read_writeMarkdown hmarkdown hne (read_writeReport hreport)
  have hsaved := savedReport_of_read hread (hproduced.parse_eq_ok hexact)
  constructor
  · simp only [runMarkdown, bind, StateT.bind, hsaved]
    rfl
  · intro limit
    simp only [runAnnotations, bind, StateT.bind, hsaved]
    rfl

/-- Such a check, of a message with a finding, that makes the directory of its report. -/
example : ∃ r s', (checkedReport memory ⟨"commitguard.toml", default, .explain ""⟩
      (.text "feat: add rows") (some "out/report.json") none).run
        (Memory.start .empty .empty none) = (.ok r, s') ∧
    r.findings.length = 1 ∧ ∀ f ∈ r.findings, ∀ n ∈ f.data.numbers, n.IsExact := by
  refine ⟨_, _, rfl, ?_, ?_⟩
  · decide +kernel
  · decide +kernel

end CommitPolicy.CommandLine
