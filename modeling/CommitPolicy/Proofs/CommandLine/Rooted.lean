import CommitPolicy.CommandLine.Run
import CommitPolicy.Host.Memory
import CommitPolicy.Proofs.Files.Tree

namespace CommitPolicy.CommandLine

open Host (Memory memory)

def KeepsRooted {α : Type} (x : StateM Memory α) : Prop :=
  ∀ s, s.files.Rooted → (x s).2.files.Rooted

section Keeps

variable {α β ε : Type} {x : StateM Memory α}

theorem KeepsRooted.pure (a : α) : KeepsRooted (Pure.pure a) := fun _ hs => hs

theorem KeepsRooted.bind {f : α → StateM Memory β} (hx : KeepsRooted x)
    (hf : ∀ a, KeepsRooted (f a)) : KeepsRooted (x >>= f) :=
  fun s hs => hf (x s).1 (x s).2 (hx s hs)

theorem KeepsRooted.update {change : Files.Tree → Except Files.Failure Files.Tree}
    (h : ∀ t u, t.Rooted → change t = .ok u → u.Rooted) : KeepsRooted (Memory.update change) := by
  intro s hs
  rw [Memory.update]
  cases hchange : change s.files with
  | ok files => exact h s.files files hs hchange
  | error e => exact hs

theorem keepsRooted_runGit (args : List String) : KeepsRooted (Memory.runGit args) := by
  intro s hs
  rw [Memory.runGit]
  cases s.git <;> exact hs

theorem keepsRooted_print (text : String) : KeepsRooted (memory.print text) := fun _ hs => hs

theorem keepsRooted_printError (text : String) : KeepsRooted (memory.printError text) :=
  fun _ hs => hs

theorem keepsRooted_readFile (path : String) : KeepsRooted (memory.readFile path) := fun _ hs => hs

theorem keepsRooted_putFile (path text : String) : KeepsRooted (memory.writeFile path text) :=
  KeepsRooted.update fun _ _ ht => ht.write

theorem keepsRooted_createDirectories (path : String) :
    KeepsRooted (memory.createDirectories path) :=
  KeepsRooted.update fun _ _ ht => ht.createDirectories

theorem keepsRooted_writeFile (path text : String) : KeepsRooted (writeFile memory path text) := by
  rw [writeFile]
  dsimp only
  split
  · refine (KeepsRooted.pure _).bind fun made => ?_
    cases made with
    | error e => exact KeepsRooted.pure _
    | ok _ => exact (keepsRooted_putFile path text).bind fun _ => KeepsRooted.pure _
  · refine (keepsRooted_createDirectories _).bind fun made => ?_
    cases made with
    | error e => exact KeepsRooted.pure _
    | ok _ => exact (keepsRooted_putFile path text).bind fun _ => KeepsRooted.pure _

theorem keepsRooted_writeReport (r : Report) (out : Option String) :
    KeepsRooted (writeReport memory r out) := by
  cases out with
  | none => exact KeepsRooted.pure _
  | some path => exact (keepsRooted_writeFile _ _).bind fun _ => KeepsRooted.pure _

theorem keepsRooted_writeMarkdown (r : Report) (out : Option String) :
    KeepsRooted (writeMarkdown memory r out) := by
  cases out with
  | none => exact KeepsRooted.pure _
  | some path => exact (keepsRooted_writeFile _ _).bind fun _ => KeepsRooted.pure _

theorem keepsRooted_submissions (source : Source) : KeepsRooted (submissions memory source) := by
  cases source with
  | text message => exact KeepsRooted.pure _
  | file path => exact (keepsRooted_readFile path).bind fun _ => KeepsRooted.pure _
  | range start stop => exact (keepsRooted_runGit _).bind fun _ => KeepsRooted.pure _
  | standardInput => exact KeepsRooted.bind (fun _ hs => hs) fun _ => KeepsRooted.pure _

theorem KeepsRooted.run_bind {x : ExceptT ε (StateM Memory) α} {f : α → ExceptT ε (StateM Memory) β}
    (hx : KeepsRooted x.run) (hf : ∀ a, KeepsRooted (f a).run) : KeepsRooted (x >>= f).run := by
  rw [ExceptT.run_bind]
  refine hx.bind fun a => ?_
  cases a with
  | ok a => exact hf a
  | error e => exact KeepsRooted.pure _

theorem keepsRooted_checkedReport (i : Invocation) (source : Source)
    (reportOut markdownOut : Option String) :
    KeepsRooted (checkedReport memory i source reportOut markdownOut).run := by
  have hnow : KeepsRooted (ExceptT.lift memory.now : ExceptT RunError (StateM Memory) Timestamp).run :=
    fun _ hs => hs
  have hconfig : KeepsRooted (do pure (configOf i.config (← memory.readFile i.config))) :=
    (keepsRooted_readFile _).bind fun _ => KeepsRooted.pure _
  refine KeepsRooted.run_bind hconfig fun config => ?_
  refine KeepsRooted.run_bind (keepsRooted_submissions source) fun messages => ?_
  refine hnow.run_bind fun startedAt => ?_
  refine KeepsRooted.run_bind (KeepsRooted.pure _) fun settings => ?_
  refine hnow.run_bind fun finishedAt => ?_
  refine KeepsRooted.run_bind (keepsRooted_writeReport _ reportOut) fun _ => ?_
  exact KeepsRooted.run_bind (keepsRooted_writeMarkdown _ markdownOut) fun _ => KeepsRooted.pure _

theorem keepsRooted_runCheck (i : Invocation) (source : Source) (format : OutputFormat)
    (reportOut markdownOut : Option String) :
    KeepsRooted (runCheck memory i source format reportOut markdownOut) := by
  have hfailure (e : RunError) : KeepsRooted (reportFailure memory i e reportOut) := by
    cases reportOut with
    | none => exact KeepsRooted.pure _
    | some path =>
      refine KeepsRooted.bind (fun _ hs => hs) fun now => ?_
      exact (keepsRooted_writeFile _ _).bind fun _ => KeepsRooted.pure _
  refine (keepsRooted_checkedReport i source reportOut markdownOut).bind fun r => ?_
  cases r with
  | ok r => exact (keepsRooted_print _).bind fun _ => KeepsRooted.pure _
  | error e =>
    refine (hfailure e).bind fun _ => ?_
    exact (keepsRooted_printError _).bind fun _ => KeepsRooted.pure _

theorem keepsRooted_savedReport (path : String) : KeepsRooted (savedReport memory path) := by
  refine (keepsRooted_readFile path).bind fun bytes => ?_
  split <;> exact KeepsRooted.pure _

theorem keepsRooted_finish (answer : Except RunError String) :
    KeepsRooted (finish memory answer) := by
  cases answer with
  | ok text => exact (keepsRooted_print _).bind fun _ => KeepsRooted.pure _
  | error e => exact (keepsRooted_printError _).bind fun _ => KeepsRooted.pure _

theorem keepsRooted_runMarkdown (report : String) (output : Option String) :
    KeepsRooted (runMarkdown memory report output) := by
  refine (keepsRooted_savedReport report).bind fun r => ?_
  cases r with
  | error e => exact keepsRooted_finish _
  | ok r =>
    cases output with
    | none => exact keepsRooted_finish _
    | some path => exact (keepsRooted_writeFile _ _).bind fun _ => keepsRooted_finish _

theorem keepsRooted_runExplain (name : String) : KeepsRooted (runExplain memory name) := by
  rw [runExplain]
  split
  · exact (keepsRooted_print _).bind fun _ => KeepsRooted.pure _
  · exact (keepsRooted_printError _).bind fun _ => KeepsRooted.pure _

theorem keepsRooted_execute (i : Invocation) : KeepsRooted (execute memory i) := by
  rw [execute]
  cases i.command with
  | check source format reportOut markdownOut => exact keepsRooted_runCheck i _ _ _ _
  | markdown report output => exact keepsRooted_runMarkdown report output
  | annotations report limit =>
    exact (keepsRooted_savedReport report).bind fun _ => keepsRooted_finish _
  | explain name => exact keepsRooted_runExplain name

theorem keepsRooted_run (args : List String) : KeepsRooted (run memory args) := by
  rw [run]
  split
  · exact keepsRooted_execute _
  · exact (keepsRooted_printError _).bind fun _ => KeepsRooted.pure _
  · exact (keepsRooted_print _).bind fun _ => KeepsRooted.pure _
  · exact (keepsRooted_print _).bind fun _ => KeepsRooted.pure _

end Keeps

/-- Programs that run one after the other on a directory of files leave every file in directories
that are there. -/
theorem rooted_of_runs (files : List (String × ByteArray)) (input : ByteArray)
    (git : Option GitOutput) (runs : List (List String)) :
    (runs.foldl (fun s args => (run memory args s).2)
      (Memory.start (.ofFiles files) input git)).files.Rooted := by
  have hruns : ∀ s : Memory, s.files.Rooted →
      (runs.foldl (fun s args => (run memory args s).2) s).files.Rooted := by
    induction runs with
    | nil => exact fun _ => id
    | cons args runs ih => exact fun s hs => ih _ (keepsRooted_run args s hs)
  exact hruns _ (Files.Tree.rooted_ofFiles files)

end CommitPolicy.CommandLine
