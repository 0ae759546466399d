import ClientGen.Proofs.Journal
import ClientGen.Proofs.Packages

/-!
# Files are written all or nothing

A run without a client to generate writes no file at all, and one that generates a client writes the
files of its project and no others. This file fixes

* `plan`: what a run does before it saves, and `generateClient_eq`: saving is all that follows;
* `plan_journaling`: nothing of it is noted in a journal, whatever it reads and asks, and whatever
  loads the description;
* `Notes`, `saveFiles_journaling`: what saving notes, file by file;
* `program_follows`: a journal changes nothing that a run does;
* `Package.nodup_fileNames`: no two files of a package share a name;
* `program_saves`: a run notes nothing where there is no plan, else the files of its project.
-/

namespace ClientGen

open ClientGen.Text

variable {σ α β : Type}

namespace CommandLine

/-! ## 1. What comes before saving -/

section Plan

variable {m : Type → Type} [Monad m] (sh : Shell m) (load : Loader m)

/-- Directory that a configuration asks for. -/
def directoryOf (c : Config) : Value := if c.dirname.isGiven then c.dirname else .text "api_client"

/-- Configuration of a run: it is chosen, has a source, and its directory is told. -/
def configure (tries : Nat) (o : Options) : Run m Config := do
  let loaded ← orFault (Config.load sh configFile o.dirname)
  let c ← chooseConfig sh tries o loaded
  if !c.url.isGiven then
    say sh "❌ Ошибка: URL не указан ни в конфиге, ни в аргументах"
    throw (.exit 1)
  sayValue sh "📁 Генерация в папку: " (directoryOf c)
  return c

/-- **What a run does before it saves**: it reads its options, chooses a configuration and generates
    the project that this asks for from the description that is loaded. -/
def plan (tries : Nat) (words : List String) : Run m (Config × Source.Project) :=
  match read words with
  | .misuse => throw (.exit 2)
  | .help => do
    say sh helpText
    throw (.exit 0)
  | .run o => do
    let c ← configure sh tries o
    let p ← generate sh load c
    return (c, p)

theorem generateClient_eq [LawfulMonad m] (tries : Nat) (o : Options) :
    generateClient sh load tries o = configure sh tries o >>= fun c =>
      reporting sh (generate sh load c >>= save sh (directoryOf c)) := by
  unfold generateClient configure
  simp only [bind_assoc]
  refine congrArg (Bind.bind _) (funext fun loaded => ?_)
  refine congrArg (Bind.bind _) (funext fun c => ?_)
  split
  · simp only [bind_assoc, pure_bind]
    rfl
  · simp only [bind_assoc, pure_bind]
    rfl

end Plan

/-! ## 2. Runs next to a journal -/

/-- Run next to a journal that it leaves alone. -/
def besideRun (x : Run (StateM σ) α) : Run (StateM (σ × Journal)) α := ExceptT.mk (beside x.run)

theorem bind_besideRun {x : Run (StateM σ) α} {f : α → Run (StateM σ) β}
    {g : α → Run (StateM (σ × Journal)) β} (h : ∀ a, g a = besideRun (f a)) :
    besideRun x >>= g = besideRun (x >>= f) := by
  rw [funext h]
  have hstep : ∀ r : Except Ending α, ExceptT.bindCont (m := StateM (σ × Journal))
      (fun a => besideRun (f a)) r = beside (ExceptT.bindCont (m := StateM σ) f r) := by
    intro r
    cases r <;> rfl
  exact bind_beside hstep

variable (sh : Shell (StateM σ)) (load : Loader (StateM σ))

theorem say_journaling (line : String) : say sh.journaling line = besideRun (say sh line) := rfl

theorem orFault_beside (x : StateM σ (Except Fault α)) :
    orFault (beside x) = besideRun (orFault x) := by
  refine bind_besideRun (x := (x : Run (StateM σ) _)) fun a => ?_
  cases a <;> rfl

theorem orFault_pure_journaling (x : Except Fault α) :
    orFault (pure x : StateM (σ × Journal) _) = besideRun (orFault (pure x)) :=
  orFault_beside (pure x)

theorem sayValue_journaling (label : String) (v : Value) :
    sayValue sh.journaling label v = besideRun (sayValue sh label v) := by
  unfold sayValue
  rw [orFault_pure_journaling]
  exact bind_besideRun fun text => say_journaling sh _

theorem confirm_journaling (question : String) (tries : Nat) :
    confirm sh.journaling question tries = besideRun (confirm sh question tries) := by
  induction tries with
  | zero => rfl
  | succ tries ih =>
    unfold confirm
    refine bind_besideRun (x := liftM (sh.put (question ++ " (y/n): "))) fun _ => ?_
    refine bind_besideRun (x := liftM sh.ask) fun line => ?_
    cases line with
    | none => rfl
    | some line =>
      dsimp only
      cases meaningOf line with
      | some b => rfl
      | none =>
        dsimp only
        rw [say_journaling, ih]
        exact bind_besideRun fun _ => rfl

theorem showConfig_journaling (c : Config) :
    showConfig sh.journaling c = besideRun (showConfig sh c) := by
  unfold showConfig
  simp only [say_journaling, sayValue_journaling]
  refine bind_besideRun fun _ => ?_
  refine bind_besideRun fun _ => ?_
  refine bind_besideRun fun _ => ?_
  exact bind_besideRun fun _ => rfl

theorem chooseConfig_journaling (tries : Nat) (o : Options) (loaded : Config.Loaded) :
    chooseConfig sh.journaling tries o loaded = besideRun (chooseConfig sh tries o loaded) := by
  have hnone : chooseConfig sh.journaling tries o .absent =
      besideRun (chooseConfig sh tries o .absent) := by
    unfold chooseConfig
    dsimp only
    split
    · rfl
    · rw [say_journaling]
      exact bind_besideRun fun _ => rfl
  cases loaded with
  | absent => exact hnone
  | unreadable => exact hnone
  | config c =>
    unfold chooseConfig
    dsimp only
    split
    · rw [showConfig_journaling]
      refine bind_besideRun fun _ => ?_
      split
      · rfl
      · rw [confirm_journaling]
        refine bind_besideRun fun uses => ?_
        cases uses <;> rfl
    · rw [say_journaling]
      exact bind_besideRun fun _ => rfl

theorem configure_journaling (tries : Nat) (o : Options) :
    configure sh.journaling tries o = besideRun (configure sh tries o) := by
  unfold configure
  rw [Config.load_journaling, orFault_beside]
  refine bind_besideRun fun loaded => ?_
  rw [chooseConfig_journaling]
  refine bind_besideRun fun c => ?_
  rw [sayValue_journaling, say_journaling]
  split
  · refine bind_besideRun fun _ => ?_
    rfl
  · exact bind_besideRun fun _ => rfl

theorem generate_journaling (c : Config) :
    generate sh.journaling load.journaling c = besideRun (generate sh load c) := by
  unfold generate
  simp only [say_journaling, sayValue_journaling, Loader.journaling, orFault_beside,
    orFault_pure_journaling]
  refine bind_besideRun fun _ => ?_
  refine bind_besideRun fun _ => ?_
  refine bind_besideRun fun source => ?_
  refine bind_besideRun fun document => ?_
  refine bind_besideRun fun _ => ?_
  exact bind_besideRun fun settings => rfl

/-- **Nothing that comes before saving is noted**, whatever is read and asked and whatever loads. -/
theorem plan_journaling (tries : Nat) (words : List String) :
    plan sh.journaling load.journaling tries words = besideRun (plan sh load tries words) := by
  unfold plan
  cases read words with
  | misuse => rfl
  | help => exact bind_besideRun (x := say sh helpText) fun _ => rfl
  | run o =>
    dsimp only
    rw [configure_journaling]
    refine bind_besideRun fun c => ?_
    rw [generate_journaling]
    exact bind_besideRun fun p => rfl

/-! ## 3. Saving -/

/-- Path of a file of a project below a directory, and the file's text. -/
def noteOf (directory : String) (f : Source.File) : String × String :=
  (Path.below directory f.name, f.text)

/-- Answer to making the directory that a file of a project lies in, and the state after it. -/
def making (directory : String) (f : Source.File) (s : σ) : Except FileFault Unit × σ :=
  (sh.makeDirectories (Path.directoryOf (Path.below directory f.name))).run s

/-- Answer to writing a file of a project into a directory just made, and the state after it. -/
def writing (directory : String) (f : Source.File) (s : σ) : Except Fault Unit × σ :=
  (sh.writeText (Path.below directory f.name) (.ok f.text)).run (making sh directory f s).2

/-- **A shell takes files** from a state on: each directory is made, and each file is written. -/
def Takes (directory : String) : List Source.File → σ → Prop
  | [], _ => True
  | f :: rest, s => (making sh directory f s).1 = .ok () ∧ (writing sh directory f s).1 = .ok () ∧
      Takes directory rest (writing sh directory f s).2

/-- **What saving files notes** from a state on: paths of the files in their order, and where the
    shell takes all files, which is where the saving ends well, all of them with their texts. -/
structure Notes (directory : String) (files : List Source.File) (s : σ)
    (result : Except Ending Unit) (new : Journal) : Prop where
  initial : new.map Prod.fst <+: files.map fun f => (noteOf directory f).1
  settled : result = .ok () ↔ Takes sh directory files s
  whole : result = .ok () → new = files.map (noteOf directory)

/-- A run goes on where it ends well, in the state that it leaves. -/
theorem run_bind (x : Run (StateM σ) α) (f : α → Run (StateM σ) β) (s : σ) :
    (x >>= f).run.run s =
      match x.run.run s with
      | (.ok a, s') => (f a).run.run s'
      | (.error e, s') => (.error e, s') := by
  show (ExceptT.bindCont f (x.run.run s).1).run (x.run.run s).2 = _
  rcases x.run.run s with ⟨_ | _, _⟩ <;> rfl

theorem run_bind_eq_ok {x : Run (StateM σ) α} {f : α → Run (StateM σ) β} {s s' : σ} {b : β}
    (h : (x >>= f).run.run s = (.ok b, s')) :
    ∃ a s₁, x.run.run s = (.ok a, s₁) ∧ (f a).run.run s₁ = (.ok b, s') := by
  rw [run_bind] at h
  rcases hx : x.run.run s with ⟨e | a, s₁⟩
  · rw [hx] at h
    cases h
  · rw [hx] at h
    exact ⟨a, s₁, rfl, h⟩

theorem run_orFault (x : StateM σ (Except Fault α)) (s : σ) :
    (orFault x).run.run s = ((x.run s).1.mapError Ending.fault, (x.run s).2) := by
  have hstep : (orFault x).run.run s =
      (orFault (pure (x.run s).1 : StateM σ _)).run.run (x.run s).2 := rfl
  rw [hstep]
  cases (x.run s).1 <;> rfl

/-- Saves one file. -/
def saveFile {m : Type → Type} [Monad m] (sh : Shell m) (directory : String) (f : Source.File) :
    Run m Unit := do
  orFault (return (← sh.makeDirectories (Path.directoryOf (Path.below directory f.name))).mapError .file)
  orFault (sh.writeText (Path.below directory f.name) (.ok f.text))

theorem saveFiles_cons {m : Type → Type} [Monad m] [LawfulMonad m] (sh : Shell m) (directory : String)
    (f : Source.File) (rest : List Source.File) : saveFiles sh directory (f :: rest) =
      saveFile sh directory f >>= fun _ => saveFiles sh directory rest := by
  rw [saveFiles, saveFile, bind_assoc]

theorem run_orFault_file (x : StateM σ (Except FileFault α)) (s : σ) :
    (orFault do return (← x).mapError Fault.file).run.run s =
      (((x.run s).1.mapError Fault.file).mapError Ending.fault, (x.run s).2) :=
  run_orFault _ s

theorem run_saveFile (directory : String) (f : Source.File) (s : σ) :
    (saveFile sh directory f).run.run s =
      match making sh directory f s with
      | (.error fault, s') => (.error (.fault (.file fault)), s')
      | (.ok _, _) => ((writing sh directory f s).1.mapError .fault, (writing sh directory f s).2) := by
  unfold saveFile writing
  rw [run_bind, run_orFault_file]
  unfold making
  rcases (sh.makeDirectories (Path.directoryOf (Path.below directory f.name))).run s with ⟨fault | _, s'⟩
  · rfl
  · exact run_orFault _ s'

theorem making_journaling (directory : String) (f : Source.File) (s : σ) (log : Journal) :
    making sh.journaling directory f (s, log) =
      ((making sh directory f s).1, ((making sh directory f s).2, log)) := by
  unfold making
  rw [sh.makeDirectories_journaling]
  rfl

theorem writing_journaling (directory : String) (f : Source.File) (s : σ) (log : Journal) :
    writing sh.journaling directory f (s, log) =
      ((writing sh directory f s).1, ((writing sh directory f s).2,
        log ++ [(Path.below directory f.name, Shell.leftText f.text)])) := by
  unfold writing
  rw [making_journaling]
  exact sh.writeText_journaling _ _ _ log

/-- A file is noted by its path once its directory is made, and with its text where it is written. -/
theorem saveFiles_journaling (directory : String) (files : List Source.File) (s : σ) (log : Journal) :
    ∃ result s' new, (saveFiles sh.journaling directory files).run.run (s, log) =
      (result, (s', log ++ new)) ∧ Notes sh directory files s result new := by
  induction files generalizing s log with
  | nil =>
    refine ⟨.ok (), s, [], ?_, List.nil_prefix, iff_of_true rfl trivial, fun _ => rfl⟩
    rw [List.append_nil]
    rfl
  | cons f rest ih =>
    rw [saveFiles_cons, run_bind, run_saveFile, making_journaling, writing_journaling]
    -- nothing is noted unless the directory is made; a text that is not written ends the saving
    rcases hmade : (making sh directory f s).1 with fault | _
    · refine ⟨.error (.fault (.file fault)), (making sh directory f s).2, [], ?_, List.nil_prefix,
        ?_, ?_⟩
      · rw [List.append_nil]
      · refine iff_of_false (fun h => by cases h) fun h => ?_
        cases hmade.symm.trans h.1
      · exact fun h => by cases h
    · rcases hwritten : (writing sh directory f s).1 with fault | _
      · refine ⟨.error (.fault fault), (writing sh directory f s).2, [_], rfl, ?_, ?_, ?_⟩
        · exact ⟨rest.map fun f => (noteOf directory f).1, rfl⟩
        · refine iff_of_false (fun h => by cases h) fun h => ?_
          cases hwritten.symm.trans h.2.1
        · exact fun h => by cases h
      · obtain ⟨result, s', new, hrest, hnotes⟩ := ih (writing sh directory f s).2
          (log ++ [(Path.below directory f.name, Shell.leftText f.text)])
        have htext : (Path.below directory f.name, Shell.leftText f.text) = noteOf directory f := by
          rw [sh.leftText_eq_of_writeText hwritten]
          rfl
        refine ⟨result, s', noteOf directory f :: new, ?_, ?_, ?_, fun h => ?_⟩
        · rw [List.append_assoc] at hrest
          rw [← htext]
          exact hrest
        · exact List.cons_prefix_cons.mpr ⟨rfl, hnotes.initial⟩
        · exact hnotes.settled.trans ⟨fun h => ⟨hmade, hwritten, h⟩, fun h => h.2.2⟩
        · rw [hnotes.whole h]
          rfl

/-- State in which the first file of a project is saved. -/
def told (p : Source.Project) (s : σ) : σ :=
  ((say sh ("💾 Сохранение " ++ toString p.files.length ++ " файлов...")).run.run s).2

/-- Saving below a directory notes what its files do; all else that it does is telling. -/
theorem save_journaling (directory : String) (p : Source.Project) (s : σ) (log : Journal) :
    ∃ result s' new, (save sh.journaling (.text directory) p).run.run (s, log) =
      (result, (s', log ++ new)) ∧ Notes sh directory p.files (told sh p s) result new := by
  obtain ⟨result, s', new, hfiles, hnotes⟩ := saveFiles_journaling sh directory p.files (told sh p s) log
  have hsave : (save sh.journaling (.text directory) p).run.run (s, log) =
      ((saveFiles sh.journaling directory p.files >>= fun _ => do
        say sh.journaling "✅ Генерация завершена успешно!"
        let workingDirectory ← sh.journaling.workingDirectory
        say sh.journaling ("📦 Клиент создан в: " ++ Path.absolute workingDirectory directory)).run.run
        (told sh p s, log)) := rfl
  rw [hsave, run_bind, hfiles]
  cases result with
  | error e => exact ⟨_, _, new, rfl, hnotes⟩
  | ok u => exact ⟨_, _, new, rfl, hnotes⟩

/-- Nothing is saved below what is no text. -/
theorem save_journaling_of_ne {directory : Value} (h : ∀ d, directory ≠ .text d) (p : Source.Project)
    (s : σ) (log : Journal) : ∃ s', (save sh.journaling directory p).run.run (s, log) =
      (.error (.fault .wrongKind), (s', log)) := by
  cases directory with
  | text d => exact absurd rfl (h d)
  | _ => exact ⟨_, rfl⟩

/-! ## 4. Reporting -/

/-- Ending of a run whose faults are reported. -/
def reported : Ending → Ending
  | .exit code => .exit code
  | .fault f => (report? f).elim (.fault f) fun _ => .exit 1

theorem run_tryCatch (x : Run (StateM σ) α) (handle : Ending → Run (StateM σ) α) (s : σ) :
    (tryCatch x handle).run.run s =
      match x.run.run s with
      | (.ok a, s') => (.ok a, s')
      | (.error e, s') => (handle e).run.run s' := by
  have htry : tryCatch x handle = ExceptT.tryCatch x handle := rfl
  rw [htry]
  simp only [ExceptT.tryCatch, ExceptT.run, ExceptT.mk, StateT.run_bind]
  rcases StateT.run x s with ⟨_ | _, _⟩ <;> rfl

theorem run_reporting {x : Run (StateM (σ × Journal)) Unit} {result : Except Ending Unit}
    {s : σ × Journal} {s' : σ} {log : Journal} (h : x.run.run s = (result, (s', log))) :
    ∃ s'', (reporting sh.journaling x).run.run s = (result.mapError reported, (s'', log)) := by
  unfold reporting
  rw [run_tryCatch, h]
  cases result with
  | ok u => exact ⟨s', rfl⟩
  | error e =>
    cases e with
    | exit code => exact ⟨s', rfl⟩
    | fault f =>
      dsimp only [Except.mapError, reported]
      cases report? f with
      | none => exact ⟨s', rfl⟩
      | some line => exact ⟨_, rfl⟩

/-! ## 5. Whole runs -/

theorem run_besideRun (x : Run (StateM σ) α) (s : σ) (log : Journal) :
    (besideRun x).run.run (s, log) = ((x.run.run s).1, ((x.run.run s).2, log)) := rfl

/-- A run that generates a client does what comes before saving, then saves and reports. -/
theorem run_generateClient (tries : Nat) (o : Options) (s : σ) :
    (generateClient sh.journaling load.journaling tries o).run.run (s, []) =
      match (configure sh tries o).run.run s with
      | (.error e, s') => (.error e, (s', []))
      | (.ok c, s') => (reporting sh.journaling
          (besideRun (generate sh load c) >>= save sh.journaling (directoryOf c))).run.run (s', []) := by
  rw [generateClient_eq, run_bind, configure_journaling, run_besideRun]
  rcases (configure sh tries o).run.run s with ⟨_ | c, s'⟩
  · rfl
  · dsimp only
    rw [generate_journaling]

theorem run_plan {words : List String} {o : Options} (hread : read words = .run o) (tries : Nat)
    (s : σ) :
    (plan sh load tries words).run.run s =
      match (configure sh tries o).run.run s with
      | (.error e, s') => (.error e, s')
      | (.ok c, s') =>
        match (generate sh load c).run.run s' with
        | (.error e, s'') => (.error e, s'')
        | (.ok p, s'') => (.ok (c, p), s'') := by
  unfold plan
  rw [hread]
  dsimp only
  rw [run_bind]
  rcases (configure sh tries o).run.run s with ⟨_ | c, s'⟩
  · rfl
  · dsimp only
    rw [run_bind]
    rcases (generate sh load c).run.run s' with ⟨_ | p, s''⟩ <;> rfl

/-- A run that generates no client notes nothing. -/
theorem program_journaling_of_error {tries : Nat} {words : List String} {s s' : σ} {e : Ending}
    (hwords : ∀ o, read words = .run o → o.initConfig = false)
    (h : (plan sh load tries words).run.run s = (.error e, s')) :
    ∃ e' s'', (program sh.journaling load.journaling tries words).run (s, []) = (.error e', (s'', [])) := by
  unfold program
  cases hread : read words with
  | misuse => exact ⟨.exit 2, s, rfl⟩
  | help => exact ⟨.exit 0, _, rfl⟩
  | run o =>
    rw [run_plan sh load hread] at h
    dsimp only
    rw [hwords o hread, if_neg Bool.false_ne_true, run_generateClient]
    rcases hc : (configure sh tries o).run.run s with ⟨_ | c, s₁⟩
    · exact ⟨_, s₁, rfl⟩
    · rw [hc] at h
      dsimp only at h ⊢
      rcases hp : (generate sh load c).run.run s₁ with ⟨e₂ | p, s₂⟩
      · have hrun : (besideRun (generate sh load c) >>= save sh.journaling (directoryOf c)).run.run
            (s₁, []) = (.error e₂, (s₂, [])) := by
          rw [run_bind, run_besideRun, hp]
        obtain ⟨s₃, hreport⟩ := run_reporting sh hrun
        exact ⟨reported e₂, s₃, hreport⟩
      · rw [hp] at h
        cases h

/-- What is planned is generated from the configuration of the run. -/
theorem exists_of_plan {tries : Nat} {words : List String} {s s' : σ} {c : Config} {p : Source.Project}
    (h : (plan sh load tries words).run.run s = (.ok (c, p), s')) : ∃ o s₁, read words = .run o ∧
      (configure sh tries o).run.run s = (.ok c, s₁) ∧ (generate sh load c).run.run s₁ = (.ok p, s') := by
  unfold plan at h
  cases hread : read words with
  | misuse =>
    rw [hread] at h
    cases h
  | help =>
    rw [hread] at h
    cases h
  | run o =>
    rw [hread] at h
    obtain ⟨c', s₁, hc, h⟩ := run_bind_eq_ok h
    obtain ⟨p', s₂, hp, h⟩ := run_bind_eq_ok h
    cases h
    exact ⟨o, s₁, rfl, hc, hp⟩

/-- A run that generates a client saves it from where the plan ends. -/
theorem program_journaling_of_ok {tries : Nat} {words : List String} {s s' : σ} {c : Config}
    {p : Source.Project} (hwords : ∀ o, read words = .run o → o.initConfig = false)
    (h : (plan sh load tries words).run.run s = (.ok (c, p), s')) {result : Except Ending Unit} {s'' : σ}
    {new : Journal} (hsave : (save sh.journaling (directoryOf c) p).run.run (s', []) =
      (result, (s'', new))) :
    ∃ s'', (program sh.journaling load.journaling tries words).run (s, []) =
      (result.mapError reported, (s'', new)) := by
  obtain ⟨o, s₁, hread, hc, hp⟩ := exists_of_plan sh load h
  unfold program
  rw [hread]
  dsimp only
  rw [hwords o hread, if_neg Bool.false_ne_true, run_generateClient, hc]
  have hrun : (besideRun (generate sh load c) >>= save sh.journaling (directoryOf c)).run.run (s₁, []) =
      (result, (s'', new)) := by
    rw [run_bind, run_besideRun, hp]
    exact hsave
  exact run_reporting sh hrun

/-! ## 6. Journals and outcomes -/

/-- **A run with a journal follows one without**: it ends in the same way and in the same state. -/
def Follows (x : Run (StateM (σ × Journal)) α) (y : Run (StateM σ) α) : Prop :=
  ∀ s log, ((x.run.run (s, log)).1, (x.run.run (s, log)).2.1) = y.run.run s

theorem Follows.besideRun (y : Run (StateM σ) α) : Follows (besideRun y) y := fun _ _ => rfl

theorem Follows.bind {x : Run (StateM (σ × Journal)) α} {y : Run (StateM σ) α}
    {f : α → Run (StateM (σ × Journal)) β} {g : α → Run (StateM σ) β} (h : Follows x y)
    (hnext : ∀ a, Follows (f a) (g a)) : Follows (x >>= f) (y >>= g) := by
  intro s log
  rw [run_bind, run_bind, ← h s log]
  rcases x.run.run (s, log) with ⟨e | a, s', log'⟩
  · rfl
  · exact hnext a s' log'

theorem Follows.tryCatch {x : Run (StateM (σ × Journal)) α} {y : Run (StateM σ) α}
    {f : Ending → Run (StateM (σ × Journal)) α} {g : Ending → Run (StateM σ) α} (h : Follows x y)
    (hhandled : ∀ e, Follows (f e) (g e)) : Follows (tryCatch x f) (tryCatch y g) := by
  intro s log
  rw [run_tryCatch, run_tryCatch, ← h s log]
  rcases x.run.run (s, log) with ⟨e | a, s', log'⟩
  · exact hhandled e s' log'
  · rfl

theorem saveFiles_follows (directory : String) (files : List Source.File) :
    Follows (saveFiles sh.journaling directory files) (saveFiles sh directory files) := by
  induction files with
  | nil => exact Follows.besideRun (pure ())
  | cons f rest ih =>
    rw [saveFiles_cons, saveFiles_cons]
    refine Follows.bind (fun s log => ?_) fun _ => ih
    rw [run_saveFile, run_saveFile, making_journaling, writing_journaling]
    rcases making sh directory f s with ⟨fault | _, s'⟩ <;> rfl

theorem save_follows (directory : Value) (p : Source.Project) :
    Follows (save sh.journaling directory p) (save sh directory p) := by
  unfold save
  refine Follows.bind (Follows.besideRun (say sh _)) fun _ => ?_
  rw [orFault_pure_journaling]
  refine Follows.bind (Follows.besideRun _) fun directory => ?_
  refine Follows.bind (saveFiles_follows sh directory p.files) fun _ => ?_
  refine Follows.bind (Follows.besideRun (say sh _)) fun _ => ?_
  refine Follows.bind (Follows.besideRun (liftM sh.workingDirectory)) fun _ => ?_
  exact Follows.besideRun (say sh _)

theorem reporting_follows {x : Run (StateM (σ × Journal)) Unit} {y : Run (StateM σ) Unit}
    (h : Follows x y) : Follows (reporting sh.journaling x) (reporting sh y) := by
  refine Follows.tryCatch h fun e => ?_
  cases e with
  | exit code => exact Follows.besideRun (throw (.exit code))
  | fault f =>
    dsimp only
    cases report? f with
    | none => exact Follows.besideRun (throw (.fault f))
    | some line =>
      refine Follows.bind (Follows.besideRun (say sh line)) fun _ => ?_
      exact Follows.besideRun (throw (.exit 1))

theorem writeText_follows (path : String) (text : Except Fault String) :
    Follows (orFault (sh.journaling.writeText path text)) (orFault (sh.writeText path text)) := by
  intro s log
  rw [run_orFault, run_orFault]
  cases text with
  | ok text => rw [sh.writeText_journaling]
  | error f =>
    rw [Shell.writeText_error, Shell.writeText_error]
    rfl

/-- **A journal changes nothing that a run does.** -/
theorem program_follows (tries : Nat) (words : List String) :
    Follows (ExceptT.mk (program sh.journaling load.journaling tries words))
      (ExceptT.mk (program sh load tries words)) := by
  intro s log
  unfold program
  cases read words with
  | misuse => rfl
  | help => rfl
  | run o =>
    dsimp only
    split
    · unfold initConfig Config.save
      refine Follows.bind (writeText_follows sh configFile _) (fun _ => ?_) s log
      exact Follows.besideRun (say sh _)
    · rw [generateClient_eq, generateClient_eq, configure_journaling]
      refine Follows.bind (Follows.besideRun _) (fun c => ?_) s log
      rw [generate_journaling]
      exact reporting_follows sh (Follows.bind (Follows.besideRun _) (save_follows sh _))

end CommandLine

/-! ## 7. Files of a project -/

namespace Package

variable {r : Registry} {s : Service} {settings : Settings} {o : Origin}

/-- **No two files of a package share a name.** -/
theorem nodup_fileNames {p : Source.Project} (h : (ofService s settings o).outcome = .ok p) :
    (p.files.map (·.name)).Nodup := by
  obtain ⟨r, _, h⟩ := Traced.outcome_bind_eq_ok.mp h
  obtain ⟨config, models, errors, interfaces, client, routes, hp⟩ := assembledFrom_of_generate h
  have hnames : p.files.map (·.name) = "common.py" :: (config.map (·.name) ++
      ["models.py", "errors.py", "interfaces.py", "client.py", "routes", "__init__.py"]) := by
    rw [hp.files]
    simp [name_modelsFile hp.modelsMade, (names_of_errorsFile hp.errorsMade).1,
      (names_of_interfacesFile hp.interfacesMade).1, (names_of_clientFile hp.clientMade).1,
      name_routesFile hp.routesMade, supportFile, entryFile]
  have hconfig : config.map (·.name) = [] ∨ config.map (·.name) = ["apidoc.toml"] := by
    have hmade := hp.configMade
    unfold configFiles at hmade
    split at hmade
    · cases hmade
      exact Or.inl rfl
    · obtain ⟨text, _, hmade⟩ := bind_eq_ok.mp hmade
      cases hmade
      exact Or.inr rfl
  rw [hnames]
  rcases hconfig with hconfig | hconfig
  · rw [hconfig]
    decide
  · rw [hconfig]
    decide

end Package

theorem Path.below_injective (directory : String) : Function.Injective (Path.below directory) := by
  intro a b h
  unfold Path.below at h
  split at h
  · exact String.append_right_inj directory |>.mp h
  · exact String.append_right_inj (directory ++ "/") |>.mp h

/-! ## 8. All or nothing -/

namespace CommandLine

variable (sh : Shell (StateM σ)) (load : Loader (StateM σ))

/-- A project that is generated is one of a description. -/
theorem ofDocument_of_generate {c : Config} {p : Source.Project} {s s' : σ}
    (h : (generate sh load c).run.run s = (.ok p, s')) : ∃ document settings origin,
      (Package.ofDocument document settings origin).outcome = .ok p := by
  unfold generate at h
  obtain ⟨_, _, _, h⟩ := run_bind_eq_ok h
  obtain ⟨_, _, _, h⟩ := run_bind_eq_ok h
  obtain ⟨_, _, _, h⟩ := run_bind_eq_ok h
  obtain ⟨document, _, _, h⟩ := run_bind_eq_ok h
  obtain ⟨_, _, _, h⟩ := run_bind_eq_ok h
  obtain ⟨settings, s₁, _, h⟩ := run_bind_eq_ok h
  rw [run_orFault] at h
  refine ⟨document, settings, ⟨c.url, c.dirname⟩, ?_⟩
  have hp := congrArg Prod.fst h
  exact mapError_eq_ok.mp hp

/-- **No two files that are planned share a path.** -/
theorem nodup_paths_of_plan {tries : Nat} {words : List String} {s s' : σ} {c : Config}
    {p : Source.Project} (h : (plan sh load tries words).run.run s = (.ok (c, p), s')) (directory : String) :
    (p.files.map fun f => (noteOf directory f).1).Nodup := by
  obtain ⟨o, s₁, _, _, hp⟩ := exists_of_plan sh load h
  obtain ⟨document, settings, origin, hmade⟩ := ofDocument_of_generate sh load hp
  obtain ⟨service, _, hservice⟩ := Traced.outcome_bind_eq_ok.mp hmade
  have hnames := (Package.nodup_fileNames hservice).map (Path.below_injective directory)
  rwa [List.map_map] at hnames

/-- **Files are written all or nothing**, whatever loads the descriptions. A run that is not asked to
    write a configuration notes nothing where no project is planned. Where one is, no two of its files
    share a path, and the run notes their paths below the directory that the configuration asks for, in
    order, all of them and with their texts if the shell takes them. A directory that is no text ends
    the run, and nothing is noted either. -/
theorem program_saves (tries : Nat) (words : List String) (s : σ)
    (hwords : ∀ o, read words = .run o → o.initConfig = false) :
    (∀ e s', (plan sh load tries words).run.run s = (.error e, s') →
      ∃ e' s'', (program sh.journaling load.journaling tries words).run (s, []) = (.error e', (s'', []))) ∧
    ∀ c p s', (plan sh load tries words).run.run s = (.ok (c, p), s') →
      (∀ directory, directoryOf c = .text directory →
        (p.files.map fun f => (noteOf directory f).1).Nodup ∧
        ∃ result s'' new,
          (program sh.journaling load.journaling tries words).run (s, []) = (result, (s'', new)) ∧
          Notes sh directory p.files (told sh p s') result new) ∧
      ((∀ directory, directoryOf c ≠ .text directory) →
        ∃ s'', (program sh.journaling load.journaling tries words).run (s, []) =
          (.error (.fault .wrongKind), (s'', []))) := by
  refine ⟨fun e s' h => program_journaling_of_error sh load hwords h, fun c p s' h => ⟨?_, fun hkind => ?_⟩⟩
  · intro directory hdirectory
    obtain ⟨result, s'', new, hsave, hnotes⟩ := save_journaling sh directory p s' []
    rw [← hdirectory] at hsave
    obtain ⟨s₃, hmain⟩ := program_journaling_of_ok sh load hwords h hsave
    have hok : result.mapError reported = .ok () ↔ result = .ok () := mapError_eq_ok
    exact ⟨nodup_paths_of_plan sh load h directory, _, s₃, new, hmain, hnotes.initial,
      hok.trans hnotes.settled, fun hresult => hnotes.whole (hok.mp hresult)⟩
  · obtain ⟨s'', hsave⟩ := save_journaling_of_ne sh hkind p s' []
    exact program_journaling_of_ok sh load hwords h hsave

/-- Tells whether a run plans files below a directory. -/
def plansBelow (directory : Value) : Except Ending (Config × Source.Project) × σ → Bool
  | (.ok (c, p), _) => decide (directoryOf c = directory) && !p.files.isEmpty
  | (.error _, _) => false

theorem of_plansBelow {directory : Value} {r : Except Ending (Config × Source.Project) × σ}
    (h : plansBelow directory r = true) :
    ∃ c p s', r = (.ok (c, p), s') ∧ directoryOf c = directory ∧ p.files ≠ [] := by
  rcases r with ⟨_ | ⟨c, p⟩, s'⟩
  · cases h
  · obtain ⟨hdirectory, hfiles⟩ := Bool.and_eq_true_iff.mp h
    exact ⟨c, p, s', rfl, of_decide_eq_true hdirectory, by simpa using hfiles⟩

/-- A session with a description, and with a configuration that names it and has more lines. -/
def configured (lines : String) : Session :=
  { files := { files := [(["x.json"], "\x7b\"name\": \"api\"\x7d"),
      (["apidoc.toml"], "url = \"x.json\"\n" ++ lines)] } }

theorem not_initConfig_of_read_nil : ∀ o, read [] = .run o → o.initConfig = false := fun o h => by
  cases h
  rfl

/-- The program that loads by its shell, next to a journal. -/
theorem main_journaling (tries : Nat) (words : List String) :
    main sh.journaling tries words =
      program sh.journaling (Loading.document sh).journaling tries words := by
  rw [main, Loading.document_journaling]

/-- What a session plans that loads by its own shell. -/
def planIn (s : Session) : Except Ending (Config × Source.Project) × Session :=
  (plan Session.shell (Loading.document Session.shell) 0 []).run.run s

/-- A description in a file becomes a client in the directory for want of another one. -/
theorem program_saves_configured :
    (∀ o, read [] = .run o → o.initConfig = false) ∧
    ∃ c p s', planIn (configured "") = (.ok (c, p), s') ∧
      directoryOf c = .text "api_client" ∧ p.files ≠ [] ∧
      ∃ result s'' new,
        (main Session.shell.journaling 0 []).run (configured "", []) = (result, (s'', new)) ∧
        Notes Session.shell "api_client" p.files (told Session.shell p s') result new := by
  obtain ⟨c, p, s', hplan, hdirectory, hfiles⟩ := of_plansBelow
    (by decide +kernel : plansBelow (.text "api_client") (planIn (configured "")) = true)
  have hsaves := ((program_saves Session.shell (Loading.document Session.shell) 0 [] (configured "")
    not_initConfig_of_read_nil).2 c p s' hplan).1 "api_client" hdirectory
  rw [← main_journaling] at hsaves
  exact ⟨not_initConfig_of_read_nil, c, p, s', hplan, hdirectory, hfiles, hsaves.2⟩

/-- Files can be planned of which none is noted: nothing lies below a number. -/
theorem exists_planned_unnoted :
    (∀ o, read [] = .run o → o.initConfig = false) ∧
    ∃ c p s', planIn (configured "dirname = 5\n") = (.ok (c, p), s') ∧
      directoryOf c = .int 5 ∧ p.files ≠ [] ∧
      ((main Session.shell.journaling 0 []).run (configured "dirname = 5\n", [])).2.2 = [] := by
  obtain ⟨c, p, s', hplan, hdirectory, hfiles⟩ := of_plansBelow
    (by decide +kernel : plansBelow (.int 5) (planIn (configured "dirname = 5\n")) = true)
  have hkind : ∀ d, directoryOf c ≠ .text d := fun d h => by cases hdirectory.symm.trans h
  obtain ⟨s₁, hsave⟩ := save_journaling_of_ne Session.shell hkind p s' []
  obtain ⟨s₂, hmain⟩ := program_journaling_of_ok Session.shell (Loading.document Session.shell)
    not_initConfig_of_read_nil hplan hsave
  rw [← main_journaling] at hmain
  exact ⟨not_initConfig_of_read_nil, c, p, s', hplan, hdirectory, hfiles, by rw [hmain]⟩

end CommandLine

end ClientGen
