import ClientGen.CommandLine

/-!
# Shells with a journal

What a run writes is seen in a journal: a shell beside which every write is noted, path and text,
before it is tried. Most of what the program does leaves the journal alone, however the shell under it
answers. This file fixes

* `Shell.journaling`: a shell with a journal, over any shell whose actions change a state;
* `beside`: actions next to a journal, and that a sequence of them is one (`bind_beside`);
* `makeDirectories_journaling`, `load_journaling`: what leaves the journal alone;
* `Loader.journaling`: any loader next to a journal, and `document_journaling`: the one that loads by
  a shell;
* `writeText_journaling`: what is noted of a text.
-/

namespace ClientGen

open ClientGen.Text

variable {σ α β : Type}

/-! ## 1. Actions next to a journal -/

/-- Writes that were asked for, path and text, in order. -/
abbrev Journal := List (String × String)

/-- Action next to a journal that it leaves alone. -/
def beside (x : StateM σ α) : StateM (σ × Journal) α := fun (s, log) =>
  ((x.run s).1, ((x.run s).2, log))

theorem beside_bind (x : StateM σ α) (f : α → StateM σ β) :
    beside (x >>= f) = beside x >>= fun a => beside (f a) := rfl

/-- An action that goes on after one next to a journal, and stays next to it. -/
theorem bind_beside {x : StateM σ α} {f : α → StateM σ β} {g : α → StateM (σ × Journal) β}
    (h : ∀ a, g a = beside (f a)) : beside x >>= g = beside (x >>= f) := by
  rw [beside_bind, funext h]

namespace Shell

/-- **A shell with a journal**: every write is noted and handed on, all else is handed on. -/
def journaling (sh : Shell (StateM σ)) : Shell (StateM (σ × Journal)) where
  look path := beside (sh.look path)
  write path text := fun (s, log) =>
    (((sh.write path text).run s).1, (((sh.write path text).run s).2, log ++ [(path, text)]))
  makeDirectory path := beside (sh.makeDirectory path)
  fetch url := beside (sh.fetch url)
  put text := beside (sh.put text)
  ask := beside sh.ask
  workingDirectory := beside sh.workingDirectory

variable (sh : Shell (StateM σ))

/-! ## 2. What shells do -/

theorem say_journaling (line : String) : sh.journaling.say line = beside (sh.say line) := rfl

theorem isDirectory_journaling (path : String) :
    sh.journaling.isDirectory path = beside (sh.isDirectory path) := rfl

theorem isThere_journaling (path : String) :
    sh.journaling.isThere path = beside (sh.isThere path) := rfl

theorem read_journaling (path : String) : sh.journaling.read path = beside (sh.read path) := by
  refine bind_beside fun entry => ?_
  cases entry <;> rfl

theorem ensureDirectory_journaling (path : String) :
    sh.journaling.ensureDirectory path = beside (sh.ensureDirectory path) := by
  refine bind_beside fun made => ?_
  cases made <;> rfl

/-- Makes a directory that lies in another one, `parts` being that one and a name; `within` makes
    the other one. -/
def makeInside {m : Type → Type} [Monad m] (sh : Shell m) (within : String → m (Except FileFault Unit))
    (path : String) (parts : String × String) : m (Except FileFault Unit) := do
  if parts.1 = "" || parts.2 = "" || (← sh.isThere parts.1) then sh.ensureDirectory path
  else
    match ← within parts.1 with
    | .ok _ => if parts.2 = "." then return .ok () else sh.ensureDirectory path
    | .error f =>
      if f.refusal = .alreadyThere then
        if parts.2 = "." then return .ok () else sh.ensureDirectory path
      else return .error f

theorem makeDirectoriesWithin_succ {m : Type → Type} [Monad m] (sh : Shell m) (steps : Nat)
    (path : String) : sh.makeDirectoriesWithin (steps + 1) path =
      sh.makeInside (sh.makeDirectoriesWithin steps) path
        (match Path.split path with
          | (directory, "") => Path.split directory
          | parts => parts) := rfl

theorem makeInside_journaling {within : String → StateM σ (Except FileFault Unit)}
    {within' : String → StateM (σ × Journal) (Except FileFault Unit)}
    (h : ∀ path, within' path = beside (within path)) (path : String) (parts : String × String) :
    sh.journaling.makeInside within' path parts = beside (sh.makeInside within path parts) := by
  have hlast : (if parts.2 = "." then pure (.ok ()) else sh.journaling.ensureDirectory path) =
      beside (if parts.2 = "." then pure (.ok ()) else sh.ensureDirectory path) := by
    rw [sh.ensureDirectory_journaling]
    split <;> rfl
  unfold makeInside
  rw [sh.isThere_journaling, h]
  refine bind_beside fun isThere => ?_
  split
  · exact sh.ensureDirectory_journaling path
  · refine bind_beside fun made => ?_
    cases made with
    | ok _ => exact hlast
    | error f =>
      dsimp only
      split
      · exact hlast
      · rfl

theorem makeDirectoriesWithin_journaling (steps : Nat) (path : String) :
    sh.journaling.makeDirectoriesWithin steps path = beside (sh.makeDirectoriesWithin steps path) := by
  induction steps generalizing path with
  | zero => exact sh.ensureDirectory_journaling path
  | succ steps ih =>
    rw [makeDirectoriesWithin_succ, makeDirectoriesWithin_succ]
    exact sh.makeInside_journaling ih path _

/-- Directories are made without a note. -/
theorem makeDirectories_journaling (path : String) :
    sh.journaling.makeDirectories path = beside (sh.makeDirectories path) :=
  sh.makeDirectoriesWithin_journaling path.length path

end Shell

/-! ## 3. What is loaded -/

variable (sh : Shell (StateM σ))

theorem Config.locate_journaling (path : String) (searchDirectory : Option String) :
    Config.locate sh.journaling path searchDirectory =
      beside (Config.locate sh path searchDirectory) := by
  cases searchDirectory with
  | none => rfl
  | some directory =>
    unfold locate
    dsimp only
    rw [sh.isDirectory_journaling]
    refine bind_beside fun isDirectory => ?_
    rw [sh.isThere_journaling]
    refine bind_beside fun isThere => ?_
    split <;> rfl

theorem Config.load_journaling (path : String) (searchDirectory : Option String) :
    Config.load sh.journaling path searchDirectory = beside (Config.load sh path searchDirectory) := by
  unfold load
  rw [Config.locate_journaling]
  refine bind_beside fun path => ?_
  rw [sh.isThere_journaling]
  refine bind_beside fun isThere => ?_
  cases isThere with
  | false => rfl
  | true =>
    rw [sh.read_journaling]
    refine bind_beside fun text => ?_
    cases text <;> rfl

theorem Page.bodyVia_journaling (next : Address → StateM σ (Except Fault (List Nat)))
    {next' : Address → StateM (σ × Journal) (Except Fault (List Nat))}
    (h : ∀ target, next' target = beside (next target)) (here : Address) :
    Page.bodyVia sh.journaling.fetch next' here = beside (Page.bodyVia sh.fetch next here) := by
  refine bind_beside fun page => ?_
  cases page with
  | none => rfl
  | some p =>
    dsimp only
    cases p.outcome here with
    | error f => rfl
    | ok found =>
      cases found with
      | inl target => exact h target
      | inr body => rfl

theorem Page.follow_journaling (left : Nat) (here : Address) :
    Page.follow sh.journaling.fetch left here = beside (Page.follow sh.fetch left here) := by
  induction left generalizing here with
  | zero =>
    unfold follow
    exact Page.bodyVia_journaling sh (fun _ => pure (.error .endlessRedirects)) (fun _ => rfl) here
  | succ left ih =>
    unfold follow
    exact Page.bodyVia_journaling sh (Page.follow sh.fetch left) ih here

theorem Page.bodyAt_journaling (source : String) :
    Page.bodyAt sh.journaling.fetch source = beside (Page.bodyAt sh.fetch source) := by
  unfold bodyAt
  cases addressOf source with
  | error f => rfl
  | ok here => exact Page.follow_journaling sh maxRedirects here

/-- **A loader next to a journal**: loading notes nothing. -/
def Loader.journaling (load : Loader (StateM σ)) : Loader (StateM (σ × Journal)) := fun source =>
  beside (load source)

namespace Loading

theorem valueOf_journaling (source : String) :
    valueOf sh.journaling source = beside (valueOf sh source) := by
  unfold valueOf
  split
  · rw [Page.bodyAt_journaling]
    rfl
  · rw [sh.isThere_journaling]
    refine bind_beside fun isThere => ?_
    cases isThere with
    | false => rfl
    | true =>
      rw [if_pos rfl, if_pos rfl, sh.read_journaling]
      rfl

theorem valueOutside_journaling (address : String) :
    valueOutside sh.journaling address = beside (valueOutside sh address) := by
  unfold valueOutside
  dsimp only
  cases Json.outside? address with
  | none => rfl
  | some found =>
    cases found with
    | written text => rfl
    | inFile path =>
      refine bind_beside (x := sh.look path) fun entry => ?_
      cases entry <;> rfl

theorem gatherOutside_journaling (steps : Nat) (known : Table Value) (addresses : List String) :
    gatherOutside sh.journaling steps known addresses =
      beside (gatherOutside sh steps known addresses) := by
  induction steps generalizing known addresses with
  | zero => rfl
  | succ steps ih =>
    cases addresses with
    | nil => rfl
    | cons address rest =>
      unfold gatherOutside
      split
      · exact ih known rest
      · rw [valueOutside_journaling]
        refine bind_beside fun v => ?_
        cases v with
        | none => exact ih known rest
        | some v => exact ih _ _

/-- A description is loaded without a note. -/
theorem document_journaling :
    document sh.journaling = Loader.journaling (document sh) := by
  funext source
  unfold document Loader.journaling
  rw [valueOf_journaling]
  refine bind_beside fun v => ?_
  cases v with
  | error f => rfl
  | ok v =>
    dsimp only
    rw [gatherOutside_journaling]
    rfl

end Loading

/-! ## 4. What is noted -/

namespace Shell

/-- Text that a file is left with: one with foreign characters leaves it empty. -/
def leftText (text : String) : String :=
  if (Charset.whole.foreignRow? text).isSome then "" else text

/-- Outcome of a write of a text, by whether the file was written. -/
def outcomeOfWrite (text : String) : Except FileFault Unit → Except Fault Unit
  | .error f => .error (.file f)
  | .ok _ => (Charset.whole.foreignRow? text).elim (.ok ()) fun row => .error (.foreignText row)

theorem writeText_eq {m : Type → Type} [Monad m] (sh : Shell m) (path text : String) :
    sh.writeText path (.ok text) =
      sh.write path (leftText text) >>= fun made => pure (outcomeOfWrite text made) := by
  unfold writeText leftText outcomeOfWrite
  simp only [bind, Except.bind]
  cases Charset.whole.foreignRow? text with
  | none =>
    refine congrArg (Bind.bind (sh.write path text)) (funext fun made => ?_)
    cases made <;> rfl
  | some row =>
    refine congrArg (Bind.bind (sh.write path "")) (funext fun made => ?_)
    cases made <;> rfl

/-- Where there is no text, the file is left empty. -/
theorem writeText_error {m : Type → Type} [Monad m] (sh : Shell m) (path : String) (f : Fault) :
    sh.writeText path (.error f) =
      sh.write path "" >>= fun made => pure ((made.mapError Fault.file).bind fun _ => .error f) := by
  refine congrArg (Bind.bind (sh.write path "")) (funext fun made => ?_)
  cases made <;> rfl

/-- A file that is written has its text. -/
theorem leftText_eq_of_writeText {path text : String} {s : σ}
    (h : ((sh.writeText path (.ok text)).run s).1 = .ok ()) : leftText text = text := by
  rw [writeText_eq] at h
  have houtcome : outcomeOfWrite text ((sh.write path (leftText text)).run s).1 = .ok () := h
  unfold leftText
  cases hmade : ((sh.write path (leftText text)).run s).1 with
  | error f =>
    rw [hmade] at houtcome
    cases houtcome
  | ok _ =>
    cases hrow : Charset.whole.foreignRow? text with
    | none => rfl
    | some row =>
      rw [hmade, outcomeOfWrite, hrow] at houtcome
      cases houtcome

/-- **A text is noted once**, as its file is left, and all else is as without a journal. -/
theorem writeText_journaling (path text : String) (s : σ) (log : Journal) :
    (sh.journaling.writeText path (.ok text)).run (s, log) =
      (((sh.writeText path (.ok text)).run s).1, (((sh.writeText path (.ok text)).run s).2,
        log ++ [(path, leftText text)])) := by
  rw [writeText_eq, writeText_eq]
  rfl

end Shell

end ClientGen
