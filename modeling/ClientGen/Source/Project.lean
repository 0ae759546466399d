import ClientGen.Fault
import ClientGen.Source.Class

/-!
# Files and projects of generated code

A file holds imports and members: blocks, functions and classes, written by falling
rank. A project holds files in the order of addition. Edits are the steps by which a
project is built; each names the file that it concerns by its position.
-/
namespace ClientGen.Source

open ClientGen.Text

/-! ## 1. Files -/

/-- A file. -/
structure File where
  name : String
  imports : List String := []
  functions : Table Function := []
  classes : Table Class := []
  blocks : List Block := []

namespace File

/-- Blocks, functions and classes with their ranks, in the order of insertion. -/
def ranked (f : File) : List (Int × String) :=
  f.blocks.map (fun b => (b.order, b.text)) ++
    (Table.values f.functions).map (fun g => (g.order, g.text)) ++
    (Table.values f.classes).map fun c => (c.order, c.text)

/-- Text of a file: imports, then members, two empty lines between neighbours. -/
def text (f : File) : String :=
  expandTabs (Block.joinTexts "\n\n\n" [unlines f.imports, join "\n\n\n" (byRank f.ranked)]) ++ "\n"

/-- File with an import added. -/
def addImport (f : File) (s : String) : File := { f with imports := f.imports ++ [s] }

/-- File with a function added. -/
def addFunction (f : File) (g : Function) : File :=
  { f with functions := Table.put f.functions g.name g }

/-- File with a class added. -/
def addClass (f : File) (c : Class) : File := { f with classes := Table.put f.classes c.name c }

/-- Classes added one after another are put into the table of classes. -/
theorem foldl_addClass (f : File) (cs : List Class) :
    cs.foldl addClass f =
      { f with
        classes := (cs.map fun c => (c.name, c)).foldl (fun t e => Table.put t e.1 e.2) f.classes } := by
  induction cs generalizing f with
  | nil => rfl
  | cons c cs ih =>
    rw [List.foldl_cons, ih]
    rfl

/-- A class of a file is one of those added. -/
theorem mem_foldl_addClass {f : File} {cs : List Class} (hf : f.classes = []) {e : String × Class}
    (h : e ∈ (cs.foldl addClass f).classes) : e.2 ∈ cs := by
  rw [foldl_addClass, hf] at h
  rcases Table.mem_foldl_put h with h | h
  · exact absurd h List.not_mem_nil
  · obtain ⟨c, hc, rfl⟩ := List.mem_map.mp h
    exact hc

/-- Classes with names of their own are all there, in the order of addition. -/
theorem foldl_addClass_of_nodup {f : File} {cs : List Class} (hf : f.classes = [])
    (h : (cs.map (·.name)).Nodup) :
    cs.foldl addClass f = { f with classes := cs.map fun c => (c.name, c) } := by
  have hnames : (Table.names (cs.map fun c => (c.name, c))).Nodup := by
    rw [Table.names, List.map_map]
    exact h
  rw [foldl_addClass, hf, ← Table.ofEntries, Table.ofEntries_of_nodup hnames]

theorem names_foldl_addClass {f : File} {cs : List Class} (hf : f.classes = [])
    (h : (cs.map (·.name)).Nodup) : Table.names (cs.foldl addClass f).classes = cs.map (·.name) := by
  rw [foldl_addClass_of_nodup hf h, Table.names, List.map_map]
  rfl

/-- File with a block added. -/
def addBlock (f : File) (b : Block) : File := { f with blocks := f.blocks ++ [b] }

end File

/-! ## 2. Projects -/

/-- A project. -/
structure Project where
  name : String
  files : List File := []

namespace Project

/-- Project with a file added at the end. -/
def addFile (p : Project) (f : File) : Project := { p with files := p.files ++ [f] }

/-- First file of a name. -/
def getFile? (p : Project) (name : String) : Option File := p.files.find? (·.name = name)

/-- Index of a position; a negative position counts from the end. -/
def index? (p : Project) (position : Int) : Option Nat :=
  let i := if position < 0 then position + p.files.length else position
  if 0 ≤ i && i < p.files.length then some i.toNat else none

/-- File at a position. -/
def fileAt? (p : Project) (position : Int) : Option File := do p.files[← p.index? position]?

end Project

/-! ## 3. Edits -/

/-- What an edit does inside a file, or inside one of its classes. -/
inductive Change where
  | addImport (text : String)
  | addClass (c : Class)
  | addFunction (f : Function)
  | addBlock (b : Block)
  | setCode (function : String) (code : String)
  | setOrder (function : Option String) (order : Int)
  /-- A change that lacks something it needs. -/
  | incomplete
  | unknown

/-- A step of building: a new file, or a change of the file at a position, in a class of
it where one is named. -/
inductive Edit where
  | addFile (f : File)
  | change (position : Int) (inClass : Option String) (c : Change)

/-- Function of a name changed in place. -/
def changeFunction (t : Table Function) (name : String) (g : Function → Function) :
    Except Fault (Table Function) :=
  match Table.get? t name with
  | some f => .ok (Table.put t name (g f))
  | none => .error .nameMissing

/-- Class after a change. -/
def Class.apply (c : Class) : Change → Except Fault Class
  | .incomplete => .error .nameMissing
  | .addFunction f => .ok (c.addFunction f)
  | .addBlock b => .ok (c.addBlock b)
  | .setCode name code => do
    let functions ← changeFunction c.functions name ({ · with code := some (Block.ofCode code) })
    return { c with functions }
  | .setOrder none order => .ok { c with order }
  | .setOrder (some name) order => do
    let functions ← changeFunction c.functions name ({ · with order })
    return { c with functions }
  | _ => .error .unknownStep

/-- File after a change; only members have a rank. -/
def File.apply (f : File) : Change → Except Fault File
  | .incomplete => .error .nameMissing
  | .setOrder none _ => .error .fileWithoutRank
  | .addImport s => .ok (f.addImport s)
  | .addClass c => .ok (f.addClass c)
  | .addFunction g => .ok (f.addFunction g)
  | .addBlock b => .ok (f.addBlock b)
  | .setCode name code => do
    let functions ← changeFunction f.functions name ({ · with code := some (Block.ofCode code) })
    return { f with functions }
  | .setOrder (some name) order => do
    let functions ← changeFunction f.functions name ({ · with order })
    return { f with functions }
  | _ => .error .unknownStep

/-- File after a change of it or of one of its classes. -/
def File.applyIn (f : File) (inClass : Option String) (change : Change) : Except Fault File :=
  match inClass with
  | none => f.apply change
  | some name =>
    match Table.get? f.classes name with
    | none => .error .nameMissing
    | some c =>
      match change with
      | .addImport _ | .addClass _ => f.apply change
      | _ => do return { f with classes := Table.put f.classes name (← c.apply change) }

/-- Project after an edit. -/
def Project.apply (p : Project) : Edit → Except Fault Project
  | .addFile f => .ok (p.addFile f)
  | .change position inClass change =>
    match p.index? position with
    | none => .error .outOfRange
    | some i =>
      match p.files[i]? with
      | none => .error .outOfRange
      | some f => do return { p with files := p.files.set i (← f.applyIn inClass change) }

end ClientGen.Source
