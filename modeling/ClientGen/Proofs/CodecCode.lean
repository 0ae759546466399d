import ClientGen.Proofs.AnswerCode
import ClientGen.Proofs.Latest
import ClientGen.UnionCodec

/-!
# The code of a codec, as it runs

The reader and the writer of a union are blocks of code: tests that guard the lines below them, attempts
with a handler behind them, and a last statement. This file gives such lines a meaning of their own,
which knows nothing of unions, and fixes

* `Line`, `outline`, `written`: lines of code with their levels, and those of a block that is written;
* `statement?`, `step`, `run`: what a line says, what one line does to a run, and how lines run;
* `keyTest?`, `classTest?`: what the tests of readers and writers say of an object with given keys and of
  one of a given class;
* `run_checks`, `run_branches`: checks run as the variants whose keys are there are tried, branches as
  the first class that takes the object is searched;
* `reader_runs`, `writer_runs`: what the functions of a codec do.
-/

namespace ClientGen

open ClientGen.Text ClientGen.Source

namespace CodecCode

open AnswerCode (Effect effect? behind? behind?_append behind?_eq_none effect?_return effect?_raise)

/-! ## 1. Lines and levels -/

/-- A line of code: by how many levels it is moved in, and what it says. -/
structure Line where
  level : Nat
  statement : String
  deriving DecidableEq, Repr

/-- A line of a text, read. -/
def lineOf (l : String) : Line :=
  ⟨(l.toList.takeWhile (· = ' ')).length / 4, String.ofList (l.toList.dropWhile (· = ' '))⟩

/-- Lines of a text; those of nothing but white space say nothing. -/
def outline (s : String) : List Line := ((lines s).filter fun l => !allBlank l.toList).map lineOf

/-- Lines of a block that has a code. -/
def written (code : String) : List Line := outline (expandTabs code)

/-- Line moved in by a level. -/
def Line.deeper (l : Line) : Line := { l with level := l.level + 1 }

theorem lineOf_of_begins {s : String} (h : Begins s) : lineOf s = ⟨0, s⟩ := by
  obtain ⟨c, cs, hs, hc⟩ := h
  have hspace : c ≠ ' ' := by
    rintro rfl
    cases hc
  have htake : s.toList.takeWhile (· = ' ') = [] := by
    rw [hs, List.takeWhile_cons_of_neg (by simp [hspace])]
  have hdrop : s.toList.dropWhile (· = ' ') = s.toList := by
    rw [hs, List.dropWhile_cons_of_neg (by simp [hspace])]
  rw [lineOf, htake, hdrop, String.ofList_toList]
  rfl

theorem lineOf_margin_append (l : String) : lineOf (margin 1 ++ l) = (lineOf l).deeper := by
  have hspaces : ∀ c ∈ List.replicate 4 ' ', decide (c = ' ') = true := fun c hc =>
    decide_eq_true (List.eq_of_mem_replicate hc)
  have hlist : (margin 1 ++ l).toList = List.replicate 4 ' ' ++ l.toList := by
    rw [String.toList_append, toList_margin]
  rw [lineOf, hlist, List.takeWhile_append_of_pos hspaces, List.dropWhile_append_of_pos hspaces,
    List.length_append, List.length_replicate, Line.deeper, lineOf, Nat.add_comm,
    Nat.add_div_right _ (by decide)]

theorem outline_of_begins {s : String} (hline : InLine s) (h : Begins s) : outline s = [⟨0, s⟩] := by
  rw [outline, lines_of_inLine hline, List.filter_cons_of_pos (by rw [h.allBlank_eq_false]; rfl),
    List.filter_nil, List.map_singleton, lineOf_of_begins h]

theorem outline_break (s t : String) : outline (s ++ "\n" ++ t) = outline s ++ outline t := by
  rw [outline, lines_break, List.filter_append, List.map_append]
  rfl

theorem outline_unlines (ss : List String) : outline (unlines ss) = ss.flatMap outline := by
  cases ss with
  | nil => rfl
  | cons s ss =>
    rw [outline, lines_unlines_flatMap (List.cons_ne_nil s ss), List.filter_flatMap, List.map_flatMap]
    rfl

/-- A text that is moved in has its lines a level deeper. -/
theorem outline_indent (s : String) : outline (indent s) = (outline s).map Line.deeper := by
  rw [outline, indent, lines_indentBy, outline]
  induction lines s with
  | nil => rfl
  | cons l ls ih =>
    rw [List.map_cons]
    cases hl : allBlank l.toList with
    | true =>
      have hempty : indentLine 1 l = "" := by rw [indentLine, if_pos hl]
      rw [hempty, List.filter_cons_of_neg (by decide), List.filter_cons_of_neg (by simp [hl]), ih]
    | false =>
      have hline : indentLine 1 l = margin 1 ++ l := by
        rw [indentLine, hl, if_neg Bool.false_ne_true]
      rw [hline, List.filter_cons_of_pos (by rw [allBlank_margin_append, hl]; rfl),
        List.filter_cons_of_pos (by rw [hl]; rfl), List.map_cons, List.map_cons, List.map_cons,
        lineOf_margin_append, ih]

theorem written_of_flat {s : String} (hs : IsFlat s) (h : Begins s) : written s = [⟨0, s⟩] := by
  rw [written, expandTabs_of_not_mem hs.2, outline_of_begins hs.1 h]

/-- **A header stands above its body**, which is a level deeper. -/
theorem written_nested {header : String} (hs : IsFlat header) (h : Begins header) (body : String) :
    written (Block.nested header body) = ⟨0, header⟩ :: (written body).map Line.deeper := by
  have hbreak : expandTabs "\n" = "\n" := expandTabs_of_not_mem (by decide)
  have hbody : expandTabs (indent body) = indent (expandTabs body) := expandTabs_indentBy 1 body
  have htext : expandTabs (Block.nested header body) =
      header ++ "\n" ++ indent (expandTabs body) := by
    rw [Block.nested, expandTabs_append, expandTabs_append, hbreak, hbody, expandTabs_of_not_mem hs.2]
  rw [written, htext, outline_break, outline_indent, outline_of_begins hs.1 h]
  rfl

/-- Empty parts have no lines. -/
theorem flatMap_written_filter (parts : List String) :
    (parts.filter (· ≠ "")).flatMap written = parts.flatMap written := by
  induction parts with
  | nil => rfl
  | cons p ps ih =>
    by_cases hp : p = ""
    · rw [List.filter_cons_of_neg (by simp [hp]), ih, hp]
      rfl
    · rw [List.filter_cons_of_pos (by simp [hp]), List.flatMap_cons, List.flatMap_cons, ih]

/-- **Parts stand one below the other.** -/
theorem written_stack (parts : List String) : written (Block.stack parts) = parts.flatMap written := by
  have hstack : Block.stack parts = unlines (parts.filter (· ≠ "")) := rfl
  rw [hstack, written, expandTabs_unlines, outline_unlines, List.flatMap_map]
  exact flatMap_written_filter parts

/-! ## 2. Meaning of lines -/

/-- What a text has before the characters given at its end. -/
def ahead? (finish s : String) : Option String :=
  if endsWith s finish then some (dropEnd finish.toList.length s) else none

/-- What a text has between the characters given at its ends. -/
def between? (start finish s : String) : Option String := (behind? start s).bind (ahead? finish)

/-- What a line says. -/
inductive Statement where
  /-- The lines below are run where a test holds. -/
  | tests (test : String)
  /-- The lines below are run where one of those before, below an attempt, failed. -/
  | handles
  /-- Nothing that a run depends on. -/
  | passes
  /-- The run ends. -/
  | ends (effect : Effect)
  deriving DecidableEq, Repr

/-- The beginning of a handler. -/
def handler : String := "except ValidationError as e:"

/-- Lines that begin an attempt and those that keep a record of failures. -/
def quiet : List String := ["try:", "errors = []", "errors.append(e)"]

/-- What a line says; other lines have no meaning. -/
def statement? (s : String) : Option Statement :=
  if s = handler then some .handles
  else if s ∈ quiet then some .passes
  else ((between? "if " ":" s).map .tests).or ((effect? s).map .ends)

/-- Where a run is. -/
inductive Mode where
  | running
  /-- Lines below a level are guarded by what did not hold. -/
  | skipping (level : Nat)
  /-- A statement of a level failed, and no handler was met since. -/
  | failing (level : Nat)
  deriving DecidableEq, Repr

section Run

variable (holds? : String → Option Bool) (fits : String → Bool)

/-- What a line does that is run: the run goes on or ends. -/
def perform (l : Line) : Option (Mode ⊕ Effect) :=
  match statement? l.statement with
  | some (.tests test) =>
    (holds? test).map fun holds => .inl (if holds then .running else .skipping l.level)
  | some .handles => some (.inl (.skipping l.level))
  | some .passes => some (.inl .running)
  | some (.ends (.returns e)) => some (if fits e then .inr (.returns e) else .inl (.failing l.level))
  | some (.ends (.raises e)) => some (.inr (.raises e))
  | none => none

/-- **What one line does to a run.** Lines that are guarded by what did not hold are passed over. A
    failure goes outwards to the first handler of a lower level that stands right behind the lines of
    its attempt. -/
def step (m : Mode) (l : Line) : Option (Mode ⊕ Effect) :=
  match m with
  | .running => perform holds? fits l
  | .skipping outer => if outer < l.level then some (.inl m) else perform holds? fits l
  | .failing inner =>
    if inner ≤ l.level then some (.inl m)
    else some (.inl (if statement? l.statement = some .handles then .running else .failing l.level))

/-- **Run of lines**, where `holds?` says what tests say and `fits` whether the value of an expression can
    be made. -/
def run (m : Mode) : List Line → Option Effect
  | [] => none
  | l :: ls =>
    match step holds? fits m l with
    | some (.inl m') => run m' ls
    | some (.inr effect) => some effect
    | none => none

end Run

/-- What a test of a reader says of an object with given keys: it is no value that passes as it is, it is
    a dictionary, and it has a key or not. -/
def keyTest? (keys : List String) (test : String) : Option Bool :=
  if (between? "isinstance(data, " " and not isinstance(data, dict)" test).isSome then some false
  else if test = "isinstance(data, dict)" then some true
  else (between? "\"" "\" in data" test).bind fun key =>
    if key.toList.all isWordChar then some (keys.contains key) else none

/-- What a test of a writer says of an object, where `isInstance` tells whether the object belongs to a
    class. -/
def classTest? (isInstance : String → Bool) (test : String) : Option Bool :=
  (between? "isinstance(obj, " ")" test).map isInstance

/-! ## 3. Lines that are written -/

theorem ahead?_append (s finish : String) : ahead? finish (s ++ finish) = some s := by
  have hlength : (s ++ finish).toList.length - finish.toList.length = s.toList.length := by
    rw [String.toList_append, List.length_append, Nat.add_sub_cancel]
  rw [ahead?, if_pos (endsWith_append s finish), dropEnd, hlength, String.toList_append,
    List.take_left, String.ofList_toList]

theorem between?_append (start s finish : String) :
    between? start finish (start ++ s ++ finish) = some s := by
  rw [between?, String.append_assoc, behind?_append, Option.bind_some, ahead?_append]

/-- A line that begins otherwise is no part of an attempt. -/
theorem statement?_of_head {s : String} {c : Char} (hs : s.toList.head? = some c) (he : c ≠ 'e')
    (ht : c ≠ 't') :
    statement? s = ((between? "if " ":" s).map .tests).or ((effect? s).map .ends) := by
  have hother : ∀ t ∈ handler :: quiet, t.toList.head? = some 'e' ∨ t.toList.head? = some 't' := by
    decide
  have hnone : s ∉ handler :: quiet := fun hm => by
    rcases hother s hm with h | h
    · exact he (Option.some.inj (hs.symm.trans h))
    · exact ht (Option.some.inj (hs.symm.trans h))
  rw [List.mem_cons, not_or] at hnone
  rw [statement?, if_neg hnone.1, if_neg hnone.2]

theorem statement?_test (test : String) :
    statement? ("if " ++ test ++ ":") = some (.tests test) := by
  rw [statement?_of_head (c := 'i') (by simp) (by decide) (by decide), between?_append]
  rfl

theorem between?_eq_none {start finish s : String} {c d : Char} (hc : start.toList.head? = some c)
    (hd : s.toList.head? = some d) (hne : d ≠ c) : between? start finish s = none := by
  rw [between?, behind?_eq_none hc hd hne]
  rfl

theorem statement?_return (e : String) :
    statement? ("return " ++ e) = some (.ends (.returns e)) := by
  rw [statement?_of_head (c := 'r') (by simp) (by decide) (by decide),
    between?_eq_none (c := 'i') (d := 'r') rfl (by simp) (by decide), effect?_return]
  rfl

theorem statement?_raise (e : String) : statement? ("raise " ++ e) = some (.ends (.raises e)) := by
  rw [statement?_of_head (c := 'r') (by simp) (by decide) (by decide),
    between?_eq_none (c := 'i') (d := 'r') rfl (by simp) (by decide), effect?_raise]
  rfl

/-- No object passes as it is. -/
theorem keyTest?_pass (keys : List String) (tested : String) :
    keyTest? keys ("isinstance(data, " ++ tested ++ " and not isinstance(data, dict)") =
      some false := by
  rw [keyTest?, between?_append]
  rfl

theorem keyTest?_key (keys : List String) {key : String} (h : key.toList.all isWordChar = true) :
    keyTest? keys ("\"" ++ key ++ "\" in data") = some (keys.contains key) := by
  have hhead : ("\"" ++ key ++ "\" in data").toList.head? = some '"' := by simp
  have hdict : "\"" ++ key ++ "\" in data" ≠ "isinstance(data, dict)" := fun he => by
    rw [he] at hhead
    exact absurd hhead (by decide)
  rw [keyTest?, between?_eq_none (c := 'i') (d := '"') rfl hhead (by decide), if_neg (by decide),
    if_neg hdict, between?_append, Option.bind_some, if_pos h]

theorem classTest?_isinstance (isInstance : String → Bool) (cls : String) :
    classTest? isInstance ("isinstance(obj, " ++ cls ++ ")") = some (isInstance cls) := by
  rw [classTest?, between?_append]
  rfl

/-! ## 4. Lines of a codec -/

open UnionCodec

variable {c : UnionCodec} {v : UnionVariant}

/-- Expression that reads a variant. -/
def readCall (c : UnionCodec) (v : UnionVariant) : String :=
  c.variantReadName v ++ "(data[\"" ++ v.discriminator ++ "\"])"

/-- Expression that writes an object as a variant. -/
def writeCall (c : UnionCodec) (v : UnionVariant) : String :=
  "\x7b\"" ++ v.discriminator ++ "\": " ++ c.variantWriteName v ++ "(obj)\x7d"

/-- Lines of the check for a variant. -/
def checkLines (c : UnionCodec) (v : UnionVariant) : List Line :=
  [⟨1, "if " ++ ("\"" ++ v.discriminator ++ "\" in data") ++ ":"⟩, ⟨2, "try:"⟩,
    ⟨3, "return " ++ readCall c v⟩, ⟨2, handler⟩, ⟨3, "errors.append(e)"⟩]

/-- Lines of the branch for a variant. -/
def branchLines (c : UnionCodec) (v : UnionVariant) : List Line :=
  [⟨0, "if " ++ ("isinstance(obj, " ++ v.runtimeClass ++ ")") ++ ":"⟩, ⟨1, "return " ++ writeCall c v⟩]

/-- **A variant that can be written on lines of its own.** -/
structure IsPlain (v : UnionVariant) : Prop where
  word : v.discriminator.toList.all isWordChar = true
  flat : IsFlat v.runtimeClass

theorem isFlat_of_all_isWordChar {s : String} (h : s.toList.all isWordChar = true) : IsFlat s := by
  refine isFlat_of_forall fun ch hch => ?_
  rcases isWordChar_iff.mp (List.all_eq_true.mp h ch hch) with hal | rfl
  · exact of_isAlphanum (P := fun ch => ch ≠ '\n' ∧ ch ≠ '\t') (by decide) hal
  · decide

theorem isFlat_stem (c : UnionCodec) : IsFlat c.stem :=
  isFlat_of_all_isWordChar (all_isWordChar_snakeCase c.name)

theorem isFlat_readCall (h : IsPlain v) : IsFlat (readCall c v) := by
  have hd := isFlat_of_all_isWordChar h.word
  have hstem := isFlat_stem c
  simp only [readCall, variantReadName, isFlat_append, hd, hstem, and_true]
  decide

theorem isFlat_writeCall (h : IsPlain v) : IsFlat (writeCall c v) := by
  have hd := isFlat_of_all_isWordChar h.word
  have hstem := isFlat_stem c
  simp only [writeCall, variantWriteName, isFlat_append, hd, hstem, and_true]
  decide

theorem begins_if (s : String) : Begins ("if " ++ s) :=
  Begins.append ⟨'i', "f ".toList, rfl, rfl⟩ s

theorem begins_return (s : String) : Begins ("return " ++ s) :=
  Begins.append ⟨'r', "eturn ".toList, rfl, rfl⟩ s

theorem written_indent {s : String} (hs : IsFlat s) (h : Begins s) : written (indent s) = [⟨1, s⟩] := by
  have hindent : expandTabs (indent s) = indent (expandTabs s) := expandTabs_indentBy 1 s
  rw [written, hindent, outline_indent, expandTabs_of_not_mem hs.2, outline_of_begins hs.1 h]
  rfl

/-- **A check is written on five lines.** -/
theorem written_checkText (h : IsPlain v) :
    (written (c.checkText v)).map Line.deeper = checkLines c v := by
  have hcall : "return " ++ c.variantReadName v ++ "(data[\"" ++ v.discriminator ++ "\"])" =
      "return " ++ readCall c v := by
    simp only [readCall, String.append_assoc]
  have htest : "if \"" ++ v.discriminator ++ "\" in data:" =
      "if " ++ ("\"" ++ v.discriminator ++ "\" in data") ++ ":" := by
    simp [← String.toList_inj]
  have hflat : IsFlat ("if " ++ ("\"" ++ v.discriminator ++ "\" in data") ++ ":") := by
    have hd := isFlat_of_all_isWordChar h.word
    simp only [isFlat_append, hd, and_true]
    decide
  have hreturn : IsFlat ("return " ++ readCall c v) := IsFlat.append (by decide) (isFlat_readCall h)
  have htry : written "try:" = [⟨0, "try:"⟩] :=
    written_of_flat (by decide) ⟨'t', "ry:".toList, rfl, rfl⟩
  have hhandler : written handler = [⟨0, handler⟩] :=
    written_of_flat (by decide) ⟨'e', "xcept ValidationError as e:".toList, rfl, rfl⟩
  have hrecord : written (indent "errors.append(e)") = [⟨1, "errors.append(e)"⟩] :=
    written_indent (by decide) ⟨'e', "rrors.append(e)".toList, rfl, rfl⟩
  rw [UnionCodec.checkText, htest, hcall,
    written_nested hflat (by rw [String.append_assoc]; exact begins_if _), written_stack]
  simp only [List.flatMap_cons, List.flatMap_nil]
  rw [htry, written_indent hreturn (begins_return _), ← handler, hhandler, hrecord]
  rfl

/-- **A branch is written on two lines.** -/
theorem written_branchText (h : IsPlain v) : written (c.branchText v) = branchLines c v := by
  have hcall : "return \x7b\"" ++ v.discriminator ++ "\": " ++ c.variantWriteName v ++ "(obj)\x7d" =
      "return " ++ writeCall c v := by
    simp [writeCall, ← String.toList_inj]
  have htest : "if isinstance(obj, " ++ v.runtimeClass ++ "):" =
      "if " ++ ("isinstance(obj, " ++ v.runtimeClass ++ ")") ++ ":" := by
    simp [← String.toList_inj]
  have hflat : IsFlat ("if " ++ ("isinstance(obj, " ++ v.runtimeClass ++ ")") ++ ":") := by
    simp only [isFlat_append, h.flat, and_true]
    decide
  have hreturn : IsFlat ("return " ++ writeCall c v) := IsFlat.append (by decide) (isFlat_writeCall h)
  rw [UnionCodec.branchText, htest, hcall,
    written_nested hflat (by rw [String.append_assoc]; exact begins_if _),
    written_of_flat hreturn (begins_return _)]
  rfl

/-- A statement that raises begins on a line of its own, whatever it raises. -/
theorem exists_written_raise (s : String) :
    ∃ e ls, written ("raise " ++ s) = ⟨0, "raise " ++ e⟩ :: ls := by
  have hraise : expandTabs "raise " = "raise " := expandTabs_of_not_mem (by decide)
  have hline : InLine "raise " := by decide
  obtain ⟨l, ls, hs⟩ := exists_lines_eq_cons (expandTabs s)
  have hbegins : Begins ("raise " ++ l) := Begins.append ⟨'r', "aise ".toList, rfl, rfl⟩ l
  refine ⟨l, (ls.filter fun l => !allBlank l.toList).map lineOf, ?_⟩
  rw [written, expandTabs_append, hraise, outline, lines_append, lines_of_inLine hline, hs,
    seam_singleton, List.filter_cons_of_pos (by rw [hbegins.allBlank_eq_false]; rfl), List.map_cons,
    lineOf_of_begins hbegins]

/-- Classes that pass are classes of variants. -/
theorem mem_passedClasses {cls : String} (h : cls ∈ c.passedClasses) :
    ∃ v ∈ c.variants, v.runtimeClass = cls := by
  have hfold : c.variants.foldl (fun cs v =>
      if cs.contains v.runtimeClass then cs else cs ++ [v.runtimeClass]) [] =
        (c.variants.map (·.runtimeClass)).eraseDups := by
    have hmap := foldl_unless_mem List.nodup_nil (c.variants.map (·.runtimeClass))
    rw [List.foldl_map, List.nil_append] at hmap
    rw [← hmap]
    simp only [List.contains_iff_mem]
  have hmem := (List.mem_filter.mp h).1
  rw [hfold, List.mem_eraseDups] at hmem
  exact List.mem_map.mp hmem

/-- Lines that let values pass test first that they are no dictionaries. -/
theorem written_passText {classes : List String} (h : ∀ cls ∈ classes, IsFlat cls) :
    written (passText classes) = [] ∨ ∃ tested, written (passText classes) =
      [⟨0, "if " ++ ("isinstance(data, " ++ tested ++ " and not isinstance(data, dict)") ++ ":"⟩,
        ⟨1, "return " ++ "data"⟩] := by
  have hlines : ∀ tested, IsFlat tested → written (Block.nested
      ("if isinstance(data, " ++ tested ++ ") and not isinstance(data, dict):") "return data") =
      [⟨0, "if " ++ ("isinstance(data, " ++ (tested ++ ")") ++ " and not isinstance(data, dict)") ++ ":"⟩,
        ⟨1, "return " ++ "data"⟩] := by
    intro tested ht
    have htest : "if isinstance(data, " ++ tested ++ ") and not isinstance(data, dict):" =
        "if " ++ ("isinstance(data, " ++ (tested ++ ")") ++ " and not isinstance(data, dict)") ++ ":" := by
      simp [← String.toList_inj]
    have hflat : IsFlat ("if " ++
        ("isinstance(data, " ++ (tested ++ ")") ++ " and not isinstance(data, dict)") ++ ":") := by
      simp only [isFlat_append, ht]
      decide
    have hreturn : written "return data" = [⟨0, "return " ++ "data"⟩] :=
      written_of_flat (by decide) (begins_return "data")
    rw [htest, written_nested hflat (by rw [String.append_assoc]; exact begins_if _), hreturn]
    rfl
  match classes with
  | [] => exact .inl rfl
  | [one] => exact .inr ⟨_, hlines one (h one (List.mem_singleton_self one))⟩
  | one :: two :: rest =>
    refine .inr ⟨_, hlines ("(" ++ join ", " (one :: two :: rest) ++ ")") ?_⟩
    exact IsFlat.append (IsFlat.append (by decide) (IsFlat.join (by decide) h)) (by decide)

/-! ## 5. Runs -/

section Runs

variable {holds? : String → Option Bool} {fits : String → Bool} {m : Mode} {l : Line} {ls : List Line}

/-- A run that meets a line of a level runs it. -/
def Mode.Meets (m : Mode) (level : Nat) : Prop :=
  m = .running ∨ ∃ outer, m = .skipping outer ∧ level ≤ outer

theorem step_of_meets (h : m.Meets l.level) : step holds? fits m l = perform holds? fits l := by
  rcases h with rfl | ⟨outer, rfl, hle⟩
  · rfl
  · exact if_neg (Nat.not_lt.mpr hle)

theorem run_cons_inl {m' : Mode} (h : step holds? fits m l = some (.inl m')) :
    run holds? fits m (l :: ls) = run holds? fits m' ls := by
  rw [run, h]

theorem run_cons_inr {effect : Effect} (h : step holds? fits m l = some (.inr effect)) :
    run holds? fits m (l :: ls) = some effect := by
  rw [run, h]

/-- A test that is met decides whether the lines below it are run. -/
theorem run_test {level : Nat} {test : String} {holds : Bool} (hm : m.Meets level)
    (ht : holds? test = some holds) :
    run holds? fits m (⟨level, "if " ++ test ++ ":"⟩ :: ls) =
      run holds? fits (if holds then .running else .skipping level) ls := by
  refine run_cons_inl ?_
  rw [step_of_meets hm, perform, statement?_test]
  dsimp only
  rw [ht]
  rfl

/-- Lines below a test that does not hold are passed over. -/
theorem run_skipped {outer level : Nat} {s : String} (h : outer < level) :
    run holds? fits (.skipping outer) (⟨level, s⟩ :: ls) = run holds? fits (.skipping outer) ls :=
  run_cons_inl (if_pos h)

theorem run_passes {level : Nat} {s : String} (hm : m.Meets level) (hs : statement? s = some .passes) :
    run holds? fits m (⟨level, s⟩ :: ls) = run holds? fits .running ls := by
  refine run_cons_inl ?_
  rw [step_of_meets hm, perform, hs]

theorem run_return (level : Nat) (e : String) :
    run holds? fits .running (⟨level, "return " ++ e⟩ :: ls) =
      if fits e then some (.returns e) else run holds? fits (.failing level) ls := by
  have hstep : step holds? fits .running ⟨level, "return " ++ e⟩ =
      some (if fits e then .inr (.returns e) else .inl (.failing level)) := by
    rw [step, perform, statement?_return]
  cases hfits : fits e with
  | true =>
    rw [hfits] at hstep
    exact run_cons_inr hstep
  | false =>
    rw [hfits] at hstep
    exact run_cons_inl hstep

theorem run_raise {level : Nat} (hm : m.Meets level) (e : String) :
    run holds? fits m (⟨level, "raise " ++ e⟩ :: ls) = some (.raises e) := by
  refine run_cons_inr ?_
  rw [step_of_meets hm, perform, statement?_raise]

/-- A failure goes on behind the lines of its handler. -/
theorem run_handled {level : Nat} {s : String} (hs : statement? s = some .passes) :
    run holds? fits (.failing (level + 1)) (⟨level, handler⟩ :: ⟨level + 1, s⟩ :: ls) =
      run holds? fits .running ls := by
  have hhandler : statement? handler = some .handles := rfl
  have hcaught : step holds? fits (.failing (level + 1)) ⟨level, handler⟩ = some (.inl .running) := by
    rw [step, if_neg (Nat.not_le.mpr (Nat.lt_succ_self level)), if_pos hhandler]
  rw [run_cons_inl hcaught, run_passes (.inl rfl) hs]

/-- **A check reads the variant whose key is there**, and gives way where it does not fit. -/
theorem run_check {keys : List String} (hv : IsPlain v) (hm : m.Meets 1) :
    run (keyTest? keys) fits m (checkLines c v ++ ls) =
      if keys.contains v.discriminator then
        if fits (readCall c v) then some (.returns (readCall c v)) else run (keyTest? keys) fits .running ls
      else run (keyTest? keys) fits (.skipping 1) ls := by
  simp only [checkLines, List.cons_append, List.nil_append]
  rw [run_test hm (keyTest?_key keys hv.word)]
  cases keys.contains v.discriminator with
  | true =>
    rw [if_pos rfl, if_pos rfl, run_passes (.inl rfl) rfl, run_return, run_handled rfl]
  | false =>
    rw [if_neg Bool.false_ne_true, if_neg Bool.false_ne_true, run_skipped (by decide),
      run_skipped (by decide), run_skipped (by decide), run_skipped (by decide)]

/-- **Checks run as the variants are tried**: the first one whose key is there and that fits is read, and
    without one the run goes on behind them. -/
theorem run_checks {keys : List String} {vs : List UnionVariant} {last : Option Effect}
    (hplain : ∀ v ∈ vs, IsPlain v)
    (hlast : ∀ m : Mode, m.Meets 1 → run (keyTest? keys) fits m ls = last) (hm : m.Meets 1) :
    run (keyTest? keys) fits m (vs.flatMap (checkLines c) ++ ls) =
      match (vs.filter fun v => keys.contains v.discriminator).find? fun v => fits (readCall c v) with
      | some v => some (.returns (readCall c v))
      | none => last := by
  induction vs generalizing m with
  | nil => exact hlast m hm
  | cons v vs ih =>
    obtain ⟨hv, hvs⟩ := List.forall_mem_cons.mp hplain
    rw [List.flatMap_cons, List.append_assoc, run_check hv hm]
    cases hkey : keys.contains v.discriminator with
    | false =>
      rw [if_neg Bool.false_ne_true, List.filter_cons_of_neg (by rw [hkey]; decide)]
      exact ih hvs (.inr ⟨1, rfl, Nat.le_refl 1⟩)
    | true =>
      rw [if_pos rfl, List.filter_cons_of_pos (by exact hkey), List.find?_cons]
      cases fits (readCall c v) with
      | true => rfl
      | false =>
        rw [if_neg Bool.false_ne_true]
        exact ih hvs (.inl rfl)

/-- **Branches run as the first class that takes the object is searched.** -/
theorem run_branches {isInstance : String → Bool} {vs : List UnionVariant} {last : Option Effect}
    (hfits : ∀ v ∈ vs, fits (writeCall c v) = true)
    (hlast : ∀ m : Mode, m.Meets 0 → run (classTest? isInstance) fits m ls = last) (hm : m.Meets 0) :
    run (classTest? isInstance) fits m (vs.flatMap (branchLines c) ++ ls) =
      match vs.find? fun v => isInstance v.runtimeClass with
      | some v => some (.returns (writeCall c v))
      | none => last := by
  induction vs generalizing m with
  | nil => exact hlast m hm
  | cons v vs ih =>
    obtain ⟨hv, hvs⟩ := List.forall_mem_cons.mp hfits
    rw [List.flatMap_cons, List.append_assoc, branchLines, List.cons_append, List.cons_append,
      List.nil_append, run_test hm (classTest?_isinstance isInstance v.runtimeClass), List.find?_cons]
    cases isInstance v.runtimeClass with
    | true => rw [if_pos rfl, run_return, if_pos hv]
    | false =>
      rw [if_neg Bool.false_ne_true, run_skipped (by decide)]
      exact ih hvs (.inr ⟨0, rfl, Nat.le_refl 0⟩)

end Runs

/-! ## 6. The functions of a codec -/

variable {r : Registry}

/-- Lines of a function of a codec. -/
def codeLines (f : Function) : List Line := (f.code.map fun b => outline b.text).getD []

theorem codeLines_of_code {f : Function} {code : String} (h : f.code = some (.ofCode code)) :
    codeLines f = written code := by
  rw [codeLines, h]
  rfl

/-- Lines of a reader behind those that let values pass. -/
def objectLines (c : UnionCodec) (e : String) (rest : List Line) : List Line :=
  ⟨0, "errors = []"⟩ :: ⟨0, "if " ++ "isinstance(data, dict)" ++ ":"⟩ ::
    (c.variants.flatMap (checkLines c) ++ (⟨0, "raise " ++ e⟩ :: rest))

theorem exists_codeLines_reader (h : ∀ v ∈ c.variants, IsPlain v) : ∃ e rest,
    codeLines (c.reader r) = written (passText c.passedClasses) ++ objectLines c e rest := by
  obtain ⟨e, rest, hraise⟩ := exists_written_raise ("ValueError(f\"Invalid json for union[" ++ c.name
    ++ "]: \x7bdata!r\x7d \x7berrors\x7d\")")
  have hstatement : "raise ValueError(f\"Invalid json for union[" ++ c.name
      ++ "]: \x7bdata!r\x7d \x7berrors\x7d\")" = "raise " ++ ("ValueError(f\"Invalid json for union["
        ++ c.name ++ "]: \x7bdata!r\x7d \x7berrors\x7d\")") := by
    simp [← String.toList_inj]
  have hcode := codeLines_of_code (f := c.reader r) rfl
  have hrecord : written "errors = []" = [⟨0, "errors = []"⟩] :=
    written_of_flat (by decide) ⟨'e', "rrors = []".toList, rfl, rfl⟩
  have hchecks : (written (Block.stack (c.variants.map c.checkText))).map Line.deeper =
      c.variants.flatMap (checkLines c) := by
    rw [written_stack, List.flatMap_map, List.map_flatMap]
    exact List.flatMap_congr fun v hv => written_checkText (h v hv)
  have hdict : written (Block.nested "if isinstance(data, dict):"
      (Block.stack (c.variants.map c.checkText))) =
        ⟨0, "if " ++ "isinstance(data, dict)" ++ ":"⟩ :: c.variants.flatMap (checkLines c) := by
    rw [written_nested (by decide) ⟨'i', "f isinstance(data, dict):".toList, rfl, rfl⟩, hchecks]
    rfl
  refine ⟨e, rest, ?_⟩
  rw [hcode, hstatement, written_stack]
  simp only [List.flatMap_cons, List.flatMap_nil, List.append_nil]
  rw [hrecord, hdict, hraise]
  rfl

/-- A run that meets these lines reaches the checks, and behind them the last statement. -/
theorem run_objectLines (h : ∀ v ∈ c.variants, IsPlain v) {m : Mode} (hm : m.Meets 0)
    (keys : List String) (fits : String → Bool) (e : String) (rest : List Line) :
    run (keyTest? keys) fits m (objectLines c e rest) = some
      (match (c.variants.filter fun v => keys.contains v.discriminator).find?
          fun v => fits (readCall c v) with
       | some v => .returns (readCall c v)
       | none => .raises e) := by
  have hlast : ∀ m : Mode, m.Meets 1 →
      run (keyTest? keys) fits m (⟨0, "raise " ++ e⟩ :: rest) = some (.raises e) := fun m hm =>
    run_raise (hm.imp id fun ⟨outer, hm, _⟩ => ⟨outer, hm, Nat.zero_le outer⟩) e
  rw [objectLines, run_passes hm rfl, run_test (.inl rfl) rfl, if_pos rfl,
    run_checks h hlast (.inl rfl)]
  cases (c.variants.filter fun v => keys.contains v.discriminator).find?
    fun v => fits (readCall c v) <;> rfl

/-- **The reader tries the variants whose keys an object has, as declared**, and gives the first that
    fits; without one it raises an error. -/
theorem reader_runs (h : ∀ v ∈ c.variants, IsPlain v) : ∃ e, ∀ keys fits,
    run (keyTest? keys) fits .running (codeLines (c.reader r)) = some
      (match (c.variants.filter fun v => keys.contains v.discriminator).find?
          fun v => fits (readCall c v) with
       | some v => .returns (readCall c v)
       | none => .raises e) := by
  obtain ⟨e, rest, hlines⟩ := exists_codeLines_reader (r := r) h
  have hflat : ∀ cls ∈ c.passedClasses, IsFlat cls := fun cls hcls => by
    obtain ⟨v, hv, rfl⟩ := mem_passedClasses hcls
    exact (h v hv).flat
  refine ⟨e, fun keys fits => ?_⟩
  rw [hlines]
  rcases written_passText hflat with hpass | ⟨tested, hpass⟩
  · rw [hpass, List.nil_append]
    exact run_objectLines h (.inl rfl) keys fits e rest
  · rw [hpass, List.cons_append, List.cons_append, List.nil_append,
      run_test (.inl rfl) (keyTest?_pass keys tested), if_neg Bool.false_ne_true,
      run_skipped (by decide)]
    exact run_objectLines h (.inr ⟨0, rfl, Nat.le_refl 0⟩) keys fits e rest

/-- **The writer takes the first class among its branches that an object belongs to**; without one it
    raises an error. -/
theorem writer_runs (h : ∀ v ∈ c.variants, IsPlain v) : ∃ e, ∀ isInstance,
    run (classTest? isInstance) (fun _ => true) .running (codeLines (c.writer r)) = some
      (match c.writeOrder.find? fun v => isInstance v.runtimeClass with
       | some v => .returns (writeCall c v)
       | none => .raises e) := by
  obtain ⟨e, rest, hraise⟩ := exists_written_raise
    ("TypeError(f\"Unsupported type[\x7btype(obj).__name__\x7d] for union[" ++ c.name ++ "]\")")
  have hbranches : (c.writeOrder.map c.branchText).flatMap written =
      c.writeOrder.flatMap (branchLines c) := by
    rw [List.flatMap_map]
    exact List.flatMap_congr fun v hv =>
      written_branchText (h v ((sortBy_perm _ _).mem_iff.mp hv))
  have hlines : codeLines (c.writer r) =
      c.writeOrder.flatMap (branchLines c) ++ (⟨0, "raise " ++ e⟩ :: rest) := by
    have hstatement : "raise TypeError(f\"Unsupported type[\x7btype(obj).__name__\x7d] for union["
        ++ c.name ++ "]\")" =
          "raise " ++ ("TypeError(f\"Unsupported type[\x7btype(obj).__name__\x7d] for union["
            ++ c.name ++ "]\")") := by
      simp [← String.toList_inj]
    have hcode := codeLines_of_code (f := c.writer r) rfl
    rw [hstatement] at hcode
    rw [hcode, written_stack, List.flatMap_append, hbranches, List.flatMap_singleton, hraise]
  refine ⟨e, fun isInstance => ?_⟩
  have hlast : ∀ m : Mode, m.Meets 0 → run (classTest? isInstance) (fun _ => true) m
      (⟨0, "raise " ++ e⟩ :: rest) = some (.raises e) := fun m hm => run_raise hm e
  rw [hlines, run_branches (fun _ _ => rfl) hlast (.inl rfl)]
  cases c.writeOrder.find? fun v => isInstance v.runtimeClass <;> rfl

end CodecCode

end ClientGen
