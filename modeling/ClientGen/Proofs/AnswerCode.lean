import ClientGen.Proofs.Casing
import ClientGen.Proofs.Layout
import ClientGen.Proofs.Methods
import ClientGen.Proofs.Numerals

/-!
# The code that dispatches an answer, as it runs

A dispatch table is written as a block of code: two lines for each branch, a test and the statement
that it guards, and the fallback behind them. This file gives lines of code a meaning of their own,
which knows nothing of tables, and fixes

* `effect?`, `testedCode?`, `run`: what statements and tests mean, and how lines run for a status;
* `run_branchLines`: lines of branches run as the branches are searched, first match first;
* `lines_responseText`: a block has the lines that its branches call for and no others, since all
  that is written into it is part of one line;
* `response_runs`: for every status code, the block of a method does what its table says.
-/

namespace ClientGen

open ClientGen.Text ClientGen.Number

namespace AnswerCode

/-! ## 1. Meaning of lines -/

/-- How a run of code ends: it returns the value of an expression, or raises one. -/
inductive Effect where
  | returns (expression : String)
  | raises (expression : String)
  deriving DecidableEq, Repr

/-- What a text has behind the characters given at its start. -/
def behind? (start s : String) : Option String :=
  if startsWith s start then some (dropStart start.toList.length s) else none

/-- Effect of a line that is a statement which ends a run. -/
def effect? (line : String) : Option Effect :=
  ((behind? "return " line).map .returns).or ((behind? "raise " line).map .raises)

/-- Number that a row of digits stands for. -/
def row? (cs : List Char) : Option Nat :=
  if cs ≠ [] ∧ cs.all Char.isDigit = true then some (digitsValue cs) else none

/-- Integer that digits stand for, perhaps behind a dash. -/
def number? : List Char → Option Int
  | '-' :: ds => (row? ds).map fun n : Nat => -(n : Int)
  | ds => (row? ds).map fun n : Nat => (n : Int)

/-- Code that a line compares the status with, where the line is such a test. -/
def testedCode? (status line : String) : Option Int :=
  (behind? ("if " ++ status ++ " == ") line).bind fun test =>
    if test.toList.getLast? = some ':' then number? test.toList.dropLast else none

/-- **Run of lines for a status code.** A test guards the one line behind it, which is moved in by a
    level; a line that is no test is a statement and ends the run. Other lines have no meaning. -/
def run (status : String) (code : Int) : List String → Option Effect
  | [] => none
  | line :: rest =>
    match testedCode? status line, rest with
    | some tested, guarded :: rest =>
      ((behind? (margin 1) guarded).bind effect?).bind fun effect =>
        if code = tested then some effect else run status code rest
    | some _, [] => none
    | none, _ => effect? line

/-! ## 2. Lines that are written -/

theorem behind?_append (start s : String) : behind? start (start ++ s) = some s := by
  rw [behind?, if_pos (startsWith_append start s), dropStart_append]

theorem eq_append_of_behind? {start s rest : String} (h : behind? start s = some rest) :
    s = start ++ rest := by
  unfold behind? at h
  split at h
  · rename_i hstart
    obtain ⟨rest, rfl⟩ := startsWith_iff.mp hstart
    rw [← Option.some.inj h, dropStart_append]
  · cases h

/-- A text does not start with what starts otherwise. -/
theorem behind?_eq_none {start s : String} {c d : Char} (hc : start.toList.head? = some c)
    (hd : s.toList.head? = some d) (hne : d ≠ c) : behind? start s = none := by
  have hno : startsWith s start = false := by
    rw [← Bool.not_eq_true]
    intro h
    obtain ⟨rest, rfl⟩ := startsWith_iff.mp h
    rw [String.toList_append, List.head?_append, hc] at hd
    exact hne (Option.some.inj hd).symm
  rw [behind?, hno]
  rfl

theorem effect?_return (expression : String) :
    effect? ("return " ++ expression) = some (.returns expression) := by
  rw [effect?, behind?_append]
  rfl

theorem effect?_raise (expression : String) :
    effect? ("raise " ++ expression) = some (.raises expression) := by
  have hno : startsWith ("raise " ++ expression) "return " = false := by
    rw [startsWith, String.toList_append]
    rfl
  have hreturn : behind? "return " ("raise " ++ expression) = none := by
    rw [behind?, hno]
    rfl
  rw [effect?, hreturn, behind?_append]
  rfl

/-- No statement is blank. -/
theorem begins_of_effect? {line : String} {effect : Effect} (h : effect? line = some effect) :
    Begins line := by
  obtain h | ⟨_, h⟩ := Option.or_eq_some_iff.mp h
  · obtain ⟨expression, hline, _⟩ := Option.map_eq_some_iff.mp h
    have hreturn : Begins "return " := ⟨'r', "eturn ".toList, rfl, rfl⟩
    exact eq_append_of_behind? hline ▸ hreturn.append expression
  · obtain ⟨expression, hline, _⟩ := Option.map_eq_some_iff.mp h
    have hraise : Begins "raise " := ⟨'r', "aise ".toList, rfl, rfl⟩
    exact eq_append_of_behind? hline ▸ hraise.append expression

theorem row?_toString (n : Nat) : row? (toString n).toList = some n := by
  have hrow : (toString n).toList ≠ [] ∧ (toString n).toList.all Char.isDigit = true :=
    ⟨toList_toString_ne_nil n, List.all_eq_true.mpr fun _ => isDigit_of_mem_toString⟩
  rw [row?, if_pos hrow, digitsValue_toString]

/-- An integer that is written is read back, however long it is. -/
theorem number?_integerText (n : Int) : number? (integerText n).toList = some n := by
  have hrow := row?_toString n.natAbs
  unfold integerText
  split
  · rename_i hn
    have hlist : ("-" ++ toString n.natAbs).toList = '-' :: (toString n.natAbs).toList :=
      String.toList_append
    have hvalue : -(n.natAbs : Int) = n := by omega
    rw [hlist, number?, hrow, Option.map_some, hvalue]
  · rename_i hn
    have hdash : ∀ ds, (toString n.natAbs).toList ≠ '-' :: ds := fun ds he => by
      have hd := isDigit_of_mem_toString (n := n.natAbs) (c := '-') (by rw [he]; simp)
      exact absurd hd (by decide)
    have hvalue : (n.natAbs : Int) = n := by omega
    rw [number?, hrow, Option.map_some, hvalue]
    exact hdash

/-- Line that tests a code. -/
def testLine (status : String) (code : Int) : String :=
  "if " ++ status ++ " == " ++ integerText code ++ ":"

theorem testedCode?_testLine (status : String) (code : Int) :
    testedCode? status (testLine status code) = some code := by
  have hline : testLine status code =
      ("if " ++ status ++ " == ") ++ (integerText code ++ ":") := by
    rw [testLine, String.append_assoc]
  have hcolon : (integerText code ++ ":").toList = (integerText code).toList ++ [':'] :=
    String.toList_append
  rw [testedCode?, hline, behind?_append, Option.bind_some, hcolon, List.getLast?_concat,
    if_pos rfl, List.dropLast_concat, number?_integerText]

/-- A statement is no test. -/
theorem testedCode?_raise (status expression : String) :
    testedCode? status ("raise " ++ expression) = none := by
  have hno : behind? ("if " ++ status ++ " == ") ("raise " ++ expression) = none := by
    refine behind?_eq_none (c := 'i') (d := 'r') ?_ ?_ (by decide)
    · simp
    · simp
  rw [testedCode?, hno]
  rfl

/-- **A guarded statement ends the run for its code** and for no other. -/
theorem run_guarded {status statement : String} {effect : Effect}
    (h : effect? statement = some effect) (tested code : Int) (rest : List String) :
    run status code (testLine status tested :: (margin 1 ++ statement) :: rest) =
      if code = tested then some effect else run status code rest := by
  conv => lhs; unfold run
  rw [testedCode?_testLine]
  dsimp only
  rw [behind?_append, Option.bind_some, h, Option.bind_some]

theorem run_raise (status expression : String) (code : Int) :
    run status code ["raise " ++ expression] = some (.raises expression) := by
  unfold run
  rw [testedCode?_raise]
  exact effect?_raise expression

/-! ## 3. Lines of branches -/

/-- Lines of a branch that tests a code. -/
def branchLines (s : Settings) (b : Outcome) : List String :=
  match b.code? with
  | some code => [testLine s.status code, margin 1 ++ ClientMethod.statementOf s b]
  | none => []

/-- **Lines of branches run as the branches are searched**: the first branch of the code gives the
    effect, and without one the run goes on behind them. -/
theorem run_branchLines {s : Settings} {effectOf : Outcome → Effect} {bs : List Outcome}
    (hcode : ∀ b ∈ bs, b.code?.isSome = true)
    (heffect : ∀ b ∈ bs, effect? (ClientMethod.statementOf s b) = some (effectOf b))
    (code : Int) (rest : List String) :
    run s.status code (bs.flatMap (branchLines s) ++ rest) =
      match bs.find? (·.code? = some code) with
      | some b => some (effectOf b)
      | none => run s.status code rest := by
  induction bs with
  | nil => rfl
  | cons b bs ih =>
    obtain ⟨hb, hbs⟩ := List.forall_mem_cons.mp hcode
    obtain ⟨heff, heffs⟩ := List.forall_mem_cons.mp heffect
    obtain ⟨tested, ht⟩ := Option.isSome_iff_exists.mp hb
    have hlines : branchLines s b =
        [testLine s.status tested, margin 1 ++ ClientMethod.statementOf s b] := by
      rw [branchLines, ht]
    rw [List.flatMap_cons, hlines, List.append_assoc, List.cons_append, List.cons_append,
      List.nil_append, run_guarded heff, List.find?_cons, ht]
    by_cases hc : code = tested
    · have hfound : decide (some tested = some code) = true := decide_eq_true (by rw [hc])
      rw [if_pos hc, hfound]
    · have hother : decide (some tested = some code) = false :=
        decide_eq_false fun he => hc (Option.some.inj he).symm
      rw [if_neg hc, hother]
      exact ih hbs heffs

/-! ## 4. Lines of a block -/

/-- Texts that an outcome brings into its statement. -/
def texts : Outcome → List String
  | .success _ datatype => [datatype]
  | .successUnit _ => []
  | .successAbsent value => [value]
  | .failure _ _ errorClass => [errorClass]
  | .unexpected => []

/-- **A branch that can be written in two lines**: it has a code, and its texts break no line. -/
def IsPlain (b : Outcome) : Prop := b.code?.isSome = true ∧ ∀ t ∈ texts b, IsFlat t

/-- What a method does for an outcome; `codes` are those that it expects. -/
def effectOf (codes : List Int) : Outcome → Effect
  | .success _ d => .returns ("common.parse_json(\"" ++ d ++ "\", r, " ++ d ++ ")")
  | .successUnit _ => .returns "None"
  | .successAbsent v => .returns v
  | .failure _ none e => .raises (e ++ "(r.status, r.body)")
  | .failure _ (some _) e => .raises (e ++ "(r)")
  | .unexpected => .raises
      ("errors.FailedRequest(r.status, f\"Unsupported response code[\x7br.status\x7d]. Expected: "
        ++ join ", " (codes.map integerText) ++ "\")")

theorem isFlat_integerText (n : Int) : IsFlat (integerText n) := by
  have hdigits : IsFlat (toString n.natAbs) := isFlat_of_forall fun c hc =>
    of_isDigit (P := fun c => c ≠ '\n' ∧ c ≠ '\t') (by decide) (isDigit_of_mem_toString hc)
  have hdash : IsFlat "-" := by decide
  unfold integerText
  split
  · exact hdash.append hdigits
  · exact hdigits

variable {s : Settings}

/-- What all dialects call the answer and its parts. -/
theorem names_of_dialect (hs : s ∈ Dialect.all) :
    s.responseVariable = "r" ∧ s.status = "r.status" ∧ s.body = "r.body" ∧
      s.errorsNamespace = "errors" ∧ s.modelsNamespace = "models" := by
  have hall : ∀ d ∈ Dialect.all, d.responseVariable = "r" ∧ d.status = "r.status" ∧
      d.body = "r.body" ∧ d.errorsNamespace = "errors" ∧ d.modelsNamespace = "models" := by decide
  exact hall s hs

/-- **The statement of a branch means what its outcome says.** -/
theorem effect?_statementOf (hs : s ∈ Dialect.all) {b : Outcome} (hb : IsPlain b) (codes : List Int) :
    effect? (ClientMethod.statementOf s b) = some (effectOf codes b) := by
  obtain ⟨hvariable, hstatus, hbody, _, _⟩ := names_of_dialect hs
  -- unfolded and not rewritten: equations of single outcomes would be computed through all the texts
  unfold ClientMethod.statementOf
  cases b with
  | success c d =>
    have hline : "return common.parse_json(\"" ++ d ++ "\", " ++ s.responseVariable ++ ", " ++ d ++ ")" =
        "return " ++ ("common.parse_json(\"" ++ d ++ "\", r, " ++ d ++ ")") := by
      simp [hvariable, ← String.toList_inj]
    dsimp only
    rw [hline]
    exact effect?_return _
  | successUnit c => exact effect?_return "None"
  | successAbsent v => exact effect?_return v
  | failure c d e =>
    cases d with
    | none =>
      have hline : "raise " ++ e ++ "(" ++ s.status ++ ", " ++ s.body ++ ")" =
          "raise " ++ (e ++ "(r.status, r.body)") := by
        simp [hstatus, hbody, ← String.toList_inj]
      dsimp only
      rw [hline]
      exact effect?_raise _
    | some d =>
      have hline : "raise " ++ e ++ "(" ++ s.responseVariable ++ ")" = "raise " ++ (e ++ "(r)") := by
        simp [hvariable, ← String.toList_inj]
      dsimp only
      rw [hline]
      exact effect?_raise _
  | unexpected => exact absurd hb.1 (by decide)

theorem isFlat_statementOf (hs : s ∈ Dialect.all) {b : Outcome} (hb : IsPlain b) :
    IsFlat (ClientMethod.statementOf s b) := by
  obtain ⟨hvariable, hstatus, hbody, _, _⟩ := names_of_dialect hs
  have htexts := hb.2
  unfold ClientMethod.statementOf
  rw [hvariable, hstatus, hbody]
  cases b with
  | success c d =>
    have hd : IsFlat d := htexts d (List.mem_singleton_self d)
    simp only [isFlat_append, hd, and_true]
    decide
  | successUnit c => exact show IsFlat "return None" by decide
  | successAbsent v =>
    have hv : IsFlat v := htexts v (List.mem_singleton_self v)
    simp only [isFlat_append, hv, and_true]
    decide
  | failure c d e =>
    have he : IsFlat e := htexts e (List.mem_singleton_self e)
    cases d with
    | none =>
      simp only [isFlat_append, he, and_true]
      decide
    | some d =>
      simp only [isFlat_append, he, and_true]
      decide
  | unexpected => exact absurd hb.1 (by decide)

/-- A branch is written as its test and its statement, on a line each. -/
theorem lines_branchText (hs : s ∈ Dialect.all) {b : Outcome} (hb : IsPlain b) :
    lines (ClientMethod.branchText s b) = branchLines s b ∧ ∀ l ∈ branchLines s b, IsFlat l := by
  obtain ⟨_, hstatus, _, _, _⟩ := names_of_dialect hs
  obtain ⟨code, hcode⟩ := Option.isSome_iff_exists.mp hb.1
  have hstatement : IsFlat (ClientMethod.statementOf s b) := isFlat_statementOf hs hb
  have hfilled := (begins_of_effect? (effect?_statementOf hs hb [])).allBlank_eq_false
  have htest : IsFlat (testLine s.status code) := by
    rw [hstatus]
    exact IsFlat.append (IsFlat.append (by decide) (isFlat_integerText code)) (by decide)
  have hlines : branchLines s b =
      [testLine s.status code, margin 1 ++ ClientMethod.statementOf s b] := by
    rw [branchLines, hcode]
  have htext : ClientMethod.branchText s b =
      testLine s.status code ++ "\n" ++ indent (ClientMethod.statementOf s b) := by
    rw [ClientMethod.branchText, hcode]
    rfl
  constructor
  · rw [htext, lines_break, lines_of_inLine htest.1, indent, lines_indentBy,
      lines_of_inLine hstatement.1, List.map_singleton, indentLine, hfilled, hlines]
    rfl
  · rw [hlines]
    intro l hl
    rcases List.mem_cons.mp hl with rfl | hl
    · exact htest
    · rw [List.mem_singleton.mp hl]
      exact IsFlat.append (by decide) hstatement

theorem branchText_ne_empty (hs : s ∈ Dialect.all) {b : Outcome} (hb : IsPlain b) :
    ClientMethod.branchText s b ≠ "" := by
  intro hempty
  obtain ⟨code, hcode⟩ := Option.isSome_iff_exists.mp hb.1
  have hlines := (lines_branchText hs hb).1
  rw [hempty, branchLines, hcode] at hlines
  cases hlines

theorem isFlat_fallbackStatement (hs : s ∈ Dialect.all) (codes : List Int) :
    IsFlat (ClientMethod.fallbackStatement s codes) := by
  obtain ⟨_, hstatus, _, herrors, _⟩ := names_of_dialect hs
  have hcodes : IsFlat (ClientMethod.codesText codes) := IsFlat.join (by decide) fun t ht => by
    obtain ⟨n, _, rfl⟩ := List.mem_map.mp ht
    exact isFlat_integerText n
  unfold ClientMethod.fallbackStatement DispatchTable.errorName
  rw [hstatus, herrors]
  simp only [isFlat_append, hcodes, and_true]
  decide

/-- The statement behind all branches, as what a method does for a code that it does not expect. -/
theorem fallbackStatement_eq (hs : s ∈ Dialect.all) (codes : List Int) : ∃ expression,
    ClientMethod.fallbackStatement s codes = "raise " ++ expression ∧
      effectOf codes .unexpected = .raises expression := by
  obtain ⟨_, hstatus, _, herrors, _⟩ := names_of_dialect hs
  refine ⟨_, ?_, rfl⟩
  unfold ClientMethod.fallbackStatement DispatchTable.errorName
  rw [hstatus, herrors]
  simp [ClientMethod.codesText, DispatchTable.failedRequest, ← String.toList_inj]

theorem fallbackStatement_ne_empty (hs : s ∈ Dialect.all) (codes : List Int) :
    ClientMethod.fallbackStatement s codes ≠ "" := by
  intro hempty
  obtain ⟨expression, hraise, _⟩ := fallbackStatement_eq hs codes
  rw [hraise, ← String.toList_inj, String.toList_append] at hempty
  cases hempty

/-- **Lines of a block**: those that the branches call for, one branch after another, and the
    fallback behind them. -/
theorem lines_responseText (hs : s ∈ Dialect.all) {t : DispatchTable}
    (ht : ∀ b ∈ t.branches, IsPlain b) :
    lines (expandTabs (ClientMethod.responseText s t)) =
      t.branches.flatMap (branchLines s) ++ [ClientMethod.fallbackStatement s t.expectedCodes] := by
  have hfallback : IsFlat (ClientMethod.fallbackStatement s t.expectedCodes) :=
    isFlat_fallbackStatement hs t.expectedCodes
  have hparts : (t.branches.map (ClientMethod.branchText s) ++
      [ClientMethod.fallbackStatement s t.expectedCodes]).filter (· ≠ "") =
        t.branches.map (ClientMethod.branchText s) ++
          [ClientMethod.fallbackStatement s t.expectedCodes] := by
    refine List.filter_eq_self.mpr fun part hpart => decide_eq_true ?_
    rcases List.mem_append.mp hpart with hpart | hpart
    · obtain ⟨b, hb, rfl⟩ := List.mem_map.mp hpart
      exact branchText_ne_empty hs (ht b hb)
    · rw [List.mem_singleton.mp hpart]
      exact fallbackStatement_ne_empty hs t.expectedCodes
  have hbranches : (t.branches.map (ClientMethod.branchText s)).flatMap lines =
      t.branches.flatMap (branchLines s) := by
    rw [List.flatMap_map]
    exact List.flatMap_congr fun b hb => (lines_branchText hs (ht b hb)).1
  have hlines : lines (ClientMethod.responseText s t) =
      t.branches.flatMap (branchLines s) ++ [ClientMethod.fallbackStatement s t.expectedCodes] := by
    have htext : ClientMethod.responseText s t = unlines (t.branches.map (ClientMethod.branchText s) ++
        [ClientMethod.fallbackStatement s t.expectedCodes]) := by
      rw [ClientMethod.responseText, Source.Block.stack, Source.Block.joinTexts, hparts]
      rfl
    rw [htext, lines_unlines_flatMap (by simp), List.flatMap_append, hbranches,
      List.flatMap_singleton, lines_of_inLine hfallback.1]
  -- no line has tabs, so writing them as spaces changes nothing
  have hflat : ∀ l ∈ t.branches.flatMap (branchLines s) ++
      [ClientMethod.fallbackStatement s t.expectedCodes], expandTabs l = id l := fun l hl => by
    rcases List.mem_append.mp hl with hl | hl
    · obtain ⟨b, hb, hl⟩ := List.mem_flatMap.mp hl
      exact expandTabs_of_not_mem ((lines_branchText hs (ht b hb)).2 l hl).2
    · rw [List.mem_singleton.mp hl]
      exact expandTabs_of_not_mem hfallback.2
  rw [lines_expandTabs, hlines, List.map_congr_left hflat, List.map_id]

/-! ## 5. Blocks of methods -/

variable {r : Registry}

theorem isFlat_pascalCase (name : String) : IsFlat (pascalCase name) := isFlat_of_forall fun c hc =>
  of_isAlphanum (P := fun c => c ≠ '\n' ∧ c ≠ '\t') (by decide) (isAlphanum_of_mem_pascalCase hc)

theorem isFlat_primitive (p : Primitive) : IsFlat p.type.text := by
  cases p <;> decide

/-- No type breaks a line, however it is put together. -/
theorem isFlat_typeOf (hs : r.settings ∈ Dialect.all) (ref : TypeRef) :
    IsFlat (r.typeOf ref).text := by
  obtain ⟨_, _, _, _, hmodels⟩ := names_of_dialect hs
  have hopen : ∀ w ∈ ["List[", "Dict[str, ", "Optional["], IsFlat w := by decide
  have hwrap : ∀ {w t : String}, w ∈ ["List[", "Dict[str, ", "Optional["] → IsFlat t →
      IsFlat (w ++ t ++ "]") := fun hw ht =>
    ((hopen _ hw).append ht).append (by decide)
  induction ref with
  | primitive p => exact isFlat_primitive p
  | named kind name =>
    have hclass : (r.typeOf (.named kind name)).text = "models" ++ "." ++ pascalCase name := by
      show r.className name true = _
      rw [Registry.className, hmodels]
      rfl
    rw [hclass]
    exact IsFlat.append (by decide) (isFlat_pascalCase name)
  | list ref ih => exact hwrap (w := "List[") (by decide) ih
  | map ref ih =>
    have htext : (r.typeOf (.map ref)).text = "Dict[str, " ++ (r.typeOf ref).text ++ "]" := by
      rw [← String.toList_inj, String.toList_append, String.toList_append]
      show (("Dict" ++ "[") ++ ("str" ++ ", " ++ (r.typeOf ref).text) ++ "]").toList = _
      simp
    rw [htext]
    exact hwrap (by decide) ih
  | option ref ih => exact hwrap (w := "Optional[") (by decide) ih

theorem isFlat_errorName (hs : r.settings ∈ Dialect.all) {name : String} (h : IsFlat name) :
    IsFlat (DispatchTable.errorName r.settings name) := by
  obtain ⟨_, _, _, herrors, _⟩ := names_of_dialect hs
  rw [DispatchTable.errorName, herrors]
  exact IsFlat.append (by decide) h

theorem isFlat_nilText (ref : TypeRef) : IsFlat ref.nilText := by
  have hnone : IsFlat "None" := by decide
  cases ref with
  | list _ => exact show IsFlat "[]" by decide
  | map _ => exact show IsFlat "\x7b\x7d" by decide
  | primitive _ => exact hnone
  | named _ _ => exact hnone
  | option _ => exact hnone

/-- A declared response answers in two lines. -/
theorem isPlain_of_answers (hs : r.settings ∈ Dialect.all) {a : Response} {b : Outcome}
    (h : DispatchTable.Answers r a b) : IsPlain b := by
  cases h with
  | successUnit hu hsuccess => exact ⟨rfl, fun _ ht => absurd ht List.not_mem_nil⟩
  | failureUnit hu hsuccess =>
    refine ⟨rfl, fun t ht => ?_⟩
    rw [List.mem_singleton.mp ht]
    exact isFlat_errorName hs (by decide)
  | success hu hsuccess href =>
    refine ⟨rfl, fun t ht => ?_⟩
    rw [List.mem_singleton.mp ht]
    exact isFlat_typeOf hs _
  | failure hu hsuccess href =>
    refine ⟨rfl, fun t ht => ?_⟩
    rw [List.mem_singleton.mp ht]
    exact isFlat_errorName hs ((isFlat_pascalCase _).append (by decide))

/-- **Every branch of a table that is made can be written in two lines.** -/
theorem isPlain_of_consistsOf (hs : r.settings ∈ Dialect.all) {e : Endpoint} {t : DispatchTable}
    {bs : List Outcome} {nils : List String} (h : DispatchTable.ConsistsOf r e t bs nils) :
    ∀ b ∈ t.branches, IsPlain b := by
  intro b hb
  rw [h.branches, List.mem_append] at hb
  rcases hb with hb | hb
  · obtain ⟨a, _, hab⟩ := exists_left_of_forall₂ h.own hb
    exact isPlain_of_answers hs (DispatchTable.outcomeOf_eq_ok.mp hab)
  · obtain ⟨value, hvalue, rfl⟩ := List.mem_map.mp hb
    obtain ⟨a, _, hnil⟩ := exists_left_of_forall₂ h.absent hvalue
    obtain ⟨ref, _, rfl⟩ := DispatchTable.nilValueOf_eq_ok.mp hnil
    refine ⟨rfl, fun t ht => ?_⟩
    rw [List.mem_singleton.mp ht]
    exact isFlat_nilText ref

/-- **A method's block does what its table says**: under every dialect and for every status code the
    lines run to the effect of the outcome that the table has for the code. The codes that the last
    statement names are those that the table expects, in rising order. -/
theorem response_runs {e : Endpoint} (hs : r.settings ∈ Dialect.all) {m : ClientMethod}
    (h : (ClientMethod.ofEndpoint r e).outcome = .ok m) (code : Int) :
    run "r.status" code (lines m.response.text) =
      some (effectOf m.dispatch.expectedCodes (m.dispatch.classify code)) ∧
    m.dispatch.expectedCodes.Pairwise (· < ·) := by
  obtain ⟨t, ht, _, rfl⟩ := ClientMethod.ofEndpoint_eq_ok.mp h
  obtain ⟨bs, nils, hc⟩ := DispatchTable.ofEndpoint_eq_ok.mp ht
  obtain ⟨_, hstatus, _, _, _⟩ := names_of_dialect hs
  have hplain : ∀ b ∈ t.branches, IsPlain b := isPlain_of_consistsOf hs hc
  obtain ⟨expression, hfallback, hunexpected⟩ := fallbackStatement_eq hs t.expectedCodes
  constructor
  · show run _ _ (lines (expandTabs (ClientMethod.responseText r.settings t))) =
      some (effectOf t.expectedCodes (t.classify code))
    rw [lines_responseText hs hplain, ← hstatus,
      run_branchLines (fun b hb => (hplain b hb).1)
        (fun b hb => effect?_statementOf hs (hplain b hb) t.expectedCodes),
      hfallback, run_raise, ← hunexpected, DispatchTable.classify]
    cases t.branches.find? (·.code? = some code) <;> rfl
  · rw [hc.expected]
    exact DispatchTable.pairwise_sortCodes _

/-- Endpoint with an optional list, a described error and one without a description. -/
def severalAnswers : Endpoint := DispatchTable.answering
  [⟨500, "unit", false⟩, ⟨200, "[string]", true⟩, ⟨409, "map[long]", false⟩]

/-- One method, for a code of each kind. -/
theorem response_runs_several_answers : ∃ m,
    (ClientMethod.ofEndpoint ⟨Dialect.aiohttpCompat, [], []⟩ severalAnswers).outcome = .ok m ∧
    run "r.status" 200 (lines m.response.text) =
      some (.returns "common.parse_json(\"List[str]\", r, List[str])") ∧
    run "r.status" 404 (lines m.response.text) = some (.returns "[]") ∧
    run "r.status" 409 (lines m.response.text) = some (.raises "errors.LongMapResponse(r)") ∧
    run "r.status" 500 (lines m.response.text) =
      some (.raises "errors.FailedRequest(r.status, r.body)") ∧
    run "r.status" (-1) (lines m.response.text) = some (.raises
      ("errors.FailedRequest(r.status, f\"Unsupported response code[\x7br.status\x7d]. "
        ++ "Expected: 200, 404, 409, 500\")")) := by
  obtain ⟨m, hm⟩ : ∃ m, (ClientMethod.ofEndpoint ⟨Dialect.aiohttpCompat, [], []⟩
      severalAnswers).outcome = .ok m := ⟨_, rfl⟩
  have hdialect : Dialect.aiohttpCompat ∈ Dialect.all := by decide
  have hruns := fun code => (response_runs (r := ⟨Dialect.aiohttpCompat, [], []⟩) hdialect hm code).1
  refine ⟨m, hm, ?_⟩
  cases hm
  exact ⟨hruns 200, hruns 404, hruns 409, hruns 500, hruns (-1)⟩

end AnswerCode

end ClientGen
