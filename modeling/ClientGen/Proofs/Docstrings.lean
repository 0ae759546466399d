import ClientGen.Proofs.Captures
import ClientGen.Proofs.References
import ClientGen.Proofs.WireNames

/-!
# Documentation strings

Classes and functions of generated code begin with their documentation, a string between three double
quotes on either side. It ends at the first three of them in a row that no backslash takes along, so
whatever text is put into it must not bring these with it. Descriptions of classes and functions are
escaped on the way in, those of parameters are not. This file fixes

* `DocScan`, `IsDocstring`: how a documentation string is read, and texts that are one from the first
  character to the last;
* `LeavesOpen`, `leavesOpen_separated`: texts that bring no end with them, and what is put together of
  such;
* `run_escapeDoc`: an escaped text brings none, but leaves pending the quotes at its end;
* `Class.docstring_closes_iff`: classes whose documentation is one string;
* `Function.KeepsOpen`, `Function.documentation_closes_iff`: the same for functions;
* `ClientMethod.isDocstring_view_iff`: for the methods of a client the descriptions of the declared
  parameters decide.
-/

namespace ClientGen

open ClientGen.Text

namespace Text

/-! ## 1. Where a documentation string ends -/

/-- **How far a documentation string has been read**, behind the quotes that open it. -/
inductive DocScan where
  /-- Inside, with so many double quotes just passed. -/
  | inside (quotes : Nat)
  /-- Inside, behind a backslash, which takes the next character along. -/
  | escaped
  /-- At the end: the third double quote in a row has just been passed. -/
  | closed
  /-- Behind the end. -/
  | past
  deriving DecidableEq, Repr

namespace DocScan

/-- Reads one character. -/
def step : DocScan → Char → DocScan
  | inside quotes, c =>
    if c = '\\' then escaped
    else if c = '"' then (if quotes = 2 then closed else inside (quotes + 1))
    else inside 0
  | escaped, _ => inside 0
  | closed, _ => past
  | past, _ => past

/-- Reads characters one after another. -/
def run (st : DocScan) (cs : List Char) : DocScan := cs.foldl step st

/-- Tells whether the string has not ended yet. -/
def isOpen : DocScan → Bool
  | inside _ => true
  | escaped => true
  | closed => false
  | past => false

variable {st : DocScan} {c : Char}

theorem run_cons (st : DocScan) (c : Char) (cs : List Char) : run st (c :: cs) = run (step st c) cs := rfl

theorem run_append (st : DocScan) (cs ds : List Char) : run st (cs ++ ds) = run (run st cs) ds :=
  List.foldl_append

/-- Tells whether a character begins nothing: no quote, and no backslash. -/
def isMark (c : Char) : Bool := c ≠ '"' && c ≠ '\\'

theorem step_of_isMark (hc : isMark c = true) :
    step st c = if st.isOpen then inside 0 else past := by
  rw [isMark, Bool.and_eq_true, decide_eq_true_eq, decide_eq_true_eq] at hc
  cases st with
  | inside quotes => rw [step, if_neg hc.2, if_neg hc.1]; rfl
  | escaped => rfl
  | closed => rfl
  | past => rfl

theorem run_past (cs : List Char) : run past cs = past := by
  induction cs with
  | nil => rfl
  | cons c cs ih => exact ih

/-- **Behind a mark** reading starts afresh, unless the string has ended. -/
theorem run_append_mark (hc : isMark c = true) (st : DocScan) (cs ds : List Char) :
    run st (cs ++ c :: ds) = if (run st cs).isOpen then run (inside 0) ds else past := by
  rw [run_append, run_cons, step_of_isMark hc]
  split
  · rfl
  · exact run_past ds

/-- Marks leave nothing pending. -/
theorem run_marks {cs : List Char} (h : cs.all isMark = true) : run (inside 0) cs = inside 0 := by
  induction cs with
  | nil => rfl
  | cons c cs ih =>
    rw [List.all_cons, Bool.and_eq_true] at h
    rw [run_cons, step_of_isMark h.1]
    exact ih h.2

/-- Three double quotes end the string where no quote is pending and no backslash. -/
theorem run_quotes_eq_closed_iff : run st ['"', '"', '"'] = closed ↔ st = inside 0 := by
  have hquote : ∀ n, step (inside n) '"' = if n = 2 then closed else inside (n + 1) := fun _ => rfl
  cases st with
  | inside quotes =>
    match quotes with
    | 0 => decide
    | 1 => decide
    | 2 => decide
    | n + 3 => simp [run, hquote]
  | escaped => decide
  | closed => decide
  | past => decide

/-- Without a double quote the string goes on. -/
theorem isOpen_run {cs : List Char} (h : '"' ∉ cs) (hst : st.isOpen = true) :
    (run st cs).isOpen = true := by
  induction cs generalizing st with
  | nil => exact hst
  | cons c cs ih =>
    rw [List.mem_cons, not_or] at h
    refine ih h.2 ?_
    cases st with
    | inside quotes =>
      rw [step, if_neg (Ne.symm h.1)]
      split <;> rfl
    | escaped => rfl
    | closed => cases hst
    | past => cases hst

end DocScan

open DocScan

/-- **A text is one documentation string**: three double quotes open it, and the first three in a row
    behind these, where a backslash takes the next character along, are its last characters. -/
structure IsDocstring (s : String) : Prop where
  opens : startsWith s "\"\"\"" = true
  closes : run (.inside 0) (dropStart 3 s).toList = .closed

instance (s : String) : Decidable (IsDocstring s) :=
  decidable_of_iff (startsWith s "\"\"\"" = true ∧ run (.inside 0) (dropStart 3 s).toList = .closed)
    ⟨fun h => ⟨h.1, h.2⟩, fun h => ⟨h.opens, h.closes⟩⟩

theorem isDocstring_iff (s : String) :
    IsDocstring ("\"\"\"" ++ s) ↔ run (.inside 0) s.toList = .closed := by
  have hopens : startsWith ("\"\"\"" ++ s) "\"\"\"" = true := startsWith_append _ _
  have hbody : dropStart 3 ("\"\"\"" ++ s) = s := dropStart_append "\"\"\"" s
  exact ⟨fun h => hbody ▸ h.closes, fun h => ⟨hopens, hbody.symm ▸ h⟩⟩

/-- Where a documentation string is closed nothing is pending. -/
theorem isDocstring_quotes_iff (s : String) : IsDocstring ("\"\"\"" ++ s ++ "\"\"\"") ↔
    run (.inside 0) s.toList = .inside 0 := by
  rw [String.append_assoc, isDocstring_iff, String.toList_append, run_append]
  exact run_quotes_eq_closed_iff

/-- **A documentation string is over at its first end**: what follows it belongs to no string. -/
theorem IsDocstring.not_append {s t : String} (h : IsDocstring s) (ht : t ≠ "") :
    ¬ IsDocstring (s ++ t) := by
  obtain ⟨body, rfl⟩ := startsWith_iff.mp h.opens
  obtain ⟨c, cs, hcs⟩ := List.exists_cons_of_ne_nil (mt String.toList_eq_nil_iff.mp ht)
  have hend : step .closed c = .past := rfl
  rw [String.append_assoc, isDocstring_iff, String.toList_append, run_append,
    (isDocstring_iff body).mp h, hcs, run_cons, hend, run_past]
  exact nofun

/-- **A text leaves a documentation string open** that it is put into: it has no three double quotes in
    a row, but for those that a backslash takes along. -/
def LeavesOpen (s : String) : Prop := (run (.inside 0) s.toList).isOpen = true

instance (s : String) : Decidable (LeavesOpen s) :=
  inferInstanceAs (Decidable ((run (.inside 0) s.toList).isOpen = true))

theorem leavesOpen_of_not_mem {s : String} (h : '"' ∉ s.toList) : LeavesOpen s := isOpen_run h rfl

/-- **A separator** is made of marks. -/
def Separates (sep : String) : Prop := sep ≠ "" ∧ sep.toList.all isMark = true

instance (sep : String) : Decidable (Separates sep) :=
  inferInstanceAs (Decidable (sep ≠ "" ∧ sep.toList.all isMark = true))

theorem separates_break : Separates "\n" := by decide

theorem separates_margin : Separates "    " := by decide

/-- What is behind a separator is read as if the string began with it, unless the string has ended. -/
theorem run_separated {sep : String} (h : Separates sep) (s t : String) :
    run (.inside 0) (s ++ sep ++ t).toList =
      if LeavesOpen s then run (.inside 0) t.toList else .past := by
  obtain ⟨c, cs, hsep⟩ := List.exists_cons_of_ne_nil (mt String.toList_eq_nil_iff.mp h.1)
  have hmarks := h.2
  rw [hsep, List.all_cons, Bool.and_eq_true] at hmarks
  rw [String.toList_append, String.toList_append, hsep, List.append_assoc, List.cons_append,
    run_append_mark hmarks.1, run_append, run_marks hmarks.2]
  rfl

/-- **Texts with a separator between them** leave a string open where each does. -/
theorem leavesOpen_separated {sep : String} (h : Separates sep) (s t : String) :
    LeavesOpen (s ++ sep ++ t) ↔ LeavesOpen s ∧ LeavesOpen t := by
  rw [LeavesOpen, run_separated h]
  split
  · rename_i hs
    exact (and_iff_right hs).symm
  · rename_i hs
    exact iff_of_false Bool.false_ne_true fun ht => hs ht.1

theorem leavesOpen_behind {sep : String} (h : Separates sep) (t : String) :
    LeavesOpen (sep ++ t) ↔ LeavesOpen t := by
  have hseparated := leavesOpen_separated h "" t
  rw [String.empty_append] at hseparated
  exact hseparated.trans (and_iff_right rfl)

theorem leavesOpen_ahead {sep : String} (h : Separates sep) (s : String) :
    LeavesOpen (s ++ sep) ↔ LeavesOpen s := by
  have hseparated := leavesOpen_separated h s ""
  rw [String.append_empty] at hseparated
  exact hseparated.trans (and_iff_left rfl)

theorem leavesOpen_join {sep : String} (h : Separates sep) (ts : List String) :
    LeavesOpen (join sep ts) ↔ ∀ t ∈ ts, LeavesOpen t := by
  induction ts with
  | nil => exact iff_of_true rfl nofun
  | cons t ts ih =>
    cases ts with
    | nil => rw [join_singleton, List.forall_mem_singleton]
    | cons u ts => rw [join_cons_cons, leavesOpen_separated h, ih, List.forall_mem_cons (a := t)]

/-- Behind a line end nothing is pending, so a text before one need only leave the string open. -/
theorem isDocstring_lines_iff (s : String) :
    IsDocstring ("\"\"\"" ++ s ++ "\n\"\"\"") ↔ LeavesOpen s := by
  have hline : run (.inside 0) (s ++ "\n" ++ "").toList =
      if LeavesOpen s then .inside 0 else .past := run_separated separates_break s ""
  have hclosing : "\n\"\"\"" = "\n" ++ "\"\"\"" := by decide
  have hshape : "\"\"\"" ++ s ++ "\n\"\"\"" = "\"\"\"" ++ (s ++ "\n" ++ "") ++ "\"\"\"" := by
    rw [hclosing, String.append_empty]
    simp only [String.append_assoc]
  rw [hshape, isDocstring_quotes_iff, hline]
  split
  · rename_i hs
    exact iff_of_true rfl hs
  · rename_i hs
    exact iff_of_false nofun hs

/-! ## 2. Texts that are escaped -/

/-- Double quotes that a text ends in. -/
def quotesAtEnd (s : String) : Nat := s.toList.foldl (fun n c => if c = '"' then n + 1 else 0) 0

/-- Quotes on either side of another character are softened apart from each other. -/
theorem softenQuotes_append_of_ne {c : Char} (hc : c ≠ '"') (as bs : List Char) :
    softenQuotes (as ++ c :: bs) = softenQuotes as ++ c :: softenQuotes bs := by
  have hother : ∀ bs, softenQuotes (c :: bs) = c :: softenQuotes bs := by
    intro bs
    rw [softenQuotes]
    rintro _ rfl
    exact absurd rfl hc
  fun_induction softenQuotes as with
  | case1 as ih => rw [List.cons_append, List.cons_append, List.cons_append, softenQuotes, ih]; rfl
  | case2 a as hthree ih =>
    rw [List.cons_append, softenQuotes, ih]
    · rfl
    · -- the other character keeps three quotes from standing in a row where there were none
      rintro ds rfl hds
      match as, hds with
      | [], hds => exact hc (List.cons.inj hds).1
      | [_], hds => exact hc (List.cons.inj (List.cons.inj hds).2).1
      | x :: y :: as, hds =>
        simp only [List.cons_append, List.cons.injEq] at hds
        obtain ⟨rfl, rfl, _⟩ := hds
        exact hthree as rfl rfl
  | case3 => exact hother bs

/-- Of quotes in a row those are left that make no three. -/
theorem run_softenQuotes_replicate : ∀ n,
    run (.inside 0) (softenQuotes (List.replicate n '"')) = .inside (n % 3)
  | 0 => rfl
  | 1 => rfl
  | 2 => rfl
  | n + 3 => by
    rw [Nat.add_mod_right]
    exact run_softenQuotes_replicate n

/-- **An escaped text never ends a documentation string.** What is pending behind it are the quotes at
    its end that make no three; `n` quotes stand before what is still to be escaped. -/
theorem run_escaped (n : Nat) (cs : List Char) :
    run (.inside 0) (softenQuotes (List.replicate n '"' ++ doubleBackslashes cs)) =
      .inside (cs.foldl (fun n c => if c = '"' then n + 1 else 0) n % 3) := by
  induction cs generalizing n with
  | nil =>
    have hnil : doubleBackslashes [] = [] := rfl
    rw [hnil, List.append_nil, run_softenQuotes_replicate]
    rfl
  | cons c cs ih =>
    have hcons : doubleBackslashes (c :: cs) =
        (if c = '\\' then ['\\', '\\'] else [c]) ++ doubleBackslashes cs := List.flatMap_cons
    have hrest := ih 0
    rw [List.replicate_zero, List.nil_append] at hrest
    rw [hcons, List.foldl_cons]
    by_cases hq : c = '"'
    · subst hq
      rw [if_pos rfl, ← ih (n + 1), List.replicate_succ', List.append_assoc]
      rfl
    · rw [if_neg hq, ← hrest]
      by_cases hb : c = '\\'
      · have hne : '\\' ≠ '"' := by decide
        rw [if_pos hb, List.cons_append, List.singleton_append, softenQuotes_append_of_ne hne,
          ← List.nil_append ('\\' :: doubleBackslashes cs), softenQuotes_append_of_ne hne,
          run_append, run_softenQuotes_replicate]
        rfl
      · rw [if_neg hb, List.singleton_append, softenQuotes_append_of_ne hq,
          run_append_mark (by simp [isMark, hq, hb]), run_softenQuotes_replicate]
        rfl

theorem run_escapeDoc (s : String) :
    run (.inside 0) (escapeDoc s).toList = .inside (quotesAtEnd (trim s) % 3) := by
  rw [escapeDoc, String.toList_ofList, quotesAtEnd, trim, String.toList_ofList]
  exact run_escaped 0 _

theorem leavesOpen_escapeDoc (s : String) : LeavesOpen (escapeDoc s) := by
  rw [LeavesOpen, run_escapeDoc]
  rfl

/-! ## 3. Texts at their place -/

section Place

/-- A change of lines that is not seen in any of them is not seen in the text. -/
theorem run_unlines_map {f : String → String}
    (hf : ∀ l, run (.inside 0) (f l).toList = run (.inside 0) l.toList) (ls : List String) :
    run (.inside 0) (unlines (ls.map f)).toList = run (.inside 0) (unlines ls).toList := by
  induction ls with
  | nil => rfl
  | cons l ls ih =>
    cases ls with
    | nil => exact hf l
    | cons m ls =>
      have hopen : LeavesOpen (f l) ↔ LeavesOpen l := by rw [LeavesOpen, LeavesOpen, hf]
      rw [List.map_cons, List.map_cons, unlines_cons_cons, unlines_cons_cons, run_separated separates_break,
        run_separated separates_break, ← List.map_cons, ih, if_congr hopen rfl rfl]

theorem isMark_of_isBlank {c : Char} (h : isBlank c = true) : isMark c = true := by
  rw [isMark, Bool.and_eq_true, decide_eq_true_eq, decide_eq_true_eq]
  constructor
  · rintro rfl
    cases h
  · rintro rfl
    cases h

theorem run_of_allBlank {cs : List Char} (h : allBlank cs = true) :
    run (.inside 0) cs = .inside 0 :=
  run_marks (List.all_eq_true.mpr fun c hc => isMark_of_isBlank (List.all_eq_true.mp h c hc))

theorem run_indentLine (level : Nat) (l : String) :
    run (.inside 0) (indentLine level l).toList = run (.inside 0) l.toList := by
  unfold indentLine
  split
  · rename_i h
    rw [run_of_allBlank h]
    rfl
  · rw [String.toList_append, run_append, run_of_allBlank (allBlank_margin level)]

/-- **Moving lines in** changes nothing in what has been read at the end. -/
theorem run_continued (level : Nat) (s : String) :
    run (.inside 0) (continued level s).toList = run (.inside 0) s.toList := by
  obtain ⟨l, ls, hs⟩ := exists_lines_eq_cons s
  have hlines := unlines_lines s
  rw [continued, hs]
  rw [hs] at hlines
  dsimp only
  cases ls with
  | nil => rw [← hlines]; rfl
  | cons m ls =>
    have hrest := run_unlines_map (run_indentLine level) (m :: ls)
    rw [List.map_cons] at hrest
    rw [← hlines, List.map_cons, unlines_cons_cons, unlines_cons_cons,
      run_separated separates_break, run_separated separates_break, hrest]

/-- **A documentation string is one at its place**, where its other lines are moved in. -/
theorem isDocstring_continued_iff (level : Nat) (s : String) :
    IsDocstring (continued level ("\"\"\"" ++ s)) ↔ IsDocstring ("\"\"\"" ++ s) := by
  have hquotes : InLine "\"\"\"" := by decide
  rw [continued_append_of_inLine hquotes, isDocstring_iff, isDocstring_iff, run_continued]

/-- A documentation string begins a line of its own. -/
theorem indent_docstring (s : String) :
    indent ("\"\"\"" ++ s) = margin 1 ++ continued 1 ("\"\"\"" ++ s) := by
  have hbegins : Begins "\"\"\"" := ⟨'"', ['"', '"'], rfl, rfl⟩
  have hnone : InLine "" := List.not_mem_nil
  have hindented : indentBy 1 ("" ++ ("\"\"\"" ++ s)) = margin 1 ++ "" ++ continued 1 ("\"\"\"" ++ s) :=
    indentBy_append hnone (hbegins.append s)
  rwa [String.empty_append, String.append_empty] at hindented

end Place

end Text

/-! ## 4. Classes -/

namespace Source

/-- A description that is not empty is the first member of its class, between quotes. -/
theorem Class.docstring_of_description {c : Class} {d : String} (hd : c.description = some d)
    (hne : d ≠ "") : c.docstring = some ("\"\"\"" ++ escapeDoc d ++ "\"\"\"") := by
  have hgiven : Function.givenText? (some d) = some d := by simp [Function.givenText?, hne]
  rw [Class.docstring, hd, hgiven]
  rfl

/-- **Documentation of a class**: a description that is not empty stands in front of all members, and
    what is written for it is one documentation string, at its place too, exactly where the quotes that
    the description ends in, white space apart, come in threes. In texts, the 2048 characters from
    U+10A000 stand for lone surrogates. -/
theorem Class.docstring_closes_iff (c : Class) {d : String} (hd : c.description = some d)
    (hne : d ≠ "") : ∃ m rest, c.docstring = some m ∧ c.members = m :: rest ∧
      (IsDocstring m ↔ 3 ∣ quotesAtEnd (trim d)) ∧
      StandsIn c.text (margin 1 ++ continued 1 m) ∧
      (IsDocstring (continued 1 m) ↔ 3 ∣ quotesAtEnd (trim d)) := by
  have hdoc := Class.docstring_of_description hd hne
  have hmembers : c.members = ("\"\"\"" ++ escapeDoc d ++ "\"\"\"") ::
      (c.attributes.toList ++ byRank c.ranked) := by
    rw [Class.members, hdoc]
    rfl
  have hcloses : IsDocstring ("\"\"\"" ++ escapeDoc d ++ "\"\"\"") ↔ 3 ∣ quotesAtEnd (trim d) := by
    rw [isDocstring_quotes_iff, run_escapeDoc, DocScan.inside.injEq, Nat.dvd_iff_mod_eq_zero]
  have hstands := Class.standsIn_member (c := c) (hmembers ▸ List.mem_cons_self)
  rw [String.append_assoc, indent_docstring, ← String.append_assoc] at hstands
  have hplaced : IsDocstring (continued 1 ("\"\"\"" ++ escapeDoc d ++ "\"\"\"")) ↔
      IsDocstring ("\"\"\"" ++ escapeDoc d ++ "\"\"\"") := by
    rw [String.append_assoc, isDocstring_continued_iff]
  exact ⟨_, _, hdoc, hmembers, hcloses, hstands, hplaced.trans hcloses⟩

/-- Model with a description. -/
def describedModel (description : String) : ModelType :=
  { name := "user", description := some description }

/-- Quotes inside, four of them in a row, a backslash and three quotes behind it do no harm. -/
theorem Class.docstring_closes_iff_threes : ∃ c m,
    (describedModel " \"a\"\"\"\" b\\\"\"\" ").toClass ⟨Dialect.aiohttp, [], []⟩ = .ok c ∧
    c.description = some " \"a\"\"\"\" b\\\"\"\" " ∧ " \"a\"\"\"\" b\\\"\"\" " ≠ "" ∧
    c.docstring = some m ∧ IsDocstring m ∧
    StandsIn c.text (margin 1 ++ continued 1 m) ∧ IsDocstring (continued 1 m) := by
  obtain ⟨m, _, hdoc, _, hcloses, hstands, hplaced⟩ :=
    Class.docstring_closes_iff
      { name := "User", inherits := ["BaseModel"], parameters := [modelConfig]
        description := some " \"a\"\"\"\" b\\\"\"\" " } rfl (by decide)
  exact ⟨_, m, rfl, rfl, by decide, hdoc, hcloses.mpr (by decide), hstands, hplaced.mpr (by decide)⟩

/-- A quote at the end of a description closes the documentation of its class too early. -/
theorem Class.exists_docstring_unclosed : ∃ c,
    (describedModel "say \"hi\"").toClass ⟨Dialect.aiohttp, [], []⟩ = .ok c ∧
    c.docstring = some "\"\"\"say \"hi\"\"\"\"" ∧ ¬ IsDocstring "\"\"\"say \"hi\"\"\"\"" :=
  ⟨_, rfl, by decide, by decide⟩

end Source

/-! ## 5. Functions -/

namespace Source.Function

variable {f : Function}

/-- **A function keeps its documentation open**: so does every text in it that is not escaped, those of
    its described parameters, its answer and its errors. -/
structure KeepsOpen (f : Function) : Prop where
  parameters : ∀ p ∈ f.parameters, ∀ d, givenText? p.description = some d →
    LeavesOpen p.name ∧ LeavesOpen ((p.type.map (·.text)).getD "None") ∧ LeavesOpen d
  response : LeavesOpen f.response
  errors : ∀ e ∈ f.errors, LeavesOpen e.className ∧ LeavesOpen e.description

theorem leavesOpen_unlines_cons {title : String} (h : LeavesOpen title) (ls : List String) :
    LeavesOpen (unlines (title :: ls)) ↔ ∀ l ∈ ls, LeavesOpen l := by
  rw [unlines, leavesOpen_join separates_break, List.forall_mem_cons]
  exact and_iff_right h

theorem leavesOpen_argumentSection : (∀ t ∈ f.argumentSection.toList, LeavesOpen t) ↔
    ∀ p ∈ f.parameters, ∀ d, givenText? p.description = some d →
      LeavesOpen p.name ∧ LeavesOpen ((p.type.map (·.text)).getD "None") ∧ LeavesOpen d := by
  have hopening : Separates " (" := by decide
  have hclosing : Separates "): " := by decide
  have htitle : LeavesOpen "Args:" := by decide
  have hlines : ∀ ls : List String,
      (∀ t ∈ (if ls.isEmpty then none else some (unlines ("Args:" :: ls))).toList, LeavesOpen t) ↔
        ∀ l ∈ ls, LeavesOpen l := by
    intro ls
    split
    · rename_i hnone
      rw [List.isEmpty_iff.mp hnone]
      exact iff_of_true nofun nofun
    · rw [Option.toList_some, List.forall_mem_singleton, leavesOpen_unlines_cons htitle]
  unfold argumentSection
  dsimp only
  rw [hlines]
  simp only [List.mem_filterMap, Option.map_eq_some_iff, forall_exists_index, and_imp]
  constructor
  · intro h p hp d hd
    have hline := h _ p hp d hd rfl
    rwa [leavesOpen_separated hclosing, leavesOpen_separated hopening, leavesOpen_behind separates_margin,
      and_assoc] at hline
  · rintro h _ p hp d hd rfl
    rw [leavesOpen_separated hclosing, leavesOpen_separated hopening, leavesOpen_behind separates_margin,
      and_assoc]
    exact h p hp d hd

theorem leavesOpen_responseSection : (∀ t ∈ f.responseSection.toList, LeavesOpen t) ↔
    LeavesOpen f.response := by
  have htitle : LeavesOpen "Returns:" := by decide
  unfold responseSection
  split
  · rw [Option.toList_some, List.forall_mem_singleton, leavesOpen_unlines_cons htitle,
      List.forall_mem_singleton, leavesOpen_behind separates_margin]
  · rename_i hnone
    have hword : f.response = "" ∨ f.response = "None" := by
      simpa [not_and_or, ← or_iff_not_imp_left] using hnone
    refine iff_of_true nofun ?_
    rcases hword with hword | hword <;> rw [hword] <;> decide

theorem leavesOpen_errorSection : (∀ t ∈ f.errorSection.toList, LeavesOpen t) ↔
    ∀ e ∈ f.errors, LeavesOpen e.className ∧ LeavesOpen e.description := by
  have hcolon : Separates ": " := by decide
  have htitle : LeavesOpen "Raises:" := by decide
  unfold errorSection
  split
  · rename_i hnone
    rw [List.isEmpty_iff.mp hnone]
    exact iff_of_true nofun nofun
  · rw [Option.toList_some, List.forall_mem_singleton, leavesOpen_unlines_cons htitle,
      List.forall_mem_map]
    simp only [String.append_assoc, leavesOpen_behind separates_margin]
    simp only [← String.append_assoc, leavesOpen_separated hcolon]

/-- **Documentation of a function** is one documentation string exactly where every text in it that is
    not escaped leaves it open; its description has no part in that. -/
theorem isDocstring_docstring_iff {m : String} (h : f.docstring = some m) :
    IsDocstring m ↔ f.KeepsOpen := by
  have hblank : Separates "\n\n" := by decide
  have hescaped : ∀ t ∈ ((givenText? f.description).map escapeDoc).toList, LeavesOpen t := by
    intro t ht
    obtain ⟨d, _, rfl⟩ := Option.map_eq_some_iff.mp (Option.mem_toList.mp ht)
    exact leavesOpen_escapeDoc d
  unfold docstring at h
  split at h
  · cases h
  · rw [← Option.some.inj h, isDocstring_lines_iff, leavesOpen_join hblank]
    simp only [List.forall_mem_append, leavesOpen_argumentSection, leavesOpen_responseSection,
      leavesOpen_errorSection]
    exact ⟨fun h => ⟨h.1.1.2, h.1.2, h.2⟩, fun h => ⟨⟨⟨hescaped, h.parameters⟩, h.response⟩, h.errors⟩⟩

/-- Documentation begins with the quotes that open it. -/
theorem exists_docstring_eq {m : String} (h : f.docstring = some m) : ∃ s, m = "\"\"\"" ++ s := by
  unfold docstring at h
  split at h
  · cases h
  · rw [← Option.some.inj h, String.append_assoc]
    exact ⟨_, rfl⟩

/-- Documentation stands in its function, moved in by one level. -/
theorem standsIn_docstring {m : String} (h : f.docstring = some m) :
    StandsIn f.text (margin 1 ++ continued 1 m) := by
  obtain ⟨s, rfl⟩ := exists_docstring_eq h
  have hquotes : "\"\"\"" ≠ "" := by decide
  have hpart : "\"\"\"" ++ s ∈ [f.docstring.getD "", (f.code.map (·.text)).getD ""] := by
    rw [h]
    exact List.mem_cons_self
  rw [← indent_docstring]
  exact standsIn_part hpart (append_ne_empty hquotes s)

/-- A function that raises errors is documented. -/
theorem exists_docstring (h : f.errors.isEmpty = false) : ∃ m, f.docstring = some m := by
  unfold docstring
  rw [h, Bool.and_false, if_neg Bool.false_ne_true]
  exact ⟨_, rfl⟩

/-- At its place documentation is read as before it was moved in. -/
theorem isDocstring_continued_docstring_iff {m : String} (h : f.docstring = some m) :
    IsDocstring (continued 1 m) ↔ f.KeepsOpen := by
  rw [← isDocstring_docstring_iff h]
  obtain ⟨s, rfl⟩ := exists_docstring_eq h
  exact isDocstring_continued_iff 1 s

/-- **Documentation of a function**: what is written for it is one documentation string, at its place
    too, exactly where the texts in it that are not escaped bring no end of it. In texts, the 2048
    characters from U+10A000 stand for lone surrogates. -/
theorem documentation_closes_iff (f : Function) {m : String} (h : f.docstring = some m) :
    (IsDocstring m ↔ f.KeepsOpen) ∧ StandsIn f.text (margin 1 ++ continued 1 m) ∧
      (IsDocstring (continued 1 m) ↔ f.KeepsOpen) :=
  ⟨isDocstring_docstring_iff h, standsIn_docstring h, isDocstring_continued_docstring_iff h⟩

/-- Function with descriptions of itself and of its parameter. -/
def describedFunction (own parameter : String) : Function :=
  { name := "search"
    parameters := [{ name := "self" },
      { name := "q", type := some (.name "str"), description := some parameter }]
    response := "List[models.User]"
    description := some own
    errors := [⟨"errors.FailedRequest", "unexpected response code, expected: 200"⟩] }

/-- Quotes in a description and at its end, and three that a backslash takes along, do no harm. -/
theorem documentation_closes_iff_escaped : ∃ m,
    (describedFunction "say \"\"\"hi\"" "as \\\"\"\" or \"q\"").docstring = some m ∧ IsDocstring m ∧
    StandsIn (describedFunction "say \"\"\"hi\"" "as \\\"\"\" or \"q\"").text
      (margin 1 ++ continued 1 m) ∧ IsDocstring (continued 1 m) := by
  have hkeeps : (describedFunction "say \"\"\"hi\"" "as \\\"\"\" or \"q\"").KeepsOpen := by
    refine ⟨fun p hp d hd => ?_, by decide, by decide⟩
    rcases List.mem_cons.mp hp with rfl | hp
    · cases hd
    · obtain rfl := List.mem_singleton.mp hp
      obtain rfl := Option.some.inj hd
      decide
  obtain ⟨hcloses, hstands, hplaced⟩ :=
    documentation_closes_iff (describedFunction "say \"\"\"hi\"" "as \\\"\"\" or \"q\"") rfl
  exact ⟨_, rfl, hcloses.mpr hkeeps, hstands, hplaced.mpr hkeeps⟩

/-- Resource whose one operation describes its parameter. -/
def describing (description : String) : Resource :=
  { type := "user"
    plural := "users"
    operations :=
      [{ verb := .get
         path := "/users"
         parameters := [{ name := "q", description := some description }] }] }

/-- Three quotes in the description of a parameter end the documentation of its method, and a line of
    the description is left between two strings, where it is run. -/
theorem exists_line_injected : ∃ m before after,
    (ClientMethod.ofResource ⟨Dialect.aiohttp, [], []⟩
      (describing "\"\"\"\nimport os\n\"\"\"")).outcome = .ok [m] ∧
    m.implementation.docstring = some (before ++ ("\nimport os\n" ++ after)) ∧
    IsDocstring before ∧ IsDocstring after ∧ ¬ IsDocstring (before ++ ("\nimport os\n" ++ after)) := by
  have hbefore : IsDocstring "\"\"\"GET /users\n\nArgs:\n    q (str): \"\"\"" := by decide
  exact ⟨_, _, "\"\"\"\n\nRaises:\n    errors.FailedRequest: unexpected response code, expected: \n\"\"\"",
    rfl, rfl, hbefore, by decide, hbefore.not_append (by decide)⟩

end Source.Function

/-! ## 6. Methods -/

namespace Endpoint

variable {r : Registry} {resource : Resource} {o : Operation} {e : Endpoint}

theorem description_of_argumentOf {p : Parameter} {l : Location} {a : Argument}
    (h : argumentOf r p l = .ok a) : a.description = p.description := by
  obtain ⟨_, _, h⟩ := bind_eq_ok.mp h
  obtain ⟨_, _, h⟩ := bind_eq_ok.mp h
  rw [pure_eq_ok] at h
  rw [← h]

theorem description_of_bodyOf {s : String} {a : Argument} (h : bodyOf r s = .ok a) :
    a.description = none := by
  obtain ⟨_, _, h⟩ := bind_eq_ok.mp h
  rw [pure_eq_ok] at h
  rw [← h]

/-- What is declared for a placeholder is nothing, or a parameter. -/
theorem description_declaredOr {ps : List Parameter} {name d : String}
    (h : (declaredOr ps name).description = some d) : ∃ p ∈ ps, p.description = some d := by
  unfold declaredOr at h
  cases hf : ps.find? (·.name = name) with
  | none =>
    rw [hf] at h
    cases h
  | some p =>
    rw [hf] at h
    exact ⟨p, List.mem_of_find?_eq_some hf, h⟩

/-- **The descriptions of the arguments are those of the declared parameters.** -/
theorem BuiltFrom.described_iff (h : BuiltFrom r resource o e) {d : String} :
    (∃ a ∈ e.arguments, a.description = some d) ↔ ∃ p ∈ o.parameters, p.description = some d := by
  constructor
  · rintro ⟨a, ha, hd⟩
    rcases List.mem_append.mp (h.perm_arguments.mem_iff.mp ha) with ha | ha
    · obtain ⟨s, _, hs⟩ := h.exists_bodyOf (Option.mem_toList.mp ha)
      rw [description_of_bodyOf hs] at hd
      cases hd
    · obtain ⟨rest, hps, _, harr⟩ := h.exists_arranged
      rw [hps, List.mem_append] at ha
      rcases ha with ha | ha
      · obtain ⟨name, _, hname⟩ := exists_left_of_forall₂ harr.path ha
        rw [description_of_argumentOf hname] at hd
        exact description_declaredOr hd
      · obtain ⟨p, hp, hpa⟩ := exists_left_of_forall₂ harr.rest ha
        rw [description_of_argumentOf hpa] at hd
        exact ⟨p, (List.mem_filter.mp hp).1, hd⟩
  · rintro ⟨p, hp, hd⟩
    obtain ⟨l, a, ha, hpa⟩ := h.exists_argument hp
    exact ⟨a, h.perm_arguments.mem_iff.mpr (List.mem_append_right _ ha),
      (description_of_argumentOf hpa).trans hd⟩

end Endpoint

namespace ClientMethod

variable {r : Registry} {resource : Resource} {o : Operation} {m : ClientMethod}

theorem leavesOpen_wrap {w t : String} (hw : LeavesOpen w) (ht : LeavesOpen t) :
    LeavesOpen (w ++ "[" ++ t ++ "]") := by
  have hopening : Separates "[" := by decide
  have hclosing : Separates "]" := by decide
  rw [leavesOpen_ahead hclosing, leavesOpen_separated hopening]
  exact ⟨hw, ht⟩

theorem leavesOpen_of_isWordChar {s : String} (h : ∀ c ∈ s.toList, isWordChar c = true) :
    LeavesOpen s :=
  leavesOpen_of_not_mem fun hm => absurd (h _ hm) (by decide)

theorem leavesOpen_pascalCase (name : String) : LeavesOpen (pascalCase name) :=
  leavesOpen_of_isWordChar fun _ => isWordChar_of_mem_pascalCase

/-- No type ends a documentation string, however it is put together. -/
theorem leavesOpen_typeOf (hm : LeavesOpen r.settings.modelsNamespace) (ref : TypeRef) :
    LeavesOpen (r.typeOf ref).text := by
  have hdot : Separates "." := by decide
  have hcomma : Separates ", " := by decide
  induction ref with
  | primitive p =>
    have hprimitive : LeavesOpen p.type.text := by cases p <;> decide
    exact hprimitive
  | named kind name =>
    show LeavesOpen (r.className name true)
    unfold Registry.className
    split
    · exact (leavesOpen_separated hdot _ _).mpr ⟨hm, leavesOpen_pascalCase name⟩
    · exact leavesOpen_pascalCase name
  | list ref ih => exact leavesOpen_wrap (w := "List") (by decide) ih
  | map ref ih =>
    have hkey : LeavesOpen "str" := by decide
    exact leavesOpen_wrap (w := "Dict") (by decide) ((leavesOpen_separated hcomma _ _).mpr ⟨hkey, ih⟩)
  | option ref ih => exact leavesOpen_wrap (w := "Optional") (by decide) ih

theorem leavesOpen_integerText (n : Int) : LeavesOpen (Number.integerText n) := by
  have hsign : Separates "-" := by decide
  have hdigits : LeavesOpen (toString n.natAbs) := leavesOpen_of_not_mem fun hm =>
    absurd (Number.isDigit_of_mem_toString hm) (by decide)
  unfold Number.integerText
  split
  · exact (leavesOpen_behind hsign _).mpr hdigits
  · exact hdigits

theorem leavesOpen_returnTypeOf {t : DispatchTable} (h : ∀ d ∈ successTypes t, LeavesOpen d) :
    LeavesOpen (returnTypeOf t).text := by
  have hcomma : Separates ", " := by decide
  unfold returnTypeOf
  split
  · decide
  · rename_i d ds hs
    have hresult : LeavesOpen
        (if ds.isEmpty then TypeExpr.name d else .union ((d :: ds).map .name)).text := by
      split
      · exact h d (hs ▸ List.mem_cons_self)
      · refine leavesOpen_wrap (w := "Union") (by decide) ?_
        rw [TypeExpr.texts_map_name, leavesOpen_join hcomma, ← hs]
        exact h
    dsimp only
    split
    · exact leavesOpen_wrap (w := "Optional") (by decide) hresult
    · exact hresult

theorem leavesOpen_errorName (he : LeavesOpen r.settings.errorsNamespace) {name : String}
    (h : LeavesOpen name) : LeavesOpen (DispatchTable.errorName r.settings name) := by
  have hdot : Separates "." := by decide
  exact (leavesOpen_separated hdot _ _).mpr ⟨he, h⟩

/-- The error of a declared response is named by a class of the errors module. -/
theorem leavesOpen_of_answers (he : LeavesOpen r.settings.errorsNamespace) {a : Response} {code : Int}
    {d : Option String} {name : String} (h : DispatchTable.Answers r a (.failure code d name)) :
    LeavesOpen name := by
  have hresponse : Separates "Response" := by decide
  cases h with
  | failureUnit _ _ => exact leavesOpen_errorName he (by decide)
  | failure _ _ _ =>
    exact leavesOpen_errorName he ((leavesOpen_ahead hresponse _).mpr (leavesOpen_pascalCase _))

theorem leavesOpen_documentedErrors (he : LeavesOpen r.settings.errorsNamespace)
    (hm : BelongsTo r resource o m) {x : Source.RaisedError}
    (hx : x ∈ documentedErrors r.settings m.dispatch) :
    LeavesOpen x.className ∧ LeavesOpen x.description := by
  have hcode : Separates "HTTP " := by decide
  have hcomma : Separates ", " := by decide
  have hexpected : Separates "unexpected response code, expected: " := by decide
  rcases List.mem_append.mp hx with hx | hx
  · obtain ⟨b, hb, hbx⟩ := List.mem_filterMap.mp hx
    split at hbx
    · rename_i code d name
      rw [← Option.some.inj hbx]
      refine ⟨?_, (leavesOpen_behind hcode _).mpr (leavesOpen_integerText code)⟩
      rcases hm.answers_of_mem hb with ⟨a, _, ha⟩ | ⟨s, hs⟩
      · exact leavesOpen_of_answers he ha
      · cases hs
    · cases hbx
  · rw [List.mem_singleton.mp hx]
    refine ⟨leavesOpen_errorName he (by decide), (leavesOpen_behind hexpected _).mpr ?_⟩
    refine (leavesOpen_join hcomma _).mpr fun t ht => ?_
    obtain ⟨n, _, rfl⟩ := List.mem_map.mp ht
    exact leavesOpen_integerText n

/-- The views of a method keep their documentation open where the descriptions of its operation's
    parameters do: names, types and errors are made of letters, digits and marks. -/
theorem keepsOpen_function_iff (hmodels : LeavesOpen r.settings.modelsNamespace)
    (herrors : LeavesOpen r.settings.errorsNamespace) (hm : BelongsTo r resource o m)
    (decorators : List String) (code : Option Source.Block) :
    (m.function decorators code).KeepsOpen ↔
      ∀ p ∈ o.parameters, ∀ d, p.description = some d → LeavesOpen d := by
  have hraised : ∀ x ∈ documentedErrors r.settings m.dispatch,
      LeavesOpen x.className ∧ LeavesOpen x.description := fun x => leavesOpen_documentedErrors herrors hm
  have hsuccess : ∀ d ∈ successTypes m.dispatch, LeavesOpen d := by
    intro d hd
    obtain ⟨b, hb, hs⟩ := List.mem_map.mp (mem_successTypes.mp hd)
    obtain ⟨t, ht, rfl⟩ := hm.names_datatype hb (datatype?_of_successType? hs)
    obtain ⟨ref, _, rfl⟩ := ht.refers
    exact leavesOpen_typeOf hmodels ref
  obtain ⟨e, he, hm⟩ := hm
  obtain ⟨t, _, _, rfl⟩ := ofEndpoint_eq_ok.mp hm
  constructor
  · intro h p hp d hd
    obtain ⟨a, ha, had⟩ := he.described_iff.mpr ⟨p, hp, hd⟩
    by_cases hempty : d = ""
    · rw [hempty]
      decide
    · have hgiven : Source.Function.givenText? (parameterOf a).description = some d := by
        rw [show (parameterOf a).description = some d from had]
        simp [Source.Function.givenText?, hempty]
      exact (h.parameters (parameterOf a) (List.mem_cons_of_mem _ (List.mem_map_of_mem ha)) d hgiven).2.2
  · intro h
    refine ⟨fun p hp d hd => ?_, leavesOpen_returnTypeOf hsuccess, hraised⟩
    rcases List.mem_cons.mp hp with rfl | hp
    · cases hd
    · obtain ⟨a, ha, rfl⟩ := List.mem_map.mp hp
      obtain ⟨hname, _⟩ := of_mem_arguments he ha
      have htype : LeavesOpen a.type.type.text := text_of_mem_arguments he ha ▸ leavesOpen_typeOf hmodels a.ref
      have hargument : LeavesOpen a.argName := by
        rw [hname]
        exact leavesOpen_of_isWordChar fun c => (padded_argumentName a.name).isWordChar_of_mem
      obtain ⟨p, hp, hpd⟩ := he.described_iff.mp ⟨a, ha, (Option.filter_eq_some_iff.mp hd).1⟩
      exact ⟨hargument, htype, h p hp d hpd⟩

/-- **Documentation of a method**: both views have one, and it is one documentation string exactly
    where the descriptions of its operation's parameters bring no end of it. -/
theorem isDocstring_view_iff (hmodels : LeavesOpen r.settings.modelsNamespace)
    (herrors : LeavesOpen r.settings.errorsNamespace) (hm : BelongsTo r resource o m)
    {f : Source.Function} (hf : f ∈ [m.interface, m.implementation]) :
    ∃ d, f.docstring = some d ∧
      (IsDocstring d ↔ ∀ p ∈ o.parameters, ∀ t, p.description = some t → LeavesOpen t) := by
  have hraises : m.errors.isEmpty = false := by
    obtain ⟨e, _, hm⟩ := hm
    obtain ⟨t, _, _, rfl⟩ := ofEndpoint_eq_ok.mp hm
    exact List.isEmpty_eq_false_iff.mpr (List.append_ne_nil_of_right_ne_nil _ (List.cons_ne_nil _ _))
  have hview : ∃ decorators code, f = m.function decorators code := by
    rcases List.mem_cons.mp hf with rfl | hf
    · exact ⟨_, _, rfl⟩
    · exact ⟨_, _, List.mem_singleton.mp hf⟩
  obtain ⟨decorators, code, rfl⟩ := hview
  obtain ⟨d, hd⟩ := Source.Function.exists_docstring (f := m.function decorators code) hraises
  exact ⟨d, hd, (Source.Function.isDocstring_docstring_iff hd).trans
    (keepsOpen_function_iff hmodels herrors hm decorators code)⟩

end ClientMethod

end ClientGen
