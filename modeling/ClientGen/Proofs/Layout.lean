import ClientGen.Proofs.Literals
import ClientGen.Source.Block

/-!
# Texts inside generated code

Code is put together from the inside out: a statement is joined with its neighbours and moved in, the
result is joined and moved in again, and tabs are written as spaces on the way. A statement is found
again in the code, but what it holds has changed where it had line ends and tabs of its own. This file
fixes

* `seam`, `lines_append`: where two texts meet, the last line of one goes on with the first of the other;
* `StandsIn`: a text stands in another one line by line, which joining, moving in and writing tabs as
  spaces all keep;
* `placed`: a text at its place in the code, however many steps took it there;
* `continued`, `shifted`, `indentBy_append_quoted`: what moving in does behind the beginning of a line;
* `solid`, `solid_shifted`: layout changes white space only;
* `embedded`, `plain?_embedded_iff`: the texts that a literal in the code stands for, and `Embeds`: where
  the literal stands.
-/

namespace ClientGen.Text

/-! ## 1. Lines of joined texts -/

/-- Lines with others behind them: the last one goes on with the first of the others. -/
def seam : List String → List String → List String
  | [l], m :: ms => (l ++ m) :: ms
  | l :: ls, ms => l :: seam ls ms
  | [], ms => ms

theorem seam_singleton (l m : String) (ms : List String) : seam [l] (m :: ms) = (l ++ m) :: ms := rfl

theorem seam_cons_cons (l l' : String) (ls ms : List String) :
    seam (l :: l' :: ls) ms = l :: seam (l' :: ls) ms := by
  cases ms <;> rfl

/-- Tells whether a text is part of one line. -/
def InLine (s : String) : Prop := '\n' ∉ s.toList

instance (s : String) : Decidable (InLine s) := inferInstanceAs (Decidable ('\n' ∉ s.toList))

theorem inLine_append {s t : String} : InLine (s ++ t) ↔ InLine s ∧ InLine t := by
  rw [InLine, String.toList_append, List.mem_append, not_or]
  rfl

theorem inLine_of_mem_lines {s l : String} (h : l ∈ lines s) : InLine l := by
  obtain ⟨cs, hcs, rfl⟩ := List.mem_map.mp h
  rw [InLine, String.toList_ofList]
  exact not_mem_of_mem_splitOn hcs

theorem exists_lines_eq_cons (s : String) : ∃ l ls, lines s = l :: ls := by
  refine List.exists_cons_of_ne_nil fun h => ?_
  exact splitOn_ne_nil '\n' s.toList (List.map_eq_nil_iff.mp h)

theorem lines_of_inLine {s : String} (h : InLine s) : lines s = [s] := by
  rw [lines, pieces, splitOn_of_not_mem h, List.map_singleton, String.ofList_toList]

/-- The lines of a text on lines of their own are the text. -/
theorem unlines_lines (s : String) : unlines (lines s) = s := join_pieces '\n' s

theorem inLine_iff_lines {s : String} : InLine s ↔ (lines s).length = 1 := by
  constructor
  · intro h
    rw [lines_of_inLine h]
    rfl
  · intro h
    obtain ⟨l, hl⟩ := List.length_eq_one_iff.mp h
    have hs : l = s := by
      have hjoined := unlines_lines s
      rwa [hl] at hjoined
    have hm : s ∈ lines s := by
      rw [hl, hs]
      exact List.mem_singleton_self s
    exact inLine_of_mem_lines hm

/-- Texts on both sides of a line end keep their lines. -/
theorem lines_break (s t : String) : lines (s ++ "\n" ++ t) = lines s ++ lines t :=
  pieces_append '\n' s t

theorem unlines_cons_cons (l m : String) (ls : List String) :
    unlines (l :: m :: ls) = l ++ "\n" ++ unlines (m :: ls) :=
  join_cons_cons "\n" l m ls

/-- Texts that are part of one line each are the lines again when they stand one a line. -/
theorem lines_unlines {ls : List String} (hne : ls ≠ []) (h : ∀ l ∈ ls, InLine l) :
    lines (unlines ls) = ls := pieces_join hne h

/-- Texts one a line have the lines of each. -/
theorem lines_unlines_flatMap {ls : List String} (hne : ls ≠ []) :
    lines (unlines ls) = ls.flatMap lines := by
  induction ls with
  | nil => exact absurd rfl hne
  | cons l ls ih =>
    cases ls with
    | nil => exact (List.flatMap_singleton lines l).symm
    | cons m ls =>
      rw [unlines_cons_cons, lines_break, ih (List.cons_ne_nil m ls)]
      rfl

theorem unlines_seam {ls ms : List String} (hls : ls ≠ []) (hms : ms ≠ []) :
    unlines (seam ls ms) = unlines ls ++ unlines ms := by
  obtain ⟨m, ms, rfl⟩ := List.exists_cons_of_ne_nil hms
  induction ls with
  | nil => exact absurd rfl hls
  | cons l ls ih =>
    cases ls with
    | nil => exact foldl_append_left "\n" l m ms
    | cons l' ls =>
      have ih := ih (List.cons_ne_nil l' ls)
      obtain ⟨n, ns, hn⟩ : ∃ n ns, seam (l' :: ls) (m :: ms) = n :: ns := by
        cases ls <;> exact ⟨_, _, rfl⟩
      rw [hn] at ih
      rw [seam_cons_cons, hn, unlines_cons_cons, unlines_cons_cons, ih, ← String.append_assoc]

theorem inLine_of_mem_seam {ls ms : List String} (hls : ∀ l ∈ ls, InLine l)
    (hms : ∀ m ∈ ms, InLine m) : ∀ l ∈ seam ls ms, InLine l := by
  induction ls with
  | nil =>
    cases ms <;> exact hms
  | cons l ls ih =>
    obtain ⟨hl, hls⟩ := List.forall_mem_cons.mp hls
    cases ls with
    | cons l' ls =>
      rw [seam_cons_cons]
      exact List.forall_mem_cons.mpr ⟨hl, ih hls⟩
    | nil =>
      cases ms with
      | nil => exact List.forall_mem_cons.mpr ⟨hl, hms⟩
      | cons m ms =>
        obtain ⟨hm, hms⟩ := List.forall_mem_cons.mp hms
        exact List.forall_mem_cons.mpr ⟨inLine_append.mpr ⟨hl, hm⟩, hms⟩

/-- **Lines of joined texts**: the last line of the one goes on with the first of the other. -/
theorem lines_append (s t : String) : lines (s ++ t) = seam (lines s) (lines t) := by
  obtain ⟨l, ls, hs⟩ := exists_lines_eq_cons s
  obtain ⟨m, ms, ht⟩ := exists_lines_eq_cons t
  have hne : seam (lines s) (lines t) ≠ [] := by
    rw [hs, ht]
    cases ls <;> exact List.cons_ne_nil _ _
  have hline := inLine_of_mem_seam (fun _ => inLine_of_mem_lines (s := s))
    fun _ => inLine_of_mem_lines (s := t)
  -- both sides are the lines of one text, since no line of the seam has a line end inside
  have hboth := unlines_seam (hs ▸ List.cons_ne_nil l ls) (ht ▸ List.cons_ne_nil m ms)
  rw [unlines_lines, unlines_lines] at hboth
  rw [← hboth, lines_unlines hne hline]

/-! ## 2. Steps that work line by line -/

/-- What a step makes of a text line by line has the lines that it makes. -/
theorem lines_unlines_map {f : String → String} (hf : ∀ l, InLine l → InLine (f l)) (s : String) :
    lines (unlines ((lines s).map f)) = (lines s).map f := by
  obtain ⟨l, ls, hs⟩ := exists_lines_eq_cons s
  refine lines_unlines (by simp [hs]) fun m hm => ?_
  obtain ⟨l, hl, rfl⟩ := List.mem_map.mp hm
  exact hf l (inLine_of_mem_lines hl)

theorem toList_margin (level : Nat) : (margin level).toList = List.replicate (4 * level) ' ' :=
  String.toList_ofList

theorem eq_of_mem_margin {level : Nat} {c : Char} (h : c ∈ (margin level).toList) : c = ' ' := by
  rw [toList_margin] at h
  exact List.eq_of_mem_replicate h

theorem margin_append_margin (a b : Nat) : margin a ++ margin b = margin (a + b) := by
  rw [← String.toList_inj, String.toList_append, toList_margin, toList_margin, toList_margin,
    List.replicate_append_replicate, Nat.mul_add]

theorem inLine_margin (level : Nat) : InLine (margin level) :=
  fun h => absurd (eq_of_mem_margin h) (by decide)

theorem inLine_indentLine (level : Nat) {l : String} (h : InLine l) : InLine (indentLine level l) := by
  unfold indentLine
  split
  · exact List.not_mem_nil
  · exact inLine_append.mpr ⟨inLine_margin level, h⟩

theorem lines_indentBy (level : Nat) (s : String) :
    lines (indentBy level s) = (lines s).map (indentLine level) :=
  lines_unlines_map (fun _ => inLine_indentLine level) s

/-- What a character becomes where tabs are written as spaces. -/
theorem mem_expandTabs {s : String} {c : Char} : c ∈ (expandTabs s).toList ↔
    (c ∈ s.toList ∧ c ≠ '\t') ∨ ('\t' ∈ s.toList ∧ c = ' ') := by
  rw [expandTabs, String.toList_ofList, List.mem_flatMap]
  constructor
  · rintro ⟨d, hd, hc⟩
    split at hc
    · rename_i htab
      exact .inr ⟨htab ▸ hd, by simpa using hc⟩
    · rename_i htab
      rw [List.mem_singleton.mp hc]
      exact .inl ⟨hd, htab⟩
  · rintro (⟨hc, htab⟩ | ⟨htab, rfl⟩)
    · exact ⟨c, hc, by simp [htab]⟩
    · exact ⟨'\t', htab, by simp⟩

theorem inLine_expandTabs {s : String} (h : InLine s) : InLine (expandTabs s) := by
  intro hm
  rcases mem_expandTabs.mp hm with ⟨hm, _⟩ | ⟨_, hc⟩
  · exact h hm
  · cases hc

theorem tab_not_mem_expandTabs (s : String) : '\t' ∉ (expandTabs s).toList := by
  intro hm
  rcases mem_expandTabs.mp hm with ⟨_, hc⟩ | ⟨_, hc⟩
  · exact hc rfl
  · cases hc

theorem expandTabs_ne_empty {s : String} (h : s ≠ "") : expandTabs s ≠ "" := by
  obtain ⟨c, cs, hs⟩ := List.exists_cons_of_ne_nil (mt String.toList_eq_nil_iff.mp h)
  intro he
  have hm : c ∈ s.toList := hs ▸ List.mem_cons_self
  have hnone : ∀ d, d ∉ (expandTabs s).toList := fun d hd => by rw [he] at hd; cases hd
  by_cases htab : c = '\t'
  · exact hnone ' ' (mem_expandTabs.mpr (.inr ⟨htab ▸ hm, rfl⟩))
  · exact hnone c (mem_expandTabs.mpr (.inl ⟨hm, htab⟩))

/-- A text without tabs is left alone. -/
theorem expandTabs_of_not_mem {s : String} (h : '\t' ∉ s.toList) : expandTabs s = s := by
  have hall : ∀ c ∈ s.toList, (if c = '\t' then [' ', ' ', ' ', ' '] else [c]) = [c] :=
    fun c hc => if_neg fun (he : c = '\t') => h (he ▸ hc)
  rw [expandTabs, List.flatMap_def, List.map_congr_left hall, ← List.flatMap_def,
    List.flatMap_singleton', String.ofList_toList]

theorem expandTabs_expandTabs (s : String) : expandTabs (expandTabs s) = expandTabs s :=
  expandTabs_of_not_mem (tab_not_mem_expandTabs s)

theorem expandTabs_join {sep : String} (h : '\t' ∉ sep.toList) (ss : List String) :
    expandTabs (join sep ss) = join sep (ss.map expandTabs) := by
  induction ss with
  | nil => rfl
  | cons s ss ih =>
    cases ss with
    | nil => rfl
    | cons t ss =>
      rw [join_cons_cons, expandTabs_append, expandTabs_append, ih, expandTabs_of_not_mem h]
      exact (join_cons_cons sep (expandTabs s) (expandTabs t) (ss.map expandTabs)).symm

theorem expandTabs_unlines (ls : List String) : expandTabs (unlines ls) = unlines (ls.map expandTabs) :=
  expandTabs_join (by decide) ls

theorem lines_expandTabs (s : String) : lines (expandTabs s) = (lines s).map expandTabs := by
  have h := lines_unlines_map (fun _ => inLine_expandTabs) s
  rwa [← expandTabs_unlines, unlines_lines] at h

/-! ## 3. Texts that stand in others -/

/-- **A text stands in another one**: its lines are some of the other's, one behind another. -/
def StandsIn (text part : String) : Prop := lines part <:+: lines text

namespace StandsIn

variable {text part s : String}

theorem refl (s : String) : StandsIn s s := List.infix_rfl

theorem trans (h : StandsIn text part) (hp : StandsIn part s) : StandsIn text s :=
  List.IsInfix.trans hp h

theorem behind (before text : String) : StandsIn (before ++ "\n" ++ text) text := by
  rw [StandsIn, lines_break]
  exact (List.suffix_append _ _).isInfix

theorem ahead (text after : String) : StandsIn (text ++ "\n" ++ after) text := by
  rw [StandsIn, lines_break]
  exact (List.prefix_append _ _).isInfix

theorem between (opening text closing : String) :
    StandsIn (opening ++ "\n" ++ text ++ "\n" ++ closing) text :=
  (ahead _ closing).trans (behind opening text)

protected theorem indentBy (h : StandsIn text part) (level : Nat) :
    StandsIn (indentBy level text) (indentBy level part) := by
  rw [StandsIn, lines_indentBy, lines_indentBy]
  exact h.map _

protected theorem expandTabs (h : StandsIn text part) : StandsIn (expandTabs text) (expandTabs part) := by
  rw [StandsIn, lines_expandTabs, lines_expandTabs]
  exact h.map _

/-- Only a text that is not empty has a part that is not. -/
theorem ne_empty (h : StandsIn text part) (hp : part ≠ "") : text ≠ "" := by
  rintro rfl
  obtain ⟨l, ls, hpart⟩ := exists_lines_eq_cons part
  have hle := List.IsInfix.length_le h
  have hone : (lines "").length = 1 := rfl
  rw [hpart, hone, List.length_cons] at hle
  have hsame : lines part = lines "" :=
    List.IsInfix.eq_of_length h (by rw [hpart, hone, List.length_cons]; omega)
  exact hp (pieces_injective '\n' hsame)

/-- A separator puts what it separates on lines of their own. -/
def BreaksLines (sep : String) : Prop := (∃ rest, sep = "\n" ++ rest) ∧ ∃ rest, sep = rest ++ "\n"

theorem breaksLines_break : BreaksLines "\n" := ⟨⟨"", rfl⟩, "", rfl⟩

theorem breaksLines_blank : BreaksLines "\n\n" := ⟨⟨"\n", rfl⟩, "\n", rfl⟩

theorem breaksLines_blanks : BreaksLines "\n\n\n" := ⟨⟨"\n\n", rfl⟩, "\n\n", rfl⟩

theorem of_mem_join {sep : String} (hsep : BreaksLines sep) {ss : List String} (h : s ∈ ss) :
    StandsIn (join sep ss) s := by
  obtain ⟨⟨after, hafter⟩, before, hbefore⟩ := hsep
  induction ss with
  | nil => exact absurd h List.not_mem_nil
  | cons t ss ih =>
    cases ss with
    | nil =>
      rw [List.mem_singleton.mp h]
      exact refl t
    | cons u ss =>
      rw [join_cons_cons]
      rcases List.mem_cons.mp h with rfl | h
      · rw [hafter, ← String.append_assoc, String.append_assoc]
        exact ahead s _
      · rw [hbefore, ← String.append_assoc]
        exact (behind _ _).trans (hbefore ▸ ih h)

theorem of_mem_unlines {ss : List String} (h : s ∈ ss) : StandsIn (unlines ss) s :=
  of_mem_join breaksLines_break h

theorem of_mem_joinTexts {sep : String} (hsep : BreaksLines sep) {ss : List String} (h : s ∈ ss)
    (hne : s ≠ "") : StandsIn (Source.Block.joinTexts sep ss) s :=
  of_mem_join hsep (List.mem_filter.mpr ⟨h, decide_eq_true hne⟩)

end StandsIn

theorem joinTexts_eq_join {sep : String} {parts : List String} (h : ∀ t ∈ parts, t ≠ "") :
    Source.Block.joinTexts sep parts = join sep parts :=
  congrArg (join sep) (List.filter_eq_self.mpr fun t ht => decide_eq_true (h t ht))

/-! ## 4. Places in the code -/

theorem allBlank_append (s t : String) :
    allBlank (s ++ t).toList = (allBlank s.toList && allBlank t.toList) := by
  rw [String.toList_append, allBlank, List.all_append]
  rfl

theorem allBlank_margin (level : Nat) : allBlank (margin level).toList = true := by
  refine List.all_eq_true.mpr fun c hc => ?_
  rw [eq_of_mem_margin hc]
  rfl

theorem allBlank_margin_append (level : Nat) (s : String) :
    allBlank (margin level ++ s).toList = allBlank s.toList := by
  rw [allBlank_append, allBlank_margin, Bool.true_and]

/-- Tabs are white space, and so are the spaces that are written for them. -/
theorem allBlank_expandTabs (s : String) : allBlank (expandTabs s).toList = allBlank s.toList := by
  rw [Bool.eq_iff_iff, allBlank, allBlank, List.all_eq_true, List.all_eq_true]
  constructor
  · intro h c hc
    by_cases htab : c = '\t'
    · rw [htab]
      rfl
    · exact h c (mem_expandTabs.mpr (.inl ⟨hc, htab⟩))
  · intro h c hc
    rcases mem_expandTabs.mp hc with ⟨hc, _⟩ | ⟨_, rfl⟩
    · exact h c hc
    · rfl

theorem expandTabs_margin (level : Nat) : expandTabs (margin level) = margin level :=
  expandTabs_of_not_mem fun h => absurd (eq_of_mem_margin h) (by decide)

theorem expandTabs_indentLine (level : Nat) (l : String) :
    expandTabs (indentLine level l) = indentLine level (expandTabs l) := by
  unfold indentLine
  rw [allBlank_expandTabs]
  split
  · rfl
  · rw [expandTabs_append, expandTabs_margin]

theorem indentLine_indentLine (a b : Nat) (l : String) :
    indentLine a (indentLine b l) = indentLine (a + b) l := by
  by_cases h : allBlank l.toList = true
  · have hl : ∀ level, indentLine level l = "" := fun _ => if_pos h
    rw [hl b, hl (a + b)]
    rfl
  · have hl : ∀ level, indentLine level l = margin level ++ l := fun _ => if_neg h
    rw [hl b, hl (a + b), indentLine, allBlank_margin_append, if_neg h, ← margin_append_margin,
      String.append_assoc]

theorem expandTabs_indentBy (level : Nat) (s : String) :
    expandTabs (indentBy level s) = indentBy level (expandTabs s) := by
  simp only [indentBy, expandTabs_unlines, lines_expandTabs, List.map_map, Function.comp_def,
    expandTabs_indentLine]

theorem indentBy_indentBy (a b : Nat) (s : String) :
    indentBy a (indentBy b s) = indentBy (a + b) s := by
  rw [indentBy, lines_indentBy, List.map_map, indentBy]
  simp only [Function.comp_def, indentLine_indentLine]

/-- **A text at its place in the code**: moved in by some levels, its tabs written as spaces. -/
def placed (level : Nat) (s : String) : String := expandTabs (indentBy level s)

namespace StandsIn

variable {text s : String} {level : Nat}

/-- A place is moved in with the code around it. -/
theorem indent_of_placed (h : StandsIn text (placed level s)) :
    StandsIn (indent text) (placed (level + 1) s) := by
  have hplace : indent (placed level s) = placed (level + 1) s := by
    rw [indent, placed, ← expandTabs_indentBy, indentBy_indentBy, Nat.add_comm, placed]
  exact hplace ▸ h.indentBy 1

/-- A place keeps where tabs are written as spaces. -/
theorem expandTabs_of_placed (h : StandsIn text (placed level s)) :
    StandsIn (expandTabs text) (placed level s) := by
  have hplace : expandTabs (placed level s) = placed level s := expandTabs_expandTabs _
  exact hplace ▸ h.expandTabs

end StandsIn

/-! ## 5. Behind the beginning of a line -/

/-- Lines moved in, the last of which goes on. -/
def openedLines (level : Nat) : List String → List String
  | [] => []
  | [l] => [margin level ++ l]
  | l :: ls => indentLine level l :: openedLines level ls

/-- Text that begins inside a line, with its other lines moved in. -/
def continued (level : Nat) (s : String) : String :=
  match lines s with
  | [] => ""
  | l :: ls => unlines (l :: ls.map (indentLine level))

/-- Text that begins inside a line, with its other lines moved in, the last of which goes on: it keeps
    its margin even where it is blank. -/
def shifted (level : Nat) (s : String) : String :=
  match lines s with
  | [] => ""
  | l :: ls => unlines (l :: openedLines level ls)

/-- **A text begins** with a character that is not white space. -/
def Begins (s : String) : Prop := ∃ c cs, s.toList = c :: cs ∧ isBlank c = false

theorem Begins.append {s : String} (h : Begins s) (t : String) : Begins (s ++ t) := by
  obtain ⟨c, cs, hs, hc⟩ := h
  exact ⟨c, cs ++ t.toList, by rw [String.toList_append, hs, List.cons_append], hc⟩

theorem Begins.allBlank_eq_false {s : String} (h : Begins s) : allBlank s.toList = false := by
  obtain ⟨c, cs, hs, hc⟩ := h
  simp [allBlank, hs, hc]

theorem begins_quote : Begins "\"" := ⟨'"', [], rfl, rfl⟩

section Middle

variable {level : Nat} {s t u l m : String} {ls ms : List String}

/-- The first line of a text that begins is not blank. -/
theorem Begins.exists_lines (h : Begins s) : ∃ l ls, lines s = l :: ls ∧ allBlank l.toList = false := by
  obtain ⟨c, cs, hs, hc⟩ := h
  have hbreak : c ≠ '\n' := by
    rintro rfl
    cases hc
  rw [lines, pieces, hs, splitOn, if_neg hbreak]
  split
  · exact ⟨_, _, rfl, by simp [allBlank, hc]⟩
  · exact ⟨_, _, rfl, by simp [allBlank, hc]⟩

theorem openedLines_cons_cons : openedLines level (l :: m :: ls) =
    indentLine level l :: openedLines level (m :: ls) := rfl

theorem openedLines_ne_nil (level : Nat) (hne : ls ≠ []) : openedLines level ls ≠ [] := by
  obtain ⟨l, ls, rfl⟩ := List.exists_cons_of_ne_nil hne
  cases ls <;> exact List.cons_ne_nil _ _

theorem indentLine_append (hm : allBlank m.toList = false) :
    indentLine level (l ++ m) = margin level ++ l ++ m := by
  rw [indentLine, allBlank_append, hm, Bool.and_false, if_neg Bool.false_ne_true, String.append_assoc]

/-- Lines before one that begins keep their margins. -/
theorem map_indentLine_seam (hne : ls ≠ []) (hm : allBlank m.toList = false) :
    (seam ls (m :: ms)).map (indentLine level) =
      seam (openedLines level ls) (m :: ms.map (indentLine level)) := by
  induction ls with
  | nil => exact absurd rfl hne
  | cons l ls ih =>
    cases ls with
    | nil =>
      rw [seam_singleton, List.map_cons, indentLine_append hm, openedLines, seam_singleton]
    | cons l' ls =>
      obtain ⟨n, ns, hn⟩ := List.exists_cons_of_ne_nil
        (openedLines_ne_nil level (List.cons_ne_nil l' ls))
      rw [seam_cons_cons, List.map_cons, ih (List.cons_ne_nil l' ls), openedLines_cons_cons, hn,
        seam_cons_cons]

theorem continued_of_inLine (h : InLine s) : continued level s = s := by
  rw [continued, lines_of_inLine h]
  rfl

theorem shifted_of_inLine (h : InLine s) : shifted level s = s := by
  rw [shifted, lines_of_inLine h]
  rfl

/-- What goes on in the same line is left alone. -/
theorem continued_append_of_inLine (hu : InLine u) : continued level (u ++ t) = u ++ continued level t := by
  obtain ⟨m, ms, ht⟩ := exists_lines_eq_cons t
  have hlines : lines (u ++ t) = (u ++ m) :: ms := by
    rw [lines_append, lines_of_inLine hu, ht, seam_singleton]
  rw [continued, continued, hlines, ht]
  dsimp only
  rw [← seam_singleton, unlines_seam (List.cons_ne_nil _ _) (List.cons_ne_nil _ _)]
  rfl

/-- A text that begins takes up the margin of the line before. -/
theorem continued_append (ht : Begins t) :
    continued level (s ++ t) = shifted level s ++ continued level t := by
  obtain ⟨m, ms, ht, hm⟩ := ht.exists_lines
  obtain ⟨l, ls, hs⟩ := exists_lines_eq_cons s
  rw [continued, continued, shifted, lines_append, hs, ht]
  cases ls with
  | nil =>
    rw [seam_singleton]
    dsimp only
    rw [openedLines, ← seam_singleton, unlines_seam (List.cons_ne_nil _ _) (List.cons_ne_nil _ _)]
  | cons l' ls =>
    have hne := List.cons_ne_nil l' ls
    obtain ⟨n, ns, hn⟩ := List.exists_cons_of_ne_nil (openedLines_ne_nil level hne)
    rw [seam_cons_cons]
    dsimp only
    rw [map_indentLine_seam hne hm, hn, ← seam_cons_cons,
      unlines_seam (List.cons_ne_nil _ _) (List.cons_ne_nil _ _)]

/-- A line that goes on with a text that begins is moved in. -/
theorem indentBy_append (hu : InLine u) (ht : Begins t) :
    indentBy level (u ++ t) = margin level ++ u ++ continued level t := by
  obtain ⟨m, ms, ht, hm⟩ := ht.exists_lines
  rw [indentBy, lines_append, lines_of_inLine hu, ht,
    map_indentLine_seam (List.cons_ne_nil u []) hm, openedLines,
    unlines_seam (List.cons_ne_nil _ _) (List.cons_ne_nil _ _), continued, ht]
  rfl

/-- A text between double quotes is shifted; what is behind it goes on. -/
theorem continued_append_quoted (level : Nat) (hu : InLine u) (name rest : String) :
    continued level (u ++ ("\"" ++ (name ++ ("\"" ++ rest)))) =
      u ++ ("\"" ++ (shifted level name ++ ("\"" ++ continued level rest))) := by
  have hquote : InLine "\"" := by decide
  rw [continued_append_of_inLine hu, continued_append_of_inLine hquote,
    continued_append (begins_quote.append rest), continued_append_of_inLine hquote]

theorem indentBy_append_quoted (level : Nat) (hu : InLine u) (name rest : String) :
    indentBy level (u ++ ("\"" ++ (name ++ ("\"" ++ rest)))) =
      margin level ++ u ++ ("\"" ++ (shifted level name ++ ("\"" ++ continued level rest))) := by
  have hnone : InLine "" := List.not_mem_nil
  have hquoted := continued_append_quoted level hnone name rest
  rw [String.empty_append, String.empty_append] at hquoted
  rw [indentBy_append hu (begins_quote.append _), hquoted]

end Middle

/-! ## 6. What layout keeps -/

/-- Characters of a text that are not white space. -/
def solid (s : String) : List Char := s.toList.filter fun c => !isBlank c

section Solid

variable {level : Nat} {s : String} {ls : List String}

theorem solid_append (s t : String) : solid (s ++ t) = solid s ++ solid t := by
  rw [solid, String.toList_append, List.filter_append]
  rfl

theorem solid_of_allBlank (h : allBlank s.toList = true) : solid s = [] := by
  refine List.filter_eq_nil_iff.mpr fun c hc => ?_
  rw [List.all_eq_true.mp h c hc]
  decide

theorem solid_margin_append (level : Nat) (s : String) : solid (margin level ++ s) = solid s := by
  rw [solid_append, solid_of_allBlank (allBlank_margin level), List.nil_append]

theorem solid_indentLine (level : Nat) (l : String) : solid (indentLine level l) = solid l := by
  unfold indentLine
  split
  · rename_i h
    rw [solid_of_allBlank h]
    rfl
  · exact solid_margin_append level l

theorem solid_unlines (ls : List String) : solid (unlines ls) = ls.flatMap solid := by
  induction ls with
  | nil => rfl
  | cons l ls ih =>
    cases ls with
    | nil => exact (List.append_nil (solid l)).symm
    | cons m ls =>
      have hbreak : solid "\n" = [] := rfl
      rw [unlines_cons_cons, solid_append, solid_append, ih, hbreak, List.append_nil]
      rfl

theorem flatMap_solid_openedLines (level : Nat) (ls : List String) :
    (openedLines level ls).flatMap solid = ls.flatMap solid := by
  induction ls with
  | nil => rfl
  | cons l ls ih =>
    cases ls with
    | nil => simp only [openedLines, List.flatMap_cons, solid_margin_append]
    | cons m ls =>
      rw [openedLines_cons_cons, List.flatMap_cons, ih, solid_indentLine, ← List.flatMap_cons]

/-- **Layout changes white space only.** -/
theorem solid_shifted (level : Nat) (s : String) : solid (shifted level s) = solid s := by
  obtain ⟨l, ls, hs⟩ := exists_lines_eq_cons s
  rw [shifted, hs]
  dsimp only
  rw [solid_unlines, List.flatMap_cons, flatMap_solid_openedLines, ← List.flatMap_cons, ← hs,
    ← solid_unlines, unlines_lines]

theorem solid_expandTabs (s : String) : solid (expandTabs s) = solid s := by
  have hstep : ∀ c : Char, (if c = '\t' then [' ', ' ', ' ', ' '] else [c]).filter (fun c => !isBlank c) =
      [c].filter fun c => !isBlank c := by
    intro c
    split
    · rename_i htab
      rw [htab]
      rfl
    · rfl
  rw [solid, expandTabs, String.toList_ofList, List.filter_flatMap]
  simp only [hstep]
  rw [← List.filter_flatMap, List.flatMap_singleton', solid]

/-- A text keeps its line ends. -/
theorem inLine_of_shifted (h : InLine (shifted level s)) : InLine s := by
  obtain ⟨l, ls, hs⟩ := exists_lines_eq_cons s
  rw [shifted, hs] at h
  cases ls with
  | nil => exact inLine_iff_lines.mpr (by rw [hs]; rfl)
  | cons m ls =>
    obtain ⟨n, ns, hn⟩ := List.exists_cons_of_ne_nil
      (openedLines_ne_nil level (List.cons_ne_nil m ls))
    dsimp only at h
    rw [hn, unlines_cons_cons, inLine_append, inLine_append] at h
    exact absurd List.mem_cons_self h.1.2

theorem inLine_of_expandTabs (h : InLine (expandTabs s)) : InLine s :=
  fun hm => h (mem_expandTabs.mpr (.inl ⟨hm, by decide⟩))

theorem count_eq_count_solid {c : Char} (hc : isBlank c = false) (s : String) :
    s.toList.count c = (solid s).count c :=
  (List.count_filter (by rw [hc]; rfl)).symm

end Solid

/-! ## 7. Literals in the code -/

open Literal

/-- What is between double quotes in the code, where it began inside a line. -/
def laidOut (level : Nat) (s : String) : String := expandTabs (shifted level s)

/-- **Literal for a text** that is put between double quotes as it is, at its place in the code. -/
def embedded (level : Nat) (s : String) : String := "\"" ++ laidOut level s ++ "\""

section Literals

variable {byName : List Char → Option Char} {level : Nat} {s : String}

theorem inLine_of_isVerbatim (h : isVerbatim s.toList = true) : InLine s := by
  have hread : read (plainStep fun _ => none) s.toList = some s.toList := read_eq_self_iff.mpr h
  exact ((count_read hread).2 rfl).1

/-- **A literal in the code stands for the text** that was put into it exactly where the text stands for
    itself and has no tabs. -/
theorem plain?_embedded_iff : plain? byName (embedded level s) = some s ↔
    isVerbatim s.toList = true ∧ '\t' ∉ s.toList := by
  constructor
  · intro h
    rw [embedded, plain?_quotes, map_ofList_eq_some_iff] at h
    have hsolid : solid (laidOut level s) = solid s := by
      rw [laidOut, solid_expandTabs, solid_shifted]
    -- layout keeps the backslashes, so a literal that stands for the text has as many as the text
    have hcount : s.toList.count '\\' = (laidOut level s).toList.count '\\' := by
      rw [count_eq_count_solid rfl, count_eq_count_solid rfl, hsolid]
    obtain ⟨hline, htab⟩ := (count_read h).2 hcount
    have hs : InLine s := inLine_of_shifted (inLine_of_expandTabs hline)
    have ht : '\t' ∉ s.toList := fun hm => tab_not_mem_expandTabs _ (htab hm)
    rw [laidOut, shifted_of_inLine hs, expandTabs_of_not_mem ht] at h
    exact ⟨read_eq_self_iff.mp h, ht⟩
  · rintro ⟨hv, ht⟩
    rw [embedded, laidOut, shifted_of_inLine (inLine_of_isVerbatim hv), expandTabs_of_not_mem ht]
    exact plain?_quotes_eq_self_iff.mpr hv

end Literals

/-- **A name is embedded in a text**: a literal for it stands behind a lead and before a trail, `level`
    levels deep. -/
structure Embeds (text : String) (level : Nat) (lead name trail : String) : Prop where
  /-- The literal stands in the text. -/
  stands : ∃ rest, StandsIn text (margin level ++ lead ++ embedded level name ++ trail ++ rest)
  /-- It stands for the name exactly where the name stands for itself and has no tabs. -/
  denotes : ∀ byName, plain? byName (embedded level name) = some name ↔
    isVerbatim name.toList = true ∧ '\t' ∉ name.toList

/-- Tells whether a text has neither line ends nor tabs. -/
def IsFlat (s : String) : Prop := InLine s ∧ '\t' ∉ s.toList

instance (s : String) : Decidable (IsFlat s) := inferInstanceAs (Decidable (InLine s ∧ '\t' ∉ s.toList))

theorem isFlat_append {s t : String} : IsFlat (s ++ t) ↔ IsFlat s ∧ IsFlat t := by
  unfold IsFlat
  rw [inLine_append, String.toList_append, List.mem_append, not_or]
  exact and_and_and_comm

theorem IsFlat.append {s t : String} (hs : IsFlat s) (ht : IsFlat t) : IsFlat (s ++ t) :=
  isFlat_append.mpr ⟨hs, ht⟩

theorem isFlat_of_forall {s : String} (h : ∀ c ∈ s.toList, c ≠ '\n' ∧ c ≠ '\t') : IsFlat s :=
  ⟨fun hm => (h _ hm).1 rfl, fun hm => (h _ hm).2 rfl⟩

theorem IsFlat.join {sep : String} (hsep : IsFlat sep) {ss : List String} (h : ∀ s ∈ ss, IsFlat s) :
    IsFlat (join sep ss) := by
  induction ss with
  | nil => exact show IsFlat "" by decide
  | cons s rest ih =>
    obtain ⟨hs, hrest⟩ := List.forall_mem_cons.mp h
    cases rest with
    | nil => exact hs
    | cons t rest =>
      rw [join_cons_cons]
      exact (hs.append hsep).append (ih hrest)

/-- A quoted name is embedded where its statement stands. -/
theorem embeds_of_placed {text lead name trail : String} {level : Nat} (hlead : IsFlat lead)
    (htrail : IsFlat trail) (rest : String)
    (h : StandsIn text (placed level (lead ++ ("\"" ++ (name ++ ("\"" ++ (trail ++ rest))))))) :
    Embeds text level lead name trail := by
  have hquote : expandTabs "\"" = "\"" := by decide
  refine ⟨⟨expandTabs (continued level rest), ?_⟩, fun _ => plain?_embedded_iff⟩
  rw [placed, indentBy_append_quoted level hlead.1, continued_append_of_inLine htrail.1] at h
  simp only [expandTabs_append, expandTabs_margin, expandTabs_of_not_mem hlead.2,
    expandTabs_of_not_mem htrail.2, hquote] at h
  simpa only [embedded, laidOut, String.append_assoc] using h

end ClientGen.Text
