import ClientGen.Proofs.Casing

/-!
# Snake case

A name is written in snake case in steps, and a step may set an underscore next to another one or at
an end of the name. What comes out in the end is a normal form all the same. This file fixes

* `InSnakeCase`: the texts in snake case, which are words of small letters and digits of ASCII with
  one underscore between each two, or nothing at all;
* `splitOn_joinWords`, `wordsOf_joinWords`: words that are joined are found again by their marks;
* `underscoreRuns_eq_self`, `breakBeforeWord_eq_self`, `breakBeforeCapital_eq_self`: a step has nothing
  to do where there is nothing to break;
* `snakeCase_eq_self_iff`: the texts in snake case are the ones that stay as they are;
* `snakeCase_normal`: every name is brought into snake case, and keeps its letters and digits.
-/

namespace ClientGen.Text

/-! ## 1. Texts in snake case -/

/-- Tells whether a character may stand in a word in snake case: a small letter or a digit of ASCII. -/
def isSnakeChar (c : Char) : Bool := c.isLower || c.isDigit

/-- **A text is in snake case**: it is empty, or what stands between its underscores are words of small
    letters and digits, none of which is empty. -/
def InSnakeCase (s : String) : Prop :=
  s = "" ∨ ∀ w ∈ splitOn '_' s.toList, w ≠ [] ∧ ∀ c ∈ w, isSnakeChar c = true

instance (s : String) : Decidable (InSnakeCase s) := inferInstanceAs (Decidable (_ ∨ _))

theorem isAlphanum_of_isSnakeChar {c : Char} (h : isSnakeChar c = true) : c.isAlphanum = true := by
  rcases Bool.or_eq_true_iff.mp h with hlower | hdigit
  · exact Bool.or_eq_true_iff.mpr (.inl (Bool.or_eq_true_iff.mpr (.inr hlower)))
  · exact Bool.or_eq_true_iff.mpr (.inr hdigit)

/-- Small letters make letters and digits fit for a word, and leave alone what is fit for one. -/
theorem small_of_isAlphanum {c : Char} (h : c.isAlphanum = true) : isSnakeChar c.toLower = true ∧
    (isSnakeChar c = true → c ≠ '_' ∧ c.isUpper = false ∧ c.toLower = c) :=
  of_isAlphanum (P := fun c => isSnakeChar c.toLower = true ∧
    (isSnakeChar c = true → c ≠ '_' ∧ c.isUpper = false ∧ c.toLower = c)) (by decide +kernel) h

theorem isSnakeChar_toLower {c : Char} (h : c.isAlphanum = true) : isSnakeChar c.toLower = true :=
  (small_of_isAlphanum h).1

theorem unchanged_of_isSnakeChar {c : Char} (h : isSnakeChar c = true) :
    c ≠ '_' ∧ c.isUpper = false ∧ c.toLower = c :=
  (small_of_isAlphanum (isAlphanum_of_isSnakeChar h)).2 h

theorem underscore_not_mem {w : List Char} (h : ∀ c ∈ w, isSnakeChar c = true) : '_' ∉ w :=
  fun hm => (unchanged_of_isSnakeChar (h _ hm)).1 rfl

/-! ## 2. Words and marks -/

theorem joinWords_eq_intercalate (ws : List (List Char)) :
    joinWords ws = List.intercalate ['_'] ws := by
  fun_induction joinWords ws with
  | case1 => rfl
  | case2 w => rw [List.intercalate_singleton]
  | case3 w v rest ih => rw [ih, List.intercalate_cons_cons, List.append_assoc, List.singleton_append]

/-- What stands between the underscores of a text is joined to it again. -/
theorem joinWords_splitOn (cs : List Char) : joinWords (splitOn '_' cs) = cs := by
  rw [joinWords_eq_intercalate, intercalate_splitOn]

/-- Joined words are what stands between the underscores. -/
theorem splitOn_joinWords {ws : List (List Char)} (hne : ws ≠ []) (h : ∀ w ∈ ws, '_' ∉ w) :
    splitOn '_' (joinWords ws) = ws := by
  fun_induction joinWords ws with
  | case1 => exact absurd rfl hne
  | case2 w => exact splitOn_of_not_mem (h w (List.mem_singleton_self w))
  | case3 w v rest ih =>
    obtain ⟨hw, hrest⟩ := List.forall_mem_cons.mp h
    rw [splitOn_append_cons, splitOn_of_not_mem hw, ih (List.cons_ne_nil v rest) hrest,
      List.singleton_append]

/-- Joined words are the stretches of the text that they make, where none is empty. -/
theorem wordsOf_joinWords {ws : List (List Char)} (h : ∀ w ∈ ws, w ≠ [] ∧ '_' ∉ w) :
    wordsOf (joinWords ws) = ws := by
  have word : ∀ w : List Char, w ≠ [] ∧ '_' ∉ w → wordsOf w = [w] := by
    rintro w ⟨hne, hmark⟩
    refine runsOf_of_forall hne fun c hc => decide_eq_true ?_
    rintro rfl
    exact hmark hc
  have hstop : ∀ cs : List Char, ∀ c, ('_' :: cs).head? = some c → decide (c ≠ '_') = false := by
    rintro cs c ⟨⟩
    decide
  fun_induction joinWords ws with
  | case1 => rfl
  | case2 w => exact word w (h w (List.mem_singleton_self w))
  | case3 w v rest ih =>
    obtain ⟨hw, hrest⟩ := List.forall_mem_cons.mp h
    rw [wordsOf, runsOf_append (hstop _), ← wordsOf, word w hw, runsOf_cons_of_neg (by decide),
      ← wordsOf, ih hrest, List.singleton_append]

/-- Words are joined as before where their letters are made small. -/
theorem map_toLower_joinWords (ws : List (List Char)) :
    (joinWords ws).map Char.toLower = joinWords (ws.map (List.map Char.toLower)) := by
  have hmark : '_'.toLower = '_' := by decide
  fun_induction joinWords ws with
  | case1 => rfl
  | case2 w => rfl
  | case3 w v rest ih =>
    rw [List.map_append, List.map_cons, hmark, ih]
    rfl

/-! ## 3. What is made is in snake case -/

/-- **Every name is brought into snake case.** -/
theorem inSnakeCase_snakeCase (s : String) : InSnakeCase (snakeCase s) := by
  have hwords : ∀ w ∈ (wordsOf (brokenChars s.toList)).map (List.map Char.toLower),
      w ≠ [] ∧ ∀ c ∈ w, isSnakeChar c = true := by
    intro w hw
    obtain ⟨v, hv, rfl⟩ := List.mem_map.mp hw
    refine ⟨mt List.map_eq_nil_iff.mp (ne_nil_of_mem_runsOf hv), fun c hc => ?_⟩
    obtain ⟨d, hd, rfl⟩ := List.mem_map.mp hc
    exact isSnakeChar_toLower (isAlphanum_of_mem_wordsOf hv hd)
  have hchars : (snakeCase s).toList =
      joinWords ((wordsOf (brokenChars s.toList)).map (List.map Char.toLower)) := by
    rw [snakeCase, String.toList_ofList, ← map_toLower_joinWords]
    rfl
  generalize (wordsOf (brokenChars s.toList)).map (List.map Char.toLower) = ws at hwords hchars
  by_cases hws : ws = []
  · refine .inl (String.toList_eq_nil_iff.mp ?_)
    rw [hchars, hws]
    rfl
  · refine .inr ?_
    rw [hchars, splitOn_joinWords hws fun w hw => underscore_not_mem (hwords w hw).2]
    exact hwords

/-! ## 4. What is in snake case stays -/

theorem underscoreRuns_eq_self {cs : List Char} (h : ∀ c ∈ cs, isWordChar c = true) (open_ : Bool) :
    underscoreRuns open_ cs = cs := by
  induction cs generalizing open_ with
  | nil => rfl
  | cons c cs ih =>
    obtain ⟨hc, hcs⟩ := List.forall_mem_cons.mp h
    rw [underscoreRuns, if_pos hc, ih hcs]

/-- Without capitals there is no word to break before. -/
theorem breakBeforeWord_eq_self {cs : List Char} (h : ∀ c ∈ cs, c.isUpper = false) (within : Bool) :
    breakBeforeWord within cs = cs := by
  fun_induction breakBeforeWord within cs with
  | case1 within a u l cs ha ih => rw [ih (List.forall_mem_cons.mp h).2]
  | case2 within a u l cs ha hu ih =>
    rw [h u (List.mem_cons_of_mem a List.mem_cons_self), Bool.false_and] at hu
    cases hu
  | case3 within a u l cs ha hu ih => rw [ih (List.forall_mem_cons.mp h).2]
  | case4 => rfl

theorem breakBeforeCapital_eq_self {cs : List Char} (h : ∀ c ∈ cs, c.isUpper = false) :
    breakBeforeCapital cs = cs := by
  fun_induction breakBeforeCapital cs with
  | case1 a u cs ha ih =>
    rw [h u (List.mem_cons_of_mem a List.mem_cons_self), Bool.and_false] at ha
    cases ha
  | case2 a u cs ha ih => rw [ih (List.forall_mem_cons.mp h).2]
  | case3 => rfl

/-- A character of a text in snake case is an underscore or stands in a word. -/
theorem isSnakeChar_or_eq_of_mem {cs : List Char}
    (h : ∀ w ∈ splitOn '_' cs, w ≠ [] ∧ ∀ c ∈ w, isSnakeChar c = true) {c : Char} (hc : c ∈ cs) :
    isSnakeChar c = true ∨ c = '_' := by
  rw [← joinWords_splitOn cs] at hc
  exact (mem_joinWords hc).imp_left fun ⟨w, hw, hc⟩ => (h w hw).2 c hc

/-- **A text is in snake case exactly when it stays as it is.** -/
theorem snakeCase_eq_self_iff {s : String} : snakeCase s = s ↔ InSnakeCase s := by
  constructor
  · exact fun h => h ▸ inSnakeCase_snakeCase s
  rintro (rfl | h)
  · rfl
  have hchar : ∀ c ∈ s.toList, isWordChar c = true ∧ isBlank c = false ∧ c.isUpper = false ∧
      c.toLower = c := by
    intro c hc
    rcases isSnakeChar_or_eq_of_mem h hc with hc | rfl
    · have halnum := isAlphanum_of_isSnakeChar hc
      exact ⟨isWordChar_iff.mpr (.inl halnum), isBlank_of_isAlphanum halnum,
        (unchanged_of_isSnakeChar hc).2⟩
    · decide
  have hwords : wordsOf s.toList = splitOn '_' s.toList := by
    have hjoined := wordsOf_joinWords fun w hw => ⟨(h w hw).1, underscore_not_mem (h w hw).2⟩
    rwa [joinWords_splitOn] at hjoined
  have hbroken : brokenChars s.toList = s.toList := by
    rw [brokenChars, trimWhile_eq_self fun c hc => (hchar c hc).2.1,
      underscoreRuns_eq_self fun c hc => (hchar c hc).1,
      breakBeforeWord_eq_self fun c hc => (hchar c hc).2.2.1,
      breakBeforeCapital_eq_self fun c hc => (hchar c hc).2.2.1]
  have hsmall : s.toList.map Char.toLower = s.toList :=
    (List.map_congr_left fun c hc => (hchar c hc).2.2.2).trans (List.map_id s.toList)
  calc snakeCase s
      = String.ofList ((joinWords (wordsOf (brokenChars s.toList))).map Char.toLower) := rfl
    _ = String.ofList s.toList := by rw [hbroken, hwords, joinWords_splitOn, hsmall]
    _ = s := String.ofList_toList

/-- **Snake case is a normal form**: whatever a name is, it is brought into snake case; without its
    underscores it is the letters and digits of ASCII that the name has, in order and made small; and it
    is not changed again. In texts, the 2048 characters from U+10A000 stand for lone surrogates. -/
theorem snakeCase_normal (s : String) :
    InSnakeCase (snakeCase s) ∧
    (snakeCase s).toList.filter (· ≠ '_') = (s.toList.filter Char.isAlphanum).map Char.toLower ∧
    snakeCase (snakeCase s) = snakeCase s := by
  have hmarks : ∀ c ∈ (snakeCase s).toList, decide (c ≠ '_') = c.isAlphanum := by
    intro c hc
    rcases eq_of_mem_snakeCase hc with ⟨d, hd, rfl⟩ | rfl
    · rw [isAlphanum_toLower hd, decide_eq_true]
      exact (unchanged_of_isSnakeChar (isSnakeChar_toLower hd)).1
    · rfl
  refine ⟨inSnakeCase_snakeCase s, ?_, snakeCase_eq_self_iff.mpr (inSnakeCase_snakeCase s)⟩
  rw [List.filter_congr hmarks, filter_snakeCase]

/-- Underscores next to each other come about on the way, and none of them is left. -/
example : brokenChars "-userID Http2 ".toList = "_user_ID__Http2".toList ∧
    ¬ InSnakeCase "_user_id__http2" ∧ snakeCase "-userID Http2 " = "user_id_http2" := by decide

end ClientGen.Text
