import Mathlib.Data.List.Basic
import ClientGen.Table
import ClientGen.Text.Blank
import ClientGen.Text.Casing
import ClientGen.Text.Identifier
import ClientGen.Text.Plural
import ClientGen.Text.Split

/-!
# Words of names

Names in any spelling are made into names of classes and of functions. This file fixes what those
names look like:

* `isAlphanum_of_mem_pascalCase`, `head?_pascalCase`: the name of a class consists of letters and
  digits of ASCII and starts with the first one of what it is made from, a letter capitalised;
* `isWordChar_of_mem_snakeCase`, `not_isUpper_of_mem_snakeCase`: a name in snake case consists of
  small letters and digits of ASCII and underscores;
* `isAlphanum_of_head?_snakeCase`, `isAlphanum_of_getLast?_snakeCase`: and has no underscore at either
  end; `getLast?_pluralize`: nor has a plural at its own;
* `filter_snakeCase`: and keeps the letters and digits of ASCII; `head?_pluralize`: a plural starts as
  its noun does;
* `Padded`, `Padded.of_safeName`: an identifier is a name with underscores around it; `head?_safeName`:
  it starts with one where the name does not start with a letter;
* `avoiding_not_mem`: one that keeps clear of some names is none of them.
-/

namespace ClientGen.Text

/-! ## 1. Letters and digits -/

theorem of_mem_runsOf {p : Char → Bool} {cs run : List Char} (h : run ∈ runsOf p cs) {c : Char}
    (hc : c ∈ run) : p c = true := by
  have hm : c ∈ (runsOf p cs).flatten := List.mem_flatten.mpr ⟨run, h, hc⟩
  rw [flatten_runsOf] at hm
  exact (List.mem_filter.mp hm).2

theorem toNat_lt_of_isAlphanum {c : Char} (h : c.isAlphanum = true) : c.toNat < 123 := by
  have upper : c.isUpper = true → c.toNat ≤ 90 := fun h => (of_decide_eq_true h).2
  have lower : c.isLower = true → c.toNat ≤ 122 := fun h =>
    of_decide_eq_true (Bool.and_eq_true_iff.mp h).2
  have digit : c.isDigit = true → c.toNat ≤ 57 := fun h =>
    of_decide_eq_true (Bool.and_eq_true_iff.mp h).2
  rcases Bool.or_eq_true_iff.mp h with h | h
  · rcases Bool.or_eq_true_iff.mp h with h | h
    · have := upper h
      omega
    · have := lower h
      omega
  · have := digit h
    omega

/-- What holds of the letters and digits of ASCII one by one holds of them all. -/
theorem of_isAlphanum {P : Char → Prop}
    (h : ∀ n < 123, (Char.ofNat n).isAlphanum = true → P (Char.ofNat n)) {c : Char}
    (hc : c.isAlphanum = true) : P c := by
  have hn : Char.ofNat c.toNat = c := Char.ofNat_toNat c
  have hcase := h c.toNat (toNat_lt_of_isAlphanum hc)
  rw [hn] at hcase
  exact hcase hc

/-- What the tables of all scripts say of a letter or digit of ASCII. -/
theorem tables_of_isAlphanum {c : Char} (h : c.isAlphanum = true) :
    isBlank c = false ∧ isDigit c = c.isDigit ∧ isLower c = c.isLower ∧ upperOf c = [c.toUpper] ∧
      (c.isUpper = false → c.toNat ≠ 0x3A3 ∧ lowerOf c = [c]) :=
  of_isAlphanum (P := fun c => isBlank c = false ∧ isDigit c = c.isDigit ∧ isLower c = c.isLower ∧
    upperOf c = [c.toUpper] ∧ (c.isUpper = false → c.toNat ≠ 0x3A3 ∧ lowerOf c = [c]))
    (by decide +kernel) h

/-- What becomes of a letter or digit of ASCII when its case is changed. -/
theorem changed_of_isAlphanum {c : Char} (h : c.isAlphanum = true) :
    (c.isDigit = false ↔ c.isAlpha = true) ∧
    (c.toUpper.isAlphanum = true ∧ c.toUpper.isLower = false ∧ c.toUpper.isAlpha = c.isAlpha ∧
      (c.isLower = false → c.toUpper = c)) ∧
    c.toLower.isAlphanum = true ∧ c.toLower.isUpper = false ∧ c.toLower.isDigit = c.isDigit :=
  of_isAlphanum (P := fun c => (c.isDigit = false ↔ c.isAlpha = true) ∧
    (c.toUpper.isAlphanum = true ∧ c.toUpper.isLower = false ∧ c.toUpper.isAlpha = c.isAlpha ∧
      (c.isLower = false → c.toUpper = c)) ∧
    c.toLower.isAlphanum = true ∧ c.toLower.isUpper = false ∧ c.toLower.isDigit = c.isDigit)
    (by decide +kernel) h

section Alphanumeric

variable {c : Char} (h : c.isAlphanum = true)

include h

theorem isBlank_of_isAlphanum : isBlank c = false := (tables_of_isAlphanum h).1

theorem isDigit_of_isAlphanum : isDigit c = c.isDigit := (tables_of_isAlphanum h).2.1

theorem isLower_of_isAlphanum : isLower c = c.isLower := (tables_of_isAlphanum h).2.2.1

theorem upperOf_of_isAlphanum : upperOf c = [c.toUpper] := (tables_of_isAlphanum h).2.2.2.1

theorem lowerOf_of_isAlphanum (hu : c.isUpper = false) : c.toNat ≠ 0x3A3 ∧ lowerOf c = [c] :=
  (tables_of_isAlphanum h).2.2.2.2 hu

theorem isDigit_eq_false_iff : c.isDigit = false ↔ c.isAlpha = true := (changed_of_isAlphanum h).1

theorem isAlphanum_toUpper : c.toUpper.isAlphanum = true := (changed_of_isAlphanum h).2.1.1

theorem isLower_toUpper : c.toUpper.isLower = false := (changed_of_isAlphanum h).2.1.2.1

theorem isAlpha_toUpper : c.toUpper.isAlpha = c.isAlpha := (changed_of_isAlphanum h).2.1.2.2.1

theorem toUpper_of_not_isLower (hl : c.isLower = false) : c.toUpper = c :=
  (changed_of_isAlphanum h).2.1.2.2.2 hl

theorem isAlphanum_toLower : c.toLower.isAlphanum = true := (changed_of_isAlphanum h).2.2.1

theorem isUpper_toLower : c.toLower.isUpper = false := (changed_of_isAlphanum h).2.2.2.1

theorem isDigit_toLower : c.toLower.isDigit = c.isDigit := (changed_of_isAlphanum h).2.2.2.2

end Alphanumeric

theorem isWordChar_iff {c : Char} : isWordChar c = true ↔ c.isAlphanum = true ∨ c = '_' := by
  rw [isWordChar, Bool.or_eq_true, decide_eq_true_eq]

theorem all_isWordChar_append {s t : String} (hs : s.toList.all isWordChar = true)
    (ht : t.toList.all isWordChar = true) : (s ++ t).toList.all isWordChar = true := by
  rw [String.toList_append, List.all_append, hs, ht]
  rfl

/-- **First letter or digit** of a name. -/
def lead? (s : String) : Option Char := s.toList.find? Char.isAlphanum

/-! ## 2. Capitalised words -/

/-- A capitalised word starts with the large letter of its first, or with its digit. -/
theorem head?_capitalize {c : Char} (h : c.isAlphanum = true) (cs : List Char) :
    (capitalize (c :: cs)).head? = some c.toUpper := by
  unfold capitalize
  split
  · rename_i ha
    have hlower : c.isLower = false := by
      rw [isAcronym, Bool.and_eq_true, List.all_cons, Bool.and_eq_true, Bool.not_eq_true',
        Bool.or_eq_false_iff, isLower_of_isAlphanum h] at ha
      exact ha.1.1.1
    rw [List.head?_cons, toUpper_of_not_isLower h hlower]
  · dsimp only
    rw [upperOf_of_isAlphanum h]
    rfl

theorem isAlphanum_of_mem_capitalize {w : List Char} (h : ∀ c ∈ w, c.isAlphanum = true) {c : Char}
    (hc : c ∈ capitalize w) : c.isAlphanum = true := by
  unfold capitalize at hc
  split at hc
  · exact h c hc
  · split at hc
    · cases hc
    · rename_i d ds _
      rw [upperOf_of_isAlphanum (h d List.mem_cons_self)] at hc
      rcases List.mem_cons.mp hc with rfl | hc
      · exact isAlphanum_toUpper (h d List.mem_cons_self)
      · exact h c (List.mem_cons_of_mem d hc)

/-- The name of a class consists of letters and digits of ASCII. -/
theorem isAlphanum_of_mem_pascalCase {s : String} {c : Char} (h : c ∈ (pascalCase s).toList) :
    c.isAlphanum = true := by
  rw [pascalCase, String.toList_ofList] at h
  obtain ⟨w, hw, hc⟩ := List.mem_flatMap.mp h
  exact isAlphanum_of_mem_capitalize (fun _ => of_mem_runsOf hw) hc

theorem isWordChar_of_mem_pascalCase {s : String} {c : Char} (h : c ∈ (pascalCase s).toList) :
    isWordChar c = true :=
  isWordChar_iff.mpr (.inl (isAlphanum_of_mem_pascalCase h))

/-- **A class starts as its name does**: with the large letter of the first letter or digit. -/
theorem head?_pascalCase (s : String) :
    (pascalCase s).toList.head? = (lead? s).map Char.toUpper := by
  rw [pascalCase, String.toList_ofList, lead?]
  induction s.toList with
  | nil => rfl
  | cons c cs ih =>
    cases hc : c.isAlphanum with
    | false => rw [runsOf_cons_of_neg hc, List.find?_cons_of_neg (Bool.eq_false_iff.mp hc), ih]
    | true =>
      obtain ⟨run, runs, hr⟩ := exists_runsOf_cons hc cs
      rw [hr, List.flatMap_cons, List.head?_append, head?_capitalize hc, List.find?_cons_of_pos hc]
      rfl

theorem not_isLower_head?_pascalCase {s : String} {c : Char}
    (h : (pascalCase s).toList.head? = some c) : c.isLower = false := by
  rw [head?_pascalCase] at h
  obtain ⟨d, hd, rfl⟩ := Option.map_eq_some_iff.mp h
  exact isLower_toUpper (List.find?_some hd)

/-! ## 3. Snake case -/

theorem isWordChar_of_mem_underscoreRuns {open_ : Bool} {cs : List Char} {c : Char}
    (h : c ∈ underscoreRuns open_ cs) : isWordChar c = true := by
  induction cs generalizing open_ with
  | nil => exact absurd h List.not_mem_nil
  | cons d cs ih =>
    unfold underscoreRuns at h
    split at h
    · rename_i hd
      rcases List.mem_cons.mp h with rfl | h
      · exact hd
      · exact ih h
    · split at h
      · exact ih h
      · rcases List.mem_cons.mp h with rfl | h
        · rfl
        · exact ih h

/-- Breaking before words adds underscores and nothing else. -/
theorem mem_breakBeforeWord {within : Bool} {cs : List Char} {c : Char}
    (h : c ∈ breakBeforeWord within cs) : c ∈ cs ∨ c = '_' := by
  fun_induction breakBeforeWord within cs with
  | case1 within a u l cs ha ih =>
    rcases List.mem_cons.mp h with rfl | h
    · exact Or.inl List.mem_cons_self
    · exact (ih h).imp (List.mem_cons_of_mem a) id
  | case2 within a u l cs ha hu ih =>
    simp only [List.mem_cons] at h ⊢
    rcases h with h | h | h | h | h
    · exact Or.inl (Or.inl h)
    · exact Or.inr h
    · exact Or.inl (Or.inr (Or.inl h))
    · exact Or.inl (Or.inr (Or.inr (Or.inl h)))
    · exact (ih h).imp (fun h => Or.inr (Or.inr (Or.inr h))) id
  | case3 within a u l cs ha hu ih =>
    rcases List.mem_cons.mp h with rfl | h
    · exact Or.inl List.mem_cons_self
    · exact (ih h).imp (List.mem_cons_of_mem a) id
  | case4 => exact Or.inl h

theorem mem_breakBeforeCapital {cs : List Char} {c : Char}
    (h : c ∈ breakBeforeCapital cs) : c ∈ cs ∨ c = '_' := by
  fun_induction breakBeforeCapital cs with
  | case1 a u cs ha ih =>
    rcases List.mem_cons.mp h with rfl | h
    · exact Or.inl List.mem_cons_self
    · rcases List.mem_cons.mp h with rfl | h
      · exact Or.inr rfl
      · exact (ih h).imp (List.mem_cons_of_mem a) id
  | case2 a u cs ha ih =>
    rcases List.mem_cons.mp h with rfl | h
    · exact Or.inl List.mem_cons_self
    · exact (ih h).imp (List.mem_cons_of_mem a) id
  | case3 => exact Or.inl h

theorem mem_joinWords {ws : List (List Char)} {c : Char} (h : c ∈ joinWords ws) :
    (∃ w ∈ ws, c ∈ w) ∨ c = '_' := by
  fun_induction joinWords ws with
  | case1 => exact absurd h List.not_mem_nil
  | case2 w => exact Or.inl ⟨w, List.mem_singleton_self w, h⟩
  | case3 w v rest ih =>
    rcases List.mem_append.mp h with h | h
    · exact Or.inl ⟨w, List.mem_cons_self, h⟩
    · rcases List.mem_cons.mp h with rfl | h
      · exact Or.inr rfl
      · exact (ih h).imp (fun ⟨w', hw', h⟩ => ⟨w', List.mem_cons_of_mem w hw', h⟩) id

/-- Joined words end as one of them does. -/
theorem getLast?_joinWords {ws : List (List Char)} (hne : ∀ w ∈ ws, w ≠ []) {c : Char}
    (h : (joinWords ws).getLast? = some c) : ∃ w ∈ ws, c ∈ w := by
  fun_induction joinWords ws with
  | case1 => cases h
  | case2 w => exact ⟨w, List.mem_singleton_self w, List.mem_of_getLast? h⟩
  | case3 w v rest ih =>
    have hv : joinWords (v :: rest) ≠ [] := by
      intro hnil
      have hv := hne v (List.mem_cons_of_mem w List.mem_cons_self)
      cases rest with
      | nil => exact hv hnil
      | cons v' rest => exact hv (List.append_eq_nil_iff.mp hnil).1
    rw [List.getLast?_append_cons, List.getLast?_cons_of_ne_nil hv] at h
    obtain ⟨w', hw', hc⟩ := ih (fun w' hw' => hne w' (List.mem_cons_of_mem w hw')) h
    exact ⟨w', List.mem_cons_of_mem w hw', hc⟩

/-- Joined words begin as the first of them does. -/
theorem head?_joinWords {ws : List (List Char)} (hne : ∀ w ∈ ws, w ≠ []) {c : Char}
    (h : (joinWords ws).head? = some c) : ∃ w ∈ ws, c ∈ w := by
  fun_cases joinWords ws with
  | case1 => cases h
  | case2 w => exact ⟨w, List.mem_singleton_self w, List.mem_of_head? h⟩
  | case3 w v rest =>
    obtain ⟨d, ds, rfl⟩ := List.exists_cons_of_ne_nil (hne w List.mem_cons_self)
    rw [joinWords, List.cons_append, List.head?_cons] at h
    exact ⟨_, List.mem_cons_self, Option.some.inj h ▸ List.mem_cons_self⟩

/-- Text of a name before its letters are made small. -/
def brokenChars (cs : List Char) : List Char :=
  breakBeforeCapital (breakBeforeWord false (underscoreRuns false (trimWhile isBlank cs)))

theorem isWordChar_of_mem_brokenChars {cs : List Char} {c : Char} (h : c ∈ brokenChars cs) :
    isWordChar c = true := by
  rcases mem_breakBeforeCapital h with h | rfl
  · rcases mem_breakBeforeWord h with h | rfl
    · exact isWordChar_of_mem_underscoreRuns h
    · rfl
  · rfl

/-- A letter or digit of a word. -/
theorem isAlphanum_of_mem_wordsOf {cs w : List Char} (hw : w ∈ wordsOf (brokenChars cs)) {c : Char}
    (hc : c ∈ w) : c.isAlphanum = true := by
  have hm : c ∈ (wordsOf (brokenChars cs)).flatten := List.mem_flatten.mpr ⟨w, hw, hc⟩
  rw [wordsOf, flatten_runsOf] at hm
  obtain ⟨hm, hne⟩ := List.mem_filter.mp hm
  exact (isWordChar_iff.mp (isWordChar_of_mem_brokenChars hm)).resolve_right (of_decide_eq_true hne)

/-- A character of a name in snake case is a letter or digit made small, or an underscore. -/
theorem eq_of_mem_snakeCase {s : String} {c : Char} (h : c ∈ (snakeCase s).toList) :
    (∃ d : Char, d.isAlphanum = true ∧ d.toLower = c) ∨ c = '_' := by
  rw [snakeCase, String.toList_ofList] at h
  obtain ⟨d, hd, rfl⟩ := List.mem_map.mp h
  rcases mem_joinWords hd with ⟨w, hw, hd⟩ | rfl
  · exact Or.inl ⟨d, isAlphanum_of_mem_wordsOf hw hd, rfl⟩
  · exact Or.inr rfl

/-- **A name in snake case** consists of letters and digits of ASCII and underscores. -/
theorem isWordChar_of_mem_snakeCase {s : String} {c : Char} (h : c ∈ (snakeCase s).toList) :
    isWordChar c = true := by
  rw [isWordChar_iff]
  rcases eq_of_mem_snakeCase h with ⟨d, hd, rfl⟩ | rfl
  · exact .inl (isAlphanum_toLower hd)
  · exact .inr rfl

theorem all_isWordChar_snakeCase (s : String) : (snakeCase s).toList.all isWordChar = true :=
  List.all_eq_true.mpr fun _ => isWordChar_of_mem_snakeCase

/-- A name in snake case has no capitals. -/
theorem not_isUpper_of_mem_snakeCase {s : String} {c : Char} (h : c ∈ (snakeCase s).toList) :
    c.isUpper = false := by
  rcases eq_of_mem_snakeCase h with ⟨d, hd, rfl⟩ | rfl
  · exact isUpper_toLower hd
  · rfl

/-- A name in snake case ends in a letter or digit. -/
theorem isAlphanum_of_getLast?_snakeCase {s : String} {c : Char}
    (h : (snakeCase s).toList.getLast? = some c) : c.isAlphanum = true := by
  rw [snakeCase, String.toList_ofList, snakeChars, List.getLast?_map] at h
  obtain ⟨d, hd, rfl⟩ := Option.map_eq_some_iff.mp h
  obtain ⟨w, hw, hd⟩ := getLast?_joinWords (fun w => ne_nil_of_mem_runsOf) hd
  exact isAlphanum_toLower (isAlphanum_of_mem_wordsOf hw hd)

/-- A name in snake case begins with a letter or digit. -/
theorem isAlphanum_of_head?_snakeCase {s : String} {c : Char}
    (h : (snakeCase s).toList.head? = some c) : c.isAlphanum = true := by
  rw [snakeCase, String.toList_ofList, snakeChars, List.head?_map] at h
  obtain ⟨d, hd, rfl⟩ := Option.map_eq_some_iff.mp h
  obtain ⟨w, hw, hd⟩ := head?_joinWords (fun w => ne_nil_of_mem_runsOf) hd
  exact isAlphanum_toLower (isAlphanum_of_mem_wordsOf hw hd)

/-! ## 4. Letters and digits of a name -/

theorem isAlphanum_of_isBlank {c : Char} (h : isBlank c = true) : c.isAlphanum = false := by
  by_contra hc
  rw [Bool.not_eq_false] at hc
  rw [isBlank_of_isAlphanum hc] at h
  cases h

theorem filter_underscoreRuns (open_ : Bool) (cs : List Char) :
    (underscoreRuns open_ cs).filter Char.isAlphanum = cs.filter Char.isAlphanum := by
  induction cs generalizing open_ with
  | nil => rfl
  | cons c cs ih =>
    unfold underscoreRuns
    split
    · rw [List.filter_cons, List.filter_cons, ih]
    · rename_i hc
      have hnone : ¬ c.isAlphanum = true := fun h => hc (isWordChar_iff.mpr (.inl h))
      split
      · rw [ih, List.filter_cons_of_neg hnone]
      · rw [List.filter_cons_of_neg (by decide), ih, List.filter_cons_of_neg hnone]

theorem filter_breakBeforeWord (within : Bool) (cs : List Char) :
    (breakBeforeWord within cs).filter Char.isAlphanum = cs.filter Char.isAlphanum := by
  have hmark : ¬ '_'.isAlphanum = true := by decide
  fun_induction breakBeforeWord within cs with
  | case1 within a u l cs ha ih => rw [List.filter_cons, ih, ← List.filter_cons]
  | case2 within a u l cs ha hu ih =>
    rw [List.filter_cons, List.filter_cons_of_neg hmark, List.filter_cons (x := u),
      List.filter_cons (x := l), ih, ← List.filter_cons, ← List.filter_cons, ← List.filter_cons]
  | case3 within a u l cs ha hu ih => rw [List.filter_cons, ih, ← List.filter_cons]
  | case4 => rfl

theorem filter_breakBeforeCapital (cs : List Char) :
    (breakBeforeCapital cs).filter Char.isAlphanum = cs.filter Char.isAlphanum := by
  have hmark : ¬ '_'.isAlphanum = true := by decide
  fun_induction breakBeforeCapital cs with
  | case1 a u cs ha ih =>
    rw [List.filter_cons, List.filter_cons_of_neg hmark, ih, ← List.filter_cons]
  | case2 a u cs ha ih => rw [List.filter_cons, ih, ← List.filter_cons]
  | case3 => rfl

/-- Trimming takes no letter or digit. -/
theorem filter_trimWhile (cs : List Char) :
    (trimWhile isBlank cs).filter Char.isAlphanum = cs.filter Char.isAlphanum := by
  have hnone : ∀ ds : List Char, (∀ c ∈ ds, isBlank c = true) → ds.filter Char.isAlphanum = [] :=
    fun ds hds => List.filter_eq_nil_iff.mpr fun c hc =>
      Bool.eq_false_iff.mp (isAlphanum_of_isBlank (hds c hc))
  obtain ⟨tail, htail, hblank⟩ := exists_eq_dropEndWhile_append isBlank (cs.dropWhile isBlank)
  calc (trimWhile isBlank cs).filter Char.isAlphanum
      = (cs.dropWhile isBlank).filter Char.isAlphanum := by
        rw [htail, List.filter_append, hnone tail hblank, List.append_nil, trimWhile]
    _ = (cs.takeWhile isBlank ++ cs.dropWhile isBlank).filter Char.isAlphanum := by
        rw [List.filter_append, hnone _ fun c hc => List.all_eq_true.mp List.all_takeWhile c hc,
          List.nil_append]
    _ = cs.filter Char.isAlphanum := by rw [List.takeWhile_append_dropWhile]

theorem filter_joinWords (ws : List (List Char)) :
    (joinWords ws).filter Char.isAlphanum = ws.flatten.filter Char.isAlphanum := by
  have hmark : ¬ '_'.isAlphanum = true := by decide
  fun_induction joinWords ws with
  | case1 => rfl
  | case2 w => rw [List.flatten_singleton]
  | case3 w v rest ih =>
    rw [List.filter_append, List.filter_cons_of_neg hmark, ih, List.flatten_cons (l := w),
      List.filter_append]

theorem filter_wordsOf (cs : List Char) :
    (wordsOf cs).flatten.filter Char.isAlphanum = cs.filter Char.isAlphanum := by
  rw [wordsOf, flatten_runsOf, List.filter_filter]
  refine List.filter_congr fun c _ => ?_
  by_cases hc : c = '_'
  · subst hc
    rfl
  · simp [hc]

/-- **Snake case keeps letters and digits**, and no others, in order and made small. -/
theorem filter_snakeCase (s : String) : (snakeCase s).toList.filter Char.isAlphanum =
    (s.toList.filter Char.isAlphanum).map Char.toLower := by
  have hbroken : (brokenChars s.toList).filter Char.isAlphanum = s.toList.filter Char.isAlphanum := by
    rw [brokenChars, filter_breakBeforeCapital, filter_breakBeforeWord, filter_underscoreRuns,
      filter_trimWhile]
  have hkeep : ∀ c ∈ joinWords (wordsOf (brokenChars s.toList)),
      (Char.isAlphanum ∘ Char.toLower) c = c.isAlphanum := by
    intro c hc
    rcases mem_joinWords hc with ⟨w, hw, hc⟩ | rfl
    · have hc := isAlphanum_of_mem_wordsOf hw hc
      rw [Function.comp_apply, isAlphanum_toLower hc, hc]
    · rfl
  calc (snakeCase s).toList.filter Char.isAlphanum
      = ((joinWords (wordsOf (brokenChars s.toList))).map Char.toLower).filter Char.isAlphanum := by
        rw [snakeCase, String.toList_ofList]
        rfl
    _ = ((joinWords (wordsOf (brokenChars s.toList))).filter Char.isAlphanum).map Char.toLower := by
        rw [List.filter_map, List.filter_congr hkeep]
    _ = (s.toList.filter Char.isAlphanum).map Char.toLower := by
        rw [filter_joinWords, filter_wordsOf, hbroken]

theorem lead?_append (s t : String) : lead? (s ++ t) = (lead? s).or (lead? t) := by
  rw [lead?, String.toList_append, List.find?_append]
  rfl

theorem lead?_of_head? {s : String} {c : Char} (h : s.toList.head? = some c)
    (hc : c.isAlphanum = true) : lead? s = some c := by
  obtain ⟨cs, hs⟩ := List.head?_eq_some_iff.mp h
  rw [lead?, hs, List.find?_cons_of_pos hc]

theorem lead?_snakeCase (s : String) : lead? (snakeCase s) = (lead? s).map Char.toLower := by
  rw [lead?, ← List.head?_filter, filter_snakeCase, List.head?_map, List.head?_filter, lead?]

/-- Where nothing stands before the first letter or digit, a name starts with it. -/
theorem lead?_eq_head? {s : String} (h : ∀ c, s.toList.head? = some c → c.isAlphanum = true) :
    lead? s = s.toList.head? := by
  cases hc : s.toList.head? with
  | some c => exact lead?_of_head? hc (h c hc)
  | none => rw [lead?, List.head?_eq_none_iff.mp hc, List.find?_nil]

/-- A name in snake case starts with its first letter or digit. -/
theorem head?_snakeCase (s : String) : (snakeCase s).toList.head? = lead? (snakeCase s) :=
  (lead?_eq_head? fun _ => isAlphanum_of_head?_snakeCase).symm

/-! ## 5. Plurals -/

theorem head?_append {s t : String} {c : Char} (h : s.toList.head? = some c) :
    (s ++ t).toList.head? = some c := by
  rw [String.toList_append, List.head?_append, h]
  rfl

theorem getLast?_append {s t : String} {c : Char} (h : t.toList.getLast? = some c) :
    (s ++ t).toList.getLast? = some c := by
  rw [String.toList_append, List.getLast?_append, h]
  rfl

theorem getLast?_irregularPlurals :
    ∀ e ∈ irregularPlurals, e.2.toList.getLast? ≠ some '_' := by
  decide

/-- No plural ends in an underscore. -/
theorem getLast?_pluralize (w : String) : (pluralize w).toList.getLast? ≠ some '_' := by
  have ends : ∀ (t : String) {s : String} {c : Char}, s.toList.getLast? = some c → c ≠ '_' →
      (t ++ s).toList.getLast? ≠ some '_' := by
    intro t s c hs hc
    rw [getLast?_append hs]
    exact fun h => hc (Option.some.inj h)
  unfold pluralize
  split
  · decide
  · dsimp only
    split
    · rename_i plural hp
      exact getLast?_irregularPlurals _ (Table.mem_of_get? hp)
    · split
      · exact ends w (s := "es") rfl (by decide)
      · split
        · exact ends _ (s := "ies") rfl (by decide)
        · exact ends w (s := "s") rfl (by decide)

theorem lowerFrom_eq_self {cs : List Char} (h : ∀ c ∈ cs, c.toNat ≠ 0x3A3 ∧ lowerOf c = [c])
    (before : List Char) : lowerFrom before cs = cs := by
  induction cs generalizing before with
  | nil => rfl
  | cons c cs ih =>
    obtain ⟨⟨hsigma, hc⟩, hcs⟩ := List.forall_mem_cons.mp h
    rw [lowerFrom, if_neg hsigma, hc, ih hcs]
    rfl

/-- A name in snake case is in small letters. -/
theorem toLower_snakeCase (s : String) : toLower (snakeCase s) = snakeCase s := by
  have hsmall : ∀ c ∈ (snakeCase s).toList, c.toNat ≠ 0x3A3 ∧ lowerOf c = [c] := by
    intro c hc
    have hcap := not_isUpper_of_mem_snakeCase hc
    rcases isWordChar_iff.mp (isWordChar_of_mem_snakeCase hc) with halnum | rfl
    · exact lowerOf_of_isAlphanum halnum hcap
    · decide
  rw [toLower, lowerFrom_eq_self hsmall, String.ofList_toList]

/-- **Tells whether a name leads with a digit**, as far as letters and digits go. -/
def leadsWithDigit (s : String) : Bool := (lead? s).any Char.isDigit

theorem leadsWithDigit_snakeCase (s : String) : leadsWithDigit (snakeCase s) = leadsWithDigit s := by
  rw [leadsWithDigit, lead?_snakeCase, leadsWithDigit]
  cases h : lead? s with
  | none => rfl
  | some c => exact isDigit_toLower (List.find?_some h)

/-- **Tells whether a name leads with a letter**, as far as letters and digits go. -/
def leadsWithLetter (s : String) : Bool := (lead? s).any Char.isAlpha

theorem leadsWithLetter_snakeCase (s : String) : leadsWithLetter (snakeCase s) = leadsWithLetter s := by
  rw [leadsWithLetter, lead?_snakeCase, leadsWithLetter]
  cases h : lead? s with
  | none => rfl
  | some c =>
    have hc := List.find?_some h
    rw [Option.map_some, Option.any_some, Option.any_some, Bool.eq_iff_iff,
      ← isDigit_eq_false_iff (isAlphanum_toLower hc), isDigit_toLower hc, isDigit_eq_false_iff hc]

theorem head?_irregularPlurals : ∀ e ∈ irregularPlurals, e.2.toList.head? = e.1.toList.head? := by
  decide

theorem length_of_endsInConsonantY {s : String} (h : endsInConsonantY s = true) :
    1 < s.toList.length := by
  unfold endsInConsonantY at h
  split at h
  · rename_i before rest hs
    rw [← List.length_reverse, hs]
    simp
  · cases h

/-- A plural starts as its noun does. -/
theorem head?_pluralize (s : String) :
    (pluralize (snakeCase s)).toList.head? = (snakeCase s).toList.head? := by
  unfold pluralize
  split
  · rename_i hempty
    rw [hempty]
  rename_i hne
  -- What stands in front decides, and every rule but the irregular nouns leaves it alone.
  have front : ∀ {t u : String}, t.toList.head? = (snakeCase s).toList.head? →
      (t ++ u).toList.head? = (snakeCase s).toList.head? := by
    intro t u ht
    obtain ⟨c, hc⟩ := Option.ne_none_iff_exists'.mp
      (mt List.head?_eq_none_iff.mp (mt String.toList_eq_nil_iff.mp hne))
    rw [head?_append (ht.trans hc), hc]
  rw [toLower_snakeCase]
  dsimp only
  split
  · rename_i plural hp
    exact head?_irregularPlurals _ (Table.mem_of_get? hp)
  · split
    · exact front rfl
    · split
      · rename_i hy
        refine front ?_
        have hlength := length_of_endsInConsonantY hy
        rw [dropEnd, String.toList_ofList, List.head?_take, if_neg (by omega)]
      · exact front rfl

theorem isAlphanum_of_head?_pluralize {s : String} {c : Char}
    (h : (pluralize (snakeCase s)).toList.head? = some c) : c.isAlphanum = true :=
  isAlphanum_of_head?_snakeCase (head?_pluralize s ▸ h)

/-- **A plural leads with a digit** where its noun does. -/
theorem leadsWithDigit_pluralize (s : String) :
    leadsWithDigit (pluralize (snakeCase s)) = leadsWithDigit s := by
  rw [leadsWithDigit, lead?_eq_head? fun _ => isAlphanum_of_head?_pluralize, head?_pluralize,
    head?_snakeCase, ← leadsWithDigit, leadsWithDigit_snakeCase]

theorem isWordChar_irregularPlurals : ∀ e ∈ irregularPlurals, e.2.toList.all isWordChar = true := by
  decide

/-- A plural consists of letters and digits of ASCII and underscores. -/
theorem isWordChar_of_mem_pluralize {s : String} {c : Char}
    (h : c ∈ (pluralize (snakeCase s)).toList) : isWordChar c = true := by
  have ending : ∀ {t u : String}, (∀ c ∈ t.toList, c ∈ (snakeCase s).toList) →
      u.toList.all isWordChar = true → c ∈ (t ++ u).toList → isWordChar c = true := by
    intro t u ht hu hc
    rw [String.toList_append] at hc
    rcases List.mem_append.mp hc with hc | hc
    · exact isWordChar_of_mem_snakeCase (ht c hc)
    · exact List.all_eq_true.mp hu c hc
  unfold pluralize at h
  split at h
  · cases h
  dsimp only at h
  split at h
  · rename_i plural hp
    exact List.all_eq_true.mp (isWordChar_irregularPlurals _ (Table.mem_of_get? hp)) c h
  · split at h
    · exact ending (fun _ => id) (by decide) h
    · split at h
      · refine ending (fun c hc => ?_) (by decide) h
        rw [dropEnd, String.toList_ofList] at hc
        exact List.mem_of_mem_take hc
      · exact ending (fun _ => id) (by decide) h

/-! ## 6. Identifiers -/

/-- **A text with underscores around it**, or none. -/
def Padded (s t : String) : Prop :=
  ∃ before after : List Char, (∀ c ∈ before, c = '_') ∧ (∀ c ∈ after, c = '_') ∧
    t.toList = before ++ s.toList ++ after

namespace Padded

variable {s t : String}

theorem refl (s : String) : Padded s s :=
  ⟨[], [], by simp, by simp, (List.append_nil _).symm⟩

theorem append (h : Padded s t) : Padded s (t ++ "_") := by
  obtain ⟨before, after, hb, ha, ht⟩ := h
  refine ⟨before, after ++ ['_'], hb, fun c hc => ?_, ?_⟩
  · exact (List.mem_append.mp hc).elim (ha c) List.mem_singleton.mp
  · rw [String.toList_append, ht, List.append_assoc]
    rfl

theorem ite (h : Padded s t) (b : Bool) : Padded s (if b then t ++ "_" else t) := by
  split
  · exact h.append
  · exact h

/-- A character of the text around is an underscore or one of the text inside. -/
theorem eq_or_mem (h : Padded s t) {c : Char} (hc : c ∈ t.toList) : c = '_' ∨ c ∈ s.toList := by
  obtain ⟨before, after, hb, ha, ht⟩ := h
  rw [ht, List.append_assoc] at hc
  rcases List.mem_append.mp hc with hc | hc
  · exact .inl (hb c hc)
  · exact (List.mem_append.mp hc).elim .inr fun hc => .inl (ha c hc)

/-- **A name with underscores around it** consists of letters and digits of ASCII and underscores. -/
theorem isWordChar_of_mem (h : Padded (snakeCase s) t) {c : Char} (hc : c ∈ t.toList) :
    isWordChar c = true := by
  rcases h.eq_or_mem hc with rfl | hc
  · rfl
  · exact isWordChar_of_mem_snakeCase hc

theorem of_safeName (s : String) : Padded s (safeName s) := by
  have led : Padded s (if startsWithDigit s then "_" ++ s else s) := by
    split
    · exact ⟨['_'], [], by simp, by simp, by rw [String.toList_append, List.append_nil]; rfl⟩
    · exact refl s
  unfold safeName
  split
  · rename_i he
    subst he
    exact ⟨['_'], [], by simp, by simp, rfl⟩
  · dsimp only
    generalize (if startsWithDigit s then "_" ++ s else s) = name at led ⊢
    split
    · exact led.append
    · exact led

/-- The underscores around a text come off again, where it has none at its ends. -/
theorem trimWhile_eq (h : Padded s t) (hhead : ∀ c, s.toList.head? = some c → c ≠ '_')
    (hlast : ∀ c, s.toList.getLast? = some c → c ≠ '_') :
    trimWhile (· = '_') t.toList = s.toList := by
  obtain ⟨before, after, hb, ha, ht⟩ := h
  rw [ht]
  exact trimWhile_append (fun c hc => decide_eq_true (hb c hc))
    (fun c hc => decide_eq_true (ha c hc)) (fun c hc => decide_eq_false (hhead c hc))
    fun c hc => decide_eq_false (hlast c hc)

end Padded

/-- A name that gets an underscore where it is one of some names is none of them. -/
theorem avoiding_not_mem {names : List String} (h : ∀ n ∈ names, n.toList.getLast? ≠ some '_')
    (base : String) : (if names.contains base then base ++ "_" else base) ∉ names := by
  split
  · exact fun hm => h _ hm (getLast?_append (s := base) (t := "_") rfl)
  · rename_i hb
    rwa [List.contains_iff_mem] at hb

/-- **An identifier starts with an underscore** where it is made from nothing or from what starts with a
    digit. -/
theorem head?_safeName {s : String} (h : ∀ c, s.toList.head? = some c → c.isAlphanum = true) :
    (safeName s).toList.head? = some ((s.toList.head?.filter Char.isAlpha).getD '_') := by
  unfold safeName
  split
  · rename_i hempty
    rw [hempty]
    rfl
  rename_i hne
  obtain ⟨c, hc⟩ := Option.ne_none_iff_exists'.mp
    (mt List.head?_eq_none_iff.mp (mt String.toList_eq_nil_iff.mp hne))
  have halpha := isDigit_eq_false_iff (h c hc)
  have hled : (if startsWithDigit s then "_" ++ s else s).toList.head? =
      some ((s.toList.head?.filter Char.isAlpha).getD '_') := by
    rw [startsWithDigit, hc, Option.map_some, Option.getD_some, isDigit_of_isAlphanum (h c hc),
      Option.filter_some]
    cases hd : c.isDigit with
    | true =>
      have hletter : c.isAlpha = false := by
        rw [← Bool.not_eq_true, ← halpha, hd]
        exact Bool.noConfusion
      rw [hletter, if_pos rfl, head?_append (c := '_') rfl]
      rfl
    | false =>
      rw [halpha.mp hd, if_neg Bool.false_ne_true, hc]
      rfl
  dsimp only
  generalize (if startsWithDigit s then "_" ++ s else s) = name at hled ⊢
  split
  · exact head?_append hled
  · exact hled

theorem safeName_ne_empty (s : String) : safeName s ≠ "" := by
  unfold safeName
  split
  · decide
  · rename_i hs
    dsimp only
    have led : (if startsWithDigit s then "_" ++ s else s) ≠ "" := by
      split
      · exact append_ne_empty (by decide) s
      · exact hs
    generalize (if startsWithDigit s then "_" ++ s else s) = name at led ⊢
    split
    · exact append_ne_empty led "_"
    · exact led

end ClientGen.Text
