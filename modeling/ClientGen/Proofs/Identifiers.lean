import ClientGen.Proofs.Evaluation

/-!
# Names in code

Code declares what it defines under a name and refers to what it uses by one; to what a module holds
it refers by the name of the module, a dot and a name. This file fixes

* `Text.IsLegal`, `Text.isLegal_iff`: the names under which code may declare something, letter by
  letter; `Text.isLegal_safeName`: every identifier is among them;
* `Text.namesIn`: the names that a text refers to, each up to its first dot;
* `Text.namesIn_append_mark`: texts with a mark between them refer to the names of both;
* `TypeExpr.namesIn_list`, `namesIn_dict`, `namesIn_optional`: the names of a type are those of its
  wrappers and of what they hold.
-/

namespace ClientGen

open ClientGen.Text

namespace Text

/-! ## 1. Names that may be declared -/

/-- **A name is legal** where code declares it: an identifier of letters and digits of ASCII and
    underscores, and no word that can never be a name. -/
structure IsLegal (s : String) : Prop where
  chars : s.toList.all isWordChar = true
  isName : isClassName s = true

/-- A character of a name may start one where it is no digit. -/
theorem isDigit_eq_false_iff_of_isWordChar {c : Char} (h : isWordChar c = true) :
    isDigit c = false ↔ c.isAlpha = true ∨ c = '_' := by
  rcases isWordChar_iff.mp h with halnum | rfl
  · have hmark : c ≠ '_' := by
      rintro rfl
      cases halnum
    rw [isDigit_of_isAlphanum halnum, isDigit_eq_false_iff halnum, or_iff_left hmark]
  · exact iff_of_true (by decide) (.inr rfl)

/-- **What a legal name is**: a letter of ASCII or an underscore, then letters, digits and underscores,
    and no word that can never be a name. -/
theorem isLegal_iff {s : String} : IsLegal s ↔
    (∃ c cs, s.toList = c :: cs ∧ (c.isAlpha = true ∨ c = '_') ∧ ∀ d ∈ cs, isWordChar d = true) ∧
      s ∉ hardKeywords := by
  have hname : isClassName s = true ↔
      (s ≠ "" ∧ startsWithDigit s = false) ∧ s ∉ hardKeywords := by
    rw [isClassName, Bool.and_eq_true, Bool.and_eq_true, Bool.not_eq_true', Bool.not_eq_true',
      decide_eq_true_eq, ← Bool.not_eq_true (hardKeywords.contains s), List.contains_iff_mem]
  constructor
  · rintro ⟨hchars, h⟩
    obtain ⟨⟨hne, hdigit⟩, hkeyword⟩ := hname.mp h
    obtain ⟨c, cs, hs⟩ := List.exists_cons_of_ne_nil (mt String.toList_eq_nil_iff.mp hne)
    rw [hs, List.all_eq_true, List.forall_mem_cons] at hchars
    rw [startsWithDigit, hs] at hdigit
    exact ⟨⟨c, cs, hs, (isDigit_eq_false_iff_of_isWordChar hchars.1).mp hdigit, hchars.2⟩, hkeyword⟩
  · rintro ⟨⟨c, cs, hs, hstart, hcs⟩, hkeyword⟩
    have hc : isWordChar c = true := by
      rcases hstart with halpha | rfl
      · exact isWordChar_iff.mpr (.inl (Bool.or_eq_true_iff.mpr (.inl halpha)))
      · rfl
    refine ⟨?_, hname.mpr ⟨⟨?_, ?_⟩, hkeyword⟩⟩
    · rw [hs, List.all_eq_true, List.forall_mem_cons]
      exact ⟨hc, hcs⟩
    · rintro rfl
      cases hs
    · rw [startsWithDigit, hs]
      exact (isDigit_eq_false_iff_of_isWordChar hc).mpr hstart

/-- **A name that starts with a letter or digit of ASCII** is legal where this is a letter and the name
    is no word that can never be one. -/
theorem isLegal_iff_of_head? {s : String} (hchars : s.toList.all isWordChar = true)
    (hhead : ∀ c, s.toList.head? = some c → c.isAlphanum = true) :
    IsLegal s ↔ s.toList.head?.any Char.isAlpha = true ∧ s ∉ hardKeywords := by
  rw [isLegal_iff]
  refine and_congr_left fun _ => ?_
  cases hs : s.toList with
  | nil =>
    refine iff_of_false ?_ Bool.false_ne_true
    rintro ⟨c, cs, ⟨⟩, _⟩
  | cons c cs =>
    rw [hs, List.all_eq_true, List.forall_mem_cons] at hchars
    have hmark : c ≠ '_' := by
      rintro rfl
      cases hhead '_' (by rw [hs, List.head?_cons])
    rw [List.head?_cons, Option.any_some]
    constructor
    · rintro ⟨_, _, ⟨⟩, halpha, _⟩
      exact halpha.resolve_right hmark
    · exact fun halpha => ⟨c, cs, rfl, .inl halpha, hchars.2⟩

/-- Letters and digits are a legal name where the first one is a letter and they are no word that
    can never be one. -/
theorem isLegal_iff_of_isAlphanum {s : String} (h : ∀ c ∈ s.toList, c.isAlphanum = true) :
    IsLegal s ↔ s.toList.head?.any Char.isAlpha = true ∧ s ∉ hardKeywords := by
  have hchars : s.toList.all isWordChar = true :=
    List.all_eq_true.mpr fun c hc => isWordChar_iff.mpr (.inl (h c hc))
  exact isLegal_iff_of_head? hchars fun c hc => h c (List.mem_of_head? hc)

/-- An underscore at the end keeps a name from being a reserved word. -/
theorem isLegal_append_underscore {s : String} (hs : s.toList.all isWordChar = true)
    (hd : startsWithDigit s = false) : IsLegal (s ++ "_") := by
  have ends : ∀ w ∈ hardKeywords, w.toList.getLast? ≠ some '_' := by decide
  have hkeyword : s ++ "_" ∉ hardKeywords := fun hm =>
    ends _ hm (getLast?_append (s := s) (t := "_") rfl)
  have hne : s ++ "_" ≠ "" := fun h => by simpa using congrArg String.toList h
  have hdigit : startsWithDigit (s ++ "_") = false := by
    unfold startsWithDigit at hd ⊢
    rw [String.toList_append, List.head?_append]
    cases hc : s.toList.head? with
    | none => rfl
    | some c => rwa [hc] at hd
  constructor
  · exact all_isWordChar_append hs rfl
  · rw [isClassName, hdigit, decide_eq_true hne,
      Bool.eq_false_iff.mpr (mt List.contains_iff_mem.mp hkeyword)]
    rfl

theorem IsLegal.startsWithDigit_eq_false {s : String} (h : IsLegal s) : startsWithDigit s = false := by
  have hn := h.isName
  rw [isClassName, Bool.and_eq_true, Bool.and_eq_true, Bool.not_eq_true'] at hn
  exact hn.1.2

theorem IsLegal.append_underscore {s : String} (h : IsLegal s) : IsLegal (s ++ "_") :=
  isLegal_append_underscore h.chars h.startsWithDigit_eq_false

/-- A legal name stays one whether an underscore is put behind it or not. -/
theorem IsLegal.ite {s : String} (h : IsLegal s) (b : Bool) : IsLegal (if b then s ++ "_" else s) := by
  split
  · exact h.append_underscore
  · exact h

/-- **An identifier is a legal name**, whatever letters, digits and underscores it is made from. -/
theorem isLegal_safeName {s : String} (hs : s.toList.all isWordChar = true) :
    IsLegal (safeName s) := by
  unfold safeName
  split
  · exact ⟨by decide, by decide⟩
  rename_i hne
  dsimp only
  have led : (if startsWithDigit s then "_" ++ s else s).toList.all isWordChar = true ∧
      startsWithDigit (if startsWithDigit s then "_" ++ s else s) = false ∧
      (if startsWithDigit s then "_" ++ s else s) ≠ "" := by
    split
    · refine ⟨all_isWordChar_append rfl hs, ?_, append_ne_empty (by decide) s⟩
      rw [startsWithDigit, String.toList_append]
      rfl
    · rename_i hd
      exact ⟨hs, Bool.eq_false_iff.mpr hd, hne⟩
  generalize (if startsWithDigit s then "_" ++ s else s) = name at led ⊢
  obtain ⟨hchars, hdigit, hname⟩ := led
  split
  · exact isLegal_append_underscore hchars hdigit
  · rename_i hk
    rw [isKeyword, Bool.or_eq_true, not_or] at hk
    refine ⟨hchars, ?_⟩
    rw [isClassName, hdigit, decide_eq_true hname, Bool.eq_false_iff.mpr hk.1]
    rfl

/-- **A name of any spelling is made into a legal one.** -/
theorem isLegal_safeName_snakeCase (s : String) : IsLegal (safeName (snakeCase s)) :=
  isLegal_safeName (all_isWordChar_snakeCase s)

/-! ## 2. Names that a text refers to -/

/-- **Names that a text refers to**: its stretches of letters, digits, underscores and dots, each
    up to its first dot. -/
def namesIn (s : String) : List String :=
  (runsOf Expression.isNameChar s.toList).map fun run => String.ofList (run.takeWhile (· ≠ '.'))

/-- Texts with a mark between them that is part of no name refer to the names of both. -/
theorem namesIn_append_mark {mark : Char} (h : Expression.isNameChar mark = false) (s t : String) :
    namesIn (s ++ String.singleton mark ++ t) = namesIn s ++ namesIn t := by
  have hlist : (s ++ String.singleton mark ++ t).toList = s.toList ++ mark :: t.toList := by
    rw [String.toList_append, String.toList_append, String.toList_singleton, List.append_assoc,
      List.singleton_append]
  have hstop : ∀ c, (mark :: t.toList).head? = some c → Expression.isNameChar c = false := by
    rintro c ⟨⟩
    exact h
  rw [namesIn, hlist, runsOf_append hstop, runsOf_cons_of_neg h, List.map_append, namesIn, namesIn]

theorem namesIn_empty : namesIn "" = [] := rfl

/-- A mark behind a text, or before it, adds no name. -/
theorem namesIn_mark_end {mark : Char} (h : Expression.isNameChar mark = false) (s : String) :
    namesIn (s ++ String.singleton mark) = namesIn s := by
  rw [← String.append_empty (s := s ++ String.singleton mark), namesIn_append_mark h, namesIn_empty,
    List.append_nil]

theorem namesIn_mark_start {mark : Char} (h : Expression.isNameChar mark = false) (s : String) :
    namesIn (String.singleton mark ++ s) = namesIn s := by
  rw [← String.empty_append (s := String.singleton mark), namesIn_append_mark h, namesIn_empty,
    List.nil_append]

/-- What a module holds is referred to by the name of the module. -/
theorem namesIn_dotted {owner name : String} (howner : owner.toList.all isWordChar = true)
    (hname : name.toList.all isWordChar = true) : namesIn (owner ++ "." ++ name) = [owner] := by
  rw [List.all_eq_true] at howner hname
  have word : ∀ c, isWordChar c = true → Expression.isNameChar c = true := by
    intro c hc
    rw [Expression.isNameChar, ← isWordChar, hc, Bool.true_or]
  have hlist : (owner ++ "." ++ name).toList = owner.toList ++ '.' :: name.toList := by
    rw [String.toList_append, String.toList_append, List.append_assoc]
    rfl
  have hrun : ∀ c ∈ owner.toList ++ '.' :: name.toList, Expression.isNameChar c = true := by
    intro c hc
    rcases List.mem_append.mp hc with hc | hc
    · exact word c (howner c hc)
    · rcases List.mem_cons.mp hc with rfl | hc
      · rfl
      · exact word c (hname c hc)
  have hlead : ∀ c ∈ owner.toList, decide (c ≠ '.') = true := by
    intro c hc
    refine decide_eq_true ?_
    rintro rfl
    exact absurd (howner _ hc) (by decide)
  have hdot : ∀ c, ('.' :: name.toList).head? = some c → decide (c ≠ '.') = false := by
    rintro c ⟨⟩
    decide
  rw [namesIn, hlist, runsOf_of_forall (by simp) hrun, List.map_singleton,
    takeWhile_append_of_stop hlead hdot, String.ofList_toList]

end Text

/-! ## 3. Names of types -/

namespace TypeExpr

theorem namesIn_wrap (w inner : String) :
    namesIn (w ++ "[" ++ inner ++ "]") = namesIn w ++ namesIn inner := by
  have hclose : namesIn (w ++ "[" ++ inner ++ "]") = namesIn (w ++ "[" ++ inner) :=
    namesIn_mark_end (show Expression.isNameChar ']' = false from rfl) _
  have hopen : namesIn (w ++ "[" ++ inner) = namesIn w ++ namesIn inner :=
    namesIn_append_mark (show Expression.isNameChar '[' = false from rfl) _ _
  rw [hclose, hopen]

theorem namesIn_list (t : TypeExpr) : namesIn t.list.text = "List" :: namesIn t.text :=
  namesIn_wrap "List" t.text

theorem namesIn_optional (t : TypeExpr) : namesIn t.optional.text = "Optional" :: namesIn t.text :=
  namesIn_wrap "Optional" t.text

theorem namesIn_dict (t : TypeExpr) : namesIn t.dict.text = "Dict" :: "str" :: namesIn t.text := by
  have hcomma : namesIn ("str" ++ "," ++ (" " ++ t.text)) = namesIn "str" ++ namesIn (" " ++ t.text) :=
    namesIn_append_mark (show Expression.isNameChar ',' = false from rfl) _ _
  have hblank : namesIn (" " ++ t.text) = namesIn t.text :=
    namesIn_mark_start (show Expression.isNameChar ' ' = false from rfl) _
  have htext : t.dict.text = "Dict" ++ "[" ++ ("str" ++ "," ++ (" " ++ t.text)) ++ "]" := by
    rw [← String.append_assoc]
    rfl
  rw [htext, namesIn_wrap, hcomma, hblank]
  rfl

end TypeExpr

end ClientGen
