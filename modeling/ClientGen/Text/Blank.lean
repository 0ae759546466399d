import ClientGen.Text.Ranges

/-!
# Blank characters

White space in the wide sense: spaces and line breaks of every script, the four
information separators, and the next-line control. Trimming removes them at the
ends of a text; a line of nothing else counts as empty.
-/
namespace ClientGen.Text

/-- White space, the information separators U+001C to U+001F included. -/
def blankRanges : List CodeRange :=
  [⟨0x9, 0xD, 1⟩, ⟨0x1C, 0x20, 1⟩, ⟨0x85, 0x85, 1⟩, ⟨0xA0, 0xA0, 1⟩, ⟨0x1680, 0x1680, 1⟩,
   ⟨0x2000, 0x200A, 1⟩, ⟨0x2028, 0x2029, 1⟩, ⟨0x202F, 0x202F, 1⟩, ⟨0x205F, 0x205F, 1⟩,
   ⟨0x3000, 0x3000, 1⟩]

/-- Tells whether a character is white space. -/
def isBlank (c : Char) : Bool := inRanges blankRanges c

/-- Tells whether a text has no character but white space. -/
def allBlank (cs : List Char) : Bool := cs.all isBlank

/-- A run of characters with `p` stops where the next one has no `p`. -/
theorem takeWhile_append_of_stop {p : Char → Bool} {cs rest : List Char}
    (h : ∀ c ∈ cs, p c = true) (hstop : ∀ c, rest.head? = some c → p c = false) :
    (cs ++ rest).takeWhile p = cs := by
  rw [List.takeWhile_append_of_pos h]
  cases rest with
  | nil => exact List.append_nil cs
  | cons c rest => rw [List.takeWhile_cons_of_neg (by simp [hstop c rfl]), List.append_nil]

/-- Behind a run of characters with `p` is what starts with none. -/
theorem dropWhile_append_of_stop {p : Char → Bool} {cs rest : List Char}
    (h : ∀ c ∈ cs, p c = true) (hstop : ∀ c, rest.head? = some c → p c = false) :
    (cs ++ rest).dropWhile p = rest := by
  rw [List.dropWhile_append_of_pos h]
  cases rest with
  | nil => rfl
  | cons c rest => rw [List.dropWhile_cons_of_neg (by simp [hstop c rfl])]

/-- Drops the longest run of characters with `p` at the end. -/
def dropEndWhile (p : Char → Bool) (cs : List Char) : List Char :=
  (cs.reverse.dropWhile p).reverse

/-- What is kept at the end has no `p`. -/
theorem getLast?_dropEndWhile {p : Char → Bool} {cs : List Char} {c : Char}
    (h : (dropEndWhile p cs).getLast? = some c) : p c = false := by
  have hn := List.head?_dropWhile_not p cs.reverse
  rw [dropEndWhile, List.getLast?_reverse] at h
  rw [h] at hn
  exact hn

/-- What is dropped at the end holds only characters with `p`. -/
theorem exists_eq_dropEndWhile_append (p : Char → Bool) (cs : List Char) :
    ∃ tail, cs = dropEndWhile p cs ++ tail ∧ ∀ c ∈ tail, p c = true := by
  refine ⟨(cs.reverse.takeWhile p).reverse, ?_, fun c hc => ?_⟩
  · rw [dropEndWhile, ← List.reverse_append, List.takeWhile_append_dropWhile,
      List.reverse_reverse]
  · exact List.all_eq_true.mp List.all_takeWhile c (List.mem_reverse.mp hc)

/-- Drops the longest runs of characters with `p` at both ends. -/
def trimWhile (p : Char → Bool) (cs : List Char) : List Char :=
  dropEndWhile p (cs.dropWhile p)

/-- Trimming takes off what has `p` around a text that has no `p` at its ends. -/
theorem trimWhile_append {p : Char → Bool} {before cs after : List Char}
    (hbefore : ∀ c ∈ before, p c = true) (hafter : ∀ c ∈ after, p c = true)
    (hhead : ∀ c, cs.head? = some c → p c = false)
    (hlast : ∀ c, cs.getLast? = some c → p c = false) :
    trimWhile p (before ++ cs ++ after) = cs := by
  cases hcs : cs with
  | nil =>
    have hall : ∀ c ∈ before ++ after, p c = true := by
      intro c hc
      exact (List.mem_append.mp hc).elim (hbefore c) (hafter c)
    have hnil : (before ++ after ++ []).dropWhile p = [] :=
      dropWhile_append_of_stop hall fun c hc => by cases hc
    rw [List.append_nil] at hnil
    rw [trimWhile, List.append_nil, hnil]
    rfl
  | cons c rest =>
    have hfront : ∀ d, (cs ++ after).head? = some d → p d = false := by
      intro d hd
      rw [hcs, List.cons_append] at hd
      exact hhead d (by rw [hcs]; exact hd)
    have hback : ∀ d, cs.reverse.head? = some d → p d = false := by
      intro d hd
      exact hlast d (by rw [← List.head?_reverse, hd])
    have hafter' : ∀ d ∈ after.reverse, p d = true := fun d hd => hafter d (List.mem_reverse.mp hd)
    rw [← hcs, trimWhile, List.append_assoc, dropWhile_append_of_stop hbefore hfront, dropEndWhile,
      List.reverse_append, dropWhile_append_of_stop hafter' hback, List.reverse_reverse]

/-- Trimming leaves alone what does not begin or end with a character to be trimmed. -/
theorem trimWhile_eq_self_iff {p : Char → Bool} {cs : List Char} : trimWhile p cs = cs ↔
    (∀ c, cs.head? = some c → p c = false) ∧ ∀ c, cs.getLast? = some c → p c = false := by
  constructor
  · intro h
    have hdrop : cs.dropWhile p = cs := by
      refine (List.dropWhile_suffix p).eq_of_length_le ?_
      obtain ⟨tail, htail, _⟩ := exists_eq_dropEndWhile_append p (cs.dropWhile p)
      have hlength := congrArg List.length htail
      rw [← trimWhile, h, List.length_append] at hlength
      omega
    refine ⟨fun c hc => ?_, fun c hc => getLast?_dropEndWhile (h.symm ▸ hc)⟩
    have hhead := List.head?_dropWhile_not p cs
    rw [hdrop, hc] at hhead
    exact hhead
  · rintro ⟨hhead, hlast⟩
    have hnone : ∀ d ∈ ([] : List Char), p d = true := fun _ hd => nomatch hd
    have h := trimWhile_append hnone hnone hhead hlast
    rwa [List.nil_append, List.append_nil] at h

/-- There is nothing left to trim. -/
theorem trimWhile_trimWhile (p : Char → Bool) (cs : List Char) :
    trimWhile p (trimWhile p cs) = trimWhile p cs := by
  refine trimWhile_eq_self_iff.mpr ⟨fun c hc => ?_, fun c hc => getLast?_dropEndWhile hc⟩
  obtain ⟨tail, htail, _⟩ := exists_eq_dropEndWhile_append p (cs.dropWhile p)
  have hn := List.head?_dropWhile_not p cs
  rw [htail, List.head?_append, ← trimWhile, hc] at hn
  exact hn

/-- There is nothing to trim where no character has `p`. -/
theorem trimWhile_eq_self {p : Char → Bool} {cs : List Char} (h : ∀ c ∈ cs, p c = false) :
    trimWhile p cs = cs :=
  trimWhile_eq_self_iff.mpr
    ⟨fun c hc => h c (List.mem_of_head? hc), fun c hc => h c (List.mem_of_getLast? hc)⟩

/-- Text without the white space at its ends. -/
def trim (s : String) : String := String.ofList (trimWhile isBlank s.toList)

/-- Text without the white space at its end. -/
def trimEnd (s : String) : String := String.ofList (dropEndWhile isBlank s.toList)

end ClientGen.Text
