import ClientGen.Text.Quoted

/-!
# Literals between double quotes

Some texts of a description are put between double quotes of the generated code as they are. What
such a literal stands for depends on its characters: a backslash may begin an escape, a double quote
or a line end closes the literal too early, and braces open fields where the literal is an
interpolated one. This file fixes

* `readFrom`, `read`: what a body stands for, read step by step;
* `plainStep`, `Escapes`: the steps of a plain literal, and what a backslash begins;
* `isVerbatim`, `read_eq_self_iff`: the bodies that stand for themselves;
* `count_read`: a body that stands for a text with as many backslashes as its own;
* `fieldStep`: the steps of an interpolated literal.

The table of characters by name is not part of the library. Whatever it is, the names are made of
letters, digits, spaces and hyphens.
-/

namespace ClientGen.Literal

open ClientGen.Text

/-! ## 1. Step by step -/

section Steps

variable {step : Char → List Char → Option (List Char × Nat)} {c : Char} {cs vs : List Char}

/-- Characters that a body stands for behind its first `n`, which a step before has taken. A step says
    what a character stands for, seeing those behind it, and how many of these it takes. -/
def readFrom (step : Char → List Char → Option (List Char × Nat)) : Nat → List Char → Option (List Char)
  | _, [] => some []
  | n + 1, _ :: cs => readFrom step n cs
  | 0, c :: cs => do
    let (value, taken) ← step c cs
    return value ++ (← readFrom step taken cs)

/-- **Characters that a body stands for**, if it is one. -/
def read (step : Char → List Char → Option (List Char × Nat)) (cs : List Char) : Option (List Char) :=
  readFrom step 0 cs

theorem readFrom_eq_read (n : Nat) (cs : List Char) : readFrom step n cs = read step (cs.drop n) := by
  induction cs generalizing n with
  | nil => rw [List.drop_nil, readFrom, read, readFrom]
  | cons c cs ih =>
    cases n with
    | zero => rfl
    | succ n => rw [readFrom, ih, List.drop_succ_cons]

theorem read_nil : read step [] = some [] := rfl

theorem read_cons : read step (c :: cs) = (step c cs).bind fun r =>
    (read step (cs.drop r.2)).map (r.1 ++ ·) := by
  rw [read, readFrom]
  cases step c cs with
  | none => rfl
  | some r =>
    rw [Option.bind_some, ← readFrom_eq_read]
    change (readFrom step r.2 cs).bind _ = _
    cases readFrom step r.2 cs <;> rfl

theorem read_cons_eq_some_iff : read step (c :: cs) = some vs ↔ ∃ value taken rest,
    step c cs = some (value, taken) ∧ read step (cs.drop taken) = some rest ∧ vs = value ++ rest := by
  rw [read_cons, Option.bind_eq_some_iff]
  constructor
  · rintro ⟨⟨value, taken⟩, hs, h⟩
    obtain ⟨rest, hr, rfl⟩ := Option.map_eq_some_iff.mp h
    exact ⟨value, taken, rest, hs, hr, rfl⟩
  · rintro ⟨value, taken, rest, hs, hr, rfl⟩
    exact ⟨(value, taken), hs, Option.map_eq_some_iff.mpr ⟨rest, hr, rfl⟩⟩

/-- A character that stands for itself is kept. -/
theorem read_cons_of_keeps (h : step c cs = some ([c], 0)) :
    read step (c :: cs) = (read step cs).map (c :: ·) := by
  rw [read_cons, h]
  rfl

/-- **Induction along a reading**: what holds of the empty body and goes over from what a step leaves
    to what it stood before holds of every body that is read. -/
theorem read_induction {P : List Char → List Char → Prop} (nil : P [] [])
    (cons : ∀ c cs value taken rest, step c cs = some (value, taken) →
      P (cs.drop taken) rest → P (c :: cs) (value ++ rest))
    (h : read step cs = some vs) : P cs vs := by
  have hfrom : ∀ n vs, readFrom step n cs = some vs → P (cs.drop n) vs := by
    clear h
    induction cs with
    | nil =>
      intro n vs h
      rw [readFrom] at h
      cases h
      rw [List.drop_nil]
      exact nil
    | cons c cs ih =>
      intro n vs h
      cases n with
      | succ n =>
        rw [List.drop_succ_cons]
        exact ih n vs h
      | zero =>
        obtain ⟨value, taken, rest, hs, hr, rfl⟩ := read_cons_eq_some_iff.mp h
        rw [← readFrom_eq_read] at hr
        exact cons c cs value taken rest hs (ih taken rest hr)
  exact hfrom 0 vs h

/-- **No step adds characters**: it stands for as many as it takes at most. -/
def NeverGrows (step : Char → List Char → Option (List Char × Nat)) : Prop :=
  ∀ c cs value taken, step c cs = some (value, taken) →
    taken ≤ cs.length ∧ value.length ≤ taken + 1

theorem length_read_le (hg : NeverGrows step) (h : read step cs = some vs) :
    vs.length ≤ cs.length := by
  refine read_induction (P := fun cs vs => vs.length ≤ cs.length) (Nat.le_refl 0) ?_ h
  intro c cs value taken rest hs hrest
  obtain ⟨ht, hv⟩ := hg c cs value taken hs
  rw [List.length_drop] at hrest
  rw [List.length_append, List.length_cons]
  omega

/-- Where a body stands for as many characters as it has, so does each of its steps. -/
theorem read_cons_of_length_eq (hg : NeverGrows step) (h : read step (c :: cs) = some vs)
    (hl : vs.length = (c :: cs).length) : ∃ value taken rest, step c cs = some (value, taken) ∧
      value.length = taken + 1 ∧ read step (cs.drop taken) = some rest ∧
      rest.length = (cs.drop taken).length ∧ vs = value ++ rest := by
  obtain ⟨value, taken, rest, hs, hr, rfl⟩ := read_cons_eq_some_iff.mp h
  obtain ⟨ht, hv⟩ := hg c cs value taken hs
  have hrest := length_read_le hg hr
  rw [List.length_append, List.length_cons] at hl
  rw [List.length_drop] at hrest
  refine ⟨value, taken, rest, hs, by omega, hr, ?_, rfl⟩
  rw [List.length_drop]
  omega

end Steps

/-! ## 2. Plain literals -/

/-- Tells whether a character ends a line. -/
def isLineEnd (c : Char) : Bool := c = '\n' || c = '\r'

/-- Tells whether a character other than a backslash may stand in a body: it closes nothing, and it is
    a character of source code. -/
def isBare (c : Char) : Bool :=
  c ≠ '"' && !isLineEnd c && c.toNat ≠ 0 && !isStandIn c

/-- Characters that stand for one of their own behind a backslash. -/
def letterEscapes : List (Char × Char) :=
  [('\\', '\\'), ('\'', '\''), ('"', '"'), ('a', '\x07'), ('b', '\x08'), ('f', '\x0c'),
   ('n', '\n'), ('r', '\r'), ('t', '\t'), ('v', '\x0b')]

/-- Letters behind a backslash that as many hexadecimal digits follow. -/
def hexWidths : List (Char × Nat) := [('x', 2), ('u', 4), ('U', 8)]

/-- Tells whether a character is an octal digit. -/
def isOctal (c : Char) : Bool := '0' ≤ c && c ≤ '7'

/-- Tells whether a backslash begins an escape before a character. -/
def beginsEscape (d : Char) : Bool :=
  isLineEnd d || d = 'N' || isOctal d || (hexWidths.lookup d).isSome || (letterEscapes.lookup d).isSome

/-- Number of octal digits. -/
def octalNumber (cs : List Char) : Nat := cs.foldl (fun n c => 8 * n + (c.toNat - 48)) 0

/-- Character that up to three octal digits give, the first of which is `d`. -/
def octalCode (d : Char) (cs : List Char) : List Char × Nat :=
  let digits := d :: (cs.take 2).takeWhile isOctal
  ([charOf (octalNumber digits)], digits.length)

/-- Character that exactly `width` hexadecimal digits give, behind a letter. -/
def hexCode (width : Nat) (cs : List Char) : Option (List Char × Nat) := do
  let n ← hexNumber? (cs.take width)
  if width ≤ cs.length && n < 0x110000 then some ([charOf n], width + 1) else none

/-- Tells whether a character may stand in the name of one. -/
def isNameLetter (c : Char) : Bool := c.isAlphanum || c = ' ' || c = '-'

/-- Character of a name between braces, behind a letter. -/
def nameCode (byName : List Char → Option Char) : List Char → Option (List Char × Nat)
  | '\x7b' :: cs => do
    let name := cs.takeWhile isNameLetter
    let c ← byName name
    if (cs.drop name.length).head? = some '\x7d' then some ([c], name.length + 3) else none
  | _ => none

/-- What a backslash stands for with what is behind it, and how much of that is taken. Before a line
    end it joins lines; before a character that begins no escape it is kept. -/
def escape (byName : List Char → Option Char) : List Char → Option (List Char × Nat)
  | [] => none
  | d :: cs =>
    if isLineEnd d then some ([], if d = '\r' && cs.head? = some '\n' then 2 else 1)
    else if d = 'N' then nameCode byName cs
    else if isOctal d then some (octalCode d cs)
    else match hexWidths.lookup d, letterEscapes.lookup d with
      | some width, _ => hexCode width cs
      | none, some c => some ([c], 1)
      | none, none => some (['\\'], 0)

/-- Step of a plain literal. -/
def plainStep (byName : List Char → Option Char) (c : Char) (cs : List Char) :
    Option (List Char × Nat) :=
  if c = '\\' then escape byName cs else if isBare c then some ([c], 0) else none

/-! ## 3. What a backslash begins -/

/-- Tells whether a character is neither a line feed nor a tab. -/
def isInner (d : Char) : Bool := d ≠ '\n' && d ≠ '\t'

/-- **What a backslash begins**: nothing, so that it is kept; a joint of two lines, which stands for
    nothing; or an escape, which stands for one character and is written without line feeds and
    tabs. -/
inductive Escapes : List Char → List Char → Nat → Prop
  | kept {d : Char} {cs : List Char} (hd : beginsEscape d = false) : Escapes (d :: cs) ['\\'] 0
  | joined {row cs : List Char} (hne : row ≠ []) : Escapes (row ++ cs) [] row.length
  | char {row cs : List Char} {v : Char} (hne : row ≠ []) (hinner : ∀ d ∈ row, isInner d = true) :
      Escapes (row ++ cs) [v] row.length

section Escapes

variable {byName : List Char → Option Char} {cs value : List Char} {d : Char} {n taken : Nat}

theorem isInner_of {p : Char → Bool} (hn : p '\n' = false) (ht : p '\t' = false)
    (h : p d = true) : isInner d = true := by
  have hn : d ≠ '\n' := by
    rintro rfl
    exact Bool.false_ne_true (hn.symm.trans h)
  have ht : d ≠ '\t' := by
    rintro rfl
    exact Bool.false_ne_true (ht.symm.trans h)
  rw [isInner, decide_eq_true hn, decide_eq_true ht]
  rfl

theorem isInner_of_hexNumber? {acc : Option Nat}
    (h : cs.foldl (fun acc c => do return 16 * (← acc) + (← hexValue? c)) acc = some n) :
    acc.isSome = true ∧ ∀ d ∈ cs, isInner d = true := by
  induction cs generalizing acc with
  | nil =>
    rw [List.foldl_nil] at h
    exact ⟨h ▸ rfl, fun d hd => nomatch hd⟩
  | cons c cs ih =>
    obtain ⟨hacc, hcs⟩ := ih h
    obtain ⟨_, hstep⟩ := Option.isSome_iff_exists.mp hacc
    obtain ⟨m, hm, hstep⟩ := Option.bind_eq_some_iff.mp hstep
    obtain ⟨v, hv, _⟩ := Option.bind_eq_some_iff.mp hstep
    refine ⟨hm ▸ rfl, fun d hd => ?_⟩
    rcases List.mem_cons.mp hd with rfl | hd
    · exact isInner_of (p := fun c => (hexValue? c).isSome) rfl rfl (hv ▸ rfl)
    · exact hcs d hd

theorem escapes_of_hexCode {width : Nat} (hd : isInner d = true)
    (h : hexCode width cs = some (value, taken)) : Escapes (d :: cs) value taken := by
  obtain ⟨m, hm, h⟩ := Option.bind_eq_some_iff.mp h
  split at h
  · rename_i hw
    cases h
    rw [Bool.and_eq_true, decide_eq_true_eq] at hw
    have hrow : Escapes ((d :: cs.take width) ++ cs.drop width) [charOf m]
        (d :: cs.take width).length := by
      refine .char (List.cons_ne_nil _ _) fun e he => ?_
      rcases List.mem_cons.mp he with rfl | he
      · exact hd
      · exact (isInner_of_hexNumber? hm).2 e he
    rwa [List.cons_append, List.take_append_drop, List.length_cons, List.length_take_of_le hw.1]
      at hrow
  · cases h

theorem escapes_of_nameCode (hd : isInner d = true)
    (h : nameCode byName cs = some (value, taken)) : Escapes (d :: cs) value taken := by
  unfold nameCode at h
  split at h
  · rename_i cs
    obtain ⟨c, _, h⟩ := Option.bind_eq_some_iff.mp h
    split at h
    · rename_i hclose
      cases h
      have hletters : ∀ e ∈ cs.takeWhile isNameLetter, isNameLetter e = true :=
        List.all_eq_true.mp List.all_takeWhile
      have hcs := List.prefix_iff_eq_append.mp (List.takeWhile_prefix isNameLetter (l := cs))
      obtain ⟨rest, hrest⟩ := List.head?_eq_some_iff.mp hclose
      rw [hrest] at hcs
      generalize cs.takeWhile isNameLetter = name at hcs hletters
      rw [← hcs]
      have hinner : ∀ e ∈ d :: '\x7b' :: (name ++ ['\x7d']), isInner e = true := by
        intro e he
        simp only [List.mem_cons, List.mem_append, List.not_mem_nil, or_false] at he
        rcases he with rfl | rfl | he | rfl
        · exact hd
        · rfl
        · exact isInner_of rfl rfl (hletters e he)
        · rfl
      have hrow : Escapes ((d :: '\x7b' :: (name ++ ['\x7d'])) ++ rest) [c] _ :=
        .char (List.cons_ne_nil _ _) hinner
      have hlength : (d :: '\x7b' :: (name ++ ['\x7d'])).length = name.length + 3 := by
        simp only [List.length_cons, List.length_append, List.length_nil]
      rwa [hlength, List.cons_append, List.cons_append, List.append_assoc] at hrow
    · cases h
  · cases h

theorem escapes_octalCode (hd : isOctal d = true) (cs : List Char) :
    Escapes (d :: cs) (octalCode d cs).1 (octalCode d cs).2 := by
  have hpre : (cs.take 2).takeWhile isOctal <+: cs :=
    (List.takeWhile_prefix _).trans (List.take_prefix 2 cs)
  obtain ⟨rest, hrest⟩ := hpre
  have hinner : ∀ e ∈ d :: (cs.take 2).takeWhile isOctal, isInner e = true := by
    intro e he
    refine isInner_of rfl rfl (show isOctal e = true from ?_)
    rcases List.mem_cons.mp he with rfl | he
    · exact hd
    · exact List.all_eq_true.mp List.all_takeWhile e he
  have hrow : Escapes ((d :: (cs.take 2).takeWhile isOctal) ++ rest) (octalCode d cs).1
      (octalCode d cs).2 := .char (List.cons_ne_nil _ _) hinner
  rwa [List.cons_append, hrest] at hrow

theorem escapes_of_lineEnd (d : Char) (cs : List Char) :
    Escapes (d :: cs) [] (if d = '\r' && cs.head? = some '\n' then 2 else 1) := by
  split
  · rename_i hpair
    rw [Bool.and_eq_true, decide_eq_true_eq, decide_eq_true_eq] at hpair
    obtain ⟨rest, rfl⟩ := List.head?_eq_some_iff.mp hpair.2
    have hrow : Escapes ([d, '\n'] ++ rest) [] [d, '\n'].length := .joined (List.cons_ne_nil _ _)
    exact hrow
  · have hrow : Escapes ([d] ++ cs) [] [d].length := .joined (List.cons_ne_nil _ _)
    exact hrow

theorem escapes_of_escape (h : escape byName cs = some (value, taken)) : Escapes cs value taken := by
  cases cs with
  | nil => cases h
  | cons d cs =>
    rw [escape] at h
    by_cases hend : isLineEnd d = true
    · rw [if_pos hend] at h
      cases h
      exact escapes_of_lineEnd d cs
    rw [if_neg hend] at h
    by_cases hname : d = 'N'
    · rw [if_pos hname] at h
      exact escapes_of_nameCode (hname ▸ rfl) h
    rw [if_neg hname] at h
    by_cases hoctal : isOctal d = true
    · rw [if_pos hoctal] at h
      cases h
      exact escapes_octalCode hoctal cs
    rw [if_neg hoctal] at h
    split at h
    · rename_i width hwidth
      have hd : (hexWidths.lookup d).isSome = true := hwidth ▸ rfl
      exact escapes_of_hexCode (isInner_of (p := fun d => (hexWidths.lookup d).isSome) rfl rfl hd) h
    · rename_i v _ hv
      cases h
      have hd : (letterEscapes.lookup d).isSome = true := hv ▸ rfl
      have hrow : Escapes ([d] ++ cs) [v] [d].length := by
        refine .char (List.cons_ne_nil _ _) fun e he => ?_
        rw [List.mem_singleton.mp he]
        exact isInner_of (p := fun d => (letterEscapes.lookup d).isSome) rfl rfl hd
      exact hrow
    · rename_i hwidth hletter
      cases h
      refine .kept ?_
      simp [beginsEscape, hend, hname, hoctal, hwidth, hletter]

theorem escape_of_not_beginsEscape (h : beginsEscape d = false) (cs : List Char) :
    escape byName (d :: cs) = some (['\\'], 0) := by
  simp only [beginsEscape, Bool.or_eq_false_iff, decide_eq_false_iff_not, Option.isSome_eq_false_iff,
    Option.isNone_iff_eq_none] at h
  obtain ⟨⟨⟨⟨hend, hname⟩, hoctal⟩, hwidth⟩, hletter⟩ := h
  rw [escape, if_neg (by simp [hend]), if_neg hname, if_neg (by simp [hoctal]), hwidth, hletter]

end Escapes

/-! ## 4. Bodies of plain literals -/

section Plain

variable {byName : List Char → Option Char} {c : Char} {cs value vs : List Char} {taken : Nat}

/-- A step of a plain literal is a bare character or what a backslash begins. -/
theorem cases_of_plainStep (h : plainStep byName c cs = some (value, taken)) :
    c ≠ '\\' ∧ isBare c = true ∧ value = [c] ∧ taken = 0 ∨ c = '\\' ∧ Escapes cs value taken := by
  unfold plainStep at h
  split at h
  · rename_i hc
    exact .inr ⟨hc, escapes_of_escape h⟩
  · rename_i hc
    split at h
    · rename_i hbare
      cases h
      exact .inl ⟨hc, hbare, rfl, rfl⟩
    · cases h

theorem neverGrows_plainStep (byName : List Char → Option Char) : NeverGrows (plainStep byName) := by
  intro c cs value taken h
  rcases cases_of_plainStep h with ⟨_, _, rfl, rfl⟩ | ⟨_, he⟩
  · exact ⟨Nat.zero_le _, Nat.le_refl 1⟩
  · cases he with
    | kept => exact ⟨Nat.zero_le _, Nat.le_refl 1⟩
    | joined => exact ⟨by simp, Nat.zero_le _⟩
    | char => exact ⟨by simp, Nat.le_add_left 1 _⟩

/-- Tells whether a character stands for itself before those behind it: a backslash does before a
    character that begins no escape. -/
def keepsItself (c : Char) (cs : List Char) : Bool :=
  if c = '\\' then (cs.head?.map fun d => !beginsEscape d).getD false else isBare c

/-- **Tells whether a body stands for itself**, character by character. -/
def isVerbatim : List Char → Bool
  | [] => true
  | c :: cs => keepsItself c cs && isVerbatim cs

theorem plainStep_of_keepsItself (h : keepsItself c cs = true) :
    plainStep byName c cs = some ([c], 0) := by
  unfold keepsItself at h
  unfold plainStep
  split at h
  · rename_i hc
    rw [if_pos hc, hc]
    cases cs with
    | nil => cases h
    | cons d cs => exact escape_of_not_beginsEscape (by simpa using h) cs
  · rename_i hc
    rw [if_neg hc, if_pos h]

/-- A step that stands for as many characters as it takes keeps its character. -/
theorem keepsItself_of_plainStep (h : plainStep byName c cs = some (value, taken))
    (hl : value.length = taken + 1) : keepsItself c cs = true ∧ value = [c] ∧ taken = 0 := by
  rcases cases_of_plainStep h with ⟨hc, hbare, rfl, rfl⟩ | ⟨rfl, he⟩
  · refine ⟨?_, rfl, rfl⟩
    rw [keepsItself, if_neg hc]
    exact hbare
  · cases he with
    | kept hd =>
      refine ⟨?_, rfl, rfl⟩
      rw [keepsItself, if_pos rfl, List.head?_cons, Option.map_some, hd]
      rfl
    | joined => cases hl
    | char hne =>
      refine absurd (List.length_eq_zero_iff.mp ?_) hne
      exact (Nat.succ.inj hl).symm

/-- **A body stands for itself** exactly where each of its characters does. -/
theorem read_eq_self_iff : read (plainStep byName) cs = some cs ↔ isVerbatim cs = true := by
  induction cs with
  | nil => exact iff_of_true rfl rfl
  | cons c cs ih =>
    rw [isVerbatim, Bool.and_eq_true, ← ih]
    constructor
    · intro h
      obtain ⟨value, taken, rest, hs, hv, hr, _, hvs⟩ :=
        read_cons_of_length_eq (neverGrows_plainStep byName) h rfl
      obtain ⟨hk, rfl, rfl⟩ := keepsItself_of_plainStep hs hv
      rw [List.singleton_append, List.cons.injEq] at hvs
      exact ⟨hk, hvs.2 ▸ hr⟩
    · rintro ⟨hk, h⟩
      rw [read_cons_of_keeps (plainStep_of_keepsItself hk), h]
      rfl

/-- Tells whether every character in front stands for itself before what follows. -/
def keepsAll : List Char → List Char → Bool
  | [], _ => true
  | c :: cs, tail => keepsItself c (cs ++ tail) && keepsAll cs tail

theorem isVerbatim_append (cs tail : List Char) :
    isVerbatim (cs ++ tail) = (keepsAll cs tail && isVerbatim tail) := by
  induction cs with
  | nil => rfl
  | cons c cs ih => rw [List.cons_append, isVerbatim, ih, keepsAll, Bool.and_assoc]

theorem isVerbatim_eq_keepsAll (cs : List Char) : isVerbatim cs = keepsAll cs [] := by
  have h := isVerbatim_append cs []
  rwa [List.append_nil, isVerbatim, Bool.and_true] at h

/-- Of what follows only the first character counts. -/
theorem keepsAll_of_head? {tail tail' : List Char} (h : tail.head? = tail'.head?) (cs : List Char) :
    keepsAll cs tail = keepsAll cs tail' := by
  induction cs with
  | nil => rfl
  | cons c cs ih =>
    have hhead : (cs ++ tail).head? = (cs ++ tail').head? := by
      rw [List.head?_append, List.head?_append, h]
    rw [keepsAll, keepsAll, ih, keepsItself, keepsItself, hhead]

/-- **Backslashes of what a body stands for**: there are no more than in the body. Where there are as
    many, the body joins no lines and its tabs are those of the text. -/
theorem count_read (h : read (plainStep byName) cs = some vs) :
    vs.count '\\' ≤ cs.count '\\' ∧
      (vs.count '\\' = cs.count '\\' → '\n' ∉ cs ∧ ('\t' ∈ vs → '\t' ∈ cs)) := by
  refine read_induction (P := fun cs vs => vs.count '\\' ≤ cs.count '\\' ∧
    (vs.count '\\' = cs.count '\\' → '\n' ∉ cs ∧ ('\t' ∈ vs → '\t' ∈ cs))) ?_ ?_ h
  · exact ⟨Nat.le_refl 0, fun _ => ⟨List.not_mem_nil, fun h => nomatch h⟩⟩
  intro c cs value taken rest hs ⟨hle, heq⟩
  rcases cases_of_plainStep hs with ⟨hc, hbare, rfl, rfl⟩ | ⟨rfl, he⟩
  · have hn : c ≠ '\n' := by
      rintro rfl
      cases hbare
    rw [List.drop_zero] at hle heq
    rw [List.singleton_append, List.count_cons_of_ne hc, List.count_cons_of_ne hc]
    refine ⟨hle, fun h => ⟨List.not_mem_cons_of_ne_of_not_mem hn.symm (heq h).1, fun ht => ?_⟩⟩
    rcases List.mem_cons.mp ht with hct | ht
    · exact hct ▸ List.mem_cons_self
    · exact List.mem_cons_of_mem _ ((heq h).2 ht)
  · cases he with
    | @kept d cs hd =>
      rw [List.drop_zero] at hle heq
      rw [List.singleton_append, List.count_cons_self, List.count_cons_self]
      refine ⟨Nat.succ_le_succ hle, fun h => ?_⟩
      obtain ⟨hn, ht⟩ := heq (Nat.succ.inj h)
      refine ⟨List.not_mem_cons_of_ne_of_not_mem (by decide) hn, fun hm => ?_⟩
      rcases List.mem_cons.mp hm with hm | hm
      · cases hm
      · exact List.mem_cons_of_mem _ (ht hm)
    | @joined row cs hne =>
      rw [List.drop_left] at hle
      rw [List.nil_append, List.count_cons_self, List.count_append]
      exact ⟨by omega, fun h => by omega⟩
    | @char row cs v hne hinner =>
      rw [List.drop_left] at hle heq
      rw [List.singleton_append, List.count_cons_self, List.count_append]
      by_cases hv : v = '\\'
      · rw [hv, List.count_cons_self]
        refine ⟨by omega, fun h => ?_⟩
        obtain ⟨hn, ht⟩ := heq (by omega)
        refine ⟨?_, fun hm => ?_⟩
        · simp only [List.mem_cons, List.mem_append, not_or]
          refine ⟨by decide, fun hm => ?_, hn⟩
          exact absurd (hinner _ hm) (by decide)
        · rcases List.mem_cons.mp hm with hm | hm
          · cases hm
          · exact List.mem_cons_of_mem _ (List.mem_append_right row (ht hm))
      · rw [List.count_cons_of_ne hv]
        exact ⟨by omega, fun h => by omega⟩

end Plain

/-! ## 5. Whole literals -/

/-- Characters between the quotes of a literal. -/
def body? (cs : List Char) : Option (List Char) :=
  if cs.getLast? = some '"' then some cs.dropLast else none

/-- **Text that a plain literal stands for**; none when the text is not one closed literal. -/
def plain? (byName : List Char → Option Char) (s : String) : Option String :=
  match s.toList with
  | '"' :: cs => ((body? cs).bind (read (plainStep byName))).map String.ofList
  | _ => none

/-- Step of an interpolated literal: a brace stands for itself where it is doubled, else an open one
    begins a field, which `field` reads. -/
def fieldStep (byName : List Char → Option Char) (field : List Char → Option (List Char × Nat))
    (c : Char) (cs : List Char) : Option (List Char × Nat) :=
  if c = '\x7b' then if cs.head? = some '\x7b' then some ([c], 1) else field cs
  else if c = '\x7d' then if cs.head? = some '\x7d' then some ([c], 1) else none
  else plainStep byName c cs

/-- **Text that an interpolated literal stands for**; none when the text is not one closed literal. -/
def interpolated? (byName : List Char → Option Char) (field : List Char → Option (List Char × Nat))
    (s : String) : Option String :=
  match s.toList with
  | 'f' :: '"' :: cs => ((body? cs).bind (read (fieldStep byName field))).map String.ofList
  | _ => none

/-- **Text that a literal stands for**, a plain one or an interpolated one. -/
def denoted? (byName : List Char → Option Char) (field : List Char → Option (List Char × Nat))
    (s : String) : Option String :=
  if s.toList.head? = some '"' then plain? byName s else interpolated? byName field s

section Whole

variable {byName : List Char → Option Char} {field : List Char → Option (List Char × Nat)}

theorem body?_append_quote (cs : List Char) : body? (cs ++ ['"']) = some cs := by
  rw [body?, List.getLast?_concat, if_pos rfl, List.dropLast_concat]

theorem plain?_quotes (s : String) :
    plain? byName ("\"" ++ s ++ "\"") = (read (plainStep byName) s.toList).map String.ofList := by
  have hs : ("\"" ++ s ++ "\"").toList = '"' :: (s.toList ++ ['"']) := by
    rw [String.toList_append, String.toList_append]
    rfl
  simp only [plain?, hs, body?_append_quote, Option.bind_some]

theorem interpolated?_quotes (s : String) :
    interpolated? byName field ("f\"" ++ s ++ "\"") =
      (read (fieldStep byName field) s.toList).map String.ofList := by
  have hs : ("f\"" ++ s ++ "\"").toList = 'f' :: '"' :: (s.toList ++ ['"']) := by
    rw [String.toList_append, String.toList_append]
    rfl
  simp only [interpolated?, hs, body?_append_quote, Option.bind_some]

theorem map_ofList_eq_some_iff {cs : Option (List Char)} {s : String} :
    cs.map String.ofList = some s ↔ cs = some s.toList := by
  cases cs with
  | none => simp
  | some cs =>
    rw [Option.map_some, Option.some.injEq, Option.some.injEq]
    constructor
    · rintro rfl
      rw [String.toList_ofList]
    · rintro rfl
      rw [String.ofList_toList]

theorem denoted?_quotes (s : String) :
    denoted? byName field ("\"" ++ s ++ "\"") = plain? byName ("\"" ++ s ++ "\"") := by
  refine if_pos ?_
  rw [String.toList_append, String.toList_append]
  rfl

theorem denoted?_interpolated (s : String) :
    denoted? byName field ("f\"" ++ s ++ "\"") = interpolated? byName field ("f\"" ++ s ++ "\"") := by
  refine if_neg ?_
  rw [String.toList_append, String.toList_append]
  exact fun h => nomatch h

/-- **A plain literal stands for the text between its quotes** exactly where that is verbatim. -/
theorem plain?_quotes_eq_self_iff {s : String} :
    plain? byName ("\"" ++ s ++ "\"") = some s ↔ isVerbatim s.toList = true := by
  rw [plain?_quotes, map_ofList_eq_some_iff, read_eq_self_iff]

end Whole

end ClientGen.Literal
