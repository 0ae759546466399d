import ClientGen.Moment
import ClientGen.Proofs.Numerals

/-!
# Texts that constructors accept

A default of a unique identifier or of a day is written as a call of the constructor with the text
of the default, which the constructor reads when the code runs. This file fixes

* `acceptsUuid`: texts of unique identifiers, `acceptsUuid_of_hexDigits`: among them 32 hexadecimal
  digits with dashes anywhere;
* `acceptsDate`: texts of days, by month or by week, with separators or without,
  `acceptsDate_text`: among them the text of every day of the calendar.
-/

namespace ClientGen

open ClientGen.Text ClientGen.Number

-- A power is a repeated product.
attribute [local instance (high)] instPowNat

/-! ## 1. Unique identifiers -/

/-- Characters without the occurrences of a word, sought from the front; `skip` characters belong
    to one that was found. -/
def withoutWord (word : List Char) : Nat → List Char → List Char
  | _, [] => []
  | skip + 1, _ :: cs => withoutWord word skip cs
  | 0, c :: cs =>
    if word.isPrefixOf (c :: cs) then withoutWord word (word.length - 1) cs
    else c :: withoutWord word 0 cs

/-- Characters that are left of an identifier's text: without the words before it, the braces
    around it and the dashes inside. -/
def uuidDigits (s : String) : List Char :=
  let bare := withoutWord "uuid:".toList 0 (withoutWord "urn:".toList 0 s.toList)
  (trimWhile (fun c => c = '\x7b' || c = '\x7d') bare).filter (· ≠ '-')

/-- Characters of a hexadecimal numeral behind its prefix, where it has one. -/
def withoutHexPrefix : List Char → List Char
  | '0' :: x :: '_' :: cs => if x = 'x' || x = 'X' then cs else '0' :: x :: '_' :: cs
  | '0' :: x :: cs => if x = 'x' || x = 'X' then cs else '0' :: x :: cs
  | cs => cs

/-- Tells whether characters are a hexadecimal numeral: white space around it, a sign and a prefix
    are let pass, and so are single underscores between digits. -/
def isHexNumeral (cs : List Char) : Bool :=
  let ds := withoutHexPrefix (takeSign (numeralBody (String.ofList cs))).2
  !ds.isEmpty && underscoresBetween ds && ds.all fun c => c = '_' || (hexValue? c).isSome

/-- Tells whether a text is one of a unique identifier. -/
def acceptsUuid (s : String) : Bool :=
  (uuidDigits s).length = 32 && isHexNumeral (uuidDigits s)

/-- What holds of the hexadecimal digits one by one holds of them all. -/
theorem of_hexValue? {P : Char → Prop}
    (h : ∀ n < 103, (hexValue? (Char.ofNat n)).isSome = true → P (Char.ofNat n)) {c : Char}
    (hc : (hexValue? c).isSome = true) : P c := by
  have hn : Char.ofNat c.toNat = c := Char.ofNat_toNat c
  have hlt : c.toNat < 103 := by
    have lt_of_le : ∀ d : Char, d.toNat < 103 → c ≤ d → c.toNat < 103 :=
      fun d hd hc => Nat.lt_of_le_of_lt hc hd
    unfold hexValue? at hc
    split at hc
    · rename_i hd
      exact lt_of_le '9' (by decide) (of_decide_eq_true (Bool.and_eq_true_iff.mp hd).2)
    · split at hc
      · rename_i hd
        exact lt_of_le 'f' (by decide) (of_decide_eq_true (Bool.and_eq_true_iff.mp hd).2)
      · split at hc
        · rename_i hd
          exact lt_of_le 'F' (by decide) (of_decide_eq_true (Bool.and_eq_true_iff.mp hd).2)
        · cases hc
  have hcase := h c.toNat hlt
  rw [hn] at hcase
  exact hcase hc

/-- A word with a character that does not occur does not occur either. -/
theorem withoutWord_eq_self {word cs : List Char} {c : Char} (hw : c ∈ word) (hc : c ∉ cs) :
    withoutWord word 0 cs = cs := by
  induction cs with
  | nil => rfl
  | cons d ds ih =>
    have hd : word.isPrefixOf (d :: ds) ≠ true := fun hp =>
      hc ((List.isPrefixOf_iff_prefix.mp hp).subset hw)
    rw [withoutWord, if_neg hd, ih fun h => hc (List.mem_cons_of_mem d h)]

theorem withoutHexPrefix_eq_self {cs : List Char} (h : ∀ c ∈ cs, c ≠ 'x' ∧ c ≠ 'X') :
    withoutHexPrefix cs = cs := by
  unfold withoutHexPrefix
  split
  · rename_i x _
    obtain ⟨hx, hX⟩ := h x (by simp)
    rw [if_neg (by simp [hx, hX])]
  · rename_i x _ _
    obtain ⟨hx, hX⟩ := h x (by simp)
    rw [if_neg (by simp [hx, hX])]
  · rfl

theorem isHexNumeral_of_hexDigits {cs : List Char} (hne : cs ≠ [])
    (h : ∀ c ∈ cs, (hexValue? c).isSome = true) : isHexNumeral cs = true := by
  have hbody : numeralBody (String.ofList cs) = cs := by
    have := numeralBody_eq_self (s := String.ofList cs)
    rw [String.toList_ofList] at this
    exact this
      (fun c hc => of_hexValue? (P := fun c => isNumeralBlank c = false) (by decide) (h c hc))
      fun c hc => of_hexValue? (P := fun c => ((decimalValue? c).map digitChar).getD c = c)
        (by decide) (h c hc)
  have hsign : takeSign cs = (false, cs) := takeSign_eq_self fun c hc =>
    of_hexValue? (P := fun c => c ≠ '-' ∧ c ≠ '+') (by decide) (h c (List.mem_of_head? hc))
  have hprefix : withoutHexPrefix cs = cs := withoutHexPrefix_eq_self fun c hc =>
    of_hexValue? (P := fun c => c ≠ 'x' ∧ c ≠ 'X') (by decide) (h c hc)
  have hbetween : underscoresBetween cs = true := underscoresBetween_of_ne fun c hc =>
    of_hexValue? (P := fun c => c ≠ '_') (by decide) (h c hc)
  have hempty : cs.isEmpty = false := List.isEmpty_eq_false_iff.mpr hne
  have hall : (cs.all fun c => c = '_' || (hexValue? c).isSome) = true :=
    List.all_eq_true.mpr fun c hc => by rw [h c hc, Bool.or_true]
  simp only [isHexNumeral, hbody, hsign, hprefix, hbetween, hempty, hall]
  rfl

/-- Any 32 hexadecimal digits are a text of a unique identifier, with dashes anywhere. -/
theorem acceptsUuid_of_hexDigits {s : String}
    (h : ∀ c ∈ s.toList, c = '-' ∨ (hexValue? c).isSome = true)
    (hlen : (s.toList.filter (· ≠ '-')).length = 32) : acceptsUuid s = true := by
  have hne : ∀ d : Char, d ≠ '-' → (hexValue? d).isSome = false → d ∉ s.toList := by
    intro d hd hv hm
    rcases h d hm with hm | hm
    · exact hd hm
    · rw [hv] at hm
      cases hm
  have hurn : withoutWord "urn:".toList 0 s.toList = s.toList :=
    withoutWord_eq_self (c := ':') (by decide) (hne ':' (by decide) (by decide))
  have huuid : withoutWord "uuid:".toList 0 s.toList = s.toList :=
    withoutWord_eq_self (c := ':') (by decide) (hne ':' (by decide) (by decide))
  have hbrace : ∀ c ∈ s.toList, (c = '{' || c = '}') = false := by
    intro c hc
    have hopen : c ≠ '{' := fun e => hne '{' (by decide) (by decide) (e ▸ hc)
    have hclose : c ≠ '}' := fun e => hne '}' (by decide) (by decide) (e ▸ hc)
    simp [hopen, hclose]
  have hdigits : uuidDigits s = s.toList.filter (· ≠ '-') := by
    rw [uuidDigits, hurn, huuid, trimWhile_eq_self hbrace]
  rw [acceptsUuid, hdigits, hlen, Bool.and_eq_true]
  refine ⟨by decide, isHexNumeral_of_hexDigits (fun hnil => ?_) fun c hc => ?_⟩
  · rw [hnil] at hlen
    cases hlen
  · obtain ⟨hm, hd⟩ := List.mem_filter.mp hc
    exact (h c hm).resolve_left (of_decide_eq_true hd)

example : acceptsUuid "urn:uuid:12345678-1234-5678-1234-567812345678" = true := by decide

/-! ## 2. Days -/

/-- Number of the first `width` characters, if they are digits, and what follows them. -/
def takeDigits? (width : Nat) (cs : List Char) : Option (Nat × List Char) :=
  let ds := cs.take width
  if ds.length = width && ds.all Char.isDigit then some (digitsValue ds, cs.drop width) else none

/-- What follows a dash, where there must be one. -/
def afterDash? (needed : Bool) (cs : List Char) : Option (List Char) :=
  if needed then
    match cs with
    | '-' :: rest => some rest
    | _ => none
  else some cs

/-- Number of days before a year. -/
def daysBefore (year : Nat) : Nat :=
  365 * (year - 1) + (year - 1) / 4 - (year - 1) / 100 + (year - 1) / 400

/-- Tells whether the calendar has a day of a week of a year. Weeks start on Monday, as the first
    year does, and the first of a year is the one with its first Thursday. -/
def hasWeekDay (year week day : Nat) : Bool :=
  let first := daysBefore year
  -- days from the last Monday to the first of January
  let late := first % 7
  let isLong : Bool := late = 3 || late = 2 && isLeapYear year
  let start := if late ≤ 3 then first - late else first + 7 - late
  1 ≤ year && 1 ≤ week && (week ≤ 52 || week = 53 && isLong) && 1 ≤ day && day ≤ 7 &&
    start + 7 * (week - 1) + (day - 1) < daysBefore 10000

/-- Tells whether characters start with a day. The separators must agree; the day of a week may be
    left out at the end. -/
def startsWithDay (cs : List Char) : Option Bool := do
  let (year, rest) ← takeDigits? 4 cs
  let separated := rest.head? = some '-'
  match ← afterDash? separated rest with
  | 'W' :: rest =>
    let (week, rest) ← takeDigits? 2 rest
    if rest.isEmpty then return hasWeekDay year week 1
    else
      let (day, _) ← takeDigits? 1 (← afterDash? separated rest)
      return hasWeekDay year week day
  | rest =>
    let (month, rest) ← takeDigits? 2 rest
    let (day, _) ← takeDigits? 2 (← afterDash? separated rest)
    return (Day.ofNumbers? year month day).isSome

/-- Number of bytes that characters are written in. -/
def byteCount : List Char → Nat
  | [] => 0
  | c :: cs => c.utf8Size + byteCount cs

/-- Tells whether a text is one of a day: it has seven, eight or ten bytes, none of half a pair,
    and starts with a day. -/
def acceptsDate (s : String) : Bool :=
  let bytes := byteCount s.toList
  (bytes = 7 || bytes = 8 || bytes = 10) && !s.toList.any isStandIn &&
    (startsWithDay s.toList).getD false

theorem takeDigits?_append {ds : List Char} (hd : ∀ c ∈ ds, c.isDigit = true) (rest : List Char) :
    takeDigits? ds.length (ds ++ rest) = some (digitsValue ds, rest) := by
  have hall : ds.all Char.isDigit = true := List.all_eq_true.mpr hd
  simp only [takeDigits?, List.take_left, List.drop_left, hall]
  exact if_pos (by simp)

/-- A number with few enough digits is padded to just the width. -/
theorem toList_paddedText (width n : Nat) (h : n < 10 ^ width) (hw : 0 < width) :
    (paddedText width n).toList.length = width ∧
      (∀ c ∈ (paddedText width n).toList, c.isDigit = true) ∧
      digitsValue (paddedText width n).toList = n := by
  have hlen := (length_toString_le_iff hw).mpr h
  rw [length_toString] at hlen
  rw [paddedText, String.toList_append, String.toList_ofList, length_toString]
  refine ⟨by rw [List.length_append, List.length_replicate]; omega, fun c hc => ?_, ?_⟩
  · rcases List.mem_append.mp hc with hc | hc
    · rw [List.eq_of_mem_replicate hc]
      decide
    · exact isDigit_of_mem_toString hc
  · generalize width - (toString n).toList.length = k
    induction k with
    | zero => exact digitsValue_toString n
    | succ k ih => exact ih

theorem byteCount_eq_length {cs : List Char} (h : ∀ c ∈ cs, c.isDigit = true ∨ c = '-') :
    byteCount cs = cs.length := by
  induction cs with
  | nil => rfl
  | cons c cs ih =>
    have hone : c.utf8Size = 1 :=
      of_digit_or_dash (P := fun c => c.utf8Size = 1) (by decide) (by decide)
        (h c List.mem_cons_self)
    rw [byteCount, hone, ih fun d hd => h d (List.mem_cons_of_mem c hd), List.length_cons,
      Nat.add_comm]

/-- Characters of a day by month, with dashes between its numbers, start with the day. -/
theorem startsWithDay_append {y m d : List Char} {year month day : Nat}
    (hy : takeDigits? 4 (y ++ '-' :: (m ++ '-' :: d)) = some (year, '-' :: (m ++ '-' :: d)))
    (hm : takeDigits? 2 (m ++ '-' :: d) = some (month, '-' :: d))
    (hd : takeDigits? 2 d = some (day, [])) :
    startsWithDay (y ++ '-' :: (m ++ '-' :: d)) = some (Day.ofNumbers? year month day).isSome := by
  have hweek : ∀ rest, m ++ '-' :: d ≠ 'W' :: rest := by
    intro rest hw
    rw [hw, takeDigits?] at hm
    simp at hm
  simp only [startsWithDay, hy, afterDash?, hm, hd, Option.bind_eq_bind, Option.bind_some,
    List.head?_cons, decide_true, if_true]
  rfl

/-- The text of every day of the calendar is one of a day. -/
theorem acceptsDate_text {year month day : Int} {d : Day}
    (h : Day.ofNumbers? year month day = some d) : acceptsDate d.text = true := by
  have hsome := h
  unfold Day.ofNumbers? at h
  split at h
  · rename_i hb
    cases h
    simp only [Bool.and_eq_true, decide_eq_true_iff] at hb
    obtain ⟨⟨⟨⟨⟨hy₁, hy₂⟩, hm₁⟩, hm₂⟩, hd₁⟩, hd₂⟩ := hb
    have hmonth : daysOfMonth year.toNat month.toNat ≤ 31 := by
      unfold daysOfMonth
      split
      · split <;> decide
      · split <;> decide
    obtain ⟨hylen, hydigits, hyvalue⟩ :=
      toList_paddedText 4 year.toNat (by omega) (by decide)
    obtain ⟨hmlen, hmdigits, hmvalue⟩ :=
      toList_paddedText 2 month.toNat (by omega) (by decide)
    obtain ⟨hdlen, hddigits, hdvalue⟩ :=
      toList_paddedText 2 day.toNat (by omega) (by decide)
    have htext : (Day.text ⟨year.toNat, month.toNat, day.toNat⟩).toList =
        (paddedText 4 year.toNat).toList ++ '-' ::
          ((paddedText 2 month.toNat).toList ++ '-' :: (paddedText 2 day.toNat).toList) := by
      simp [Day.text]
    revert htext hylen hydigits hyvalue hmlen hmdigits hmvalue hdlen hddigits hdvalue
    generalize (paddedText 4 year.toNat).toList = ys
    generalize (paddedText 2 month.toNat).toList = ms
    generalize (paddedText 2 day.toNat).toList = ds
    intro hylen hydigits hyvalue hmlen hmdigits hmvalue hdlen hddigits hdvalue htext
    have hplain : ∀ c ∈ ys ++ '-' :: (ms ++ '-' :: ds), c.isDigit = true ∨ c = '-' := by
      intro c hc
      simp only [List.mem_append, List.mem_cons] at hc
      rcases hc with hc | hc | hc | hc | hc
      · exact Or.inl (hydigits c hc)
      · exact Or.inr hc
      · exact Or.inl (hmdigits c hc)
      · exact Or.inr hc
      · exact Or.inl (hddigits c hc)
    have hy := takeDigits?_append hydigits ('-' :: (ms ++ '-' :: ds))
    have hm := takeDigits?_append hmdigits ('-' :: ds)
    have hd := takeDigits?_append hddigits []
    rw [hylen, hyvalue] at hy
    rw [hmlen, hmvalue] at hm
    rw [hdlen, hdvalue, List.append_nil] at hd
    have hstart := startsWithDay_append hy hm hd
    rw [Int.toNat_of_nonneg (by omega), Int.toNat_of_nonneg (by omega),
      Int.toNat_of_nonneg (by omega), hsome] at hstart
    have hbytes : byteCount (ys ++ '-' :: (ms ++ '-' :: ds)) = 10 := by
      rw [byteCount_eq_length hplain]
      simp [hylen, hmlen, hdlen]
    have hwhole : (ys ++ '-' :: (ms ++ '-' :: ds)).any isStandIn = false := by
      refine List.any_eq_false.mpr fun c hc => ?_
      rw [of_digit_or_dash (P := fun c => isStandIn c = false) (by decide) (by decide)
        (hplain c hc)]
      decide
    simp only [acceptsDate, htext, hbytes, hwhole, hstart]
    rfl
  · cases h

example : acceptsDate "2020-W53-7" = true ∧ acceptsDate "2021-W53-7" = false := by decide

end ClientGen
