import Mathlib.Data.List.Induction
import Mathlib.Data.List.TakeWhile
import ClientGen.Number.Float
import ClientGen.Number.Shortest

/-!
# Numerals

Numbers are written as plain numerals in ASCII and read from texts of many forms. This file fixes

* `readInteger_integerText`: an integer that is written is read back, unless it is too long;
* `length_toString_of_readInteger`: no integer that is read is too long to be written;
* `isFloat_text`: a finite double is written as a numeral with a point or an exponent.
-/

namespace ClientGen.Number

open ClientGen.Text

-- A power is a repeated product.
attribute [local instance (high)] instPowNat

/-! ## 1. Digits -/

/-- What holds of the ten digits of ASCII one by one holds of them all. -/
theorem of_isDigit {P : Char → Prop} (h : ∀ n < 10, P (Char.ofNat (48 + n))) {c : Char}
    (hc : c.isDigit = true) : P c := by
  have hlow : 48 ≤ c.toNat := of_decide_eq_true (Bool.and_eq_true_iff.mp hc).1
  have hhigh : c.toNat ≤ 57 := of_decide_eq_true (Bool.and_eq_true_iff.mp hc).2
  have hn : Char.ofNat (48 + (c.toNat - 48)) = c := by
    rw [Nat.add_sub_cancel' hlow, Char.ofNat_toNat]
  exact hn ▸ h (c.toNat - 48) (by omega)

theorem of_digit_or_dash {P : Char → Prop} (h : ∀ n < 10, P (Char.ofNat (48 + n))) (hd : P '-')
    {c : Char} (hc : c.isDigit = true ∨ c = '-') : P c := by
  rcases hc with hc | rfl
  · exact of_isDigit h hc
  · exact hd

theorem toList_toString (n : Nat) : (toString n).toList = Nat.toDigits 10 n := by
  rw [Nat.toString_eq_ofList_toDigits, String.toList_ofList]

theorem isDigit_of_mem_toString {n : Nat} {c : Char} (h : c ∈ (toString n).toList) :
    c.isDigit = true := by
  rw [toList_toString] at h
  exact Nat.isDigit_of_mem_toDigits (by decide) (by decide) h

theorem toList_toString_ne_nil (n : Nat) : (toString n).toList ≠ [] := by
  rw [toList_toString]
  exact Nat.toDigits_ne_nil

theorem digitsValue_toString (n : Nat) : digitsValue (toString n).toList = n := by
  rw [toList_toString]
  exact Nat.ofDigitChars_eq_foldl.symm.trans Nat.ofDigitChars_ten_toDigits

theorem length_toString (n : Nat) : (toString n).length = (toString n).toList.length :=
  String.length_toList.symm

theorem length_toString_le_iff {n k : Nat} (hk : 0 < k) :
    (toString n).length ≤ k ↔ n < 10 ^ k := by
  rw [length_toString, toList_toString]
  exact Nat.length_toDigits_le_iff (by decide) hk

/-- An integer is too long to be written from the power of ten on that has one digit too many. -/
theorem isLong_iff {n : Int} : isLong n = true ↔ 10 ^ maxDigits ≤ n.natAbs := by
  unfold isLong
  rw [decide_eq_true_iff, ← Nat.not_le, length_toString_le_iff (by decide), Nat.not_lt]

/-- A row of digits stands for a number with no more digits. -/
theorem digitsValue_lt {cs : List Char} (h : ∀ c ∈ cs, c.isDigit = true) :
    digitsValue cs < 10 ^ cs.length := by
  induction cs using List.reverseRecOn with
  | nil => decide
  | append_singleton cs c ih =>
    have hcs := ih fun d hd => h d (List.mem_append_left _ hd)
    have hc : c.toNat - 48 < 10 :=
      of_isDigit (P := fun c => c.toNat - 48 < 10) (by decide) (h c (by simp))
    rw [digitsValue] at hcs ⊢
    rw [List.foldl_append, List.length_append, List.foldl_cons, List.foldl_nil,
      List.length_singleton, Nat.pow_succ]
    omega

/-! ## 2. Integers -/

theorem integerText_eq_toString (n : Int) : integerText n = toString n := by
  cases n with
  | ofNat n => exact if_neg (Int.not_lt.mpr (Int.natCast_nonneg n))
  | negSucc n => exact if_pos (Int.negSucc_lt_zero n)

/-- Where no character is white space or a digit of another script, there is nothing to trim and
    nothing to turn into ASCII. -/
theorem numeralBody_eq_self {s : String} (hblank : ∀ c ∈ s.toList, isNumeralBlank c = false)
    (hascii : ∀ c ∈ s.toList, ((decimalValue? c).map digitChar).getD c = c) :
    numeralBody s = s.toList := by
  rw [numeralBody, trimWhile_eq_self hblank, toAsciiDigits]
  exact (List.map_congr_left hascii).trans (List.map_id' _)

theorem numeralBody_of_digits {s : String} (h : ∀ c ∈ s.toList, c.isDigit = true ∨ c = '-') :
    numeralBody s = s.toList :=
  numeralBody_eq_self
    (fun c hc => of_digit_or_dash (P := fun c => isNumeralBlank c = false) (by decide) (by decide)
      (h c hc))
    fun c hc => of_digit_or_dash (P := fun c => ((decimalValue? c).map digitChar).getD c = c)
      (by decide) (by decide) (h c hc)

theorem underscoresBetween_of_ne {cs : List Char} (h : ∀ c ∈ cs, c ≠ '_') :
    underscoresBetween cs = true := by
  have hpairs : ∀ p ∈ cs.zip cs.tail, p.1 ≠ '_' := fun p hp => h p.1 (List.of_mem_zip hp).1
  simp only [underscoresBetween, Bool.and_eq_true, decide_eq_true_iff, List.all_eq_true]
  refine ⟨⟨fun hc => ?_, fun hc => ?_⟩, fun p hp => by simp [hpairs p hp]⟩
  · exact h _ (List.mem_of_head? hc) rfl
  · exact h _ (List.mem_of_getLast? hc) rfl

/-- A sign and digits that are not too many are read as the number they stand for. -/
theorem readInteger_of_digits {s : String} {negative : Bool} {ds : List Char}
    (hs : takeSign (numeralBody s) = (negative, ds)) (hne : ds ≠ [])
    (hd : ∀ c ∈ ds, c.isDigit = true) (hlen : ds.length ≤ maxDigits) :
    readInteger s = .ok (if negative then -(digitsValue ds : Int) else digitsValue ds) := by
  have hrow : (ds.takeWhile fun c => c.isDigit || c = '_') = ds :=
    List.takeWhile_eq_self_iff.mpr fun c hc => by rw [hd c hc, Bool.true_or]
  have hdigits : ds.filter Char.isDigit = ds := List.filter_eq_self.mpr hd
  have hempty : ds.isEmpty = false := List.isEmpty_eq_false_iff.mpr hne
  have hbetween : underscoresBetween ds = true := underscoresBetween_of_ne fun c hc =>
    of_isDigit (P := fun c => c ≠ '_') (by decide) (hd c hc)
  rw [readInteger, hs]
  dsimp only
  rw [hrow, hdigits, hempty, hbetween, if_neg (by decide),
    if_neg (Nat.not_lt.mpr hlen), if_neg (not_not_intro rfl)]

theorem takeSign_eq_self {cs : List Char} (h : ∀ c, cs.head? = some c → c ≠ '-' ∧ c ≠ '+') :
    takeSign cs = (false, cs) := by
  unfold takeSign
  split
  · exact absurd rfl (h '-' rfl).1
  · exact absurd rfl (h '+' rfl).2
  · rfl

/-- An integer that is written is read back, unless it has too many digits. -/
theorem readInteger_integerText {n : Int} (h : (toString n.natAbs).length ≤ maxDigits) :
    readInteger (integerText n) = .ok n := by
  have hd : ∀ c ∈ (toString n.natAbs).toList, c.isDigit = true := fun _ => isDigit_of_mem_toString
  have hne := toList_toString_ne_nil n.natAbs
  rw [length_toString] at h
  unfold integerText
  split
  · rename_i hn
    have hlist : ("-" ++ toString n.natAbs).toList = '-' :: (toString n.natAbs).toList :=
      String.toList_append
    have hbody : numeralBody ("-" ++ toString n.natAbs) = '-' :: (toString n.natAbs).toList := by
      rw [← hlist]
      refine numeralBody_of_digits fun c hc => ?_
      rw [hlist] at hc
      exact (List.mem_cons.mp hc).elim Or.inr fun hc => Or.inl (hd c hc)
    have hsign : takeSign (numeralBody ("-" ++ toString n.natAbs)) =
        (true, (toString n.natAbs).toList) := by
      rw [hbody]
      rfl
    rw [readInteger_of_digits hsign hne hd h, digitsValue_toString, if_pos rfl]
    exact congrArg Except.ok (by omega)
  · rename_i hn
    have hbody := numeralBody_of_digits fun c hc => Or.inl (hd c hc)
    have hsign : takeSign (numeralBody (toString n.natAbs)) =
        (false, (toString n.natAbs).toList) := by
      rw [hbody]
      exact takeSign_eq_self fun c hc =>
        of_isDigit (P := fun c => c ≠ '-' ∧ c ≠ '+') (by decide) (hd c (List.mem_of_head? hc))
    rw [readInteger_of_digits hsign hne hd h, digitsValue_toString, if_neg (by decide)]
    exact congrArg Except.ok (by omega)

/-- No integer that is read has too many digits to be written. -/
theorem length_toString_of_readInteger {s : String} {n : Int} (h : readInteger s = .ok n) :
    (toString n.natAbs).length ≤ maxDigits := by
  unfold readInteger at h
  dsimp only at h
  split at h
  · cases h
  · split at h
    · cases h
    · rename_i hlen
      split at h
      · cases h
      · have hd : ∀ c ∈ (List.takeWhile (fun c => c.isDigit || c = '_')
            (takeSign (numeralBody s)).2).filter Char.isDigit, c.isDigit = true :=
          fun c hc => (List.mem_filter.mp hc).2
        have hle := Nat.lt_of_lt_of_le (digitsValue_lt hd)
          (Nat.pow_le_pow_right (by decide) (Nat.not_lt.mp hlen))
        refine (length_toString_le_iff (by decide)).mpr ?_
        cases h
        split
        · rwa [Int.natAbs_neg, Int.natAbs_natCast]
        · rwa [Int.natAbs_natCast]

/-! ## 3. Numbers in code -/

/-- Tells whether characters are an integer numeral of code: no zero leads other digits, and
    there are not too many. -/
def isIntegerNumeral (cs : List Char) : Bool :=
  !cs.isEmpty && cs.all Char.isDigit && cs.length ≤ maxDigits &&
    (cs.head? ≠ some '0' || cs.all (· = '0'))

/-- Tells whether characters are a floating-point numeral of code: one with a point or an
    exponent. -/
def isFloatNumeral (cs : List Char) : Bool := (readNumeral? cs).isSome && !cs.all Char.isDigit

/-- Tells whether a text is a number of code: a numeral, perhaps negated. -/
def isNumber (s : String) : Bool :=
  match s.toList with
  | '-' :: cs => isIntegerNumeral cs || isFloatNumeral cs
  | cs => isIntegerNumeral cs || isFloatNumeral cs

theorem readNumeral?_minus (cs : List Char) : readNumeral? ('-' :: cs) = none := rfl

theorem isNumber_of_numeral {s : String} (negative : Bool) (cs : List Char)
    (hs : s.toList = (if negative then "-" else "").toList ++ cs)
    (h : (isIntegerNumeral cs || isFloatNumeral cs) = true) : isNumber s = true := by
  unfold isNumber
  cases negative with
  | true =>
    have hs' : s.toList = '-' :: cs := hs
    rw [hs']
    exact h
  | false =>
    have hs' : s.toList = cs := hs
    rw [hs']
    split
    · -- a numeral has no sign of its own
      rename_i rest
      rw [isFloatNumeral, readNumeral?_minus] at h
      simp [isIntegerNumeral] at h
    · exact h

/-- A plain numeral has no zero before its other digits. -/
theorem head?_toString_ne_zero {n : Nat} (h : 1 < (toString n).length) :
    (toString n).toList.head? ≠ some '0' := by
  intro hz
  obtain ⟨cs, hcs⟩ := List.head?_eq_some_iff.mp hz
  have hd : ∀ c ∈ cs, c.isDigit = true := fun c hc =>
    isDigit_of_mem_toString (hcs ▸ List.mem_cons_of_mem _ hc)
  have hvalue : digitsValue cs = n := by
    rw [← digitsValue_toString n, hcs]
    rfl
  have hlen : (toString n).length = cs.length + 1 := by rw [length_toString, hcs, List.length_cons]
  -- the other digits alone would do for the number, and they are fewer
  have hlt := digitsValue_lt hd
  rw [hvalue] at hlt
  have hle := (length_toString_le_iff (by omega)).mpr hlt
  omega

theorem isIntegerNumeral_toString {n : Nat} (h : (toString n).length ≤ maxDigits) :
    isIntegerNumeral (toString n).toList = true := by
  have hd : ∀ c ∈ (toString n).toList, c.isDigit = true := fun _ => isDigit_of_mem_toString
  have hzero : (toString n).toList.head? ≠ some '0' ∨ (toString n).toList.all (· = '0') = true := by
    by_cases hlen : 1 < (toString n).length
    · exact Or.inl (head?_toString_ne_zero hlen)
    · have hne := toList_toString_ne_nil n
      rw [length_toString] at hlen
      match hds : (toString n).toList with
      | [] => exact absurd hds hne
      | [c] => by_cases hc : c = '0' <;> simp [hc]
      | c :: d :: ds => rw [hds] at hlen; simp at hlen
  rw [length_toString] at h
  simp only [isIntegerNumeral, Bool.and_eq_true, Bool.or_eq_true, decide_eq_true_iff,
    Bool.not_eq_true', List.isEmpty_eq_false_iff, List.all_eq_true] at hzero ⊢
  exact ⟨⟨⟨toList_toString_ne_nil n, hd⟩, h⟩, hzero⟩

/-- The text of an integer is a number, unless it has too many digits. -/
theorem isNumber_integerText {n : Int} (h : (toString n.natAbs).length ≤ maxDigits) :
    isNumber (integerText n) = true := by
  refine isNumber_of_numeral (n < 0) (toString n.natAbs).toList ?_ ?_
  · unfold integerText
    by_cases hn : n < 0 <;> simp [hn]
  · rw [isIntegerNumeral_toString h, Bool.true_or]

/-! ## 4. Doubles -/

theorem not_isDigit_of_readExponent? {cs : List Char} (h : (readExponent? cs).isSome = true)
    (c : Char) (hc : cs.head? = some c) : c.isDigit = false ∧ c ≠ '.' := by
  cases cs with
  | nil => cases hc
  | cons d ds =>
    cases hc
    rw [readExponent?] at h
    split at h
    · rename_i he
      rcases Bool.or_eq_true_iff.mp he with he | he <;>
      · rw [of_decide_eq_true he]
        decide
    · cases h

/-- Digits with a point among them make a numeral. -/
theorem readNumeral?_point {whole fraction exponent : List Char} (hne : whole ≠ [])
    (hw : ∀ c ∈ whole, c.isDigit = true) (hf : ∀ c ∈ fraction, c.isDigit = true)
    (he : (readExponent? exponent).isSome = true) :
    (readNumeral? (whole ++ '.' :: (fraction ++ exponent))).isSome = true := by
  have hpoint : ∀ c, ('.' :: (fraction ++ exponent)).head? = some c → c.isDigit = false := by
    rintro _ ⟨⟩
    decide
  have hstop : ∀ c, exponent.head? = some c → c.isDigit = false := fun c hc =>
    (not_isDigit_of_readExponent? he c hc).1
  obtain ⟨e, he⟩ := Option.isSome_iff_exists.mp he
  have hempty : whole.isEmpty = false := List.isEmpty_eq_false_iff.mpr hne
  simp only [readNumeral?, takeWhile_append_of_stop hw hpoint, dropWhile_append_of_stop hw hpoint,
    takeWhile_append_of_stop hf hstop, dropWhile_append_of_stop hf hstop, hempty, he]
  rfl

/-- Digits with an exponent behind them make a numeral. -/
theorem readNumeral?_exponent {whole exponent : List Char} (hne : whole ≠ [])
    (hw : ∀ c ∈ whole, c.isDigit = true) (he : (readExponent? exponent).isSome = true) :
    (readNumeral? (whole ++ exponent)).isSome = true := by
  have hstart := not_isDigit_of_readExponent? he
  have hstop : ∀ c, exponent.head? = some c → c.isDigit = false := fun c hc => (hstart c hc).1
  obtain ⟨e, he⟩ := Option.isSome_iff_exists.mp he
  have hempty : whole.isEmpty = false := List.isEmpty_eq_false_iff.mpr hne
  -- no point stands after the digits, so there is no fraction
  have hpoint : ∀ cs, exponent ≠ '.' :: cs := fun cs h => (hstart '.' (by rw [h]; rfl)).2 rfl
  simp only [readNumeral?, takeWhile_append_of_stop hw hstop, dropWhile_append_of_stop hw hstop,
    hempty, he]
  rfl

theorem isDigit_of_mem_zeros {n : Nat} {c : Char} (h : c ∈ (zeros n).toList) :
    c.isDigit = true := by
  rw [zeros, String.toList_ofList] at h
  rw [List.eq_of_mem_replicate h]
  decide

theorem readExponent?_sign {sign : Char} {ds : List Char} (hs : sign = '-' ∨ sign = '+')
    (hne : ds ≠ []) (hd : ∀ c ∈ ds, c.isDigit = true) :
    (readExponent? ('e' :: sign :: ds)).isSome = true := by
  have hempty := List.isEmpty_eq_false_iff.mpr hne
  have hall := List.all_eq_true.mpr hd
  rcases hs with rfl | rfl <;>
  · simp only [readExponent?, takeSign, hempty, hall]
    rfl

theorem readExponent?_exponentText (width : Nat) (e : Int) :
    (readExponent? ('e' :: (exponentText width e).toList)).isSome = true := by
  have hlist : (exponentText width e).toList = (if e < 0 then '-' else '+') ::
      ((zeros (width - (toString e.natAbs).length)).toList ++ (toString e.natAbs).toList) := by
    by_cases he : e < 0 <;> simp [exponentText, he]
  rw [hlist]
  refine readExponent?_sign ?_ ?_ ?_
  · split
    · exact Or.inl rfl
    · exact Or.inr rfl
  · exact List.append_ne_nil_of_right_ne_nil _ (toList_toString_ne_nil _)
  · exact fun c hc =>
      (List.mem_append.mp hc).elim isDigit_of_mem_zeros isDigit_of_mem_toString

theorem isFloatNumeral_of_mem {cs : List Char} {c : Char} (h : (readNumeral? cs).isSome = true)
    (hm : c ∈ cs) (hc : c.isDigit = false) : isFloatNumeral cs = true := by
  have hall : cs.all Char.isDigit = false := by
    rw [List.all_eq_false]
    exact ⟨c, hm, by rw [hc]; decide⟩
  rw [isFloatNumeral, h, hall]
  rfl

theorem isFloatNumeral_point (whole fraction : List Char) {exponent : List Char} (hne : whole ≠ [])
    (hw : ∀ c ∈ whole, c.isDigit = true) (hf : ∀ c ∈ fraction, c.isDigit = true)
    (he : (readExponent? exponent).isSome = true) :
    isFloatNumeral (whole ++ '.' :: (fraction ++ exponent)) = true :=
  isFloatNumeral_of_mem (c := '.') (readNumeral?_point hne hw hf he) (by simp) rfl

/-- Decimal digits are written with a point or an exponent, in every format. -/
theorem isFloatNumeral_digitsText (f : FloatFormat) (d : DecimalDigits) :
    isFloatNumeral (f.digitsText d).toList = true := by
  have hd : ∀ c ∈ (toString d.digits).toList, c.isDigit = true := fun _ => isDigit_of_mem_toString
  have hfirst : ∀ n, ∀ c ∈ (toString d.digits).toList.take n, c.isDigit = true :=
    fun n c hc => hd c (List.mem_of_mem_take hc)
  have hlast : ∀ n, ∀ c ∈ (toString d.digits).toList.drop n, c.isDigit = true :=
    fun n c hc => hd c (List.mem_of_mem_drop hc)
  have hne := toList_toString_ne_nil d.digits
  have htake : ∀ n, (toString d.digits).toList.take (n + 1) ≠ [] := fun n h =>
    (List.take_eq_nil_iff.mp h).elim (Nat.succ_ne_zero n) hne
  have hzero : ∀ c ∈ ['0'], c.isDigit = true := fun c hc => List.mem_singleton.mp hc ▸ rfl
  have hnone : (readExponent? []).isSome = true := rfl
  unfold FloatFormat.digitsText
  dsimp only
  generalize d.exponent + (toString d.digits).length - 1 = e
  split
  · split
    · have hrest : ∀ c ∈ (zeros ((-e).toNat - 1)).toList ++ (toString d.digits).toList,
          c.isDigit = true := fun c hc =>
        (List.mem_append.mp hc).elim isDigit_of_mem_zeros isDigit_of_mem_toString
      have h := isFloatNumeral_point ['0'] _ (by decide) hzero hrest hnone
      simpa using h
    · split
      · have hwhole : ∀ c ∈ (toString d.digits).toList ++ (zeros d.exponent.toNat).toList,
            c.isDigit = true := fun c hc =>
          (List.mem_append.mp hc).elim isDigit_of_mem_toString isDigit_of_mem_zeros
        have h := isFloatNumeral_point _ ['0'] (List.append_ne_nil_of_left_ne_nil hne _) hwhole hzero
          hnone
        simpa using h
      · have h := isFloatNumeral_point _ _ (htake e.toNat) (hfirst (e.toNat + 1))
          (hlast (e.toNat + 1)) hnone
        simpa using h
  · have he := readExponent?_exponentText f.exponentDigits e
    split
    · have h := isFloatNumeral_of_mem (c := 'e') (readNumeral?_exponent (htake 0) (hfirst 1) he)
        (by simp) rfl
      simpa using h
    · have h := isFloatNumeral_point _ _ (htake 0) (hfirst 1) (hlast 1) he
      simpa using h

/-- The text of a finite double is a number. -/
theorem isNumber_text (negative : Bool) (m : Nat) (q : Int) :
    isNumber (Binary64.finite negative m q).text = true := by
  refine isNumber_of_numeral negative _ String.toList_append ?_
  split
  · decide
  · rw [isFloatNumeral_digitsText, Bool.or_true]

/-! ## 5. Characters of numbers -/

/-- Tells whether a character may stand in a number of code. -/
def isNumberChar (c : Char) : Bool :=
  c.isDigit || c = '.' || c = 'e' || c = 'E' || c = '+' || c = '-'

theorem isNumberChar_of_isDigit {c : Char} (h : c.isDigit = true) : isNumberChar c = true := by
  simp [isNumberChar, h]

theorem isNumberChar_of_readExponent? {cs : List Char} (h : (readExponent? cs).isSome = true)
    {c : Char} (hc : c ∈ cs) : isNumberChar c = true := by
  cases cs with
  | nil => cases hc
  | cons d ds =>
    rw [readExponent?] at h
    split at h
    · rename_i he
      rcases List.mem_cons.mp hc with rfl | hc
      · rcases Bool.or_eq_true_iff.mp he with he | he <;>
        · rw [of_decide_eq_true he]
          decide
      · dsimp only at h
        split at h
        · cases h
        · rename_i hd
          rw [Bool.not_eq_true, Bool.or_eq_false_iff, Bool.not_eq_false'] at hd
          have hdigits := List.all_eq_true.mp hd.2
          unfold takeSign at hdigits
          split at hdigits
          · exact (List.mem_cons.mp hc).elim (fun e => e ▸ rfl) fun hc =>
              isNumberChar_of_isDigit (hdigits c hc)
          · exact (List.mem_cons.mp hc).elim (fun e => e ▸ rfl) fun hc =>
              isNumberChar_of_isDigit (hdigits c hc)
          · exact isNumberChar_of_isDigit (hdigits c hc)
    · cases h

theorem isNumberChar_of_readNumeral? {cs : List Char} (h : (readNumeral? cs).isSome = true)
    {c : Char} (hc : c ∈ cs) : isNumberChar c = true := by
  have digit_or : ∀ {ds : List Char}, c ∈ ds →
      isNumberChar c = true ∨ c ∈ ds.dropWhile Char.isDigit := by
    intro ds hm
    rw [← List.takeWhile_append_dropWhile (p := Char.isDigit) (l := ds)] at hm
    exact (List.mem_append.mp hm).imp (fun hm => isNumberChar_of_isDigit
      (List.all_eq_true.mp List.all_takeWhile c hm)) id
  have exponent : ∀ {rest : List Char} {b : Bool} {f : Int → DecimalNumeral},
      (if b then none else do return f (← readExponent? rest)).isSome = true → c ∈ rest →
        isNumberChar c = true := by
    intro rest b f hs hm
    cases he : readExponent? rest with
    | none => cases b <;> simp [he] at hs
    | some e => exact isNumberChar_of_readExponent? (by rw [he]; rfl) hm
  rcases digit_or hc with hc | hc
  · exact hc
  · unfold readNumeral? at h
    dsimp only at h
    split at h
    · rename_i ds hrest
      rw [hrest] at hc
      rcases List.mem_cons.mp hc with rfl | hc
      · decide
      · exact (digit_or hc).elim id (exponent h)
    · exact exponent h hc

/-- No other character stands in a number. -/
theorem isNumberChar_of_isNumber {s : String} (h : isNumber s = true) {c : Char}
    (hc : c ∈ s.toList) : isNumberChar c = true := by
  have numeral : ∀ {cs : List Char}, (isIntegerNumeral cs || isFloatNumeral cs) = true → c ∈ cs →
      isNumberChar c = true := by
    intro cs h hm
    rcases Bool.or_eq_true_iff.mp h with h | h
    · simp only [isIntegerNumeral, Bool.and_eq_true, List.all_eq_true] at h
      exact isNumberChar_of_isDigit (h.1.1.2 c hm)
    · exact isNumberChar_of_readNumeral? (Bool.and_eq_true_iff.mp h).1 hm
  unfold isNumber at h
  split at h
  · rename_i cs hs
    rw [hs] at hc
    rcases List.mem_cons.mp hc with rfl | hc
    · decide
    · exact numeral h hc
  · exact numeral h hc

end ClientGen.Number
