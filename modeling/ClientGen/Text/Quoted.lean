import ClientGen.Text.Printable
import ClientGen.Text.Digit
import ClientGen.Text.Half

/-!
# Quoted texts

A text in generated code stands between quotes, with a backslash before the quote
itself and before a backslash, letters for tab and the two line ends, and a hexadecimal
escape for every other character that is not printable. Single quotes are used unless
the text has a single quote and no double one. The main statements are

* `unquoted?_quoted`: reading a quoted text undoes the writing;
* `isPlain_of_mem_quoted`: a quoted text holds no character that is not printable.
-/
namespace ClientGen.Text

-- A power is a repeated product.
attribute [local instance (high)] instPowNat

/-! ## 1. Writing -/

/-- Small hexadecimal digit below sixteen. -/
def hexChar (n : Nat) : Char :=
  if n % 16 < 10 then Char.ofNat (48 + n % 16) else Char.ofNat (87 + n % 16)

/-- The last `width` hexadecimal digits of a number. -/
def hexDigits : Nat → Nat → List Char
  | 0, _ => []
  | width + 1, n => hexDigits width (n / 16) ++ [hexChar n]

/-- Hexadecimal escape of a character, in the shortest of its three forms. -/
def hexEscape (c : Char) : List Char :=
  let n := numberOf c
  if n ≤ 0xFF then '\\' :: 'x' :: hexDigits 2 n
  else if n ≤ 0xFFFF then '\\' :: 'u' :: hexDigits 4 n
  else '\\' :: 'U' :: hexDigits 8 n

/-- Tells whether a character is written as itself. -/
def isPlain (c : Char) : Bool :=
  if c.toNat < 0x7F then 0x20 ≤ c.toNat else isPrintable c

/-- One character between the quotes given. -/
def quoteChar (quote : Char) (c : Char) : List Char :=
  if c = quote || c = '\\' then ['\\', c]
  else if c = '\t' then ['\\', 't']
  else if c = '\n' then ['\\', 'n']
  else if c = '\r' then ['\\', 'r']
  else if isPlain c then [c]
  else hexEscape c

/-- The quote that a text is written with. -/
def quoteFor (cs : List Char) : Char :=
  if cs.contains '\'' && !cs.contains '"' then '"' else '\''

/-- Quoted form over characters. -/
def quoteChars (cs : List Char) : List Char :=
  let q := quoteFor cs
  q :: cs.flatMap (quoteChar q) ++ [q]

/-- Quoted form of a text. -/
def quoted (s : String) : String := String.ofList (quoteChars s.toList)

/-! ## 2. Reading -/

/-- Value of a hexadecimal digit. -/
def hexValue? (c : Char) : Option Nat :=
  if '0' ≤ c && c ≤ '9' then some (c.toNat - 48)
  else if 'a' ≤ c && c ≤ 'f' then some (c.toNat - 87)
  else if 'A' ≤ c && c ≤ 'F' then some (c.toNat - 55)
  else none

/-- Number written by hexadecimal digits, none when another character stands among them. -/
def hexNumber? (cs : List Char) : Option Nat :=
  cs.foldl (fun acc c => do return 16 * (← acc) + (← hexValue? c)) (some 0)

/-- Characters of a quoted text up to the closing quote, which must end it. -/
def unquoteChars (quote : Char) : List Char → Option (List Char)
  | '\\' :: 'x' :: a :: b :: cs => do
    let n ← hexNumber? [a, b]
    return charOf n :: (← unquoteChars quote cs)
  | '\\' :: 'u' :: a :: b :: c :: d :: cs => do
    let n ← hexNumber? [a, b, c, d]
    return charOf n :: (← unquoteChars quote cs)
  | '\\' :: 'U' :: a :: b :: c :: d :: e :: f :: g :: h :: cs => do
    let n ← hexNumber? [a, b, c, d, e, f, g, h]
    return charOf n :: (← unquoteChars quote cs)
  | '\\' :: c :: cs =>
    if c = '\\' || c = '\'' || c = '"' then do return c :: (← unquoteChars quote cs)
    else if c = 't' then do return '\t' :: (← unquoteChars quote cs)
    else if c = 'n' then do return '\n' :: (← unquoteChars quote cs)
    else if c = 'r' then do return '\r' :: (← unquoteChars quote cs)
    else none
  | [c] => if c = quote then some [] else none
  | c :: cs =>
    if c = quote || c = '\n' then none else do return c :: (← unquoteChars quote cs)
  | [] => none

/-- Text that a quoted form stands for; none when the form is not one closed literal. -/
def unquoted? (s : String) : Option String :=
  match s.toList with
  | q :: cs => if q = '\'' || q = '"' then (unquoteChars q cs).map String.ofList else none
  | [] => none

/-! ## 3. Reading undoes writing -/

/-- The digit below sixteen has its value. -/
theorem hexValue?_hexChar (n : Nat) : hexValue? (hexChar n) = some (n % 16) := by
  have table : ∀ m : Fin 16, hexValue? (hexChar m.val) = some m.val := by decide
  have h := table ⟨n % 16, Nat.mod_lt n (by decide)⟩
  have hn : hexChar (n % 16) = hexChar n := by simp only [hexChar, Nat.mod_mod]
  rw [← hn]
  exact h

/-- Hexadecimal digits have the value of the number's last digits. -/
theorem hexNumber?_hexDigits (width n : Nat) :
    hexNumber? (hexDigits width n) = some (n % 16 ^ width) := by
  induction width generalizing n with
  | zero => simp [hexDigits, hexNumber?, Nat.mod_one]
  | succ width ih =>
    have hstep : hexNumber? (hexDigits (width + 1) n)
        = some (16 * (n / 16 % 16 ^ width) + n % 16) := by
      have h := ih (n / 16)
      unfold hexNumber? at h ⊢
      rw [hexDigits, List.foldl_append, h, List.foldl_cons, List.foldl_nil,
        hexValue?_hexChar]
      rfl
    rw [hstep, Nat.pow_succ', Nat.mod_mul, Nat.add_comm]

/-- As many digits as a number has give the number itself. -/
theorem hexNumber?_hexDigits_of_lt {width n : Nat} (h : n < 16 ^ width) :
    hexNumber? (hexDigits width n) = some n := by
  rw [hexNumber?_hexDigits, Nat.mod_eq_of_lt h]

/-- Digits that give a character's number stand for the character. -/
theorem bind_hexNumber? {digits : List Char} {c : Char}
    (h : hexNumber? digits = some (numberOf c)) (rest : Option (List Char)) :
    (do let n ← hexNumber? digits; return charOf n :: (← rest)) = rest.map (c :: ·) := by
  rw [h]
  cases rest with
  | none => rfl
  | some cs => exact congrArg (fun d => some (d :: cs)) (charOf_numberOf c)

/-- A hexadecimal escape is read as the character that it was written for. -/
theorem unquoteChars_hexEscape (quote c : Char) (rest : List Char) :
    unquoteChars quote (hexEscape c ++ rest) = (unquoteChars quote rest).map (c :: ·) := by
  have hc : numberOf c < 16 ^ (8 : Nat) := numberOf_lt c
  have read := fun digits => @bind_hexNumber? digits c
  unfold hexEscape
  revert hc read
  generalize numberOf c = n
  intro hc read
  dsimp only
  split
  · have h := @hexNumber?_hexDigits_of_lt 2 n (by omega)
    rw [show hexDigits 2 n = [hexChar (n / 16), hexChar n] from rfl] at h ⊢
    simp only [List.cons_append, List.nil_append, unquoteChars]
    exact read _ h _
  · split
    · have h := @hexNumber?_hexDigits_of_lt 4 n (by omega)
      rw [show hexDigits 4 n = [hexChar (n / 16 / 16 / 16), hexChar (n / 16 / 16),
        hexChar (n / 16), hexChar n] from rfl] at h ⊢
      simp only [List.cons_append, List.nil_append, unquoteChars]
      exact read _ h _
    · have h := hexNumber?_hexDigits_of_lt hc
      rw [show hexDigits 8 n = [hexChar (n / 16 / 16 / 16 / 16 / 16 / 16 / 16),
        hexChar (n / 16 / 16 / 16 / 16 / 16 / 16), hexChar (n / 16 / 16 / 16 / 16 / 16),
        hexChar (n / 16 / 16 / 16 / 16), hexChar (n / 16 / 16 / 16), hexChar (n / 16 / 16),
        hexChar (n / 16), hexChar n] from rfl] at h ⊢
      simp only [List.cons_append, List.nil_append, unquoteChars]
      exact read _ h _

/-- Every character between quotes is read as itself. -/
theorem unquoteChars_quoteChar {quote : Char} (hq : quote = '\'' ∨ quote = '"') (c : Char)
    {rest : List Char} (hr : rest ≠ []) :
    unquoteChars quote (quoteChar quote c ++ rest) = (unquoteChars quote rest).map (c :: ·) := by
  obtain ⟨d, ds, rfl⟩ := List.exists_cons_of_ne_nil hr
  unfold quoteChar
  by_cases h : c = quote ∨ c = '\\'
  · have hc : c = '\\' ∨ c = '\'' ∨ c = '"' := by
      rcases h with rfl | rfl
      · exact Or.inr hq
      · exact Or.inl rfl
    rw [if_pos (by simpa using h)]
    rcases hc with rfl | rfl | rfl <;>
      · simp [unquoteChars]
        cases unquoteChars quote (d :: ds) <;> rfl
  · rw [if_neg (by simpa using h)]
    obtain ⟨hcq, hcb⟩ := not_or.mp h
    by_cases ht : c = '\t'
    · subst ht
      simp [unquoteChars]
      cases unquoteChars quote (d :: ds) <;> rfl
    · rw [if_neg ht]
      by_cases hn : c = '\n'
      · subst hn
        simp [unquoteChars]
        cases unquoteChars quote (d :: ds) <;> rfl
      · rw [if_neg hn]
        by_cases hr' : c = '\r'
        · subst hr'
          simp [unquoteChars]
          cases unquoteChars quote (d :: ds) <;> rfl
        · rw [if_neg hr']
          split
          · rw [List.cons_append, List.nil_append]
            simp [unquoteChars, hcb, hcq, hn]
            cases unquoteChars quote (d :: ds) <;> rfl
          · exact unquoteChars_hexEscape quote c (d :: ds)

/-- The characters between the quotes are read back, and the last quote closes them. -/
theorem unquoteChars_flatMap_quoteChar {quote : Char} (hq : quote = '\'' ∨ quote = '"')
    (cs : List Char) :
    unquoteChars quote (cs.flatMap (quoteChar quote) ++ [quote]) = some cs := by
  induction cs with
  | nil => rcases hq with rfl | rfl <;> rfl
  | cons c cs ih =>
    rw [List.flatMap_cons, List.append_assoc, unquoteChars_quoteChar hq c (by simp), ih]
    rfl

/-- A text is written between single or double quotes. -/
theorem quoteFor_eq (cs : List Char) : quoteFor cs = '\'' ∨ quoteFor cs = '"' := by
  unfold quoteFor
  split
  · exact Or.inr rfl
  · exact Or.inl rfl

/-- Reading a quoted text undoes the writing. -/
theorem unquoted?_quoted (s : String) : unquoted? (quoted s) = some s := by
  have hq := quoteFor_eq s.toList
  have hb : (quoteFor s.toList = '\'' || quoteFor s.toList = '"') = true := by simpa using hq
  unfold unquoted? quoted quoteChars
  rw [String.toList_ofList, List.cons_append]
  simp only [hb, if_true, unquoteChars_flatMap_quoteChar hq, Option.map_some, String.ofList_toList]

/-! ## 4. What is written is plain -/

theorem isPlain_hexChar (n : Nat) : isPlain (hexChar n) = true := by
  have table : ∀ m : Fin 16, isPlain (hexChar m.val) = true := by decide
  have hn : hexChar (n % 16) = hexChar n := by simp only [hexChar, Nat.mod_mod]
  exact hn ▸ table ⟨n % 16, Nat.mod_lt n (by decide)⟩

theorem isPlain_of_mem_hexDigits {width n : Nat} {c : Char} (h : c ∈ hexDigits width n) :
    isPlain c = true := by
  induction width generalizing n with
  | zero => cases h
  | succ width ih =>
    rw [hexDigits, List.mem_append, List.mem_singleton] at h
    rcases h with h | rfl
    · exact ih h
    · exact isPlain_hexChar n

theorem isPlain_of_mem_hexEscape {c d : Char} (h : d ∈ hexEscape c) : isPlain d = true := by
  have of_mem_cons : ∀ {letter : Char} {digits : List Char}, isPlain letter = true →
      (∀ e ∈ digits, isPlain e = true) → d ∈ '\\' :: letter :: digits → isPlain d = true := by
    intro letter digits hl hds hd
    rcases List.mem_cons.mp hd with rfl | hd
    · decide
    · rcases List.mem_cons.mp hd with rfl | hd
      · exact hl
      · exact hds d hd
  unfold hexEscape at h
  dsimp only at h
  split at h
  · exact of_mem_cons (by decide) (fun _ => isPlain_of_mem_hexDigits) h
  · split at h
    · exact of_mem_cons (by decide) (fun _ => isPlain_of_mem_hexDigits) h
    · exact of_mem_cons (by decide) (fun _ => isPlain_of_mem_hexDigits) h

theorem isPlain_of_mem_quoteChar {quote c d : Char} (hq : quote = '\'' ∨ quote = '"')
    (h : d ∈ quoteChar quote c) : isPlain d = true := by
  have of_mem_pair : ∀ {e : Char}, isPlain e = true → d ∈ ['\\', e] → isPlain d = true := by
    intro e he hd
    rcases List.mem_cons.mp hd with rfl | hd
    · decide
    · exact List.mem_singleton.mp hd ▸ he
  unfold quoteChar at h
  split at h
  · rename_i hc
    refine of_mem_pair ?_ h
    rcases Bool.or_eq_true_iff.mp hc with hc | hc
    · rw [of_decide_eq_true hc]
      rcases hq with rfl | rfl <;> decide
    · rw [of_decide_eq_true hc]
      decide
  · split at h
    · exact of_mem_pair (by decide) h
    · split at h
      · exact of_mem_pair (by decide) h
      · split at h
        · exact of_mem_pair (by decide) h
        · split at h
          · rename_i hc
            exact List.mem_singleton.mp h ▸ hc
          · exact isPlain_of_mem_hexEscape h

/-- A quoted text has no character that is not printable, so it stands on one line. -/
theorem isPlain_of_mem_quoted {s : String} {c : Char} (h : c ∈ (quoted s).toList) :
    isPlain c = true := by
  have hq := quoteFor_eq s.toList
  have hquote : isPlain (quoteFor s.toList) = true := by
    rcases hq with hq | hq <;>
    · rw [hq]
      decide
  rw [quoted, quoteChars, String.toList_ofList] at h
  rcases List.mem_append.mp h with h | h
  · rcases List.mem_cons.mp h with rfl | h
    · exact hquote
    · obtain ⟨d, _, hd⟩ := List.mem_flatMap.mp h
      exact isPlain_of_mem_quoteChar hq hd
  · exact List.mem_singleton.mp h ▸ hquote

end ClientGen.Text
