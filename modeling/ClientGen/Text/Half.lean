/-!
# Halves of pairs

Where characters are written in units of 16 bits, one above the basic plane takes a pair of
units. An escape can write one half of a pair without the other, a lone surrogate. A half is no
character, but a text may hold it: then one of the 2048 private characters from U+10A000 stands for
it. What is said of every text is so said of texts with halves too; these private characters
themselves are in no text. This file fixes

* halves, and the number of a pair;
* the numbers that characters stand for, one to one.
-/
namespace ClientGen.Text

-- A power is a repeated product.
attribute [local instance (high)] instPowNat

/-! ## 1. Pairs -/

/-- Tells whether a number is the first half of a pair that writes one character. -/
def isFirstHalf (n : Nat) : Bool := 0xD800 ≤ n && n ≤ 0xDBFF

/-- Tells whether a number is the second half of a pair that writes one character. -/
def isSecondHalf (n : Nat) : Bool := 0xDC00 ≤ n && n ≤ 0xDFFF

/-- Tells whether a number is half of a pair. -/
def isHalf (n : Nat) : Bool := 0xD800 ≤ n && n ≤ 0xDFFF

/-- Halves lie in one range. -/
theorem isHalf_iff (n : Nat) : isHalf n = true ↔ 0xD800 ≤ n ∧ n ≤ 0xDFFF := by
  rw [isHalf, Bool.and_eq_true, decide_eq_true_iff, decide_eq_true_iff]

/-- Number of the character that a pair writes. -/
def pairNumber (first second : Nat) : Nat :=
  0x10000 + (first - 0xD800) * 0x400 + (second - 0xDC00)

/-! ## 2. Numbers and characters -/

/-- First of the private characters that stand for halves. -/
def firstStandIn : Nat := 0x10A000

/-- Tells whether a character stands for half of a pair. -/
def isStandIn (c : Char) : Bool := firstStandIn ≤ c.toNat && c.toNat < firstStandIn + 0x800

/-- Characters that stand for halves lie in one range. -/
theorem isStandIn_iff (c : Char) :
    isStandIn c = true ↔ firstStandIn ≤ c.toNat ∧ c.toNat < firstStandIn + 0x800 := by
  rw [isStandIn, Bool.and_eq_true, decide_eq_true_iff, decide_eq_true_iff]

/-- Number that a character stands for: its own, or that of a half. -/
def numberOf (c : Char) : Nat :=
  if isStandIn c then c.toNat - firstStandIn + 0xD800 else c.toNat

/-- Character that stands for a number. -/
def charOf (n : Nat) : Char := Char.ofNat (if isHalf n then n - 0xD800 + firstStandIn else n)

/-- No character is a half. -/
theorem isHalf_toNat (c : Char) : ¬isHalf c.toNat = true := by
  have h : c.val.toNat < 0xD800 ∨ 0xDFFF < c.val.toNat ∧ c.val.toNat < 0x110000 := c.valid
  have hn : c.toNat = c.val.toNat := rfl
  rw [isHalf_iff]
  omega

/-- A character stands for one number only. -/
theorem charOf_numberOf (c : Char) : charOf (numberOf c) = c := by
  unfold numberOf charOf
  by_cases h : isStandIn c = true
  · obtain ⟨hlow, hhigh⟩ := (isStandIn_iff c).mp h
    have hh : isHalf (c.toNat - firstStandIn + 0xD800) = true := (isHalf_iff _).mpr (by omega)
    have hn : c.toNat - firstStandIn + 0xD800 - 0xD800 + firstStandIn = c.toNat := by omega
    rw [if_pos h, if_pos hh, hn, Char.ofNat_toNat]
  · rw [if_neg h, if_neg (isHalf_toNat c), Char.ofNat_toNat]

/-- No number of a character takes more than eight hexadecimal digits. -/
theorem numberOf_lt (c : Char) : numberOf c < 16 ^ (8 : Nat) := by
  have hc : c.toNat < 16 ^ (8 : Nat) := c.val.toNat_lt
  unfold numberOf
  split
  · rename_i h
    have hhigh := ((isStandIn_iff c).mp h).2
    omega
  · exact hc

end ClientGen.Text
