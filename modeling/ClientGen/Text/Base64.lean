/-!
# Bytes in 64 characters

Three bytes are written as four characters that hold six bits each; a group at the end that
is not full is filled up with equals signs. Other characters do not count. This file fixes
how such a text is read, and which texts cannot be: those whose last group is open.
-/
namespace ClientGen.Text

/-- The 64 characters, in order. -/
def sixBitChars : List Char :=
  "ABCDEFGHIJKLMNOPQRSTUVWXYZabcdefghijklmnopqrstuvwxyz0123456789+/".toList

/-- Bits of a character. -/
def sixBits? (c : Char) : Option Nat := sixBitChars.idxOf? c

/-- Bytes of a group: one less than it has characters. -/
def groupBytes : List Nat → List Nat
  | [a, b] => [4 * a + b / 16]
  | [a, b, c] => [4 * a + b / 16, b % 16 * 16 + c / 4]
  | [a, b, c, d] => [4 * a + b / 16, b % 16 * 16 + c / 4, c % 4 * 64 + d]
  | _ => []

/-- Bytes of the rest of a text; `group` holds the bits of the group begun and `pads` counts
the equals signs behind it. The sign that fills up a group ends the text. -/
def base64From (group : List Nat) (pads : Nat) : List Char → Option (List Nat)
  | [] => if group.isEmpty then some [] else none
  | c :: cs =>
    if c = '=' then
      if 2 ≤ group.length && 4 ≤ group.length + pads + 1 then some (groupBytes group)
      else base64From group (if 2 ≤ group.length then pads + 1 else pads) cs
    else
      match sixBits? c with
      | none => base64From group pads cs
      | some bits =>
        let group := group ++ [bits]
        if group.length = 4 then return groupBytes group ++ (← base64From [] 0 cs)
        else base64From group 0 cs

/-- Bytes of a text. -/
def base64Bytes? (cs : List Char) : Option (List Nat) := base64From [] 0 cs

end ClientGen.Text
