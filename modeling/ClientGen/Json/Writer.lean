import ClientGen.Fault

/-!
# Writing JSON

Values are written on one line and in ASCII: in texts the quote, the backslash, control
characters and all characters beyond ASCII are escaped, those above the basic plane as a pair
of 16-bit units. Records keep their order. Moments, integers that are too long and what holds
itself have no written form.
-/
namespace ClientGen.Json

open ClientGen.Text ClientGen.Number

/-- The 16-bit units of a character: one, or two above the basic plane. -/
def unitsOf (c : Char) : List Nat :=
  let n := numberOf c
  if n < 0x10000 then [n] else [0xD800 + (n - 0x10000) / 0x400, 0xDC00 + (n - 0x10000) % 0x400]

/-- Escape of one 16-bit unit. -/
def escapeUnit (n : Nat) : List Char := '\\' :: 'u' :: hexDigits 4 n

/-- One character of a text. -/
def writeChar (c : Char) : List Char :=
  if c = '"' || c = '\\' then ['\\', c]
  else if 0x20 ≤ c.toNat ∧ c.toNat < 0x7F then [c]
  else (unitsOf c).flatMap escapeUnit

/-- Text between double quotes. -/
def writeText (s : String) : String :=
  String.ofList ('"' :: s.toList.flatMap writeChar ++ ['"'])

/-- Floating-point number; the infinities and not-a-number go by name. -/
def writeFloat : Binary64 → String
  | .nan => "NaN"
  | .infinite negative => if negative then "-Infinity" else "Infinity"
  | x => x.text

mutual

/-- Value as JSON. -/
def write : Value → Except ClientGen.Fault String
  | .null => .ok "null"
  | .bool b => .ok (if b then "true" else "false")
  | .int n => if Value.hasLongInteger (.int n) then .error .longInteger else .ok (integerText n)
  | .float x => .ok (writeFloat x)
  | .text s => .ok (writeText s)
  | .moment _ => .error .wrongKind
  | .loop _ _ => .error .holdsItself
  | .list items => do return "[" ++ join "," (← writeAll items) ++ "]"
  | .record entries => do return "\x7b" ++ join "," (← writeEntries entries) ++ "\x7d"

/-- Items of a list as JSON. -/
def writeAll : List Value → Except ClientGen.Fault (List String)
  | [] => .ok []
  | v :: vs => do return (← write v) :: (← writeAll vs)

/-- Entries of a record as JSON. -/
def writeEntries : List (String × Value) → Except ClientGen.Fault (List String)
  | [] => .ok []
  | (k, v) :: es => do return (writeText k ++ ":" ++ (← write v)) :: (← writeEntries es)

end

end ClientGen.Json
