import ConfigTables.Text.Digit

/-!
# Integers in cells

An integer is an optional sign and 1 to 17 decimal digits, which may come from any script and from
several. Its value is the sum of the digit values by place, so it always fits into 64 bits.
-/

namespace ConfigTables.Value

/-- The greatest number of digits of an integer. -/
def maxDigits : Nat := 17

/-- The number that a list of digit values denotes, the most significant first. -/
def ofDigits (digits : List Nat) : Nat :=
  digits.foldl (fun n d ↦ 10 * n + d) 0

/-- Reads 1 to 17 digits. -/
def readDigits (cs : List Char) : Option Nat :=
  if cs = [] ∨ maxDigits < cs.length then none
  else (cs.mapM Text.digitValue?).map ofDigits

/-- Reads an integer. -/
def readInteger : List Char → Option Int
  | '+' :: cs => (readDigits cs).map Int.ofNat
  | '-' :: cs => (readDigits cs).map fun n ↦ -Int.ofNat n
  | cs => (readDigits cs).map Int.ofNat

end ConfigTables.Value
