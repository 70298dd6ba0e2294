/-! Numbers written in hexadecimal digits. -/

namespace UniText

/-- A digit for a value below sixteen. -/
def hexDigit (value : Nat) : Char := Nat.digitChar (value % 16)

/-- The lowest hexadecimal digits of a number, the most significant first. -/
def hexDigits : (count : Nat) → Nat → List Char
  | 0, _ => []
  | count + 1, number => hexDigits count (number / 16) ++ [hexDigit number]

/-- The value of a hexadecimal digit. -/
def hexValue? (digit : Char) : Option Nat :=
  -- Letters count from ten, in capital or small form.
  if '0' ≤ digit && digit ≤ '9' then some (digit.toNat - '0'.toNat)
  else if 'a' ≤ digit && digit ≤ 'f' then some (digit.toNat - 'a'.toNat + 10)
  else if 'A' ≤ digit && digit ≤ 'F' then some (digit.toNat - 'A'.toNat + 10)
  else none

end UniText
