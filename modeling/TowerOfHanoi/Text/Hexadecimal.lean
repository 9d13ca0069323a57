/-!
# Hexadecimal digits

Characters are named by their code points in base sixteen. Such numbers are written in lower case
and read in either case.

## Main definitions

* `Text.hexDigits`: the digits of a number.
* `Text.hexValue`: the value of a digit.
-/

namespace TowerOfHanoi.Text

/-- The digits of a number in base sixteen, lower case, without leading zeros. -/
def hexDigits (n : Nat) : String :=
  String.ofList (Nat.toDigits 16 n)

/-- The value of a hexadecimal digit. -/
def hexValue (c : Char) : Option Nat :=
  if '0' ≤ c ∧ c ≤ '9' then some (c.toNat - '0'.toNat)
  else if 'a' ≤ c ∧ c ≤ 'f' then some (c.toNat - 'a'.toNat + 10)
  else if 'A' ≤ c ∧ c ≤ 'F' then some (c.toNat - 'A'.toNat + 10)
  else none

end TowerOfHanoi.Text
