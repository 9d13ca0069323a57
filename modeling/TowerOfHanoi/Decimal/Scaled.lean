/-!
# Doubles from digits and a power of ten

A decimal too long for an integer is read as a double in a few steps, each of which rounds: the
leading digits as an integer of 64 bits, and then one multiplication or division by a power
of ten. The result may differ from the nearest double in its last digits.

## Main definitions

* `Decimal.Significand`: the digits that fit 64 bits, and how many places were left out.
* `Decimal.scale`: an integer times a power of ten.
-/

namespace TowerOfHanoi.Decimal

/-- The greatest integer that is kept as digits. -/
def maxSignificand : Nat := 0xffffffffffffffff

/-- The digits of a decimal that are kept, as an integer, and the power of ten that goes with the
last of them. -/
structure Significand where
  /-- The digits. -/
  value : Nat
  /-- The power of ten. -/
  exponent : Int
  deriving DecidableEq

namespace Significand

/-- Reads the digits in front of the point. Once a digit no longer fits, it and all the digits
behind it only raise the power of ten. -/
def ofWhole (digits : List Nat) : Significand :=
  digits.foldl (fun read digit =>
    if read.exponent = 0 ∧ 10 * read.value + digit ≤ maxSignificand then
      ⟨10 * read.value + digit, 0⟩
    else ⟨read.value, read.exponent + 1⟩) ⟨0, 0⟩

/-- Reads the digits behind the point, up to the first that no longer fits. -/
def addFraction : Significand → List Nat → Significand
  | read, [] => read
  | read, digit :: digits =>
    if 10 * read.value + digit ≤ maxSignificand then
      addFraction ⟨10 * read.value + digit, read.exponent - 1⟩ digits
    else read

end Significand

/-- The power of ten as a double. -/
def powerOfTen (exponent : Nat) : Float :=
  Float.ofScientific 1 false exponent

/-- Divides by a power of ten, by at most `10 ^ 308` at a time and no further than zero. -/
def divide (x : Float) (exponent : Nat) : Float :=
  if exponent ≤ 308 then x / powerOfTen exponent
  else if x == 0 then x
  else divide (x / powerOfTen 308) (exponent - 308)
termination_by exponent

/-- An integer times a power of ten, unless that is too large for a double. -/
def scale (significand : Significand) : Option Float :=
  let x := significand.value.toUInt64.toFloat
  match significand.exponent with
  | .negSucc down => some (divide x (down + 1))
  | .ofNat up =>
    if x == 0 then some x
    else if up ≤ 308 then
      let product := x * powerOfTen up
      if product.isInf then none else some product
    else none

end TowerOfHanoi.Decimal
