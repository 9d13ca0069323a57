/-!
# The shortest decimal of a double

Many decimals are read as the same double. The one that is written has the fewest digits of all
that are read back as the number, and of these it is the nearest. All the arithmetic is exact:
a positive double is a whole number of units of `2 ^ (-1076)`, and so are the ends of the interval
of reals that round to it.

## Main definitions

* `Decimal.Interval`: a positive double with the reals that round to it.
* `Decimal.shortest`: its digits and the power of ten that goes with the last one.
* `Decimal.Layout`, `Decimal.render`: how digits become text.
-/

namespace TowerOfHanoi.Decimal

/-- A positive double and the reals that round to it, in units of `2 ^ (-1076)`. -/
structure Interval where
  /-- The number itself. -/
  value : Nat
  /-- The least real that rounds to it, or the limit of these. -/
  low : Nat
  /-- The greatest real that rounds to it, or the limit of these. -/
  high : Nat
  /-- Whether the ends round to it too. -/
  closed : Bool

/-- The interval of a double, from its significand and biased exponent. The numbers below a power
of two are twice as dense as those above it. -/
def Interval.ofParts (fraction exponent : Nat) : Interval :=
  let significand := if exponent = 0 then fraction else Nat.pow 2 52 + fraction
  let unit := Nat.pow 2 (exponent - 1)
  let below := if fraction = 0 ∧ 1 < exponent then 1 else 2
  { value := 4 * significand * unit
    low := (4 * significand - below) * unit
    high := (4 * significand + 2) * unit
    closed := significand % 2 = 0 }

/-- The interval of a positive double. -/
def Interval.ofFloat (x : Float) : Interval :=
  let bits := x.toBits.toNat
  ofParts (bits % Nat.pow 2 52) (bits / Nat.pow 2 52 % Nat.pow 2 11)

/-- Whether a quotient lies in the interval. -/
def Interval.contains (interval : Interval) (num den : Nat) : Bool :=
  if interval.closed then interval.low * den ≤ num && num ≤ interval.high * den
  else interval.low * den < num && num < interval.high * den

/-- The power of ten `10 ^ exponent` in units of `2 ^ (-1076)`, as a quotient. -/
def gridStep (exponent : Int) : Nat × Nat :=
  match exponent with
  | .ofNat up => (Nat.pow 10 up * Nat.pow 2 1076, 1)
  | .negSucc down => (Nat.pow 2 1076, Nat.pow 10 (down + 1))

/-- The multiple of a power of ten that lies in the interval and is nearest to the number, if there
is one; of two equally near the even one. -/
def Interval.onGrid (interval : Interval) (exponent : Int) : Option Nat :=
  let (num, den) := gridStep exponent
  let below := interval.value * den / num
  let above := below + 1
  match interval.contains (below * num) den, interval.contains (above * num) den with
  | false, false => none
  | true, false => some below
  | false, true => some above
  | true, true =>
    let toBelow := interval.value * den - below * num
    let toAbove := above * num - interval.value * den
    if toBelow < toAbove || (toBelow = toAbove && below % 2 = 0) then some below else some above

/-- Tries at most `tries` powers of ten, downwards, until a multiple lies in the interval. -/
def Interval.search (interval : Interval) : (tries : Nat) → (exponent : Int) → Nat × Int
  | 0, exponent => (0, exponent)
  | tries + 1, exponent =>
    match interval.onGrid exponent with
    | some (digits + 1) => (digits + 1, exponent)
    | _ => interval.search tries (exponent - 1)

/-- The shortest decimal of a positive double: its digits as a number that does not end in zero,
and the power of ten to multiply them with. -/
def shortest (x : Float) : Nat × Int :=
  (Interval.ofFloat x).search 640 309

/-- How a decimal is laid out: with its point in place when the power of ten of its first digit
lies between the two bounds, and otherwise with that power behind it. -/
structure Layout where
  /-- The least power of ten that is written in place. -/
  minInPlace : Int
  /-- The greatest power of ten that is written in place. -/
  maxInPlace : Int
  /-- What stands between the digits and the power. -/
  mark : String
  /-- The sign of a power that is not negative. -/
  plus : String

/-- The text of the digits with their point in place; a whole number ends in `.0`. -/
def inPlace (digits : List Char) (exponent : Int) : List Char :=
  match exponent with
  | .ofNat zeros => digits ++ List.replicate zeros '0' ++ ['.', '0']
  | .negSucc places =>
    let places := places + 1
    if digits.length ≤ places then
      ['0', '.'] ++ List.replicate (places - digits.length) '0' ++ digits
    else digits.take (digits.length - places) ++ '.' :: digits.drop (digits.length - places)

/-- The text of the digits with a point behind the first one and the power of ten at the end. -/
def withPower (layout : Layout) (digits : List Char) (power : Int) : List Char :=
  let shown := match digits with
    | first :: second :: rest => first :: '.' :: second :: rest
    | _ => digits
  let sign := if power < 0 then "-" else layout.plus
  shown ++ layout.mark.toList ++ sign.toList ++ (toString power.natAbs).toList

/-- The text of a finite double. -/
def render (layout : Layout) (x : Float) : String :=
  let negative := x.toBits.toNat / Nat.pow 2 63 = 1
  let body :=
    if x.toBits.toNat % Nat.pow 2 63 = 0 then ['0', '.', '0']
    else
      let (number, exponent) := shortest x
      let digits := (toString number).toList
      let power := exponent + digits.length - 1
      if layout.minInPlace ≤ power ∧ power ≤ layout.maxInPlace then inPlace digits exponent
      else withPower layout digits power
  String.ofList (if negative then '-' :: body else body)

end TowerOfHanoi.Decimal
