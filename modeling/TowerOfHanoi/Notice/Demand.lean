import TowerOfHanoi.Pattern

/-!
# Demands on values

A directive can say what a value of a notice has to be: a number, which is compared as such, or a
pattern for the text of the value. The words for truth values are patterns too. A text that reads
as a number need not be a pattern, and any other text has to be one.

## Main definitions

* `Demand.isNumber`: whether a text reads as a number.
* `Demand.judge`: whether a text is a demand, and why not.
-/

namespace TowerOfHanoi.Demand

/-- The text behind a sign, if there is one. -/
def dropSign : List Char → List Char
  | '+' :: cs => cs
  | '-' :: cs => cs
  | cs => cs

/-- Whether a text is an exponent or nothing at all. -/
def isExponent : List Char → Bool
  | [] => true
  | c :: cs =>
    let digits := dropSign cs
    (c = 'e' || c = 'E') && !digits.isEmpty && digits.all Char.isDigit

/-- Whether a text consists of digits with a point among, in front of or behind them, and an
exponent behind it, if at all. -/
def isDecimal (cs : List Char) : Bool :=
  let whole := cs.takeWhile Char.isDigit
  match cs.dropWhile Char.isDigit with
  | '.' :: rest =>
    !(whole.isEmpty && (rest.takeWhile Char.isDigit).isEmpty) &&
      isExponent (rest.dropWhile Char.isDigit)
  | rest => !whole.isEmpty && isExponent rest

/-- The words for what is no finite number, in letters of either case. -/
def numberWords : List String :=
  ["inf", "infinity", "nan"]

/-- Whether a text reads as a number. -/
def isNumber (cs : List Char) : Bool :=
  let unsigned := dropSign cs
  isDecimal unsigned || numberWords.contains (String.ofList (unsigned.map Char.toLower))

/-- Whether a text is a demand. -/
def judge (cs : List Char) : Except Pattern.Refusal Unit :=
  if isNumber cs then .ok () else Pattern.judge cs

end TowerOfHanoi.Demand
