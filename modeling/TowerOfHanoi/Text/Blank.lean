import TowerOfHanoi.Text.CodePoints

/-!
# Blanks and words

A blank is a character with the Unicode property `White_Space`. Blanks separate the words of a
text and are ignored around a token.

## Main definitions

* `Text.isBlank`: the property.
* `Text.trim`: a text without the blanks around it.
* `Text.words`: the maximal runs of characters that are not blank, in order.
* `Text.padLeft`: a text filled up with spaces to a given width.
-/

namespace TowerOfHanoi.Text

/-- The code points with the property `White_Space`, as inclusive ranges. -/
def blankRanges : List (Nat × Nat) :=
  [(0x9, 0xd), (0x20, 0x20), (0x85, 0x85), (0xa0, 0xa0), (0x1680, 0x1680), (0x2000, 0x200a),
    (0x2028, 0x2029), (0x202f, 0x202f), (0x205f, 0x205f), (0x3000, 0x3000)]

/-- A character with the Unicode property `White_Space`. -/
def isBlank (c : Char) : Bool :=
  inRanges blankRanges c.toNat

/-- A control character: general category `Cc`. -/
def isControl (c : Char) : Bool :=
  c.toNat ≤ 0x1f || (0x7f ≤ c.toNat && c.toNat ≤ 0x9f)

/-- The characters without the blanks at either end. -/
def trimChars (cs : List Char) : List Char :=
  ((cs.dropWhile isBlank).reverse.dropWhile isBlank).reverse

/-- A text without the blanks at either end. -/
def trim (text : String) : String :=
  String.ofList (trimChars text.toList)

/-- Puts a word in front of the words after it, unless it is empty. -/
def consWord (word : List Char) (words : List (List Char)) : List (List Char) :=
  if word.isEmpty then words else word :: words

/-- Reads one more character at the front: it ends the word that starts behind it when it is
blank, and otherwise begins that word one character earlier. -/
def addToWords (c : Char) (read : List Char × List (List Char)) : List Char × List (List Char) :=
  if isBlank c then ([], consWord read.1 read.2) else (c :: read.1, read.2)

/-- The maximal runs of characters that are not blank, in order. -/
def wordsOfChars (cs : List Char) : List (List Char) :=
  let read := cs.foldr addToWords ([], [])
  consWord read.1 read.2

/-- The words of a text: its maximal runs of characters that are not blank, in order. -/
def words (text : String) : List String :=
  (wordsOfChars text.toList).map String.ofList

/-- A text with spaces in front, so that it has at least the given number of characters. -/
def padLeft (width : Nat) (text : String) : String :=
  String.ofList (List.replicate (width - text.length) ' ') ++ text

@[simp] theorem wordsOfChars_nil : wordsOfChars [] = [] := rfl

end TowerOfHanoi.Text
