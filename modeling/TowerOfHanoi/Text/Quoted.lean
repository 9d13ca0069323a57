import TowerOfHanoi.Text.Hexadecimal
import TowerOfHanoi.Text.Printable

/-!
# Quoted text

Messages quote what they refuse. A string stands between double quotes and a character between
single quotes. The quote that encloses it and the backslash are escaped, the four common
controls have short names, and every other character that cannot be shown as it is becomes
its code point in hexadecimal.

## Main definitions

* `Text.quoteString`, `Text.quoteChar`: the quoted forms of a string and of a character.
-/

namespace TowerOfHanoi.Text

/-- A character as it appears between the given quotes. -/
def escapeChar (quote c : Char) : String :=
  if c = '\x00' then "\\0"
  else if c = '\t' then "\\t"
  else if c = '\r' then "\\r"
  else if c = '\n' then "\\n"
  else if c = '\\' || c = quote then String.ofList ['\\', c]
  else if isPrintable c then c.toString
  else "\\u\x7b" ++ hexDigits c.toNat ++ "\x7d"

/-- A string between double quotes, every character escaped as needed. -/
def quoteString (text : String) : String :=
  "\"" ++ String.join (text.toList.map (escapeChar '\x22')) ++ "\""

/-- A character between single quotes, escaped as needed. -/
def quoteChar (c : Char) : String :=
  "'" ++ escapeChar '\x27' c ++ "'"

end TowerOfHanoi.Text
