import TowerOfHanoi.Text.Quoted

/-!
# JSON values and their text

The documents that are written are made of strings, whole numbers, truth values, lists and
records. A document is written compactly, without any blanks, or spread over lines with two
spaces for each level.

## Main definitions

* `Json`: a document.
* `Json.compact`, `Json.pretty`: its two texts.
-/

namespace TowerOfHanoi

/-- A JSON document. -/
inductive Json
  | bool (value : Bool)
  | number (value : Nat)
  | string (value : String)
  | array (items : List Json)
  | object (members : List (String × Json))

namespace Json

/-- A character inside a string: the quote, the backslash and the controls are escaped. -/
def escape (c : Char) : String :=
  match c with
  | '\x22' => "\\\""
  | '\\' => "\\\\"
  | '\x08' => "\\b"
  | '\x0c' => "\\f"
  | '\n' => "\\n"
  | '\r' => "\\r"
  | '\t' => "\\t"
  | _ =>
    if c.toNat < 0x20 then
      "\\u" ++ String.ofList (List.replicate (4 - (Text.hexDigits c.toNat).length) '0') ++
        Text.hexDigits c.toNat
    else c.toString

/-- The text of a string. -/
def quote (text : String) : String :=
  "\"" ++ String.join (text.toList.map escape) ++ "\""

/-- The text of a truth value. -/
def boolText (value : Bool) : String :=
  if value then "true" else "false"

mutual

/-- The text of a document without any blanks. -/
def compact : Json → String
  | bool value => boolText value
  | number value => toString value
  | string value => quote value
  | array items => "[" ++ String.intercalate "," (compactItems items) ++ "]"
  | object members => "\x7b" ++ String.intercalate "," (compactMembers members) ++ "\x7d"

/-- The texts of the items of a list. -/
def compactItems : List Json → List String
  | [] => []
  | item :: items => compact item :: compactItems items

/-- The texts of the members of a record. -/
def compactMembers : List (String × Json) → List String
  | [] => []
  | (name, value) :: members => (quote name ++ ":" ++ compact value) :: compactMembers members

end

/-- A new line at the given level. -/
def newline (level : Nat) : String :=
  String.ofList ('\n' :: List.replicate (2 * level) ' ')

/-- Parts between brackets, each on a line of its own one level further in. Without parts the
brackets stand alone. -/
def block (level : Nat) (opening closing : String) (parts : List String) : String :=
  match parts with
  | [] => opening ++ closing
  | _ =>
    opening ++ newline (level + 1) ++ String.intercalate ("," ++ newline (level + 1)) parts ++
      newline level ++ closing

mutual

/-- The text of a document over lines, at the given level. -/
def prettyAt (level : Nat) : Json → String
  | bool value => boolText value
  | number value => toString value
  | string value => quote value
  | array items => block level "[" "]" (prettyItems (level + 1) items)
  | object members => block level "\x7b" "\x7d" (prettyMembers (level + 1) members)

/-- The texts of the items of a list. -/
def prettyItems (level : Nat) : List Json → List String
  | [] => []
  | item :: items => prettyAt level item :: prettyItems level items

/-- The texts of the members of a record. -/
def prettyMembers (level : Nat) : List (String × Json) → List String
  | [] => []
  | (name, value) :: members =>
    (quote name ++ ": " ++ prettyAt level value) :: prettyMembers level members

end

/-- The text of a document over lines. -/
def pretty (document : Json) : String :=
  prettyAt 0 document

end Json

end TowerOfHanoi
