import Mathlib.Data.List.Basic
import Mathlib.Data.List.Forall2
import TowerOfHanoi.Json.Draft
import TowerOfHanoi.Json.Value

/-!
# The texts of a document

Many texts stand for one document: there may be spaces, tabs and newlines between its tokens, and a
character of a string may be written as it is or as an escape. This file says which texts these
are, by the grammar of JSON and without reading them. The two texts that are written for a
document are among them.

The order of the members of a record is that of the document. A number is a whole one here and has
its one decimal numeral.

## Main definitions

* `Json.SpellsChar`, `Json.SpellsString`: the ways to write a character of a string, and a string.
* `Json.Separated`: items with commas between them, up to a closing bracket.
* `Json.Spells`: the texts of a document, from its first token to its last.
* `Json.Denotes`: the same with spaces around it.

## Main results

* `Json.denotes_compact`, `Json.denotes_pretty`: the texts that are written for a document.
-/

namespace TowerOfHanoi.Json

/-! ### The grammar -/

/-- Characters that may stand between tokens. -/
def Gap (cs : List Char) : Prop :=
  ∀ c ∈ cs, isSpace c = true

/-- The ways to write one character of a string. -/
inductive SpellsChar : List Char → Char → Prop
  /-- As it is. The quote, the backslash and the controls below the space must be escaped. -/
  | plain {c : Char} (hquote : c ≠ '\x22') (hbackslash : c ≠ '\\') (hspace : 0x20 ≤ c.toNat) :
      SpellsChar [c] c
  /-- By a mark behind a backslash. -/
  | short {mark c : Char} (hmark : shortEscape mark = some c) : SpellsChar ['\\', mark] c
  /-- As a code unit, by four hexadecimal digits. -/
  | unit {h₁ h₂ h₃ h₄ c : Char} (hcode : codeUnit h₁ h₂ h₃ h₄ = some c.toNat) :
      SpellsChar ['\\', 'u', h₁, h₂, h₃, h₄] c
  /-- As a pair of code units, if one is not enough. -/
  | pair {h₁ h₂ h₃ h₄ l₁ l₂ l₃ l₄ c : Char} (hlarge : 0x10000 ≤ c.toNat)
      (hlead : codeUnit h₁ h₂ h₃ h₄ = some (0xd800 + (c.toNat - 0x10000) / 0x400))
      (htrail : codeUnit l₁ l₂ l₃ l₄ = some (0xdc00 + (c.toNat - 0x10000) % 0x400)) :
      SpellsChar ['\\', 'u', h₁, h₂, h₃, h₄, '\\', 'u', l₁, l₂, l₃, l₄] c

/-- The ways to write the characters of a string one after the other. -/
inductive SpellsChars : List Char → List Char → Prop
  | nil : SpellsChars [] []
  | cons {front rest cs : List Char} {c : Char} (hchar : SpellsChar front c)
      (hrest : SpellsChars rest cs) : SpellsChars (front ++ rest) (c :: cs)

/-- The ways to write a string: its characters between quotes. -/
inductive SpellsString : List Char → String → Prop
  | quoted {inner : List Char} {text : String} (hinner : SpellsChars inner text.toList) :
      SpellsString ('\x22' :: (inner ++ ['\x22'])) text

/-- The ways to write at least one item, with commas between the items and a bracket behind the
last. -/
inductive Separated {α : Type} (piece : List Char → α → Prop) (closing : Char) :
    List Char → List α → Prop
  | last {text gap : List Char} {item : α} (hpiece : piece text item) (hgap : Gap gap) :
      Separated piece closing (text ++ (gap ++ [closing])) [item]
  | more {text before behind rest : List Char} {item : α} {items : List α}
      (hpiece : piece text item) (hbefore : Gap before) (hbehind : Gap behind)
      (hrest : Separated piece closing rest items) :
      Separated piece closing (text ++ (before ++ ',' :: (behind ++ rest))) (item :: items)

/-- The ways to write a member of a record, given those to write its value. -/
inductive SpellsMember (value : List Char → Json → Prop) : List Char → String × Json → Prop
  | named {key before behind text : List Char} {name : String} {document : Json}
      (hname : SpellsString key name) (hbefore : Gap before) (hbehind : Gap behind)
      (hvalue : value text document) :
      SpellsMember value (key ++ (before ++ ':' :: (behind ++ text))) (name, document)

/-- The ways to write a document, from its first token to its last. -/
inductive Spells : List Char → Json → Prop
  | bool (value : Bool) : Spells (boolText value).toList (.bool value)
  | number (value : Nat) : Spells (Nat.toDigits 10 value) (.number value)
  | string {text : List Char} {value : String} (hstring : SpellsString text value) :
      Spells text (.string value)
  | emptyArray {gap : List Char} (hgap : Gap gap) : Spells ('[' :: (gap ++ [']'])) (.array [])
  | array {gap text : List Char} {items : List Json} (hgap : Gap gap)
      (hitems : Separated Spells ']' text items) : Spells ('[' :: (gap ++ text)) (.array items)
  | emptyObject {gap : List Char} (hgap : Gap gap) :
      Spells ('\x7b' :: (gap ++ ['\x7d'])) (.object [])
  | object {gap text : List Char} {members : List (String × Json)} (hgap : Gap gap)
      (hmembers : Separated (SpellsMember Spells) '\x7d' text members) :
      Spells ('\x7b' :: (gap ++ text)) (.object members)

/-- A text stands for a document. -/
def Denotes (text : String) (document : Json) : Prop :=
  ∃ front body behind, text.toList = front ++ (body ++ behind) ∧ Gap front ∧ Gap behind ∧
    Spells body document

/-! ### Gaps -/

theorem gap_nil : Gap [] :=
  List.forall_mem_nil _

theorem gap_singleton {c : Char} (hspace : isSpace c = true) : Gap [c] :=
  List.forall_mem_singleton.mpr hspace

theorem gap_newline (level : Nat) : Gap (newline level).toList := by
  intro c hc
  rw [newline, String.toList_ofList, List.mem_cons] at hc
  rcases hc with rfl | hc
  · rfl
  · rw [List.eq_of_mem_replicate hc]
    rfl

/-! ### Strings -/

/-- A control below the space is written with four digits, of which two are zeros. -/
theorem toList_escape_control {code : Nat} (hcontrol : code < 0x20) :
    ("\\u" ++ String.ofList (List.replicate (4 - (Text.hexDigits code).length) '0') ++
        Text.hexDigits code).toList =
      ['\\', 'u', '0', '0', Nat.digitChar (code / 16), Nat.digitChar (code % 16)] ∧
    codeUnit '0' '0' (Nat.digitChar (code / 16)) (Nat.digitChar (code % 16)) = some code := by
  revert code
  decide +kernel

theorem spellsChar_escape (c : Char) : SpellsChar (escape c).toList c := by
  unfold escape
  split
  case h_8 hquote hbackslash _ _ _ _ _ =>
    split
    · rename_i hcontrol
      obtain ⟨htext, hcode⟩ := toList_escape_control hcontrol
      rw [htext]
      exact .unit hcode
    · rename_i hspace
      rw [Char.toString_eq_singleton, String.toList_singleton]
      exact .plain hquote hbackslash (Nat.not_lt.mp hspace)
  all_goals exact .short rfl

theorem spellsChars_escape : (cs : List Char) →
    SpellsChars (String.join (cs.map escape)).toList cs
  | [] => .nil
  | c :: cs => by
    rw [List.map_cons, String.join_cons, String.toList_append]
    exact .cons (spellsChar_escape c) (spellsChars_escape cs)

theorem spellsString_quote (text : String) : SpellsString (quote text).toList text := by
  have hquote : (quote text).toList =
      '\x22' :: ((String.join (text.toList.map escape)).toList ++ ['\x22']) := by
    simp [quote]
  rw [hquote]
  exact .quoted (spellsChars_escape text.toList)

/-! ### The texts that are written -/

section Separated

variable {α : Type} {piece : List Char → α → Prop} {closing : Char}

/-- Texts of items with a comma and a gap between them, and a gap in front of the bracket. -/
theorem separated_intercalate {behind ending : String} (hbehind : Gap behind.toList)
    (hending : Gap ending.toList) {texts : List String} {items : List α}
    (hpieces : List.Forall₂ (fun text item => piece text.toList item) texts items)
    (hne : texts ≠ []) :
    Separated piece closing
      ((("," ++ behind).intercalate texts).toList ++ (ending.toList ++ [closing])) items := by
  induction hpieces with
  | nil => exact absurd rfl hne
  | @cons text item texts items hpiece hpieces ih =>
    cases texts with
    | nil =>
      cases hpieces
      rw [String.intercalate_singleton]
      exact .last hpiece hending
    | cons next texts =>
      have hrest := ih (List.cons_ne_nil next texts)
      rw [String.intercalate_cons_cons]
      simpa [String.toList_append] using Separated.more hpiece gap_nil hbehind hrest

end Separated

/-- The texts of items between brackets, with the same gap behind the opening bracket and behind
every comma. -/
theorem spells_array (behind ending : String) (hbehind : Gap behind.toList)
    (hending : Gap ending.toList) {texts : List String} {items : List Json}
    (hpieces : List.Forall₂ (fun text item => Spells text.toList item) texts items)
    (hne : texts ≠ []) :
    Spells ("[" ++ behind ++ ("," ++ behind).intercalate texts ++ ending ++ "]").toList
      (.array items) := by
  have hitems : Separated Spells ']' _ items :=
    separated_intercalate hbehind hending hpieces hne
  simpa [String.toList_append] using Spells.array hbehind hitems

theorem spells_object (behind ending : String) (hbehind : Gap behind.toList)
    (hending : Gap ending.toList) {texts : List String} {members : List (String × Json)}
    (hpieces : List.Forall₂ (fun text member => SpellsMember Spells text.toList member) texts
      members) (hne : texts ≠ []) :
    Spells ("\x7b" ++ behind ++ ("," ++ behind).intercalate texts ++ ending ++ "\x7d").toList
      (.object members) := by
  have hmembers : Separated (SpellsMember Spells) '\x7d' _ members :=
    separated_intercalate hbehind hending hpieces hne
  simpa [String.toList_append] using Spells.object hbehind hmembers

/-- A member with a gap behind its colon. -/
theorem spellsMember_quote (name behind : String) (hbehind : Gap behind.toList) {text : String}
    {document : Json} (hvalue : Spells text.toList document) :
    SpellsMember Spells (quote name ++ (":" ++ behind) ++ text).toList (name, document) := by
  simpa [String.toList_append] using
    SpellsMember.named (spellsString_quote name) gap_nil hbehind hvalue

mutual

/-- The compact text of a document is one of its texts. -/
theorem spells_compact : (document : Json) → Spells document.compact.toList document
  | .bool value => by
    rw [compact]
    exact .bool value
  | .number value => by
    rw [compact, Nat.toString_eq_repr, Nat.toList_repr]
    exact .number value
  | .string value => by
    rw [compact]
    exact .string (spellsString_quote value)
  | .array [] => by
    rw [compact, compactItems]
    exact .emptyArray gap_nil
  | .array (item :: items) => by
    have hitems := spells_array "" "" gap_nil gap_nil (spells_compactItems (item :: items))
      (List.cons_ne_nil _ _)
    simpa only [compact, String.append_empty] using hitems
  | .object [] => by
    rw [compact, compactMembers]
    exact .emptyObject gap_nil
  | .object (member :: members) => by
    have hmembers := spells_object "" "" gap_nil gap_nil
      (spells_compactMembers (member :: members)) (List.cons_ne_nil _ _)
    simpa only [compact, String.append_empty] using hmembers

theorem spells_compactItems : (items : List Json) →
    List.Forall₂ (fun text item => Spells text.toList item) (compactItems items) items
  | [] => .nil
  | item :: items => .cons (spells_compact item) (spells_compactItems items)

theorem spells_compactMembers : (members : List (String × Json)) →
    List.Forall₂ (fun text member => SpellsMember Spells text.toList member)
      (compactMembers members) members
  | [] => .nil
  | (name, value) :: members => by
    have hmember := spellsMember_quote name "" gap_nil (spells_compact value)
    rw [String.append_empty] at hmember
    exact .cons hmember (spells_compactMembers members)

end

theorem spells_block {level : Nat} {items : List Json} {texts : List String}
    (hitems : List.Forall₂ (fun text item => Spells text.toList item) texts items) :
    Spells (block level "[" "]" texts).toList (.array items) := by
  cases hitems with
  | nil =>
    rw [block]
    exact .emptyArray gap_nil
  | cons hitem hitems =>
    exact spells_array (newline (level + 1)) (newline level) (gap_newline _) (gap_newline _)
      (.cons hitem hitems) (List.cons_ne_nil _ _)

theorem spells_block_members {level : Nat} {members : List (String × Json)} {texts : List String}
    (hmembers : List.Forall₂ (fun text member => SpellsMember Spells text.toList member) texts
      members) :
    Spells (block level "\x7b" "\x7d" texts).toList (.object members) := by
  cases hmembers with
  | nil =>
    rw [block]
    exact .emptyObject gap_nil
  | cons hmember hmembers =>
    exact spells_object (newline (level + 1)) (newline level) (gap_newline _) (gap_newline _)
      (.cons hmember hmembers) (List.cons_ne_nil _ _)

mutual

/-- So is its text over lines, at every level. -/
theorem spells_prettyAt (level : Nat) : (document : Json) →
    Spells (document.prettyAt level).toList document
  | .bool value => by
    rw [prettyAt]
    exact .bool value
  | .number value => by
    rw [prettyAt, Nat.toString_eq_repr, Nat.toList_repr]
    exact .number value
  | .string value => by
    rw [prettyAt]
    exact .string (spellsString_quote value)
  | .array items => by
    rw [prettyAt]
    exact spells_block (spells_prettyItems (level + 1) items)
  | .object members => by
    rw [prettyAt]
    exact spells_block_members (spells_prettyMembers (level + 1) members)

theorem spells_prettyItems (level : Nat) : (items : List Json) →
    List.Forall₂ (fun text item => Spells text.toList item) (prettyItems level items) items
  | [] => .nil
  | item :: items => .cons (spells_prettyAt level item) (spells_prettyItems level items)

theorem spells_prettyMembers (level : Nat) : (members : List (String × Json)) →
    List.Forall₂ (fun text member => SpellsMember Spells text.toList member)
      (prettyMembers level members) members
  | [] => .nil
  | (name, value) :: members =>
    .cons (spellsMember_quote name " " (gap_singleton rfl) (spells_prettyAt level value))
      (spells_prettyMembers level members)

end

theorem Spells.denotes {text : String} {document : Json} (hspells : Spells text.toList document) :
    Denotes text document :=
  ⟨[], text.toList, [], by rw [List.nil_append, List.append_nil], gap_nil, gap_nil, hspells⟩

theorem denotes_compact (document : Json) : Denotes document.compact document :=
  (spells_compact document).denotes

theorem denotes_pretty (document : Json) : Denotes document.pretty document :=
  (spells_prettyAt 0 document).denotes

end TowerOfHanoi.Json
