import Mathlib.Data.Nat.Basic
import TowerOfHanoi.Proofs.Json.Spelling

/-!
# Reading the texts of a document

A text is read into a draft, which has a place for every flaw of the text. A text of a document has
no flaw: whichever of its texts is read, and whatever stands behind it, the draft is the one that
shows the document, and all of the text is used up. Two texts of one document are therefore read
alike.

The reader takes steps of fuel, one for a value and one for each item of a list or a record. The
induction is on the fuel; within a list or a record it is on the items. Twice the length of a text
is fuel enough, since every item has a comma or a bracket of its own behind it.

## Main definitions

* `Json.draft`: the draft that shows a document.
* `Json.NumberEnds`: what stands behind a number does not make it longer.

## Main results

* `Json.readString_of_spells`, `Json.readNumber_toDigits`: strings and numbers.
* `Json.readsValues`: a document with anything behind it.
* `Json.Denotes.ofText_eq`: a whole text.
-/

namespace TowerOfHanoi.Json

/-! ### The draft of a document -/

/-- A leaf with a value. -/
def Leaf.whole {α : Type} (value : α) : Leaf α :=
  ⟨.ok value, .ok ()⟩

/-- The digits of a number in decimal. -/
def decimalDigits (number : Nat) : List Nat :=
  (Nat.toDigits 10 number).map fun c => c.toNat - '0'.toNat

/-- The number as it is written: its digits and nothing else. -/
def wholeNumeral (number : Nat) : Numeral :=
  ⟨false, decimalDigits number, none, none⟩

mutual

/-- The draft that shows a document as a whole. -/
def draft : Json → Draft
  | bool value => .bool value
  | number value => .number ⟨(wholeNumeral value).value, .ok ()⟩
  | string value => .string (.whole value)
  | array items => .array (draftItems items) (.ok ())
  | object members => .object (draftMembers members) (.ok ())

/-- The drafts of the items of a list. -/
def draftItems : List Json → List Draft
  | [] => []
  | item :: items => draft item :: draftItems items

/-- The drafts of the members of a record. -/
def draftMembers : List (String × Json) → List (Leaf String × Draft)
  | [] => []
  | (name, value) :: members => (.whole name, draft value) :: draftMembers members

end

/-! ### Strings -/

/-- A code unit that is no half of a pair stands for its character, whatever follows. -/
theorem joinPieces_unit {code : Nat} (hleading : isLeading code = false)
    (htrailing : isTrailing code = false) (ending : Except Flaw Unit) (pieces : List Piece) :
    joinPieces ending (.unit code :: pieces) =
      (joinPieces ending pieces).map (Char.ofNat code :: ·) := by
  cases pieces with
  | nil => rcases ending with flaw | _ <;> simp [joinPieces, hleading, htrailing, Except.map]
  | cons piece pieces => cases piece <;> simp [joinPieces, hleading, htrailing]

/-- No character is half of a pair. -/
theorem isLeading_toNat (c : Char) : isLeading c.toNat = false := by
  have hvalid : c.toNat.isValidChar := c.valid
  simp only [isLeading, Bool.and_eq_false_iff, decide_eq_false_iff_not]
  rcases hvalid with hbelow | ⟨habove, -⟩ <;> omega

theorem isTrailing_toNat (c : Char) : isTrailing c.toNat = false := by
  have hvalid : c.toNat.isValidChar := c.valid
  simp only [isTrailing, Bool.and_eq_false_iff, decide_eq_false_iff_not]
  rcases hvalid with hbelow | ⟨habove, -⟩ <;> omega

/-- The halves of a pair stand for a character beyond the code units. -/
theorem joinPieces_pair {c : Char} (hlarge : 0x10000 ≤ c.toNat) (ending : Except Flaw Unit)
    (pieces : List Piece) :
    joinPieces ending (.unit (0xd800 + (c.toNat - 0x10000) / 0x400) ::
        .unit (0xdc00 + (c.toNat - 0x10000) % 0x400) :: pieces) =
      (joinPieces ending pieces).map (c :: ·) := by
  have hvalid : c.toNat.isValidChar := c.valid
  have hsmall : c.toNat < 0x110000 := by rcases hvalid with hbelow | ⟨-, habove⟩ <;> omega
  have hlead : isTrailing (0xd800 + (c.toNat - 0x10000) / 0x400) = false ∧
      isLeading (0xd800 + (c.toNat - 0x10000) / 0x400) = true := by
    simp only [isTrailing, isLeading, Bool.and_eq_false_iff, Bool.and_eq_true,
      decide_eq_false_iff_not, decide_eq_true_eq]
    omega
  have htrail : isTrailing (0xdc00 + (c.toNat - 0x10000) % 0x400) = true := by
    simp only [isTrailing, Bool.and_eq_true, decide_eq_true_eq]
    omega
  have hcode : 0x10000 + (0xd800 + (c.toNat - 0x10000) / 0x400 - 0xd800) * 0x400 +
      (0xdc00 + (c.toNat - 0x10000) % 0x400 - 0xdc00) = c.toNat := by omega
  rw [joinPieces, hcode, Char.ofNat_toNat]
  simp only [hlead, htrail, Bool.false_eq_true, if_false, if_true]

/-- However a character is written, the pieces that are read for it stand for it. -/
theorem readPieces_of_spellsChar {front : List Char} {c : Char} (hchar : SpellsChar front c) :
    ∃ chunk, (∀ rest, readPieces (front ++ rest) =
        (chunk ++ (readPieces rest).1, (readPieces rest).2)) ∧
      ∀ ending pieces, joinPieces ending (chunk ++ pieces) =
        (joinPieces ending pieces).map (c :: ·) := by
  cases hchar with
  | plain hquote hbackslash hspace =>
    refine ⟨[.char c], fun rest => ?_, fun ending pieces => rfl⟩
    have hcontrol : ¬ c.toNat < 0x20 := Nat.not_lt.mpr hspace
    rw [List.singleton_append, readPieces, if_neg hcontrol]
    · rfl
    · exact hquote
    all_goals
      intros
      contradiction
  | @short mark _ hmark =>
    refine ⟨[.char c], fun rest => ?_, fun ending pieces => rfl⟩
    have hu : mark ≠ 'u' := by
      rintro rfl
      cases hmark
    rw [List.cons_append, List.singleton_append, readPieces, hmark]
    · rfl
    all_goals
      intros
      contradiction
  | unit hcode =>
    refine ⟨[.unit c.toNat], fun rest => ?_, fun ending pieces => ?_⟩
    · simp only [List.cons_append, List.nil_append, readPieces, hcode]
    · rw [List.singleton_append, joinPieces_unit (isLeading_toNat c) (isTrailing_toNat c),
        Char.ofNat_toNat]
  | pair hlarge hlead htrail =>
    refine ⟨[.unit (0xd800 + (c.toNat - 0x10000) / 0x400),
      .unit (0xdc00 + (c.toNat - 0x10000) % 0x400)], fun rest => ?_, joinPieces_pair hlarge⟩
    simp only [List.cons_append, List.nil_append, readPieces, hlead, htrail]

theorem readPieces_of_spellsChars {inner cs : List Char} (hinner : SpellsChars inner cs)
    (rest : List Char) :
    ∃ pieces, readPieces (inner ++ '\x22' :: rest) = (pieces, .ok rest) ∧
      joinPieces (.ok ()) pieces = .ok cs := by
  induction hinner with
  | nil => exact ⟨[], rfl, rfl⟩
  | cons hchar hrest ih =>
    obtain ⟨pieces, hread, hjoined⟩ := ih
    obtain ⟨chunk, hchunk, hmeant⟩ := readPieces_of_spellsChar hchar
    refine ⟨chunk ++ pieces, ?_, ?_⟩
    · rw [List.append_assoc, hchunk, hread]
    · rw [hmeant, hjoined]
      rfl

/-- A string is read behind its opening quote. -/
theorem readString_of_spells {text : List Char} {value : String}
    (hstring : SpellsString text value) (rest : List Char) :
    ∃ behind, text ++ rest = '\x22' :: behind ∧ readString behind = (.whole value, .ok rest) := by
  cases hstring with
  | @quoted inner _ hinner =>
    obtain ⟨pieces, hread, hjoined⟩ := readPieces_of_spellsChars hinner rest
    refine ⟨inner ++ '\x22' :: rest, by simp, ?_⟩
    rw [readString, hread]
    simp only [Except.map, hjoined, String.ofList_toList, Leaf.whole]

/-! ### Numbers -/

/-- What stands behind a number is neither a digit nor the beginning of a fraction or of an
exponent. -/
def NumberEnds (rest : List Char) : Prop :=
  ∀ c ∈ rest.head?, digitValue c = none ∧ c ≠ '.' ∧ c ≠ 'e' ∧ c ≠ 'E'

theorem spanDigits_append {digits rest : List Char} (hdigits : ∀ c ∈ digits, c.isDigit = true)
    (hends : NumberEnds rest) :
    spanDigits (digits ++ rest) = (digits.map fun c => c.toNat - '0'.toNat, rest) := by
  induction digits with
  | nil =>
    cases rest with
    | nil => rfl
    | cons c rest =>
      have hnone : digitValue c = none := (hends c rfl).1
      simp only [List.nil_append, spanDigits, hnone, List.map_nil]
  | cons c digits ih =>
    rw [List.forall_mem_cons] at hdigits
    simp only [List.cons_append, spanDigits, digitValue_of_isDigit hdigits.1, ih hdigits.2,
      List.map_cons]

theorem decimalDigits_of_lt {number : Nat} (hsmall : number < 10) :
    decimalDigits number = [number] := by
  rw [decimalDigits, Nat.toDigits_of_lt_base hsmall, List.map_singleton]
  revert number
  decide

theorem decimalDigits_of_le {number : Nat} (hlarge : 10 ≤ number) :
    decimalDigits number = decimalDigits (number / 10) ++ [number % 10] := by
  have hlast := decimalDigits_of_lt (Nat.mod_lt number (by decide : 0 < 10))
  rw [decimalDigits, Nat.toDigits_of_lt_base (Nat.mod_lt number (by decide : 0 < 10))] at hlast
  rw [decimalDigits, Nat.toDigits_of_base_le (by decide) hlarge, List.map_append, hlast,
    decimalDigits]

/-- Only zero begins with a zero. -/
theorem head?_decimalDigits {number : Nat} (hpos : 0 < number) :
    (decimalDigits number).head? ≠ some 0 := by
  induction number using Nat.strongRecOn with
  | ind number ih =>
    by_cases hlarge : 10 ≤ number
    · have hfront := ih (number / 10) (by omega) (by omega)
      rw [decimalDigits_of_le hlarge, List.head?_append]
      cases hhead : (decimalDigits (number / 10)).head? with
      | none => simp [decimalDigits, Nat.toDigits_ne_nil] at hhead
      | some digit =>
        rw [hhead] at hfront
        exact hfront
    · rw [decimalDigits_of_lt (by omega)]
      simp only [List.head?_cons, ne_eq, Option.some.injEq]
      omega

theorem readWhole_toDigits (number : Nat) {rest : List Char} (hends : NumberEnds rest) :
    readWhole (Nat.toDigits 10 number ++ rest) = .ok (decimalDigits number, rest) := by
  have hspan := spanDigits_append
    (fun c (hc : c ∈ Nat.toDigits 10 number) =>
      Nat.isDigit_of_mem_toDigits (by decide) (by decide) hc) hends
  rw [← decimalDigits] at hspan
  have hread : readDigits1 (Nat.toDigits 10 number ++ rest) = .ok (decimalDigits number, rest) := by
    obtain ⟨digit, digits, hcons⟩ : ∃ digit digits, decimalDigits number = digit :: digits :=
      List.exists_cons_of_ne_nil (by simp [decimalDigits, Nat.toDigits_ne_nil])
    rw [readDigits1, hspan, hcons]
  simp only [readWhole, hread, bind, Except.bind]
  split
  · rename_i second digits _ h
    have hdigits : decimalDigits number = 0 :: second :: digits := congrArg Prod.fst h
    rcases Nat.eq_zero_or_pos number with rfl | hpos
    · cases hdigits
    · exact absurd (by rw [hdigits]; rfl) (head?_decimalDigits hpos)
  · rfl

/-- A number is read up to where it ends. -/
theorem readNumber_toDigits (number : Nat) {rest : List Char} (hends : NumberEnds rest) :
    readNumber false (Nat.toDigits 10 number ++ rest) =
      (⟨(wholeNumeral number).value, .ok ()⟩, .ok rest) := by
  have hfraction : readFraction rest = .ok (none, rest) := by
    unfold readFraction
    split
    · exact absurd rfl (hends '.' rfl).2.1
    · rfl
  have hexponent : readExponent rest = .ok (none, rest) := by
    cases rest with
    | nil => rfl
    | cons c rest =>
      obtain ⟨-, -, hlower, hupper⟩ := hends c rfl
      simp only [readExponent, hlower, hupper, decide_false, Bool.or_self, Bool.false_eq_true,
        if_false]
      rfl
  have hnumeral : readNumeral false (Nat.toDigits 10 number ++ rest) =
      .ok (wholeNumeral number, rest) := by
    simp only [readNumeral, readWhole_toDigits number hends, hfraction, hexponent, bind,
      Except.bind]
    rfl
  rw [readNumber, hnumeral]

/-- The digits of a number of 64 bits are all kept. -/
theorem ofWhole_decimalDigits {number : Nat} (hbound : number ≤ Decimal.maxSignificand) :
    Decimal.Significand.ofWhole (decimalDigits number) = ⟨number, 0⟩ := by
  induction number using Nat.strongRecOn with
  | ind number ih =>
    by_cases hlarge : 10 ≤ number
    · have hfront := ih (number / 10) (by omega) (by omega)
      have hnumber : 10 * (number / 10) + number % 10 = number := Nat.div_add_mod number 10
      rw [Decimal.Significand.ofWhole] at hfront ⊢
      rw [decimalDigits_of_le hlarge, List.foldl_append, hfront]
      simp only [List.foldl_cons, List.foldl_nil, hnumber, hbound, and_self, if_true]
    · rw [decimalDigits_of_lt (by omega)]
      simp [Decimal.Significand.ofWhole, hbound]

/-- A number of 64 bits is read as that integer. -/
theorem value_wholeNumeral {number : Nat} (hbound : number ≤ Decimal.maxSignificand) :
    (wholeNumeral number).value = .ok (.integer number) := by
  simp [wholeNumeral, Numeral.value, ofWhole_decimalDigits hbound]

/-! ### Gaps and ends -/

theorem skipSpace_gap {gap : List Char} (hgap : Gap gap) (rest : List Char) :
    skipSpace (gap ++ rest) = skipSpace rest :=
  List.dropWhile_append_of_pos hgap

theorem skipSpace_of_solid {c : Char} (hsolid : isSpace c = false) (rest : List Char) :
    skipSpace (c :: rest) = c :: rest :=
  List.dropWhile_cons_of_neg (Bool.eq_false_iff.mp hsolid)

/-- A space, a comma or a bracket ends a number. -/
theorem numberEnds_gap {gap : List Char} (hgap : Gap gap) {rest : List Char}
    (hends : NumberEnds rest) : NumberEnds (gap ++ rest) := by
  cases gap with
  | nil => exact hends
  | cons c gap =>
    have hspace : isSpace c = true := hgap c List.mem_cons_self
    simp only [isSpace, Bool.or_eq_true, decide_eq_true_eq] at hspace
    rintro _ ⟨⟩
    rcases hspace with ((rfl | rfl) | rfl) | rfl <;> decide

theorem numberEnds_mark {c : Char} (hmark : c = ',' ∨ c = ']' ∨ c = '\x7d') (rest : List Char) :
    NumberEnds (c :: rest) := by
  rintro _ ⟨⟩
  rcases hmark with rfl | rfl | rfl <;> decide

theorem numberEnds_nil : NumberEnds [] := by
  rintro _ ⟨⟩

/-! ### Values -/

/-- Characters that begin neither with a space nor with a closing bracket. -/
def Solid (cs : List Char) : Prop :=
  ∃ c rest, cs = c :: rest ∧ isSpace c = false ∧ c ≠ ']' ∧ c ≠ '\x7d'

theorem Solid.append {cs : List Char} (hsolid : Solid cs) (more : List Char) :
    Solid (cs ++ more) := by
  obtain ⟨c, rest, rfl, hc⟩ := hsolid
  exact ⟨c, rest ++ more, rfl, hc⟩

theorem Solid.skipSpace_eq {cs : List Char} (hsolid : Solid cs) : skipSpace cs = cs := by
  obtain ⟨c, rest, rfl, hspace, -⟩ := hsolid
  exact skipSpace_of_solid hspace rest

theorem solid_of_isDigit {c : Char} (hdigit : c.isDigit = true) (rest : List Char) :
    Solid (c :: rest) := by
  have hne {d : Char} (hd : d.isDigit = false) : c ≠ d := by
    rintro rfl
    rw [hdigit] at hd
    cases hd
  refine ⟨c, rest, rfl, ?_, hne rfl, hne rfl⟩
  simp only [isSpace, Bool.or_eq_false_iff, decide_eq_false_iff_not]
  exact ⟨⟨⟨hne rfl, hne rfl⟩, hne rfl⟩, hne rfl⟩

theorem Spells.solid {text : List Char} {document : Json} (hspells : Spells text document) :
    Solid text := by
  cases hspells with
  | bool value => cases value <;> exact ⟨_, _, rfl, by decide⟩
  | number value =>
    obtain ⟨digit, digits, hcons⟩ :=
      List.exists_cons_of_ne_nil (Nat.toDigits_ne_nil (n := value) (b := 10))
    rw [hcons]
    exact solid_of_isDigit (Nat.isDigit_of_mem_toDigits (by decide) (by decide)
      (hcons ▸ List.mem_cons_self)) digits
  | string hstring =>
    cases hstring
    exact ⟨_, _, rfl, by decide⟩
  | emptyArray | array | emptyObject | object => exact ⟨_, _, rfl, by decide⟩

theorem SpellsMember.solid {text : List Char} {member : String × Json}
    (hmember : SpellsMember Spells text member) : Solid text := by
  cases hmember with
  | named hname =>
    cases hname
    exact ⟨_, _, rfl, by decide⟩

theorem Separated.solid {α : Type} {piece : List Char → α → Prop} {closing : Char}
    {text : List Char} {items : List α} (hitems : Separated piece closing text items)
    (hpieces : ∀ {text item}, piece text item → Solid text) : Solid text := by
  cases hitems with
  | last hpiece hgap => exact (hpieces hpiece).append _
  | more hpiece hbefore hbehind hrest => exact (hpieces hpiece).append _

/-- With so much fuel, every text of a document is read that is not too long for it. -/
def ReadsValues (fuel : Nat) : Prop :=
  ∀ {text : List Char} {document : Json} {rest : List Char}, Spells text document →
    NumberEnds rest → 2 * text.length ≤ fuel →
    readValue fuel (text ++ rest) = (draft document, .ok rest)

section Fuel

variable {bound : Nat} (hvalues : ∀ fuel < bound, ReadsValues fuel)

include hvalues

theorem readItems_of_separated {fuel : Nat} (hbound : fuel ≤ bound) {text : List Char}
    {items : List Json} (hitems : Separated Spells ']' text items)
    (hfuel : 2 * text.length ≤ fuel) (rest : List Char) :
    readItems fuel (text ++ rest) = (draftItems items, .ok rest) := by
  induction hitems generalizing fuel with
  | @last text gap item hpiece hgap =>
    simp only [List.length_append, List.length_singleton] at hfuel
    obtain ⟨fuel, rfl⟩ : ∃ less, fuel = less + 1 := Nat.exists_eq_succ_of_ne_zero (by omega)
    have hend : NumberEnds (gap ++ ']' :: rest) := numberEnds_gap hgap (numberEnds_mark (by simp) _)
    have hread := hvalues fuel (by omega) hpiece hend (by omega)
    have hskip : skipSpace (gap ++ ']' :: rest) = ']' :: rest :=
      (skipSpace_gap hgap _).trans (skipSpace_of_solid rfl _)
    simp only [List.append_assoc, List.singleton_append, readItems, hread, hskip, draftItems]
  | @more text before behind later item items hpiece hbefore hbehind hrest ih =>
    simp only [List.length_append, List.length_cons] at hfuel
    obtain ⟨fuel, rfl⟩ : ∃ less, fuel = less + 1 := Nat.exists_eq_succ_of_ne_zero (by omega)
    have hend : NumberEnds (before ++ ',' :: (behind ++ (later ++ rest))) :=
      numberEnds_gap hbefore (numberEnds_mark (by simp) _)
    have hread := hvalues fuel (by omega) hpiece hend (by omega)
    have hskip : skipSpace (before ++ ',' :: (behind ++ (later ++ rest))) =
        ',' :: (behind ++ (later ++ rest)) :=
      (skipSpace_gap hbefore _).trans (skipSpace_of_solid rfl _)
    have hnext : skipSpace (behind ++ (later ++ rest)) = later ++ rest :=
      (skipSpace_gap hbehind _).trans ((hrest.solid Spells.solid).append rest).skipSpace_eq
    have hlater := @ih fuel (by omega) (by omega)
    simp only [List.append_assoc, List.cons_append, readItems, hread, hskip, hnext, hlater,
      draftItems]

/-- A member is read up to what stands behind its value: the end of the object, or a comma and
further members. -/
theorem readMembers_of_spellsMember {fuel : Nat} (hbound : fuel < bound) {text : List Char}
    {name : String} {document : Json} (hmember : SpellsMember Spells text (name, document))
    {rest : List Char} (hends : NumberEnds rest) (hfuel : 2 * text.length ≤ fuel) :
    (∀ after, skipSpace rest = '\x7d' :: after →
      readMembers (fuel + 1) (text ++ rest) = ([(.whole name, draft document)], .ok after)) ∧
    ∀ after, skipSpace rest = ',' :: after →
      readMembers (fuel + 1) (text ++ rest) =
        ((.whole name, draft document) :: (readMembers fuel (skipSpace after)).1,
          (readMembers fuel (skipSpace after)).2) := by
  cases hmember with
  | @named key before behind value _ _ hname hbefore hbehind hvalue =>
    obtain ⟨inner, hkey, hread⟩ :=
      readString_of_spells hname (before ++ ':' :: (behind ++ (value ++ rest)))
    simp only [List.length_append, List.length_cons] at hfuel
    have hcolon : skipSpace (before ++ ':' :: (behind ++ (value ++ rest))) =
        ':' :: (behind ++ (value ++ rest)) :=
      (skipSpace_gap hbefore _).trans (skipSpace_of_solid rfl _)
    have hnext : skipSpace (behind ++ (value ++ rest)) = value ++ rest :=
      (skipSpace_gap hbehind _).trans (hvalue.solid.append rest).skipSpace_eq
    have hdocument := hvalues fuel hbound hvalue hends (by omega)
    refine ⟨fun after hafter => ?_, fun after hafter => ?_⟩ <;>
      simp only [List.append_assoc, List.cons_append, hkey, readMembers, hread, hcolon, hnext,
        hdocument, hafter]

theorem readMembers_of_separated {fuel : Nat} (hbound : fuel ≤ bound) {text : List Char}
    {members : List (String × Json)}
    (hmembers : Separated (SpellsMember Spells) '\x7d' text members)
    (hfuel : 2 * text.length ≤ fuel) (rest : List Char) :
    readMembers fuel (text ++ rest) = (draftMembers members, .ok rest) := by
  induction hmembers generalizing fuel with
  | @last text gap member hpiece hgap =>
    simp only [List.length_append, List.length_singleton] at hfuel
    obtain ⟨fuel, rfl⟩ : ∃ less, fuel = less + 1 := Nat.exists_eq_succ_of_ne_zero (by omega)
    have hend : NumberEnds (gap ++ '\x7d' :: rest) :=
      numberEnds_gap hgap (numberEnds_mark (by simp) _)
    have hmark : skipSpace (gap ++ '\x7d' :: rest) = '\x7d' :: rest :=
      (skipSpace_gap hgap _).trans (skipSpace_of_solid rfl _)
    have hread := (readMembers_of_spellsMember hvalues (show fuel < bound by omega) hpiece hend
      (by omega)).1 rest hmark
    simp only [List.append_assoc, List.singleton_append, hread, draftMembers]
  | @more text before behind later member members hpiece hbefore hbehind hrest ih =>
    simp only [List.length_append, List.length_cons] at hfuel
    obtain ⟨fuel, rfl⟩ : ∃ less, fuel = less + 1 := Nat.exists_eq_succ_of_ne_zero (by omega)
    have hend : NumberEnds (before ++ ',' :: (behind ++ (later ++ rest))) :=
      numberEnds_gap hbefore (numberEnds_mark (by simp) _)
    have hmark : skipSpace (before ++ ',' :: (behind ++ (later ++ rest))) =
        ',' :: (behind ++ (later ++ rest)) :=
      (skipSpace_gap hbefore _).trans (skipSpace_of_solid rfl _)
    have hread := (readMembers_of_spellsMember hvalues (show fuel < bound by omega) hpiece hend
      (by omega)).2 _ hmark
    have hnext : skipSpace (behind ++ (later ++ rest)) = later ++ rest :=
      (skipSpace_gap hbehind _).trans ((hrest.solid SpellsMember.solid).append rest).skipSpace_eq
    have hlater := @ih fuel (by omega) (by omega)
    simp only [List.append_assoc, List.cons_append, hread, hnext, hlater, draftMembers]

end Fuel

theorem readWord_append (word rest : List Char) : readWord word (word ++ rest) = .ok rest := by
  induction word with
  | nil => rfl
  | cons c word ih => rw [List.cons_append, readWord, if_pos rfl, ih]

/-- A value that begins with a digit is a number. -/
theorem readValue_of_isDigit {c : Char} (hdigit : c.isDigit = true) (fuel : Nat)
    (rest : List Char) :
    readValue (fuel + 1) (c :: rest) =
      (.number (readNumber false (c :: rest)).1, (readNumber false (c :: rest)).2) := by
  have hne {d : Char} (hd : d.isDigit = false) : c ≠ d := by
    rintro rfl
    rw [hdigit] at hd
    cases hd
  have hvalue : (digitValue c).isSome = true := by
    rw [digitValue_of_isDigit hdigit]
    rfl
  rw [readValue, if_pos hvalue]
  all_goals exact hne rfl

/-- A list with something in it is read item by item. -/
theorem readValue_of_solid_items {gap cs : List Char} (hgap : Gap gap) (hsolid : Solid cs)
    (fuel : Nat) :
    readValue (fuel + 1) ('[' :: (gap ++ cs)) =
      (.array (readItems fuel cs).1 ((readItems fuel cs).2.map fun _ => ()),
        (readItems fuel cs).2) := by
  have hskip : skipSpace (gap ++ cs) = cs := (skipSpace_gap hgap cs).trans hsolid.skipSpace_eq
  obtain ⟨c, rest, rfl, -, hbracket, -⟩ := hsolid
  rw [readValue, hskip]
  split
  · contradiction
  · rename_i h
    exact absurd (List.cons.inj h).1 hbracket
  · rfl

/-- A record with something in it is read member by member. -/
theorem readValue_of_solid_members {gap cs : List Char} (hgap : Gap gap) (hsolid : Solid cs)
    (fuel : Nat) :
    readValue (fuel + 1) ('\x7b' :: (gap ++ cs)) =
      (.object (readMembers fuel cs).1 ((readMembers fuel cs).2.map fun _ => ()),
        (readMembers fuel cs).2) := by
  have hskip : skipSpace (gap ++ cs) = cs := (skipSpace_gap hgap cs).trans hsolid.skipSpace_eq
  obtain ⟨c, rest, rfl, -, -, hbrace⟩ := hsolid
  rw [readValue, hskip]
  split
  · rename_i h
    exact absurd (List.cons.inj h).1 hbrace
  · rfl

/-- **A text of a document is read as that document**, whatever stands behind it. -/
theorem readsValues (fuel : Nat) : ReadsValues fuel := by
  induction fuel using Nat.strongRecOn with
  | ind fuel ih =>
    intro text document rest hspells hends hfuel
    obtain ⟨c, cs, hcons, -⟩ := hspells.solid
    have hlength : text.length = cs.length + 1 := by rw [hcons, List.length_cons]
    obtain ⟨fuel, rfl⟩ : ∃ less, fuel = less + 1 := Nat.exists_eq_succ_of_ne_zero (by omega)
    cases hspells with
    | bool value =>
      cases value with
      | false =>
        change readValue (fuel + 1) ('f' :: ("alse".toList ++ rest)) = _
        simp only [readValue, readWord_append, draft]
      | true =>
        change readValue (fuel + 1) ('t' :: ("rue".toList ++ rest)) = _
        simp only [readValue, readWord_append, draft]
    | number value =>
      have hdigit : c.isDigit = true :=
        Nat.isDigit_of_mem_toDigits (by decide) (by decide) (hcons ▸ List.mem_cons_self)
      have hread := readNumber_toDigits value hends
      rw [hcons, List.cons_append] at hread ⊢
      rw [readValue_of_isDigit hdigit, hread, draft]
    | string hstring =>
      obtain ⟨behind, htext, hread⟩ := readString_of_spells hstring rest
      rw [htext, readValue, hread, draft]
    | @emptyArray gap hgap =>
      have hskip : skipSpace (gap ++ ']' :: rest) = ']' :: rest :=
        (skipSpace_gap hgap _).trans (skipSpace_of_solid rfl rest)
      simp only [List.cons_append, List.append_assoc, List.nil_append, readValue, hskip, draft,
        draftItems]
    | @array gap text items hgap hitems =>
      simp only [List.length_cons, List.length_append] at hfuel
      have hread := readItems_of_separated (fun less hless => ih less (Nat.lt_succ_of_lt hless))
        (Nat.le_refl fuel) hitems (by omega) rest
      have hsolid := (hitems.solid Spells.solid).append rest
      rw [List.cons_append, List.append_assoc, readValue_of_solid_items hgap hsolid, hread]
      simp only [Except.map, draft]
    | @emptyObject gap hgap =>
      have hskip : skipSpace (gap ++ '\x7d' :: rest) = '\x7d' :: rest :=
        (skipSpace_gap hgap _).trans (skipSpace_of_solid rfl rest)
      simp only [List.cons_append, List.append_assoc, List.nil_append, readValue, hskip, draft,
        draftMembers]
    | @object gap text members hgap hmembers =>
      simp only [List.length_cons, List.length_append] at hfuel
      have hread := readMembers_of_separated
        (fun less hless => ih less (Nat.lt_succ_of_lt hless)) (Nat.le_refl fuel) hmembers
        (by omega) rest
      have hsolid := (hmembers.solid SpellsMember.solid).append rest
      rw [List.cons_append, List.append_assoc, readValue_of_solid_members hgap hsolid, hread]
      simp only [Except.map, draft]

/-- A text that stands for a document is read as it, and nothing is left over. -/
theorem Denotes.ofText_eq {text : String} {document : Json} (hdenotes : Denotes text document) :
    Draft.ofText text = (draft document, .ok ()) := by
  obtain ⟨front, body, behind, htext, hfront, hbehind, hspells⟩ := hdenotes
  have hends : NumberEnds behind := by
    have hgap := numberEnds_gap hbehind numberEnds_nil
    rwa [List.append_nil] at hgap
  have hlength : text.toList.length = front.length + (body.length + behind.length) := by
    rw [htext, List.length_append, List.length_append]
  have hread := readsValues (2 * text.toList.length + 1) hspells hends (by omega)
  have hskip : skipSpace text.toList = body ++ behind := by
    rw [htext, skipSpace_gap hfront, (hspells.solid.append behind).skipSpace_eq]
  have hnothing : skipSpace behind = [] := by
    have hgap := skipSpace_gap hbehind []
    rwa [List.append_nil] at hgap
  rw [Draft.ofText]
  simp only [hskip, hread, Except.bind, hnothing, List.isEmpty_nil, if_true]

end TowerOfHanoi.Json
