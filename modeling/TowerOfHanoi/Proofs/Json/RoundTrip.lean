import Mathlib.Data.List.Perm.Basic
import TowerOfHanoi.Json.Decode
import TowerOfHanoi.Proofs.Checks
import TowerOfHanoi.Proofs.Json.Reading

/-!
# Values that are read back

Pegs, moves, the three pegs of a puzzle and puzzles are written as documents and read from text.
What is read from any text of a value's document is that value, also when the members of its
records have changed places. For a record this takes two facts: every field is found and passes
its check, wherever it stands, and the value of a field is looked up by its name. Both are shown
once for all records.

Whatever is read from a text, be it the text of a document or not, is a value of this kind. So
writing it and reading it again changes nothing.

## Main definitions

* `Json.Reordered`: documents that differ in the order of the members of records.
* `Json.Decodes`: a decoder reads a value from a document in any order of members.
* `Json.RoundTrip`: values of a type are read back.

## Main results

* `Json.readFields_of_reordered`: the fields of a record are read in any order.
* `Puzzle.decodes` and its like: the values of each type.
* `json_round_trip`: values of all four types are read back.
-/

namespace TowerOfHanoi

namespace Json

/-! ### Documents in another order -/

/-- Members with one name, whose values are related. -/
inductive SameName (related : Json → Json → Prop) : String × Json → String × Json → Prop
  | named {name : String} {value other : Json} (hvalue : related value other) :
      SameName related (name, value) (name, other)

/-- Two documents are the same but for the order of the members of records, at every level. -/
inductive Reordered : Json → Json → Prop
  | bool (value : Bool) : Reordered (.bool value) (.bool value)
  | number (value : Nat) : Reordered (.number value) (.number value)
  | string (value : String) : Reordered (.string value) (.string value)
  | array {items others : List Json} (hitems : List.Forall₂ Reordered items others) :
      Reordered (.array items) (.array others)
  | object {members changed others : List (String × Json)}
      (hvalues : List.Forall₂ (SameName Reordered) members changed) (hperm : changed.Perm others) :
      Reordered (.object members) (.object others)

mutual

theorem Reordered.refl : (document : Json) → Reordered document document
  | .bool value => .bool value
  | .number value => .number value
  | .string value => .string value
  | .array items => .array (reordered_items items)
  | .object members => .object (reordered_members members) (List.Perm.refl members)

theorem reordered_items : (items : List Json) → List.Forall₂ Reordered items items
  | [] => .nil
  | item :: items => .cons (.refl item) (reordered_items items)

theorem reordered_members : (members : List (String × Json)) →
    List.Forall₂ (SameName Reordered) members members
  | [] => .nil
  | (_, value) :: members => .cons (.named (.refl value)) (reordered_members members)

end

section SameName

variable {related : Json → Json → Prop} {members others : List (String × Json)}

theorem map_fst_of_sameName (hvalues : List.Forall₂ (SameName related) members others) :
    others.map Prod.fst = members.map Prod.fst := by
  induction hvalues with
  | nil => rfl
  | cons hmember _ ih =>
    cases hmember
    rw [List.map_cons, List.map_cons, ih]

/-- Members of two lists have the same names whichever list comes first. -/
theorem forall₂_sameName_flip (hvalues : List.Forall₂ (SameName related) members others) :
    List.Forall₂ (SameName (flip related)) others members := by
  refine List.Forall₂.flip (hvalues.imp fun member other hmember => ?_)
  cases hmember with
  | named hvalue => exact .named (show flip related _ _ from hvalue)

theorem exists_of_sameName (hvalues : List.Forall₂ (SameName related) members others)
    {name : String} {value : Json} (hmem : (name, value) ∈ members) :
    ∃ other, related value other ∧ (name, other) ∈ others := by
  induction hvalues with
  | nil => cases hmem
  | cons hmember _ ih =>
    rcases List.mem_cons.mp hmem with rfl | hlater
    · cases hmember with
      | named hvalue => exact ⟨_, hvalue, List.mem_cons_self⟩
    · obtain ⟨other, hother, hfound⟩ := ih hlater
      exact ⟨other, hother, List.mem_cons_of_mem _ hfound⟩

end SameName

/-! ### Fields of records -/

/-- A decoder reads the value from a document, in whatever order its members are. -/
def Decodes {α : Type} (decoder : Decoder α) (document : Json) (value : α) : Prop :=
  ∀ other, Reordered document other → decoder (draft other) = .ok value

/-- A field that can be read passes its check. -/
theorem Decodes.check {α : Type} {decoder : Decoder α} {document : Json} {value : α}
    (hdecodes : Decodes decoder document value) (name : String) :
    Decodes (Field.of name decoder).check document () := by
  intro other hother
  simp only [Field.of, hdecodes other hother, Except.map]

/-- Members with different names, all of which are looked for and pass their checks, are kept. -/
theorem readFieldMembers_of_found {fields : List Field} {members : List (String × Json)}
    {seen : List String} (hnames : (members.map Prod.fst).Nodup)
    (hnew : ∀ name ∈ members.map Prod.fst, name ∉ seen)
    (hfound : ∀ member ∈ members, ∃ field, fields.find? (·.name = member.1) = some field ∧
      field.check (draft member.2) = .ok ()) :
    readFieldMembers fields (.ok ()) seen (draftMembers members) =
      .ok (members.map fun member => (member.1, draft member.2)) := by
  induction members generalizing seen with
  | nil => rfl
  | cons member members ih =>
    rw [List.map_cons, List.nodup_cons] at hnames
    rw [List.map_cons, List.forall_mem_cons] at hnew
    rw [List.forall_mem_cons] at hfound
    obtain ⟨⟨field, hfield, hcheck⟩, hfound⟩ := hfound
    have hseen : ∀ name ∈ members.map Prod.fst, name ∉ member.1 :: seen := by
      intro name hname
      rw [List.mem_cons, not_or]
      exact ⟨fun h => hnames.1 (h ▸ hname), hnew.2 name hname⟩
    have hrest := ih hnames.2 hseen hfound
    simp only [draftMembers, readFieldMembers, Leaf.whole, orFlaw, Except.mapError, bind,
      Except.bind, hfield, hnew.1, if_false, hcheck, hrest, pure, Except.pure, List.map_cons]

theorem lookup_of_mem {α β : Type} [DecidableEq α] {pairs : List (α × β)}
    (hnames : (pairs.map Prod.fst).Nodup) {name : α} {value : β} (hmem : (name, value) ∈ pairs) :
    pairs.lookup name = some value := by
  induction pairs with
  | nil => cases hmem
  | cons pair pairs ih =>
    rw [List.map_cons, List.nodup_cons] at hnames
    rcases List.mem_cons.mp hmem with rfl | hlater
    · exact List.lookup_cons_self
    · have hne : name ≠ pair.1 := by
        rintro rfl
        exact hnames.1 (List.mem_map.mpr ⟨_, hlater, rfl⟩)
      rw [List.lookup_cons, beq_false_of_ne hne, ih hnames.2 hlater]

/-- A field looks for the member that has its name, and can read it. -/
def Field.Fits (field : Field) (member : String × Json) : Prop :=
  field.name = member.1 ∧ Decodes field.check member.2 ()

section Fits

variable {fields : List Field} {members : List (String × Json)}

theorem map_name_of_fits (hfits : List.Forall₂ Field.Fits fields members) :
    fields.map Field.name = members.map Prod.fst := by
  induction hfits with
  | nil => rfl
  | cons hfit _ ih => rw [List.map_cons, List.map_cons, hfit.1, ih]

/-- Fields with different names are found by their names. -/
theorem find?_of_fits (hfits : List.Forall₂ Field.Fits fields members)
    (hnames : (fields.map Field.name).Nodup) {member : String × Json} (hmem : member ∈ members) :
    ∃ field, fields.find? (·.name = member.1) = some field ∧ Decodes field.check member.2 () := by
  induction hfits with
  | nil => cases hmem
  | @cons field first fields members hfit hfits ih =>
    rw [List.map_cons, List.nodup_cons] at hnames
    rcases List.mem_cons.mp hmem with rfl | hlater
    · exact ⟨field, List.find?_cons_of_pos (decide_eq_true hfit.1), hfit.2⟩
    · obtain ⟨found, hfound, hcheck⟩ := ih hnames.2 hlater
      have hne : field.name ≠ member.1 := by
        rintro hname
        rw [hname, map_name_of_fits hfits] at hnames
        exact hnames.1 (List.mem_map_of_mem hlater)
      rw [List.find?_cons_of_neg (by simpa using hne)]
      exact ⟨found, hfound, hcheck⟩

/-- **The fields of a record are read in any order.** Each of them is then there with its value. -/
theorem readFields_of_reordered (name : String) (hfits : List.Forall₂ Field.Fits fields members)
    (hnames : (fields.map Field.name).Nodup) {other : Json}
    (hother : Reordered (.object members) other) :
    ∃ values, readFields name fields (draft other) = .ok values ∧
      ∀ {key : String} {value : Json}, (key, value) ∈ members →
        ∀ {α : Type} {decoder : Decoder α} {meant : α}, Decodes decoder value meant →
          fieldValue values key decoder = .ok meant := by
  cases hother with
  | @object _ changed others hvalues hperm =>
    have hothers : (others.map Prod.fst).Nodup := by
      rwa [← (hperm.map Prod.fst).nodup_iff, map_fst_of_sameName hvalues, ← map_name_of_fits hfits]
    refine ⟨others.map fun member => (member.1, draft member.2), ?_, ?_⟩
    · rw [draft, readFields]
      refine readFieldMembers_of_found hothers (fun _ _ => List.not_mem_nil) ?_
      rintro ⟨key, other⟩ hmem
      obtain ⟨value, hvalue, hmember⟩ :=
        exists_of_sameName (forall₂_sameName_flip hvalues) (hperm.mem_iff.mpr hmem)
      obtain ⟨field, hfield, hcheck⟩ := find?_of_fits hfits hnames hmember
      exact ⟨field, hfield, hcheck other hvalue⟩
    · intro key value hmem α decoder meant hdecodes
      obtain ⟨other, hvalue, hchanged⟩ := exists_of_sameName hvalues hmem
      have hlookup : (others.map fun member => (member.1, draft member.2)).lookup key =
          some (draft other) := by
        refine lookup_of_mem (by rwa [List.map_map]) ?_
        exact List.mem_map_of_mem (f := fun member : String × Json => (member.1, draft member.2))
          (hperm.mem_iff.mp hchanged)
      rw [fieldValue, hlookup]
      exact hdecodes other hvalue

end Fits

end Json

open Json

/-! ### The four types -/

theorem Peg.toList_text (peg : Peg) : peg.text.toList = [peg.label] := by
  rw [text, Char.toString_eq_singleton, String.toList_singleton]

theorem Peg.decodes (peg : Peg) : Decodes Peg.decode peg.toJson peg := by
  intro other hother
  cases hother
  simp only [draft, Peg.decode, Leaf.whole, orFlaw, Except.mapError, bind, Except.bind,
    toList_text, ofChar_label, PegError.orWrong]

theorem Move.decodes (move : Move) : Decodes Move.decode move.toJson move := by
  intro other hother
  obtain ⟨values, hread, hvalues⟩ := readFields_of_reordered "Move"
    (.cons ⟨rfl, move.source.decodes.check "from"⟩
      (.cons ⟨rfl, move.target.decodes.check "to"⟩ .nil)) (by decide) hother
  have hsource : fieldValue values "from" Peg.decode = .ok move.source :=
    hvalues (by simp) move.source.decodes
  have htarget : fieldValue values "to" Peg.decode = .ok move.target :=
    hvalues (by simp) move.target.decodes
  simp only [Move.decode, hread, hsource, htarget, bind, Except.bind]
  rfl

theorem Pegs.decodes {pegs : Pegs} (hdistinct : pegs.Distinct) :
    Decodes Pegs.decode pegs.toJson pegs := by
  intro other hother
  obtain ⟨values, hread, hvalues⟩ := readFields_of_reordered "RawPegs"
    (.cons ⟨rfl, pegs.source.decodes.check "source"⟩
      (.cons ⟨rfl, pegs.destination.decodes.check "destination"⟩
        (.cons ⟨rfl, pegs.auxiliary.decodes.check "auxiliary"⟩ .nil))) (by decide) hother
  have hsource : fieldValue values "source" Peg.decode = .ok pegs.source :=
    hvalues (by simp) pegs.source.decodes
  have hdestination : fieldValue values "destination" Peg.decode = .ok pegs.destination :=
    hvalues (by simp) pegs.destination.decodes
  have hauxiliary : fieldValue values "auxiliary" Peg.decode = .ok pegs.auxiliary :=
    hvalues (by simp) pegs.auxiliary.decodes
  simp only [Pegs.decode, hread, hsource, hdestination, hauxiliary, bind, Except.bind,
    ofRoles_eq_ok hdistinct]
  rfl

/-- Every number of 32 bits is read back as a number of disks. -/
theorem Puzzle.decodes_disks (disks : UInt32) :
    Decodes Puzzle.decodeDisks (.number disks.toNat) disks := by
  intro other hother
  cases hother
  have hsize : disks.toNat < 2 ^ 32 := disks.toNat_lt
  have hvalue : (wholeNumeral disks.toNat).value = .ok (.integer disks.toNat) :=
    value_wholeNumeral (by simp only [Decimal.maxSignificand]; omega)
  have hrange : (0 : Int) ≤ disks.toNat ∧ (disks.toNat : Int) ≤ 0xffffffff := by omega
  simp only [draft, Puzzle.decodeDisks, hvalue, orFlaw, Except.mapError, bind, Except.bind,
    if_pos hrange, Int.toNat_natCast, UInt32.ofNat_toNat]

theorem Puzzle.decodes {puzzle : Puzzle} (hdistinct : puzzle.pegs.Distinct) :
    Decodes Puzzle.decode puzzle.toJson puzzle := by
  intro other hother
  obtain ⟨values, hread, hvalues⟩ := readFields_of_reordered "Puzzle"
    (.cons ⟨rfl, (decodes_disks puzzle.disks).check "disks"⟩
      (.cons ⟨rfl, (Pegs.decodes hdistinct).check "pegs"⟩ .nil)) (by decide) hother
  have hdisks : fieldValue values "disks" decodeDisks = .ok puzzle.disks :=
    hvalues (by simp) (decodes_disks puzzle.disks)
  have hpegs : fieldValue values "pegs" Pegs.decode = .ok puzzle.pegs :=
    hvalues (by simp) (Pegs.decodes hdistinct)
  simp only [Puzzle.decode, hread, hdisks, hpegs, bind, Except.bind]
  rfl

/-! ### What is read is proper -/

theorem Json.exists_of_decodeText {α : Type} {decoder : Decoder α} {text : String} {value : α}
    (h : decodeText decoder text = .ok value) : ∃ draft, decoder draft = .ok value := by
  obtain ⟨read, hread, hrest⟩ := exists_of_bind_eq_ok h
  obtain ⟨-, -, hvalue⟩ := exists_of_bind_eq_ok hrest
  cases hvalue
  exact ⟨_, hread⟩

/-- Pegs that are read have different labels. -/
theorem Pegs.distinct_of_decode {draft : Draft} {pegs : Pegs} (h : Pegs.decode draft = .ok pegs) :
    pegs.Distinct := by
  obtain ⟨values, -, h⟩ := exists_of_bind_eq_ok h
  obtain ⟨source, -, h⟩ := exists_of_bind_eq_ok h
  obtain ⟨destination, -, h⟩ := exists_of_bind_eq_ok h
  obtain ⟨auxiliary, -, h⟩ := exists_of_bind_eq_ok h
  rw [PegError.orWrong] at h
  cases hroles : ofRoles source destination auxiliary with
  | error cause =>
    rw [hroles] at h
    cases h
  | ok found =>
    rw [hroles] at h
    cases h
    exact distinct_of_ofRoles hroles

/-- So have the pegs of a puzzle that is read. -/
theorem Puzzle.distinct_of_decode {draft : Draft} {puzzle : Puzzle}
    (h : Puzzle.decode draft = .ok puzzle) : puzzle.pegs.Distinct := by
  obtain ⟨values, -, h⟩ := exists_of_bind_eq_ok h
  obtain ⟨disks, -, h⟩ := exists_of_bind_eq_ok h
  obtain ⟨pegs, hpegs, h⟩ := exists_of_bind_eq_ok h
  cases h
  unfold fieldValue at hpegs
  split at hpegs
  · exact Pegs.distinct_of_decode hpegs
  · cases hpegs

/-! ### Round trips -/

/-- Values of a type are read back, if they are proper. -/
structure Json.RoundTrip {α : Type} (toJson : α → Json) (ofJson : String → Except Problem α)
    (Proper : α → Prop) : Prop where
  /-- The compact text of a value is read as the value. -/
  compact : ∀ value, Proper value → ofJson (toJson value).compact = .ok value
  /-- So is any other text of its document, with the members of records in any order. -/
  denotes : ∀ value, Proper value → ∀ document, Reordered (toJson value) document →
    ∀ text, Denotes text document → ofJson text = .ok value
  /-- What is read from any text is proper. Written compactly and read again it is the same value,
  and so it has the same compact text. -/
  canonical : ∀ text value, ofJson text = .ok value → Proper value ∧
    ∃ again, ofJson (toJson value).compact = .ok again ∧ again = value ∧
      (toJson again).compact = (toJson value).compact

/-- A text is read as the value that its document stands for, in any order of members. -/
theorem Json.Decodes.decodeText_eq {α : Type} {decoder : Decoder α} {document other : Json}
    {value : α} (hdecodes : Decodes decoder document value) (hother : Reordered document other)
    {text : String} (htext : Denotes text other) : decodeText decoder text = .ok value := by
  have hread := hdecodes other hother
  simp only [decodeText, htext.ofText_eq, hread, bind, Except.bind, orFlaw, Except.mapError]
  rfl

/-- A type has round trips if its decoder reads the documents of proper values and gives proper
values only. -/
theorem Json.roundTrip_of_decodes {α : Type} {toJson : α → Json} {decoder : Decoder α}
    {Proper : α → Prop} (hdecodes : ∀ {value}, Proper value → Decodes decoder (toJson value) value)
    (hproper : ∀ {draft value}, decoder draft = .ok value → Proper value) :
    RoundTrip toJson (decodeText decoder) Proper := by
  have hdenotes : ∀ value, Proper value → ∀ document, Reordered (toJson value) document →
      ∀ text, Denotes text document → decodeText decoder text = .ok value := by
    intro value hvalue document hdocument text htext
    exact (hdecodes hvalue).decodeText_eq hdocument htext
  have hcompact : ∀ value, Proper value →
      decodeText decoder (toJson value).compact = .ok value := by
    intro value hvalue
    exact hdenotes value hvalue _ (.refl _) _ (denotes_compact _)
  refine ⟨hcompact, hdenotes, fun text value h => ?_⟩
  obtain ⟨draft, hdraft⟩ := exists_of_decodeText h
  have hvalue : Proper value := hproper hdraft
  exact ⟨hvalue, value, hcompact value hvalue, rfl, rfl⟩

/-- **Values are read back from JSON.** A peg, a move with any two pegs, three pegs with different
labels, and a puzzle with such pegs and any number of disks of 32 bits are read from their compact
text, and from any other text of the same document: with spaces between the tokens, with characters
of strings written as escapes, and with the members of records in any order. What is read from any
text whatever is such a value, and is read back from its compact text. -/
theorem json_round_trip :
    RoundTrip Peg.toJson Peg.ofJson (fun _ => True) ∧
    RoundTrip Move.toJson Move.ofJson (fun _ => True) ∧
    RoundTrip Pegs.toJson Pegs.ofJson Pegs.Distinct ∧
    RoundTrip Puzzle.toJson Puzzle.ofJson fun puzzle => puzzle.pegs.Distinct :=
  ⟨roundTrip_of_decodes (fun _ => Peg.decodes _) fun _ => trivial,
    roundTrip_of_decodes (fun _ => Move.decodes _) fun _ => trivial,
    roundTrip_of_decodes Pegs.decodes Pegs.distinct_of_decode,
    roundTrip_of_decodes Puzzle.decodes Puzzle.distinct_of_decode⟩

/-- A puzzle with a quote, a backslash and a character beyond 16 bits for labels, and the greatest
number of disks, over lines and with the members of both records in another order. -/
theorem json_round_trip_spread :
    Puzzle.ofJson ("\x7b\n  \"pegs\": \x7b\n    \"auxiliary\": \"𝄞\",\n" ++
        "    \"source\": \"\\\"\",\n    \"destination\": \"\\\\\"\n  \x7d,\n" ++
        "  \"disks\": 4294967295\n\x7d") =
      .ok ⟨4294967295, ⟨'\x22', by decide⟩, ⟨'\\', by decide⟩, ⟨'𝄞', by decide⟩⟩ := by
  have hpegs : Reordered
      (.object [("source", .string "\""), ("destination", .string "\\"),
        ("auxiliary", .string "𝄞")])
      (.object [("auxiliary", .string "𝄞"), ("source", .string "\""),
        ("destination", .string "\\")]) :=
    .object (reordered_members _) ((List.Perm.cons _ (.swap _ _ _)).trans (.swap _ _ _))
  have hpuzzle : Reordered
      (Puzzle.toJson ⟨4294967295, ⟨'\x22', by decide⟩, ⟨'\\', by decide⟩, ⟨'𝄞', by decide⟩⟩)
      (.object [("pegs", .object [("auxiliary", .string "𝄞"), ("source", .string "\""),
        ("destination", .string "\\")]), ("disks", .number 4294967295)]) :=
    .object (.cons (.named (.number _)) (.cons (.named hpegs) .nil)) (List.Perm.swap _ _ _)
  refine json_round_trip.2.2.2.denotes _ (by decide) _ hpuzzle _ ?_
  convert denotes_pretty _ using 1
  decide +kernel

end TowerOfHanoi
