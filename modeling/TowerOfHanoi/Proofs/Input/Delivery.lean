import TowerOfHanoi.PuzzleText
import TowerOfHanoi.Stream.Device

/-!
# How the bytes of a puzzle arrive

A reader gives its bytes in pieces and may be interrupted between them. It comes to an end when
nothing is left to be read, when a read brings no bytes, or when a read fails. This file says from
the reads alone what has been delivered until then: the bytes of all the pieces, or the fault in
place of all of them. What is delivered decides which puzzle is read. It does not matter where the
bytes were cut, be it in the middle of a character, nor how often the reader was interrupted, nor
what it would have given after its end.

## Main definitions

* `Delivers`: what a reader delivers until its end.
* `Text.Encodes`: bytes are the characters of a text in UTF-8.

## Main results

* `delivers_iff`: every reader delivers one thing, and it is what is gathered.
* `textOfBytes_eq_ok_iff`: bytes are read as a text if they encode it.
* `readFrom_by_content`: the puzzle that is read, for every reader.
-/

namespace TowerOfHanoi

/-! ### What a reader delivers -/

namespace Delivery

/-- The bytes that a read brings. -/
def content : Delivery → List UInt8
  | bytes content => content
  | _ => []

/-- A read after which the reader is asked again: it has brought some bytes, or it was
interrupted. -/
def GoesOn : Delivery → Prop
  | bytes content => content ≠ []
  | interrupted => True
  | failed _ => False

instance : (read : Delivery) → Decidable read.GoesOn
  | bytes content => inferInstanceAs (Decidable (content ≠ []))
  | interrupted => isTrue trivial
  | failed _ => isFalse id

end Delivery

/-- What a reader delivers. Its first reads go on, and behind them it comes to its end in one of
three ways. -/
inductive Delivers : List Delivery → Except Fault (List UInt8) → Prop
  /-- No read is left. -/
  | exhausted {reads : List Delivery} (goesOn : ∀ read ∈ reads, read.GoesOn) :
      Delivers reads (.ok (reads.flatMap Delivery.content))
  /-- A read brings no bytes. Those after it are never made. -/
  | closed {reads unread : List Delivery} (goesOn : ∀ read ∈ reads, read.GoesOn) :
      Delivers (reads ++ .bytes [] :: unread) (.ok (reads.flatMap Delivery.content))
  /-- A read fails, whatever has been read before it. Those after it are never made. -/
  | broken {reads unread : List Delivery} {fault : Fault} (goesOn : ∀ read ∈ reads, read.GoesOn) :
      Delivers (reads ++ .failed fault :: unread) (.error fault)

/-- A read that goes on puts its bytes in front of what is gathered after it. -/
theorem gather_cons {read : Delivery} (goesOn : read.GoesOn) (rest : List Delivery) :
    gather (read :: rest) = (gather rest).map (read.content ++ ·) := by
  cases read with
  | bytes content =>
    cases content with
    | nil => exact absurd rfl goesOn
    | cons b bs => rfl
  | interrupted => cases hrest : gather rest <;> exact hrest
  | failed fault => exact goesOn.elim

theorem gather_append {reads : List Delivery} (goesOn : ∀ read ∈ reads, read.GoesOn)
    (rest : List Delivery) :
    gather (reads ++ rest) = (gather rest).map (reads.flatMap Delivery.content ++ ·) := by
  induction reads with
  | nil => cases hrest : gather rest <;> exact hrest
  | cons read reads ih =>
    rw [List.forall_mem_cons] at goesOn
    rw [List.cons_append, gather_cons goesOn.1, ih goesOn.2]
    cases gather rest <;> simp [Except.map]

namespace Delivers

variable {reader : List Delivery} {outcome : Except Fault (List UInt8)}

theorem gather_eq (hdelivers : Delivers reader outcome) : gather reader = outcome := by
  cases hdelivers with
  | exhausted goesOn =>
    have hgather := gather_append goesOn []
    rw [List.append_nil] at hgather
    rw [hgather]
    exact congrArg Except.ok (List.append_nil _)
  | closed goesOn =>
    rw [gather_append goesOn]
    exact congrArg Except.ok (List.append_nil _)
  | broken goesOn =>
    rw [gather_append goesOn]
    rfl

/-- One more read in front. -/
theorem cons {read : Delivery} (goesOn : read.GoesOn) (hdelivers : Delivers reader outcome) :
    Delivers (read :: reader) (outcome.map (read.content ++ ·)) := by
  cases hdelivers with
  | exhausted later => exact .exhausted (List.forall_mem_cons.mpr ⟨goesOn, later⟩)
  | closed later => exact .closed (List.forall_mem_cons.mpr ⟨goesOn, later⟩)
  | broken later => exact .broken (List.forall_mem_cons.mpr ⟨goesOn, later⟩)

end Delivers

theorem delivers_gather (reader : List Delivery) : Delivers reader (gather reader) := by
  induction reader with
  | nil => exact .exhausted (List.forall_mem_nil _)
  | cons read rest ih =>
    by_cases goesOn : read.GoesOn
    · rw [gather_cons goesOn]
      exact ih.cons goesOn
    · cases read with
      | bytes content =>
        obtain rfl : content = [] := Decidable.not_not.mp goesOn
        exact @Delivers.closed [] rest (List.forall_mem_nil _)
      | interrupted => exact absurd trivial goesOn
      | failed fault => exact @Delivers.broken [] rest fault (List.forall_mem_nil _)

/-- Every reader delivers one thing, and it is what is gathered. -/
theorem delivers_iff {reader : List Delivery} {outcome : Except Fault (List UInt8)} :
    Delivers reader outcome ↔ outcome = gather reader :=
  ⟨fun hdelivers => hdelivers.gather_eq.symm, fun h => h ▸ delivers_gather reader⟩

/-! ### Text in bytes -/

/-- Bytes encode a text: they are its characters in UTF-8, one after the other. -/
def Text.Encodes (bytes : List UInt8) (text : String) : Prop :=
  bytes = text.toList.flatMap String.utf8EncodeChar

instance (bytes : List UInt8) (text : String) : Decidable (Text.Encodes bytes text) :=
  inferInstanceAs (Decidable (bytes = _))

section Text

variable {bytes : List UInt8} {text : String}

theorem Text.encodes_iff : Text.Encodes bytes text ↔ bytesOfText text = bytes := by
  have hbytes : bytesOfText text = text.toList.flatMap String.utf8EncodeChar := by
    rw [bytesOfText, String.toUTF8_eq_toByteArray, ← String.utf8Encode_toList, List.utf8Encode,
      List.data_toByteArray]
  rw [Encodes, hbytes, eq_comm]

theorem textOfBytes_bytesOfText (text : String) : textOfBytes (bytesOfText text) = .ok text := by
  have hbytes : (⟨(bytesOfText text).toArray⟩ : ByteArray) = text.toByteArray := rfl
  rw [textOfBytes, hbytes, String.fromUTF8?, dif_pos text.isValidUTF8]
  rfl

theorem bytesOfText_of_textOfBytes_eq_ok (h : textOfBytes bytes = .ok text) :
    bytesOfText text = bytes := by
  rw [textOfBytes, String.fromUTF8?] at h
  split at h
  · rename_i found hfound
    split at hfound
    · cases h
      cases hfound
      rfl
    · cases hfound
  · cases h

/-- Bytes are read as a text if they encode it. -/
theorem textOfBytes_eq_ok_iff : textOfBytes bytes = .ok text ↔ Text.Encodes bytes text := by
  rw [Text.encodes_iff]
  refine ⟨bytesOfText_of_textOfBytes_eq_ok, ?_⟩
  rintro rfl
  exact textOfBytes_bytesOfText text

/-- Bytes that encode no text are refused. -/
theorem textOfBytes_eq_error (hnone : ¬ ∃ text, Text.Encodes bytes text) :
    textOfBytes bytes = .error .notText := by
  rw [textOfBytes]
  split
  · rename_i text hfound
    have hread : textOfBytes bytes = .ok text := by rw [textOfBytes, hfound]
    exact absurd ⟨text, textOfBytes_eq_ok_iff.mp hread⟩ hnone
  · rfl

end Text

/-! ### Puzzles -/

namespace Puzzle

variable {reader : List Delivery}

theorem readFrom_of_gather_eq_error {fault : Fault} (hgather : gather reader = .error fault) :
    readFrom reader = .error (.stream fault) := by
  rw [readFrom_eq, readText, hgather]
  rfl

theorem readFrom_of_gather_eq_ok {bytes : List UInt8} (hgather : gather reader = .ok bytes) :
    readFrom reader = ((textOfBytes bytes).mapError .stream).bind parse := by
  rw [readFrom_eq, readText, hgather]
  rfl

end Puzzle

/-- **A puzzle is read from what is delivered.** Every reader delivers one thing until its end. If
this is a fault, reading the puzzle fails with it, whatever the bytes before it were. If it is bytes
that encode no text, reading fails because of invalid data, and if they encode a text, the result is
that of parsing this text. Readers that deliver the same give the same result. -/
theorem readFrom_by_content (reader : List Delivery) :
    ∃ outcome, (∀ other, Delivers reader other ↔ other = outcome) ∧
      (∀ fault, outcome = .error fault → Puzzle.readFrom reader = .error (.stream fault)) ∧
      (∀ bytes, outcome = .ok bytes →
        ((¬ ∃ text, Text.Encodes bytes text) →
          ∃ fault, Puzzle.readFrom reader = .error (.stream fault) ∧ fault.kind = .invalidData) ∧
        ∀ text, Text.Encodes bytes text → Puzzle.readFrom reader = Puzzle.parse text) ∧
      ∀ other, Delivers other outcome → Puzzle.readFrom other = Puzzle.readFrom reader := by
  refine ⟨gather reader, fun other => delivers_iff, fun fault => Puzzle.readFrom_of_gather_eq_error,
    fun bytes hgather => ⟨fun hnone => ⟨.notText, ?_, rfl⟩, fun text hencodes => ?_⟩,
    fun other hother => ?_⟩
  · rw [Puzzle.readFrom_of_gather_eq_ok hgather, textOfBytes_eq_error hnone]
    rfl
  · rw [Puzzle.readFrom_of_gather_eq_ok hgather, textOfBytes_eq_ok_iff.mpr hencodes]
    rfl
  · rw [Puzzle.readFrom_eq, Puzzle.readFrom_eq, readText, readText, hother.gather_eq]

/-- A label of two bytes that is cut in the middle, with interruptions and reads behind the end; a
fault behind a byte that no character begins with; and that byte alone. -/
theorem readFrom_by_content_cut :
    Puzzle.readFrom [.interrupted, .bytes [0x32, 0x20, 0xc3], .interrupted, .interrupted,
        .bytes [0xa9, 0x20, 0x58], .bytes [0x20, 0x59], .bytes [], .failed .noSpace] =
      Puzzle.parse "2 é X Y" ∧
    Puzzle.readFrom [.bytes [0x32, 0x20, 0xc3, 0xa9, 0x20, 0x58, 0x20, 0x59]] =
      Puzzle.parse "2 é X Y" ∧
    Puzzle.readFrom [.bytes [0x33, 0xff], .interrupted, .failed .noSpace, .bytes [0x20]] =
      .error (.stream .noSpace) ∧
    ∃ fault, Puzzle.readFrom [.bytes [0x33], .bytes [0xff]] = .error (.stream fault) ∧
      fault.kind = .invalidData := by
  have hencodes : Text.Encodes [0x32, 0x20, 0xc3, 0xa9, 0x20, 0x58, 0x20, 0x59] "2 é X Y" := by
    decide
  have hcut : Delivers [.interrupted, .bytes [0x32, 0x20, 0xc3], .interrupted, .interrupted,
      .bytes [0xa9, 0x20, 0x58], .bytes [0x20, 0x59], .bytes [], .failed .noSpace]
      (.ok [0x32, 0x20, 0xc3, 0xa9, 0x20, 0x58, 0x20, 0x59]) :=
    @Delivers.closed [.interrupted, .bytes [0x32, 0x20, 0xc3], .interrupted, .interrupted,
      .bytes [0xa9, 0x20, 0x58], .bytes [0x20, 0x59]] [.failed .noSpace] (by decide)
  have hbroken : Delivers [.bytes [0x33, 0xff], .interrupted, .failed .noSpace, .bytes [0x20]]
      (.error .noSpace) :=
    @Delivers.broken [.bytes [0x33, 0xff], .interrupted] [.bytes [0x20]] _ (by decide)
  have hnone : ¬ ∃ text, Text.Encodes [0x33, 0xff] text := by
    rintro ⟨text, htext⟩
    have hread := textOfBytes_eq_ok_iff.mpr htext
    have hrefused : textOfBytes [0x33, 0xff] = .error .notText := rfl
    rw [hrefused] at hread
    cases hread
  obtain ⟨outcome, hone, -, hbytes, hsame⟩ :=
    readFrom_by_content [.bytes [0x32, 0x20, 0xc3, 0xa9, 0x20, 0x58, 0x20, 0x59]]
  obtain rfl := (hone _).mp (.exhausted (by decide))
  have hwhole := (hbytes _ rfl).2 _ hencodes
  obtain ⟨fault, hfault⟩ : ∃ fault,
      Puzzle.readFrom [.bytes [0x33], .bytes [0xff]] = .error (.stream fault) ∧
        fault.kind = .invalidData := by
    obtain ⟨outcome, hone, -, hbytes, -⟩ := readFrom_by_content [.bytes [0x33], .bytes [0xff]]
    exact (hbytes _ ((hone _).mp (.exhausted (by decide))).symm).1 hnone
  obtain ⟨outcome, hone, hfails, -⟩ := readFrom_by_content
    [.bytes [0x33, 0xff], .interrupted, .failed .noSpace, .bytes [0x20]]
  exact ⟨(hsame _ hcut).trans hwhole, hwhole, hfails _ ((hone _).mp hbroken).symm, fault, hfault⟩

end TowerOfHanoi
