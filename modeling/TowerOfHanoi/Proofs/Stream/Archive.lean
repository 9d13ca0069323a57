import TowerOfHanoi.Stream.Tape

/-!
# Devices that keep account of what they take

What a device has taken can be told from its state if it is an archive. A tape is one, and every
device becomes one when its taken bytes are recorded beside it, so that what is shown of archives
holds of all devices. Sending bytes to an archive leaves it with all of them or, if the device
fails, with a proper part of them from the front. A device that never fails takes them all.

## Main definitions

* `Archive`: a device that tells which bytes it has taken.
* `Recorded`: any device together with the bytes it has taken.
* `Device.NeverFails`: a device that goes on taking bytes for ever.

## Main results

* `took_send`, `took_sendTexts`: what an archive has taken when bytes or texts have been sent to it.
* `Device.NeverFails.takes_texts`: a device that never fails takes all of them and still never
  fails.
* `Tape.Unlimited.neverFails`: a tape without a limit is such a device, however slow it is.
-/

namespace TowerOfHanoi

/-- The bytes that have been taken from those offered. -/
def Reply.taken (offered : List UInt8) : Reply → List UInt8
  | took count => offered.take count
  | interrupted => []
  | refused _ => []

/-- The answer of a device that goes on: it has taken something, or it asks to offer again. -/
def Reply.GoesOn : Reply → Prop
  | took count => count ≠ 0
  | interrupted => True
  | refused _ => False

/-- A device that tells which bytes it has taken so far. -/
class Archive (δ : Type) extends Device δ where
  /-- The bytes taken so far, in order. -/
  written : δ → List UInt8
  /-- An offer adds what is taken of it. -/
  written_offer : ∀ (bytes : List UInt8) (device : δ),
    written (offer bytes device).2 = written device ++ (offer bytes device).1.taken bytes
  /-- A flush takes nothing. -/
  written_flush : ∀ device : δ, written (flush device).2 = written device

/-- A device with a record of the bytes it has taken. -/
structure Recorded (δ : Type) where
  /-- The device. -/
  device : δ
  /-- The bytes it has taken. -/
  taken : List UInt8 := []

instance {δ : Type} [Device δ] : Archive (Recorded δ) where
  offer bytes recorded :=
    let answer := Device.offer bytes recorded.device
    (answer.1, ⟨answer.2, recorded.taken ++ answer.1.taken bytes⟩)
  flush recorded :=
    let answer := Device.flush recorded.device
    (answer.1, ⟨answer.2, recorded.taken⟩)
  patience recorded := Device.patience recorded.device
  patience_lt := by
    intro bytes device after h
    exact Device.patience_lt
      (Prod.ext (congrArg (fun answer => answer.1) h) (congrArg (fun answer => answer.2.device) h))
  written := Recorded.taken
  written_offer _ _ := rfl
  written_flush _ := rfl

namespace Tape

theorem toList_foldl_push (bytes : List UInt8) (stored : ByteArray) :
    (bytes.foldl ByteArray.push stored).data.toList = stored.data.toList ++ bytes := by
  induction bytes generalizing stored with
  | nil => rw [List.foldl_nil, List.append_nil]
  | cons b bs ih =>
    rw [List.foldl_cons, ih, ByteArray.data_push, Array.toList_push, List.append_assoc]
    rfl

theorem written_take (bytes : List UInt8) (tape : Tape) :
    (tape.take bytes).2.stored.data.toList =
      tape.stored.data.toList ++ (tape.take bytes).1.taken bytes := by
  unfold take
  split
  · rw [Reply.taken, List.append_nil]
  · rw [Reply.taken, toList_foldl_push]

instance : Archive Tape where
  written tape := tape.stored.data.toList
  written_offer bytes tape := by
    change (tape.offer bytes).2.stored.data.toList = _ ++ (tape.offer bytes).1.taken bytes
    unfold offer
    split
    · exact (List.append_nil _).symm
    · exact written_take bytes _
  written_flush _ := rfl

end Tape

variable {δ : Type}

/-! ### Bytes of texts -/

theorem bytesOfText_append (first second : String) :
    bytesOfText (first ++ second) = bytesOfText first ++ bytesOfText second := by
  simp only [bytesOfText, String.toUTF8, String.toByteArray_append, ByteArray.data_append,
    Array.toList_append]

theorem bytesOfText_join (texts : List String) :
    bytesOfText (String.join texts) = texts.flatMap bytesOfText := by
  induction texts with
  | nil => rfl
  | cons text rest ih => rw [String.join_cons, bytesOfText_append, ih, List.flatMap_cons]

/-! ### Sending bytes -/

section Archive

open Archive (written written_offer written_flush)

variable [Archive δ]

/-- What has become of bytes on their way to an archive: it has taken all of them, or it has
failed with a proper part of them from the front. -/
inductive Took (device : δ) (bytes : List UInt8) : Except Fault Unit × δ → Prop
  /-- All the bytes are there. -/
  | all {after : δ} (written_eq : written after = written device ++ bytes) :
      Took device bytes (.ok (), after)
  /-- Some of the bytes are missing. -/
  | part {after : δ} (fault : Fault) (sent rest : List UInt8) (split : bytes = sent ++ rest)
      (missing : rest ≠ []) (written_eq : written after = written device ++ sent) :
      Took device bytes (.error fault, after)

theorem written_of_offer {bytes : List UInt8} {device after : δ} {reply : Reply}
    (h : Device.offer bytes device = (reply, after)) :
    written after = written device ++ reply.taken bytes := by
  have := written_offer bytes device
  rwa [h] at this

/-- More bytes in front that have been taken already. -/
theorem Took.after_taking {device next : δ} {front bytes : List UInt8}
    {outcome : Except Fault Unit × δ} (htook : Took next bytes outcome)
    (hnext : written next = written device ++ front) : Took device (front ++ bytes) outcome := by
  cases htook with
  | all written_eq => exact .all (by rw [written_eq, hnext, List.append_assoc])
  | part fault sent rest split missing written_eq =>
    exact .part fault (front ++ sent) rest (by rw [split, List.append_assoc]) missing
      (by rw [written_eq, hnext, List.append_assoc])

theorem took_send (bytes : List UInt8) (device : δ) : Took device bytes (send bytes device) := by
  fun_induction send bytes device with
  | case1 device => exact .all (List.append_nil _).symm
  | case2 device b bs after answer =>
    exact .part .writeZero [] (b :: bs) rfl (List.cons_ne_nil b bs) (written_of_offer answer)
  | case3 device b bs count after answer ih =>
    have htaken := ih.after_taking (written_of_offer answer)
    rwa [Reply.taken, List.take_succ_cons, List.cons_append, List.take_append_drop] at htaken
  | case4 device b bs after answer ih => exact ih.after_taking (written_of_offer answer)
  | case5 device b bs fault after answer =>
    exact .part fault [] (b :: bs) rfl (List.cons_ne_nil b bs) (written_of_offer answer)

theorem took_sendTexts (texts : List String) (device : δ) :
    Took device (texts.flatMap bytesOfText) (sendTexts texts device) := by
  induction texts generalizing device with
  | nil => exact .all (List.append_nil _).symm
  | cons text rest ih =>
    rw [List.flatMap_cons, sendTexts]
    have htext := took_send (bytesOfText text) device
    cases h : send (bytesOfText text) device with
    | mk result after =>
      rw [h] at htext
      cases htext with
      | all written_eq => exact (ih after).after_taking written_eq
      | part fault sent missed split missing written_eq =>
        exact .part fault sent (missed ++ rest.flatMap bytesOfText)
          (by rw [split, List.append_assoc]) (List.append_ne_nil_of_left_ne_nil missing _)
          written_eq

end Archive

/-! ### Devices that never fail -/

section NeverFails

variable [Device δ]

/-- A device that takes some of what it is offered, or is interrupted for the time being, that can
be flushed, and that is no different after any of this. -/
def Device.NeverFails (device : δ) : Prop :=
  ∃ steady : δ → Prop, steady device ∧ ∀ device, steady device →
    (∀ bytes, bytes ≠ [] →
      (Device.offer bytes device).1.GoesOn ∧ steady (Device.offer bytes device).2) ∧
    (Device.flush device).1 = .ok () ∧ steady (Device.flush device).2

namespace Device.NeverFails

variable {device : δ}

theorem offer (hdevice : NeverFails device) {bytes : List UInt8} (hbytes : bytes ≠ [])
    {reply : Reply} {after : δ} (h : Device.offer bytes device = (reply, after)) :
    reply.GoesOn ∧ NeverFails after := by
  obtain ⟨steady, hsteady, hsteps⟩ := hdevice
  obtain ⟨hgoes, hafter⟩ := (hsteps device hsteady).1 bytes hbytes
  rw [h] at hgoes hafter
  exact ⟨hgoes, steady, hafter, hsteps⟩

theorem flush (hdevice : NeverFails device) :
    (Device.flush device).1 = .ok () ∧ NeverFails (Device.flush device).2 := by
  obtain ⟨steady, hsteady, hsteps⟩ := hdevice
  obtain ⟨hflush, hafter⟩ := (hsteps device hsteady).2
  exact ⟨hflush, steady, hafter, hsteps⟩

theorem send (hdevice : NeverFails device) (bytes : List UInt8) :
    (send bytes device).1 = .ok () ∧ NeverFails (TowerOfHanoi.send bytes device).2 := by
  fun_induction TowerOfHanoi.send bytes device with
  | case1 device => exact ⟨rfl, hdevice⟩
  | case2 device b bs after answer =>
    exact absurd rfl (hdevice.offer (List.cons_ne_nil b bs) answer).1
  | case3 device b bs count after answer ih =>
    exact ih (hdevice.offer (List.cons_ne_nil b bs) answer).2
  | case4 device b bs after answer ih =>
    exact ih (hdevice.offer (List.cons_ne_nil b bs) answer).2
  | case5 device b bs fault after answer =>
    exact (hdevice.offer (List.cons_ne_nil b bs) answer).1.elim

theorem sendTexts (hdevice : NeverFails device) (texts : List String) :
    (TowerOfHanoi.sendTexts texts device).1 = .ok () ∧
      NeverFails (TowerOfHanoi.sendTexts texts device).2 := by
  induction texts generalizing device with
  | nil => exact ⟨rfl, hdevice⟩
  | cons text rest ih =>
    obtain ⟨hsent, hafter⟩ := hdevice.send (bytesOfText text)
    rw [TowerOfHanoi.sendTexts]
    cases h : TowerOfHanoi.send (bytesOfText text) device with
    | mk result after =>
      rw [h] at hsent hafter
      cases hsent
      exact ih hafter

end Device.NeverFails

end NeverFails

/-- An archive that never fails takes the texts as a whole, one behind the other. -/
theorem Device.NeverFails.takes_texts [Archive δ] {device : δ} (hdevice : NeverFails device)
    (texts : List String) :
    ∃ after, TowerOfHanoi.sendTexts texts device = (.ok (), after) ∧ NeverFails after ∧
      Archive.written after = Archive.written device ++ bytesOfText (String.join texts) := by
  obtain ⟨hsent, hafter⟩ := hdevice.sendTexts texts
  have htook := took_sendTexts texts device
  rw [← bytesOfText_join] at htook
  cases h : TowerOfHanoi.sendTexts texts device with
  | mk result after =>
    rw [h] at hsent hafter htook
    cases htook with
    | all written_eq => exact ⟨after, rfl, hafter, written_eq⟩
    | part => cases hsent

/-! ### Tapes that never fail -/

namespace Tape

variable {tape : Tape}

/-- What makes a tape take all bytes in the end. -/
structure Unlimited (tape : Tape) : Prop where
  limit_eq : tape.limit = none
  chunk_ne : tape.chunk ≠ some 0
  flushFault_eq : tape.flushFault = none

theorem Unlimited.accepts_ne_zero (htape : tape.Unlimited) {offered : Nat}
    (hoffered : offered ≠ 0) : tape.accepts offered ≠ 0 := by
  have hchunk := htape.chunk_ne
  unfold accepts
  rw [htape.limit_eq]
  cases h : tape.chunk with
  | none => exact hoffered
  | some chunk =>
    rw [h, Ne, Option.some.injEq] at hchunk
    simp only
    omega

theorem Unlimited.take (htape : tape.Unlimited) {bytes : List UInt8} (hbytes : bytes ≠ []) :
    (tape.take bytes).1.GoesOn ∧ (tape.take bytes).2.Unlimited := by
  have haccepts := htape.accepts_ne_zero (mt List.length_eq_zero_iff.mp hbytes)
  unfold Tape.take
  split
  · rename_i hzero _
    exact absurd hzero haccepts
  · exact ⟨haccepts, htape.limit_eq, htape.chunk_ne, htape.flushFault_eq⟩

/-- A tape without a limit never fails, even if it takes few bytes at a time and is interrupted. -/
theorem Unlimited.neverFails (htape : tape.Unlimited) : Device.NeverFails tape := by
  refine ⟨Unlimited, htape, fun tape htape => ⟨fun bytes hbytes => ?_, ?_, ?_⟩⟩
  · change (tape.offer bytes).1.GoesOn ∧ (tape.offer bytes).2.Unlimited
    unfold Tape.offer
    split
    · exact ⟨trivial, htape.limit_eq, htape.chunk_ne, htape.flushFault_eq⟩
    · have hnext : Unlimited { tape with writes := tape.writes + 1, waited := 0 } :=
        ⟨htape.limit_eq, htape.chunk_ne, htape.flushFault_eq⟩
      exact hnext.take hbytes
  · simp only [Device.flush, Tape.flush, htape.flushFault_eq]
  · exact ⟨htape.limit_eq, htape.chunk_ne, htape.flushFault_eq⟩

end Tape

end TowerOfHanoi
