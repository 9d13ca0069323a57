import TowerOfHanoi.Stream.Fault

/-!
# Writing to a device

A device is offered bytes and answers how many of them it took. It may take a part, take none,
be interrupted, or refuse. Sending bytes offers again what was left over, and again after an
interruption, until all of them are taken or the device cannot go on; what it took before a
fault stays with it.

## Main definitions

* `Reply`: the answer to one offer.
* `Device`: what can be offered bytes and be flushed. Interruptions use up its `patience`, so no
  device is interrupted for ever.
* `send`, `sendText`: all the given bytes, in order.
-/

namespace TowerOfHanoi

/-- What a device answers when bytes are offered to it. -/
inductive Reply
  /-- The number of bytes taken, from the front of those offered. -/
  | took (count : Nat)
  /-- Nothing was taken, but the same offer may be made again. -/
  | interrupted
  /-- Nothing was taken. -/
  | refused (fault : Fault)
  deriving DecidableEq

/-- What bytes can be sent to. -/
class Device (δ : Type) where
  /-- One offer of bytes. -/
  offer : List UInt8 → δ → Reply × δ
  /-- Passes on what the device has kept back. -/
  flush : δ → Except Fault Unit × δ
  /-- How many interruptions in a row are still to come at most. -/
  patience : δ → Nat
  /-- An interruption uses up some patience. -/
  patience_lt : ∀ {bytes : List UInt8} {device after : δ},
    offer bytes device = (.interrupted, after) → patience after < patience device

variable {δ : Type} [Device δ]

/-- Sends all the bytes, offering again what is left until the device has them or fails. A device
that takes none of them fails. -/
def send (bytes : List UInt8) (device : δ) : Except Fault Unit × δ :=
  match bytes with
  | [] => (.ok (), device)
  | b :: bs =>
    match _answer : Device.offer (b :: bs) device with
    | (.took 0, after) => (.error .writeZero, after)
    | (.took (count + 1), after) => send (bs.drop count) after
    | (.interrupted, after) => send (b :: bs) after
    | (.refused fault, after) => (.error fault, after)
termination_by (bytes.length, Device.patience device)
decreasing_by
  · exact Prod.Lex.left _ _ (by simp only [List.length_drop, List.length_cons]; omega)
  · exact Prod.Lex.right _ (Device.patience_lt _answer)

/-- The bytes of a text in UTF-8. -/
def bytesOfText (text : String) : List UInt8 :=
  text.toUTF8.data.toList

/-- Sends the bytes of the texts, one text after the other. -/
def sendTexts (texts : List String) (device : δ) : Except Fault Unit × δ :=
  match texts with
  | [] => (.ok (), device)
  | text :: rest =>
    match send (bytesOfText text) device with
    | (.ok (), after) => sendTexts rest after
    | (.error fault, after) => (.error fault, after)

@[simp] theorem send_nil (device : δ) : send [] device = (.ok (), device) := by
  rw [send]

/-- Some bytes are sent by one offer, and then what is left. -/
theorem send_cons (b : UInt8) (bs : List UInt8) (device : δ) :
    send (b :: bs) device =
      match Device.offer (b :: bs) device with
      | (.took 0, after) => (.error .writeZero, after)
      | (.took (count + 1), after) => send (bs.drop count) after
      | (.interrupted, after) => send (b :: bs) after
      | (.refused fault, after) => (.error fault, after) := by
  rw [send]
  split <;> rename_i answer <;> simp only [answer]

end TowerOfHanoi
