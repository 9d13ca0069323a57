import TowerOfHanoi.Stream.Device

/-!
# Buffered devices

A buffered device keeps bytes back until they would no longer fit its buffer, and only then sends
them on. A fault of the device behind it therefore shows late: at the offer that no longer fits,
or when the buffer is flushed.
-/

namespace TowerOfHanoi

/-- A device with a buffer in front of it. -/
structure Buffered (δ : Type) where
  /-- The device that gets the bytes in the end. -/
  device : δ
  /-- The bytes kept back so far. -/
  kept : ByteArray := .empty
  /-- How many bytes the buffer holds. -/
  capacity : Nat := 8192

namespace Buffered

variable {δ : Type} [Device δ]

/-- Sends on what is kept back. -/
def drain (buffer : Buffered δ) : Except Fault Unit × Buffered δ :=
  let (result, device) := send buffer.kept.data.toList buffer.device
  (result, { buffer with device, kept := .empty })

/-- Keeps all the bytes back when they fit a buffer, and sends them on at once when they are too
many for it. -/
def keep (bytes : List UInt8) (buffer : Buffered δ) : Reply × Buffered δ :=
  if bytes.length < buffer.capacity then
    (.took bytes.length, { buffer with kept := bytes.foldl .push buffer.kept })
  else
    match send bytes buffer.device with
    | (.ok (), device) => (.took bytes.length, { buffer with device })
    | (.error fault, device) => (.refused fault, { buffer with device })

/-- The answer to an offer: the buffer is drained first when the bytes do not fit beside those
kept back. -/
def offer (bytes : List UInt8) (buffer : Buffered δ) : Reply × Buffered δ :=
  if buffer.kept.size + bytes.length ≤ buffer.capacity then keep bytes buffer
  else
    match drain buffer with
    | (.ok (), drained) => keep bytes drained
    | (.error fault, drained) => (.refused fault, drained)

/-- Drains the buffer and flushes the device behind it. -/
def flush (buffer : Buffered δ) : Except Fault Unit × Buffered δ :=
  match drain buffer with
  | (.ok (), drained) =>
    let (result, device) := Device.flush drained.device
    (result, { drained with device })
  | (.error fault, drained) => (.error fault, drained)

theorem offer_ne_interrupted {bytes : List UInt8} {buffer after : Buffered δ} :
    buffer.offer bytes ≠ (.interrupted, after) := by
  have keep_ne : ∀ b : Buffered δ, keep bytes b ≠ (.interrupted, after) := by
    intro b
    unfold keep
    split
    · simp
    · split <;> simp
  unfold offer
  split
  · exact keep_ne _
  · split
    · exact keep_ne _
    · simp

instance : Device (Buffered δ) where
  offer := offer
  flush := flush
  patience := fun _ => 0
  patience_lt := fun h => absurd h offer_ne_interrupted

end Buffered

end TowerOfHanoi
