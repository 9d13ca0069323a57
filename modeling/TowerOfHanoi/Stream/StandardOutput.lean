import TowerOfHanoi.Stream.Tape

/-!
# The standard output

The standard output of a program is a device that it has been given by the system. It may not have
been given one that can be written to at all. That is not reported: the bytes count as taken, and
are lost.

## Main definitions

* `StandardOutput`: a device, or none.
* `StandardOutput.stored`: what has arrived on a tape.
-/

namespace TowerOfHanoi

/-- The standard output of a program. -/
inductive StandardOutput (δ : Type)
  /-- A device, with faults of its own. -/
  | attached (device : δ)
  /-- Nothing that can be written to. The bytes are kept here as those that have been lost. -/
  | detached (lost : List UInt8)

namespace StandardOutput

variable {δ : Type} [Device δ]

/-- The answer to an offer. Without a device everything counts as taken. -/
def offer (bytes : List UInt8) : StandardOutput δ → Reply × StandardOutput δ
  | attached device =>
    let (reply, device) := Device.offer bytes device
    (reply, attached device)
  | detached lost => (.took bytes.length, detached (lost ++ bytes))

/-- Flushes the device, if there is one. -/
def flush : StandardOutput δ → Except Fault Unit × StandardOutput δ
  | attached device =>
    let (result, device) := Device.flush device
    (result, attached device)
  | detached lost => (.ok (), detached lost)

/-- The interruptions still to come from the device. -/
def patience : StandardOutput δ → Nat
  | attached device => Device.patience device
  | detached _ => 0

theorem patience_lt {bytes : List UInt8} {output after : StandardOutput δ}
    (h : output.offer bytes = (.interrupted, after)) : after.patience < output.patience := by
  cases output with
  | attached device =>
    cases hoffer : Device.offer bytes device with
    | mk reply next =>
      rw [offer, hoffer] at h
      cases h
      exact Device.patience_lt hoffer
  | detached lost => cases h

instance : Device (StandardOutput δ) where
  offer := offer
  flush := flush
  patience := patience
  patience_lt := patience_lt

/-- A tape is a standard output. -/
instance : Coe Tape (StandardOutput Tape) :=
  ⟨attached⟩

/-- The bytes that have arrived on a tape. -/
def stored : StandardOutput Tape → ByteArray
  | attached tape => tape.stored
  | detached _ => .empty

end StandardOutput

end TowerOfHanoi
