import TowerOfHanoi.Proofs.Stream.Content
import TowerOfHanoi.Stream.StandardOutput

/-!
# What arrives on the standard output

To the program, a standard output is an archive: it has taken what it has been sent, whether there
is a device to keep it or not. What arrives is what a device keeps. So an output with a device does
what the device does, and an output without one never fails and gets nothing.

## Main definitions

* `StandardOutput.received`: what has arrived.
* `StandardOutput.IsAttached`, `StandardOutput.IsDetached`: there is a device, or none.

## Main results

* `StandardOutput.keeps_isAttached`, `StandardOutput.keeps_isDetached`: no device is taken away, and
  none is given.
* `Device.NeverFails.attached`, `Device.Refuses.attached`: an output with a device does what the
  device does.
* `StandardOutput.neverFails_detached`: an output without a device never fails.
-/

namespace TowerOfHanoi

variable {δ : Type}

namespace StandardOutput

/-- Whether there is none. -/
def IsDetached : StandardOutput δ → Prop
  | attached _ => False
  | detached _ => True

/-- None is given. -/
theorem keeps_isDetached [Device δ] : Device.Keeps (IsDetached (δ := δ)) := by
  intro output houtput
  cases output with
  | attached device => cases houtput
  | detached lost => exact ⟨fun _ => trivial, trivial⟩

variable [Archive δ]

instance : Archive (StandardOutput δ) where
  written
    | attached device => Archive.written device
    | detached lost => lost
  written_offer bytes output := by
    cases output with
    | attached device => exact Archive.written_offer bytes device
    | detached lost =>
      change lost ++ bytes = lost ++ (Reply.took bytes.length).taken bytes
      rw [Reply.taken, List.take_length]
  written_flush output := by
    cases output with
    | attached device => exact Archive.written_flush device
    | detached lost => rfl

/-- The bytes that have arrived. -/
def received : StandardOutput δ → List UInt8
  | attached device => Archive.written device
  | detached _ => []

/-- Without one, nothing has arrived. -/
theorem received_eq_nil {output : StandardOutput δ} (houtput : output.IsDetached) :
    output.received = [] := by
  cases output with
  | attached device => cases houtput
  | detached lost => rfl

end StandardOutput

variable [Device δ]

/-- An output with a device that never fails does not fail either. -/
theorem Device.NeverFails.attached {device : δ} (hdevice : NeverFails device) :
    NeverFails (StandardOutput.attached device) := by
  refine ⟨fun | .attached device => NeverFails device | .detached _ => False, hdevice,
    fun output houtput => ?_⟩
  cases output with
  | attached device => exact ⟨fun bytes hbytes => houtput.offer hbytes rfl, houtput.flush⟩
  | detached lost => cases houtput

/-- An output with a device that refuses every byte refuses it too. -/
theorem Device.Refuses.attached {device : δ} (hdevice : Refuses device) :
    Refuses (StandardOutput.attached device) := by
  obtain ⟨steady, hsteady, hsteps⟩ := hdevice
  refine ⟨fun | .attached device => steady device | .detached _ => False, hsteady,
    fun output houtput => ?_⟩
  cases output with
  | attached device => exact hsteps device houtput
  | detached lost => cases houtput

/-- An output without a device never fails. -/
theorem StandardOutput.neverFails_detached (lost : List UInt8) :
    Device.NeverFails (detached lost : StandardOutput δ) := by
  refine ⟨IsDetached, trivial, fun output houtput => ?_⟩
  cases output with
  | attached device => cases houtput
  | detached lost =>
    exact ⟨fun bytes hbytes => ⟨mt List.length_eq_zero_iff.mp hbytes, trivial⟩, rfl, trivial⟩

end TowerOfHanoi
