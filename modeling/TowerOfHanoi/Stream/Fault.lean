/-!
# Faults of streams

A fault is what a reader or a device reports when it cannot go on: a kind that programs can
tell apart and a text for people.
-/

namespace TowerOfHanoi

/-- The kinds of fault that a stream can report. -/
inductive FaultKind
  /-- The other end is gone. -/
  | brokenPipe
  /-- The stream may not be used in this way. -/
  | permissionDenied
  /-- The input ended too early. -/
  | unexpectedEnd
  /-- The bytes are not what they should be. -/
  | invalidData
  /-- A device took none of the bytes offered to it. -/
  | writeZero
  /-- The device has no room left. -/
  | storageFull
  /-- Anything else. -/
  | other
  deriving DecidableEq

/-- What a stream reports when it cannot go on. -/
structure Fault where
  /-- What kind of fault it is. -/
  kind : FaultKind
  /-- What it says. -/
  text : String
  deriving DecidableEq

namespace Fault

/-- The fault of a device that takes none of the bytes offered to it. -/
def writeZero : Fault :=
  ⟨.writeZero, "failed to write whole buffer"⟩

/-- The fault of bytes that do not encode any text. -/
def notText : Fault :=
  ⟨.invalidData, "stream did not contain valid UTF-8"⟩

/-- The fault of a device whose storage is used up. -/
def noSpace : Fault :=
  ⟨.storageFull, "No space left on device (os error 28)"⟩

end Fault

end TowerOfHanoi
