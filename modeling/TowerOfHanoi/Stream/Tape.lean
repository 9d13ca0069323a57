import TowerOfHanoi.Stream.Device

/-!
# Tapes

A tape is a device that keeps the bytes it takes. It may have a limit, may take only a few bytes
at a time, may be interrupted any number of times before a write, and may fail when it is
flushed. At its limit it refuses further bytes with a fault of its own, or takes none of them.
-/

namespace TowerOfHanoi

/-- A device that keeps what it takes. -/
structure Tape where
  /-- The bytes taken so far. -/
  stored : ByteArray := .empty
  /-- How many bytes it takes in all, if there is a limit. -/
  limit : Option Nat := none
  /-- What it reports at its limit; without it, a full tape takes no bytes and reports nothing. -/
  fault : Option Fault := none
  /-- The most bytes it takes at a time, if there is such a bound. -/
  chunk : Option Nat := none
  /-- How many interruptions come before the write with the given number. -/
  hiccups : Nat → Nat := fun _ => 0
  /-- How many writes have been made. -/
  writes : Nat := 0
  /-- How many interruptions there have been since the last write. -/
  waited : Nat := 0
  /-- What it reports when it is flushed. -/
  flushFault : Option Fault := none
  /-- How often it has been flushed. -/
  flushes : Nat := 0

namespace Tape

/-- How many of the offered bytes fit and are taken at once. -/
def accepts (tape : Tape) (offered : Nat) : Nat :=
  let room := match tape.limit with
    | some limit => min offered (limit - tape.stored.size)
    | none => offered
  match tape.chunk with
  | some chunk => min room chunk
  | none => room

/-- The answer to an offer that is not interrupted. -/
def take (bytes : List UInt8) (tape : Tape) : Reply × Tape :=
  match tape.accepts bytes.length, tape.fault with
  | 0, some fault => (.refused fault, tape)
  | count, _ => (.took count, { tape with stored := (bytes.take count).foldl .push tape.stored })

/-- The answer to an offer. -/
def offer (bytes : List UInt8) (tape : Tape) : Reply × Tape :=
  if tape.waited < tape.hiccups tape.writes then
    (.interrupted, { tape with waited := tape.waited + 1 })
  else take bytes { tape with writes := tape.writes + 1, waited := 0 }

/-- Counts the flush, also when it fails. -/
def flush (tape : Tape) : Except Fault Unit × Tape :=
  (match tape.flushFault with
    | some fault => .error fault
    | none => .ok (), { tape with flushes := tape.flushes + 1 })

/-- The interruptions still to come before the next write. -/
def patience (tape : Tape) : Nat :=
  tape.hiccups tape.writes - tape.waited

theorem patience_lt {bytes : List UInt8} {tape after : Tape}
    (h : tape.offer bytes = (.interrupted, after)) : after.patience < tape.patience := by
  unfold offer at h
  split at h
  · cases h
    simp only [patience]
    omega
  · unfold take at h
    split at h <;> simp at h

instance : Device Tape where
  offer := offer
  flush := flush
  patience := patience
  patience_lt := patience_lt

end Tape

end TowerOfHanoi
