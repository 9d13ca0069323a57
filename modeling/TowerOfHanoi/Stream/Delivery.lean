import TowerOfHanoi.Stream.Fault

/-!
# Reading a stream to its end

A reader is seen as the list of answers it gives, one for each time it is asked for bytes.
Reading to the end asks again after an interruption, and stops at the first answer without
bytes or at the first fault. The bytes are looked at as text only when all of them are there,
so it does not matter where they were cut.

## Main definitions

* `Delivery`: one answer of a reader.
* `gather`: the bytes that a reader gives until its end.
* `readText`: the text that these bytes encode.
-/

namespace TowerOfHanoi

/-- What a reader answers when it is asked for bytes. -/
inductive Delivery
  /-- The next bytes; none at all means the end of the stream. -/
  | bytes (content : List UInt8)
  /-- Nothing yet: ask again. -/
  | interrupted
  /-- The reader cannot go on. -/
  | failed (fault : Fault)
  deriving DecidableEq

/-- The bytes that a reader gives until its end. A fault before the end takes the place of all
the bytes before it. -/
def gather : List Delivery → Except Fault (List UInt8)
  | [] => .ok []
  | .interrupted :: rest => gather rest
  | .failed fault :: _ => .error fault
  | .bytes [] :: _ => .ok []
  | .bytes (b :: bs) :: rest => (gather rest).map ((b :: bs) ++ ·)

/-- The text that bytes encode in UTF-8. -/
def textOfBytes (bytes : List UInt8) : Except Fault String :=
  match String.fromUTF8? ⟨bytes.toArray⟩ with
  | some text => .ok text
  | none => .error .notText

/-- The text of a reader, all of it. -/
def readText (reader : List Delivery) : Except Fault String :=
  gather reader >>= textOfBytes

@[simp] theorem gather_interrupted (rest : List Delivery) :
    gather (.interrupted :: rest) = gather rest := rfl

@[simp] theorem gather_failed (fault : Fault) (rest : List Delivery) :
    gather (.failed fault :: rest) = .error fault := rfl

end TowerOfHanoi
