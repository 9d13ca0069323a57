import TowerOfHanoi.Proofs.Stream.Transcript

/-!
# Tapes with little room

A tape with a limit has room for a number of bytes and no more. What is sent to it is kept from
the front up to that number, however few bytes it takes at a time and however often it is
interrupted. Sending succeeds if everything fits, and otherwise fails with the fault that the tape
reports when it is full. Both happen in the same way whether bytes are sent at once or in several
pieces, which is what lets the pieces of a long text be put together.

## Main definitions

* `Tape.HasRoom`: a tape has room for a number of bytes, and reports a fault when it is full.
* `Tape.Filled`: bytes have been sent to such a tape, and as many of them are there as fit.

## Main results

* `Tape.Filled.append`, `Tape.Filled.append_of_lt`: more bytes, after all have fitted and after
  some have not.
* `Tape.filled_send`, `Tape.filled_sendTexts`: sending bytes or texts fills a tape.
-/

namespace TowerOfHanoi

namespace Tape

open Archive (written)

variable {fault : Fault} {room : Nat} {tape : Tape}

/-- A tape has room for so many more bytes, takes some of them when it is offered any, and reports
a fault when there is no room. -/
structure HasRoom (fault : Fault) (room : Nat) (tape : Tape) : Prop where
  limit_eq : tape.limit = some (tape.stored.size + room)
  chunk_ne : tape.chunk ≠ some 0
  fault_eq : tape.fault.getD .writeZero = fault

/-- How a tape with room answers an offer. -/
inductive Answered (fault : Fault) (room offered : Nat) : Reply × Tape → Prop
  /-- It takes some bytes, and as much less room is left. -/
  | took {after : Tape} (count : Nat) (le_offered : count + 1 ≤ offered)
      (le_room : count + 1 ≤ room) (hafter : HasRoom fault (room - (count + 1)) after) :
      Answered fault room offered (.took (count + 1), after)
  /-- It is interrupted. -/
  | interrupted {after : Tape} (hafter : HasRoom fault room after) :
      Answered fault room offered (.interrupted, after)
  /-- There is no room. -/
  | full {after : Tape} {reply : Reply} (full_eq : room = 0) (reply_eq : reply.fault? = some fault)
      (hafter : HasRoom fault 0 after) : Answered fault room offered (reply, after)

theorem size_foldl_push (bytes : List UInt8) (stored : ByteArray) :
    (bytes.foldl ByteArray.push stored).size = stored.size + bytes.length := by
  have hlength := congrArg List.length (toList_foldl_push bytes stored)
  rwa [List.length_append, Array.length_toList, Array.length_toList] at hlength

theorem HasRoom.accepts_le (htape : HasRoom fault room tape) (offered : Nat) :
    tape.accepts offered ≤ offered ∧ tape.accepts offered ≤ room := by
  unfold accepts
  rw [htape.limit_eq]
  cases tape.chunk with
  | none => simp only; omega
  | some chunk => simp only; omega

theorem HasRoom.accepts_ne_zero (htape : HasRoom fault room tape) {offered : Nat}
    (hoffered : offered ≠ 0) (hroom : room ≠ 0) : tape.accepts offered ≠ 0 := by
  have hchunk := htape.chunk_ne
  unfold accepts
  rw [htape.limit_eq]
  cases h : tape.chunk with
  | none => simp only; omega
  | some chunk =>
    rw [h, Ne, Option.some.injEq] at hchunk
    simp only
    omega

theorem HasRoom.take (htape : HasRoom fault room tape) {bytes : List UInt8} (hbytes : bytes ≠ []) :
    Answered fault room bytes.length (tape.take bytes) := by
  have hlength : bytes.length ≠ 0 := mt List.length_eq_zero_iff.mp hbytes
  obtain ⟨hoffered, hroom⟩ := htape.accepts_le bytes.length
  by_cases hfull : room = 0
  · subst hfull
    have hzero : tape.accepts bytes.length = 0 := Nat.le_zero.mp hroom
    have hfault := htape.fault_eq
    unfold Tape.take
    rw [hzero]
    cases h : tape.fault with
    | none =>
      rw [h] at hfault
      exact .full rfl (congrArg some hfault) ⟨htape.limit_eq, htape.chunk_ne, hfault⟩
    | some cause =>
      rw [h] at hfault
      exact .full rfl (congrArg some hfault) htape
  · obtain ⟨count, hcount⟩ := Nat.exists_eq_succ_of_ne_zero (htape.accepts_ne_zero hlength hfull)
    unfold Tape.take
    rw [hcount]
    refine .took count (by omega) (by omega) ⟨?_, htape.chunk_ne, htape.fault_eq⟩
    simp only [size_foldl_push, List.length_take, htape.limit_eq, Option.some.injEq]
    omega

theorem HasRoom.offer (htape : HasRoom fault room tape) {bytes : List UInt8}
    (hbytes : bytes ≠ []) : Answered fault room bytes.length (Device.offer bytes tape) := by
  change Answered fault room bytes.length (tape.offer bytes)
  unfold Tape.offer
  split
  · exact .interrupted ⟨htape.limit_eq, htape.chunk_ne, htape.fault_eq⟩
  · have hnext : HasRoom fault room { tape with writes := tape.writes + 1, waited := 0 } :=
      ⟨htape.limit_eq, htape.chunk_ne, htape.fault_eq⟩
    exact hnext.take hbytes

/-! ### Filling a tape -/

/-- Bytes have been sent to a tape with room: those that fit are there, their room is used up, and
sending has failed if there were others. -/
structure Filled (fault : Fault) (room : Nat) (tape : Tape) (bytes : List UInt8)
    (outcome : Except Fault Unit × Tape) : Prop where
  result_eq : outcome.1 = if bytes.length ≤ room then .ok () else .error fault
  hasRoom : HasRoom fault (room - bytes.length) outcome.2
  written_eq : written outcome.2 = written tape ++ bytes.take room

variable {front bytes : List UInt8} {outcome : Except Fault Unit × Tape}

theorem filled_nil (htape : HasRoom fault room tape) :
    Filled fault room tape [] (.ok (), tape) where
  result_eq := (if_pos (Nat.zero_le room)).symm
  hasRoom := htape
  written_eq := by rw [List.take_nil, List.append_nil]

/-- More bytes are sent to what room is left when all the bytes in front have fitted. -/
theorem Filled.append {next : Tape} (hfits : front.length ≤ room)
    (hnext : written next = written tape ++ front)
    (hfilled : Filled fault (room - front.length) next bytes outcome) :
    Filled fault room tape (front ++ bytes) outcome := by
  obtain ⟨hresult, hroom, hwritten⟩ := hfilled
  have hiff : bytes.length ≤ room - front.length ↔ (front ++ bytes).length ≤ room := by
    rw [List.length_append]
    omega
  refine ⟨?_, ?_, ?_⟩
  · simpa only [hiff] using hresult
  · rwa [List.length_append, ← Nat.sub_sub]
  · rw [hwritten, hnext, List.take_append, List.take_of_length_le hfits, List.append_assoc]

/-- Nothing more is sent when not all the bytes in front have fitted. -/
theorem Filled.append_of_lt (hfilled : Filled fault room tape front outcome)
    (hlong : room < front.length) (bytes : List UInt8) :
    Filled fault room tape (front ++ bytes) outcome := by
  obtain ⟨hresult, hroom, hwritten⟩ := hfilled
  have hlonger : room < (front ++ bytes).length := by
    rw [List.length_append]
    omega
  refine ⟨?_, ?_, ?_⟩
  · rw [hresult, if_neg (Nat.not_le.mpr hlong), if_neg (Nat.not_le.mpr hlonger)]
  · rw [Nat.sub_eq_zero_of_le (Nat.le_of_lt hlong)] at hroom
    rwa [Nat.sub_eq_zero_of_le (Nat.le_of_lt hlonger)]
  · rwa [List.take_append_of_le_length (Nat.le_of_lt hlong)]

/-- A tape without room takes nothing. -/
theorem filled_full (hfull : room = 0) {after : Tape} (hbytes : bytes ≠ [])
    (hafter : HasRoom fault 0 after) (hwritten : written after = written tape) :
    Filled fault room tape bytes (.error fault, after) := by
  have hlength : 0 < bytes.length := List.length_pos_iff.mpr hbytes
  subst hfull
  refine ⟨?_, ?_, ?_⟩
  · exact (if_neg (Nat.not_le.mpr hlength)).symm
  · rwa [Nat.zero_sub]
  · rw [hwritten, List.take_zero, List.append_nil]

theorem filled_send (htape : HasRoom fault room tape) (bytes : List UInt8) :
    Filled fault room tape bytes (send bytes tape) := by
  fun_induction send bytes tape generalizing room with
  | case1 tape => exact filled_nil htape
  | case2 tape b bs after answer =>
    have hanswer := htape.offer (List.cons_ne_nil b bs)
    have hwritten := written_of_offer answer
    rw [answer] at hanswer
    rw [Reply.taken, List.take_zero, List.append_nil] at hwritten
    cases hanswer with
    | full hfull hreply hafter =>
      cases hreply
      exact filled_full hfull (List.cons_ne_nil b bs) hafter hwritten
  | case3 tape b bs count after answer ih =>
    have hanswer := htape.offer (List.cons_ne_nil b bs)
    have hwritten := written_of_offer answer
    rw [answer] at hanswer
    rw [Reply.taken, List.take_succ_cons] at hwritten
    cases hanswer with
    | took _ le_offered le_room hafter =>
      have hlength : (b :: bs.take count).length = count + 1 := by
        rw [List.length_cons] at le_offered ⊢
        rw [List.length_take_of_le (Nat.le_of_succ_le_succ le_offered)]
      have happend := (ih (hlength.symm ▸ hafter)).append (hlength ▸ le_room) hwritten
      rwa [List.cons_append, List.take_append_drop] at happend
    | full _ hreply _ => cases hreply
  | case4 tape b bs after answer ih =>
    have hanswer := htape.offer (List.cons_ne_nil b bs)
    have hwritten := written_of_offer answer
    rw [answer] at hanswer
    cases hanswer with
    | interrupted hafter => exact (ih hafter).append (Nat.zero_le room) hwritten
    | full _ hreply _ => cases hreply
  | case5 tape b bs cause after answer =>
    have hanswer := htape.offer (List.cons_ne_nil b bs)
    have hwritten := written_of_offer answer
    rw [answer] at hanswer
    rw [Reply.taken, List.append_nil] at hwritten
    cases hanswer with
    | full hfull hreply hafter =>
      cases hreply
      exact filled_full hfull (List.cons_ne_nil b bs) hafter hwritten

theorem filled_sendTexts (htape : HasRoom fault room tape) (texts : List String) :
    Filled fault room tape (texts.flatMap bytesOfText) (sendTexts texts tape) := by
  induction texts generalizing room tape with
  | nil => exact filled_nil htape
  | cons text rest ih =>
    rw [List.flatMap_cons, sendTexts]
    have htext := filled_send htape (bytesOfText text)
    cases h : send (bytesOfText text) tape with
    | mk result after =>
      rw [h] at htext
      by_cases hfits : (bytesOfText text).length ≤ room
      · obtain rfl : result = .ok () := htext.result_eq.trans (if_pos hfits)
        have hwritten := htext.written_eq
        rw [List.take_of_length_le hfits] at hwritten
        exact (ih htext.hasRoom).append hfits hwritten
      · obtain rfl : result = .error fault := htext.result_eq.trans (if_neg hfits)
        exact htext.append_of_lt (Nat.not_le.mp hfits) _

end Tape

end TowerOfHanoi
