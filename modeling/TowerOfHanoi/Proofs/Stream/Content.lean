import TowerOfHanoi.Proofs.Stream.Archive
import TowerOfHanoi.Stream.Buffered

/-!
# What is in a buffered device

A buffered device holds bytes in two places: those that the device behind it has taken, and those
that are still kept back. While all goes well it loses none of them, so that both together are what
has been sent. When the device behind it fails, what was kept back is lost, and therefore a buffered
device is no archive. Whoever sends bytes without a failure, and flushes without one, finds all the
bytes on the device behind the buffer, whatever that device is.

Some facts are about devices in general. What an offer and a flush keep, sending keeps. A device
that refuses every byte holds what it held before, whatever is sent to it, also behind a buffer.

## Main definitions

* `Ledger`: a device that tells what it holds, as long as it does not fail.
* `Device.Keeps`: offers and flushes keep something true of a device.
* `Device.Refuses`: a device that never takes a byte.

## Main results

* `content_of_send`, `content_of_sendTexts`: what has been sent is held.
* `Buffered.written_of_flush`: a flush brings everything to the device behind the buffer.
* `Buffered.neverFails`: a buffer in front of a device that never fails does not fail either.
* `Device.Refuses.keeps`: a device that refuses every byte goes on so, with what it holds.
-/

namespace TowerOfHanoi

variable {δ : Type}

/-! ### Ledgers -/

/-- A device that tells which bytes it holds. It need not do so once it has refused an offer, or has
failed to flush. -/
class Ledger (δ : Type) [Device δ] where
  /-- The bytes that are held, in order. -/
  content : δ → List UInt8
  /-- An offer adds what is taken of it, if the device goes on. -/
  content_offer : ∀ {bytes : List UInt8} {device after : δ} {reply : Reply},
    Device.offer bytes device = (reply, after) → reply.GoesOn →
      content after = content device ++ reply.taken bytes
  /-- A flush that succeeds loses nothing. -/
  content_flush : ∀ {device after : δ}, Device.flush device = (.ok (), after) →
    content after = content device

/-- An archive holds what it has taken. -/
instance [Archive δ] : Ledger δ where
  content := Archive.written
  content_offer h _ := written_of_offer h
  content_flush {device after} h := by
    have hflush := Archive.written_flush device
    rwa [h] at hflush

section Ledger

open Ledger (content content_offer)

variable [Device δ] [Ledger δ] {device after : δ}

theorem content_of_send {bytes : List UInt8} (h : send bytes device = (.ok (), after)) :
    content after = content device ++ bytes := by
  fun_induction send bytes device with
  | case1 device =>
    cases h
    exact (List.append_nil _).symm
  | case2 device b bs next answer => cases h
  | case3 device b bs count next answer ih =>
    rw [ih h, content_offer answer (Nat.succ_ne_zero count), Reply.taken, List.take_succ_cons,
      List.append_assoc, List.cons_append, List.take_append_drop]
  | case4 device b bs next answer ih =>
    rw [ih h, content_offer answer trivial, Reply.taken, List.append_nil]
  | case5 device b bs fault next answer => cases h

theorem content_of_sendTexts {texts : List String} (h : sendTexts texts device = (.ok (), after)) :
    content after = content device ++ bytesOfText (String.join texts) := by
  induction texts generalizing device with
  | nil =>
    cases h
    exact (List.append_nil _).symm
  | cons text rest ih =>
    rw [sendTexts] at h
    split at h
    · rename_i next hsend
      rw [ih h, content_of_send hsend, String.join_cons, bytesOfText_append, List.append_assoc]
    · cases h

end Ledger

/-! ### Buffers -/

namespace Buffered

open Archive (written)

theorem of_drain_eq_ok [Device δ] {buffer drained : Buffered δ}
    (h : drain buffer = (.ok (), drained)) :
    send buffer.kept.data.toList buffer.device = (.ok (), drained.device) ∧
      drained.kept = .empty := by
  simp only [drain, Prod.mk.injEq] at h
  obtain ⟨hresult, rfl⟩ := h
  exact ⟨Prod.ext hresult rfl, rfl⟩

/-- A flush that succeeds is a flush of the device behind the buffer, and keeps nothing back. -/
theorem of_flush_eq_ok [Device δ] {buffer after : Buffered δ}
    (h : Device.flush buffer = (.ok (), after)) :
    ∃ drained, drain buffer = (.ok (), drained) ∧
      Device.flush drained.device = (.ok (), after.device) ∧ after.kept = .empty := by
  change Buffered.flush buffer = _ at h
  unfold Buffered.flush at h
  split at h
  · rename_i drained hdrain
    simp only [Prod.mk.injEq] at h
    obtain ⟨hresult, rfl⟩ := h
    exact ⟨drained, hdrain, Prod.ext hresult rfl, (of_drain_eq_ok hdrain).2⟩
  · cases h

section Archive

variable [Archive δ] {buffer after : Buffered δ}

/-- The bytes that the device has taken, and behind them those that are kept back. -/
def held (buffer : Buffered δ) : List UInt8 :=
  written buffer.device ++ buffer.kept.data.toList

theorem written_of_drain (h : drain buffer = (.ok (), after)) :
    written after.device = buffer.held := by
  exact content_of_send (of_drain_eq_ok h).1

/-- A drained buffer holds what it held, all of it on the device. -/
theorem held_of_drain (h : drain buffer = (.ok (), after)) : after.held = buffer.held := by
  rw [held, (of_drain_eq_ok h).2, written_of_drain h]
  exact List.append_nil _

/-- Bytes are sent past the buffer only if it keeps nothing back. -/
theorem held_of_keep {bytes : List UInt8}
    (hempty : buffer.capacity ≤ bytes.length → buffer.kept.data.toList = [])
    {reply : Reply} (h : keep bytes buffer = (reply, after)) (hgoes : reply.GoesOn) :
    after.held = buffer.held ++ reply.taken bytes := by
  unfold keep at h
  split at h
  · cases h
    rw [held, held, Tape.toList_foldl_push, Reply.taken, List.take_length, List.append_assoc]
  · rename_i hlarge
    have hkept := hempty (Nat.not_lt.mp hlarge)
    split at h
    · rename_i device hsend
      cases h
      rw [held, held, hkept, Reply.taken, List.take_length, List.append_nil, List.append_nil]
      exact content_of_send hsend
    · cases h
      exact hgoes.elim

theorem held_of_offer {bytes : List UInt8} {reply : Reply}
    (h : Buffered.offer bytes buffer = (reply, after)) (hgoes : reply.GoesOn) :
    after.held = buffer.held ++ reply.taken bytes := by
  unfold Buffered.offer at h
  split at h
  · rename_i hfits
    refine held_of_keep (fun hlarge => ?_) h hgoes
    have hsize : buffer.kept.size = 0 := by omega
    exact List.eq_nil_of_length_eq_zero hsize
  · split at h
    · rename_i drained hdrain
      have hkept := (of_drain_eq_ok hdrain).2
      rw [held_of_keep (fun _ => by rw [hkept]; rfl) h hgoes, held_of_drain hdrain]
    · cases h
      exact hgoes.elim

/-- After a flush that succeeds, all that was held is on the device. -/
theorem written_of_flush (h : Device.flush buffer = (.ok (), after)) :
    written after.device = buffer.held := by
  obtain ⟨drained, hdrain, hflush, -⟩ := of_flush_eq_ok h
  have hwritten := Archive.written_flush drained.device
  rw [hflush] at hwritten
  exact hwritten.trans (written_of_drain hdrain)

instance : Ledger (Buffered δ) where
  content := held
  content_offer := held_of_offer
  content_flush h := by
    obtain ⟨-, -, -, hkept⟩ := of_flush_eq_ok h
    rw [held, hkept, written_of_flush h]
    exact List.append_nil _

end Archive

end Buffered

/-! ### What sending keeps -/

section Keeps

variable [Device δ]

/-- Something that is true of a device stays true whatever is offered, and when it is flushed. -/
def Device.Keeps (steady : δ → Prop) : Prop :=
  ∀ device, steady device →
    (∀ bytes, steady (Device.offer bytes device).2) ∧ steady (Device.flush device).2

namespace Device.Keeps

variable {steady : δ → Prop} (hkeeps : Keeps steady) {device : δ}

include hkeeps

theorem send (hdevice : steady device) (bytes : List UInt8) :
    steady (TowerOfHanoi.send bytes device).2 := by
  have hnext {bytes : List UInt8} {device after : δ} {reply : Reply} (hdevice : steady device)
      (answer : Device.offer bytes device = (reply, after)) : steady after := by
    have hafter := (hkeeps device hdevice).1 bytes
    rwa [answer] at hafter
  fun_induction TowerOfHanoi.send bytes device with
  | case1 device => exact hdevice
  | case2 device b bs after answer => exact hnext hdevice answer
  | case3 device b bs count after answer ih => exact ih (hnext hdevice answer)
  | case4 device b bs after answer ih => exact ih (hnext hdevice answer)
  | case5 device b bs fault after answer => exact hnext hdevice answer

theorem sendTexts (hdevice : steady device) (texts : List String) :
    steady (TowerOfHanoi.sendTexts texts device).2 := by
  induction texts generalizing device with
  | nil => exact hdevice
  | cons text rest ih =>
    have hafter := hkeeps.send hdevice (bytesOfText text)
    rw [TowerOfHanoi.sendTexts]
    generalize TowerOfHanoi.send (bytesOfText text) device = answer at hafter ⊢
    rcases answer with ⟨fault | _, after⟩
    · exact hafter
    · exact ih hafter

theorem drain {buffer : Buffered δ} (hdevice : steady buffer.device) :
    steady (Buffered.drain buffer).2.device :=
  hkeeps.send hdevice _

/-- What is kept of a device is kept of it behind a buffer. -/
theorem buffered : Keeps fun buffer : Buffered δ => steady buffer.device := by
  have hkeep {buffer : Buffered δ} (hdevice : steady buffer.device) (bytes : List UInt8) :
      steady (Buffered.keep bytes buffer).2.device := by
    have hsent := hkeeps.send hdevice bytes
    unfold Buffered.keep
    split
    · exact hdevice
    · generalize TowerOfHanoi.send bytes buffer.device = answer at hsent ⊢
      rcases answer with ⟨fault | _, after⟩ <;> exact hsent
  intro buffer hdevice
  have hdrained := hkeeps.drain hdevice
  generalize hdrain : Buffered.drain buffer = answer at hdrained
  refine ⟨fun bytes => ?_, ?_⟩
  · change steady (Buffered.offer bytes buffer).2.device
    unfold Buffered.offer
    split
    · exact hkeep hdevice bytes
    · rw [hdrain]
      rcases answer with ⟨fault | _, drained⟩
      · exact hdrained
      · exact hkeep hdrained bytes
  · change steady (Buffered.flush buffer).2.device
    unfold Buffered.flush
    rw [hdrain]
    rcases answer with ⟨fault | _, drained⟩
    · exact hdrained
    · exact (hkeeps drained.device hdrained).2

end Device.Keeps

end Keeps

/-! ### Devices that never fail, and devices that never take a byte -/

/-- A buffer in front of a device that never fails takes all that it is offered at once. -/
theorem Buffered.neverFails [Device δ] {buffer : Buffered δ}
    (hdevice : Device.NeverFails buffer.device) : Device.NeverFails buffer := by
  have hkeep {buffer : Buffered δ} (hdevice : Device.NeverFails buffer.device) {bytes : List UInt8}
      (hbytes : bytes ≠ []) : (keep bytes buffer).1.GoesOn ∧
        Device.NeverFails (keep bytes buffer).2.device := by
    have hlength : bytes.length ≠ 0 := mt List.length_eq_zero_iff.mp hbytes
    have hsent := hdevice.send bytes
    unfold keep
    split
    · exact ⟨hlength, hdevice⟩
    · generalize send bytes buffer.device = answer at hsent ⊢
      rcases answer with ⟨fault | _, after⟩
      · cases hsent.1
      · exact ⟨hlength, hsent.2⟩
  refine ⟨fun buffer => Device.NeverFails buffer.device, hdevice, fun buffer hdevice => ?_⟩
  have hdrained : (drain buffer).1 = .ok () ∧ Device.NeverFails (drain buffer).2.device :=
    hdevice.send _
  generalize hdrain : drain buffer = answer at hdrained
  rcases answer with ⟨fault | _, drained⟩
  · cases hdrained.1
  · refine ⟨fun bytes hbytes => ?_, ?_, ?_⟩
    · change (Buffered.offer bytes buffer).1.GoesOn ∧
        Device.NeverFails (Buffered.offer bytes buffer).2.device
      unfold Buffered.offer
      split
      · exact hkeep hdevice hbytes
      · rw [hdrain]
        exact hkeep hdrained.2 hbytes
    · change (Buffered.flush buffer).1 = _
      unfold Buffered.flush
      rw [hdrain]
      exact hdrained.2.flush.1
    · change Device.NeverFails (Buffered.flush buffer).2.device
      unfold Buffered.flush
      rw [hdrain]
      exact hdrained.2.flush.2

/-- A device that takes nothing of what it is offered, that can be flushed, and that is no different
after any of this. -/
def Device.Refuses [Device δ] (device : δ) : Prop :=
  ∃ steady : δ → Prop, steady device ∧ ∀ device, steady device →
    (∀ bytes, (Device.offer bytes device).1.taken bytes = [] ∧
      steady (Device.offer bytes device).2) ∧
    (Device.flush device).1 = .ok () ∧ steady (Device.flush device).2

namespace Device.Refuses

variable [Archive δ] {device : δ}

theorem offer (hdevice : Refuses device) (bytes : List UInt8) :
    Refuses (Device.offer bytes device).2 ∧
      Archive.written (Device.offer bytes device).2 = Archive.written device := by
  obtain ⟨steady, hsteady, hsteps⟩ := hdevice
  obtain ⟨htaken, hafter⟩ := (hsteps device hsteady).1 bytes
  exact ⟨⟨steady, hafter, hsteps⟩, by rw [Archive.written_offer, htaken, List.append_nil]⟩

theorem flush (hdevice : Refuses device) :
    (Device.flush device).1 = .ok () ∧ Refuses (Device.flush device).2 := by
  obtain ⟨steady, hsteady, hsteps⟩ := hdevice
  obtain ⟨hflush, hafter⟩ := (hsteps device hsteady).2
  exact ⟨hflush, steady, hafter, hsteps⟩

end Device.Refuses

/-! ### Tapes that are full -/

namespace Tape

variable {tape : Tape}

/-- What makes a tape take no more bytes. -/
structure Full (tape : Tape) : Prop where
  limit_le : ∃ limit, tape.limit = some limit ∧ limit ≤ tape.stored.size
  flushFault_eq : tape.flushFault = none

theorem Full.accepts_eq (htape : tape.Full) (offered : Nat) : tape.accepts offered = 0 := by
  obtain ⟨limit, hlimit, hfull⟩ := htape.limit_le
  unfold accepts
  simp only [hlimit, Nat.sub_eq_zero_of_le hfull, Nat.min_zero]
  split
  · exact Nat.zero_min _
  · rfl

theorem Full.take (htape : tape.Full) (bytes : List UInt8) :
    (tape.take bytes).1.taken bytes = [] ∧ (tape.take bytes).2.Full := by
  unfold Tape.take
  rw [htape.accepts_eq]
  split
  · exact ⟨rfl, htape⟩
  · exact ⟨rfl, htape.limit_le, htape.flushFault_eq⟩

/-- A full tape refuses every byte, also if it is interrupted before. -/
theorem Full.refuses (htape : tape.Full) : Device.Refuses tape := by
  refine ⟨Full, htape, fun tape htape => ⟨fun bytes => ?_, ?_, ?_⟩⟩
  · change (tape.offer bytes).1.taken bytes = [] ∧ (tape.offer bytes).2.Full
    unfold Tape.offer
    split
    · exact ⟨rfl, htape.limit_le, htape.flushFault_eq⟩
    · have hnext : Full { tape with writes := tape.writes + 1, waited := 0 } :=
        ⟨htape.limit_le, htape.flushFault_eq⟩
      exact hnext.take bytes
  · simp only [Device.flush, Tape.flush, htape.flushFault_eq]
  · exact ⟨htape.limit_le, htape.flushFault_eq⟩

end Tape

end TowerOfHanoi
