import TowerOfHanoi.Proofs.Stream.Archive

/-!
# Transcripts of what devices answer

A transcript keeps, beside a device, every offer that was made to it and its answer. It is an
archive, and it answers as the device itself does, so nothing depends on whether it is kept.
From it one can tell where a fault came from: sending texts stops at the first answer that
reports a fault, and fails with that fault.

## Main definitions

* `Reply.fault?`: the fault that an answer reports, if it does.
* `Transcript`: a device with all that it has answered.
* `Script`: a device that gives the answers of a list.
* `Device.View`: a part of a device that is a device and answers for the whole.
* `Heard`: what the answers to sent bytes have been.

## Main results

* `Device.View.sendTexts`: sending to a part of a device is the part of sending to the device.
* `heard_sendTexts`: the fault that sending ends with is the first that the device reports.
-/

namespace TowerOfHanoi

/-- The fault that an answer reports: the device refuses, or takes nothing. -/
def Reply.fault? : Reply → Option Fault
  | took 0 => some .writeZero
  | took (_ + 1) => none
  | interrupted => none
  | refused fault => some fault

/-- A device with the offers made to it and its answers, in order. -/
structure Transcript (δ : Type) where
  /-- The device. -/
  device : δ
  /-- The bytes of each offer and the answer to it. -/
  answers : List (List UInt8 × Reply) := []

instance {δ : Type} [Device δ] : Archive (Transcript δ) where
  offer bytes transcript :=
    let answer := Device.offer bytes transcript.device
    (answer.1, ⟨answer.2, transcript.answers ++ [(bytes, answer.1)]⟩)
  flush transcript :=
    let answer := Device.flush transcript.device
    (answer.1, ⟨answer.2, transcript.answers⟩)
  patience transcript := Device.patience transcript.device
  patience_lt := by
    intro bytes device after h
    exact Device.patience_lt
      (Prod.ext (congrArg (fun answer => answer.1) h) (congrArg (fun answer => answer.2.device) h))
  written transcript := transcript.answers.flatMap fun answer => answer.2.taken answer.1
  written_offer bytes transcript := by
    simp only [List.flatMap_append, List.flatMap_singleton]
  written_flush _ := rfl

/-- A device that gives the answers of a list, and takes all bytes when the list is used up. It
never claims to have taken more than it was offered. -/
structure Script where
  /-- The answers still to be given. -/
  replies : List Reply

namespace Script

/-- Gives the next answer. -/
def offer (bytes : List UInt8) (script : Script) : Reply × Script :=
  match script.replies with
  | [] => (.took bytes.length, script)
  | .took count :: rest => (.took (min count bytes.length), ⟨rest⟩)
  | .interrupted :: rest => (.interrupted, ⟨rest⟩)
  | .refused fault :: rest => (.refused fault, ⟨rest⟩)

theorem replies_length_lt {bytes : List UInt8} {script after : Script}
    (h : script.offer bytes = (.interrupted, after)) :
    after.replies.length < script.replies.length := by
  unfold offer at h
  split at h
  · simp at h
  · simp at h
  · rename_i rest hreplies
    cases h
    rw [hreplies, List.length_cons]
    exact Nat.lt_succ_self rest.length
  · simp at h

instance : Device Script where
  offer := offer
  flush script := (.ok (), script)
  patience script := script.replies.length
  patience_lt := replies_length_lt

end Script

/-! ### Parts of devices -/

section View

variable {δ ε : Type} [Device δ] [Device ε] {view : δ → ε}

/-- A part of a device that is a device itself and answers for the whole. -/
structure Device.View (view : δ → ε) : Prop where
  /-- The part answers as the whole does, and is left as a part of the whole. -/
  offer : ∀ (bytes : List UInt8) (device : δ),
    Device.offer bytes (view device) = Prod.map id view (Device.offer bytes device)

theorem Device.View.send (hview : View view) (bytes : List UInt8) (device : δ) :
    TowerOfHanoi.send bytes (view device) =
      Prod.map id view (TowerOfHanoi.send bytes device) := by
  have hoffer {bytes : List UInt8} {device after : δ} {reply : Reply}
      (answer : Device.offer bytes device = (reply, after)) :
      Device.offer bytes (view device) = (reply, view after) := by
    rw [hview.offer, answer]
    rfl
  fun_induction TowerOfHanoi.send bytes device with
  | case1 device => exact send_nil (view device)
  | case2 device b bs after answer => rw [TowerOfHanoi.send, hoffer answer]; rfl
  | case3 device b bs count after answer ih => rw [TowerOfHanoi.send, hoffer answer]; exact ih
  | case4 device b bs after answer ih => rw [TowerOfHanoi.send, hoffer answer]; exact ih
  | case5 device b bs fault after answer => rw [TowerOfHanoi.send, hoffer answer]; rfl

theorem Device.View.sendTexts (hview : View view) (texts : List String) (device : δ) :
    TowerOfHanoi.sendTexts texts (view device) =
      Prod.map id view (TowerOfHanoi.sendTexts texts device) := by
  induction texts generalizing device with
  | nil => rfl
  | cons text rest ih =>
    rw [TowerOfHanoi.sendTexts, TowerOfHanoi.sendTexts, hview.send]
    rcases TowerOfHanoi.send (bytesOfText text) device with ⟨fault | _, after⟩
    · rfl
    · exact ih after

/-- The device answers for its transcript. -/
theorem Transcript.device_view : Device.View (Transcript.device : Transcript δ → δ) where
  offer _ _ := rfl

end View

/-! ### Where faults come from -/

section Heard

variable {δ : Type}

/-- What a device has answered to bytes that were sent to it: nothing that reports a fault when all
were sent, and a fault in the last answer only when sending failed with it. -/
inductive Heard (device : Transcript δ) : Except Fault Unit × Transcript δ → Prop
  /-- No answer reported a fault. -/
  | fine {after : Transcript δ} (answers : List (List UInt8 × Reply))
      (answers_eq : after.answers = device.answers ++ answers)
      (faultless : ∀ answer ∈ answers, answer.2.fault? = none) : Heard device (.ok (), after)
  /-- The last answer reported the fault, and none before it did. -/
  | faulty {after : Transcript δ} (fault : Fault) (answers : List (List UInt8 × Reply))
      (last : List UInt8 × Reply)
      (answers_eq : after.answers = device.answers ++ (answers ++ [last]))
      (faultless : ∀ answer ∈ answers, answer.2.fault? = none)
      (last_eq : last.2.fault? = some fault) : Heard device (.error fault, after)

/-- More answers in front that have reported no fault. -/
theorem Heard.after_answers {device next : Transcript δ} {front : List (List UInt8 × Reply)}
    {outcome : Except Fault Unit × Transcript δ} (hheard : Heard next outcome)
    (hnext : next.answers = device.answers ++ front)
    (hfront : ∀ answer ∈ front, answer.2.fault? = none) : Heard device outcome := by
  cases hheard with
  | fine answers answers_eq faultless =>
    refine .fine (front ++ answers) (by rw [answers_eq, hnext, List.append_assoc]) ?_
    exact List.forall_mem_append.mpr ⟨hfront, faultless⟩
  | faulty fault answers last answers_eq faultless last_eq =>
    refine .faulty fault (front ++ answers) last ?_ ?_ last_eq
    · rw [answers_eq, hnext, List.append_assoc, List.append_assoc]
    · exact List.forall_mem_append.mpr ⟨hfront, faultless⟩

variable [Device δ]

theorem Transcript.answers_of_offer {bytes : List UInt8} {device after : Transcript δ}
    {reply : Reply} (answer : Device.offer bytes device = (reply, after)) :
    after.answers = device.answers ++ [(bytes, reply)] := by
  cases answer
  rfl

/-- An answer without a fault, and what is heard after it. -/
theorem Heard.after_offer {bytes : List UInt8} {device next : Transcript δ} {reply : Reply}
    {outcome : Except Fault Unit × Transcript δ} (hheard : Heard next outcome)
    (answer : Device.offer bytes device = (reply, next)) (hreply : reply.fault? = none) :
    Heard device outcome := by
  refine hheard.after_answers (Transcript.answers_of_offer answer) ?_
  intro other hother
  rwa [List.mem_singleton.mp hother]

/-- An answer with a fault ends what is heard. -/
theorem heard_of_fault {bytes : List UInt8} {device after : Transcript δ} {reply : Reply}
    {fault : Fault} (answer : Device.offer bytes device = (reply, after))
    (hreply : reply.fault? = some fault) : Heard device (.error fault, after) :=
  .faulty fault [] (bytes, reply) (Transcript.answers_of_offer answer) (List.forall_mem_nil _)
    hreply

theorem heard_send (bytes : List UInt8) (device : Transcript δ) :
    Heard device (send bytes device) := by
  fun_induction send bytes device with
  | case1 device => exact .fine [] (List.append_nil _).symm (List.forall_mem_nil _)
  | case2 device b bs after answer => exact heard_of_fault answer rfl
  | case3 device b bs count after answer ih => exact ih.after_offer answer rfl
  | case4 device b bs after answer ih => exact ih.after_offer answer rfl
  | case5 device b bs fault after answer => exact heard_of_fault answer rfl

theorem heard_sendTexts (texts : List String) (device : Transcript δ) :
    Heard device (sendTexts texts device) := by
  induction texts generalizing device with
  | nil => exact .fine [] (List.append_nil _).symm (List.forall_mem_nil _)
  | cons text rest ih =>
    rw [sendTexts]
    have htext := heard_send (bytesOfText text) device
    cases h : send (bytesOfText text) device with
    | mk result after =>
      rw [h] at htext
      cases htext with
      | fine answers answers_eq faultless => exact (ih after).after_answers answers_eq faultless
      | faulty fault answers last answers_eq faultless last_eq =>
        exact .faulty fault answers last answers_eq faultless last_eq

end Heard

end TowerOfHanoi
