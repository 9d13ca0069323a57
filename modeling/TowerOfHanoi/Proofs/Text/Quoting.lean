import Mathlib.Tactic.SplitIfs
import TowerOfHanoi.Text.Blank
import TowerOfHanoi.Text.Quoted

/-!
# Quoted text has no controls

A message may be shown on a terminal, where a control character is obeyed and not shown. What a
message quotes can be any text, and the quoted form of it is free of controls: the four common ones
have names, and all others are among the characters that leave no mark, which are spelled by their
code points.

## Main definitions

* `Text.ControlFree`: no character of a text is a control.

## Main results

* `Text.controlFree_quoteString`: quoted text is free of controls.
-/

namespace TowerOfHanoi.Text

/-- No character of a text is a control. -/
def ControlFree (text : String) : Prop :=
  ∀ c ∈ text.toList, isControl c = false

instance (text : String) : Decidable (ControlFree text) :=
  List.decidableBAll (isControl · = false) text.toList

theorem controlFree_append {first second : String} :
    ControlFree (first ++ second) ↔ ControlFree first ∧ ControlFree second := by
  rw [ControlFree, String.toList_append, List.forall_mem_append]
  rfl

theorem controlFree_join {texts : List String} (hall : ∀ text ∈ texts, ControlFree text) :
    ControlFree (String.join texts) := by
  induction texts with
  | nil => exact List.forall_mem_nil _
  | cons text texts ih =>
    rw [List.forall_mem_cons] at hall
    rw [String.join_cons, controlFree_append]
    exact ⟨hall.1, ih hall.2⟩

/-- Controls leave no mark, so they are not printable. -/
theorem isControl_of_isPrintable {c : Char} (hprintable : isPrintable c = true) :
    isControl c = false := by
  rw [Bool.eq_false_iff]
  intro hcontrol
  have hmarkless : isMarkless c = true := by
    rw [isControl, Bool.or_eq_true, Bool.and_eq_true, decide_eq_true_eq, decide_eq_true_eq,
      decide_eq_true_eq] at hcontrol
    rcases hcontrol with hlow | ⟨hfirst, hlast⟩
    · exact inRanges_of_mem (List.mem_cons_self ..) (Nat.zero_le _) hlow
    · exact inRanges_of_mem (List.mem_cons_of_mem _ (List.mem_cons_self ..)) hfirst (by omega)
  simp [isPrintable, hmarkless] at hprintable

/-- The digits of a code point are letters and figures. -/
theorem controlFree_hexDigits (code : Nat) : ControlFree (hexDigits code) := by
  have hdigit : ∀ digit < 16, isControl (Nat.digitChar digit) = false := by decide
  rw [ControlFree, hexDigits, String.toList_ofList]
  induction code using Nat.strongRecOn with
  | ind code ih =>
    rw [Nat.toDigits_eq_if (by decide)]
    split
    · rename_i hlt
      simpa using hdigit code hlt
    · rw [List.forall_mem_append, List.forall_mem_singleton]
      exact ⟨ih (code / 16) (by omega), hdigit _ (Nat.mod_lt _ (by decide))⟩

theorem controlFree_escapeChar {quote : Char} (hquote : isControl quote = false) (c : Char) :
    ControlFree (escapeChar quote c) := by
  unfold escapeChar
  split_ifs with hnull htab hreturn hnewline hself hprintable
  · decide +kernel
  · decide +kernel
  · decide +kernel
  · decide +kernel
  · have hc : isControl c = false := by
      rw [Bool.or_eq_true, decide_eq_true_eq, decide_eq_true_eq] at hself
      rcases hself with rfl | rfl
      · decide
      · exact hquote
    simpa [ControlFree] using ⟨by decide, hc⟩
  · simpa [ControlFree] using isControl_of_isPrintable hprintable
  · rw [controlFree_append, controlFree_append]
    exact ⟨⟨by decide +kernel, controlFree_hexDigits _⟩, by decide +kernel⟩

/-- Quoted text is free of controls. -/
theorem controlFree_quoteString (text : String) : ControlFree (quoteString text) := by
  have hescaped : ControlFree (String.join (text.toList.map (escapeChar '\x22'))) := by
    refine controlFree_join fun escaped hescaped => ?_
    obtain ⟨c, -, rfl⟩ := List.mem_map.mp hescaped
    exact controlFree_escapeChar (by decide) c
  rw [quoteString, controlFree_append, controlFree_append]
  exact ⟨⟨by decide +kernel, hescaped⟩, by decide +kernel⟩

end TowerOfHanoi.Text
