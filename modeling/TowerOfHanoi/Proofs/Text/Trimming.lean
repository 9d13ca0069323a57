import Mathlib.Data.List.TakeWhile
import TowerOfHanoi.Text.Blank

/-!
# What is left of a text without the blanks around it

A text is trimmed by dropping blanks, once from the front and once from the back. This file says
without any dropping what is left: the part of the text between two gaps of blanks that neither
begins nor ends with a blank. Every text has exactly one such part.

## Main definitions

* `Text.Trimmed`: a part of a text is what is left of it.

## Main results

* `Text.trimmed_iff`: every text has such a part, and no other.
-/

namespace TowerOfHanoi.Text

/-- The part of a text between blanks, as short as it can be. -/
structure Trimmed (text core : String) : Prop where
  /-- There are only blanks around it. -/
  around : ∃ front back, text.toList = front ++ core.toList ++ back ∧
    (∀ c ∈ front, isBlank c = true) ∧ ∀ c ∈ back, isBlank c = true
  /-- It does not begin with a blank. -/
  head : ∀ c ∈ core.toList.head?, isBlank c = false
  /-- It does not end with a blank. -/
  last : ∀ c ∈ core.toList.getLast?, isBlank c = false

/-! ### Dropping blanks -/

/-- A gap is dropped as a whole, and nothing behind it. -/
theorem dropWhile_isBlank {gap rest : List Char} (blank : ∀ c ∈ gap, isBlank c = true)
    (head : ∀ c ∈ rest.head?, isBlank c = false) : (gap ++ rest).dropWhile isBlank = rest := by
  rw [List.dropWhile_append_of_pos blank]
  cases rest with
  | nil => rfl
  | cons c rest => rw [List.dropWhile_cons_of_neg (by simp [head c rfl])]

/-- Behind the blanks that are dropped there is none. -/
theorem isBlank_of_mem_head?_dropWhile {cs : List Char} {c : Char}
    (hc : c ∈ (cs.dropWhile isBlank).head?) : isBlank c = false := by
  have hhead := List.head?_dropWhile_not isBlank cs
  rwa [Option.mem_def.mp hc] at hhead

theorem trimChars_eq {front core back : List Char} (hfront : ∀ c ∈ front, isBlank c = true)
    (hback : ∀ c ∈ back, isBlank c = true) (head : ∀ c ∈ core.head?, isBlank c = false)
    (last : ∀ c ∈ core.getLast?, isBlank c = false) : trimChars (front ++ core ++ back) = core := by
  have hreverse : ∀ c ∈ back.reverse, isBlank c = true := by simpa using hback
  cases core with
  | nil =>
    -- There is one gap, which is dropped from the front.
    have hgap : ∀ c ∈ front ++ back, isBlank c = true := List.forall_mem_append.mpr ⟨hfront, hback⟩
    have hnothing : (front ++ back).dropWhile isBlank = [] := by
      rw [← List.append_nil (front ++ back), dropWhile_isBlank hgap (by simp)]
    rw [trimChars, List.append_nil, hnothing]
    rfl
  | cons c core =>
    rw [trimChars, List.append_assoc, dropWhile_isBlank hfront (by simpa using head),
      List.reverse_append, dropWhile_isBlank hreverse (by rwa [List.head?_reverse]),
      List.reverse_reverse]

/-! ### What is left -/

theorem Trimmed.eq_trim {text core : String} (htrimmed : Trimmed text core) :
    core = trim text := by
  obtain ⟨front, back, htext, hfront, hback⟩ := htrimmed.around
  rw [trim, htext, trimChars_eq hfront hback htrimmed.head htrimmed.last, String.ofList_toList]

theorem trimmed_trim (text : String) : Trimmed text (trim text) := by
  obtain ⟨middle, hmiddle⟩ : ∃ middle, middle = text.toList.dropWhile isBlank := ⟨_, rfl⟩
  have hcore : (trim text).toList = (middle.reverse.dropWhile isBlank).reverse := by
    rw [trim, String.toList_ofList, trimChars, hmiddle]
  have hback : middle = (trim text).toList ++ (middle.reverse.takeWhile isBlank).reverse := by
    rw [hcore, ← List.reverse_append, List.takeWhile_append_dropWhile, List.reverse_reverse]
  refine ⟨⟨text.toList.takeWhile isBlank, (middle.reverse.takeWhile isBlank).reverse, ?_,
    fun c => List.mem_takeWhile_imp, fun c hc => List.mem_takeWhile_imp (List.mem_reverse.mp hc)⟩,
    fun c hc => ?_, fun c hc => ?_⟩
  · rw [List.append_assoc, ← hback, hmiddle, List.takeWhile_append_dropWhile]
  · have hhead : c ∈ middle.head? := by
      rw [hback, List.head?_append, Option.mem_def.mp hc]
      rfl
    exact isBlank_of_mem_head?_dropWhile (hmiddle ▸ hhead)
  · rw [hcore, List.getLast?_reverse] at hc
    exact isBlank_of_mem_head?_dropWhile hc

/-- Every text has a part that is left of it, and no other. -/
theorem trimmed_iff {text core : String} : Trimmed text core ↔ core = trim text :=
  ⟨Trimmed.eq_trim, fun h => h ▸ trimmed_trim text⟩

end TowerOfHanoi.Text
