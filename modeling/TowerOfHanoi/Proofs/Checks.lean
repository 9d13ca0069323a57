/-!
# Checks in sequence

A check succeeds with a value or fails with a cause. A program of checks succeeds if each of them
does, and what it answers says what each of them has answered. A change of the value or of the cause
makes no difference to this.
-/

namespace TowerOfHanoi

variable {ε ε' α β : Type}

theorem eq_ok_of_toOption {check : Except ε α} {value : α} (h : check.toOption = some value) :
    check = .ok value := by
  cases check with
  | error cause => cases h
  | ok found =>
    cases h
    rfl

/-- A chain of steps succeeds if each of them does. -/
theorem exists_of_bind_eq_ok {first : Except ε α} {next : α → Except ε β} {result : β}
    (h : (first >>= next) = .ok result) :
    ∃ value, first = .ok value ∧ next value = .ok result := by
  cases first with
  | error cause => cases h
  | ok value => exact ⟨value, rfl, h⟩

theorem exists_of_map_eq_ok {change : α → β} {first : Except ε α} {value : β}
    (h : first.map change = .ok value) : ∃ found, first = .ok found ∧ change found = value := by
  cases first with
  | error cause => cases h
  | ok found =>
    cases h
    exact ⟨found, rfl, rfl⟩

theorem eq_ok_of_mapError_eq_ok {change : ε → ε'} {first : Except ε α} {value : α}
    (h : first.mapError change = .ok value) : first = .ok value := by
  cases first with
  | error cause => cases h
  | ok found =>
    cases h
    rfl

/-- A check that fails ends a program, and one that succeeds leaves the rest of it. -/
theorem run_check_bind {m : Type → Type} [Monad m] [LawfulMonad m] (check : Except ε α)
    (next : α → ExceptT ε m β) :
    ((liftM check : ExceptT ε m α) >>= next).run = match check with
      | .ok value => (next value).run
      | .error cause => pure (.error cause) := by
  change pure check >>= ExceptT.bindCont next = _
  rw [pure_bind]
  cases check <;> rfl

end TowerOfHanoi
