/-!
# How results come about

A computation in steps has a result if each step has one, and a problem if one of them has.
-/

namespace DialogueScript

variable {ε α β : Type} {first : Except ε α} {next : α → Except ε β}

/-- A computation succeeds in two steps if both steps do. -/
theorem bind_eq_ok {result : β} (h : first >>= next = .ok result) :
    ∃ value, first = .ok value ∧ next value = .ok result := by
  cases first with
  | error fault => exact absurd h (by simp [bind, Except.bind])
  | ok value => exact ⟨value, rfl, h⟩

/-- A computation in two steps fails in the first one or in the second. -/
theorem bind_eq_error {fault : ε} (h : first >>= next = .error fault) :
    first = .error fault ∨ ∃ value, first = .ok value ∧ next value = .error fault := by
  cases first with
  | error other => exact .inl (congrArg Except.error (Except.error.inj h))
  | ok value => exact .inr ⟨value, rfl, h⟩

/-- What is done to the problem of two steps is done to that of either. -/
theorem mapError_bind {ε' : Type} (f : ε → ε') :
    (first >>= next).mapError f = first.mapError f >>= fun value => (next value).mapError f := by
  cases first <;> rfl

theorem eq_ok_of_toOption {result : Except ε α} {value : α}
    (h : result.toOption = some value) : result = .ok value := by
  cases result with
  | error problem => cases h
  | ok other => exact congrArg Except.ok (Option.some.inj h)

end DialogueScript
