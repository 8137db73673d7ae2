/-!
# How lists are put together

A member of two lists in a row is a member of the first or of the second, with the parts in front of
it and behind it to match.
-/

namespace DialogueScript

/-- A member of two lists in a row is in the first or in the second. -/
theorem append_eq_append_cons {α : Type} {front back before after : List α} {a : α}
    (h : front ++ back = before ++ a :: after) :
    (∃ mid, front = before ++ a :: mid ∧ after = mid ++ back) ∨
      ∃ mid, back = mid ++ a :: after ∧ before = front ++ mid := by
  rcases List.append_eq_append_iff.mp h with ⟨mid, hbefore, hback⟩ | ⟨mid, hfront, hback⟩
  · exact .inr ⟨mid, hback, hbefore⟩
  · cases mid with
    | nil => exact .inr ⟨[], hback.symm, by simpa using hfront.symm⟩
    | cons first mid =>
      obtain ⟨rfl, rfl⟩ := List.cons.inj hback
      exact .inl ⟨mid, hfront, rfl⟩

end DialogueScript
