import DialogueScript.Script.Inspect

/-!
# What the inspections find

The inspections of a script, said without the loops that compute them: the unresolved targets are
those of the defined states that are no states (`mem_unresolved_iff`), and the host calls are the
names that assignments of the script ask for (`mem_hostCalls_iff`).
-/

namespace DialogueScript.Script

variable {script : Script} {key target : Text}

/-- The targets of a key are those of the transitions of its state. -/
theorem mem_targets_iff : target ∈ script.targets key ↔
    ∃ state, script.get? key = some state ∧ ∃ transition ∈ state.transitions,
      transition.target = target := by
  unfold targets
  split
  next state hstate => simp [hstate]
  next hstate => simp [hstate]

theorem targets_of_notMem_keys (h : key ∉ script.states.keys) : script.targets key = [] := by
  rw [Table.mem_keys_iff, Table.contains, Bool.not_eq_true, Option.isSome_eq_false_iff,
    Option.isNone_iff_eq_none] at h
  simp [targets, get?, h]

/-- A target is unresolved if the script does not contain it. -/
theorem mem_unresolved_iff : (key, target) ∈ script.unresolved ↔
    target ∈ script.targets key ∧ script.contains target = false := by
  simp only [unresolved, List.mem_flatMap, List.mem_map, List.mem_filter, Prod.exists,
    Prod.mk.injEq, Table.mem_entries_iff, mem_targets_iff, Bool.not_eq_true']
  constructor
  · rintro ⟨_, state, hstate, transition, ⟨hmem, hundefined⟩, rfl, rfl⟩
    exact ⟨⟨state, hstate, transition, hmem, rfl⟩, hundefined⟩
  · rintro ⟨⟨state, hstate, transition, hmem, rfl⟩, hundefined⟩
    exact ⟨key, state, hstate, transition, ⟨hmem, hundefined⟩, rfl, rfl⟩

/-! ## Calls -/

/-- The calls of a script are the trimmed values of its assignments of calls. -/
theorem mem_hostCalls_iff {name : Text} : name ∈ script.hostCalls ↔
    ∃ key state, script.get? key = some state ∧ ∃ assignment ∈ state.assignments,
      assignment.target = Name.call ∧ Text.trim assignment.value = name := by
  simp only [hostCalls, Table.mem_keys_ofList, List.map_map, List.mem_map, List.mem_filter,
    List.mem_flatMap, Table.mem_values_iff, Function.comp_apply, beq_iff_eq]
  constructor
  · rintro ⟨assignment, ⟨⟨state, ⟨key, hstate⟩, hmem⟩, htarget⟩, hname⟩
    exact ⟨key, state, hstate, assignment, hmem, htarget, hname⟩
  · rintro ⟨key, state, hstate, assignment, hmem, htarget, hname⟩
    exact ⟨assignment, ⟨⟨state, ⟨key, hstate⟩, hmem⟩, htarget⟩, hname⟩

end DialogueScript.Script
