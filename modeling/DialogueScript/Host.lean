import DialogueScript.Problem
import DialogueScript.Table

/-!
# Host calls

The calls that a host offers to a conversation. A registry lists the names that can be called and
answers calls; an answer may depend on how often the name was called before.

Main statement: `CallTable.agrees_ofCalls` (registering keeps the names in step with the answers).
-/

namespace DialogueScript

/-- How the host answers the calls of one name, by the number of calls before. -/
abbrev HostAnswer := Nat → Except HostFailure Text

/-- Names in the order in which they were registered, and beside them their answers. -/
structure CallTable where
  names : List Text
  answers : Table HostAnswer

namespace CallTable

/-- Nothing is registered. -/
def empty : CallTable := ⟨[], Table.empty⟩

/-- Registers the answer of a name, in place of an earlier one. Only a new name is listed. -/
def register (table : CallTable) (name : Text) (answer : HostAnswer) : CallTable where
  names := if table.answers.contains name then table.names else table.names ++ [name]
  answers := table.answers.insert name answer

/-- Registers calls, one after the other. -/
def registerAll (table : CallTable) (calls : List (Text × HostAnswer)) : CallTable :=
  calls.foldl (fun table call => table.register call.1 call.2) table

/-- The table of calls that are registered one after the other. -/
def ofCalls (calls : List (Text × HostAnswer)) : CallTable := empty.registerAll calls

end CallTable

/-- The calls that a host offers. -/
inductive HostRegistry
  /-- No calls. -/
  | empty
  /-- Names alone: whoever runs the conversation answers the calls. -/
  | declared (names : List Text)
  /-- Names with their answers. -/
  | listing (table : CallTable)

namespace HostRegistry

/-- The registry that declares names, each once. -/
def declare (names : List Text) : HostRegistry :=
  declared <| names.foldl
    (fun known name => if known.contains name then known else known ++ [name]) []

/-- Registers the answer of a name, in place of an earlier one. -/
def register (registry : HostRegistry) (name : Text) (answer : HostAnswer) : HostRegistry :=
  match registry with
  | empty | declared _ => listing (CallTable.empty.register name answer)
  | listing table => listing (table.register name answer)

/-- The registry of calls that are registered one after the other. -/
def answering (calls : List (Text × HostAnswer)) : HostRegistry :=
  calls.foldl (fun registry call => registry.register call.1 call.2) (listing .empty)

/-- The names that can be called. -/
def names : HostRegistry → List Text
  | empty => []
  | declared names => names
  | listing table => table.names

/-- Can the name be called? -/
def contains (registry : HostRegistry) (name : Text) : Bool := registry.names.contains name

/-- A failure of the registry itself. -/
def failure (code message : String) : HostFailure := ⟨.host, code.toList, message.toList⟩

/-- Calls a name that was called `earlier` times before. -/
def call (registry : HostRegistry) (name : Text) (earlier : Nat) : Except HostFailure Text :=
  match registry with
  | empty =>
    .error (failure "ENGINE_HOST_CALL_MISSING"
      s!"Host call registry is empty; cannot call \"{String.ofList name}\".")
  | declared _ =>
    .error (failure "ENGINE_HOST_CALL_DEFERRED"
      s!"Host call \"{String.ofList name}\" must be answered by the caller.")
  | listing table =>
    match table.answers.get? name with
    | some answer => answer earlier
    | none =>
      .error (failure "ENGINE_HOST_CALL_MISSING"
        s!"Host call \"{String.ofList name}\" is not registered.")

end HostRegistry

namespace CallTable

/-- The names that are listed are those that have an answer. -/
def Agrees (table : CallTable) : Prop :=
  ∀ name, name ∈ table.names ↔ (table.answers.get? name).isSome = true

theorem agrees_empty : empty.Agrees := fun _ => by simp [empty]

/-- Registering changes both sides alike. -/
theorem Agrees.register {table : CallTable} (h : table.Agrees) (name : Text)
    (answer : HostAnswer) : (table.register name answer).Agrees := by
  intro other
  simp only [CallTable.register, Table.get?_insert]
  by_cases hsame : name = other
  · subst hsame
    rw [if_pos rfl, Option.isSome_some]
    split
    next hknown => exact iff_of_true ((h name).mpr hknown) rfl
    next => simp
  · rw [if_neg hsame, ← h other]
    split
    · rfl
    · simp [Ne.symm hsame]

theorem agrees_registerAll (calls : List (Text × HostAnswer)) {table : CallTable}
    (h : table.Agrees) : (table.registerAll calls).Agrees := by
  induction calls generalizing table with
  | nil => exact h
  | cons call rest ih => exact ih (h.register call.1 call.2)

theorem agrees_ofCalls (calls : List (Text × HostAnswer)) : (ofCalls calls).Agrees :=
  agrees_registerAll calls agrees_empty

/-- An answer that is found was registered or has been there before. -/
theorem mem_of_get?_registerAll {calls : List (Text × HostAnswer)} {table : CallTable}
    {name : Text} {answer : HostAnswer}
    (h : (table.registerAll calls).answers.get? name = some answer) :
    (name, answer) ∈ calls ∨ table.answers.get? name = some answer := by
  induction calls generalizing table with
  | nil => exact .inr h
  | cons call rest ih =>
    rcases ih h with hrest | hbefore
    · exact .inl (List.mem_cons_of_mem _ hrest)
    · simp only [register, Table.get?_insert] at hbefore
      split at hbefore
      next hname =>
        obtain rfl := Option.some.inj hbefore
        exact .inl (by simp [← hname])
      next => exact .inr hbefore

theorem mem_of_get?_ofCalls {calls : List (Text × HostAnswer)} {name : Text} {answer : HostAnswer}
    (h : (ofCalls calls).answers.get? name = some answer) : (name, answer) ∈ calls :=
  (mem_of_get?_registerAll h).resolve_right (by simp [empty])

end CallTable

theorem HostRegistry.answering_eq_listing (calls : List (Text × HostAnswer)) :
    answering calls = listing (.ofCalls calls) := by
  suffices ∀ table : CallTable, calls.foldl (fun registry call => registry.register call.1 call.2)
      (listing table) = listing (table.registerAll calls) from this .empty
  induction calls with
  | nil => exact fun _ => rfl
  | cons call rest ih => exact fun table => ih (table.register call.1 call.2)

end DialogueScript
