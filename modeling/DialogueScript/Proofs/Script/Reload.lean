import DialogueScript.Proofs.Engine.Resolution
import DialogueScript.Proofs.Json.RoundTrip
import DialogueScript.Proofs.Pattern.Wildcard

/-!
# Scripts that are written and read back

Each record of a script reads back from its JSON form (`Script.ofJson?_toJson`), and the form has
neither numbers nor broken strings in it, so its compact text is a text of it. What is read back is
the script that was written, down to the last retry text, and so it is the same machine
(`Script.reloads`).

A pattern comes back by its text alone. The text of the pattern of wildcards is a case of its own,
since it is not made anew in the way of other patterns (`Pattern.restoredProgram?`); it finds
nothing either way.
-/

namespace DialogueScript

/-! ## Records -/

/-- Records in a row are read back if each of them is. -/
theorem mapM_map_eq_some {α β : Type} {write : α → β} {read : β → Option α}
    (h : ∀ x, read (write x) = some x) (xs : List α) : (xs.map write).mapM read = some xs := by
  induction xs with
  | nil => rfl
  | cons x xs ih => simp [List.mapM_cons, h, ih]

/-- A transition is read back, with its key and its target. -/
theorem Transition.ofJson?_toJson (transition : Transition) :
    ofJson? transition.toJson = some transition := by
  show (TransitionKey.ofJson? transition.key.toJson).bind
    (fun key => some (⟨key, transition.target⟩ : Transition)) = _
  rw [TransitionKey.ofJson?_toJson]
  rfl

theorem Assignment.ofJson?_toJson (assignment : Assignment) :
    ofJson? assignment.toJson = some assignment := rfl

theorem Json.optionalText?_ofText? (t : Option Text) :
    Json.optionalText? (some (Json.ofText? t)) = some t := by
  cases t <;> rfl

/-- A state is read back. A missing retry is written as null and not left out. -/
theorem ScriptState.ofJson?_toJson (state : ScriptState) : ofJson? state.toJson = some state := by
  show ((state.transitions.map (·.toJson)).mapM Transition.ofJson?).bind (fun transitions =>
    ((state.assignments.map (·.toJson)).mapM Assignment.ofJson?).bind fun assignments =>
      (Json.optionalText? (some (Json.ofText? state.retry))).bind fun retry =>
        some (⟨state.prompt, transitions, assignments, retry⟩ : ScriptState)) = _
  rw [mapM_map_eq_some Transition.ofJson?_toJson, mapM_map_eq_some Assignment.ofJson?_toJson,
    Json.optionalText?_ofText?]
  rfl

/-- A script is read back from its record, states in their order. -/
theorem Script.ofJson?_toJson (script : Script) : ofJson? script.toJson = some script := by
  have hfields : (script.states.entries.map fun entry => (some entry.1, entry.2.toJson)).mapM
      (fun (field : Option Text × Json) => field.1.bind fun key =>
        (ScriptState.ofJson? field.2).bind fun state => some (key, state))
      = some script.states.entries := by
    refine mapM_map_eq_some (fun entry => ?_) script.states.entries
    show (ScriptState.ofJson? entry.2.toJson).bind _ = _
    rw [ScriptState.ofJson?_toJson]
    rfl
  refine (congrArg (Option.bind · fun states => some (⟨Table.ofList states⟩ : Script))
    hfields).trans ?_
  rw [Option.bind_some, Table.ofList_entries]

/-! ## The text of a script -/

namespace Json

/-- Items are plain if each of them is. -/
theorem arePlain_map {α : Type} {write : α → Json} (h : ∀ x, (write x).isPlain = true)
    (xs : List α) : arePlain (xs.map write) = true := by
  induction xs with
  | nil => rfl
  | cons x xs ih => rw [List.map_cons, arePlain, h, ih, Bool.and_self]

theorem arePlainFields_map {α : Type} {name : α → Text} {write : α → Json}
    (h : ∀ x, (write x).isPlain = true) (xs : List α) :
    arePlainFields (xs.map fun x => (some (name x), write x)) = true := by
  induction xs with
  | nil => rfl
  | cons x xs ih => rw [List.map_cons, arePlainFields, h, ih]; rfl

theorem isPlain_ofFields {fields : List (String × Json)}
    (h : ∀ field ∈ fields, field.2.isPlain = true) : (ofFields fields).isPlain = true := by
  show arePlainFields (fields.map fun field => (some field.1.toList, field.2)) = true
  induction fields with
  | nil => rfl
  | cons field rest ih =>
    obtain ⟨hfield, hrest⟩ := List.forall_mem_cons.mp h
    rw [List.map_cons, arePlainFields, hfield, ih hrest]
    rfl

end Json

/-- A key is written without numbers, so no digits can differ. -/
theorem TransitionKey.isPlain_toJson (key : TransitionKey) : key.toJson.isPlain = true := by
  cases key <;> rfl

theorem Transition.isPlain_toJson (transition : Transition) :
    transition.toJson.isPlain = true :=
  Json.isPlain_ofFields (by simp [transition.key.isPlain_toJson, Json.isPlain])

/-- A state is written without numbers as well. -/
theorem ScriptState.isPlain_toJson (state : ScriptState) : state.toJson.isPlain = true := by
  have htransitions := Json.arePlain_map Transition.isPlain_toJson state.transitions
  have hassignment : ∀ assignment : Assignment, assignment.toJson.isPlain = true := fun _ => rfl
  have hassignments := Json.arePlain_map hassignment state.assignments
  have hretry : (Json.ofText? state.retry).isPlain = true := by cases state.retry <;> rfl
  exact Json.isPlain_ofFields (by simp [Json.isPlain, htransitions, hassignments, hretry])

/-- The text of a script has no numbers, so it is read back as its record. -/
theorem Script.isPlain_toJson (script : Script) : script.toJson.isPlain = true := by
  have hstates : Json.arePlainFields
      (script.states.entries.map fun entry => (some entry.1, entry.2.toJson)) = true :=
    Json.arePlainFields_map (fun entry => entry.2.isPlain_toJson) script.states.entries
  exact Json.isPlain_ofFields (by simpa [Json.isPlain] using hstates)

/-- **A script that was written reloads as the same machine**: its compact JSON text is read, and
what is read equals the script, every pattern finding in every text what it found before. So a
conversation with the reloaded script can begin when one with the script can, and whatever is asked
of it, it answers the same and is left with the same environment and the same diagnostics. -/
theorem Script.reloads (script : Script) :
    ∃ reloaded, (Json.parse script.toJson.compact).bind ofJson? = some reloaded ∧
      reloaded = script ∧
      (∀ p : Pattern, Pattern.restore? p.source = some p ∧
        ∃ program, Pattern.restoredProgram? p.source = some program ∧
          ∀ t, Pattern.search program t = p.locate t) ∧
      ∀ settings : Settings,
        Engine.new (settings.reading reloaded) = Engine.new (settings.reading script) ∧
        ∀ operations : List Operation, History.after (settings.reading reloaded) operations
          = History.after (settings.reading script) operations := by
  have hread : (Json.parse script.toJson.compact).bind ofJson? = some script := by
    rw [Json.parse_compact script.isPlain_toJson, Option.bind_some, ofJson?_toJson]
  exact ⟨script, hread, rfl, fun p => ⟨p.restore?_source, p.search_restored⟩,
    fun _ => ⟨rfl, fun _ => rfl⟩⟩

end DialogueScript
