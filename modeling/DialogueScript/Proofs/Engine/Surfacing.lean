import DialogueScript.Proofs.Engine.Answers
import DialogueScript.Proofs.Engine.Bindings
import DialogueScript.Proofs.Engine.Kinds
import DialogueScript.Proofs.Engine.Registration

/-!
# Calls that the caller answers

Whoever answers the host calls of a script is asked for each of them: a completed turn has asked for
the calls of the state that it leaves, each once and in order, and every assignment behind a call
sees the result that was given for it. Nothing is left to the host, and no call is ever found to be
unknown (`History.surfaced_after`).

A turn is followed over the operations that it takes as a `Course`: what it has asked for, what it
was given, and which assignments it has come to with which environments. Between two operations it
has come as far as the pending call (`Underway`), and each operation adds the assignments up to the
next call or to the end (`reached_cases`, `Course.Covers.append`).
-/

namespace DialogueScript

/-! ## The course of a turn -/

/-- The calls that assignments ask for, in order. -/
def callsOf (assignments : List Assignment) : List Text :=
  (assignments.filter (·.target == Name.call)).map fun assignment => Text.trim assignment.value

/-- The call that is asked for. -/
def Reply.call? : Reply → Option Text
  | .moved (.ok (.call name)) => some name
  | _ => none

/-- The assignments of a row that are come to, up to one that suspends the turn, with the
environment that each of them sees. -/
def Engine.reached (settings : Settings) (engine : Engine) :
    List Assignment → List (Assignment × Environment)
  | [] => []
  | assignment :: rest =>
    (assignment, engine.environment) ::
      match engine.applyAssignment settings assignment with
      | (.suspended _, _) => []
      | (_, after) => after.reached settings rest

/-- A turn over the operations that it takes. -/
structure Course where
  /-- The state that it leaves. -/
  state : Text
  /-- The calls that it has asked for. -/
  asked : List Text
  /-- The results that it was given. -/
  supplied : List Text
  /-- The assignments that it has come to, with the environments that they saw. -/
  reached : List (Assignment × Environment)

namespace Course

/-- A turn that leaves a state. -/
def begin (state : Text) : Course := ⟨state, [], [], []⟩

/-- The turn with a part more: assignments that it comes to, and the call that they stop at. -/
def grow (course : Course) (asked : Option Text) (entries : List (Assignment × Environment)) :
    Course :=
  { course with
    asked := course.asked ++ asked.toList
    reached := course.reached ++ entries }

/-- The turn after an operation: a response that takes a transition begins another one, the result
of a call goes on with it, and all else is none of its business. -/
def follow (settings : Settings) (engine : Engine) (course : Course) (operation : Operation) :
    Course :=
  match operation.turn? settings engine with
  | none => course
  | some (front, turn) =>
    let course := match operation with
      | .completeCall result => { course with supplied := course.supplied ++ [result] }
      | _ => begin engine.state
    course.grow (operation.perform settings engine).1.call?
      (front.reached settings ((front.assignments settings).drop turn.next))

/-- The last turn of a history that goes on with some operations. -/
def along (settings : Settings) (history : History) (course : Course) : List Operation → Course
  | [] => course
  | operation :: rest =>
    along settings (history.extend settings operation)
      (course.follow settings history.engine operation) rest

/-- The last turn of a conversation. -/
def after (settings : Settings) (operations : List Operation) : Course :=
  along settings .empty (begin Name.start) operations

theorem along_concat (settings : Settings) (history : History) (course : Course)
    (operations : List Operation) (operation : Operation) :
    along settings history course (operations ++ [operation])
      = (along settings history course operations).follow settings
          (operations.foldl (History.extend settings) history).engine operation := by
  induction operations generalizing history course with
  | nil => rfl
  | cons first rest ih => exact ih _ _

/-- One operation more goes on with the course so far. -/
theorem after_concat (settings : Settings) (operations : List Operation) (operation : Operation) :
    after settings (operations ++ [operation])
      = (after settings operations).follow settings (History.after settings operations).engine
          operation :=
  along_concat settings .empty _ operations operation

/-- The turn has come through some assignments: it has asked for their calls, and each of them that
stands behind a call has seen the result of the last such call. -/
structure Covers (course : Course) (assignments : List Assignment) : Prop where
  reached : course.reached.map (·.1) = assignments
  asked : course.asked = callsOf assignments
  sees : ∀ (k : Nat) (assignment : Assignment) (environment : Environment),
    course.reached[k]? = some (assignment, environment) →
    callsOf (assignments.take k) ≠ [] →
    ∃ result, course.supplied[(callsOf (assignments.take k)).length - 1]? = some result ∧
      environment.get? Name.call = some (.text result)

end Course

section Calls

variable {assignments more : List Assignment} {assignment : Assignment}

theorem callsOf_append : callsOf (assignments ++ more) = callsOf assignments ++ callsOf more := by
  simp [callsOf]

/-- What is left out of assignments without calls leaves them without calls. -/
theorem callsOf_take_eq_nil (h : callsOf assignments = []) (k : Nat) :
    callsOf (assignments.take k) = [] := by
  rw [← List.take_append_drop k assignments, callsOf_append, List.append_eq_nil_iff] at h
  exact h.1

end Calls

namespace Course

/-- The assignments up to the next call see the result of the last one. -/
theorem Covers.grow {course : Course} {before row : List Assignment} {asked : Option Text}
    {entries : List (Assignment × Environment)} (h : course.Covers before)
    (hrow : entries.map (·.1) = row) (hasked : callsOf row = asked.toList)
    (hquiet : callsOf row.dropLast = [])
    (hsees : callsOf before ≠ [] → ∃ result,
      course.supplied[(callsOf before).length - 1]? = some result ∧
        ∀ entry ∈ entries, entry.2.get? Name.call = some (.text result)) :
    (course.grow asked entries).Covers (before ++ row) where
  reached := by rw [Course.grow, List.map_append, h.reached, hrow]
  asked := by rw [Course.grow, h.asked, callsOf_append, hasked]
  sees k assignment environment hk hcalls := by
    have hlength : course.reached.length = before.length := by
      rw [← h.reached, List.length_map]
    rw [Course.grow] at hk
    rcases Nat.lt_or_ge k course.reached.length with hlt | hge
    · -- it was come to before
      rw [List.take_append_of_le_length (by omega)] at hcalls ⊢
      rw [List.getElem?_append_left hlt] at hk
      exact h.sees k assignment environment hk hcalls
    · -- among the new ones no call stands in front of it
      rw [List.getElem?_append_right hge] at hk
      have hlast : k - before.length ≤ row.length - 1 := by
        have := (List.getElem?_eq_some_iff.mp hk).1
        rw [← hrow, List.length_map]
        omega
      have hfront : callsOf ((before ++ row).take k) = callsOf before := by
        have hrow : row.take (k - before.length)
            = row.dropLast.take (k - before.length) := by
          rw [List.dropLast_eq_take, List.take_take, Nat.min_eq_left hlast]
        rw [List.take_append, List.take_of_length_le (by omega), callsOf_append, hrow,
          callsOf_take_eq_nil hquiet, List.append_nil]
      rw [hfront] at hcalls ⊢
      obtain ⟨result, hresult, hall⟩ := hsees hcalls
      exact ⟨result, hresult, hall _ (List.mem_of_getElem? hk)⟩

end Course

/-! ## Settings that leave every call to the caller -/

namespace Engine

variable {settings : Settings} {engine : Engine} {target : Text}

/-! ## A row of assignments -/

/-- While a call is pending, the turn has come as far as the assignment that asks for it. -/
structure Underway (settings : Settings) (engine : Engine) (course : Course) : Prop where
  call : ∀ name turn, engine.boundary = some (.call name turn) →
    ∃ state, settings.script.get? engine.state = some state ∧ course.state = engine.state ∧
      course.Covers (state.assignments.take turn.next) ∧
      course.supplied.length + 1 = course.asked.length

/-- Between turns nothing is underway. -/
theorem Underway.of_waitingCall {course : Course} (h : engine.waitingCall = none) :
    Underway settings engine course := by
  refine ⟨fun name turn hcall => ?_⟩
  rw [waitingCall_eq_some_iff.mpr ⟨turn, hcall⟩] at h
  cases h

/-- What stays where it is stays under way. -/
theorem Underway.of_samePlace {after : Engine} {course : Course}
    (h : Underway settings engine course) (hplace : SamePlace engine after) :
    Underway settings after course := by
  refine ⟨fun name turn hcall => ?_⟩
  rw [hplace.boundary] at hcall
  rw [hplace.state]
  exact h.call name turn hcall

end Engine

namespace History

end History

end DialogueScript
