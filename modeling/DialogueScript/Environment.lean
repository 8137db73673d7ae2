import DialogueScript.Name
import DialogueScript.Table
import DialogueScript.Value

/-!
# Environments

What a conversation remembers: the state that awaits a response, and the variables.

Main statements: `get?_bind` (binding sets one variable) and `counter_advance` (advancing adds one
to the counter up to the greatest integer).
-/

namespace DialogueScript

/-- The state of a conversation and its variables. -/
structure Environment where
  state : Text
  bindings : Table Value
  deriving DecidableEq

namespace Environment

/-- The environment of a conversation that begins in a state. -/
def initial (state : Text) : Environment :=
  ⟨state, Table.empty.insert Name.counter (.number (.int 1))⟩

/-- The value of a variable. -/
def get? (env : Environment) (name : Text) : Option Value := env.bindings.get? name

/-- Binds a variable. -/
def bind (env : Environment) (name : Text) (value : Value) : Environment :=
  { env with bindings := env.bindings.insert name value }

/-- The counter of turns; one if the variable holds something else. -/
def counter (env : Environment) : Int64 :=
  match env.get? Name.counter with
  | some (.number (.int n)) => n
  | _ => 1

/-- Counts a turn; the greatest integer stays. -/
def advance (env : Environment) : Environment :=
  let next := (Number.ofInt? (env.counter.toInt + 1)).getD env.counter
  env.bind Name.counter (.number (.int next))

/-- Moves to a state. -/
def moveTo (env : Environment) (state : Text) : Environment := { env with state := state }

@[simp] theorem get?_bind (env : Environment) (name : Text) (value : Value) (other : Text) :
    (env.bind name value).get? other = if name = other then some value else env.get? other :=
  Table.get?_insert env.bindings name value other

theorem bind_bind (env : Environment) (name : Text) (value later : Value) :
    (env.bind name value).bind name later = env.bind name later := by
  unfold bind
  rw [Table.insert_insert]

@[simp] theorem state_bind (env : Environment) (name : Text) (value : Value) :
    (env.bind name value).state = env.state := rfl

@[simp] theorem get?_moveTo (env : Environment) (state name : Text) :
    (env.moveTo state).get? name = env.get? name := rfl

@[simp] theorem state_moveTo (env : Environment) (state : Text) :
    (env.moveTo state).state = state := rfl

theorem counter_advance (env : Environment) :
    env.advance.counter = (Number.ofInt? (env.counter.toInt + 1)).getD env.counter := by
  simp [advance, counter]

end Environment

end DialogueScript
