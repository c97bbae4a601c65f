import WideColumn.Session
import WideColumn.Supply

/-!
# Actions

An action is what a command does: it can look at the state and change it, call the store, draw fresh
identifiers, and fail. What it changed or drew before it failed stays so.
-/

namespace WideColumn

/-- A computation on a state that may take fresh identifiers and may fail. -/
abbrev Action (α : Type) := ExceptT Failure (StateT State (StateM Supply)) α

namespace Action

variable {α : Type}

/-- A computation that looks at no state. -/
def draw (computation : Draw α) : Action α := fun state supply =>
  let (result, after) := computation supply
  ((result, state), after)

/-- A call on the store of the state. -/
def call (call : Store.Call α) : Action α := fun state supply =>
  let (result, store) := call state.store
  ((result, { state with store }), supply)

/-- Change the session of the state. -/
def modifySession (change : Session → Session) : Action Unit :=
  modify fun state => { state with session := change state.session }

end Action

end WideColumn
