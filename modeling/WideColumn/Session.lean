import WideColumn.Resolver
import WideColumn.Store.Definition

/-!
# Sessions

A session is one user's view of a store: the keyspace that commands apply to and the assumptions
made for column families. Several sessions may use the same store over one connection.
-/

namespace WideColumn

/-- The keyspace in use, and the assumptions by keyspace and column family. -/
structure Session where
  keyspace : Option String := none
  assumptions : Table (String × String) Assumptions := .empty

/-- A session together with the store that it uses. -/
structure State where
  session : Session := {}
  store : Store := {}

/-- What a command finds outside: the time in microseconds, and whether the host takes
connections. -/
structure Moment where
  now : Int
  accepting : Bool := true

namespace Session

/-- The assumptions for a column family. -/
def assumptionsFor (session : Session) (family : ColumnFamily) (keyspace : String) :
    Assumptions :=
  (session.assumptions.get? (keyspace, family.name)).getD {}

/-- The session with one more assumption for a column family. -/
def assume (session : Session) (family : ColumnFamily) (keyspace : String)
    (kind : AssumptionKind) (validator : Validator) : Session :=
  let known := session.assumptionsFor family keyspace
  { session with
    assumptions := session.assumptions.put (keyspace, family.name) (known.add kind validator) }

end Session

namespace State

/-- Connect to a host, or connect again. Either way no keyspace is in use afterwards; if the host
refuses, the assumptions are gone as well. -/
def connect (state : State) (moment : Moment) (host : String) (port : Int) :
    Except Failure Unit × State :=
  let closed := state.store.close
  if moment.accepting then
    (.ok (), { session := { state.session with keyspace := none }, store := closed.connect })
  else (.error (.store (.refused host port)), { session := {}, store := closed })

/-- End the session. -/
def close (state : State) : State :=
  { session := {}, store := state.store.close }

/-- Fail unless the store is connected to. -/
def requireConnected (state : State) : Except Failure Unit :=
  if state.store.isConnected then .ok () else .error (.state .notConnected)

/-- The keyspace in use, which there has to be. -/
def requireKeyspace (state : State) : Except Failure String := do
  state.requireConnected
  match state.session.keyspace with
  | some keyspace => return keyspace
  | none => throw (.state .noKeyspace)

/-- The definition of the keyspace in use. -/
def keyspace (state : State) : Except Failure Keyspace := do
  let name ← state.requireKeyspace
  match ← state.store.describeKeyspace name with
  | some keyspace => return keyspace
  | none => throw (.schema (.keyspaceGone name))

/-- The validators of a column family of the keyspace in use. -/
def resolver (state : State) (familyName : String) : Except Failure Resolver := do
  let keyspace ← state.keyspace
  let family ← keyspace.family familyName
  return { family, assumptions := state.session.assumptionsFor family keyspace.name }

end State

end WideColumn
