import WideColumn.Proofs.Session.Guards

/-!
# Commands that are refused

What the store would reject for a guarded cause is refused before the store is called, for a reason of
the session's own: the state that it is in, the schema, or a literal (`State.Refused`). So a
statement is never rejected for a guarded cause, and wherever there is one it fails all the same
(`State.reachable_guards`).
-/

namespace WideColumn

open Failure (Unguarded)

/-- Whether a failure is one of the state, the schema or a literal. -/
def Failure.IsRefusal : Failure → Prop
  | state _ => True
  | schema _ => True
  | literal _ => True
  | _ => False

namespace Command

/-- The keyspace, which has to exist, that a command names. -/
def knownKeyspace? : Command → Option String
  | use name => some name
  | updateKeyspace name _ => some name
  | dropKeyspace name => some name
  | describe (.keyspace name) => name
  | _ => none

/-- The column family, which has to exist, that a command names. -/
def knownFamily? : Command → Option String
  | updateFamily name _ => some name
  | dropFamily name => some name
  | assume name _ _ => some name
  | command => command.dataFamily?

/-- The address that a command is about. -/
def address? : Command → Option Address
  | set address _ _ => some address
  | get address _ _ => some address
  | del address => some address
  | incr address _ => some address
  | decr address _ => some address
  | count address => some address
  | _ => none

/-- The address of the column that a command writes. -/
def written? : Command → Option Address
  | set address _ _ => some address
  | incr address _ => some address
  | decr address _ => some address
  | _ => none

end Command

namespace State

/-- What stands in the way of a command: for each guarded cause, the condition under which the store
would reject what the command is after. -/
inductive Refused (state : State) (supply : Supply) : Command → Prop where
  | notConnected {command : Command} (needs : command.needsConnection = true)
      (closed : state.store.isConnected = false) : Refused state supply command
  | noKeyspace {command : Command} (needs : command.needsKeyspace = true)
      (unselected : state.store.selected? = none) : Refused state supply command
  | keyspaceMissing {command : Command} {name : String}
      (about : command.knownKeyspace? = some name)
      (missing : Keyspace.find? state.store.keyspaces name = none) : Refused state supply command
  | keyspaceTaken {name : String} {attributes : Attributes}
      (taken : (Keyspace.find? state.store.keyspaces name).isSome = true) :
      Refused state supply (.createKeyspace name attributes)
  | familyMissing {command : Command} {name : String} {keyspace : Keyspace}
      (about : command.knownFamily? = some name)
      (current : state.store.currentKeyspace = .ok keyspace)
      (missing : keyspace.family? name = none) : Refused state supply command
  | familyTaken {name : String} {attributes : Attributes} {keyspace : Keyspace}
      (current : state.store.currentKeyspace = .ok keyspace)
      (taken : (keyspace.family? name).isSome = true) :
      Refused state supply (.createFamily name attributes)
  /-- A super column is named in a standard column family. -/
  | superColumn {command : Command} {address : Address} {outer inner : Literal}
      {resolver : Resolver} {key : Bytes} {left : Supply}
      (about : command.address? = some address)
      (resolved : state.resolver address.family = .ok resolver)
      (standard : resolver.family.isSuper = false)
      (columns : address.columns = .two outer inner)
      (readable : resolver.encodeKey address.key supply = (.ok key, left)) :
      Refused state supply command
  /-- The place of a column that is written ends before the column: in a row, or in a super column
  if rows hold these. -/
  | noColumn {command : Command} {address : Address} {resolver : Resolver} {location : Location}
      {left : Supply} (about : command.written? = some address)
      (resolved : state.resolver address.family = .ok resolver)
      (located : Action.locate resolver address supply = (.ok location, left))
      (ends : location.column = none) : Refused state supply command
  /-- A counter is set. -/
  | counter {address : Address} {value : Literal} {ttl : Option Int} {resolver : Resolver}
      {location : Location} {column : Bytes} {left : Supply}
      (resolved : state.resolver address.family = .ok resolver)
      (located : Action.locate resolver address supply = (.ok location, left))
      (given : location.column = some column)
      (counts : Store.holdsCounter resolver.family column = true) :
      Refused state supply (.set address value ttl)
  | noIndex {name : String} {column : Literal} {resolver : Resolver} {data : Bytes} {left : Supply}
      (resolved : state.resolver name = .ok resolver)
      (encoded : resolver.encodeColumn column supply = (.ok data, left))
      (plain : (resolver.family.column? data).any ColumnDefinition.isIndexed = false) :
      Refused state supply (.dropIndex name column)

end State

/-! ### Actions that refuse -/

namespace Action

variable {α : Type} {state : State} {supply : Supply} {next : α → Action Outcome}

/-- Whether an action refuses: it fails for a reason of the session's own and changes nothing. -/
def Refuses (action : Action Outcome) (state : State) (supply : Supply) : Prop :=
  ∃ cause left, action state supply = ((.error cause, state), left) ∧ cause.IsRefusal

theorem refuses_throw {failure : Failure} (own : failure.IsRefusal) :
    Refuses (throw failure) state supply :=
  ⟨failure, supply, rfl, own⟩

theorem refuses_throw_bind {failure : Failure} (own : failure.IsRefusal) :
    Refuses (throw failure >>= next) state supply :=
  ⟨failure, supply, rfl, own⟩

theorem refuses_get_bind {next : State → Action Outcome}
    (rest : Refuses (next state) state supply) :
    Refuses ((get : Action State) >>= next) state supply :=
  rest

theorem refuses_lift_bind {result : Except Failure α}
    (head : WideColumn.FailsOnly Failure.IsRefusal result)
    (rest : ∀ value, result = .ok value → Refuses (next value) state supply) :
    Refuses ((liftM result : Action α) >>= next) state supply := by
  cases result with
  | error failure => exact ⟨failure, supply, rfl, head failure rfl⟩
  | ok value => exact rest value rfl

/-- A step that is known to succeed. -/
theorem refuses_lift_bind_ok {result : Except Failure α} {value : α} (found : result = .ok value)
    (rest : Refuses (next value) state supply) :
    Refuses ((liftM result : Action α) >>= next) state supply := by
  subst found
  exact rest

/-- A step that is known to fail. -/
theorem refuses_lift_bind_error {result : Except Failure α} {failure : Failure}
    (failed : result = .error failure) (own : failure.IsRefusal) :
    Refuses ((liftM result : Action α) >>= next) state supply := by
  subst failed
  exact ⟨failure, supply, rfl, own⟩

theorem refuses_draw_bind_ok {computation : Draw α} {value : α} {left : Supply}
    (found : computation supply = (.ok value, left)) (rest : Refuses (next value) state left) :
    Refuses (draw computation >>= next) state supply := by
  have unfolded : (draw computation >>= next) state supply =
      ExceptT.bindCont next (computation supply).1 state (computation supply).2 := rfl
  rw [Refuses, unfolded, found]
  exact rest

theorem refuses_draw_bind_error {computation : Draw α} {failure : Failure} {left : Supply}
    (failed : computation supply = (.error failure, left)) (own : failure.IsRefusal) :
    Refuses (draw computation >>= next) state supply := by
  have unfolded : (draw computation >>= next) state supply =
      ExceptT.bindCont next (computation supply).1 state (computation supply).2 := rfl
  rw [Refuses, unfolded, failed]
  exact ⟨failure, left, rfl, own⟩

end Action

namespace State

variable {state : State} {moment : Moment} {supply : Supply} {command : Command}

/-! ### Reaching the check -/

theorem requireConnected_of_isConnected (connected : state.store.isConnected = true) :
    state.requireConnected = .ok () := by
  rw [requireConnected, connected]
  rfl

/-- Of a selected keyspace the session has the name and the definition. -/
theorem keyspace_of_currentKeyspace (coherent : Coherent state) {keyspace : Keyspace}
    (current : state.store.currentKeyspace = .ok keyspace) :
    state.requireKeyspace = .ok keyspace.name ∧ state.keyspace = .ok keyspace := by
  obtain ⟨chosen, mem⟩ := Store.of_currentKeyspace current
  have connected := Store.isConnected_of_selected chosen
  have required : state.requireKeyspace = .ok keyspace.name := by
    rw [requireKeyspace, requireConnected_of_isConnected connected, coherent.selected, chosen]
    rfl
  have described : state.store.describeKeyspace keyspace.name = .ok (some keyspace) := by
    have checked : state.store.requireConnected = .ok () :=
      Store.requireConnected_eq_ok.2 connected
    rw [Store.describeKeyspace, checked, coherent.distinct.find? mem rfl]
    rfl
  refine ⟨required, ?_⟩
  rw [State.keyspace, required]
  show state.store.describeKeyspace keyspace.name >>= _ = _
  rw [described]
  rfl

theorem inUse_of_keyspace {keyspace : Keyspace} (inUse : state.keyspace = .ok keyspace) :
    ∃ name, state.requireKeyspace = .ok name := by
  obtain ⟨name, required, -⟩ := bind_eq_ok.1 inUse
  exact ⟨name, required⟩

theorem inUse_of_resolver {name : String} {resolver : Resolver}
    (resolved : state.resolver name = .ok resolver) : ∃ name, state.requireKeyspace = .ok name := by
  obtain ⟨keyspace, inUse, -⟩ := bind_eq_ok.1 resolved
  exact inUse_of_keyspace inUse

/-- With a keyspace in use, a command that needs one gets to its own checks. -/
theorem refuses_inKeyspace {name : String} {action : Action Outcome}
    (inUse : state.requireKeyspace = .ok name) (own : action.Refuses state supply) :
    Action.Refuses (do
      (← get).requireConnected
      let _ ← (← get).requireKeyspace
      action) state supply := by
  obtain ⟨_, connected, -⟩ := bind_eq_ok.1 inUse
  refine Action.refuses_get_bind (Action.refuses_lift_bind_ok connected ?_)
  exact Action.refuses_get_bind (Action.refuses_lift_bind_ok inUse own)

/-- With a connection, a command that needs one gets to its own checks. -/
theorem refuses_connected {action : Action Outcome} (connected : state.store.isConnected = true)
    (own : action.Refuses state supply) :
    Action.Refuses (do (← get).requireConnected; action) state supply :=
  Action.refuses_get_bind
    (Action.refuses_lift_bind_ok (requireConnected_of_isConnected connected) own)

/-! ### Names -/

theorem refuses_findKeyspace_bind (coherent : Coherent state)
    (connected : state.store.isConnected = true) {name : String}
    {next : Option Keyspace → Action Outcome}
    (rest : (next (Keyspace.find? state.store.keyspaces name)).Refuses state supply) :
    Action.Refuses (Action.findKeyspace name >>= next) state supply := by
  rw [Action.findKeyspace, bind_assoc]
  refine Action.refuses_get_bind ?_
  rw [bind_assoc]
  have checked : state.store.requireConnected = .ok () := Store.requireConnected_eq_ok.2 connected
  cases described : state.store.describeSchema with
  | error failure =>
    rw [Store.describeSchema, checked] at described
    cases described
  | ok keyspaces =>
    refine Action.refuses_lift_bind_ok rfl ?_
    rwa [← coherent.distinct.find?_of_perm (Store.describeSchema_perm described)] at rest

theorem refuses_keyspaceMissing (coherent : Coherent state) {name : String}
    (about : command.knownKeyspace? = some name)
    (missing : Keyspace.find? state.store.keyspaces name = none) :
    (Action.execute moment command).Refuses state supply := by
  cases connected : state.store.isConnected with
  | false =>
    have needs : command.needsConnection = true := by
      cases command <;> first | rfl | cases about
    exact ⟨_, _, execute_of_not_isConnected needs connected, trivial⟩
  | true =>
    have existing {next : Keyspace → Action Outcome} :
        Action.Refuses (Action.existingKeyspace name >>= next) state supply := by
      rw [Action.existingKeyspace, bind_assoc]
      refine refuses_findKeyspace_bind coherent connected ?_
      rw [missing]
      exact Action.refuses_throw_bind trivial
    cases command with
    | use wanted =>
      cases about
      refine refuses_connected connected (refuses_findKeyspace_bind coherent connected ?_)
      rw [missing]
      exact Action.refuses_throw trivial
    | updateKeyspace wanted attributes =>
      cases about
      exact refuses_connected connected existing
    | dropKeyspace wanted =>
      cases about
      exact refuses_connected connected existing
    | describe target =>
      cases target with
      | cluster => cases about
      | keyspace wanted =>
        cases about
        have checked : state.store.requireConnected = .ok () :=
          Store.requireConnected_eq_ok.2 connected
        have described : state.store.describeKeyspace name = .ok none := by
          rw [Store.describeKeyspace, checked, missing]
          rfl
        refine refuses_connected connected (Action.refuses_get_bind ?_)
        refine Action.refuses_lift_bind_ok rfl ?_
        exact Action.refuses_lift_bind_ok described (Action.refuses_throw trivial)
    | _ => cases about

theorem refuses_keyspaceTaken (coherent : Coherent state) {name : String} {attributes : Attributes}
    (taken : (Keyspace.find? state.store.keyspaces name).isSome = true) :
    (Action.execute moment (.createKeyspace name attributes)).Refuses state supply := by
  cases connected : state.store.isConnected with
  | false => exact ⟨_, _, execute_of_not_isConnected rfl connected, trivial⟩
  | true =>
    refine refuses_connected connected (refuses_findKeyspace_bind coherent connected ?_)
    rw [if_pos taken]
    exact Action.refuses_throw_bind trivial

theorem refuses_familyMissing (coherent : Coherent state) {name : String} {keyspace : Keyspace}
    (about : command.knownFamily? = some name)
    (current : state.store.currentKeyspace = .ok keyspace)
    (missing : keyspace.family? name = none) :
    (Action.execute moment command).Refuses state supply := by
  obtain ⟨required, inUse⟩ := keyspace_of_currentKeyspace coherent current
  have unfound : keyspace.family name =
      .error (.schema (.columnFamilyNotFound name keyspace.name)) := by
    rw [Keyspace.family, missing]
  have unresolved : state.resolver name =
      .error (.schema (.columnFamilyNotFound name keyspace.name)) := by
    rw [State.resolver, inUse]
    show keyspace.family name >>= _ = _
    rw [unfound]
    rfl
  have resolving {next : Resolver → Action Outcome} :
      Action.Refuses (do next (← (← get).resolver name)) state supply :=
    Action.refuses_get_bind (Action.refuses_lift_bind_error unresolved trivial)
  have finding {next : Keyspace → ColumnFamily → Action Outcome} :
      Action.Refuses (do
        let keyspace ← (← get).keyspace
        next keyspace (← keyspace.family name)) state supply :=
    Action.refuses_get_bind
      (Action.refuses_lift_bind_ok inUse (Action.refuses_lift_bind_error unfound trivial))
  cases command <;> cases about <;> refine refuses_inKeyspace required ?_
  case updateFamily => exact finding
  case dropFamily => exact finding
  case truncate => exact finding
  case assume => exact finding
  case get => exact Action.refuses_get_bind resolving
  case getWhere => exact Action.refuses_get_bind resolving
  case count => exact Action.refuses_get_bind resolving
  case list => exact Action.refuses_get_bind resolving
  all_goals exact resolving

theorem refuses_familyTaken (coherent : Coherent state) {name : String} {attributes : Attributes}
    {keyspace : Keyspace} (current : state.store.currentKeyspace = .ok keyspace)
    (taken : (keyspace.family? name).isSome = true) :
    (Action.execute moment (.createFamily name attributes)).Refuses state supply := by
  obtain ⟨required, inUse⟩ := keyspace_of_currentKeyspace coherent current
  refine refuses_inKeyspace required (Action.refuses_get_bind ?_)
  refine Action.refuses_lift_bind_ok inUse ?_
  rw [if_pos taken]
  exact Action.refuses_throw_bind trivial

/-! ### Places -/

theorem refuses_superColumn {address : Address} {outer inner : Literal} {resolver : Resolver}
    {key : Bytes} {left : Supply} (about : command.address? = some address)
    (resolved : state.resolver address.family = .ok resolver)
    (standard : resolver.family.isSuper = false) (columns : address.columns = .two outer inner)
    (readable : resolver.encodeKey address.key supply = (.ok key, left)) :
    (Action.execute moment command).Refuses state supply := by
  obtain ⟨name, inUse⟩ := inUse_of_resolver resolved
  have unfound : Action.locate resolver address supply =
      (.error (.schema (.onlyOneColumn resolver.family.name)), left) := by
    rw [Action.locate, Draw.bind_of_ok readable, standard, columns]
    rfl
  have placing {next : Resolver → Location → Action Outcome} :
      Action.Refuses (do
        let resolver ← (← get).resolver address.family
        next resolver (← Action.draw (Action.locate resolver address))) state supply :=
    Action.refuses_get_bind
      (Action.refuses_lift_bind_ok resolved (Action.refuses_draw_bind_error unfound trivial))
  have known (validator : Option String) :
      FailsOnly Failure.IsRefusal (declaredValidator validator) := by
    cases validator with
    | none => exact failsOnly_ok _
    | some name =>
      refine FailsOnly.map some ?_
      unfold Validator.named
      split
      · exact failsOnly_ok _
      · exact failsOnly_error.2 trivial
  cases command <;> cases about <;> refine refuses_inKeyspace inUse ?_
  case get validator limit =>
    -- A validator that is asked for has to be known before anything is looked for.
    refine Action.refuses_get_bind (Action.refuses_lift_bind_ok resolved ?_)
    refine Action.refuses_lift_bind (known validator) fun asked _ => ?_
    exact Action.refuses_draw_bind_error unfound trivial
  case count => exact Action.refuses_get_bind placing
  all_goals exact placing

theorem refuses_noColumn {address : Address} {resolver : Resolver} {location : Location}
    {left : Supply} (about : command.written? = some address)
    (resolved : state.resolver address.family = .ok resolver)
    (located : Action.locate resolver address supply = (.ok location, left))
    (ends : location.column = none) :
    (Action.execute moment command).Refuses state supply := by
  obtain ⟨name, inUse⟩ := inUse_of_resolver resolved
  have unrequired : ∃ cause, Action.requireColumn resolver.family location =
      .error (.schema cause) := by
    unfold Action.requireColumn
    rw [ends]
    dsimp only
    split <;> exact ⟨_, rfl⟩
  obtain ⟨cause, unrequired⟩ := unrequired
  have writing {next : Resolver → Location → Bytes → Action Outcome} :
      Action.Refuses (do
        let resolver ← (← get).resolver address.family
        let location ← Action.draw (Action.locate resolver address)
        next resolver location (← Action.requireColumn resolver.family location)) state supply := by
    refine Action.refuses_get_bind (Action.refuses_lift_bind_ok resolved ?_)
    refine Action.refuses_draw_bind_ok located ?_
    exact Action.refuses_lift_bind_error unrequired trivial
  cases command <;> cases about <;> exact refuses_inKeyspace inUse writing

theorem refuses_counter {address : Address} {value : Literal} {ttl : Option Int}
    {resolver : Resolver} {location : Location} {column : Bytes} {left : Supply}
    (resolved : state.resolver address.family = .ok resolver)
    (located : Action.locate resolver address supply = (.ok location, left))
    (given : location.column = some column)
    (counts : Store.holdsCounter resolver.family column = true) :
    (Action.execute moment (.set address value ttl)).Refuses state supply := by
  obtain ⟨name, inUse⟩ := inUse_of_resolver resolved
  have required : Action.requireColumn resolver.family location = .ok column := by
    rw [Action.requireColumn, given]
  have unread : resolver.encodeValue value column left =
      (.error (.literal (.counterFamily resolver.family.name)), left) := by
    show ((liftM (resolver.valueValidator (some column)) : Draw Validator) >>= _) left = _
    rw [Resolver.valueValidator_of_holdsCounter counts]
    rfl
  refine refuses_inKeyspace inUse (Action.refuses_get_bind ?_)
  refine Action.refuses_lift_bind_ok resolved (Action.refuses_draw_bind_ok located ?_)
  exact Action.refuses_lift_bind_ok required (Action.refuses_draw_bind_error unread trivial)

theorem refuses_noIndex {name : String} {column : Literal} {resolver : Resolver} {data : Bytes}
    {left : Supply} (resolved : state.resolver name = .ok resolver)
    (encoded : resolver.encodeColumn column supply = (.ok data, left))
    (plain : (resolver.family.column? data).any ColumnDefinition.isIndexed = false) :
    (Action.execute moment (.dropIndex name column)).Refuses state supply := by
  obtain ⟨used, inUse⟩ := inUse_of_resolver resolved
  refine refuses_inKeyspace inUse (Action.refuses_get_bind ?_)
  refine Action.refuses_lift_bind_ok resolved (Action.refuses_draw_bind_ok encoded ?_)
  dsimp only
  rw [plain]
  exact Action.refuses_throw_bind trivial

/-! ### All refusals -/

theorem refuses_of_refused (coherent : Coherent state) (refused : Refused state supply command) :
    (Action.execute moment command).Refuses state supply := by
  cases refused with
  | notConnected needs closed => exact ⟨_, _, execute_of_not_isConnected needs closed, trivial⟩
  | noKeyspace needs unselected =>
    obtain ⟨cause, run⟩ : ∃ cause, Action.execute moment command state supply =
        ((.error (.state cause), state), supply) :=
      execute_of_noKeyspace needs (coherent.selected.trans unselected)
    exact ⟨_, _, run, trivial⟩
  | keyspaceMissing about missing => exact refuses_keyspaceMissing coherent about missing
  | keyspaceTaken taken => exact refuses_keyspaceTaken coherent taken
  | familyMissing about current missing =>
    exact refuses_familyMissing coherent about current missing
  | familyTaken current taken => exact refuses_familyTaken coherent current taken
  | superColumn about resolved standard columns readable =>
    exact refuses_superColumn about resolved standard columns readable
  | noColumn about resolved located ends => exact refuses_noColumn about resolved located ends
  | counter resolved located given counts => exact refuses_counter resolved located given counts
  | noIndex resolved encoded plain => exact refuses_noIndex resolved encoded plain

/-! ### Statements -/

variable {newline statement : String}

theorem unguarded_of_answer (coherent : Coherent state) (sound : state.store.Sound)
    {cause : Failure} {text : String}
    (failed : (state.answer moment newline statement supply).1.1 = .failure cause text) :
    Unguarded cause := by
  cases parsed : Command.parse statement with
  | error refusal =>
    obtain ⟨reason, unread⟩ := Command.parse_failure statement (by simp [parsed])
    rw [answer_of_refused unread] at failed
    cases failed
    trivial
  | ok command =>
    have only : Action.FailsOnly Unguarded (Action.execute moment command) state supply :=
      failsOnly_execute coherent sound command
    rw [answer_of_parsed parsed] at failed
    unfold Action.FailsOnly at only
    generalize Action.execute moment command state supply = ended at only failed
    obtain ⟨⟨result, after⟩, left⟩ := ended
    cases result with
    | error reason =>
      cases failed
      exact failsOnly_error.1 only
    | ok outcome =>
      -- An outcome that cannot be written is the last chance to fail.
      have written := Report.failsOnly_outcome newline outcome
      simp only [Reply.ofResult] at failed
      split at failed
      · cases failed
      · rename_i reason unwritten
        cases failed
        exact written _ unwritten

/-- In every reachable state no statement is rejected by the store for want of a connection, of a
keyspace in use, of a keyspace, of a column family or of an index, because a name is taken, because
a place has another shape than its column family, or because a counter is set. Wherever there is
such a reason, the statement fails for one of the state, of the schema or of a literal, and changes
nothing. -/
theorem reachable_guards (reachable : Reachable state) (moment : Moment)
    (newline statement : String) (supply : Supply) :
    (∀ cause text,
      (state.answer moment newline statement supply).1.1 = .failure (.store cause) text →
        ¬ cause.IsGuarded) ∧
      ∀ command, Command.parse statement = .ok command → Refused state supply command →
        ∃ cause text, (state.answer moment newline statement supply).1 =
          (.failure cause text, state) ∧ cause.IsRefusal := by
  refine ⟨fun cause text failed => ?_, fun command parsed refused => ?_⟩
  · exact unguarded_of_answer reachable.coherent reachable.sound failed
  · obtain ⟨cause, left, run, own⟩ : (Action.execute moment command).Refuses state supply :=
      refuses_of_refused reachable.coherent refused
    rw [answer_of_parsed parsed, run]
    exact ⟨cause, _, rfl, own⟩

/-- A counter is not set, even by a session that assumes its value to be text. -/
theorem reachable_guards_counter :
    let supply : Supply := ⟨id, id, 0, 0⟩
    let next (state : State) (statement : String) : State :=
      (state.answer { now := 0 } "\n" statement supply).1.2
    let filed := next { store := Store.connect { clusterName := "c" } } "create keyspace K;"
    let used := next filed "use k;"
    let made := next used "create column family C with default_validation_class = counter;"
    let assumed := next made "assume c validator as utf8;"
    ∃ cause text, (assumed.answer { now := 0 } "\n" "set c['r']['0a'] = '1';" supply).1 =
      (.failure cause text, assumed) ∧ cause.IsRefusal := by
  intro supply next filed used made assumed
  have reachable : Reachable filed := (Reachable.connected "c").answered _ _ _ _
  have reachable : Reachable used := reachable.answered _ _ _ _
  have reachable : Reachable made := reachable.answered _ _ _ _
  have reachable : Reachable assumed := reachable.answered _ _ _ _
  let address : Address := ⟨"c", .plain "r", .one (.plain "0a")⟩
  have parsed : (Command.parse "set c['r']['0a'] = '1';").toOption =
      some (.set address (.plain "1") none) := by
    decide +kernel
  have counts : ((assumed.resolver "c").toOption.bind fun resolver =>
      ((Action.locate resolver address supply).1.toOption.bind Location.column).map
        (Store.holdsCounter resolver.family)) = some true := by
    decide +kernel
  obtain ⟨resolver, resolved, counts⟩ := Option.bind_eq_some_iff.1 counts
  obtain ⟨column, found, counts⟩ := Option.map_eq_some_iff.1 counts
  obtain ⟨location, located, given⟩ := Option.bind_eq_some_iff.1 found
  refine (reachable_guards reachable _ _ _ _).2 _ (toOption_eq_some.1 parsed) ?_
  exact .counter (toOption_eq_some.1 resolved) (Prod.ext (toOption_eq_some.1 located) rfl) given
    counts

end State

end WideColumn
