import WideColumn.Proofs.Store.Calls
import WideColumn.Session.Reply

/-!
# Statements that fail change nothing

An action is quiet if it never changes the state. It commits if it leaves the state as it was unless
it succeeds, with a value that is good for what comes next: for a command, an outcome that can be
shown. Every command but connecting is quiet up to one call on the store or one change of the
session, and nothing after that can fail; so every such command commits.
-/

namespace WideColumn.Action

variable {α β : Type} {action : Action α} {next : α → Action β} {good : α → Prop}
  {result : β → Prop}

/-! ### Quiet and committing actions -/

/-- An action that never changes the state. -/
def Quiet (action : Action α) : Prop :=
  ∀ state supply, (action state supply).1.2 = state

/-- An action that always succeeds with a good value. -/
def Sure (action : Action α) (good : α → Prop) : Prop :=
  ∀ state supply, ∃ value, (action state supply).1.1 = .ok value ∧ good value

/-- An action that leaves the state as it was unless it succeeds with a good value. -/
def Commits (action : Action α) (good : α → Prop) : Prop :=
  ∀ state supply, (action state supply).1.2 = state ∨
    ∃ value, (action state supply).1.1 = .ok value ∧ good value

theorem bind_apply (state : State) (supply : Supply) :
    (action >>= next) state supply =
      match action state supply with
      | ((.ok value, after), left) => next value after left
      | ((.error failure, after), left) => ((.error failure, after), left) := by
  show (match action state supply with
    | ((result, after), left) => ExceptT.bindCont next result after left) = _
  obtain ⟨⟨result, after⟩, left⟩ := action state supply
  cases result <;> rfl

theorem quiet_lift (result : Except Failure α) : Quiet (liftM result : Action α) :=
  fun _ _ => rfl

theorem quiet_draw (computation : Draw α) : Quiet (draw computation) :=
  fun _ _ => rfl

theorem quiet_get : Quiet (get : Action State) :=
  fun _ _ => rfl

theorem quiet_throw (failure : Failure) : Quiet (throw failure : Action α) :=
  fun _ _ => rfl

/-- Nothing comes after a failure. -/
theorem quiet_throw_bind (failure : Failure) (next : α → Action β) :
    Quiet (throw failure >>= next) :=
  fun _ _ => rfl

theorem quiet_pure (value : α) : Quiet (pure value : Action α) :=
  fun _ _ => rfl

theorem sure_pure {value : α} (holds : good value) : Sure (pure value : Action α) good :=
  fun _ _ => ⟨value, rfl, holds⟩

theorem sure_modifySession (change : Session → Session) :
    Sure (modifySession change) fun _ => True :=
  fun _ _ => ⟨(), rfl, trivial⟩

/-- What comes after a quiet action starts in its state, if there is no failure. -/
theorem Quiet.run_bind (quiet : Quiet action) (next : α → Action β) (state : State)
    (supply : Supply) :
    (∃ failure left, (action >>= next) state supply = ((.error failure, state), left)) ∨
      ∃ value left, (action >>= next) state supply = next value state left := by
  have same := quiet state supply
  rw [bind_apply]
  cases run : action state supply with
  | mk pair left =>
    obtain ⟨found, after⟩ := pair
    rw [run] at same
    obtain rfl : after = state := same
    cases found with
    | error failure => exact .inl ⟨failure, left, rfl⟩
    | ok value => exact .inr ⟨value, left, rfl⟩

theorem Quiet.bind (quiet : Quiet action) (later : ∀ value, Quiet (next value)) :
    Quiet (action >>= next) := by
  intro state supply
  obtain ⟨_, _, run⟩ | ⟨value, left, run⟩ := quiet.run_bind next state supply
  · rw [run]
  · rw [run]
    exact later value state left

theorem Quiet.commits (quiet : Quiet action) : Commits action good :=
  fun state supply => .inl (quiet state supply)

theorem Sure.commits (sure : Sure action good) : Commits action good :=
  fun state supply => .inr (sure state supply)

/-- What commits goes on doing so behind a quiet action. -/
theorem Quiet.bind_commits (quiet : Quiet action) (later : ∀ value, Commits (next value) result) :
    Commits (action >>= next) result := by
  intro state supply
  obtain ⟨_, _, run⟩ | ⟨value, left, run⟩ := quiet.run_bind next state supply
  · rw [run]
    exact .inl rfl
  · rw [run]
    exact later value state left

/-- What commits goes on doing so if nothing after it can fail. -/
theorem Commits.bind_sure (commits : Commits action good)
    (later : ∀ value, Sure (next value) result) : Commits (action >>= next) result := by
  intro state supply
  have same := commits state supply
  rw [bind_apply]
  cases run : action state supply with
  | mk pair left =>
    obtain ⟨found, after⟩ := pair
    rw [run] at same
    -- After a failure the state is the old one; after a success nothing can fail.
    cases found with
    | error failure =>
      rcases same with same | ⟨value, ok, -⟩
      · exact .inl same
      · cases ok
    | ok value => exact .inr (later value after left)

theorem Sure.bind (sure : Sure action good) (later : ∀ value, Sure (next value) result) :
    Sure (action >>= next) result := by
  intro state supply
  obtain ⟨value, ok, -⟩ := sure state supply
  rw [bind_apply]
  cases run : action state supply with
  | mk pair left =>
    obtain ⟨found, after⟩ := pair
    rw [run] at ok
    cases ok
    exact later value after left

/-- A call that is isolated in the store is so in the state. -/
theorem commits_call {stored : Store.Call α} (isolated : stored.Isolated) :
    Commits (call stored) fun _ => True := by
  intro state supply
  show ({ state with store := (stored state.store).2 } : State) = state ∨
    ∃ value, (stored state.store).1 = .ok value ∧ True
  cases run : (stored state.store).1 with
  | error failure =>
    rw [isolated state.store failure run]
    exact .inl rfl
  | ok value => exact .inr ⟨value, rfl, trivial⟩

/-! ### Commands that only read -/

/-- Whether an outcome can be shown, with any line break. -/
def Shown (outcome : Outcome) : Prop :=
  ∀ newline, ∃ text, Report.outcome newline outcome = .ok text

theorem shown_of_lines {outcome : Outcome} {lines : List String}
    (plain : ∀ newline, Report.lines newline outcome = .ok lines) : Shown outcome := by
  intro newline
  rw [Report.outcome, plain]
  exact ⟨_, rfl⟩

theorem getAddress_quiet (moment : Moment) (address : Address) (validator : Option String)
    (limit : Option Int) : Quiet (getAddress moment address validator limit) := by
  unfold getAddress
  apply quiet_get.bind
  intro state
  apply (quiet_lift _).bind
  intro resolver
  apply (quiet_lift _).bind
  intro asked
  apply (quiet_draw _).bind
  intro location
  split
  · apply (quiet_lift _).bind
    intro entries
    apply (quiet_lift _).bind
    intro shown
    exact quiet_pure _
  · apply (quiet_lift _).bind
    intro entry
    split
    · apply (quiet_lift _).bind
      intro cell
      exact quiet_pure _
    · exact quiet_throw _
    · exact quiet_pure _

theorem getMatching_quiet (moment : Moment) (familyName : String) (conditions : List Condition)
    (limit : Option Int) : Quiet (getMatching moment familyName conditions limit) := by
  unfold getMatching
  apply quiet_get.bind
  intro state
  apply (quiet_lift _).bind
  intro resolver
  apply (quiet_draw _).bind
  intro expressions
  apply (quiet_lift _).bind
  intro rows
  exact quiet_lift _

theorem countEntries_quiet (moment : Moment) (address : Address) :
    Quiet (countEntries moment address) := by
  unfold countEntries
  apply quiet_get.bind
  intro state
  apply (quiet_lift _).bind
  intro resolver
  apply (quiet_draw _).bind
  intro location
  -- A single column is refused, which changes nothing either.
  dsimp only
  split
  · exact quiet_throw_bind _ _
  · exact (quiet_lift _).bind fun entries => quiet_pure _

theorem listRows_quiet (moment : Moment) (familyName : String) (start stop : Option Literal)
    (limit : Option Int) : Quiet (listRows moment familyName start stop limit) := by
  unfold listRows
  apply quiet_get.bind
  intro state
  apply (quiet_lift _).bind
  intro resolver
  apply (quiet_draw _).bind
  intro first
  apply (quiet_draw _).bind
  intro last
  apply (quiet_lift _).bind
  intro rows
  exact quiet_lift _

theorem describe_quiet (target : DescribeTarget) : Quiet (describe target) := by
  cases target with
  | cluster =>
    apply quiet_get.bind
    intro state
    apply (quiet_lift _).bind
    intro versions
    exact quiet_pure _
  | keyspace name =>
    apply quiet_get.bind
    intro state
    apply (quiet_lift _).bind
    intro wanted
    apply (quiet_lift _).bind
    intro found
    split
    · exact quiet_pure _
    · exact quiet_throw _

theorem inform_quiet (target : ShowTarget) : Quiet (inform target) := by
  unfold inform
  apply quiet_get.bind
  intro state
  cases target <;> exact (quiet_lift _).bind fun value => quiet_pure _

theorem findKeyspace_quiet (name : String) : Quiet (findKeyspace name) := by
  unfold findKeyspace
  apply quiet_get.bind
  intro state
  exact (quiet_lift _).bind fun keyspaces => quiet_pure _

theorem existingKeyspace_quiet (name : String) : Quiet (existingKeyspace name) := by
  unfold existingKeyspace
  apply (findKeyspace_quiet name).bind
  intro found
  split
  · exact quiet_pure _
  · exact quiet_throw _

/-! ### Commands on data -/

theorem setColumn_commits (moment : Moment) (address : Address) (value : Literal)
    (ttl : Option Int) : Commits (setColumn moment address value ttl) Shown := by
  unfold setColumn
  apply quiet_get.bind_commits
  intro state
  apply (quiet_lift _).bind_commits
  intro resolver
  apply (quiet_draw _).bind_commits
  intro location
  apply (quiet_lift _).bind_commits
  intro column
  apply (quiet_draw _).bind_commits
  intro data
  apply (commits_call (Store.insertColumn_isolated _ _ _ _)).bind_sure
  intro inserted
  exact sure_pure (shown_of_lines fun _ => rfl)

theorem delete_commits (address : Address) : Commits (delete address) Shown := by
  unfold delete
  apply quiet_get.bind_commits
  intro state
  apply (quiet_lift _).bind_commits
  intro resolver
  apply (quiet_draw _).bind_commits
  intro location
  apply (commits_call (Store.removeColumn_isolated _)).bind_sure
  intro removed
  -- Only the text of the outcome depends on what was removed.
  split
  · exact sure_pure (shown_of_lines fun _ => rfl)
  · split <;> exact sure_pure (shown_of_lines fun _ => rfl)

theorem addToCounter_commits (address : Address) (delta : Int) {outcome : Outcome}
    (shown : Shown outcome) : Commits (addToCounter address delta outcome) Shown := by
  unfold addToCounter
  apply quiet_get.bind_commits
  intro state
  apply (quiet_lift _).bind_commits
  intro resolver
  apply (quiet_draw _).bind_commits
  intro location
  apply (quiet_lift _).bind_commits
  intro column
  apply (commits_call (Store.addToCounter_isolated _ _)).bind_sure
  intro changed
  exact sure_pure shown

theorem truncateFamily_commits (familyName : String) :
    Commits (truncateFamily familyName) Shown := by
  unfold truncateFamily
  apply quiet_get.bind_commits
  intro state
  apply (quiet_lift _).bind_commits
  intro keyspace
  apply (quiet_lift _).bind_commits
  intro family
  apply (commits_call (Store.truncate_isolated _)).bind_sure
  intro truncated
  exact sure_pure (shown_of_lines fun _ => rfl)

theorem assume_commits (familyName kindName validatorName : String) :
    Commits (assume familyName kindName validatorName) Shown := by
  unfold assume
  apply quiet_get.bind_commits
  intro state
  apply (quiet_lift _).bind_commits
  intro keyspace
  apply (quiet_lift _).bind_commits
  intro family
  apply (quiet_lift _).bind_commits
  intro kind
  apply (quiet_lift _).bind_commits
  intro validator
  apply ((sure_modifySession _).bind fun assumed => ?_).commits
  exact sure_pure (shown_of_lines fun _ => rfl)

/-! ### Commands on the schema -/

/-- A call that changes the schema, with its version as the outcome. -/
theorem schemaChange_commits {change : Store.Call String} (isolated : change.Isolated) :
    Commits (do return Outcome.schemaChanged (← call change)) Shown :=
  (commits_call isolated).bind_sure fun _ => sure_pure (shown_of_lines fun _ => rfl)

theorem useKeyspace_commits (name : String) : Commits (useKeyspace name) Shown := by
  unfold useKeyspace
  apply (findKeyspace_quiet name).bind_commits
  intro found
  cases found with
  | none => exact (quiet_throw _).commits
  | some keyspace =>
    apply (commits_call (Store.selectKeyspace_isolated _)).bind_sure
    intro selected
    apply (sure_modifySession _).bind
    intro used
    exact sure_pure (shown_of_lines fun _ => rfl)

theorem createKeyspace_commits (name : String) (attributes : Attributes) :
    Commits (createKeyspace name attributes) Shown := by
  unfold createKeyspace
  apply (findKeyspace_quiet name).bind_commits
  intro found
  -- A name that is taken is refused before the attributes are looked at.
  dsimp only
  split
  · exact (quiet_throw_bind _ _).commits
  · exact (quiet_lift _).bind_commits fun keyspace =>
      schemaChange_commits (Store.createKeyspace_isolated keyspace)

theorem updateKeyspace_commits (name : String) (attributes : Attributes) :
    Commits (updateKeyspace name attributes) Shown := by
  unfold updateKeyspace
  apply (existingKeyspace_quiet name).bind_commits
  intro keyspace
  apply (quiet_lift _).bind_commits
  intro updated
  exact schemaChange_commits (Store.updateKeyspace_isolated updated)

theorem dropKeyspace_commits (name : String) : Commits (dropKeyspace name) Shown := by
  unfold dropKeyspace
  apply (existingKeyspace_quiet name).bind_commits
  intro keyspace
  apply (commits_call (Store.dropKeyspace_isolated _)).bind_sure
  intro version
  -- The store has changed by now, but leaving the keyspace cannot fail.
  apply (sure_modifySession _).bind
  intro left
  exact sure_pure (shown_of_lines fun _ => rfl)

theorem createFamily_commits (name : String) (attributes : Attributes) :
    Commits (createFamily name attributes) Shown := by
  unfold createFamily
  apply quiet_get.bind_commits
  intro state
  apply (quiet_lift _).bind_commits
  intro keyspace
  dsimp only
  split
  · exact (quiet_throw_bind _ _).commits
  · exact (quiet_draw _).bind_commits fun family =>
      schemaChange_commits (Store.createFamily_isolated family)

theorem updateFamily_commits (name : String) (attributes : Attributes) :
    Commits (updateFamily name attributes) Shown := by
  unfold updateFamily
  apply quiet_get.bind_commits
  intro state
  apply (quiet_lift _).bind_commits
  intro keyspace
  apply (quiet_lift _).bind_commits
  intro family
  apply (quiet_draw _).bind_commits
  intro updated
  exact schemaChange_commits (Store.updateFamily_isolated updated)

theorem dropFamily_commits (name : String) : Commits (dropFamily name) Shown := by
  unfold dropFamily
  apply quiet_get.bind_commits
  intro state
  apply (quiet_lift _).bind_commits
  intro keyspace
  apply (quiet_lift _).bind_commits
  intro family
  exact schemaChange_commits (Store.dropFamily_isolated family.name)

theorem dropIndex_commits (familyName : String) (column : Literal) :
    Commits (dropIndex familyName column) Shown := by
  unfold dropIndex
  apply quiet_get.bind_commits
  intro state
  apply (quiet_lift _).bind_commits
  intro resolver
  apply (quiet_draw _).bind_commits
  intro name
  dsimp only
  split
  · exact schemaChange_commits (Store.dropIndex_isolated _ _)
  · exact (quiet_throw_bind _ _).commits

/-! ### All commands -/

theorem close_commits : Commits close Shown :=
  Sure.commits fun _ _ => ⟨.ended, rfl, shown_of_lines fun _ => rfl⟩

theorem executeInKeyspace_commits (moment : Moment) (command : Command) :
    Commits (executeInKeyspace moment command) Shown := by
  unfold executeInKeyspace
  apply quiet_get.bind_commits
  intro state
  apply (quiet_lift _).bind_commits
  intro keyspace
  cases command with
  | createFamily name attributes => exact createFamily_commits name attributes
  | updateFamily name attributes => exact updateFamily_commits name attributes
  | dropFamily name => exact dropFamily_commits name
  | dropIndex family column => exact dropIndex_commits family column
  | assume family kind validator => exact assume_commits family kind validator
  | set address value ttl => exact setColumn_commits moment address value ttl
  | get address validator limit => exact (getAddress_quiet moment address validator limit).commits
  | getWhere family conditions limit =>
    exact (getMatching_quiet moment family conditions limit).commits
  | del address => exact delete_commits address
  | incr address amount => exact addToCounter_commits address amount (shown_of_lines fun _ => rfl)
  | decr address amount => exact addToCounter_commits address _ (shown_of_lines fun _ => rfl)
  | count address => exact (countEntries_quiet moment address).commits
  | list family start stop limit => exact (listRows_quiet moment family start stop limit).commits
  | truncate family => exact truncateFamily_commits family
  -- All other commands are executed without a keyspace in use.
  | _ => exact (quiet_throw _).commits

/-- Every command but connecting commits, with an outcome that can be shown. -/
theorem execute_commits (moment : Moment) (command : Command)
    (noConnect : ∀ host port, command ≠ .connect host port) :
    Commits (execute moment command) Shown := by
  -- All commands but three need a connection.
  have connected {action : Action Outcome} (commits : Commits action Shown) :
      Commits (do (← get).requireConnected; action) Shown := by
    apply quiet_get.bind_commits
    intro state
    exact (quiet_lift _).bind_commits fun found => commits
  cases command with
  | help topic => exact (quiet_lift _).commits
  | connect host port => exact absurd rfl (noConnect host port)
  | exit => exact close_commits
  | use keyspace => exact connected (useKeyspace_commits keyspace)
  | createKeyspace name attributes => exact connected (createKeyspace_commits name attributes)
  | updateKeyspace name attributes => exact connected (updateKeyspace_commits name attributes)
  | dropKeyspace name => exact connected (dropKeyspace_commits name)
  | describe target => exact connected (describe_quiet target).commits
  | «show» target => exact connected (inform_quiet target).commits
  | _ => exact connected (executeInKeyspace_commits moment _)

end WideColumn.Action

namespace WideColumn.State

variable {state : State} {moment : Moment} {newline statement : String} {supply : Supply}

theorem answer_of_refused {cause : Failure} (refused : Command.parse statement = .error cause) :
    state.answer moment newline statement supply =
      ((.ofResult newline (.error cause), state), supply) := by
  rw [answer, refused]
  rfl

theorem answer_of_parsed {command : Command} (parsed : Command.parse statement = .ok command) :
    state.answer moment newline statement supply =
      match Action.execute moment command state supply with
      | ((result, after), left) => ((.ofResult newline result, after), left) := by
  rw [answer, parsed]
  rfl

/-- A statement that was answered with success was executed. -/
theorem execute_of_isSuccess {command : Command} (parsed : Command.parse statement = .ok command)
    (succeeded : (state.answer moment newline statement supply).1.1.isSuccess = true) :
    ∃ outcome after left, Action.execute moment command state supply =
        ((.ok outcome, after), left) ∧
      (state.answer moment newline statement supply).1.2 = after := by
  rw [answer_of_parsed parsed] at succeeded ⊢
  cases run : Action.execute moment command state supply with
  | mk pair left =>
    obtain ⟨result, after⟩ := pair
    rw [run] at succeeded
    cases result with
    | error cause => cases succeeded
    | ok outcome => exact ⟨outcome, after, left, rfl, rfl⟩

/-- A statement that fails and does not connect leaves the session and the store as they were. -/
theorem answer_failure {cause : Failure} {text : String}
    (noConnect : ∀ host port, Command.parse statement ≠ .ok (.connect host port))
    (failed : (state.answer moment newline statement supply).1.1 = .failure cause text) :
    (state.answer moment newline statement supply).1.2 = state := by
  cases parsed : Command.parse statement with
  | error refusal => rw [answer_of_refused parsed]
  | ok command =>
    rw [answer_of_parsed parsed] at failed ⊢
    have commits := Action.execute_commits moment command
      (fun host port same => noConnect host port (parsed.trans (congrArg Except.ok same)))
      state supply
    cases run : Action.execute moment command state supply with
    | mk pair left =>
      obtain ⟨result, after⟩ := pair
      rw [run] at commits failed
      rcases commits with same | ⟨outcome, ok, shown⟩
      · exact same
      · -- An outcome that changed the state can be shown, so there was no failure.
        obtain ⟨shownText, displayed⟩ := shown newline
        cases ok
        simp only [Reply.ofResult, displayed] at failed
        cases failed

/-- Dropping a keyspace that does not exist leaves the one in use and the connection. -/
theorem answer_failure_drop :
    let state : State :=
      { session := { keyspace := some "system" }
        store := { connection := .opened (some "system") } }
    let answered := state.answer { now := 0 } "\n" "drop keyspace k;" ⟨id, id, 0, 0⟩
    (∃ text, answered.1.1 = .failure (.schema (.keyspaceNotFound "k")) text) ∧
      answered.1.2 = state := by
  intro state answered
  have parsed : Command.parse "drop keyspace k;" = .ok (.dropKeyspace "k") := by rfl
  have noConnect : ∀ host port,
      Command.parse "drop keyspace k;" ≠ .ok (.connect host port) := by
    intro host port same
    rw [parsed] at same
    cases same
  have failed : ∃ text, answered.1.1 = .failure (.schema (.keyspaceNotFound "k")) text :=
    ⟨_, rfl⟩
  obtain ⟨text, failure⟩ := failed
  exact ⟨⟨text, failure⟩, answer_failure noConnect failure⟩

end WideColumn.State
