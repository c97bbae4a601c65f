import WideColumn.Proofs.Grammar.Exactness
import WideColumn.Proofs.Session.Commands
import WideColumn.Proofs.Session.Isolation
import WideColumn.Proofs.Store.Confinement

/-!
# Sessions agree with their store

A session and its store each remember which keyspace is in use. Commands that change one memory
change the other in step (`Coherent`), so in every state that statements lead to (`Reachable`) the two
are the same, an existing keyspace is in use or none, and nothing is remembered without a
connection. What a statement needs is therefore missing in both or in neither, and a statement that
lacks it is refused.
-/

namespace WideColumn

/-! ### What commands need -/

/-- Whether a command needs a connection: all but those for help, connecting and ending do. -/
def Command.needsConnection : Command → Bool
  | help _ => false
  | connect _ _ => false
  | exit => false
  | _ => true

/-- Whether a command needs a keyspace in use: those on data, on assumptions and on column
families. -/
def Command.needsKeyspace : Command → Bool
  | createFamily _ _ => true
  | updateFamily _ _ => true
  | dropFamily _ => true
  | dropIndex _ _ => true
  | assume _ _ _ => true
  | set _ _ _ => true
  | get _ _ _ => true
  | getWhere _ _ _ => true
  | del _ => true
  | incr _ _ => true
  | decr _ _ => true
  | count _ => true
  | list _ _ _ _ => true
  | truncate _ => true
  | _ => false

/-- A failure to read a statement, or one of the state that it finds. -/
def Failure.IsParseOrState : Failure → Prop
  | parse _ => True
  | state _ => True
  | _ => False

theorem Action.Quiet.eq_of_ok {α : Type} {action : Action α} {state after : State}
    {supply left : Supply} {value : α} (quiet : action.Quiet)
    (run : action state supply = ((.ok value, after), left)) : state = after := by
  have same := quiet state supply
  rw [run] at same
  exact same.symm

namespace State

/-- Whether the session and the store agree: on the keyspace in use, which exists, and on nothing
being in use without a connection. -/
structure Coherent (state : State) : Prop where
  selected : state.session.keyspace = state.store.selected?
  defined : ∀ name, state.session.keyspace = some name →
    name ∈ state.store.keyspaces.map Keyspace.name
  closed : state.store.isConnected = false → state.session.assumptions = .empty
  distinct : Keyspace.DistinctNames state.store.keyspaces

/-- Whether a command fits the state that a session finds: column families are updated only in the
keyspace that is selected. -/
def Fits (state : State) (command : Command) : Prop :=
  ∀ name attributes, command = .updateFamily name attributes →
    state.session.keyspace = state.store.selected?

variable {state after : State} {moment : Moment} {supply left : Supply}

theorem Coherent.fits (coherent : Coherent state) (command : Command) : Fits state command :=
  fun _ _ _ => coherent.selected

/-! ### The keyspace in use -/

theorem keyspace_of_requireKeyspace {name : String} (required : state.requireKeyspace = .ok name) :
    state.session.keyspace = some name := by
  obtain ⟨_, -, found⟩ := bind_eq_ok.1 required
  split at found
  · rename_i keyspace chosen
    cases found
    exact chosen
  · cases found

/-- The definition of the keyspace in use is found by its name in any letter case. -/
theorem find?_of_keyspace {keyspace : Keyspace} (inUse : state.keyspace = .ok keyspace) :
    ∃ name, state.session.keyspace = some name ∧
      Keyspace.find? state.store.keyspaces name = some keyspace := by
  obtain ⟨name, required, inUse⟩ := bind_eq_ok.1 inUse
  obtain ⟨described, run, found⟩ := bind_eq_ok.1 inUse
  obtain ⟨_, -, same⟩ := bind_eq_ok.1 run
  cases same
  refine ⟨name, keyspace_of_requireKeyspace required, ?_⟩
  split at found
  · rename_i other known
    cases found
    exact known
  · cases found

/-- In the selected keyspace a session finds the definition in which the store works. -/
theorem keyspace_eq_current (filed : Keyspace.WellFiled state.store.keyspaces)
    (selects : state.session.keyspace = state.store.selected?) {keyspace current : Keyspace}
    (inUse : state.keyspace = .ok keyspace) (works : state.store.currentKeyspace = .ok current) :
    keyspace = current := by
  obtain ⟨name, own, found⟩ := find?_of_keyspace inUse
  obtain ⟨selected, mem⟩ := Store.of_currentKeyspace works
  obtain rfl : name = current.name := Option.some.inj (own.symm.trans (selects.trans selected))
  exact Option.some.inj (found.symm.trans (filed.distinct.find? mem rfl))

/-! ### Commands keep sessions and stores in agreement -/

/-- What matters is the keyspace in use, the outline of the store, and whether there are
assumptions without a connection. -/
theorem Coherent.of_sameOutline (coherent : Coherent state)
    (keyspace : after.session.keyspace = state.session.keyspace)
    (assumptions : after.store.isConnected = false →
      after.session.assumptions = state.session.assumptions)
    (same : Store.SameOutline state.store after.store) : Coherent after where
  selected := by rw [keyspace, same.selected?, coherent.selected]
  defined name inUse := by
    rw [same.names]
    exact coherent.defined name (keyspace ▸ inUse)
  closed notConnected := by
    rw [assumptions notConnected]
    exact coherent.closed (same.isConnected ▸ notConnected)
  distinct := same.distinctNames coherent.distinct

/-- A call on the store that keeps its outline. -/
theorem Coherent.call (coherent : Coherent state) {store : Store}
    (same : Store.SameOutline state.store store) : Coherent { state with store } :=
  coherent.of_sameOutline rfl (fun _ => rfl) same

theorem Coherent.connect (coherent : Coherent state) (host : String) (port : Int) :
    Coherent (state.connect moment host port).2 := by
  unfold State.connect
  split
  · exact ⟨rfl, nofun, nofun, coherent.distinct⟩
  · exact ⟨rfl, nofun, fun _ => rfl, coherent.distinct⟩

theorem Coherent.close (coherent : Coherent state) : Coherent state.close :=
  ⟨rfl, nofun, fun _ => rfl, coherent.distinct⟩

/-- Both take the same keyspace into use: whether it is looked for in the order of names or in the
order of creation, the names are distinct. -/
theorem Coherent.useKeyspace (coherent : Coherent state) {name : String} {outcome : Outcome}
    (run : Action.useKeyspace name state supply = ((.ok outcome, after), left)) : Coherent after := by
  obtain ⟨keyspaces, keyspace, store, described, found, called, rfl, -⟩ := Action.useKeyspace_ok run
  obtain ⟨connected, selected, again, rfl⟩ := Store.selectKeyspace_ok called
  have mem : keyspace ∈ state.store.keyspaces :=
    (Store.describeSchema_perm described).mem_iff.1 (Keyspace.mem_of_find? found)
  obtain rfl : keyspace = selected :=
    Option.some.inj ((coherent.distinct.find? mem rfl).symm.trans again)
  refine ⟨rfl, ?_, nofun, coherent.distinct⟩
  rintro _ ⟨⟩
  exact List.mem_map_of_mem mem

theorem Coherent.createKeyspace (coherent : Coherent state) {name : String}
    {attributes : Attributes} {outcome : Outcome}
    (run : Action.createKeyspace name attributes state supply = ((.ok outcome, after), left)) :
    Coherent after := by
  obtain ⟨keyspace, version, store, -, called, rfl⟩ := Action.createKeyspace_ok run
  obtain ⟨free, rfl⟩ := Store.createKeyspace_ok called
  refine ⟨coherent.selected, fun name inUse => ?_, coherent.closed, coherent.distinct.concat free⟩
  show name ∈ (state.store.keyspaces ++ [_]).map Keyspace.name
  rw [List.map_append]
  exact List.mem_append_left _ (coherent.defined name inUse)

/-- Dropping the keyspace in use leaves none in use, on either side. -/
theorem Coherent.dropKeyspace (coherent : Coherent state) {name : String} {outcome : Outcome}
    (run : Action.dropKeyspace name state supply = ((.ok outcome, after), left)) :
    Coherent after := by
  obtain ⟨keyspaces, keyspace, version, store, -, -, called, rfl⟩ := Action.dropKeyspace_ok run
  have selected := Store.dropKeyspace_selected? called
  rw [← coherent.selected] at selected
  have distinct : Keyspace.DistinctNames store.keyspaces := by
    obtain rfl := Store.dropKeyspace_ok called
    exact coherent.distinct.filter _
  by_cases inUse : state.session.keyspace = some keyspace.name
  · rw [if_pos inUse] at selected ⊢
    exact ⟨selected.symm, nofun,
      fun notConnected => coherent.closed (Store.dropKeyspace_isConnected called ▸ notConnected),
      distinct⟩
  · rw [if_neg inUse] at selected ⊢
    refine ⟨selected.symm, fun other used => ?_,
      fun notConnected => coherent.closed (Store.dropKeyspace_isConnected called ▸ notConnected),
      distinct⟩
    -- The keyspace in use is not the dropped one.
    obtain ⟨kept, mem, rfl⟩ := List.mem_map.1 (coherent.defined other used)
    refine List.mem_map_of_mem ((Store.mem_keyspaces_dropKeyspace called).2 ⟨mem, fun same => ?_⟩)
    exact inUse (same ▸ used)

/-- A keyspace in use means a connection. -/
theorem isConnected_of_keyspace {keyspace : Keyspace} (inUse : state.keyspace = .ok keyspace) :
    state.store.isConnected = true := by
  obtain ⟨name, required, -⟩ := bind_eq_ok.1 inUse
  obtain ⟨_, connected, -⟩ := bind_eq_ok.1 required
  unfold State.requireConnected at connected
  split at connected
  · assumption
  · cases connected

theorem Coherent.addToCounter (coherent : Coherent state) {address : Address} {delta : Int}
    {given outcome : Outcome}
    (run : Action.addToCounter address delta given state supply = ((.ok outcome, after), left)) :
    Coherent after := by
  obtain ⟨_, _, _, _, -, -, -, called, rfl, -⟩ := Action.addToCounter_ok run
  obtain ⟨_, family, _, rows, -, -, -, -, -, -, rfl⟩ := Store.addToCounter_ok called
  exact coherent.call (Store.sameOutline_withRows family rows)

/-- Assumptions are made in a keyspace in use only. -/
theorem Coherent.assume (coherent : Coherent state) {name kind validator : String}
    {outcome : Outcome}
    (run : Action.assume name kind validator state supply = ((.ok outcome, after), left)) :
    Coherent after := by
  obtain ⟨keyspace, family, _, _, inUse, -, -, -, rfl⟩ := Action.assume_ok run
  refine coherent.of_sameOutline rfl (fun notConnected => ?_) (.refl _)
  have connected := isConnected_of_keyspace inUse
  rw [connected] at notConnected
  cases notConnected

theorem Coherent.executeInKeyspace (coherent : Coherent state) {command : Command}
    {outcome : Outcome}
    (run : Action.executeInKeyspace moment command state supply = ((.ok outcome, after), left)) :
    Coherent after := by
  obtain ⟨keyspace, inUse, run⟩ := Action.lift_bind_eq_ok.1 (Action.get_bind_eq_ok.1 run)
  cases command with
  | createFamily name attributes =>
    obtain ⟨_, _, _, _, -, -, -, called, rfl⟩ := Action.createFamily_ok run
    exact coherent.call (Store.createFamily_sameOutline called)
  | updateFamily name attributes =>
    obtain ⟨_, _, _, _, _, -, -, -, called, rfl⟩ := Action.updateFamily_ok run
    exact coherent.call (Store.updateFamily_sameOutline called)
  | dropFamily name =>
    obtain ⟨_, _, _, _, -, -, called, rfl⟩ := Action.dropFamily_ok run
    exact coherent.call (Store.dropFamily_sameOutline called)
  | dropIndex family column =>
    obtain ⟨_, _, _, _, -, -, called, rfl⟩ := Action.dropIndex_ok run
    exact coherent.call (Store.dropIndex_sameOutline called)
  | assume family kind validator => exact coherent.assume run
  | set address value ttl =>
    obtain ⟨_, _, _, _, _, _, -, -, -, -, called, rfl, -⟩ := Action.setColumn_ok run
    obtain ⟨_, family, rows, -, -, -, -, -, -, rfl⟩ := Store.insertColumn_ok called
    exact coherent.call (Store.sameOutline_withRows family rows)
  | get address validator limit =>
    exact (Action.getAddress_quiet moment address validator limit).eq_of_ok run ▸ coherent
  | getWhere family conditions limit =>
    exact (Action.getMatching_quiet moment family conditions limit).eq_of_ok run ▸ coherent
  | del address =>
    obtain ⟨_, _, _, -, -, called, rfl⟩ := Action.delete_ok run
    obtain ⟨family, rows, -, -, rfl⟩ := Store.removeColumn_ok called
    exact coherent.call (Store.sameOutline_withRows family rows)
  | incr address amount => exact coherent.addToCounter run
  | decr address amount => exact coherent.addToCounter run
  | count address => exact (Action.countEntries_quiet moment address).eq_of_ok run ▸ coherent
  | list family start stop limit =>
    exact (Action.listRows_quiet moment family start stop limit).eq_of_ok run ▸ coherent
  | truncate family =>
    obtain ⟨_, _, _, -, -, called, rfl, -⟩ := Action.truncateFamily_ok run
    obtain ⟨family, -, rfl⟩ := Store.truncate_ok called
    exact coherent.call (Store.sameOutline_withRows family .empty)
  -- All other commands are executed without a keyspace in use.
  | _ => cases run

/-- The state after connecting, whether the host accepted or not. -/
theorem connect_state (host : String) (port : Int) :
    (Action.connect moment host port state supply).1.2 = (state.connect moment host port).2 := by
  cases accepting : moment.accepting with
  | true =>
    simp only [Action.connect, State.connect, accepting, if_true]
    rfl
  | false =>
    simp only [Action.connect, State.connect, accepting, Bool.false_eq_true, if_false]
    rfl

/-- What a command that needs a connection does, it does behind the check for one. -/
theorem requireConnected_bind_eq_ok {action : Action Outcome} {outcome : Outcome} :
    (do (← get).requireConnected; action : Action Outcome) state supply =
        ((.ok outcome, after), left) ↔
      state.requireConnected = .ok () ∧ action state supply = ((.ok outcome, after), left) := by
  refine (Action.get_bind_eq_ok.trans Action.lift_bind_eq_ok).trans ⟨?_, ?_⟩
  · rintro ⟨_, checked, run⟩
    exact ⟨checked, run⟩
  · rintro ⟨checked, run⟩
    exact ⟨(), checked, run⟩

theorem requireConnected_bind_ok {action : Action Outcome} {outcome : Outcome}
    (run : (do (← get).requireConnected; action : Action Outcome) state supply =
      ((.ok outcome, after), left)) : action state supply = ((.ok outcome, after), left) :=
  (requireConnected_bind_eq_ok.1 run).2

/-- What a command that needs a keyspace does, it does behind the check for one as well. -/
theorem requireKeyspace_bind_eq_ok {action : Action Outcome} {outcome : Outcome} :
    (do
        (← get).requireConnected
        let _ ← (← get).requireKeyspace
        action : Action Outcome) state supply = ((.ok outcome, after), left) ↔
      (∃ keyspace, state.requireKeyspace = .ok keyspace) ∧
        action state supply = ((.ok outcome, after), left) := by
  refine requireConnected_bind_eq_ok.trans
    ((and_congr_right fun _ => Action.get_bind_eq_ok.trans Action.lift_bind_eq_ok).trans ⟨?_, ?_⟩)
  · rintro ⟨-, keyspace, required, run⟩
    exact ⟨⟨keyspace, required⟩, run⟩
  · rintro ⟨⟨keyspace, required⟩, run⟩
    obtain ⟨_, checked, -⟩ := bind_eq_ok.1 required
    exact ⟨checked, keyspace, required, run⟩

theorem requireKeyspace_bind_ok {action : Action Outcome} {outcome : Outcome}
    (run : (do
        (← get).requireConnected
        let _ ← (← get).requireKeyspace
        action : Action Outcome) state supply = ((.ok outcome, after), left)) :
    action state supply = ((.ok outcome, after), left) :=
  (requireKeyspace_bind_eq_ok.1 run).2

theorem Coherent.execute_ok (coherent : Coherent state) {command : Command} {outcome : Outcome}
    (noConnect : ∀ host port, command ≠ .connect host port)
    (run : Action.execute moment command state supply = ((.ok outcome, after), left)) :
    Coherent after := by
  cases command with
  | help topic =>
    exact (Action.quiet_lift (Action.help topic)).eq_of_ok run ▸ coherent
  | connect host port => exact absurd rfl (noConnect host port)
  | exit =>
    cases run
    exact coherent.close
  | use name => exact coherent.useKeyspace (requireConnected_bind_ok run)
  | createKeyspace name attributes => exact coherent.createKeyspace (requireConnected_bind_ok run)
  | updateKeyspace name attributes =>
    obtain ⟨_, _, _, _, _, -, -, -, called, rfl⟩ :=
      Action.updateKeyspace_ok (requireConnected_bind_ok run)
    exact coherent.call (Store.updateKeyspace_sameOutline called)
  | dropKeyspace name => exact coherent.dropKeyspace (requireConnected_bind_ok run)
  | describe target =>
    exact (Action.describe_quiet target).eq_of_ok (requireConnected_bind_ok run) ▸ coherent
  | «show» target =>
    exact (Action.inform_quiet target).eq_of_ok (requireConnected_bind_ok run) ▸ coherent
  | _ => exact coherent.executeInKeyspace (requireConnected_bind_ok run)

/-- What holds of a state holds after a statement if it is kept by connecting, whether the host accepts
or not, and by every other command that succeeds. -/
theorem answer_keeps {motive : State → Prop} {newline statement : String} (before : motive state)
    (connects : ∀ host port, motive (state.connect moment host port).2)
    (succeeds : ∀ command outcome after left, Command.parse statement = .ok command →
      (∀ host port, command ≠ .connect host port) →
      Action.execute moment command state supply = ((.ok outcome, after), left) → motive after) :
    motive (state.answer moment newline statement supply).1.2 := by
  cases parsed : Command.parse statement with
  | error cause =>
    rw [answer_of_refused parsed]
    exact before
  | ok command =>
    rw [answer_of_parsed parsed]
    show motive (Action.execute moment command state supply).1.2
    by_cases connecting : ∃ host port, command = .connect host port
    · obtain ⟨host, port, rfl⟩ := connecting
      rw [show (Action.execute moment (.connect host port) state supply).1.2 =
        (state.connect moment host port).2 from connect_state host port]
      exact connects host port
    · have noConnect : ∀ host port, command ≠ .connect host port :=
        fun host port same => connecting ⟨host, port, same⟩
      rcases Action.execute_commits moment command noConnect state supply with same | success
      · rw [same]
        exact before
      · obtain ⟨outcome, ok, -⟩ := success
        cases run : Action.execute moment command state supply with
        | mk pair left =>
          obtain ⟨result, after⟩ := pair
          rw [run] at ok
          obtain rfl : result = .ok outcome := ok
          exact succeeds command outcome after left parsed noConnect run

/-- A statement keeps a session and its store in agreement. -/
theorem Coherent.answer (coherent : Coherent state) (newline statement : String) :
    Coherent (state.answer moment newline statement supply).1.2 :=
  answer_keeps coherent (fun host port => coherent.connect host port)
    fun _ _ _ _ _ noConnect run => coherent.execute_ok noConnect run

/-! ### What is missing -/

/-- Without a connection nothing that needs one is executed. -/
theorem execute_of_not_isConnected {command : Command} (needs : command.needsConnection = true)
    (notConnected : state.store.isConnected = false) :
    Action.execute moment command state supply = ((.error (.state .notConnected), state), supply) := by
  have required : state.requireConnected = .error (.state .notConnected) := by
    rw [requireConnected, notConnected]
    rfl
  have refused (action : Action Outcome) :
      (do (← get).requireConnected; action : Action Outcome) state supply =
        ((.error (.state .notConnected), state), supply) := by
    show ((liftM state.requireConnected : Action Unit) >>= fun _ => action) state supply = _
    rw [required]
    rfl
  cases command with
  | help topic => cases needs
  | connect host port => cases needs
  | exit => cases needs
  | _ => exact refused _

/-- Without a keyspace in use nothing that needs one is executed. -/
theorem execute_of_noKeyspace {command : Command} (needs : command.needsKeyspace = true)
    (noKeyspace : state.session.keyspace = none) :
    ∃ cause, Action.execute moment command state supply =
      ((.error (.state cause), state), supply) := by
  cases connected : state.store.isConnected with
  | false =>
    refine ⟨_, execute_of_not_isConnected ?_ connected⟩
    cases command <;> first | rfl | cases needs
  | true =>
    refine ⟨.noKeyspace, ?_⟩
    have required : state.requireConnected = .ok () := by
      rw [requireConnected, connected]
      rfl
    have missing : state.requireKeyspace = .error (.state .noKeyspace) := by
      rw [requireKeyspace, required, noKeyspace]
      rfl
    have refused : (do (← get).requireConnected; Action.executeInKeyspace moment command :
        Action Outcome) state supply = ((.error (.state .noKeyspace), state), supply) := by
      show ((liftM state.requireConnected : Action Unit) >>= fun _ =>
        Action.executeInKeyspace moment command) state supply = _
      rw [required]
      show ((liftM state.requireKeyspace : Action String) >>= _) state supply = _
      rw [missing]
      rfl
    cases command <;> first | exact refused | cases needs

/-! ### All states -/

/-- The states that statements lead to from a new store, whether or not it is connected to at first.
The host may refuse connections at any time. -/
inductive Reachable : State → Prop where
  | unconnected (clusterName : String) : Reachable { store := { clusterName } }
  | connected (clusterName : String) : Reachable { store := Store.connect { clusterName } }
  | answered {state : State} (reachable : Reachable state) (moment : Moment)
      (newline statement : String) (supply : Supply) :
      Reachable (state.answer moment newline statement supply).1.2

theorem Reachable.coherent (reachable : Reachable state) : Coherent state := by
  have system : Keyspace.DistinctNames [systemKeyspace] := List.pairwise_singleton _ _
  induction reachable with
  | unconnected clusterName => exact ⟨rfl, nofun, fun _ => rfl, system⟩
  | connected clusterName => exact ⟨rfl, nofun, fun _ => rfl, system⟩
  | answered reachable moment newline statement supply ih => exact ih.answer newline statement

/-- In every reachable state the session and the store have the same keyspace in use, which exists;
without a connection there is none, and there are no assumptions. A statement that needs what is
missing is refused for this reason, if it can be read at all. -/
theorem reachable_coherent (reachable : Reachable state) :
    state.session.keyspace = state.store.selected? ∧
      (∀ name, state.session.keyspace = some name →
        ∃ keyspace ∈ state.store.keyspaces, keyspace.name = name) ∧
      (state.store.isConnected = false →
        state.session.keyspace = none ∧ state.session.assumptions = .empty) ∧
      ∀ moment newline statement supply,
        (state.store.isConnected = false ∧
            (∀ command, Command.parse statement = .ok command → command.needsConnection = true) ∨
          state.session.keyspace = none ∧
            ∀ command, Command.parse statement = .ok command → command.needsKeyspace = true) →
        ∃ cause text, (state.answer moment newline statement supply).1 =
          (.failure cause text, state) ∧ cause.IsParseOrState := by
  have coherent := reachable.coherent
  refine ⟨coherent.selected, fun name inUse => List.mem_map.1 (coherent.defined name inUse),
    fun notConnected => ⟨?_, coherent.closed notConnected⟩,
    fun moment newline statement supply lacks => ?_⟩
  · rw [coherent.selected]
    by_contra selected
    obtain ⟨name, chosen⟩ := Option.ne_none_iff_exists'.1 selected
    rw [Store.isConnected_of_selected chosen] at notConnected
    cases notConnected
  · cases parsed : Command.parse statement with
    | error refusal =>
      obtain ⟨cause, failed⟩ := Command.parse_failure statement (by simp [parsed])
      refine ⟨.parse cause, _, congrArg Prod.fst (answer_of_refused failed), trivial⟩
    | ok command =>
      rw [answer_of_parsed parsed]
      rcases lacks with ⟨notConnected, needs⟩ | ⟨noKeyspace, needs⟩
      · rw [execute_of_not_isConnected (needs command parsed) notConnected]
        exact ⟨.state .notConnected, _, rfl, trivial⟩
      · obtain ⟨cause, refused⟩ : ∃ cause, Action.execute moment command state supply =
            ((.error (.state cause), state), supply) :=
          execute_of_noKeyspace (needs command parsed) noKeyspace
        rw [refused]
        exact ⟨.state cause, _, rfl, trivial⟩

/-- The keyspace in use is dropped under a name in other letters, and then there is none to list
rows from. -/
theorem reachable_coherent_drop :
    let next (state : State) (statement : String) : State :=
      (state.answer { now := 0 } "\n" statement ⟨id, id, 0, 0⟩).1.2
    let used := next { store := Store.connect { clusterName := "c" } } "use SYSTEM;"
    let dropped := next used "drop keyspace System;"
    used.session.keyspace = some "system" ∧ used.session.keyspace = used.store.selected? ∧
      dropped.session.keyspace = none ∧ dropped.session.keyspace = dropped.store.selected? ∧
      ∃ cause text, (dropped.answer { now := 0 } "\n" "list f;" ⟨id, id, 0, 0⟩).1 =
        (.failure cause text, dropped) ∧ cause.IsParseOrState := by
  intro next used dropped
  have reachable : Reachable used := (Reachable.connected "c").answered _ _ _ _
  have later : Reachable dropped := reachable.answered _ _ _ _
  have inUse : used.session.keyspace = some "system" := by rfl
  have noKeyspace : dropped.session.keyspace = none := by rfl
  have parsed : Command.parse "list f;" = .ok (.list "f" none none none) := by rfl
  refine ⟨inUse, (reachable_coherent reachable).1, noKeyspace, (reachable_coherent later).1,
    (reachable_coherent later).2.2.2 _ _ _ _ (.inr ⟨noKeyspace, fun command same => ?_⟩)⟩
  rw [parsed] at same
  cases same
  rfl

end State

end WideColumn
