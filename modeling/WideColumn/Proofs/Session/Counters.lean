import WideColumn.Proofs.Folding
import WideColumn.Proofs.Session.Guards
import WideColumn.Proofs.Store.Counters

/-!
# Counters over a run

As long as no update of a column family makes a counter of a column that holds a value, or the
other way round (`State.Steady`), every record on file is of the kind that its column asks for, and
a counter moves by the amounts of the increments and decrements of just its column, until it is
removed. The condition cannot be left out: nothing refuses such an update, and afterwards a column
that was counted can be set. What carries the proof is that a statement either fails and changes
nothing or makes one call on the store (`State.follows_after`).
-/

namespace WideColumn

open Store (Follows)

/-- A statement, and what it finds outside when it is answered. -/
structure Request where
  text : String
  moment : Moment
  newline : String
  supply : Supply

/-- The address that a command counts on, with the signed amount. -/
def Command.counted? : Command → Option (Address × Int)
  | incr address amount => some (address, amount)
  | decr address amount => some (address, -amount)
  | _ => none

/-- Whether a command, if it updates a column family, says nothing about the validation of
values. -/
def Command.leavesValidation : Command → Bool
  | updateFamily _ attributes =>
    "default_validation_class" ∉ attributes.keys ∧ "column_metadata" ∉ attributes.keys
  | _ => true

namespace State

/-! ### Runs -/

/-- The reply to a statement. -/
def reply (state : State) (request : Request) : Reply :=
  (state.answer request.moment request.newline request.text request.supply).1.1

/-- The state after a statement. -/
def after (state : State) (request : Request) : State :=
  (state.answer request.moment request.newline request.text request.supply).1.2

/-- The state after statements one after the other. -/
def afterAll (state : State) (requests : List Request) : State :=
  requests.foldl after state

/-- A session with a new store, connected to it or not. -/
def initial (clusterName : String) : Bool → State
  | true => { store := Store.connect { clusterName } }
  | false => { store := { clusterName } }

/-- The location that an address stands for, if there is one. -/
def locate? (state : State) (address : Address) (supply : Supply) : Option Location := do
  let resolver ← (state.resolver address.family).toOption
  (Action.locate resolver address supply).1.toOption

/-- By how much a command counts on a column if it succeeds. -/
def added (state : State) (supply : Supply) (command : Command) (keyspace : String)
    (place : Store.Place) : Int :=
  match command.counted? with
  | some (address, delta) =>
    if state.session.keyspace = some keyspace ∧
      state.locate? address supply = some place.location then delta else 0
  | none => 0

/-- By how much a statement counts on a column: an increment or a decrement that succeeds counts on
the column that its address stands for. -/
def addedBy (state : State) (request : Request) (keyspace : String) (place : Store.Place) : Int :=
  match Command.parse request.text with
  | .ok command =>
    if (state.reply request).isSuccess then state.added request.supply command keyspace place else 0
  | .error _ => 0

/-- By how much statements count on a column, one after the other. -/
def addedByAll (state : State) : List Request → String → Store.Place → Int
  | [], _, _ => 0
  | request :: rest, keyspace, place =>
    state.addedBy request keyspace place + (state.after request).addedByAll rest keyspace place

/-- Whether a command, if it updates a column family, leaves each column with a record a counter or
none, as it was. -/
def KeepsKinds (state : State) (supply : Supply) : Command → Prop
  | .updateFamily name attributes =>
    ∀ keyspace old updated left, state.keyspace = .ok keyspace → keyspace.family name = .ok old →
      old.withAttributes attributes supply = (.ok updated, left) →
      ∀ place record, place.family = old.name →
        state.store.records keyspace.name place = some record →
        Store.holdsCounter updated place.column = Store.holdsCounter old place.column
  | _ => True

/-- Whether a statement is no update of a column family that succeeds and makes a counter of a
column that has a value, or the other way round. -/
def Keeps (state : State) (request : Request) : Prop :=
  ∀ command, Command.parse request.text = .ok command → (state.reply request).isSuccess = true →
    state.KeepsKinds request.supply command

/-- Whether every statement of a run keeps the kinds of the columns with records. -/
def Steady (state : State) (requests : List Request) : Prop :=
  ∀ early request, early ++ [request] <+: requests → (state.afterAll early).Keeps request

variable {state after : State} {moment : Moment} {supply left : Supply} {outcome : Outcome}
  {request : Request} {keyspace : String} {place : Store.Place}

/-! ### Commands -/

theorem locate?_eq_some {address : Address} {resolver : Resolver} {location : Location}
    (resolved : state.resolver address.family = .ok resolver)
    (located : Action.locate resolver address supply = (.ok location, left)) :
    state.locate? address supply = some location := by
  rw [locate?, resolved]
  show (Action.locate resolver address supply).1.toOption = _
  rw [located]
  rfl

section Commands

variable (coherent : Coherent state) (sound : state.store.Sound)

include coherent sound

/-- A location that an address stands for is well placed in its column family. -/
theorem wellPlaced_of_locate {name : String} {resolver : Resolver} {address : Address}
    {location : Location} (resolved : state.resolver name = .ok resolver)
    (located : Action.locate resolver address supply = (.ok location, left)) :
    ∀ family, state.store.family location.family = .ok family →
      Store.Write.WellPlaced family location := by
  intro family found
  obtain ⟨named, shape⟩ := Action.locate_shape located
  have known := store_family_of_resolver coherent sound resolved
  rw [← named, found] at known
  cases known
  exact Store.wellPlaced_of_checkShape shape

variable (classified : state.store.Classified)

include classified

theorem follows_addToCounter {address : Address} {delta : Int} {given : Outcome}
    (run : Action.addToCounter address delta given state supply = ((.ok outcome, after), left)) :
    Follows (fun keyspace place => if state.session.keyspace = some keyspace ∧
        state.locate? address supply = some place.location then delta else 0)
      state.store after.store := by
  obtain ⟨resolver, location, column, store, resolved, located, -, called, rfl, -⟩ :=
    Action.addToCounter_ok run
  have found := locate?_eq_some resolved located
  have follows := classified.perform (.add location delta) sound
    (wellPlaced_of_locate coherent sound resolved located) called
  simpa only [found, coherent.selected, Option.some.injEq, Store.Write.added, ite_and] using follows

theorem follows_executeInKeyspace {command : Command} (keeps : state.KeepsKinds supply command)
    (run : Action.executeInKeyspace moment command state supply = ((.ok outcome, after), left)) :
    Follows (state.added supply command) state.store after.store := by
  have same : Follows (fun _ _ => 0) state.store state.store := classified.of_same rfl rfl
  obtain ⟨_, -, run⟩ := Action.lift_bind_eq_ok.1 (Action.get_bind_eq_ok.1 run)
  cases command with
  | createFamily name attributes =>
    obtain ⟨_, _, _, _, -, -, -, called, rfl⟩ := Action.createFamily_ok run
    exact classified.createFamily sound called
  | updateFamily name attributes =>
    obtain ⟨keyspace, old, family, _, _, inUse, found, applied, called, rfl⟩ :=
      Action.updateFamily_ok run
    have named : family.name = old.name := (ColumnFamily.comesFrom_of_withAttributes applied).1.name
    have known := store_family_of_family coherent sound inUse found
    exact classified.updateFamily sound (currentKeyspace_of_keyspace coherent inUse)
      (named ▸ known) (keeps keyspace old family left inUse found applied) called
  | dropFamily name =>
    obtain ⟨_, _, _, _, -, -, called, rfl⟩ := Action.dropFamily_ok run
    exact classified.dropFamily sound called
  | dropIndex family column =>
    obtain ⟨_, _, _, _, -, -, called, rfl⟩ := Action.dropIndex_ok run
    exact classified.dropIndex sound called
  | assume family kind validator =>
    obtain ⟨_, _, _, _, -, -, -, -, rfl⟩ := Action.assume_ok run
    exact same
  | set address value ttl =>
    obtain ⟨_, location, _, data, _, _, resolved, located, -, -, called, rfl, -⟩ :=
      Action.setColumn_ok run
    exact classified.perform_idle (.insert moment.now location data ttl) sound
      (wellPlaced_of_locate coherent sound resolved located) (fun _ => rfl) called
  | get address validator limit =>
    exact (Action.getAddress_quiet moment address validator limit).eq_of_ok run ▸ same
  | getWhere family conditions limit =>
    exact (Action.getMatching_quiet moment family conditions limit).eq_of_ok run ▸ same
  | del address =>
    obtain ⟨_, location, _, resolved, located, called, rfl⟩ := Action.delete_ok run
    exact classified.perform_idle (.remove location) sound
      (wellPlaced_of_locate coherent sound resolved located) (fun _ => rfl) called
  | incr address amount => exact follows_addToCounter coherent sound classified run
  | decr address amount => exact follows_addToCounter coherent sound classified run
  | count address => exact (Action.countEntries_quiet moment address).eq_of_ok run ▸ same
  | list family start stop limit =>
    exact (Action.listRows_quiet moment family start stop limit).eq_of_ok run ▸ same
  | truncate name =>
    obtain ⟨_, family, _, -, -, called, rfl, -⟩ := Action.truncateFamily_ok run
    exact classified.perform_idle (.truncate family.name) sound trivial (fun _ => rfl) called
  -- All other commands are executed without a keyspace in use.
  | _ => cases run

theorem follows_execute {command : Command} (keeps : state.KeepsKinds supply command)
    (noConnect : ∀ host port, command ≠ .connect host port)
    (run : Action.execute moment command state supply = ((.ok outcome, after), left)) :
    Follows (state.added supply command) state.store after.store := by
  have same : Follows (fun _ _ => 0) state.store state.store := classified.of_same rfl rfl
  cases command with
  | help topic =>
    exact (Action.quiet_lift (Action.help topic)).eq_of_ok run ▸ same
  | connect host port => exact absurd rfl (noConnect host port)
  | exit =>
    cases run
    exact classified.of_same rfl rfl
  | use name =>
    obtain ⟨_, _, _, -, -, called, rfl, -⟩ := Action.useKeyspace_ok (requireConnected_bind_ok run)
    obtain ⟨-, _, -, rfl⟩ := Store.selectKeyspace_ok called
    exact classified.of_same rfl rfl
  | createKeyspace name attributes =>
    obtain ⟨_, _, _, -, called, rfl⟩ := Action.createKeyspace_ok (requireConnected_bind_ok run)
    exact classified.createKeyspace called
  | updateKeyspace name attributes =>
    obtain ⟨_, _, _, _, _, -, -, -, called, rfl⟩ :=
      Action.updateKeyspace_ok (requireConnected_bind_ok run)
    exact classified.updateKeyspace sound called
  | dropKeyspace name =>
    obtain ⟨_, _, _, _, -, -, called, rfl⟩ :=
      Action.dropKeyspace_ok (requireConnected_bind_ok run)
    exact classified.dropKeyspace called
  | describe target =>
    exact (Action.describe_quiet target).eq_of_ok (requireConnected_bind_ok run) ▸ same
  | «show» target =>
    exact (Action.inform_quiet target).eq_of_ok (requireConnected_bind_ok run) ▸ same
  | _ =>
    exact follows_executeInKeyspace coherent sound classified keeps (requireConnected_bind_ok run)

end Commands

/-! ### Statements -/

theorem addedBy_of_parsed {command : Command} (parsed : Command.parse request.text = .ok command) :
    state.addedBy request = fun keyspace place =>
      if (state.reply request).isSuccess then state.added request.supply command keyspace place
      else 0 := by
  unfold addedBy
  rw [parsed]

/-- A statement that fails and does not connect counts on nothing and leaves the state as it was. -/
theorem after_of_failure {command : Command} (parsed : Command.parse request.text = .ok command)
    (noConnect : ∀ host port, command ≠ .connect host port)
    (failed : (state.reply request).isSuccess = false) : state.after request = state := by
  have apart : ∀ host port, Command.parse request.text ≠ .ok (.connect host port) :=
    fun host port same => noConnect host port (Except.ok.inj (parsed.symm.trans same))
  cases answered : state.reply request with
  | success outcome text =>
    rw [answered] at failed
    cases failed
  | failure cause text => exact answer_failure apart answered

theorem follows_after (coherent : Coherent state) (sound : state.store.Sound)
    (classified : state.store.Classified) (keeps : state.Keeps request) :
    Follows (state.addedBy request) state.store (state.after request).store := by
  cases parsed : Command.parse request.text with
  | error cause =>
    have idle : state.addedBy request = fun _ _ => 0 := by
      unfold addedBy
      rw [parsed]
    have same : state.after request = state := by
      rw [State.after, answer_of_refused parsed]
    rw [idle, same]
    exact classified.of_same rfl rfl
  | ok command =>
    rw [addedBy_of_parsed parsed]
    by_cases connecting : ∃ host port, command = .connect host port
    · obtain ⟨host, port, rfl⟩ := connecting
      have connected : state.after request = (state.connect request.moment host port).2 := by
        rw [State.after, answer_of_parsed parsed]
        exact connect_state host port
      have idle : state.added request.supply (.connect host port) = fun _ _ => 0 := rfl
      simp only [idle, ite_self, connected]
      unfold State.connect
      split <;> exact classified.of_same rfl rfl
    · have noConnect : ∀ host port, command ≠ .connect host port :=
        fun host port same => connecting ⟨host, port, same⟩
      cases succeeded : (state.reply request).isSuccess with
      | false =>
        rw [after_of_failure parsed noConnect succeeded]
        exact classified.of_same rfl rfl
      | true =>
        obtain ⟨outcome, after, left, run, same⟩ := execute_of_isSuccess parsed succeeded
        rw [State.after, same]
        have kinds := keeps command parsed succeeded
        exact follows_execute coherent sound classified kinds noConnect run

/-- A statement that says nothing about the validation of values keeps the kinds of columns. -/
theorem keeps_of_leavesValidation (silent : ∀ command, Command.parse request.text = .ok command →
    command.leavesValidation = true) : state.Keeps request := by
  intro command parsed succeeded
  have unsaid := silent command parsed
  cases command with
  | updateFamily name attributes =>
    intro keyspace old updated left inUse found applied place record named filed
    simp only [Command.leavesValidation, decide_eq_true_eq] at unsaid
    obtain ⟨validator, columns⟩ :=
      ColumnFamily.validation_of_withAttributes unsaid.1 unsaid.2 applied
    rw [Store.holdsCounter_eq, Store.holdsCounter_eq, ColumnFamily.column?, validator, columns]
    rfl
  | _ => trivial

/-- An update of a column family after which all records are of the kinds of their columns has left
these as they were. -/
theorem keeps_of_classified (coherent : Coherent state) (sound : state.store.Sound)
    (classified : state.store.Classified) (again : (state.after request).store.Classified) :
    state.Keeps request := by
  intro command parsed succeeded
  cases command with
  | updateFamily name attributes =>
    intro keyspace old updated left inUse found applied place record named filed
    obtain ⟨outcome, after, _, run, same⟩ := execute_of_isSuccess parsed succeeded
    rw [State.after, same] at again
    obtain ⟨_, _, _, _, _, inUse', found', applied', called, rfl⟩ :=
      Action.updateFamily_ok (requireKeyspace_bind_ok run)
    -- The update that was called for is the one that is asked about.
    cases inUse.symm.trans inUse'
    cases found.symm.trans found'
    cases applied.symm.trans applied'
    have comes := (ColumnFamily.comesFrom_of_withAttributes applied).1
    have known := store_family_of_family coherent sound inUse found
    exact classified.kept_of_updateFamily sound (currentKeyspace_of_keyspace coherent inUse)
      (comes.name ▸ known) called again named filed
  | _ => trivial

/-! ### All runs -/

theorem reachable_initial (clusterName : String) (connected : Bool) :
    Reachable (initial clusterName connected) := by
  cases connected with
  | true => exact .connected clusterName
  | false => exact .unconnected clusterName

theorem classified_initial (clusterName : String) (connected : Bool) :
    (initial clusterName connected).store.Classified := by
  intro keyspace place record filed
  have empty : (initial clusterName connected).store.records keyspace place = none := by
    cases connected <;> exact Store.recordIn_empty _ _ _
  rw [empty] at filed
  cases filed

@[simp] theorem afterAll_nil : state.afterAll [] = state :=
  rfl

@[simp] theorem afterAll_cons (request : Request) (rest : List Request) :
    state.afterAll (request :: rest) = (state.after request).afterAll rest := by
  unfold afterAll
  rw [List.foldl_cons]

theorem Reachable.afterAll (reachable : Reachable state) (requests : List Request) :
    Reachable (state.afterAll requests) := by
  induction requests generalizing state with
  | nil => exact reachable
  | cons request rest ih =>
    rw [afterAll_cons]
    exact ih (reachable.answered _ _ _ _)

theorem afterAll_append (early span : List Request) :
    state.afterAll (early ++ span) = (state.afterAll early).afterAll span :=
  List.foldl_append

theorem afterAll_concat (requests : List Request) (request : Request) :
    state.afterAll (requests ++ [request]) = (state.afterAll requests).after request :=
  List.foldl_concat ..

/-- Records stay of the kinds of their columns along steady runs and no others. -/
theorem classified_iff_steady (reachable : Reachable state) (classified : state.store.Classified)
    (requests : List Request) :
    (∀ early, early <+: requests → (state.afterAll early).store.Classified) ↔
      state.Steady requests := by
  refine foldl_keeps_iff after (fun state => state.store.Classified) Keeps classified
    fun early request before => ?_
  have reached := reachable.afterAll early
  constructor
  · exact keeps_of_classified reached.coherent reached.sound before
  · intro keeps
    exact (follows_after reached.coherent reached.sound before keeps).classified

theorem classified_of_steady (reachable : Reachable state) (classified : state.store.Classified)
    {requests : List Request} (steady : state.Steady requests) :
    ∀ early, early <+: requests → (state.afterAll early).store.Classified :=
  (classified_iff_steady reachable classified requests).2 steady

theorem steady_of_classified (reachable : Reachable state) {requests : List Request}
    (classified : ∀ early, early <+: requests → (state.afterAll early).store.Classified) :
    state.Steady requests :=
  (classified_iff_steady reachable (classified [] List.nil_prefix) requests).1 classified

theorem becomes_of_steady (reachable : Reachable state) (classified : state.store.Classified)
    {requests early : List Request} (steady : state.Steady requests)
    (within : early ++ [request] <+: requests) (keyspace : String) (place : Store.Place) :
    Record.Becomes ((state.afterAll early).addedBy request keyspace place)
      ((state.afterAll early).store.records keyspace place)
      ((state.afterAll (early ++ [request])).store.records keyspace place) := by
  have reached := reachable.afterAll early
  have before := classified_of_steady reachable classified steady early
    ((List.prefix_append early [request]).trans within)
  have keeps := steady early request within
  rw [afterAll_concat]
  exact (follows_after reached.coherent reached.sound before keeps).records keyspace place

/-- A counter that is never removed has moved by what was added, statement by statement. -/
theorem counter_afterAll {span : List Request} {total : Int}
    (moves : ∀ early request, early ++ [request] <+: span →
      Record.Becomes ((state.afterAll early).addedBy request keyspace place)
        ((state.afterAll early).store.records keyspace place)
        ((state.afterAll (early ++ [request])).store.records keyspace place))
    (counts : state.store.records keyspace place = some (.counter total))
    (stays : ∀ part, part <+: span → (state.afterAll part).store.records keyspace place ≠ none) :
    (state.afterAll span).store.records keyspace place =
      some (.counter (total + state.addedByAll span keyspace place)) := by
  induction span generalizing state total with
  | nil => rw [addedByAll, Int.add_zero]; exact counts
  | cons request rest ih =>
    have first := moves [] request (List.prefix_append [request] rest)
    have there := stays [request] (List.prefix_append [request] rest)
    simp only [List.nil_append, afterAll_cons, afterAll_nil, counts] at first there
    have next := first.eq_counter there
    rw [addedByAll, afterAll_cons, ← Int.add_assoc]
    refine ih (fun early later within => ?_) next fun part within => ?_
    · have move := moves (request :: early) later ((List.prefix_cons_inj request).2 within)
      simpa only [List.cons_append, afterAll_cons] using move
    · have stay := stays (request :: part) ((List.prefix_cons_inj request).2 within)
      simpa only [afterAll_cons] using stay

/-- In a run of statements from a new store all records on file are of the kinds of their columns
after every statement, just if the run is steady. In a steady run a statement leaves a record,
removes it, sets a value where no counter is, or counts where no value is. So a counter stands, from
any time on and until it is removed, where it stood, with all amounts that were counted on it
since. -/
theorem counters_of_run (clusterName : String) (connected : Bool) (requests : List Request) :
    let state (early : List Request) : State := (initial clusterName connected).afterAll early
    ((∀ early, early <+: requests → (state early).store.Classified) ↔
        (initial clusterName connected).Steady requests) ∧
      ((initial clusterName connected).Steady requests → ∀ keyspace place,
        (∀ early request, early ++ [request] <+: requests →
          Record.Becomes ((state early).addedBy request keyspace place)
            ((state early).store.records keyspace place)
            ((state (early ++ [request])).store.records keyspace place)) ∧
        ∀ early span, early ++ span <+: requests → ∀ total,
          (state early).store.records keyspace place = some (.counter total) →
          (∀ part, part <+: span → (state (early ++ part)).store.records keyspace place ≠ none) →
          (state (early ++ span)).store.records keyspace place =
            some (.counter (total + (state early).addedByAll span keyspace place))) := by
  intro state
  have reachable := reachable_initial clusterName connected
  have classified := classified_initial clusterName connected
  have split (early span : List Request) : state (early ++ span) = (state early).afterAll span :=
    afterAll_append early span
  refine ⟨⟨steady_of_classified reachable, classified_of_steady reachable classified⟩,
    fun steady keyspace place => ⟨fun early request within => ?_,
      fun early span within total counts stays => ?_⟩⟩
  · exact becomes_of_steady reachable classified steady within keyspace place
  · rw [split]
    refine counter_afterAll (fun part request inside => ?_) counts fun part inside => ?_
    · have reaches : early ++ part ++ [request] <+: requests := by
        rw [List.append_assoc]
        exact ((List.prefix_append_right_inj early).2 inside).trans within
      rw [← split, ← split, ← List.append_assoc]
      exact becomes_of_steady reachable classified steady reaches keyspace place
    · rw [← split]
      exact stays part inside

/-- The column family is updated before the counter is decremented, but its validators are left. -/
theorem counters_of_run_comment :
    let request (text : String) : Request := ⟨text, { now := 0 }, "\n", ⟨id, id, 0, 0⟩⟩
    let early := ["use system;",
      "create column family C with default_validation_class = CounterColumnType;",
      "incr C['r']['0c'] by 5;", "update column family C with comment = 'x';"].map request
    let span := ["decr C['r']['0c'] by 2;"].map request
    let place : Store.Place := ⟨"C", [0x72], none, [0x0c]⟩
    (initial "c" true).Steady (early ++ span) ∧
      ((initial "c" true).afterAll early).addedByAll span "system" place = -2 ∧
      ((initial "c" true).afterAll (early ++ span)).store.records "system" place =
        some (.counter
          (5 + ((initial "c" true).afterAll early).addedByAll span "system" place)) := by
  intro request early span place
  have silent : ∀ request ∈ early ++ span,
      ((Command.parse request.text).toOption.all Command.leavesValidation) = true := by
    decide +kernel
  have steady : (initial "c" true).Steady (early ++ span) := by
    intro part request within
    refine keeps_of_leavesValidation fun command parsed => ?_
    have mem : request ∈ early ++ span := within.subset (List.mem_append_right _ (by simp))
    have all := silent request mem
    rw [parsed] at all
    exact all
  have stands : ((initial "c" true).afterAll early).store.records "system" place =
        some (.counter 5) ∧
      ((initial "c" true).afterAll early).addedByAll span "system" place = -2 ∧
      ∀ count < 2, (((initial "c" true).afterAll early).afterAll
        (span.take count)).store.records "system" place ≠ none := by
    decide +kernel
  obtain ⟨counts, added, kept⟩ := stands
  have stays : ∀ part, part <+: span → ((initial "c" true).afterAll
      (early ++ part)).store.records "system" place ≠ none := by
    intro part inside
    rw [List.prefix_iff_eq_take.1 inside, afterAll_append]
    exact kept part.length (Nat.lt_succ_of_le inside.length_le)
  refine ⟨steady, added, ?_⟩
  exact ((counters_of_run "c" true (early ++ span)).2 steady "system" place).2 early span
    List.prefix_rfl 5 counts stays

/-- Where the run is not steady a counter stays behind in a column for values, and is then set. -/
theorem counters_of_run_update :
    let request (text : String) : Request := ⟨text, { now := 0 }, "\n", ⟨id, id, 0, 0⟩⟩
    let early := ["create keyspace k;", "use k;",
      "create column family C with comparator=UTF8Type and " ++
        "default_validation_class=CounterColumnType;",
      "incr C['r']['c'] by 5;"].map request
    let updated := (initial "c" true).afterAll (early ++
      [request "update column family C with default_validation_class=UTF8Type;"])
    let place : Store.Place := ⟨"C", [0x72], none, [0x63]⟩
    updated.store.records "k" place = some (.counter 5) ∧ ¬updated.store.Classified ∧
      (updated.after (request "set C['r']['c'] = 'x';")).store.records "k" place =
        some (.value [0x78] 0 none) := by
  intro request early updated place
  have found : updated.store.records "k" place = some (.counter 5) ∧
      (∀ held ∈ updated.store.keyspaces, ∀ family ∈ held.families,
        Store.holdsCounter family place.column = false) ∧
      (updated.after (request "set C['r']['c'] = 'x';")).store.records "k" place =
        some (.value [0x78] 0 none) := by
    decide +kernel
  obtain ⟨counts, plain, set⟩ := found
  refine ⟨counts, fun classified => ?_, set⟩
  obtain ⟨held, mem, -, family, inside, -, kind⟩ := classified "k" place _ counts
  rw [plain held mem family inside] at kind
  cases kind

end State

end WideColumn
