import Mathlib.Algebra.BigOperators.Group.List.Basic
import Mathlib.Algebra.Ring.Int.Defs
import WideColumn.Proofs.Printing.RoundTrip
import WideColumn.Proofs.Session.Frames
import WideColumn.Proofs.Session.Readback

/-!
# Counting on a column

Statements on records change neither the session nor the definitions, so along a run of them every
address stands for what it stood for at first (`State.SameSetting`). On one column, then, each
increment and decrement succeeds and adds its amount, and the others do nothing
(`State.records_afterAll`). A statement that gets the column shows the sum in whatever order it came
about, if it has no more digits than may be written.
-/

namespace WideColumn

/-! ### States in which addresses stand for the same -/

/-- Whether two states differ in nothing that addresses are resolved by. -/
structure State.SameSetting (state other : State) : Prop where
  session : other.session = state.session
  connection : other.store.connection = state.store.connection
  keyspaces : other.store.keyspaces = state.store.keyspaces

namespace State.SameSetting

variable {state other third : State}

theorem refl (state : State) : SameSetting state state :=
  ⟨rfl, rfl, rfl⟩

theorem trans (first : SameSetting state other) (second : SameSetting other third) :
    SameSetting state third :=
  ⟨second.session.trans first.session, second.connection.trans first.connection,
    second.keyspaces.trans first.keyspaces⟩

theorem resolver (same : SameSetting state other) (name : String) :
    other.resolver name = state.resolver name := by
  simp only [State.resolver, State.keyspace, State.requireKeyspace, State.requireConnected,
    Store.describeKeyspace, Store.requireConnected, Store.isConnected, same.session,
    same.connection, same.keyspaces]
  rfl

theorem family (same : SameSetting state other) (name : String) :
    other.store.family name = state.store.family name := by
  simp only [Store.family, Store.currentKeyspace, Store.requireConnected, Store.isConnected,
    Store.selected?, Store.keyspace?, same.connection, same.keyspaces]
  rfl

theorem locate? (same : SameSetting state other) (address : Address) (supply : Supply) :
    other.locate? address supply = state.locate? address supply := by
  rw [State.locate?, State.locate?, same.resolver]

theorem reaches (same : SameSetting state other) : other.Reaches = state.Reaches := by
  funext supply command keyspace place
  unfold State.Reaches
  simp only [same.session, same.locate?]

end State.SameSetting

/-- Whether a command works on records, or only informs. -/
def Command.onRecords : Command → Bool
  | help _ | describe _ | «show» _ => true
  | set _ _ _ | del _ | incr _ _ | decr _ _ | truncate _ => true
  | get _ _ _ | getWhere _ _ _ | count _ | list _ _ _ _ => true
  | _ => false

namespace State

variable {state : State} {request asking : Request} {moment : Moment} {supply left : Supply}
  {command : Command} {keyspace : String} {place : Store.Place} {definition : ColumnFamily}

/-! ### Statements beside a column -/

/-- The amount that a statement is to count on a column, if it is to do so. -/
def amount? (state : State) (keyspace : String) (place : Store.Place) (request : Request) :
    Option Int := do
  let command ← (Command.parse request.text).toOption
  let (address, delta) ← command.counted?
  if state.session.keyspace = some keyspace ∧
    state.locate? address request.supply = some place.location then some delta else none

/-- Whether a statement works on records or only informs, and does nothing with a column but
perhaps count on it. -/
def Beside (state : State) (keyspace : String) (place : Store.Place) (request : Request) : Prop :=
  ∀ command, Command.parse request.text = .ok command → command.onRecords = true ∧
    (state.Reaches request.supply command keyspace place → command.counted?.isSome)

theorem SameSetting.amount? {other : State} (same : SameSetting state other) :
    other.amount? keyspace place = state.amount? keyspace place := by
  funext request
  simp only [State.amount?, same.session, same.locate?]

theorem SameSetting.beside {other : State} (same : SameSetting state other) :
    other.Beside keyspace place = state.Beside keyspace place := by
  funext request
  simp only [State.Beside, same.reaches]

/-! ### Commands on records -/

theorem sameSetting_perform (call : Store.Write) {done : Unit} {store : Store}
    (called : call.perform state.store = (.ok done, store)) :
    SameSetting state { state with store } := by
  obtain ⟨_, _, -, rfl⟩ := Store.Write.perform_ok called
  exact ⟨rfl, rfl, rfl⟩

theorem sameSetting_addToCounter {after : State} {outcome given : Outcome} {address : Address}
    {delta : Int}
    (run : Action.addToCounter address delta given state supply = ((.ok outcome, after), left)) :
    SameSetting state after := by
  obtain ⟨_, location, _, _, -, -, -, called, rfl, -⟩ := Action.addToCounter_ok run
  exact sameSetting_perform (.add location delta) called

/-- A command on records leaves the state, or makes one call on rows. -/
theorem sameSetting_execute {after : State} {outcome : Outcome} (records : command.onRecords = true)
    (run : Action.execute moment command state supply = ((.ok outcome, after), left)) :
    SameSetting state after := by
  cases command with
  | help topic => exact (Action.quiet_lift (Action.help topic)).eq_of_ok run ▸ .refl _
  | describe target =>
    exact (Action.describe_quiet target).eq_of_ok (requireConnected_bind_ok run) ▸ .refl _
  | «show» target =>
    exact (Action.inform_quiet target).eq_of_ok (requireConnected_bind_ok run) ▸ .refl _
  | set address value ttl =>
    obtain ⟨_, location, _, data, _, _, -, -, -, -, called, rfl, -⟩ :=
      Action.setColumn_ok (requireKeyspace_bind_ok run)
    exact sameSetting_perform (.insert moment.now location data ttl) called
  | get address validator limit =>
    exact (Action.getAddress_quiet moment address validator limit).eq_of_ok
      (requireKeyspace_bind_ok run) ▸ .refl _
  | getWhere family conditions limit =>
    exact (Action.getMatching_quiet moment family conditions limit).eq_of_ok
      (requireKeyspace_bind_ok run) ▸ .refl _
  | del address =>
    obtain ⟨_, location, _, -, -, called, rfl⟩ := Action.delete_ok (requireKeyspace_bind_ok run)
    exact sameSetting_perform (.remove location) called
  | incr address amount => exact sameSetting_addToCounter (requireKeyspace_bind_ok run)
  | decr address amount => exact sameSetting_addToCounter (requireKeyspace_bind_ok run)
  | count address =>
    exact (Action.countEntries_quiet moment address).eq_of_ok
      (requireKeyspace_bind_ok run) ▸ .refl _
  | list family start stop limit =>
    exact (Action.listRows_quiet moment family start stop limit).eq_of_ok
      (requireKeyspace_bind_ok run) ▸ .refl _
  | truncate name =>
    obtain ⟨_, family, _, -, -, called, rfl, -⟩ :=
      Action.truncateFamily_ok (requireKeyspace_bind_ok run)
    exact sameSetting_perform (.truncate family.name) called
  | _ => cases records

/-! ### One statement -/

theorem exists_of_locate? {address : Address} {location : Location}
    (known : state.locate? address supply = some location) :
    ∃ resolver left, state.resolver address.family = .ok resolver ∧
      Action.locate resolver address supply = (.ok location, left) := by
  obtain ⟨resolver, resolved, located⟩ := Option.bind_eq_some_iff.1 known
  refine ⟨resolver, (Action.locate resolver address supply).2, toOption_eq_some.1 resolved, ?_⟩
  exact Prod.ext (toOption_eq_some.1 located) rfl

/-- A column family is resolved only if a keyspace is in use. -/
theorem requireKeyspace_of_resolver {name : String} {resolver : Resolver}
    (resolved : state.resolver name = .ok resolver) :
    state.requireConnected = .ok () ∧ ∃ keyspace, state.requireKeyspace = .ok keyspace := by
  obtain ⟨_, inUse, -⟩ := bind_eq_ok.1 resolved
  obtain ⟨keyspace, required, -⟩ := bind_eq_ok.1 inUse
  obtain ⟨_, connected, -⟩ := bind_eq_ok.1 required
  exact ⟨connected, keyspace, required⟩

section Column

variable (coherent : Coherent state) (sound : state.store.Sound)
  (found : state.store.family place.family = .ok definition) (named : place.column ≠ [])
  (counts : Store.holdsCounter definition place.column = true)

include sound found named counts

/-- A counter column that has a name can be counted on. -/
theorem addToCounter_ok_of_place (placed : Store.Write.WellPlaced definition place.location)
    (delta : Int) : ∃ store, Store.addToCounter place.location delta state.store = (.ok (), store) ∧
      store.records definition.keyspace place =
        some (.counter (Store.totalOf (state.store.records definition.keyspace place) + delta)) := by
  have selected := Store.selected?_of_family sound.filed found
  have formed : Store.Write.WellFormed state.store (.add place.location delta) := by
    intro other otherFound
    cases found.symm.trans otherFound
    exact placed
  have accepted : Store.Write.verdict state.store (.add place.location delta) = .ok () := by
    obtain ⟨byte, rest, spelled⟩ := List.exists_cons_of_ne_nil named
    rw [spelled] at counts
    simp [Store.Write.verdict, Store.requireColumnName, Store.Place.location, spelled, found, counts,
      bind, Except.bind, pure, Except.pure]
  have reply := (Store.add_refines (Store.refines_records sound selected) formed).1
  rw [Store.Write.step, accepted] at reply
  refine ⟨_, Prod.ext reply rfl, ?_⟩
  obtain ⟨-, here, -⟩ := Store.records_of_perform sound selected formed (Prod.ext reply rfl)
  exact (congrFun here place).trans (if_pos rfl)

include coherent

theorem addToCounter_of_locate? {address : Address} (delta : Int) (given : Outcome)
    (known : state.locate? address supply = some place.location) :
    ∃ left store, Action.addToCounter address delta given state supply =
        ((.ok given, { state with store }), left) ∧
      store.records definition.keyspace place =
        some (.counter (Store.totalOf (state.store.records definition.keyspace place) + delta)) := by
  obtain ⟨resolver, left, resolved, located⟩ := exists_of_locate? known
  obtain ⟨store, called, counted⟩ := addToCounter_ok_of_place sound found named counts
    (wellPlaced_of_locate coherent sound resolved located definition found) delta
  refine ⟨left, store, ?_, counted⟩
  refine Action.get_bind_eq_ok.2 (Action.lift_bind_eq_ok.2 ⟨resolver, resolved, ?_⟩)
  refine Action.draw_bind_eq_ok.2 ⟨place.location, left, located, ?_⟩
  refine Action.lift_bind_eq_ok.2 ⟨place.column, rfl, ?_⟩
  exact Action.call_bind_eq_ok.2 ⟨(), store, called, rfl⟩

/-- A command that is to count on the column does so. -/
theorem execute_of_counted {address : Address} {delta : Int}
    (counted : command.counted? = some (address, delta))
    (known : state.locate? address supply = some place.location) :
    ∃ outcome left store, Action.execute moment command state supply =
        ((.ok outcome, { state with store }), left) ∧
      store.records definition.keyspace place =
        some (.counter (Store.totalOf (state.store.records definition.keyspace place) + delta)) := by
  obtain ⟨resolver, _, resolved, -⟩ := exists_of_locate? known
  obtain ⟨connected, keyspace, inUse⟩ := requireKeyspace_of_resolver resolved
  have counts (given : Outcome) :=
    addToCounter_of_locate? coherent sound found named counts delta given known
  have within {action : Action Outcome} {outcome : Outcome} {after : State} {left : Supply}
      (run : action state supply = ((.ok outcome, after), left)) :
      (do (← get).requireConnected; let _ ← (← get).requireKeyspace; action : Action Outcome)
        state supply = ((.ok outcome, after), left) := by
    refine Action.get_bind_eq_ok.2 (Action.lift_bind_eq_ok.2 ⟨(), connected, ?_⟩)
    exact Action.get_bind_eq_ok.2 (Action.lift_bind_eq_ok.2 ⟨keyspace, inUse, run⟩)
  cases command with
  | incr _ _ =>
    cases counted
    obtain ⟨left, store, run, total⟩ := counts .incremented
    exact ⟨.incremented, left, store, within run, total⟩
  | decr _ _ =>
    cases counted
    obtain ⟨left, store, run, total⟩ := counts .decremented
    exact ⟨.decremented, left, store, within run, total⟩
  | _ => cases counted

/-- A statement that is to count on the column adds its amount. -/
theorem records_of_amount? {delta : Int}
    (counted : state.amount? definition.keyspace place request = some delta) :
    (state.after request).store.records definition.keyspace place =
      some (.counter (Store.totalOf (state.store.records definition.keyspace place) + delta)) := by
  unfold amount? at counted
  obtain ⟨command, parsed, counted⟩ := Option.bind_eq_some_iff.1 counted
  obtain ⟨⟨address, amount⟩, counting, chosen⟩ := Option.bind_eq_some_iff.1 counted
  dsimp only at chosen
  split at chosen
  · rename_i here
    cases chosen
    obtain ⟨outcome, left, store, run, total⟩ :=
      execute_of_counted coherent sound found named counts counting here.2
    rw [State.after, answer_of_parsed (toOption_eq_some.1 parsed), run]
    exact total
  · cases chosen

end Column

/-- A statement that counts on the column it reaches is to count its amount there. -/
theorem amount?_of_reaches {address : Address} {delta : Int}
    (parsed : Command.parse request.text = .ok command)
    (counted : command.counted? = some (address, delta))
    (reached : state.Reaches request.supply command keyspace place) :
    state.amount? keyspace place request = some delta := by
  have here : state.session.keyspace = some keyspace ∧
      state.locate? address request.supply = some place.location := by
    cases command with
    | incr _ _ | decr _ _ =>
      cases counted
      exact ⟨reached.1, reached.2.2⟩
    | _ => cases counted
  unfold amount?
  rw [parsed]
  show (command.counted?.bind fun found => _) = _
  rw [counted]
  exact if_pos here

/-- Commands on records do not connect. -/
theorem not_connect_of_onRecords (records : command.onRecords = true) :
    ∀ host port, command ≠ .connect host port := by
  rintro host port rfl
  cases records

theorem sameSetting_after (beside : state.Beside keyspace place request) :
    SameSetting state (state.after request) := by
  cases parsed : Command.parse request.text with
  | error cause =>
    have same : state.after request = state := by
      rw [State.after, answer_of_refused parsed]
    rw [same]
    exact .refl state
  | ok command =>
    have records := (beside command parsed).1
    cases succeeded : (state.reply request).isSuccess with
    | false =>
      rw [after_of_failure parsed (not_connect_of_onRecords records) succeeded]
      exact .refl state
    | true =>
      obtain ⟨outcome, after, left, run, same⟩ := execute_of_isSuccess parsed succeeded
      rw [State.after, same]
      exact sameSetting_execute records run

/-- A statement beside a column that is not to count on it leaves it. -/
theorem records_of_idle (coherent : Coherent state) (sound : state.store.Sound)
    (beside : state.Beside keyspace place request)
    (idle : state.amount? keyspace place request = none) :
    (state.after request).store.records keyspace place = state.store.records keyspace place := by
  cases parsed : Command.parse request.text with
  | error cause =>
    have same : state.after request = state := by
      rw [State.after, answer_of_refused parsed]
    rw [same]
  | ok command =>
    obtain ⟨records, alone⟩ := beside command parsed
    cases succeeded : (state.reply request).isSuccess with
    | false => rw [after_of_failure parsed (not_connect_of_onRecords records) succeeded]
    | true =>
      refine (framed_after coherent sound parsed succeeded).kept keyspace place fun reached => ?_
      obtain ⟨⟨address, delta⟩, counted⟩ := Option.isSome_iff_exists.1 (alone reached)
      rw [amount?_of_reaches parsed counted reached] at idle
      cases idle

/-! ### Runs -/

end State

/-- The record of a column after some amounts were counted on it. -/
def Record.countedOn (before : Option Record) (amounts : List Int) : Option Record :=
  if amounts = [] then before else some (.counter (Store.totalOf before + amounts.sum))

namespace Record

theorem countedOn_cons (before : Option Record) (amount : Int) (rest : List Int) :
    countedOn before (amount :: rest) =
      countedOn (some (.counter (Store.totalOf before + amount))) rest := by
  rw [countedOn, if_neg (List.cons_ne_nil amount rest), List.sum_cons, ← Int.add_assoc, countedOn]
  split
  · rename_i last
    rw [last, List.sum_nil, Int.add_zero]
  · rfl

/-- The order of the amounts does not matter. -/
theorem countedOn_perm (before : Option Record) {amounts others : List Int}
    (perm : others.Perm amounts) : countedOn before others = countedOn before amounts := by
  have none_iff : others = [] ↔ amounts = [] := by
    rw [← List.length_eq_zero_iff, perm.length_eq, List.length_eq_zero_iff]
  simp only [countedOn, none_iff, perm.sum_eq]

end Record

namespace State

variable {state : State} {requests : List Request} {place : Store.Place} {definition : ColumnFamily}

/-- Statements beside a column that are made one after the other have counted on it what each of
them was to count at first. -/
theorem records_afterAll (reachable : Reachable state)
    (found : state.store.family place.family = .ok definition) (named : place.column ≠ [])
    (counts : Store.holdsCounter definition place.column = true)
    (beside : ∀ request ∈ requests, state.Beside definition.keyspace place request) :
    SameSetting state (state.afterAll requests) ∧
      (state.afterAll requests).store.records definition.keyspace place =
        Record.countedOn (state.store.records definition.keyspace place)
          (requests.filterMap (state.amount? definition.keyspace place)) := by
  induction requests generalizing state with
  | nil => exact ⟨.refl state, rfl⟩
  | cons request rest ih =>
    obtain ⟨first, others⟩ := List.forall_mem_cons.1 beside
    have same := sameSetting_after first
    have next : Reachable (state.after request) :=
      reachable.answered request.moment request.newline request.text request.supply
    rw [← same.beside] at others
    obtain ⟨later, records⟩ := ih next ((same.family _).trans found) others
    rw [afterAll_cons]
    refine ⟨same.trans later, ?_⟩
    rw [records, same.amount?, List.filterMap_cons]
    cases amount : state.amount? definition.keyspace place request with
    | none => rw [records_of_idle reachable.coherent reachable.sound first amount]
    | some delta =>
      rw [records_of_amount? reachable.coherent reachable.sound found named counts amount]
      exact (Record.countedOn_cons _ delta _).symm

/-! ### Getting the column -/

/-- What a validator makes of a literal, it can show. -/
theorem exists_decode_of_encode {validator : Validator} {text : String} {data : Bytes}
    {supply left : Supply} (encoded : validator.encode text supply = (.ok data, left)) :
    ∃ shown, validator.decode data = .ok shown := by
  cases fresh : validator.isNow text with
  | false =>
    rw [Validator.encode_of_not_isNow supply fresh] at encoded
    obtain ⟨shown, decoded, -⟩ := Validator.decode_of_stores
      (Validator.stores_of_encodeFixed (Prod.mk.inj encoded).1)
    exact ⟨shown, decoded⟩
  | true =>
    rw [Validator.encode_of_isNow supply fresh] at encoded
    obtain rfl := Except.ok.inj (Prod.mk.inj encoded).1
    obtain ⟨rfl, -⟩ : validator = .timeUuid ∧ _ := by simpa [Validator.isNow] using fresh
    exact ⟨_, Validator.decodeUuid_of_length (Bytes.length_ofNat 16 _)⟩

/-- A column name that stands for a literal can be shown. -/
theorem exists_showColumn_of_encode {resolver : Resolver} {text : String} {data : Bytes}
    {supply left : Supply}
    (encoded : resolver.encodeColumn (.plain text) supply = (.ok data, left)) :
    ∃ shown, resolver.showColumn data = .ok shown := by
  obtain ⟨names, known, encoded⟩ := Stateful.lift_bind_eq_ok.1 encoded
  obtain ⟨shown, decoded⟩ := exists_decode_of_encode encoded
  exact ⟨shown, bind_eq_ok.2 ⟨names, known, decoded⟩⟩

/-- The parts of a location that plain literals stand for are what the literals are encoded to. -/
theorem encodes_of_locate {resolver : Resolver} {family key column : String}
    {superColumn : Option String} {location : Location} {supply left : Supply}
    (run : Action.locate resolver ⟨family, .plain key, plainColumns superColumn column⟩ supply =
      (.ok location, left)) :
    (∃ before after, resolver.encodeKey (.plain key) before = (.ok location.key, after)) ∧
      (∀ outer, location.superColumn = some outer → ∃ text before after,
        resolver.encodeSuperColumn (.plain text) before = (.ok outer, after)) ∧
      ∀ name, location.column = some name → ∃ before after,
        resolver.encodeColumn (.plain column) before = (.ok name, after) := by
  obtain ⟨keyData, _, encoded, rest⟩ := Stateful.bind_eq_ok.1 run
  -- The shape of the column family and of the address have to go together.
  cases superColumn with
  | none =>
    cases super : resolver.family.isSuper with
    | true =>
      simp only [plainColumns, super] at rest
      obtain ⟨_, _, outer, last⟩ := Stateful.bind_eq_ok.1 rest
      cases last
      refine ⟨⟨_, _, encoded⟩, fun other same => ?_, fun name same => ?_⟩
      · cases same
        exact ⟨column, _, _, outer⟩
      · cases same
    | false =>
      simp only [plainColumns, super] at rest
      obtain ⟨_, _, inner, last⟩ := Stateful.bind_eq_ok.1 rest
      cases last
      refine ⟨⟨_, _, encoded⟩, fun other same => ?_, fun name same => ?_⟩
      · cases same
      · cases same
        exact ⟨_, _, inner⟩
  | some text =>
    cases super : resolver.family.isSuper with
    | true =>
      simp only [plainColumns, super] at rest
      obtain ⟨_, _, outer, inside⟩ := Stateful.bind_eq_ok.1 rest
      obtain ⟨_, _, inner, last⟩ := Stateful.bind_eq_ok.1 inside
      cases last
      refine ⟨⟨_, _, encoded⟩, fun other same => ?_, fun name same => ?_⟩
      · cases same
        exact ⟨text, _, _, outer⟩
      · cases same
        exact ⟨_, _, inner⟩
    | false =>
      simp only [plainColumns, super] at rest
      cases rest

/-- The name of a column that plain literals stand for can be shown. -/
theorem exists_showColumn {resolver : Resolver} {family key column : String}
    {superColumn : Option String} {location : Location} {name : Bytes} {supply left : Supply}
    (run : Action.locate resolver ⟨family, .plain key, plainColumns superColumn column⟩ supply =
      (.ok location, left)) (given : location.column = some name) :
    ∃ shown, resolver.showColumn name = .ok shown := by
  obtain ⟨_, _, encoded⟩ := (encodes_of_locate run).2.2 name given
  exact exists_showColumn_of_encode encoded

/-- The reply to a statement that gets a counter: its name and where it stands, unless that has more
digits than may be written. -/
def counterReply (newline shown : String) (total : Int) : Reply :=
  if total.natAbs < 10 ^ Numeral.maxDigits then
    .success (.column (.counter shown (Numeral.write total)))
      ("=> (counter=" ++ shown ++ ", value=" ++ Numeral.write total ++ ")" ++ newline)
  else
    .failure (.digits .tooManyDigits) (Report.failure newline (.digits .tooManyDigits))

theorem shownNumber_eq (value : Int) :
    shownNumber value =
      if value.natAbs < 10 ^ Numeral.maxDigits then .ok (Numeral.write value)
      else .error (.digits .tooManyDigits) := by
  split
  · rename_i small
    exact shownNumber_of_lt small
  · rename_i large
    rw [shownNumber, Numeral.write?_of_not_lt large]

/-- A command that gets a counter column shows its name and its number, or fails to. -/
theorem execute_get_of_counter {resolver : Resolver} {address : Address}
    {validator : Option String} {asked : Option Validator} (limit : Option Int)
    {keyspace shown : String} {total : Int} {moment : Moment} {supply left : Supply}
    (connected : state.requireConnected = .ok ()) (inUse : state.requireKeyspace = .ok keyspace)
    (resolved : state.resolver address.family = .ok resolver)
    (known : declaredValidator validator = .ok asked)
    (located : Action.locate resolver address supply = (.ok place.location, left))
    (read : state.store.getColumn moment.now place.location =
      .ok (some (.cell ⟨place.column, .counter total⟩)))
    (named : resolver.showColumn place.column = .ok shown) :
    Action.execute moment (.get address validator limit) state supply =
      (((fun text => .column (.counter shown text)) <$> shownNumber total, state), left) := by
  have shows : Action.showCell resolver asked ⟨place.column, .counter total⟩ =
      ShownCell.counter shown <$> shownNumber total := by
    simp only [Action.showCell, named, bind, Except.bind]
    cases shownNumber total <;> rfl
  refine (Action.get_bind_apply _).trans ?_
  refine (Action.lift_bind_of_ok connected _).trans ?_
  refine (Action.get_bind_apply _).trans ?_
  refine (Action.lift_bind_of_ok inUse _).trans ?_
  refine (Action.get_bind_apply _).trans ?_
  refine (Action.lift_bind_of_ok resolved _).trans ?_
  refine (Action.lift_bind_of_ok known _).trans ?_
  refine (Action.draw_bind_of_ok located _).trans ?_
  refine (Action.lift_bind_of_ok read _).trans ?_
  refine (Action.lift_bind_pure _).trans ?_
  rw [shows, Functor.map_map]

theorem outcome_counter (newline name value : String) :
    Report.outcome newline (.column (.counter name value)) =
      .ok ("=> (counter=" ++ name ++ ", value=" ++ value ++ ")" ++ newline) := by
  have text : Report.cellText (.counter name value) =
      .ok ("(counter=" ++ name ++ ", value=" ++ value ++ ")") := rfl
  have lead : "=> (counter=" = "=> " ++ "(counter=" := rfl
  simp [Report.outcome, Report.lines, text, String.join, String.append_assoc]
  rw [lead, String.append_assoc]

theorem reply_get_of_counter {definition : ColumnFamily} (coherent : Coherent state)
    (sound : state.store.Sound) (found : state.store.family place.family = .ok definition)
    {asking : Request} {address : Address} {validator : Option String} {limit : Option Int}
    (asks : Command.parse asking.text = .ok (.get address validator limit))
    {asked : Option Validator} (known : declaredValidator validator = .ok asked)
    {resolver : Resolver} {left : Supply} (resolved : state.resolver address.family = .ok resolver)
    (located : Action.locate resolver address asking.supply = (.ok place.location, left))
    {shown : String} (named : resolver.showColumn place.column = .ok shown) {total : Int}
    (filed : state.store.records definition.keyspace place = some (.counter total)) :
    state.reply asking = counterReply asking.newline shown total := by
  obtain ⟨connected, keyspace, inUse⟩ := requireKeyspace_of_resolver resolved
  have selected := Store.selected?_of_family sound.filed found
  have placed := wellPlaced_of_locate coherent sound resolved located definition found
  have read : state.store.getColumn asking.moment.now place.location =
      .ok (some (.cell ⟨place.column, .counter total⟩)) := by
    rw [Store.getColumn_eq (Store.refines_records sound selected) found
      (Store.isSome_superColumn placed rfl), Store.FlatMap.read, filed]
    rfl
  have run := execute_get_of_counter limit connected inUse resolved known located read
    named
  rw [State.reply, answer_of_parsed asks, run]
  show Reply.ofResult asking.newline (_ <$> shownNumber total) = _
  rw [shownNumber_eq, counterReply]
  split
  · show Reply.ofResult _ (.ok (.column (.counter shown (Numeral.write total)))) = _
    rw [Reply.ofResult, outcome_counter]
  · rfl

/-- Increments and decrements of a counter column, in any order and with any statements on other
columns between them, leave it where it stood before and all their signed amounts lead. A statement
that gets the column then shows its name and that number in decimal digits. Only if it has more
digits than may be written does the statement fail. -/
theorem get_of_counted {family key column : String} {superColumn : Option String}
    {validator : Option String} {limit : Option Int} {asked : Option Validator}
    {asking : Request} (reachable : Reachable state)
    (found : state.store.family place.family = .ok definition) (named : place.column ≠ [])
    (counts : Store.holdsCounter definition place.column = true)
    (beside : ∀ request ∈ requests, state.Beside definition.keyspace place request)
    (counted : ∃ request ∈ requests, (state.amount? definition.keyspace place request).isSome)
    (asks : Command.parse asking.text =
      .ok (.get ⟨family, .plain key, plainColumns superColumn column⟩ validator limit))
    (known : declaredValidator validator = .ok asked)
    (located : state.locate? ⟨family, .plain key, plainColumns superColumn column⟩ asking.supply =
      some place.location) :
    ∃ shown, ∀ ordered, ordered.Perm requests →
      (state.afterAll ordered).reply asking = counterReply asking.newline shown
        (Store.totalOf (state.store.records definition.keyspace place) +
          (requests.filterMap (state.amount? definition.keyspace place)).sum) := by
  obtain ⟨resolver, left, resolved, locates⟩ := exists_of_locate? located
  obtain ⟨shown, shows⟩ := exists_showColumn locates rfl
  refine ⟨shown, fun ordered perm => ?_⟩
  have besides : ∀ request ∈ ordered, state.Beside definition.keyspace place request :=
    fun request mem => beside request (perm.mem_iff.1 mem)
  obtain ⟨same, records⟩ := records_afterAll reachable found named counts besides
  have nonempty : requests.filterMap (state.amount? definition.keyspace place) ≠ [] := by
    obtain ⟨request, mem, some⟩ := counted
    obtain ⟨amount, is⟩ := Option.isSome_iff_exists.1 some
    exact List.ne_nil_of_mem (List.mem_filterMap.2 ⟨request, mem, is⟩)
  rw [Record.countedOn_perm _ (perm.filterMap _), Record.countedOn, if_neg nonempty] at records
  have reached := reachable.afterAll ordered
  exact reply_get_of_counter reached.coherent reached.sound ((same.family _).trans found) asks known
    ((same.resolver family).trans resolved) locates shows records

/-- A counter goes up by five and, by a decrement, by two more, in either order, while another column
counts as well. -/
theorem get_of_counted_reverse :
    let request (text : String) : Request := ⟨text, { now := 0 }, "\n", ⟨id, id, 0, 0⟩⟩
    let state := (initial "c" true).afterAll (["use system;",
      "create column family C with comparator=UTF8Type and " ++
        "default_validation_class=CounterColumnType;"].map request)
    let requests := ["incr C['r']['c'] by 5;", "incr C['r']['d'];",
      "decr c['r']['c'] by -2;"].map request
    let asking := request "get C['r']['c'];"
    ∃ shown, (state.afterAll requests).reply asking = counterReply "\n" shown 7 ∧
      (state.afterAll requests.reverse).reply asking = counterReply "\n" shown 7 := by
  intro request state requests asking
  let definition : ColumnFamily :=
    { keyspace := "system", name := "C", comparatorType := some "UTF8Type",
      defaultValidationClass := some "CounterColumnType" }
  let place : Store.Place := ⟨"C", [0x72], none, [0x63]⟩
  let address : Address := ⟨"C", .plain "r", plainColumns none "c"⟩
  have reachable : Reachable state := (reachable_initial "c" true).afterAll _
  have known : (state.store.family "C").toOption = some definition ∧
      Store.holdsCounter definition place.column = true ∧
      requests.filterMap (state.amount? "system" place) = [5, 2] ∧
      (∀ request ∈ requests, (Command.parse request.text).toOption.all (fun command =>
        command.onRecords && command.counted?.isSome) = true) ∧
      (Command.parse asking.text).toOption = some (.get address none none) ∧
      state.locate? address asking.supply = some place.location ∧
      state.store.records "system" place = none := by
    decide +kernel
  clear_value state requests
  obtain ⟨found, counts, amounts, counting, asks, located, before⟩ := known
  have beside : ∀ request ∈ requests, state.Beside "system" place request := by
    intro request mem command parsed
    have both := counting request mem
    rw [parsed] at both
    obtain ⟨records, counted⟩ := Bool.and_eq_true_iff.1 both
    exact ⟨records, fun _ => counted⟩
  have counted : ∃ request ∈ requests, (state.amount? "system" place request).isSome := by
    have first : 5 ∈ requests.filterMap (state.amount? "system" place) := by
      rw [amounts]
      exact List.mem_cons_self
    obtain ⟨request, mem, is⟩ := List.mem_filterMap.1 first
    exact ⟨request, mem, Option.isSome_iff_exists.2 ⟨_, is⟩⟩
  obtain ⟨shown, replies⟩ := get_of_counted reachable (toOption_eq_some.1 found)
    (List.cons_ne_nil _ _) counts beside counted (toOption_eq_some.1 asks) rfl located
  rw [amounts, before] at replies
  exact ⟨shown, replies _ (.refl _), replies _ (List.reverse_perm _)⟩

/-- A counter that two increments lead past the numbers that may be written cannot be shown. -/
theorem get_of_counted_large :
    let request (text : String) : Request := ⟨text, { now := 0 }, "\n", ⟨id, id, 0, 0⟩⟩
    let state := (initial "c" true).afterAll (["use system;",
      "create column family C with comparator=UTF8Type and " ++
        "default_validation_class=CounterColumnType;"].map request)
    let address : Address := ⟨"C", .plain "r", plainColumns none "c"⟩
    let first := request (Printing.print (.incr address (10 ^ Numeral.maxDigits - 1)))
    let second := request "incr C['r']['c'] by 1;"
    let asking := request "get C['r']['c'];"
    Command.parse first.text = .ok (.incr address (10 ^ Numeral.maxDigits - 1)) ∧
      Command.parse second.text = .ok (.incr address 1) ∧
      ((state.afterAll [first, second]).reply asking).isSuccess = false := by
  intro request state address first second asking
  let definition : ColumnFamily :=
    { keyspace := "system", name := "C", comparatorType := some "UTF8Type",
      defaultValidationClass := some "CounterColumnType" }
  let place : Store.Place := ⟨"C", [0x72], none, [0x63]⟩
  have reachable : Reachable state := (reachable_initial "c" true).afterAll _
  have cast : ((10 ^ Numeral.maxDigits : Nat) : Int) = 10 ^ Numeral.maxDigits :=
    Int.natCast_pow 10 Numeral.maxDigits
  have known : (state.store.family "C").toOption = some definition ∧
      Store.holdsCounter definition place.column = true ∧
      (Command.parse second.text).toOption = some (.incr address 1) ∧
      (Command.parse asking.text).toOption = some (.get address none none) ∧
      state.session.keyspace = some "system" ∧
      state.locate? address ⟨id, id, 0, 0⟩ = some place.location ∧
      state.store.records "system" place = none := by
    decide +kernel
  obtain ⟨found, counts, small, asks, inUse, located, before⟩ := known
  clear_value state
  have large : Command.parse first.text = .ok (.incr address (10 ^ Numeral.maxDigits - 1)) := by
    have below {number : Nat} (positive : 0 < number) : ((number : Int) - 1).natAbs < number := by
      omega
    have short : ((10 : Int) ^ Numeral.maxDigits - 1).natAbs < 10 ^ Numeral.maxDigits := by
      rw [← cast]
      exact below (Nat.pow_pos (by decide))
    have word : Printing.IsWord "C" := by decide
    have printable : Printing.Printable (.incr address (10 ^ Numeral.maxDigits - 1)) := by
      refine ⟨⟨word, trivial, fun literal mem => ?_⟩, Numeral.length_toString_le_iff.2 short⟩
      obtain rfl := List.mem_singleton.1 mem
      trivial
    exact Printing.parse_of_writes printable (Printing.writes_print printable)
  have unit := toOption_eq_some.1 small
  refine ⟨large, unit, ?_⟩
  have amount {given : Request} {delta : Int} (supplied : given.supply = ⟨id, id, 0, 0⟩)
      (parsed : Command.parse given.text = .ok (.incr address delta)) :
      state.amount? "system" place given = some delta :=
    amount?_of_reaches parsed rfl ⟨inUse, beq_self_eq_true _, supplied ▸ located⟩
  have beside : ∀ given ∈ [first, second], state.Beside "system" place given := by
    intro given mem command parsed
    rcases List.mem_pair.1 mem with rfl | rfl
    · cases large.symm.trans parsed
      exact ⟨rfl, fun _ => rfl⟩
    · cases unit.symm.trans parsed
      exact ⟨rfl, fun _ => rfl⟩
  have amounts : [first, second].filterMap (state.amount? "system" place) =
      [10 ^ Numeral.maxDigits - 1, 1] := by
    rw [List.filterMap_cons_some (amount rfl large), List.filterMap_cons_some (amount rfl unit)]
    rfl
  obtain ⟨same, records⟩ := records_afterAll reachable (toOption_eq_some.1 found)
    (List.cons_ne_nil _ _) counts beside
  have total (sum : Int) : Record.countedOn none [sum - 1, 1] = some (.counter sum) := by
    rw [Record.countedOn_cons, Record.countedOn_cons, Record.countedOn, if_pos rfl]
    simp only [Store.totalOf, Int.zero_add, Int.sub_add_cancel]
  rw [amounts, before, total] at records
  obtain ⟨resolver, left, resolved, locates⟩ := exists_of_locate? located
  obtain ⟨shown, shows⟩ := exists_showColumn locates rfl
  have reached := reachable.afterAll [first, second]
  have reply := reply_get_of_counter reached.coherent reached.sound
    ((same.family _).trans (toOption_eq_some.1 found)) (toOption_eq_some.1 asks) rfl
    ((same.resolver _).trans resolved) locates shows records
  rw [reply, counterReply, if_neg]
  · rfl
  · rw [← cast, Int.natAbs_natCast]
    exact Nat.lt_irrefl _

end State

end WideColumn
