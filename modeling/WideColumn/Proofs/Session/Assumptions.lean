import WideColumn.Proofs.Session.Isolation
import WideColumn.Proofs.Success
import WideColumn.Proofs.TwoRuns

/-!
# Assumptions give way to the schema

A session may assume validators, but a column family that declares its own leaves nothing to assume:
every choice between a declaration and an assumption falls to the declaration. So two resolvers for
such a column family agree (`Resolver.Agree`), whatever the sessions assume, and a statement on data
does the same for both, with the same reply. What has to be shown is that each place where a literal
is read or bytes are shown asks for one of the choices that are declared.
-/

namespace WideColumn

/-- Whether a definition declares a validator wherever a session could assume one. -/
structure ColumnFamily.Declared (family : ColumnFamily) : Prop where
  keys : family.keyValidationClass.isSome = true
  comparator : family.comparatorType.isSome = true
  subcomparator : family.isSuper = true → family.subcomparatorType.isSome = true
  values : family.defaultValidationClass.isSome = true

/-- The column family whose data a command is about, for the commands on data and the one that drops
an index. -/
def Command.dataFamily? : Command → Option String
  | set address _ _ => some address.family
  | get address _ _ => some address.family
  | getWhere family _ _ => some family
  | del address => some address.family
  | incr address _ => some address.family
  | decr address _ => some address.family
  | count address => some address.family
  | list family _ _ _ => some family
  | truncate family => some family
  | dropIndex family _ => some family
  | _ => none

/-! ### Resolvers that agree -/

/-- What is declared is chosen over any assumption. -/
theorem choose_declared {declared : Option String} (given : declared.isSome = true)
    (assumed other : Option Validator) (default : Validator) :
    choose declared assumed default = choose declared other default := by
  obtain ⟨name, rfl⟩ := Option.isSome_iff_exists.1 given
  simp only [choose, declaredValidator]
  cases Validator.named name <;> rfl

namespace Resolver

/-- Whether two resolvers make the same choices for one column family. -/
structure Agree (first second : Resolver) : Prop where
  family : second.family = first.family
  keys : second.keyChoice = first.keyChoice
  comparator : second.comparator = first.comparator
  columnNames : second.columnNameValidator = first.columnNameValidator
  values : ∀ column, second.valueChoice column = first.valueChoice column

/-- Where everything is declared, assumptions make no difference. -/
theorem agree_of_declared {family : ColumnFamily} (declared : family.Declared)
    (assumed other : Assumptions) : Agree ⟨family, assumed⟩ ⟨family, other⟩ where
  family := rfl
  keys := choose_declared declared.keys _ _ _
  comparator := by
    rw [comparator, choose_declared declared.comparator _ assumed.comparator]
    rfl
  columnNames := by
    cases super : family.isSuper with
    | true =>
      have chosen := choose_declared (declared.subcomparator super) other.subcomparator
        assumed.subcomparator .bytes
      simp only [columnNameValidator, super, if_true, subcomparator, chosen]
    | false =>
      have chosen := choose_declared declared.comparator other.comparator assumed.comparator .bytes
      simp only [columnNameValidator, super, Bool.false_eq_true, if_false, comparator, chosen]
  values column := by
    -- A definition of the column itself comes before the declaration for all columns.
    unfold valueChoice
    cases column.bind family.column? with
    | some definition => rfl
    | none => exact choose_declared declared.values _ _ _

namespace Agree

variable {first second : Resolver} (agree : first.Agree second)

include agree

theorem encodeKey (literal : Literal) : second.encodeKey literal = first.encodeKey literal := by
  rw [Resolver.encodeKey, Resolver.keyValidator, agree.keys]
  rfl

theorem encodeSuperColumn (literal : Literal) :
    second.encodeSuperColumn literal = first.encodeSuperColumn literal := by
  rw [Resolver.encodeSuperColumn, agree.comparator]
  rfl

theorem encodeColumn (literal : Literal) :
    second.encodeColumn literal = first.encodeColumn literal := by
  rw [Resolver.encodeColumn, agree.columnNames]
  rfl

theorem valueValidator (column : Option Bytes) :
    second.valueValidator column = first.valueValidator column := by
  rw [Resolver.valueValidator, agree.values]
  rfl

theorem encodeValue (literal : Literal) (column : Bytes) :
    second.encodeValue literal column = first.encodeValue literal column := by
  unfold Resolver.encodeValue
  rw [agree.valueValidator, agree.family]

theorem encodeCondition (condition : Condition) :
    Action.encodeCondition second condition = Action.encodeCondition first condition := by
  unfold Action.encodeCondition
  simp only [agree.encodeColumn, agree.valueValidator]

theorem locate (address : Address) :
    Action.locate second address = Action.locate first address := by
  unfold Action.locate
  simp only [agree.family, agree.encodeKey, agree.encodeSuperColumn, agree.encodeColumn]

theorem showKey (data : Bytes) : second.showKey data = first.showKey data := by
  rw [Resolver.showKey, agree.keys]
  rfl

theorem showSuperColumn (data : Bytes) : second.showSuperColumn data = first.showSuperColumn data := by
  rw [Resolver.showSuperColumn, agree.comparator]
  rfl

theorem showColumn (data : Bytes) : second.showColumn data = first.showColumn data := by
  rw [Resolver.showColumn, agree.columnNames]
  rfl

theorem showValue (data column : Bytes) (asked : Option Validator) :
    second.showValue data column asked = first.showValue data column asked := by
  unfold Resolver.showValue
  rw [agree.values]

theorem showCell (asked : Option Validator) (cell : Cell) :
    Action.showCell second asked cell = Action.showCell first asked cell := by
  unfold Action.showCell
  simp only [agree.showColumn, agree.showValue]

theorem showEntries (asked : Option Validator) (entries : List Entry) :
    Action.showEntries second asked entries = Action.showEntries first asked entries := by
  have each (entry : Entry) :
      Action.showEntry second asked entry = Action.showEntry first asked entry := by
    cases entry with
    | cell cell => rw [Action.showEntry, agree.showCell, Action.showEntry]
    | superColumn name cells =>
      simp only [Action.showEntry, agree.showSuperColumn, funext (agree.showCell asked)]
    | misplaced => rfl
  rw [Action.showEntries, funext each]
  rfl

theorem showRows (rows : List RowSlice) :
    Action.showRows second rows = Action.showRows first rows := by
  have each (row : RowSlice) : Action.showRow second row = Action.showRow first row := by
    unfold Action.showRow
    simp only [agree.showKey, agree.showEntries]
  rw [Action.showRows, funext each]
  rfl

end Agree

end Resolver

/-! ### Sessions that differ in their assumptions -/

namespace State

/-- Whether two states have the same store and the same keyspace in use. -/
structure SameButAssumptions (state other : State) : Prop where
  store : other.store = state.store
  inUse : other.session.keyspace = state.session.keyspace

theorem sameButAssumptions_with (state : State)
    (assumptions : Table (String × String) Assumptions) :
    SameButAssumptions state { state with session := { state.session with assumptions } } :=
  ⟨rfl, rfl⟩

namespace SameButAssumptions

variable {state other : State} {moment : Moment} {supply : Supply}

theorem requireConnected (same : SameButAssumptions state other) :
    other.requireConnected = state.requireConnected := by
  rw [State.requireConnected, same.store]
  rfl

theorem requireKeyspace (same : SameButAssumptions state other) :
    other.requireKeyspace = state.requireKeyspace := by
  rw [State.requireKeyspace, same.requireConnected, same.inUse]
  rfl

theorem keyspace (same : SameButAssumptions state other) : other.keyspace = state.keyspace := by
  rw [State.keyspace, same.requireKeyspace, same.store]
  rfl

/-- What a command ends in for sessions that differ in their assumptions. -/
abbrev Alike : (Except Failure Outcome × State) × Supply →
    (Except Failure Outcome × State) × Supply → Prop :=
  Action.Alike SameButAssumptions Eq

/-- A call on the store ends in the same way. -/
theorem call_bind {β : Type} (same : SameButAssumptions state other) {call : Store.Call β}
    {next : β → Action Outcome}
    (rest : ∀ value store, SameButAssumptions { state with store } { other with store } →
      Alike (next value { state with store } supply) (next value { other with store } supply)) :
    Alike ((Action.call call >>= next) state supply)
      ((Action.call call >>= next) other supply) := by
  have called : WideColumn.Alike Eq Eq (call state.store) (call other.store) := by
    rw [same.store]
    generalize call state.store = ended
    obtain ⟨result, store⟩ := ended
    cases result with
    | error failure => exact .error rfl
    | ok value => exact .ok rfl rfl
  refine Action.alike_call_bind called ?_ ?_
  · rintro store _ rfl
    exact ⟨rfl, same.inUse⟩
  · rintro value _ store _ rfl rfl
    exact rest value store ⟨rfl, same.inUse⟩

variable {name : String}
  (declared : ∀ keyspace family, state.keyspace = .ok keyspace → keyspace.family name = .ok family →
    family.Declared)

include declared

/-- A command goes on with resolvers that agree. -/
theorem resolver_bind (same : SameButAssumptions state other) {next : Resolver → Action Outcome}
    (rest : ∀ first second, first.Agree second →
      Alike (next first state supply) (next second other supply)) :
    Alike ((do next (← (← get).resolver name) : Action Outcome) state supply)
      ((do next (← (← get).resolver name) : Action Outcome) other supply) := by
  show Alike (((liftM (state.resolver name) : Action Resolver) >>= next) state supply)
    (((liftM (other.resolver name) : Action Resolver) >>= next) other supply)
  unfold State.resolver
  rw [same.keyspace]
  cases inUse : state.keyspace with
  | error failure => exact ⟨.error same, rfl⟩
  | ok keyspace =>
    cases found : keyspace.family name with
    | error failure =>
      simp only [bind, Except.bind, found]
      exact ⟨.error same, rfl⟩
    | ok family =>
      simp only [bind, Except.bind, found]
      exact rest _ _ (Resolver.agree_of_declared (declared keyspace family inUse found) _ _)

/-! ### Commands on data -/

theorem setColumn (same : SameButAssumptions state other) {address : Address}
    (named : address.family = name) (value : Literal) (ttl : Option Int) :
    Alike (Action.setColumn moment address value ttl state supply)
      (Action.setColumn moment address value ttl other supply) := by
  subst named
  refine same.resolver_bind declared fun first second agree => ?_
  rw [agree.locate, agree.family]
  refine Action.alike_draw_bind same fun location drawn => ?_
  refine Action.alike_lift_bind rfl same fun column _ => ?_
  rw [agree.encodeValue]
  refine Action.alike_draw_bind same fun data left => ?_
  exact same.call_bind fun _ store stored => Action.alike_pure rfl stored

theorem getAddress (same : SameButAssumptions state other) {address : Address}
    (named : address.family = name) (validator : Option String) (limit : Option Int) :
    Alike (Action.getAddress moment address validator limit state supply)
      (Action.getAddress moment address validator limit other supply) := by
  subst named
  refine Action.alike_get_bind ?_
  rw [same.store]
  refine same.resolver_bind declared fun first second agree => ?_
  refine Action.alike_lift_bind rfl same fun asked _ => ?_
  rw [agree.locate]
  refine Action.alike_draw_bind same fun location left => ?_
  split
  · refine Action.alike_lift_bind rfl same fun entries _ => ?_
    refine Action.alike_lift_bind (agree.showEntries asked entries) same fun shown _ => ?_
    exact Action.alike_pure rfl same
  · refine Action.alike_lift_bind rfl same fun entry _ => ?_
    split
    · refine Action.alike_lift_bind (agree.showCell asked _) same fun shown _ => ?_
      exact Action.alike_pure rfl same
    · exact Action.alike_throw same
    · exact Action.alike_pure rfl same

theorem getMatching (same : SameButAssumptions state other) (conditions : List Condition)
    (limit : Option Int) :
    Alike (Action.getMatching moment name conditions limit state supply)
      (Action.getMatching moment name conditions limit other supply) := by
  refine Action.alike_get_bind ?_
  rw [same.store]
  refine same.resolver_bind declared fun first second agree => ?_
  rw [funext agree.encodeCondition, agree.family]
  refine Action.alike_draw_bind same fun expressions left => ?_
  refine Action.alike_lift_bind rfl same fun rows _ => ?_
  rw [agree.showRows]
  exact Action.alike_lift (fun _ => rfl) same

theorem delete (same : SameButAssumptions state other) {address : Address}
    (named : address.family = name) :
    Alike (Action.delete address state supply) (Action.delete address other supply) := by
  subst named
  refine same.resolver_bind declared fun first second agree => ?_
  rw [agree.locate]
  refine Action.alike_draw_bind same fun location left => ?_
  refine same.call_bind fun _ store stored => ?_
  -- Only the text of the outcome depends on what was removed.
  split
  · exact Action.alike_pure rfl stored
  · split <;> exact Action.alike_pure rfl stored

theorem addToCounter (same : SameButAssumptions state other) {address : Address}
    (named : address.family = name) (delta : Int) (outcome : Outcome) :
    Alike (Action.addToCounter address delta outcome state supply)
      (Action.addToCounter address delta outcome other supply) := by
  subst named
  refine same.resolver_bind declared fun first second agree => ?_
  rw [agree.locate, agree.family]
  refine Action.alike_draw_bind same fun location left => ?_
  refine Action.alike_lift_bind rfl same fun column _ => ?_
  exact same.call_bind fun _ store stored => Action.alike_pure rfl stored

theorem countEntries (same : SameButAssumptions state other) {address : Address}
    (named : address.family = name) :
    Alike (Action.countEntries moment address state supply)
      (Action.countEntries moment address other supply) := by
  subst named
  refine Action.alike_get_bind ?_
  rw [same.store]
  refine same.resolver_bind declared fun first second agree => ?_
  rw [agree.locate]
  refine Action.alike_draw_bind same fun location left => ?_
  dsimp only
  split
  · exact Action.alike_throw_bind same
  · refine Action.alike_lift_bind rfl same fun entries _ => ?_
    exact Action.alike_pure rfl same

theorem listRows (same : SameButAssumptions state other) (start stop : Option Literal)
    (limit : Option Int) :
    Alike (Action.listRows moment name start stop limit state supply)
      (Action.listRows moment name start stop limit other supply) := by
  refine Action.alike_get_bind ?_
  rw [same.store]
  refine same.resolver_bind declared fun first second agree => ?_
  rw [funext agree.encodeKey, agree.family]
  refine Action.alike_draw_bind same fun low drawn => ?_
  refine Action.alike_draw_bind same fun high left => ?_
  refine Action.alike_lift_bind rfl same fun rows _ => ?_
  rw [agree.showRows]
  exact Action.alike_lift (fun _ => rfl) same

theorem dropIndex (same : SameButAssumptions state other) (column : Literal) :
    Alike (Action.dropIndex name column state supply)
      (Action.dropIndex name column other supply) := by
  refine same.resolver_bind declared fun first second agree => ?_
  rw [agree.encodeColumn, agree.family]
  refine Action.alike_draw_bind same fun data left => ?_
  dsimp only
  split
  · exact same.call_bind fun _ store stored => Action.alike_pure rfl stored
  · exact Action.alike_throw_bind same

omit declared in
theorem truncateFamily (same : SameButAssumptions state other) (name : String) :
    Alike (Action.truncateFamily name state supply) (Action.truncateFamily name other supply) := by
  refine Action.alike_get_bind ?_
  refine Action.alike_lift_bind same.keyspace same fun keyspace _ => ?_
  refine Action.alike_lift_bind rfl same fun family _ => ?_
  exact same.call_bind fun _ store stored => Action.alike_pure rfl stored

/-- A command on the data of a column family that declares its validators ends alike. -/
theorem execute (same : SameButAssumptions state other) {command : Command}
    (about : command.dataFamily? = some name) :
    Alike (Action.execute moment command state supply)
      (Action.execute moment command other supply) := by
  have inKeyspace {action : Action Outcome}
      (alike : Alike (action state supply) (action other supply)) :=
    Action.alike_inKeyspace same.requireConnected same.requireKeyspace same alike
  have named {family : String} (given : some family = some name) : family = name :=
    Option.some.inj given
  cases command with
  | set address value ttl => exact inKeyspace (same.setColumn declared (named about) value ttl)
  | get address validator limit =>
    exact inKeyspace (same.getAddress declared (named about) validator limit)
  | getWhere family conditions limit =>
    obtain rfl := named about
    exact inKeyspace (same.getMatching declared conditions limit)
  | del address => exact inKeyspace (same.delete declared (named about))
  | incr address amount => exact inKeyspace (same.addToCounter declared (named about) amount _)
  | decr address amount => exact inKeyspace (same.addToCounter declared (named about) _ _)
  | count address => exact inKeyspace (same.countEntries declared (named about))
  | list family start stop limit =>
    obtain rfl := named about
    exact inKeyspace (same.listRows declared start stop limit)
  | truncate family => exact inKeyspace (same.truncateFamily family)
  | dropIndex family column =>
    obtain rfl := named about
    exact inKeyspace (same.dropIndex declared column)
  | _ => cases about

end SameButAssumptions

variable {state other : State} {moment : Moment} {newline statement name : String} {supply : Supply}

/-- A statement on the data of a column family that declares all its validators gives two sessions
that differ in their assumptions only the same reply, and leaves the same store. -/
theorem answer_of_declared {command : Command} (same : SameButAssumptions state other)
    (parsed : Command.parse statement = .ok command) (about : command.dataFamily? = some name)
    (declared : ∀ keyspace family, state.keyspace = .ok keyspace →
      keyspace.family name = .ok family → family.Declared) :
    (other.answer moment newline statement supply).1.1 =
        (state.answer moment newline statement supply).1.1 ∧
      (other.answer moment newline statement supply).1.2.store =
        (state.answer moment newline statement supply).1.2.store ∧
      (other.answer moment newline statement supply).2 =
        (state.answer moment newline statement supply).2 := by
  rw [answer_of_parsed parsed, answer_of_parsed parsed]
  obtain ⟨runs, drawn⟩ : SameButAssumptions.Alike (Action.execute moment command state supply)
    (Action.execute moment command other supply) := same.execute declared about
  generalize Action.execute moment command state supply = first at runs drawn
  generalize Action.execute moment command other supply = second at runs drawn
  obtain ⟨⟨result, after⟩, left⟩ := first
  obtain ⟨⟨result', again⟩, left'⟩ := second
  cases runs with
  | error states => exact ⟨rfl, states.store, drawn.symm⟩
  | ok outcomes states =>
    subst outcomes
    exact ⟨rfl, states.store, drawn.symm⟩

/-- A column in a super column is set by the declared validators, also for a session that assumes
another validator for every part of it. -/
theorem answer_of_declared_set :
    let family : ColumnFamily :=
      { keyspace := "k", name := "S", columnType := "Super", comparatorType := some "LongType"
        subcomparatorType := some "IntegerType", keyValidationClass := some "UTF8Type"
        defaultValidationClass := some "LongType" }
    let keyspace : Keyspace := { name := "k", families := [family] }
    let state : State :=
      { session := { keyspace := some "k" }
        store := { connection := .opened (some "k"), keyspaces := [keyspace] } }
    let assumed : Assumptions := ⟨some .long, some .bytes, some .bytes, some .utf8⟩
    let other : State := { state with
      session := { state.session with assumptions := Table.empty.put ("k", "S") assumed } }
    let supply : Supply := ⟨id, id, 0, 0⟩
    let statement := "set s['x']['7']['9'] = '-1';"
    (state.answer { now := 0 } "\n" statement supply).1.1.isSuccess = true ∧
      (other.answer { now := 0 } "\n" statement supply).1.1 =
        (state.answer { now := 0 } "\n" statement supply).1.1 ∧
      (other.answer { now := 0 } "\n" statement supply).1.2.store =
        (state.answer { now := 0 } "\n" statement supply).1.2.store := by
  intro family keyspace state assumed other supply statement
  have parsed : (Command.parse statement).toOption =
      some (.set ⟨"s", .plain "x", .two (.plain "7") (.plain "9")⟩ (.plain "-1") none) := by
    decide +kernel
  have found : (state.keyspace >>= fun used => used.family "s").toOption = some family := by
    decide +kernel
  have declared : ∀ used given, state.keyspace = .ok used → used.family "s" = .ok given →
      given.Declared := by
    intro used given inUse known
    have lookup : (state.keyspace >>= fun used => used.family "s") = .ok given :=
      bind_eq_ok.2 ⟨used, inUse, known⟩
    obtain rfl : family = given := Except.ok.inj ((toOption_eq_some.1 found).symm.trans lookup)
    exact ⟨rfl, rfl, fun _ => rfl, rfl⟩
  have alike := @answer_of_declared state other { now := 0 } "\n" statement "s" supply _
    (sameButAssumptions_with state _) (toOption_eq_some.1 parsed) rfl declared
  exact ⟨by decide +kernel, alike.1, alike.2.1⟩

end State

end WideColumn
