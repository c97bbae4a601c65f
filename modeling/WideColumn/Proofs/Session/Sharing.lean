import Mathlib.Logic.Function.Basic
import WideColumn.Proofs.Schema.Attributes
import WideColumn.Proofs.Session.Coherence
import WideColumn.Proofs.Store.Confinement

/-!
# Sessions that share a store

Several sessions may use one store over one connection. A session looks up column families in the
keyspace that it has in use, but the store works in the keyspace that was selected last, by whichever
session. So what a session does stays in the selected keyspace, and that is its own as long as no
other session has selected another one.
-/

namespace WideColumn

/-- Whether a command asks the store for something in the selected keyspace: those on data and on
column families do. -/
def Command.usesSelected : Command → Bool
  | assume _ _ _ => false
  | command => command.needsKeyspace

/-- Whether two outcomes are the same but for the versions of the schema that they show, which
depend on all keyspaces. -/
inductive Outcome.SameButVersion : Outcome → Outcome → Prop where
  | refl (outcome : Outcome) : SameButVersion outcome outcome
  | versions (version other : String) :
      SameButVersion (.schemaChanged version) (.schemaChanged other)

/-- Whether two replies are the same but for the versions of the schema that they show. -/
inductive Reply.SameButVersion (newline : String) : Reply → Reply → Prop where
  | refl (reply : Reply) : SameButVersion newline reply reply
  | versions (version other : String) :
      SameButVersion newline (.ofResult newline (.ok (.schemaChanged version)))
        (.ofResult newline (.ok (.schemaChanged other)))

namespace State

variable {state other after : State} {moment : Moment} {supply left : Supply}

/-! ### What a command reads -/

/-- Whether two states look the same to a session: over the connection, and in the definition of the
keyspace that it has in use. -/
structure SameView (state other : State) : Prop where
  session : other.session = state.session
  store : Store.SameView state.session.keyspace state.store other.store

namespace SameView

theorem requireConnected (view : SameView state other) :
    other.requireConnected = state.requireConnected := by
  rw [State.requireConnected, view.store.isConnected]
  rfl

theorem requireKeyspace (view : SameView state other) :
    other.requireKeyspace = state.requireKeyspace := by
  rw [State.requireKeyspace, view.requireConnected, view.session]
  rfl

theorem keyspace (view : SameView state other) : other.keyspace = state.keyspace := by
  unfold State.keyspace
  rw [view.requireKeyspace]
  refine bind_congr_of_ok fun name required => ?_
  have described : other.store.describeKeyspace name = state.store.describeKeyspace name := by
    rw [Store.describeKeyspace, view.store.requireConnected,
      view.store.described name (keyspace_of_requireKeyspace required)]
    rfl
  rw [described]

theorem resolver (view : SameView state other) (familyName : String) :
    other.resolver familyName = state.resolver familyName := by
  rw [State.resolver, view.keyspace, view.session]
  rfl

theorem reach (view : SameView state other) (filed : Keyspace.WellFiled state.store.keyspaces) :
    Store.SameReach state.store other.store :=
  view.store.reach filed

/-- What a command ends in when it looks the same to it. -/
abbrev Alike : (Except Failure Outcome × State) × Supply →
    (Except Failure Outcome × State) × Supply → Prop :=
  Action.Alike SameView Outcome.SameButVersion

/-- A call on the store whose result is always the same. -/
theorem call_bind (view : SameView state other) {stored : Store.Call Unit}
    {next : Unit → Action Outcome}
    (called : WideColumn.Alike (Store.SameView state.session.keyspace) Eq (stored state.store)
      (stored other.store))
    (rest : ∀ store again, SameView { state with store } { other with store := again } →
      Alike (next () { state with store } supply) (next () { other with store := again } supply)) :
    Alike ((Action.call stored >>= next) state supply)
      ((Action.call stored >>= next) other supply) := by
  refine Action.alike_call_bind called (fun store again stores => ⟨view.session, stores⟩) ?_
  rintro _ _ store again rfl stores
  exact rest store again ⟨view.session, stores⟩

/-- A change of the schema shows the version after it. -/
theorem schemaChange (view : SameView state other) {change : Store.Call String}
    (called : WideColumn.Alike (Store.SameView state.session.keyspace) (fun _ _ => True)
      (change state.store) (change other.store)) :
    Alike ((do return Outcome.schemaChanged (← Action.call change) : Action Outcome) state supply)
      ((do return Outcome.schemaChanged (← Action.call change) : Action Outcome) other supply) := by
  refine Action.alike_call_bind called (fun store again stores => ⟨view.session, stores⟩) ?_
  intro version elsewhere store again _ stores
  exact Action.alike_pure (.versions version elsewhere) ⟨view.session, stores⟩

variable (filed : Keyspace.WellFiled state.store.keyspaces)

include filed

theorem setColumn (view : SameView state other) (address : Address) (value : Literal)
    (ttl : Option Int) :
    Alike (Action.setColumn moment address value ttl state supply)
      (Action.setColumn moment address value ttl other supply) := by
  refine Action.alike_get_bind ?_
  refine Action.alike_lift_bind (view.resolver _) view fun resolver _ => ?_
  refine Action.alike_draw_bind view fun location located => ?_
  refine Action.alike_lift_bind rfl view fun column _ => ?_
  refine Action.alike_draw_bind view fun data left => ?_
  refine view.call_bind (Store.SameView.kept.insertColumn (view.reach filed) view.store _ _ _ _)
    fun store again stores => ?_
  exact Action.alike_pure (.refl _) stores

theorem getAddress (view : SameView state other) (address : Address) (validator : Option String)
    (limit : Option Int) :
    Alike (Action.getAddress moment address validator limit state supply)
      (Action.getAddress moment address validator limit other supply) := by
  refine Action.alike_get_bind ?_
  refine Action.alike_lift_bind (view.resolver _) view fun resolver _ => ?_
  refine Action.alike_lift_bind rfl view fun asked _ => ?_
  refine Action.alike_draw_bind view fun location located => ?_
  split
  · refine Action.alike_lift_bind ((view.reach filed).getRow _ _ _ _ _) view fun entries _ => ?_
    refine Action.alike_lift_bind rfl view fun shown _ => ?_
    exact Action.alike_pure (.refl _) view
  · refine Action.alike_lift_bind ((view.reach filed).getColumn _ _) view fun entry _ => ?_
    split
    · refine Action.alike_lift_bind rfl view fun shown _ => ?_
      exact Action.alike_pure (.refl _) view
    · exact Action.alike_throw view
    · exact Action.alike_pure (.refl _) view

theorem getMatching (view : SameView state other) (familyName : String)
    (conditions : List Condition) (limit : Option Int) :
    Alike (Action.getMatching moment familyName conditions limit state supply)
      (Action.getMatching moment familyName conditions limit other supply) := by
  refine Action.alike_get_bind ?_
  refine Action.alike_lift_bind (view.resolver _) view fun resolver _ => ?_
  refine Action.alike_draw_bind view fun expressions left => ?_
  refine Action.alike_lift_bind ((view.reach filed).getIndexedSlices _ _ _ _) view fun rows _ => ?_
  exact Action.alike_lift .refl view

theorem listRows (view : SameView state other) (familyName : String)
    (start stop : Option Literal) (limit : Option Int) :
    Alike (Action.listRows moment familyName start stop limit state supply)
      (Action.listRows moment familyName start stop limit other supply) := by
  refine Action.alike_get_bind ?_
  refine Action.alike_lift_bind (view.resolver _) view fun resolver _ => ?_
  refine Action.alike_draw_bind view fun first drawn => ?_
  refine Action.alike_draw_bind view fun last left => ?_
  refine Action.alike_lift_bind ((view.reach filed).getSlice _ _ _ _ _) view fun rows _ => ?_
  exact Action.alike_lift .refl view

theorem countEntries (view : SameView state other) (address : Address) :
    Alike (Action.countEntries moment address state supply)
      (Action.countEntries moment address other supply) := by
  refine Action.alike_get_bind ?_
  refine Action.alike_lift_bind (view.resolver _) view fun resolver _ => ?_
  refine Action.alike_draw_bind view fun location left => ?_
  dsimp only
  split
  · exact Action.alike_throw_bind view
  · refine Action.alike_lift_bind ((view.reach filed).getRow _ _ _ _ _) view fun entries _ => ?_
    exact Action.alike_pure (.refl _) view

theorem delete (view : SameView state other) (address : Address) :
    Alike (Action.delete address state supply) (Action.delete address other supply) := by
  refine Action.alike_get_bind ?_
  refine Action.alike_lift_bind (view.resolver _) view fun resolver _ => ?_
  refine Action.alike_draw_bind view fun location left => ?_
  refine view.call_bind (Store.SameView.kept.removeColumn (view.reach filed) view.store _)
    fun store again stores => ?_
  -- Only the text of the outcome depends on what was removed.
  split
  · exact Action.alike_pure (.refl _) stores
  · split <;> exact Action.alike_pure (.refl _) stores

theorem addToCounter (view : SameView state other) (address : Address) (delta : Int)
    (outcome : Outcome) :
    Alike (Action.addToCounter address delta outcome state supply)
      (Action.addToCounter address delta outcome other supply) := by
  refine Action.alike_get_bind ?_
  refine Action.alike_lift_bind (view.resolver _) view fun resolver _ => ?_
  refine Action.alike_draw_bind view fun location left => ?_
  refine Action.alike_lift_bind rfl view fun column _ => ?_
  refine view.call_bind (Store.SameView.kept.addToCounter (view.reach filed) view.store _ _)
    fun store again stores => ?_
  exact Action.alike_pure (.refl _) stores

theorem truncateFamily (view : SameView state other) (familyName : String) :
    Alike (Action.truncateFamily familyName state supply)
      (Action.truncateFamily familyName other supply) := by
  refine Action.alike_get_bind ?_
  refine Action.alike_lift_bind view.keyspace view fun keyspace _ => ?_
  refine Action.alike_lift_bind rfl view fun family _ => ?_
  refine view.call_bind (Store.SameView.kept.truncate (view.reach filed) view.store _)
    fun store again stores => ?_
  exact Action.alike_pure (.refl _) stores

omit filed

theorem createFamily (view : SameView state other) (name : String) (attributes : Attributes) :
    Alike (Action.createFamily name attributes state supply)
      (Action.createFamily name attributes other supply) := by
  refine Action.alike_get_bind ?_
  refine Action.alike_lift_bind view.keyspace view fun keyspace _ => ?_
  dsimp only
  split
  · exact Action.alike_throw_bind view
  · refine Action.alike_draw_bind view fun family left => ?_
    exact view.schemaChange (Store.SameView.kept.createFamily view.store.currentKeyspace view.store family)

theorem updateFamily (view : SameView state other) (name : String) (attributes : Attributes) :
    Alike (Action.updateFamily name attributes state supply)
      (Action.updateFamily name attributes other supply) := by
  refine Action.alike_get_bind ?_
  refine Action.alike_lift_bind view.keyspace view fun keyspace _ => ?_
  refine Action.alike_lift_bind rfl view fun family _ => ?_
  refine Action.alike_draw_bind view fun updated left => ?_
  exact view.schemaChange (Store.SameView.kept.updateFamily view.store.currentKeyspace view.store updated)

theorem dropFamily (view : SameView state other) (name : String) :
    Alike (Action.dropFamily name state supply) (Action.dropFamily name other supply) := by
  refine Action.alike_get_bind ?_
  refine Action.alike_lift_bind view.keyspace view fun keyspace _ => ?_
  refine Action.alike_lift_bind rfl view fun family _ => ?_
  exact view.schemaChange (Store.SameView.kept.dropFamily view.store.currentKeyspace view.store family.name)

theorem dropIndex (view : SameView state other) (familyName : String) (column : Literal) :
    Alike (Action.dropIndex familyName column state supply)
      (Action.dropIndex familyName column other supply) := by
  refine Action.alike_get_bind ?_
  refine Action.alike_lift_bind (view.resolver _) view fun resolver _ => ?_
  refine Action.alike_draw_bind view fun name left => ?_
  dsimp only
  split
  · exact view.schemaChange (Store.SameView.kept.dropIndex view.store.currentKeyspace view.store _ name)
  · exact Action.alike_throw_bind view

/-- A command that asks the store ends alike in states that look the same. -/
theorem execute (view : SameView state other) (filed : Keyspace.WellFiled state.store.keyspaces)
    {command : Command} (uses : command.usesSelected = true) :
    Alike (Action.execute moment command state supply)
      (Action.execute moment command other supply) := by
  have inKeyspace {action : Action Outcome}
      (alike : Alike (action state supply) (action other supply)) :=
    Action.alike_inKeyspace view.requireConnected view.requireKeyspace view alike
  cases command with
  | createFamily name attributes => exact inKeyspace (view.createFamily name attributes)
  | updateFamily name attributes => exact inKeyspace (view.updateFamily name attributes)
  | dropFamily name => exact inKeyspace (view.dropFamily name)
  | dropIndex family column => exact inKeyspace (view.dropIndex family column)
  | set address value ttl => exact inKeyspace (view.setColumn filed address value ttl)
  | get address validator limit => exact inKeyspace (view.getAddress filed address validator limit)
  | getWhere family conditions limit =>
    exact inKeyspace (view.getMatching filed family conditions limit)
  | del address => exact inKeyspace (view.delete filed address)
  | incr address amount => exact inKeyspace (view.addToCounter filed address amount _)
  | decr address amount => exact inKeyspace (view.addToCounter filed address _ _)
  | count address => exact inKeyspace (view.countEntries filed address)
  | list family start stop limit => exact inKeyspace (view.listRows filed family start stop limit)
  | truncate family => exact inKeyspace (view.truncateFamily filed family)
  | _ => cases uses

theorem answer (view : SameView state other) (filed : Keyspace.WellFiled state.store.keyspaces)
    {newline statement : String} {command : Command}
    (parsed : Command.parse statement = .ok command) (uses : command.usesSelected = true) :
    let answered := state.answer moment newline statement supply
    let again := other.answer moment newline statement supply
    Reply.SameButVersion newline answered.1.1 again.1.1 ∧ SameView answered.1.2 again.1.2 ∧
      answered.2 = again.2 := by
  rw [answer_of_parsed parsed, answer_of_parsed parsed]
  obtain ⟨runs, drawn⟩ : Alike (Action.execute moment command state supply)
    (Action.execute moment command other supply) := view.execute filed uses
  generalize Action.execute moment command state supply = first at runs drawn
  generalize Action.execute moment command other supply = second at runs drawn
  obtain ⟨⟨result, after⟩, left⟩ := first
  obtain ⟨⟨result', again⟩, left'⟩ := second
  cases runs with
  | error states => exact ⟨.refl _, states, drawn⟩
  | ok outcomes states =>
    cases outcomes with
    | refl outcome => exact ⟨.refl _, states, drawn⟩
    | versions version elsewhere => exact ⟨.versions version elsewhere, states, drawn⟩

end SameView

/-! ### What a command changes -/

/-- Whether a command changed nothing but the selected keyspace. -/
structure Stays (state after : State) : Prop where
  session : after.session = state.session
  store : Store.Stays state.store after.store

theorem addToCounter_stays (filed : Keyspace.WellFiled state.store.keyspaces) {address : Address}
    {delta : Int} {given outcome : Outcome}
    (run : Action.addToCounter address delta given state supply = ((.ok outcome, after), left)) :
    Stays state after := by
  obtain ⟨_, _, _, _, -, -, -, called, rfl, -⟩ := Action.addToCounter_ok run
  obtain ⟨_, family, _, rows, -, found, -, -, -, -, rfl⟩ := Store.addToCounter_ok called
  exact ⟨rfl, Store.stays_withRows filed found rows⟩

/-- What a session updates in the selected keyspace belongs to it. -/
theorem updateFamily_stays (filed : Keyspace.WellFiled state.store.keyspaces)
    (selects : state.session.keyspace = state.store.selected?) {name : String}
    {attributes : Attributes} {outcome : Outcome}
    (run : Action.updateFamily name attributes state supply = ((.ok outcome, after), left)) :
    Stays state after := by
  obtain ⟨keyspace, old, updated, version, store, inUse, found, applied, called, rfl⟩ :=
    Action.updateFamily_ok run
  obtain ⟨current, _, works, -⟩ := Store.updateFamily_ok called
  obtain rfl : keyspace = current := keyspace_eq_current filed selects inUse works
  obtain ⟨selected, mem⟩ := Store.of_currentKeyspace works
  have belongs : updated.keyspace = keyspace.name := by
    rw [(ColumnFamily.comesFrom_of_withAttributes applied).1.keyspace]
    exact filed.belong keyspace mem old (Keyspace.mem_of_family found)
  exact ⟨rfl, Store.updateFamily_stays filed (belongs ▸ selected) called⟩

/-- A read that succeeded was of a column family of the selected keyspace. -/
theorem stays_of_read (filed : Keyspace.WellFiled state.store.keyspaces) {name : String}
    {family : ColumnFamily} (found : state.store.family name = .ok family) : Stays state state :=
  ⟨rfl, Store.stays_of_family filed found⟩

theorem getAddress_stays (filed : Keyspace.WellFiled state.store.keyspaces) {address : Address}
    {validator : Option String} {limit : Option Int} {outcome : Outcome}
    (run : Action.getAddress moment address validator limit state supply =
      ((.ok outcome, after), left)) : Stays state after := by
  obtain rfl := (Action.getAddress_quiet moment address validator limit).eq_of_ok run
  obtain ⟨resolver, -, run⟩ := Action.lift_bind_eq_ok.1 (Action.get_bind_eq_ok.1 run)
  obtain ⟨asked, -, run⟩ := Action.lift_bind_eq_ok.1 run
  obtain ⟨location, drawn, -, run⟩ := Action.draw_bind_eq_ok.1 run
  split at run
  · obtain ⟨entries, read, -⟩ := Action.lift_bind_eq_ok.1 run
    obtain ⟨family, found, -⟩ := bind_eq_ok.1 read
    exact stays_of_read filed found
  · obtain ⟨entry, read, -⟩ := Action.lift_bind_eq_ok.1 run
    obtain ⟨family, found, -⟩ := bind_eq_ok.1 read
    exact stays_of_read filed found

theorem getMatching_stays (filed : Keyspace.WellFiled state.store.keyspaces) {familyName : String}
    {conditions : List Condition} {limit : Option Int} {outcome : Outcome}
    (run : Action.getMatching moment familyName conditions limit state supply =
      ((.ok outcome, after), left)) : Stays state after := by
  obtain rfl := (Action.getMatching_quiet moment familyName conditions limit).eq_of_ok run
  obtain ⟨resolver, -, run⟩ := Action.lift_bind_eq_ok.1 (Action.get_bind_eq_ok.1 run)
  obtain ⟨expressions, drawn, -, run⟩ := Action.draw_bind_eq_ok.1 run
  obtain ⟨rows, read, -⟩ := Action.lift_bind_eq_ok.1 run
  obtain ⟨family, found, -⟩ := bind_eq_ok.1 read
  exact stays_of_read filed found

theorem listRows_stays (filed : Keyspace.WellFiled state.store.keyspaces) {familyName : String}
    {start stop : Option Literal} {limit : Option Int} {outcome : Outcome}
    (run : Action.listRows moment familyName start stop limit state supply =
      ((.ok outcome, after), left)) : Stays state after := by
  obtain rfl := (Action.listRows_quiet moment familyName start stop limit).eq_of_ok run
  obtain ⟨resolver, -, run⟩ := Action.lift_bind_eq_ok.1 (Action.get_bind_eq_ok.1 run)
  obtain ⟨first, _, -, run⟩ := Action.draw_bind_eq_ok.1 run
  obtain ⟨last, _, -, run⟩ := Action.draw_bind_eq_ok.1 run
  obtain ⟨rows, read, -⟩ := Action.lift_bind_eq_ok.1 run
  obtain ⟨family, found, -⟩ := bind_eq_ok.1 read
  exact stays_of_read filed found

theorem countEntries_stays (filed : Keyspace.WellFiled state.store.keyspaces) {address : Address}
    {outcome : Outcome}
    (run : Action.countEntries moment address state supply = ((.ok outcome, after), left)) :
    Stays state after := by
  obtain rfl := (Action.countEntries_quiet moment address).eq_of_ok run
  obtain ⟨resolver, -, run⟩ := Action.lift_bind_eq_ok.1 (Action.get_bind_eq_ok.1 run)
  obtain ⟨location, drawn, -, run⟩ := Action.draw_bind_eq_ok.1 run
  dsimp only at run
  split at run
  · cases run
  · obtain ⟨entries, read, -⟩ := Action.lift_bind_eq_ok.1 run
    obtain ⟨family, found, -⟩ := bind_eq_ok.1 read
    exact stays_of_read filed found

/-- A command that asked the store with success changed the selected keyspace only. -/
theorem executeInKeyspace_stays (filed : Keyspace.WellFiled state.store.keyspaces)
    {command : Command} (uses : command.usesSelected = true) (fits : state.Fits command)
    {outcome : Outcome}
    (run : Action.executeInKeyspace moment command state supply = ((.ok outcome, after), left)) :
    Stays state after := by
  obtain ⟨keyspace, inUse, run⟩ := Action.lift_bind_eq_ok.1 (Action.get_bind_eq_ok.1 run)
  cases command with
  | createFamily name attributes =>
    obtain ⟨_, _, _, _, -, -, -, called, rfl⟩ := Action.createFamily_ok run
    exact ⟨rfl, Store.createFamily_stays filed called⟩
  | updateFamily name attributes =>
    exact updateFamily_stays filed (fits name attributes rfl) run
  | dropFamily name =>
    obtain ⟨_, _, _, _, -, -, called, rfl⟩ := Action.dropFamily_ok run
    exact ⟨rfl, Store.dropFamily_stays filed called⟩
  | dropIndex family column =>
    obtain ⟨_, _, _, _, -, -, called, rfl⟩ := Action.dropIndex_ok run
    exact ⟨rfl, Store.dropIndex_stays filed called⟩
  | set address value ttl =>
    obtain ⟨_, _, _, _, _, _, -, -, -, -, called, rfl, -⟩ := Action.setColumn_ok run
    obtain ⟨_, family, rows, -, -, found, -, -, -, rfl⟩ := Store.insertColumn_ok called
    exact ⟨rfl, Store.stays_withRows filed found rows⟩
  | get address validator limit => exact getAddress_stays filed run
  | getWhere family conditions limit => exact getMatching_stays filed run
  | del address =>
    obtain ⟨_, _, _, -, -, called, rfl⟩ := Action.delete_ok run
    obtain ⟨family, rows, found, -, rfl⟩ := Store.removeColumn_ok called
    exact ⟨rfl, Store.stays_withRows filed found rows⟩
  | incr address amount => exact addToCounter_stays filed run
  | decr address amount => exact addToCounter_stays filed run
  | count address => exact countEntries_stays filed run
  | list family start stop limit => exact listRows_stays filed run
  | truncate family =>
    obtain ⟨_, _, _, -, -, called, rfl, -⟩ := Action.truncateFamily_ok run
    obtain ⟨family, found, rfl⟩ := Store.truncate_ok called
    exact ⟨rfl, Store.stays_withRows filed found .empty⟩
  | _ => cases uses

theorem execute_stays (filed : Keyspace.WellFiled state.store.keyspaces) {command : Command}
    (uses : command.usesSelected = true) (fits : state.Fits command) {outcome : Outcome}
    (run : Action.execute moment command state supply = ((.ok outcome, after), left)) :
    Stays state after := by
  have inKeyspace : Action.executeInKeyspace moment command state supply =
      ((.ok outcome, after), left) := by
    cases command <;> first | exact requireConnected_bind_ok run | cases uses
  exact executeInKeyspace_stays filed uses fits inKeyspace

/-! ### Every column family stays with its keyspace -/

theorem wellFiled_createKeyspace (filed : Keyspace.WellFiled state.store.keyspaces) {name : String}
    {attributes : Attributes} {outcome : Outcome}
    (run : Action.createKeyspace name attributes state supply = ((.ok outcome, after), left)) :
    Keyspace.WellFiled after.store.keyspaces := by
  obtain ⟨keyspace, version, store, -, called, rfl⟩ := Action.createKeyspace_ok run
  obtain ⟨free, rfl⟩ := Store.createKeyspace_ok called
  refine ⟨filed.distinct.concat free, fun other present family held => ?_⟩
  rcases List.mem_append.1 present with old | new
  · exact filed.belong other old family held
  · obtain rfl := List.mem_singleton.1 new
    obtain ⟨given, -, rfl⟩ := List.mem_map.1 held
    rfl

/-- An update leaves the column families that are defined. -/
theorem wellFiled_updateKeyspace (filed : Keyspace.WellFiled state.store.keyspaces) {name : String}
    {attributes : Attributes} {outcome : Outcome}
    (run : Action.updateKeyspace name attributes state supply = ((.ok outcome, after), left)) :
    Keyspace.WellFiled after.store.keyspaces := by
  obtain ⟨_, _, keyspace, version, store, -, -, -, called, rfl⟩ := Action.updateKeyspace_ok run
  refine ⟨(Store.updateKeyspace_sameOutline called).distinctNames filed.distinct, ?_⟩
  obtain ⟨old, found, rfl⟩ := Store.updateKeyspace_ok called
  obtain ⟨mem, same⟩ := Store.of_keyspace?_eq_some found
  intro replaced present
  obtain ⟨before, held, rfl⟩ := List.mem_map.1 present
  split
  · exact fun family kept => (filed.belong old mem family kept).trans same
  · exact filed.belong before held

theorem wellFiled_dropKeyspace (filed : Keyspace.WellFiled state.store.keyspaces) {name : String}
    {outcome : Outcome}
    (run : Action.dropKeyspace name state supply = ((.ok outcome, after), left)) :
    Keyspace.WellFiled after.store.keyspaces := by
  obtain ⟨_, keyspace, version, store, -, -, called, rfl⟩ := Action.dropKeyspace_ok run
  obtain rfl := Store.dropKeyspace_ok called
  exact ⟨filed.distinct.filter _, fun other kept => filed.belong other (List.mem_filter.1 kept).1⟩

theorem wellFiled_execute_ok (filed : Keyspace.WellFiled state.store.keyspaces) {command : Command}
    (fits : state.Fits command) {outcome : Outcome}
    (noConnect : ∀ host port, command ≠ .connect host port)
    (run : Action.execute moment command state supply = ((.ok outcome, after), left)) :
    Keyspace.WellFiled after.store.keyspaces := by
  have stays (uses : command.usesSelected = true)
      (run : Action.executeInKeyspace moment command state supply = ((.ok outcome, after), left)) :
      Keyspace.WellFiled after.store.keyspaces := by
    obtain ⟨_, -, -, kept⟩ := (executeInKeyspace_stays filed uses fits run).store
    exact kept
  cases command with
  | help topic =>
    exact (Action.quiet_lift (Action.help topic)).eq_of_ok run ▸ filed
  | connect host port => exact absurd rfl (noConnect host port)
  | exit =>
    cases run
    exact filed
  | use name =>
    obtain ⟨_, keyspace, store, -, -, called, rfl, -⟩ :=
      Action.useKeyspace_ok (requireConnected_bind_ok run)
    obtain ⟨-, selected, -, rfl⟩ := Store.selectKeyspace_ok called
    exact filed
  | createKeyspace name attributes =>
    exact wellFiled_createKeyspace filed (requireConnected_bind_ok run)
  | updateKeyspace name attributes =>
    exact wellFiled_updateKeyspace filed (requireConnected_bind_ok run)
  | dropKeyspace name => exact wellFiled_dropKeyspace filed (requireConnected_bind_ok run)
  | describe target =>
    exact (Action.describe_quiet target).eq_of_ok (requireConnected_bind_ok run) ▸ filed
  | «show» target =>
    exact (Action.inform_quiet target).eq_of_ok (requireConnected_bind_ok run) ▸ filed
  | assume family kind validator =>
    obtain ⟨_, _, _, _, -, -, -, -, rfl⟩ := Action.assume_ok (requireKeyspace_bind_ok run)
    exact filed
  | _ => exact stays rfl (requireConnected_bind_ok run)

theorem wellFiled_answer (filed : Keyspace.WellFiled state.store.keyspaces)
    {newline statement : String}
    (fits : ∀ command, Command.parse statement = .ok command → state.Fits command) :
    Keyspace.WellFiled (state.answer moment newline statement supply).1.2.store.keyspaces := by
  refine answer_keeps (motive := fun state => Keyspace.WellFiled state.store.keyspaces) filed
    (fun host port => ?_) fun command outcome after left parsed noConnect run =>
      wellFiled_execute_ok filed (fits command parsed) noConnect run
  unfold State.connect
  split <;> exact filed

end State

/-! ### Several sessions -/

/-- Sessions that use one store over one connection. -/
structure Shared (ι : Type) where
  sessions : ι → Session
  store : Store

namespace Shared

variable {ι : Type}

/-- What one of the sessions finds. -/
def state (shared : Shared ι) (who : ι) : State :=
  ⟨shared.sessions who, shared.store⟩

variable [DecidableEq ι]

/-- The sessions and the store with the state that one of the sessions left. -/
def put (shared : Shared ι) (who : ι) (left : State) : Shared ι :=
  ⟨Function.update shared.sessions who left.session, left.store⟩

/-- What is there after one of the sessions gave a statement. -/
def after (shared : Shared ι) (who : ι) (moment : Moment) (newline statement : String)
    (supply : Supply) : Shared ι :=
  shared.put who ((shared.state who).answer moment newline statement supply).1.2

/-- What statements of several sessions lead to, in any order, from a new store. Column families are
updated only in the keyspace that is selected. -/
inductive Reachable : Shared ι → Prop where
  | start (clusterName : String) (connection : Connection) :
      Reachable ⟨fun _ => {}, { clusterName, connection }⟩
  | answered {shared : Shared ι} (reachable : Reachable shared) (who : ι) (moment : Moment)
      (newline statement : String) (supply : Supply)
      (fits : ∀ command, Command.parse statement = .ok command → (shared.state who).Fits command) :
      Reachable (shared.after who moment newline statement supply)

variable {shared : Shared ι}

theorem Reachable.wellFiled (reachable : Reachable shared) :
    Keyspace.WellFiled shared.store.keyspaces := by
  induction reachable with
  | start clusterName connection =>
    refine ⟨List.pairwise_singleton _ _, fun keyspace present => ?_⟩
    obtain rfl := List.mem_singleton.1 present
    exact nofun
  | answered reachable who moment newline statement supply fits ih =>
    dsimp only [after, put]
    exact State.wellFiled_answer ih fits

/-- A statement on data or column families that a session gives with success changes nothing but the
selected keyspace, and reads nothing but that and the definition of the keyspace that the session has
in use: wherever these are the same it gives the same reply and leaves the same there. So it stays in
the session's own keyspace as long as no other session has selected another one. -/
theorem answer_stays_selected (reachable : Reachable shared) (who : ι) {moment : Moment}
    {newline statement : String} {supply : Supply} {command : Command}
    (parsed : Command.parse statement = .ok command) (uses : command.usesSelected = true)
    (fits : (shared.state who).Fits command)
    (succeeded : ((shared.state who).answer moment newline statement supply).1.1.isSuccess = true) :
    ∃ name, shared.store.selected? = some name ∧
      ((shared.state who).answer moment newline statement supply).1.2.session =
        shared.sessions who ∧
      Store.ConfinedTo name shared.store
        ((shared.state who).answer moment newline statement supply).1.2.store ∧
      ∀ other, (shared.state who).SameView other →
        Reply.SameButVersion newline
            ((shared.state who).answer moment newline statement supply).1.1
            (other.answer moment newline statement supply).1.1 ∧
          ((shared.state who).answer moment newline statement supply).1.2.SameView
            (other.answer moment newline statement supply).1.2 ∧
          ((shared.state who).answer moment newline statement supply).2 =
            (other.answer moment newline statement supply).2 := by
  have filed : Keyspace.WellFiled (shared.state who).store.keyspaces := reachable.wellFiled
  obtain ⟨outcome, after, left, run, same⟩ := State.execute_of_isSuccess parsed succeeded
  obtain ⟨session, name, selected, confined, -⟩ := State.execute_stays filed uses fits run
  exact ⟨name, selected, same ▸ session, same ▸ confined, fun other view =>
    view.answer filed parsed uses⟩

/-- One session makes a column family in the keyspace that the other one has selected. -/
theorem answer_stays_selected_create :
    let supply : Supply := ⟨id, id, 0, 0⟩
    let moment : Moment := { now := 0 }
    let statement := "create column family F;"
    let say (shared : Shared Bool) (who : Bool) (statement : String) : Shared Bool :=
      shared.after who moment "\n" statement supply
    let start : Shared Bool := ⟨fun _ => {}, { clusterName := "c", connection := .opened none }⟩
    let shared := say (say (say start true "use system;") false "create keyspace b;") false "use b;"
    (shared.sessions true).keyspace = some "system" ∧ shared.store.selected? = some "b" ∧
      ∃ name, shared.store.selected? = some name ∧
        Store.ConfinedTo name shared.store
          ((shared.state true).answer moment "\n" statement supply).1.2.store ∧
        ∀ other, (shared.state true).SameView other →
          ((shared.state true).answer moment "\n" statement supply).1.2.SameView
            (other.answer moment "\n" statement supply).1.2 := by
  intro supply moment statement say start shared
  have fits {state : State} {statement : String} {command : Command}
      (parsed : Command.parse statement = .ok command)
      (noUpdate : ∀ name attributes, command ≠ .updateFamily name attributes) :
      ∀ found, Command.parse statement = .ok found → state.Fits found := by
    intro found again name attributes same
    rw [parsed] at again
    cases again
    exact absurd same (noUpdate name attributes)
  have uses : Command.parse "use system;" = .ok (.use "system") := by decide +kernel
  have creates : Command.parse "create keyspace b;" = .ok (.createKeyspace "b" .empty) := by
    decide +kernel
  have selects : Command.parse "use b;" = .ok (.use "b") := by decide +kernel
  have parsed : Command.parse statement = .ok (.createFamily "F" .empty) := by decide +kernel
  have reachable : Reachable shared :=
    (((Reachable.start "c" (.opened none)).answered true _ _ _ _ (fits uses nofun)).answered
      false _ _ _ _ (fits creates nofun)).answered false _ _ _ _ (fits selects nofun)
  have succeeded :
      ((shared.state true).answer moment "\n" statement supply).1.1.isSuccess = true := by
    decide +kernel
  have stays := @answer_stays_selected Bool _ shared reachable true moment "\n" statement supply _
    parsed rfl (fits parsed nofun _ parsed) succeeded
  obtain ⟨name, selected, -, confined, reads⟩ := stays
  refine ⟨by decide +kernel, by decide +kernel, name, selected, confined, fun other view => ?_⟩
  exact (reads other view).2.1

/-- A session with one keyspace in use sets a column in the keyspace that another session selected
later: where it would look nothing is changed, and the other session finds the value. -/
theorem set_in_other_keyspace :
    let supply : Supply := ⟨id, id, 0, 0⟩
    let moment : Moment := { now := 0 }
    let say (shared : Shared Bool) (who : Bool) (statement : String) : Shared Bool :=
      shared.after who moment "\n" statement supply
    let start : Shared Bool := ⟨fun _ => {}, Store.connect { clusterName := "c" }⟩
    let first := say (say (say start true "create keyspace a;") true "use a;") true
      "create column family F;"
    let both := say (say (say first false "create keyspace b;") false "use b;") false
      "create column family F;"
    let answered := (both.state true).answer moment "\n" "set F['k']['c'] = 'v';" supply
    let set := say both true "set F['k']['c'] = 'v';"
    (both.sessions true).keyspace = some "a" ∧ (both.sessions false).keyspace = some "b" ∧
      answered.1.1.isSuccess = true ∧
      set.store.rows.get? ("a", "F") = both.store.rows.get? ("a", "F") ∧
      set.store.rows.get? ("b", "F") ≠ both.store.rows.get? ("b", "F") ∧
      ((set.state false).answer moment "\n" "get F['k']['c'];" supply).1.1.output =
        "=> (column=0c, value=v, timestamp=0)\n" := by
  decide +kernel

end Shared

end WideColumn
