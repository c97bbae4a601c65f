import WideColumn.Proofs.Session.Assumptions
import WideColumn.Proofs.Session.Soundness
import WideColumn.Proofs.Store.Guards

/-!
# Commands check before they call

Before a command calls the store it makes sure that the call is in order: that there is a connection
and a keyspace in use, that names are defined or free, that a place has the shape of its column
family, that an index is there and that no counter is set. The store checks all this again, in its own
way, and by exact names where the session looks them up in any letter case. In every state that
statements lead to the checks of the session cover those of the store, so the store never has such a
reason to reject a call (`State.reachable_guards`). What carries this is that session and store have
the same keyspace in use (`State.Coherent`) and that a name finds one definition at most
(`Store.Sound`).
-/

namespace WideColumn

open Failure (Unguarded)

/-! ### Counters -/

theorem Store.find?_of_validatorOf {name : Option String} (counts : Store.validatorOf name = .counter) :
    ∃ known, name = some known ∧ Validator.find? known = some .counter := by
  unfold Store.validatorOf at counts
  cases name with
  | none => cases counts
  | some known =>
    refine ⟨known, rfl, ?_⟩
    cases found : Validator.find? known with
    | none => simp [found] at counts
    | some validator => simpa [found] using counts

/-- What the store takes for a counter, no assumption makes anything else of. -/
theorem Resolver.valueValidator_of_holdsCounter {resolver : Resolver} {column : Bytes}
    (counts : Store.holdsCounter resolver.family column = true) :
    resolver.valueValidator (some column) = .ok .counter := by
  have named {name : String} (found : Validator.find? name = some .counter) :
      Validator.named name = .ok .counter := by
    rw [Validator.named, found]
  have lookup : (some column).bind resolver.family.column? = resolver.family.column? column := rfl
  unfold Store.holdsCounter at counts
  unfold valueValidator valueChoice
  rw [lookup]
  cases defined : resolver.family.column? column with
  | some definition =>
    rw [defined] at counts
    obtain ⟨_, ⟨⟩, found⟩ := Store.find?_of_validatorOf (beq_iff_eq.1 counts)
    dsimp only
    rw [named found]
    rfl
  | none =>
    rw [defined] at counts
    obtain ⟨name, declared, found⟩ := Store.find?_of_validatorOf (beq_iff_eq.1 counts)
    dsimp only
    rw [declared]
    show Choice.validator <$> ((some <$> Validator.named name) >>= _) = _
    rw [named found]
    rfl

/-- A value is read only where the store sees no counter. -/
theorem Resolver.holdsCounter_of_encodeValue {resolver : Resolver} {literal : Literal}
    {column data : Bytes} {supply left : Supply}
    (encoded : resolver.encodeValue literal column supply = (.ok data, left)) :
    Store.holdsCounter resolver.family column = false := by
  by_contra counts
  obtain ⟨validator, chosen, encoded⟩ := Stateful.lift_bind_eq_ok.1 encoded
  rw [Bool.not_eq_false] at counts
  rw [valueValidator_of_holdsCounter counts] at chosen
  cases chosen
  cases encoded

/-! ### Places -/

/-- A place that was found lies in the column family of its resolver, and has the shape of it. -/
theorem Action.locate_shape {resolver : Resolver} {address : Address} {location : Location}
    {supply left : Supply} (located : locate resolver address supply = (.ok location, left)) :
    location.family = resolver.family.name ∧
      Store.checkShape resolver.family location = .ok () := by
  obtain ⟨key, _, -, located⟩ := Stateful.bind_eq_ok.1 located
  cases super : resolver.family.isSuper <;> cases columns : address.columns <;>
    rw [super, columns] at located
  · cases located
    exact ⟨rfl, by simp [Store.checkShape, super]⟩
  · obtain ⟨inner, _, -, located⟩ := Stateful.bind_eq_ok.1 located
    cases located
    exact ⟨rfl, by simp [Store.checkShape, super]⟩
  · cases located
  · cases located
    exact ⟨rfl, by simp [Store.checkShape, super]⟩
  · obtain ⟨outer, _, -, located⟩ := Stateful.bind_eq_ok.1 located
    cases located
    exact ⟨rfl, by simp [Store.checkShape, super]⟩
  · obtain ⟨outer, _, -, located⟩ := Stateful.bind_eq_ok.1 located
    obtain ⟨inner, _, -, located⟩ := Stateful.bind_eq_ok.1 located
    cases located
    exact ⟨rfl, by simp [Store.checkShape, super]⟩

theorem Action.column_of_requireColumn {family : ColumnFamily} {location : Location}
    {column : Bytes} (required : requireColumn family location = .ok column) :
    location.column = some column := by
  unfold requireColumn at required
  split at required
  · rename_i given
    cases required
    exact given
  · split at required <;> cases required

namespace State

variable {state : State} {moment : Moment} {supply : Supply}

/-! ### What the session finds, the store finds -/

/-- The keyspace in use is the one in which the store works. -/
theorem currentKeyspace_of_keyspace (coherent : Coherent state) {keyspace : Keyspace}
    (inUse : state.keyspace = .ok keyspace) : state.store.currentKeyspace = .ok keyspace := by
  obtain ⟨name, own, found⟩ := find?_of_keyspace inUse
  obtain ⟨other, mem, rfl⟩ := List.mem_map.1 (coherent.defined name own)
  obtain rfl : other = keyspace :=
    Option.some.inj ((coherent.distinct.find? mem rfl).symm.trans found)
  refine Store.currentKeyspace_eq_ok.2 ⟨other.name, coherent.selected ▸ own, ?_⟩
  cases exact : state.store.keyspace? other.name with
  | none => exact absurd (beq_self_eq_true other.name) (List.find?_eq_none.1 exact other mem)
  | some again =>
    obtain ⟨againMem, same⟩ := Store.of_keyspace?_eq_some exact
    rw [coherent.distinct.eq againMem mem same]

theorem store_family_of_family (coherent : Coherent state) (sound : state.store.Sound)
    {keyspace : Keyspace} {name : String} {family : ColumnFamily}
    (inUse : state.keyspace = .ok keyspace) (found : keyspace.family name = .ok family) :
    state.store.family family.name = .ok family := by
  have current := currentKeyspace_of_keyspace coherent inUse
  have mem : family ∈ keyspace.families := Keyspace.mem_of_family found
  have distinct := (sound.defined keyspace (Store.of_currentKeyspace current).2).distinct
  refine Store.family_eq_ok.2 ⟨keyspace, current, ?_⟩
  cases exact : keyspace.families.find? fun other => other.name == family.name with
  | none => exact absurd (beq_self_eq_true family.name) (List.find?_eq_none.1 exact family mem)
  | some other =>
    have same : other.name = family.name := by simpa using List.find?_some exact
    rw [distinct.eq (List.mem_of_find?_eq_some exact) mem same]

theorem store_family_of_resolver (coherent : Coherent state) (sound : state.store.Sound)
    {name : String} {resolver : Resolver} (resolved : state.resolver name = .ok resolver) :
    state.store.family resolver.family.name = .ok resolver.family := by
  obtain ⟨keyspace, inUse, resolved⟩ := bind_eq_ok.1 resolved
  obtain ⟨family, found, resolved⟩ := bind_eq_ok.1 resolved
  cases resolved
  exact store_family_of_family coherent sound inUse found

/-! ### Looking things up -/

theorem failsOnly_requireConnected : FailsOnly Unguarded state.requireConnected := by
  unfold State.requireConnected
  split
  · exact failsOnly_ok _
  · exact failsOnly_error.2 trivial

theorem failsOnly_requireKeyspace : FailsOnly Unguarded state.requireKeyspace := by
  refine failsOnly_requireConnected.bind fun _ _ => ?_
  split
  · exact failsOnly_pure _
  · exact failsOnly_throw.2 trivial

theorem isConnected_of_requireConnected (required : state.requireConnected = .ok ()) :
    state.store.isConnected = true := by
  unfold State.requireConnected at required
  split at required
  · assumption
  · cases required

theorem failsOnly_keyspace : FailsOnly Unguarded state.keyspace := by
  refine failsOnly_requireKeyspace.bind fun name required => ?_
  obtain ⟨_, connected, -⟩ := bind_eq_ok.1 required
  have described : FailsOnly Unguarded (state.store.describeKeyspace name) :=
    (Store.failsOnly_requireConnected (isConnected_of_requireConnected connected)).bind fun _ _ =>
      failsOnly_pure _
  refine described.bind fun found _ => ?_
  split
  · exact failsOnly_pure _
  · exact failsOnly_throw.2 trivial

theorem failsOnly_family (keyspace : Keyspace) (name : String) :
    FailsOnly Unguarded (keyspace.family name) := by
  unfold Keyspace.family
  split
  · exact failsOnly_ok _
  · exact failsOnly_error.2 trivial

theorem failsOnly_resolver (name : String) : FailsOnly Unguarded (state.resolver name) :=
  failsOnly_keyspace.bind fun _ _ => (failsOnly_family _ _).bind fun _ _ => failsOnly_pure _

/-! ### Commands on data -/

section Commands

variable (coherent : Coherent state) (sound : state.store.Sound)

include coherent sound

/-- A command on data goes on with a column family that the store finds as well. -/
theorem failsOnly_resolver_bind {name : String} {next : Resolver → Action Outcome}
    (rest : ∀ resolver, state.resolver name = .ok resolver →
      state.store.family resolver.family.name = .ok resolver.family →
      Action.FailsOnly Unguarded (next resolver) state supply) :
    Action.FailsOnly Unguarded (do next (← (← get).resolver name)) state supply := by
  refine Action.failsOnly_get_bind ?_
  exact Action.failsOnly_lift_bind (failsOnly_resolver name) fun resolver resolved =>
    rest resolver resolved (store_family_of_resolver coherent sound resolved)

theorem failsOnly_setColumn (address : Address) (value : Literal) (ttl : Option Int) :
    Action.FailsOnly Unguarded (Action.setColumn moment address value ttl) state supply := by
  refine failsOnly_resolver_bind coherent sound fun resolver _ found => ?_
  refine Action.failsOnly_draw_bind (failsOnly_locate _ _) fun location drawn located => ?_
  refine Action.failsOnly_lift_bind (failsOnly_requireColumn _ _) fun column required => ?_
  refine Action.failsOnly_draw_bind (resolver.failsOnly_encodeValue _ _) fun data left encoded => ?_
  obtain ⟨named, shape⟩ := Action.locate_shape located
  have plain := Resolver.holdsCounter_of_encodeValue encoded
  have given := Action.column_of_requireColumn required
  refine Action.failsOnly_call_bind (Store.failsOnly_insertColumn (named ▸ found) shape ?_)
    fun _ _ _ => Action.failsOnly_pure _
  intro other same
  obtain rfl : column = other := Option.some.inj (given.symm.trans same)
  exact plain

theorem failsOnly_getAddress (address : Address) (validator : Option String)
    (limit : Option Int) :
    Action.FailsOnly Unguarded (Action.getAddress moment address validator limit) state supply := by
  refine Action.failsOnly_get_bind ?_
  refine failsOnly_resolver_bind coherent sound fun resolver _ found => ?_
  refine Action.failsOnly_lift_bind (failsOnly_declaredValidator _) fun asked _ => ?_
  refine Action.failsOnly_draw_bind (failsOnly_locate _ _) fun location left located => ?_
  obtain ⟨named, shape⟩ := Action.locate_shape located
  rw [← named] at found
  split
  · rename_i whole
    rw [← show (⟨location.family, location.key, location.superColumn, none⟩ : Location) = location by
      rw [← Option.isNone_iff_eq_none.1 whole]] at shape
    refine Action.failsOnly_lift_bind (Store.failsOnly_getRow Store.shaped found shape)
      fun entries _ => ?_
    refine Action.failsOnly_lift_bind (failsOnly_showEntries _ _ _) fun shown _ => ?_
    exact Action.failsOnly_pure _
  · rename_i single
    have given : location.column.isSome = true := by
      rwa [Bool.not_eq_true, Option.isNone_eq_false_iff] at single
    refine Action.failsOnly_lift_bind (Store.failsOnly_getColumn Store.shaped found shape (.inr given))
      fun entry _ => ?_
    split
    · refine Action.failsOnly_lift_bind (failsOnly_showCell _ _ _) fun shown _ => ?_
      exact Action.failsOnly_pure _
    · exact Action.failsOnly_throw trivial
    · exact Action.failsOnly_pure _

theorem failsOnly_getMatching (name : String) (conditions : List Condition)
    (limit : Option Int) :
    Action.FailsOnly Unguarded (Action.getMatching moment name conditions limit) state supply := by
  refine Action.failsOnly_get_bind ?_
  refine failsOnly_resolver_bind coherent sound fun resolver _ found => ?_
  refine Action.failsOnly_draw_bind
    (Draw.failsOnly_mapM (failsOnly_encodeCondition resolver) _) fun expressions left _ => ?_
  refine Action.failsOnly_lift_bind (Store.failsOnly_getIndexedSlices found) fun rows _ => ?_
  exact Action.failsOnly_lift (failsOnly_showRows _ _)

theorem failsOnly_delete (address : Address) :
    Action.FailsOnly Unguarded (Action.delete address) state supply := by
  refine failsOnly_resolver_bind coherent sound fun resolver _ found => ?_
  refine Action.failsOnly_draw_bind (failsOnly_locate _ _) fun location left located => ?_
  obtain ⟨named, shape⟩ := Action.locate_shape located
  refine Action.failsOnly_call_bind (Store.failsOnly_removeColumn (named ▸ found) shape)
    fun _ _ _ => ?_
  split
  · exact Action.failsOnly_pure _
  · split <;> exact Action.failsOnly_pure _

theorem failsOnly_addToCounter (address : Address) (delta : Int) (outcome : Outcome) :
    Action.FailsOnly Unguarded (Action.addToCounter address delta outcome) state supply := by
  refine failsOnly_resolver_bind coherent sound fun resolver _ found => ?_
  refine Action.failsOnly_draw_bind (failsOnly_locate _ _) fun location left located => ?_
  obtain ⟨named, shape⟩ := Action.locate_shape located
  refine Action.failsOnly_lift_bind (failsOnly_requireColumn _ _) fun column _ => ?_
  exact Action.failsOnly_call_bind (Store.failsOnly_addToCounter (named ▸ found) shape)
    fun _ _ _ => Action.failsOnly_pure _

theorem failsOnly_countEntries (address : Address) :
    Action.FailsOnly Unguarded (Action.countEntries moment address) state supply := by
  refine Action.failsOnly_get_bind ?_
  refine failsOnly_resolver_bind coherent sound fun resolver _ found => ?_
  refine Action.failsOnly_draw_bind (failsOnly_locate _ _) fun location left located => ?_
  obtain ⟨named, shape⟩ := Action.locate_shape located
  rw [← named] at found
  dsimp only
  split
  · exact Action.failsOnly_throw_bind trivial
  · rename_i whole
    rw [← show (⟨location.family, location.key, location.superColumn, none⟩ : Location) = location by
      rw [← show location.column = none by simpa using whole]] at shape
    exact Action.failsOnly_lift_bind (Store.failsOnly_getRow Store.shaped found shape) fun _ _ =>
      Action.failsOnly_pure _

theorem failsOnly_listRows (name : String) (start stop : Option Literal) (limit : Option Int) :
    Action.FailsOnly Unguarded (Action.listRows moment name start stop limit) state supply := by
  have bound (resolver : Resolver) (key : Option Literal) :
      Draw.FailsOnly Unguarded (key.mapM resolver.encodeKey) := by
    cases key with
    | none => exact Draw.failsOnly_pure _
    | some literal => exact (resolver.failsOnly_encodeKey literal).map some
  refine Action.failsOnly_get_bind ?_
  refine failsOnly_resolver_bind coherent sound fun resolver _ found => ?_
  refine Action.failsOnly_draw_bind (bound resolver start) fun low drawn _ => ?_
  refine Action.failsOnly_draw_bind (bound resolver stop) fun high left _ => ?_
  refine Action.failsOnly_lift_bind (Store.failsOnly_getSlice Store.shaped found) fun rows _ => ?_
  exact Action.failsOnly_lift (failsOnly_showRows _ _)

theorem failsOnly_dropIndex (name : String) (column : Literal) :
    Action.FailsOnly Unguarded (Action.dropIndex name column) state supply := by
  refine failsOnly_resolver_bind coherent sound fun resolver _ found => ?_
  refine Action.failsOnly_draw_bind (resolver.failsOnly_encodeColumn _) fun data left _ => ?_
  dsimp only
  split
  · rename_i indexed
    exact Action.failsOnly_call_bind (Store.failsOnly_dropIndex found indexed) fun _ _ _ =>
      Action.failsOnly_pure _
  · exact Action.failsOnly_throw_bind trivial

theorem failsOnly_truncateFamily (name : String) :
    Action.FailsOnly Unguarded (Action.truncateFamily name) state supply := by
  refine Action.failsOnly_get_bind ?_
  refine Action.failsOnly_lift_bind failsOnly_keyspace fun keyspace inUse => ?_
  refine Action.failsOnly_lift_bind (failsOnly_family _ _) fun family found => ?_
  have known := store_family_of_family coherent sound inUse found
  exact Action.failsOnly_call_bind (Store.failsOnly_truncate known) fun _ _ _ =>
    Action.failsOnly_pure _

/-! ### Commands on column families -/

omit sound in
theorem failsOnly_createFamily (name : String) (attributes : Attributes) :
    Action.FailsOnly Unguarded (Action.createFamily name attributes) state supply := by
  refine Action.failsOnly_get_bind ?_
  refine Action.failsOnly_lift_bind failsOnly_keyspace fun keyspace inUse => ?_
  dsimp only
  split
  · exact Action.failsOnly_throw_bind trivial
  · rename_i free
    refine Action.failsOnly_draw_bind (ColumnFamily.failsOnly_withAttributes _ _)
      fun family left applied => ?_
    -- Attributes do not change the name for which nothing was found.
    have named : family.name = name := (ColumnFamily.comesFrom_of_withAttributes applied).1.name
    have current := currentKeyspace_of_keyspace coherent inUse
    refine Action.failsOnly_call_bind (Store.failsOnly_createFamily current ?_) fun _ _ _ =>
      Action.failsOnly_pure _
    rw [named]
    simpa using free

theorem failsOnly_updateFamily (name : String) (attributes : Attributes) :
    Action.FailsOnly Unguarded (Action.updateFamily name attributes) state supply := by
  refine Action.failsOnly_get_bind ?_
  refine Action.failsOnly_lift_bind failsOnly_keyspace fun keyspace inUse => ?_
  refine Action.failsOnly_lift_bind (failsOnly_family _ _) fun family found => ?_
  refine Action.failsOnly_draw_bind (ColumnFamily.failsOnly_withAttributes _ _)
    fun updated left applied => ?_
  have named : updated.name = family.name := (ColumnFamily.comesFrom_of_withAttributes applied).1.name
  have known := store_family_of_family coherent sound inUse found
  rw [← named] at known
  exact Action.failsOnly_call_bind (Store.failsOnly_updateFamily known) fun _ _ _ =>
    Action.failsOnly_pure _

theorem failsOnly_dropFamily (name : String) :
    Action.FailsOnly Unguarded (Action.dropFamily name) state supply := by
  refine Action.failsOnly_get_bind ?_
  refine Action.failsOnly_lift_bind failsOnly_keyspace fun keyspace inUse => ?_
  refine Action.failsOnly_lift_bind (failsOnly_family _ _) fun family found => ?_
  have known := store_family_of_family coherent sound inUse found
  exact Action.failsOnly_call_bind (Store.failsOnly_dropFamily known) fun _ _ _ =>
    Action.failsOnly_pure _

end Commands

/-! ### Commands on keyspaces -/

section Keyspaces

variable (connected : state.store.isConnected = true)

include connected

theorem failsOnly_describeSchema : FailsOnly Unguarded state.store.describeSchema :=
  (Store.failsOnly_requireConnected connected).bind fun _ _ => failsOnly_pure _

/-- A command goes on with the keyspace that a name finds, in whatever order the keyspaces are
described. -/
theorem failsOnly_findKeyspace_bind (distinct : Keyspace.DistinctNames state.store.keyspaces)
    {name : String} {next : Option Keyspace → Action Outcome}
    (rest : Action.FailsOnly Unguarded (next (Keyspace.find? state.store.keyspaces name)) state
      supply) :
    Action.FailsOnly Unguarded (Action.findKeyspace name >>= next) state supply := by
  rw [Action.findKeyspace, bind_assoc]
  refine Action.failsOnly_get_bind ?_
  rw [bind_assoc]
  refine Action.failsOnly_lift_bind (failsOnly_describeSchema connected)
    fun keyspaces described => ?_
  rw [← distinct.find?_of_perm (Store.describeSchema_perm described)] at rest
  exact rest

/-- A command goes on with a keyspace that has to exist. -/
theorem failsOnly_existingKeyspace_bind (distinct : Keyspace.DistinctNames state.store.keyspaces)
    {name : String} {next : Keyspace → Action Outcome}
    (rest : ∀ keyspace ∈ state.store.keyspaces,
      Action.FailsOnly Unguarded (next keyspace) state supply) :
    Action.FailsOnly Unguarded (Action.existingKeyspace name >>= next) state supply := by
  rw [Action.existingKeyspace, bind_assoc]
  refine failsOnly_findKeyspace_bind connected distinct ?_
  split
  · rename_i keyspace found
    exact rest keyspace (Keyspace.mem_of_find? found)
  · exact Action.failsOnly_throw_bind trivial

theorem failsOnly_useKeyspace (distinct : Keyspace.DistinctNames state.store.keyspaces)
    (name : String) : Action.FailsOnly Unguarded (Action.useKeyspace name) state supply := by
  refine failsOnly_findKeyspace_bind connected distinct ?_
  split
  · exact Action.failsOnly_throw trivial
  · rename_i keyspace found
    have again := distinct.find? (Keyspace.mem_of_find? found) rfl
    exact Action.failsOnly_call_bind (Store.failsOnly_selectKeyspace connected again)
      fun _ _ _ => nofun

theorem failsOnly_createKeyspace (distinct : Keyspace.DistinctNames state.store.keyspaces)
    (name : String) (attributes : Attributes) :
    Action.FailsOnly Unguarded (Action.createKeyspace name attributes) state supply := by
  refine failsOnly_findKeyspace_bind connected distinct ?_
  dsimp only
  split
  · exact Action.failsOnly_throw_bind trivial
  · rename_i free
    refine Action.failsOnly_lift_bind (Keyspace.failsOnly_withAttributes _ _)
      fun keyspace applied => ?_
    -- Attributes do not change the name for which nothing was found.
    have named : keyspace.name = name := Keyspace.name_of_withAttributes applied
    refine Action.failsOnly_call_bind (Store.failsOnly_createKeyspace connected ?_) fun _ _ _ =>
      Action.failsOnly_pure _
    rw [named]
    simpa using free

theorem failsOnly_updateKeyspace (sound : state.store.Sound) (name : String)
    (attributes : Attributes) :
    Action.FailsOnly Unguarded (Action.updateKeyspace name attributes) state supply := by
  refine failsOnly_existingKeyspace_bind connected sound.filed.distinct fun old mem => ?_
  refine Action.failsOnly_lift_bind (Keyspace.failsOnly_withAttributes _ _)
    fun keyspace applied => ?_
  have known := sound.keyspace? mem
  rw [← Keyspace.name_of_withAttributes applied] at known
  exact Action.failsOnly_call_bind (Store.failsOnly_updateKeyspace connected known) fun _ _ _ =>
    Action.failsOnly_pure _

theorem failsOnly_dropKeyspace (sound : state.store.Sound) (name : String) :
    Action.FailsOnly Unguarded (Action.dropKeyspace name) state supply := by
  refine failsOnly_existingKeyspace_bind connected sound.filed.distinct fun keyspace mem => ?_
  have known := sound.keyspace? mem
  exact Action.failsOnly_call_bind (Store.failsOnly_dropKeyspace connected known) fun _ _ _ =>
    nofun

/-! ### Commands that inform -/

theorem failsOnly_describe (target : DescribeTarget) :
    Action.FailsOnly Unguarded (Action.describe target) state supply := by
  have checked : FailsOnly Unguarded state.store.requireConnected :=
    Store.failsOnly_requireConnected connected
  cases target with
  | cluster =>
    refine Action.failsOnly_get_bind ?_
    exact Action.failsOnly_lift_bind (checked.bind fun _ _ => failsOnly_pure _) fun _ _ =>
      Action.failsOnly_pure _
  | keyspace name =>
    have wanted : FailsOnly Unguarded (Action.wantedKeyspace state name) := by
      cases name with
      | some name => exact failsOnly_ok _
      | none => exact failsOnly_requireKeyspace
    refine Action.failsOnly_get_bind ?_
    refine Action.failsOnly_lift_bind wanted fun name _ => ?_
    refine Action.failsOnly_lift_bind (checked.bind fun _ _ => failsOnly_pure _) fun found _ => ?_
    split
    · exact Action.failsOnly_pure _
    · exact Action.failsOnly_throw trivial

theorem failsOnly_inform (target : ShowTarget) :
    Action.FailsOnly Unguarded (Action.inform target) state supply := by
  have checked : FailsOnly Unguarded state.store.requireConnected :=
    Store.failsOnly_requireConnected connected
  refine Action.failsOnly_get_bind ?_
  cases target <;>
    exact Action.failsOnly_lift_bind (checked.bind fun _ _ => failsOnly_pure _) fun _ _ =>
      Action.failsOnly_pure _

end Keyspaces

/-! ### All commands -/

theorem failsOnly_assume (name kind validator : String) :
    Action.FailsOnly Unguarded (Action.assume name kind validator) state supply := by
  have kinds : FailsOnly Unguarded (AssumptionKind.ofName kind) := by
    unfold AssumptionKind.ofName
    dsimp only
    split
    · exact failsOnly_ok _
    · exact failsOnly_error.2 trivial
  refine Action.failsOnly_get_bind ?_
  refine Action.failsOnly_lift_bind failsOnly_keyspace fun keyspace _ => ?_
  refine Action.failsOnly_lift_bind (failsOnly_family _ _) fun family _ => ?_
  refine Action.failsOnly_lift_bind kinds fun _ _ => ?_
  exact Action.failsOnly_lift_bind (Validator.failsOnly_named _) fun _ _ => nofun

theorem failsOnly_executeInKeyspace (coherent : Coherent state) (sound : state.store.Sound)
    (command : Command) :
    Action.FailsOnly Unguarded (Action.executeInKeyspace moment command) state supply := by
  refine Action.failsOnly_get_bind ?_
  refine Action.failsOnly_lift_bind failsOnly_requireKeyspace fun _ _ => ?_
  cases command with
  | createFamily name attributes => exact failsOnly_createFamily coherent name attributes
  | updateFamily name attributes => exact failsOnly_updateFamily coherent sound name attributes
  | dropFamily name => exact failsOnly_dropFamily coherent sound name
  | dropIndex family column => exact failsOnly_dropIndex coherent sound family column
  | assume family kind validator => exact failsOnly_assume family kind validator
  | set address value ttl => exact failsOnly_setColumn coherent sound address value ttl
  | get address validator limit => exact failsOnly_getAddress coherent sound address validator limit
  | getWhere family conditions limit =>
    exact failsOnly_getMatching coherent sound family conditions limit
  | del address => exact failsOnly_delete coherent sound address
  | incr address amount => exact failsOnly_addToCounter coherent sound address amount _
  | decr address amount => exact failsOnly_addToCounter coherent sound address _ _
  | count address => exact failsOnly_countEntries coherent sound address
  | list family start stop limit => exact failsOnly_listRows coherent sound family start stop limit
  | truncate family => exact failsOnly_truncateFamily coherent sound family
  | _ => exact Action.failsOnly_throw trivial

theorem failsOnly_connect (host : String) (port : Int) :
    Action.FailsOnly Unguarded (Action.connect moment host port) state supply := by
  unfold Action.FailsOnly
  cases accepting : moment.accepting with
  | true =>
    simp only [Action.connect, State.connect, accepting, if_true]
    intro cause failed
    cases failed
  | false =>
    simp only [Action.connect, State.connect, accepting, Bool.false_eq_true, if_false]
    exact failsOnly_error.2 fun guarded => guarded

theorem failsOnly_help (topic : List String) : FailsOnly Unguarded (Action.help topic) := by
  unfold Action.help
  split
  · exact failsOnly_ok _
  · exact failsOnly_error.2 trivial

theorem failsOnly_execute (coherent : Coherent state) (sound : state.store.Sound)
    (command : Command) :
    Action.FailsOnly Unguarded (Action.execute moment command) state supply := by
  have behind {action : Action Outcome} (only : state.store.isConnected = true →
      Action.FailsOnly Unguarded action state supply) :
      Action.FailsOnly Unguarded (do (← get).requireConnected; action) state supply := by
    refine Action.failsOnly_get_bind ?_
    exact Action.failsOnly_lift_bind failsOnly_requireConnected fun _ required =>
      only (isConnected_of_requireConnected required)
  have distinct := sound.filed.distinct
  cases command with
  | help topic => exact Action.failsOnly_lift (failsOnly_help topic)
  | connect host port => exact failsOnly_connect host port
  | exit => exact nofun
  | use name => exact behind fun connected => failsOnly_useKeyspace connected distinct name
  | createKeyspace name attributes =>
    exact behind fun connected => failsOnly_createKeyspace connected distinct name attributes
  | updateKeyspace name attributes =>
    exact behind fun connected => failsOnly_updateKeyspace connected sound name attributes
  | dropKeyspace name =>
    exact behind fun connected => failsOnly_dropKeyspace connected sound name
  | describe target => exact behind fun connected => failsOnly_describe connected target
  | «show» target => exact behind fun connected => failsOnly_inform connected target
  | _ => exact behind fun _ => failsOnly_executeInKeyspace coherent sound _

end State

end WideColumn
