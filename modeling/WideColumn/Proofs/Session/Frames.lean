import WideColumn.Proofs.Session.Counters

/-!
# What statements touch

A statement that succeeds changes the records in its reach and no other (`State.Reaches`), and only
the statements that create, update and drop change a definition. What carries the proof is that a
command makes one call on the store: a call on rows has the effect of `Store.Write.effect` in the
keyspace in use, and a change of the schema takes away rows or leaves all of them. Names are given
in any letter case, so a name may reach places that no column family has; those have no records.
-/

namespace WideColumn

/-- A keyspace is found by its name in any letter case. -/
theorem Keyspace.sameIgnoringCase_of_find? {keyspaces : List Keyspace} {name : String}
    {keyspace : Keyspace} (found : Keyspace.find? keyspaces name = some keyspace) :
    Text.sameIgnoringCase keyspace.name name = true := by
  have same := List.find?_some found
  exact same

/-- A column family is found by its name in any letter case. -/
theorem Keyspace.sameIgnoringCase_of_family {keyspace : Keyspace} {name : String}
    {family : ColumnFamily} (found : keyspace.family name = .ok family) :
    Text.sameIgnoringCase family.name name = true := by
  unfold Keyspace.family at found
  split at found
  · rename_i known
    cases found
    have same := List.find?_some known
    exact same
  · cases found

/-! ### Commands and their reach -/

/-- Whether a command may change definitions. -/
def Command.changesSchema : Command → Bool
  | createKeyspace _ _ | updateKeyspace _ _ | dropKeyspace _ => true
  | createFamily _ _ | updateFamily _ _ | dropFamily _ | dropIndex _ _ => true
  | _ => false

/-- Whether a command is there to take records away. -/
def Command.removes : Command → Bool
  | del _ | truncate _ | dropFamily _ | dropKeyspace _ => true
  | _ => false

/-- Whether a record is in the reach of a command: the column that is set or counted on; whatever is
in the column, super column or row that is deleted; whatever is in the column family or the keyspace
that is emptied or dropped. -/
def State.Reaches (state : State) (supply : Supply) (command : Command) (keyspace : String)
    (place : Store.Place) : Prop :=
  match command with
  | .set address _ _ | .incr address _ | .decr address _ =>
    state.session.keyspace = some keyspace ∧
      Text.sameIgnoringCase place.family address.family = true ∧
      state.locate? address supply = some place.location
  | .del address =>
    state.session.keyspace = some keyspace ∧
      Text.sameIgnoringCase place.family address.family = true ∧
      ∃ location, state.locate? address supply = some location ∧
        location.family = place.family ∧
        Store.Covers location place.key place.superColumn place.column
  | .truncate name | .dropFamily name =>
    state.session.keyspace = some keyspace ∧ Text.sameIgnoringCase place.family name = true
  | .dropKeyspace name => Text.sameIgnoringCase keyspace name = true
  | _ => False

namespace Store

variable {store after : Store} {keyspace : String} {place : Place} {command : Command}
  {reach : String → Place → Prop}

/-- Whether a command with some reach changed a store as it may. -/
structure Framed (command : Command) (reach : String → Place → Prop) (store after : Store) :
    Prop where
  schema : command.changesSchema = false →
    after.keyspaces = store.keyspaces ∧ after.changes = store.changes
  kept : ∀ keyspace place, ¬reach keyspace place →
    after.records keyspace place = store.records keyspace place
  gone : command.removes = true → ∀ keyspace place, reach keyspace place →
    after.records keyspace place = none

/-! ### Records of undefined column families -/

/-- Each record on file is that of a column family that is defined. -/
theorem Sound.defined_of_records (sound : Sound store)
    (filed : store.records keyspace place ≠ none) :
    ∃ held ∈ store.keyspaces, held.name = keyspace ∧
      ∃ family ∈ held.families, family.name = place.family := by
  cases found : store.rows.get? (keyspace, place.family) with
  | none =>
    rw [records, found] at filed
    exact absurd (recordIn_empty _ _ _) filed
  | some rows =>
    obtain ⟨held, mem, family, inside, same, -⟩ := sound.rows _ rows found
    obtain ⟨heldName, familyName⟩ := Prod.mk.inj same
    exact ⟨held, mem, heldName, family, inside, familyName⟩

/-- Of the keyspaces that a name means in any letter case, only the one that is found has
records. -/
theorem Sound.keyspace_of_records (sound : Sound store) {name : String} {found : Keyspace}
    (known : Keyspace.find? store.keyspaces name = some found)
    (same : Text.sameIgnoringCase keyspace name = true)
    (filed : store.records keyspace place ≠ none) : keyspace = found.name := by
  obtain ⟨held, mem, rfl, -⟩ := sound.defined_of_records filed
  have again := sound.filed.distinct.find? mem (beq_iff_eq.1 same)
  rw [known] at again
  rw [Option.some.inj again]

/-- Of the column families that a name means in any letter case, only the one that is found has
records. -/
theorem Sound.family_of_records (sound : Sound store) {held : Keyspace}
    (mem : held ∈ store.keyspaces) {name : String} {found : ColumnFamily}
    (known : held.family name = .ok found)
    (same : Text.sameIgnoringCase place.family name = true)
    (filed : store.records held.name place ≠ none) : place.family = found.name := by
  obtain ⟨owner, ownerMem, ownerName, family, inside, familyName⟩ := sound.defined_of_records filed
  obtain rfl : owner = held := sound.filed.distinct.eq ownerMem mem ownerName
  rw [← familyName] at same ⊢
  have lowered : Text.lowered family.name = Text.lowered found.name :=
    (beq_iff_eq.1 same).trans (beq_iff_eq.1 (Keyspace.sameIgnoringCase_of_family known)).symm
  have distinct := (sound.defined owner mem).distinct
  rw [List.inj_on_of_nodup_map distinct inside (Keyspace.mem_of_family known) lowered]

/-! ### Calls on the store -/

/-- A command that leaves all rows, and the schema if it is not one on the schema. -/
theorem framed_of_rows (rows : after.rows = store.rows)
    (schema : command.changesSchema = false →
      after.keyspaces = store.keyspaces ∧ after.changes = store.changes)
    (keeps : command.removes = false) : Framed command reach store after where
  schema := schema
  kept keyspace place _ := by rw [records, records, rows]
  gone removes := by
    rw [keeps] at removes
    cases removes

/-- A call on rows stays within the reach of its command if that has the places that the call
touches, and nothing else where the command is to remove. -/
theorem framed_of_perform (sound : Sound store) (call : Write) {done : Unit} {own : String}
    (selected : store.selected? = some own) (formed : call.WellFormed store)
    (run : call.perform store = (.ok done, after)) (within : ∀ place, call.Touches place →
      reach own place)
    (frees : command.removes = true → (∀ before, call.binding before = none) ∧
      ∀ keyspace place, reach keyspace place → keyspace = own ∧
        (call.Touches place ∨ store.records keyspace place = none)) :
    Framed command reach store after := by
  obtain ⟨-, here, elsewhere⟩ := records_of_perform sound selected formed run
  refine ⟨fun _ => ?_, fun keyspace place beyond => ?_, fun removes keyspace place reached => ?_⟩
  · obtain ⟨family, rows, -, rfl⟩ := Write.perform_ok run
    exact ⟨rfl, rfl⟩
  · by_cases inside : keyspace = own
    · subst inside
      rw [here, Write.effect, if_neg fun touched => beyond (within place touched)]
    · rw [elsewhere keyspace inside]
  · obtain ⟨unbinds, only⟩ := frees removes
    obtain ⟨rfl, reason⟩ := only keyspace place reached
    rw [here, Write.effect]
    split
    · exact unbinds _
    · rename_i untouched
      exact reason.resolve_left untouched

end Store

namespace State

open Store (Framed)

variable {state after : State} {moment : Moment} {supply left : Supply} {outcome : Outcome}
  {request : Request} {command : Command}

/-! ### Commands -/

/-- Commands that only read, and those that change nothing but the session or the connection. -/
theorem framed_of_same (keyspaces : after.store.keyspaces = state.store.keyspaces)
    (changes : after.store.changes = state.store.changes)
    (rows : after.store.rows = state.store.rows) (keeps : command.removes = false) :
    Framed command (state.Reaches supply command) state.store after.store :=
  Store.framed_of_rows rows (fun _ => ⟨keyspaces, changes⟩) keeps

section Commands

variable (coherent : Coherent state) (sound : state.store.Sound)

include coherent

/-- The keyspace in use is the one that is selected. -/
theorem selected?_of_keyspace {keyspace : Keyspace} (inUse : state.keyspace = .ok keyspace) :
    state.store.selected? = some keyspace.name :=
  (Store.of_currentKeyspace (currentKeyspace_of_keyspace coherent inUse)).1

/-- A location that an address stands for lies in the keyspace in use, in the column family that the
address names. -/
theorem located {address : Address} {resolver : Resolver} {location : Location}
    (resolved : state.resolver address.family = .ok resolver)
    (located : Action.locate resolver address supply = (.ok location, left)) :
    ∃ own, state.store.selected? = some own ∧ state.session.keyspace = some own ∧
      state.locate? address supply = some location ∧
      Text.sameIgnoringCase location.family address.family = true := by
  obtain ⟨keyspace, inUse, lookup⟩ := bind_eq_ok.1 resolved
  obtain ⟨family, found, same⟩ := bind_eq_ok.1 lookup
  cases same
  have selected := selected?_of_keyspace coherent inUse
  refine ⟨keyspace.name, selected, coherent.selected.trans selected,
    locate?_eq_some resolved located, ?_⟩
  rw [(Action.locate_shape located).1]
  exact Keyspace.sameIgnoringCase_of_family found

include sound

theorem framed_setColumn {address : Address} {value : Literal} {ttl : Option Int}
    (run : Action.setColumn moment address value ttl state supply = ((.ok outcome, after), left)) :
    Framed (.set address value ttl) (state.Reaches supply (.set address value ttl)) state.store
      after.store := by
  obtain ⟨_, location, _, data, _, _, resolved, found, -, -, called, rfl, -⟩ :=
    Action.setColumn_ok run
  obtain ⟨own, selected, inUse, known, named⟩ := located coherent resolved found
  refine Store.framed_of_perform sound (.insert moment.now location data ttl) selected
    (wellPlaced_of_locate coherent sound resolved found) called (fun place touched => ?_) nofun
  obtain rfl : location = place.location := touched
  exact ⟨inUse, named, known⟩

theorem framed_addToCounter {address : Address} {delta : Int} {given : Outcome}
    (run : Action.addToCounter address delta given state supply = ((.ok outcome, after), left))
    (keeps : command.removes = false)
    (within : ∀ keyspace place, state.session.keyspace = some keyspace →
      Text.sameIgnoringCase place.family address.family = true →
      state.locate? address supply = some place.location →
      state.Reaches supply command keyspace place) :
    Framed command (state.Reaches supply command) state.store after.store := by
  obtain ⟨_, location, _, _, resolved, found, -, called, rfl, -⟩ := Action.addToCounter_ok run
  obtain ⟨own, selected, inUse, known, named⟩ := located coherent resolved found
  refine Store.framed_of_perform sound (.add location delta) selected
    (wellPlaced_of_locate coherent sound resolved found) called (fun place touched => ?_)
    fun removes => absurd (keeps.symm.trans removes) Bool.false_ne_true
  obtain rfl : location = place.location := touched
  exact within own place inUse named known

theorem framed_delete {address : Address}
    (run : Action.delete address state supply = ((.ok outcome, after), left)) :
    Framed (.del address) (state.Reaches supply (.del address)) state.store after.store := by
  obtain ⟨_, location, _, resolved, found, called, rfl⟩ := Action.delete_ok run
  obtain ⟨own, selected, inUse, known, named⟩ := located coherent resolved found
  refine Store.framed_of_perform sound (.remove location) selected
    (wellPlaced_of_locate coherent sound resolved found) called (fun place touched => ?_)
    fun _ => ⟨fun _ => rfl, fun keyspace place reached => ?_⟩
  · obtain ⟨here, covers⟩ := touched
    exact ⟨inUse, here ▸ named, location, known, here, covers⟩
  · obtain ⟨chosen, -, other, otherKnown, here, covers⟩ := reached
    obtain rfl : other = location := Option.some.inj (otherKnown.symm.trans known)
    exact ⟨Option.some.inj (chosen.symm.trans inUse), .inl ⟨here, covers⟩⟩

theorem framed_truncateFamily {name : String}
    (run : Action.truncateFamily name state supply = ((.ok outcome, after), left)) :
    Framed (.truncate name) (state.Reaches supply (.truncate name)) state.store after.store := by
  obtain ⟨keyspace, family, _, inUse, found, called, rfl, -⟩ := Action.truncateFamily_ok run
  have selected := selected?_of_keyspace coherent inUse
  have chosen := coherent.selected.trans selected
  have current := currentKeyspace_of_keyspace coherent inUse
  refine Store.framed_of_perform sound (.truncate family.name) selected trivial called
    (fun place touched => ?_) fun _ => ⟨fun _ => rfl, fun other place reached => ?_⟩
  · refine ⟨chosen, ?_⟩
    rw [← (touched : family.name = place.family)]
    exact Keyspace.sameIgnoringCase_of_family found
  · obtain ⟨otherChosen, same⟩ := reached
    obtain rfl : other = keyspace.name := Option.some.inj (otherChosen.symm.trans chosen)
    refine ⟨rfl, or_iff_not_imp_right.2 fun filed => ?_⟩
    have mem := (Store.of_currentKeyspace current).2
    exact (sound.family_of_records mem found same filed).symm

theorem framed_dropFamily {name : String}
    (run : Action.dropFamily name state supply = ((.ok outcome, after), left)) :
    Framed (.dropFamily name) (state.Reaches supply (.dropFamily name)) state.store
      after.store := by
  obtain ⟨keyspace, family, _, _, inUse, found, called, rfl⟩ := Action.dropFamily_ok run
  have current := currentKeyspace_of_keyspace coherent inUse
  have chosen := coherent.selected.trans (selected?_of_keyspace coherent inUse)
  obtain ⟨_, works, same⟩ := Store.dropFamily_ok called
  cases current.symm.trans works
  have erased := Store.records_erase (congrArg Store.rows same)
  refine ⟨nofun, fun other place beyond => ?_, fun _ other place reached => ?_⟩
  · rw [erased, if_neg]
    intro here
    obtain ⟨rfl, named⟩ := Prod.mk.inj here
    exact beyond ⟨chosen, named ▸ Keyspace.sameIgnoringCase_of_family found⟩
  · obtain ⟨otherChosen, named⟩ := reached
    obtain rfl : other = keyspace.name := Option.some.inj (otherChosen.symm.trans chosen)
    rw [erased]
    split
    · rfl
    · rename_i apart
      by_contra filed
      have mem := (Store.of_currentKeyspace current).2
      rw [sound.family_of_records mem found named filed] at apart
      exact apart rfl

omit coherent

theorem framed_dropKeyspace {name : String}
    (run : Action.dropKeyspace name state supply = ((.ok outcome, after), left)) :
    Framed (.dropKeyspace name) (state.Reaches supply (.dropKeyspace name)) state.store
      after.store := by
  obtain ⟨_, keyspace, _, _, described, found, called, rfl⟩ := Action.dropKeyspace_ok run
  have known : Keyspace.find? state.store.keyspaces name = some keyspace := by
    rw [← sound.filed.distinct.find?_of_perm (Store.describeSchema_perm described)]
    exact found
  have same := Store.dropKeyspace_ok called
  have kept := Store.records_filter (congrArg Store.rows same)
  refine ⟨nofun, fun other place beyond => ?_, fun _ other place reached => ?_⟩
  · rw [kept, if_neg]
    rintro rfl
    exact beyond (Keyspace.sameIgnoringCase_of_find? known)
  · rw [kept]
    split
    · rfl
    · rename_i apart
      by_contra filed
      exact apart (sound.keyspace_of_records known reached filed)

include coherent

theorem framed_executeInKeyspace
    (run : Action.executeInKeyspace moment command state supply = ((.ok outcome, after), left)) :
    Framed command (state.Reaches supply command) state.store after.store := by
  obtain ⟨_, -, run⟩ := Action.lift_bind_eq_ok.1 (Action.get_bind_eq_ok.1 run)
  cases command with
  | createFamily name attributes =>
    obtain ⟨_, _, _, _, -, -, -, called, rfl⟩ := Action.createFamily_ok run
    obtain ⟨_, -, -, rfl⟩ := Store.createFamily_ok called
    exact Store.framed_of_rows rfl nofun rfl
  | updateFamily name attributes =>
    obtain ⟨_, _, _, _, _, -, -, -, called, rfl⟩ := Action.updateFamily_ok run
    obtain ⟨_, _, -, -, -, rfl⟩ := Store.updateFamily_ok called
    exact Store.framed_of_rows rfl nofun rfl
  | dropFamily name => exact framed_dropFamily coherent sound run
  | dropIndex family column =>
    obtain ⟨_, _, _, _, -, -, called, rfl⟩ := Action.dropIndex_ok run
    obtain ⟨_, _, -, -, -, rfl⟩ := Store.dropIndex_ok called
    exact Store.framed_of_rows rfl nofun rfl
  | assume family kind validator =>
    obtain ⟨_, _, _, _, -, -, -, -, rfl⟩ := Action.assume_ok run
    exact framed_of_same rfl rfl rfl rfl
  | set address value ttl => exact framed_setColumn coherent sound run
  | get address validator limit =>
    obtain rfl := (Action.getAddress_quiet moment address validator limit).eq_of_ok run
    exact framed_of_same rfl rfl rfl rfl
  | getWhere family conditions limit =>
    obtain rfl := (Action.getMatching_quiet moment family conditions limit).eq_of_ok run
    exact framed_of_same rfl rfl rfl rfl
  | del address => exact framed_delete coherent sound run
  | incr address amount =>
    exact framed_addToCounter coherent sound run rfl fun _ _ inUse named known =>
      ⟨inUse, named, known⟩
  | decr address amount =>
    exact framed_addToCounter coherent sound run rfl fun _ _ inUse named known =>
      ⟨inUse, named, known⟩
  | count address =>
    obtain rfl := (Action.countEntries_quiet moment address).eq_of_ok run
    exact framed_of_same rfl rfl rfl rfl
  | list family start stop limit =>
    obtain rfl := (Action.listRows_quiet moment family start stop limit).eq_of_ok run
    exact framed_of_same rfl rfl rfl rfl
  | truncate name => exact framed_truncateFamily coherent sound run
  -- All other commands are executed without a keyspace in use.
  | _ => cases run

theorem framed_execute (noConnect : ∀ host port, command ≠ .connect host port)
    (run : Action.execute moment command state supply = ((.ok outcome, after), left)) :
    Framed command (state.Reaches supply command) state.store after.store := by
  cases command with
  | help topic =>
    obtain rfl := (Action.quiet_lift (Action.help topic)).eq_of_ok run
    exact framed_of_same rfl rfl rfl rfl
  | connect host port => exact absurd rfl (noConnect host port)
  | exit =>
    cases run
    exact framed_of_same rfl rfl rfl rfl
  | use name =>
    obtain ⟨_, _, _, -, -, called, rfl, -⟩ := Action.useKeyspace_ok (requireConnected_bind_ok run)
    obtain ⟨-, _, -, rfl⟩ := Store.selectKeyspace_ok called
    exact framed_of_same rfl rfl rfl rfl
  | createKeyspace name attributes =>
    obtain ⟨_, _, _, -, called, rfl⟩ := Action.createKeyspace_ok (requireConnected_bind_ok run)
    obtain ⟨-, rfl⟩ := Store.createKeyspace_ok called
    exact Store.framed_of_rows rfl nofun rfl
  | updateKeyspace name attributes =>
    obtain ⟨_, _, _, _, _, -, -, -, called, rfl⟩ :=
      Action.updateKeyspace_ok (requireConnected_bind_ok run)
    obtain ⟨_, -, rfl⟩ := Store.updateKeyspace_ok called
    exact Store.framed_of_rows rfl nofun rfl
  | dropKeyspace name => exact framed_dropKeyspace sound (requireConnected_bind_ok run)
  | describe target =>
    obtain rfl := (Action.describe_quiet target).eq_of_ok (requireConnected_bind_ok run)
    exact framed_of_same rfl rfl rfl rfl
  | «show» target =>
    obtain rfl := (Action.inform_quiet target).eq_of_ok (requireConnected_bind_ok run)
    exact framed_of_same rfl rfl rfl rfl
  | _ => exact framed_executeInKeyspace coherent sound (requireConnected_bind_ok run)

end Commands

/-! ### Statements -/

theorem framed_after (coherent : Coherent state) (sound : state.store.Sound)
    (parsed : Command.parse request.text = .ok command)
    (succeeded : (state.reply request).isSuccess = true) :
    Framed command (state.Reaches request.supply command) state.store
      (state.after request).store := by
  by_cases connecting : ∃ host port, command = .connect host port
  · obtain ⟨host, port, rfl⟩ := connecting
    have connected : state.after request = (state.connect request.moment host port).2 := by
      rw [State.after, answer_of_parsed parsed]
      exact connect_state host port
    rw [connected]
    unfold State.connect
    split <;> exact framed_of_same rfl rfl rfl rfl
  · obtain ⟨outcome, after, left, run, same⟩ := execute_of_isSuccess parsed succeeded
    rw [State.after, same]
    exact framed_execute coherent sound (fun host port same => connecting ⟨host, port, same⟩) run

/-- In a reachable state, a statement that succeeds changes definitions only if it is there to create,
update or drop one, and it changes no record out of its reach. Within its reach no record is left if
it is there to delete, to truncate, or to drop a column family or a keyspace. -/
theorem touches_only (reachable : Reachable state)
    (parsed : Command.parse request.text = .ok command)
    (succeeded : (state.reply request).isSuccess = true) :
    (command.changesSchema = false →
        (state.after request).store.keyspaces = state.store.keyspaces ∧
          (state.after request).store.changes = state.store.changes) ∧
      ∀ keyspace place,
        (¬state.Reaches request.supply command keyspace place →
          (state.after request).store.records keyspace place =
            state.store.records keyspace place) ∧
        (command.removes = true → state.Reaches request.supply command keyspace place →
          (state.after request).store.records keyspace place = none) := by
  have framed := framed_after reachable.coherent reachable.sound parsed succeeded
  exact ⟨framed.schema, fun keyspace place =>
    ⟨framed.kept keyspace place, fun removes => framed.gone removes keyspace place⟩⟩

/-- One of two super columns of a row is deleted, under a name in other letters. -/
theorem touches_only_superColumn :
    let request (text : String) : Request := ⟨text, { now := 0 }, "\n", ⟨id, id, 0, 0⟩⟩
    let state := (initial "c" true).afterAll (["create keyspace k;", "use k;",
      "create column family S with column_type = super;", "set S['r']['0a']['0c'] = 'v';",
      "set S['r']['0b']['0c'] = 'v';"].map request)
    let deletion := request "del s['r']['0b'];"
    let deleted : Store.Place := ⟨"S", [0x72], some [0x0b], [0x0c]⟩
    let other : Store.Place := ⟨"S", [0x72], some [0x0a], [0x0c]⟩
    (state.after deletion).store.keyspaces = state.store.keyspaces ∧
      state.store.records "k" deleted = some (.value [0x76] 0 none) ∧
      (state.after deletion).store.records "k" deleted = none ∧
      (state.after deletion).store.records "k" other = some (.value [0x76] 0 none) := by
  intro request state deletion deleted other
  have reachable : Reachable state := (reachable_initial "c" true).afterAll _
  let command : Command := .del ⟨"s", .plain "r", .one (.plain "0b")⟩
  have known : (Command.parse deletion.text).toOption = some command ∧
      state.locate? ⟨"s", .plain "r", .one (.plain "0b")⟩ deletion.supply =
        some ⟨"S", [0x72], some [0x0b], none⟩ ∧
      Text.sameIgnoringCase deleted.family "s" = true ∧
      state.session.keyspace = some "k" ∧ (state.reply deletion).isSuccess = true ∧
      state.store.records "k" deleted = some (.value [0x76] 0 none) ∧
      state.store.records "k" other = some (.value [0x76] 0 none) := by
    decide +kernel
  obtain ⟨parsed, found, named, inUse, succeeded, there, beside⟩ := known
  clear_value state
  have touched := touches_only reachable (toOption_eq_some.1 parsed) succeeded
  refine ⟨(touched.1 rfl).1, there, (touched.2 "k" deleted).2 rfl ?_, ?_⟩
  · exact ⟨inUse, named, _, found, rfl, by decide⟩
  · rw [(touched.2 "k" other).1, beside]
    rintro ⟨-, -, location, located, -, covers⟩
    obtain rfl := Option.some.inj (located.symm.trans found)
    revert covers
    decide

end State

end WideColumn
