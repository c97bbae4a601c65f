import WideColumn.Proofs.Store.Flat
import WideColumn.Proofs.Store.Soundness

/-!
# Counters and values stay apart

Whether a column is a counter is said by its column family alone, and what is on file for the column
should agree with that (`Store.Classified`). A call on rows binds a place only to a record of the
kind that the definition asks for, so it keeps the agreement, and then a counter is never set and a
value never counted (`Record.Becomes`). A change of the schema only takes records away. It keeps the
agreement as well, but for an update of a column family: that is compared with the definition before
it, and not with the records on file, so it needs a condition of its own
(`Store.Classified.updateFamily`).
-/

namespace WideColumn

/-- What may become of the record of a column, or of a column that has none, when an amount is added
to counters: a value may be set, and a counter may be counted on. -/
inductive Record.Becomes (added : Int) (before : Option Record) : Option Record → Prop where
  | kept (idle : added = 0) : Becomes added before before
  | removed (idle : added = 0) : Becomes added before none
  | set (idle : added = 0) (uncounted : ∀ total, before ≠ some (.counter total)) (data : Bytes)
      (timestamp : Int) (ttl : Option Int) :
      Becomes added before (some (.value data timestamp ttl))
  | counted (unset : ∀ data timestamp ttl, before ≠ some (.value data timestamp ttl)) :
      Becomes added before (some (.counter (Store.totalOf before + added)))

/-- A counter that does not go has moved by the amount that was added. -/
theorem Record.Becomes.eq_counter {added total : Int} {after : Option Record}
    (becomes : Becomes added (some (.counter total)) after) (stays : after ≠ none) :
    after = some (.counter (total + added)) := by
  cases becomes with
  | kept idle => rw [idle, Int.add_zero]
  | removed idle => exact absurd rfl stays
  | set idle uncounted data timestamp ttl => exact absurd rfl (uncounted total)
  | counted unset => rfl

namespace Store

variable {store after : Store} {name version keyspace : String} {family : ColumnFamily}
  {call : Write} {place : Place} {done : Unit}

/-! ### The records on file -/

/-- The records of a keyspace. -/
def records (store : Store) (keyspace : String) : FlatMap := fun place =>
  recordIn ((store.rows.get? (keyspace, place.family)).getD .empty) place.key place.superColumn
    place.column

/-- Whether each record on file is that of a column family that is defined, and is a counter just if
the definition makes its column one. -/
def Classified (store : Store) : Prop :=
  ∀ keyspace place record, store.records keyspace place = some record →
    ∃ held ∈ store.keyspaces, held.name = keyspace ∧ ∃ family ∈ held.families,
      family.name = place.family ∧ record.isCounter = holdsCounter family place.column

/-- Whether a store, in which counters and values are apart, comes from an earlier one by adding
amounts to counters, by setting values and by removing. -/
structure Follows (added : String → Place → Int) (store after : Store) : Prop where
  records : ∀ keyspace place, Record.Becomes (added keyspace place) (store.records keyspace place)
    (after.records keyspace place)
  classified : after.Classified

theorem records_withRows (family : ColumnFamily) (rows : Table Bytes Row) (keyspace : String)
    (place : Place) :
    (store.withRows family rows).records keyspace place =
      if (family.keyspace, family.name) = (keyspace, place.family) then
        recordIn rows place.key place.superColumn place.column
      else store.records keyspace place := by
  rw [records, withRows, Table.get?_put]
  split <;> rfl

theorem records_erase (erased : after.rows = store.rows.erase (keyspace, name)) (other : String)
    (place : Place) : after.records other place =
      if (keyspace, name) = (other, place.family) then none else store.records other place := by
  rw [records, erased, Table.get?_erase]
  split
  · exact recordIn_empty _ _ _
  · rfl

theorem records_filter (kept : after.rows = store.rows.filter fun entry => entry.1.1 != name)
    (keyspace : String) (place : Place) : after.records keyspace place =
      if keyspace = name then none else store.records keyspace place := by
  have found := Table.get?_filter_key (fun filed => filed.1 != name) store.rows
    (keyspace, place.family)
  rw [records, kept, found]
  by_cases same : keyspace = name
  · rw [if_neg (by simp [same]), if_pos same]
    exact recordIn_empty _ _ _
  · rw [if_pos (by simp [same]), if_neg same]
    rfl

/-- A definition that is held under a name is the one that is found by it. -/
theorem Sound.family_eq (sound : Sound store) (found : store.family name = .ok family)
    {held : Keyspace} (mem : held ∈ store.keyspaces) (selected : store.selected? = some held.name)
    {member : ColumnFamily} (inside : member ∈ held.families) (named : member.name = name) :
    member = family := by
  obtain ⟨current, works, lookup⟩ := family_eq_ok.1 found
  obtain ⟨chosen, currentMem⟩ := of_currentKeyspace works
  have same : held.name = current.name := Option.some.inj (selected.symm.trans chosen)
  obtain rfl : held = current := sound.filed.distinct.eq mem currentMem same
  have distinct := (sound.defined held mem).distinct
  exact distinct.eq inside (List.mem_of_find?_eq_some lookup)
    (named.trans (name_of_family found).symm)

/-- In the selected keyspace counters are apart from values, as the calls on rows see them. -/
theorem Classified.countersApart (classified : store.Classified) (sound : Sound store)
    (selected : store.selected? = some keyspace) :
    CountersApart store (store.records keyspace) := by
  intro place family record found filed
  obtain ⟨held, mem, rfl, member, inside, named, kind⟩ := classified keyspace place record filed
  rw [kind, sound.family_eq found mem selected inside named]

/-! ### Calls on rows -/

/-- The column family that a call works in. -/
def Write.familyName : Write → String
  | insert _ location _ _ | add location _ | remove location => location.family
  | truncate family => family

/-- By how much a call counts on a column. -/
def Write.added : Write → Place → Int
  | add location delta, place => if location = place.location then delta else 0
  | _, _ => 0

theorem Write.family_of_touches (touched : call.Touches place) :
    place.family = call.familyName := by
  cases call with
  | insert now location data ttl | add location delta =>
    obtain rfl : location = place.location := touched
    rfl
  | remove location => exact touched.1.symm
  | truncate name => exact Eq.symm touched

theorem Write.added_of_not_touches (untouched : ¬call.Touches place) : call.added place = 0 := by
  cases call with
  | add location delta => exact if_neg untouched
  | _ => rfl

/-- A call changes the rows of the column family that it works in. -/
theorem Write.perform_ok (run : call.perform store = (.ok done, after)) :
    ∃ family rows, store.family call.familyName = .ok family ∧
      after = store.withRows family rows := by
  cases call with
  | insert now location data ttl =>
    obtain ⟨_, family, rows, -, -, found, -, -, -, same⟩ := insertColumn_ok run
    exact ⟨family, rows, found, same⟩
  | add location delta =>
    obtain ⟨_, family, _, rows, -, found, -, -, -, -, same⟩ := addToCounter_ok run
    exact ⟨family, rows, found, same⟩
  | remove location =>
    obtain ⟨family, rows, found, -, same⟩ := removeColumn_ok run
    exact ⟨family, rows, found, same⟩
  | truncate name =>
    obtain ⟨family, found, same⟩ := truncate_ok run
    exact ⟨family, .empty, found, same⟩

/-- A sound store is a flat map in its selected keyspace. -/
theorem refines_records (sound : Sound store) (selected : store.selected? = some keyspace) :
    Refines store store (store.records keyspace) where
  family _ := rfl
  fit _ _ found := sound.rowsFit found
  records place family found := by
    have belongs : some family.keyspace = some keyspace :=
      (selected?_of_family sound.filed found).symm.trans selected
    rw [records, rowsOf, Option.some.inj belongs, name_of_family found]

/-- A call that succeeds is not refused by the schema, has its effect on the selected keyspace, and
has none on any other. -/
theorem records_of_perform (sound : Sound store) (selected : store.selected? = some keyspace)
    (formed : call.WellFormed store) (run : call.perform store = (.ok done, after)) :
    call.verdict store = .ok () ∧
      after.records keyspace = call.effect (store.records keyspace) ∧
      ∀ other ≠ keyspace, after.records other = store.records other := by
  obtain ⟨reply, refines⟩ := step_refines (refines_records sound selected) formed
  rw [run] at reply refines
  have accepted : call.verdict store = .ok () := by
    unfold Write.step at reply
    split at reply
    · assumption
    · cases reply
  have effect : (call.step store (store.records keyspace)).2 =
      call.effect (store.records keyspace) := by
    rw [Write.step, accepted]
  rw [effect] at refines
  obtain ⟨family, rows, found, rfl⟩ := Write.perform_ok run
  have belongs : family.keyspace = keyspace :=
    Option.some.inj ((selected?_of_family sound.filed found).symm.trans selected)
  have named : family.name = call.familyName := name_of_family found
  refine ⟨accepted, funext fun place => ?_, fun other apart => funext fun place => ?_⟩
  · by_cases here : place.family = call.familyName
    · rw [← refines.records place family (here ▸ found), rowsOf, belongs, named, ← here]
      rfl
    · -- Neither the call nor its effect reaches another column family.
      rw [records_withRows, if_neg, Write.effect, if_neg]
      · exact fun touched => here (Write.family_of_touches touched)
      · exact fun same => here ((congrArg Prod.snd same).symm.trans named)
  · rw [records_withRows, if_neg]
    exact fun same => apart ((congrArg Prod.fst same).symm.trans belongs)

/-- Where counters and values are apart, a call binds a place to a record of the kind that it
had. -/
theorem Write.becomes {schema : Store} {flat : FlatMap} (apart : CountersApart schema flat)
    (accepted : call.verdict schema = .ok ()) (found : schema.family call.familyName = .ok family)
    (place : Place) :
    Record.Becomes (call.added place) (flat place) (call.effect flat place) := by
  by_cases touched : call.Touches place
  · rw [← Write.family_of_touches touched] at found
    have kinds {before bound : Record} (had : flat place = some before)
        (binds : call.binding (flat place) = some bound) : before.isCounter = bound.isCounter :=
      (apart place family before found had).trans
        (isCounter_binding accepted touched binds found).symm
    rw [Write.effect, if_pos touched]
    cases call with
    | insert now location data ttl =>
      refine .set rfl (fun total had => ?_) data now ttl
      cases kinds had rfl
    | add location delta =>
      have whole : Write.added (.add location delta) place = delta := if_pos touched
      rw [whole]
      refine .counted fun data timestamp ttl had => ?_
      cases kinds had rfl
    | remove location => exact .removed rfl
    | truncate name => exact .removed rfl
  · rw [Write.effect, if_neg touched]
    exact .kept (Write.added_of_not_touches touched)

/-- A call on rows that succeeds counts on columns of the selected keyspace only. -/
theorem Classified.perform (classified : store.Classified) (call : Write) (sound : Sound store)
    (formed : call.WellFormed store) (run : call.perform store = (.ok done, after)) :
    Follows (fun keyspace place => if store.selected? = some keyspace then call.added place else 0)
      store after := by
  obtain ⟨family, rows, found, same⟩ := Write.perform_ok run
  have selected := selected?_of_family sound.filed found
  have apart := classified.countersApart sound selected
  obtain ⟨accepted, here, elsewhere⟩ := records_of_perform sound selected formed run
  rw [selected]
  refine ⟨fun other place => ?_, fun other place record filed => ?_⟩
  · by_cases own : some family.keyspace = some other
    · rw [if_pos own, ← Option.some.inj own, here]
      exact Write.becomes apart accepted found place
    · rw [if_neg own, elsewhere other fun equal => own (congrArg some equal.symm)]
      exact .kept rfl
  · have definitions : after.keyspaces = store.keyspaces := by
      rw [same]
      rfl
    rw [definitions]
    by_cases own : other = family.keyspace
    · subst own
      rw [here, Write.effect] at filed
      split at filed
      · rename_i touched
        have lookup : store.family place.family = .ok family :=
          Write.family_of_touches touched ▸ found
        obtain ⟨held, works, member⟩ := family_eq_ok.1 lookup
        obtain ⟨chosen, mem⟩ := of_currentKeyspace works
        exact ⟨held, mem, Option.some.inj (chosen.symm.trans selected), family,
          List.mem_of_find?_eq_some member, name_of_family lookup,
          isCounter_binding accepted touched filed lookup⟩
      · exact classified _ place record filed
    · rw [elsewhere other own] at filed
      exact classified other place record filed

theorem Classified.perform_idle (classified : store.Classified) (call : Write)
    (sound : Sound store) (formed : call.WellFormed store) (idle : ∀ place, call.added place = 0)
    (run : call.perform store = (.ok done, after)) : Follows (fun _ _ => 0) store after := by
  have follows := classified.perform call sound formed run
  simpa only [idle, ite_self] using follows

/-! ### Changes of the schema -/

/-- Records may go, but for those that stay there has to be a definition that makes their columns
what they were. -/
theorem Classified.follows (classified : store.Classified)
    (fewer : ∀ keyspace place, after.records keyspace place = none ∨
      after.records keyspace place = store.records keyspace place)
    (defined : ∀ held ∈ store.keyspaces, ∀ family ∈ held.families, ∀ place : Place,
      place.family = family.name → (after.records held.name place).isSome →
        ∃ next ∈ after.keyspaces, next.name = held.name ∧ ∃ member ∈ next.families,
          member.name = family.name ∧
            holdsCounter member place.column = holdsCounter family place.column) :
    Follows (fun _ _ => 0) store after := by
  refine ⟨fun keyspace place => ?_, fun keyspace place record filed => ?_⟩
  · rcases fewer keyspace place with gone | same
    · rw [gone]
      exact .removed rfl
    · rw [same]
      exact .kept rfl
  · have stays := (fewer keyspace place).resolve_left (by rw [filed]; exact nofun)
    obtain ⟨held, mem, rfl, family, inside, named, kind⟩ :=
      classified keyspace place record (stays.symm.trans filed)
    obtain ⟨next, nextMem, nextName, member, memberMem, memberName, same⟩ :=
      defined held mem family inside place named.symm (by rw [filed]; rfl)
    exact ⟨next, nextMem, nextName, member, memberMem, memberName.trans named, kind.trans same.symm⟩

/-- Neither the connection nor the number of changes matters. -/
theorem Classified.of_same (classified : store.Classified)
    (keyspaces : after.keyspaces = store.keyspaces) (rows : after.rows = store.rows) :
    Follows (fun _ _ => 0) store after := by
  have same : after.records = store.records := by
    unfold records
    rw [rows]
  refine classified.follows (fun _ _ => .inr (by rw [same])) fun held mem family inside _ _ _ => ?_
  exact ⟨held, keyspaces ▸ mem, rfl, family, inside, rfl, rfl⟩

/-- A definition of a keyspace takes the place of another one. Each column family that has records
needs a successor of its name, in which the columns with records are what they were. -/
theorem Classified.replace (classified : store.Classified) (sound : Sound store)
    {held keyspace : Keyspace}
    (replaced : after.keyspaces = (store.withKeyspace keyspace).keyspaces)
    (mem : held ∈ store.keyspaces) (same : keyspace.name = held.name)
    (fewer : ∀ keyspace place, after.records keyspace place = none ∨
      after.records keyspace place = store.records keyspace place)
    (succeeded : ∀ family ∈ held.families, ∀ place : Place, place.family = family.name →
      (after.records held.name place).isSome → ∃ next ∈ keyspace.families,
        next.name = family.name ∧
          holdsCounter next place.column = holdsCounter family place.column) :
    Follows (fun _ _ => 0) store after := by
  refine classified.follows fewer fun owner ownerMem family inside place named stays => ?_
  rw [replaced]
  by_cases here : owner.name = keyspace.name
  · obtain rfl : owner = held := sound.filed.distinct.eq ownerMem mem (here.trans same)
    exact ⟨keyspace, List.mem_map.2 ⟨owner, mem, if_pos (beq_iff_eq.2 here)⟩, same,
      succeeded family inside place named stays⟩
  · exact ⟨owner, List.mem_map.2 ⟨owner, ownerMem, if_neg fun equal => here (beq_iff_eq.1 equal)⟩,
      rfl, family, inside, rfl, rfl⟩

theorem Classified.createKeyspace (classified : store.Classified) {keyspace : Keyspace}
    (run : createKeyspace keyspace store = (.ok version, after)) :
    Follows (fun _ _ => 0) store after := by
  obtain ⟨-, rfl⟩ := createKeyspace_ok run
  refine classified.follows (fun _ _ => .inr rfl) fun held mem family inside _ _ _ => ?_
  exact ⟨held, List.mem_append_left _ mem, rfl, family, inside, rfl, rfl⟩

theorem Classified.updateKeyspace (classified : store.Classified) (sound : Sound store)
    {keyspace : Keyspace} (run : updateKeyspace keyspace store = (.ok version, after)) :
    Follows (fun _ _ => 0) store after := by
  obtain ⟨old, found, rfl⟩ := updateKeyspace_ok run
  obtain ⟨mem, same⟩ := of_keyspace?_eq_some found
  refine classified.replace sound rfl mem same.symm (fun _ _ => .inr rfl)
    fun family inside _ _ _ => ?_
  exact ⟨family, inside, rfl, rfl⟩

/-- The records of a keyspace go with it. -/
theorem Classified.dropKeyspace (classified : store.Classified)
    (run : dropKeyspace name store = (.ok version, after)) :
    Follows (fun _ _ => 0) store after := by
  have stays {keyspace : Keyspace} : keyspace ∈ after.keyspaces ↔ _ :=
    mem_keyspaces_dropKeyspace run
  have kept (keyspace : String) (place : Place) : after.records keyspace place =
      if keyspace = name then none else store.records keyspace place := by
    obtain rfl := dropKeyspace_ok run
    exact records_filter rfl keyspace place
  refine classified.follows (fun keyspace place => ?_)
    fun held mem family inside place _ filed => ?_
  · rw [kept]
    exact ite_eq_or_eq ..
  · rw [kept] at filed
    split at filed
    · cases filed
    · rename_i apart
      exact ⟨held, stays.2 ⟨mem, apart⟩, rfl, family, inside, rfl, rfl⟩

theorem Classified.createFamily (classified : store.Classified) (sound : Sound store)
    (run : createFamily family store = (.ok version, after)) :
    Follows (fun _ _ => 0) store after := by
  obtain ⟨keyspace, current, -, rfl⟩ := createFamily_ok run
  obtain ⟨-, mem⟩ := of_currentKeyspace current
  refine classified.replace sound rfl mem rfl (fun _ _ => .inr rfl) fun member inside _ _ _ => ?_
  exact ⟨member, List.mem_append_left _ inside, rfl, rfl⟩

/-- The columns that have records have to be counters as before, or as before none. -/
theorem Classified.updateFamily (classified : store.Classified) (sound : Sound store)
    {keyspace : Keyspace} {old : ColumnFamily} (current : store.currentKeyspace = .ok keyspace)
    (found : store.family family.name = .ok old)
    (kept : ∀ place record, place.family = old.name →
      store.records keyspace.name place = some record →
        holdsCounter family place.column = holdsCounter old place.column)
    (run : updateFamily family store = (.ok version, after)) :
    Follows (fun _ _ => 0) store after := by
  obtain ⟨other, before, works, lookup, -, rfl⟩ := updateFamily_ok run
  obtain rfl : keyspace = other := Except.ok.inj (current.symm.trans works)
  obtain rfl : old = before := Except.ok.inj (found.symm.trans lookup)
  obtain ⟨selected, mem⟩ := of_currentKeyspace current
  have oldName : old.name = family.name := name_of_family found
  refine classified.replace sound rfl mem rfl (fun _ _ => .inr rfl)
    fun member inside place named filed => ?_
  refine ⟨_, List.mem_map_of_mem inside, ?_⟩
  split
  · rename_i same
    have memberName : member.name = family.name := (beq_iff_eq.1 same).trans oldName
    obtain rfl : member = old := sound.family_eq found mem selected inside memberName
    obtain ⟨record, filed⟩ := Option.isSome_iff_exists.1 filed
    exact ⟨oldName.symm, kept place record named filed⟩
  · exact ⟨rfl, rfl⟩

/-- Without the condition an update would leave a record that is not of the kind of its column. -/
theorem Classified.kept_of_updateFamily (classified : store.Classified) (sound : Sound store)
    {keyspace : Keyspace} {old : ColumnFamily} (current : store.currentKeyspace = .ok keyspace)
    (found : store.family family.name = .ok old)
    (run : Store.updateFamily family store = (.ok version, after)) (again : after.Classified)
    {record : Record} (named : place.family = old.name)
    (filed : store.records keyspace.name place = some record) :
    holdsCounter family place.column = holdsCounter old place.column := by
  obtain ⟨other, before, works, lookup, -, rfl⟩ := updateFamily_ok run
  obtain rfl : keyspace = other := Except.ok.inj (current.symm.trans works)
  obtain rfl : old = before := Except.ok.inj (found.symm.trans lookup)
  obtain ⟨selected, -⟩ := of_currentKeyspace current
  obtain ⟨next, present, nextName, member, inside, memberName, kind⟩ := again _ place record filed
  obtain ⟨held, -, rfl⟩ := List.mem_map.1 present
  rw [name_replaced] at nextName
  -- The definition that is found after the update is the new one.
  rw [if_pos (beq_iff_eq.2 nextName)] at inside
  obtain ⟨replaced, -, rfl⟩ := List.mem_map.1 inside
  split at memberName
  · rename_i same
    rw [if_pos same] at kind
    have lookup : store.family place.family = .ok old := by
      rw [named, name_of_family found]
      exact found
    exact kind.symm.trans (classified.countersApart sound selected place old record lookup filed)
  · rename_i apart
    exact absurd (beq_iff_eq.2 (memberName.trans named)) apart

/-- The records of a column family go with it. -/
theorem Classified.dropFamily (classified : store.Classified) (sound : Sound store)
    (run : dropFamily name store = (.ok version, after)) :
    Follows (fun _ _ => 0) store after := by
  obtain ⟨keyspace, current, same⟩ := dropFamily_ok run
  obtain ⟨-, mem⟩ := of_currentKeyspace current
  have definitions : after.keyspaces = (store.withKeyspace { keyspace with
      families := keyspace.families.filter fun family => family.name != name }).keyspaces := by
    rw [same]
    rfl
  have kept := records_erase (congrArg Store.rows same)
  refine classified.replace sound definitions mem rfl (fun other place => ?_)
    fun member inside place named filed => ?_
  · rw [kept]
    exact ite_eq_or_eq ..
  · rw [kept] at filed
    split at filed
    · cases filed
    · rename_i apart
      refine ⟨member, List.mem_filter.2 ⟨inside, bne_iff_ne.2 fun same => apart ?_⟩, rfl, rfl⟩
      rw [named, same]

/-- What is found in a list is as before to a view that sees no change in the first of a class. -/
theorem map_find?_modifyFirst {α β : Type} {isMeant wanted : α → Bool} {change : α → α}
    {view : α → β} (wants : ∀ item, wanted (change item) = wanted item)
    (same : ∀ item, view (change item) = view item) (items : List α) :
    ((modifyFirst isMeant change items).find? wanted).map view =
      (items.find? wanted).map view := by
  induction items with
  | nil => rfl
  | cons first rest ih =>
    rw [modifyFirst]
    split
    · rw [List.find?_cons, List.find?_cons, wants]
      split
      · exact congrArg some (same first)
      · rfl
    · rw [List.find?_cons, List.find?_cons]
      split
      · rfl
      · exact ih

/-- An own definition of the column comes before the one for all columns. -/
theorem holdsCounter_eq (family : ColumnFamily) (column : Bytes) :
    holdsCounter family column =
      (validatorOf (((family.column? column).map ColumnDefinition.validationClass).or
        family.defaultValidationClass) == .counter) := by
  unfold holdsCounter
  cases family.column? column <;> rfl

theorem holdsCounter_withoutIndex (family : ColumnFamily) (index column : Bytes) :
    holdsCounter (withoutIndex family index) column = holdsCounter family column := by
  have same : ((withoutIndex family index).column? column).map ColumnDefinition.validationClass =
      (family.column? column).map ColumnDefinition.validationClass := by
    refine map_find?_modifyFirst ?_ ?_ _ <;> exact fun _ => rfl
  rw [holdsCounter_eq, holdsCounter_eq, same]
  rfl

theorem Classified.dropIndex (classified : store.Classified) (sound : Sound store) {column : Bytes}
    (run : dropIndex name column store = (.ok version, after)) :
    Follows (fun _ _ => 0) store after := by
  obtain ⟨keyspace, family, current, -, -, rfl⟩ := dropIndex_ok run
  obtain ⟨-, mem⟩ := of_currentKeyspace current
  refine classified.replace sound rfl mem rfl (fun _ _ => .inr rfl)
    fun member inside place _ _ => ?_
  -- The definitions look as before to whoever asks for names and counters.
  have views : (modifyFirst (fun other => other.name == family.name)
        (fun other => withoutIndex other column) keyspace.families).map
          (fun other => (other.name, holdsCounter other place.column)) =
      keyspace.families.map fun other => (other.name, holdsCounter other place.column) :=
    map_modifyFirst fun other => congrArg (Prod.mk other.name) (holdsCounter_withoutIndex other _ _)
  have view : (member.name, holdsCounter member place.column) ∈
      keyspace.families.map fun other => (other.name, holdsCounter other place.column) :=
    List.mem_map_of_mem inside
  rw [← views] at view
  obtain ⟨next, nextMem, same⟩ := List.mem_map.1 view
  obtain ⟨named, kind⟩ := Prod.mk.inj same
  exact ⟨next, nextMem, named, kind⟩

end Store

end WideColumn
