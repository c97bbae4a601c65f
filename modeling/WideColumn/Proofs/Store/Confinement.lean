import WideColumn.Proofs.Store.Congruence
import WideColumn.Proofs.Store.Outline

/-!
# Calls stay in the selected keyspace

The calls on rows and on column families work in the keyspace that is selected over the connection.
They change nothing in any other keyspace (`Stays`), and they read nothing of it: in two stores that
agree on the selected keyspace (`SameView`) they end alike. Both rest on every column family being
filed under the keyspace that holds it (`Keyspace.WellFiled`), because its rows are found by that.
-/

namespace WideColumn

namespace Keyspace

/-- Whether the names of keyspaces are distinct and every column family belongs to the keyspace that
holds it. -/
structure WellFiled (keyspaces : List Keyspace) : Prop where
  distinct : DistinctNames keyspaces
  belong : ∀ keyspace ∈ keyspaces, ∀ family ∈ keyspace.families, family.keyspace = keyspace.name

theorem mem_of_family {keyspace : Keyspace} {name : String} {family : ColumnFamily}
    (found : keyspace.family name = .ok family) : family ∈ keyspace.families := by
  unfold Keyspace.family at found
  split at found
  · rename_i known
    cases found
    exact List.mem_of_find?_eq_some known
  · cases found

end Keyspace

namespace Store

variable {store other after : Store} {name version : String} {keyspace : Keyspace}
  {family : ColumnFamily}

/-! ### Keyspaces that are found -/

theorem of_keyspace?_eq_some (found : store.keyspace? name = some keyspace) :
    keyspace ∈ store.keyspaces ∧ keyspace.name = name :=
  ⟨List.mem_of_find?_eq_some found, by simpa using List.find?_some found⟩

/-- The keyspace with exactly the selected name is the current one. -/
theorem of_currentKeyspace (current : store.currentKeyspace = .ok keyspace) :
    store.selected? = some keyspace.name ∧ keyspace ∈ store.keyspaces := by
  obtain ⟨selected, chosen, found⟩ := currentKeyspace_eq_ok.1 current
  obtain ⟨mem, rfl⟩ := of_keyspace?_eq_some found
  exact ⟨chosen, mem⟩

/-- A column family that is found belongs to the selected keyspace. -/
theorem selected?_of_family (filed : Keyspace.WellFiled store.keyspaces)
    (found : store.family name = .ok family) : store.selected? = some family.keyspace := by
  obtain ⟨keyspace, current, named⟩ := family_eq_ok.1 found
  obtain ⟨chosen, mem⟩ := of_currentKeyspace current
  rw [chosen, filed.belong keyspace mem family (List.mem_of_find?_eq_some named)]

/-- A definition is put in the place of the one with its name, so every name finds what it found or
the new definition instead. -/
theorem find?_withKeyspace (isMeant : String → Bool) :
    (store.withKeyspace keyspace).keyspaces.find? (fun old => isMeant old.name) =
      (store.keyspaces.find? fun old => isMeant old.name).map fun old =>
        if old.name == keyspace.name then keyspace else old := by
  rw [withKeyspace, List.find?_map]
  congr 2
  funext old
  exact congrArg isMeant (name_replaced old keyspace)

/-! ### What a call leaves alone -/

/-- Whether a store differs from an earlier one in a keyspace only. -/
structure ConfinedTo (name : String) (store after : Store) : Prop where
  outline : SameOutline store after
  definitions : ∀ other ≠ name, after.keyspace? other = store.keyspace? other
  rows : ∀ other ≠ name, ∀ family,
    after.rows.get? (other, family) = store.rows.get? (other, family)

/-- Whether a store differs from an earlier one in the selected keyspace only, and files every column
family well. -/
def Stays (store after : Store) : Prop :=
  ∃ name, store.selected? = some name ∧ ConfinedTo name store after ∧
    Keyspace.WellFiled after.keyspaces

/-- Reading from a column family is done in the selected keyspace. -/
theorem stays_of_family (filed : Keyspace.WellFiled store.keyspaces)
    (found : store.family name = .ok family) : Stays store store :=
  ⟨family.keyspace, selected?_of_family filed found,
    ⟨.refl store, fun _ _ => rfl, fun _ _ _ => rfl⟩, filed⟩

theorem stays_withRows (filed : Keyspace.WellFiled store.keyspaces)
    (found : store.family name = .ok family) (rows : Table Bytes Row) :
    Stays store (store.withRows family rows) := by
  refine ⟨family.keyspace, selected?_of_family filed found,
    ⟨sameOutline_withRows family rows, fun _ _ => rfl, fun elsewhere apart member => ?_⟩, filed⟩
  rw [withRows, Table.get?_put, if_neg fun same => apart (congrArg Prod.fst same).symm]

/-- New column families of the current keyspace have to belong to it. -/
theorem stays_withFamilies (filed : Keyspace.WellFiled store.keyspaces)
    (current : store.currentKeyspace = .ok keyspace) {families : List ColumnFamily}
    (belong : ∀ family ∈ families, family.keyspace = keyspace.name) :
    Stays store (counted (store.withKeyspace { keyspace with families })) := by
  obtain ⟨chosen, mem⟩ := of_currentKeyspace current
  have outline : SameOutline store (counted (store.withKeyspace { keyspace with families })) :=
    sameOutline_withKeyspace _
  refine ⟨keyspace.name, chosen, ⟨outline, fun elsewhere apart => ?_, fun _ _ _ => rfl⟩,
    ⟨outline.distinctNames filed.distinct, ?_⟩⟩
  · show (store.withKeyspace _).keyspaces.find? (fun old => old.name == elsewhere) = _
    rw [find?_withKeyspace (· == elsewhere)]
    show (store.keyspace? elsewhere).map _ = _
    cases found : store.keyspace? elsewhere with
    | none => rfl
    | some old =>
      obtain ⟨-, rfl⟩ := of_keyspace?_eq_some found
      rw [Option.map_some, if_neg (by simpa using apart)]
  · intro replaced present
    obtain ⟨old, held, rfl⟩ := List.mem_map.1 present
    split
    · exact belong
    · exact filed.belong old held

/-! ### Calls on column families -/

theorem createFamily_stays (filed : Keyspace.WellFiled store.keyspaces)
    (run : createFamily family store = (.ok version, after)) : Stays store after := by
  obtain ⟨keyspace, current, -, rfl⟩ := createFamily_ok run
  refine stays_withFamilies filed current fun member present => ?_
  rcases List.mem_append.1 present with old | new
  · exact filed.belong keyspace (of_currentKeyspace current).2 member old
  · rw [List.mem_singleton.1 new]

/-- A definition has to belong to the selected keyspace already. -/
theorem updateFamily_stays (filed : Keyspace.WellFiled store.keyspaces)
    (belongs : store.selected? = some family.keyspace)
    (run : updateFamily family store = (.ok version, after)) : Stays store after := by
  obtain ⟨keyspace, old, current, -, -, rfl⟩ := updateFamily_ok run
  obtain ⟨chosen, mem⟩ := of_currentKeyspace current
  refine stays_withFamilies filed current fun member present => ?_
  obtain ⟨before, held, rfl⟩ := List.mem_map.1 present
  split
  · exact Option.some.inj (belongs.symm.trans chosen)
  · exact filed.belong keyspace mem before held

theorem dropFamily_stays (filed : Keyspace.WellFiled store.keyspaces)
    (run : dropFamily name store = (.ok version, after)) : Stays store after := by
  obtain ⟨keyspace, current, rfl⟩ := dropFamily_ok run
  obtain ⟨chosen, mem⟩ := of_currentKeyspace current
  obtain ⟨selected, same, confined, kept⟩ := stays_withFamilies filed current
    fun member present => filed.belong keyspace mem member (List.mem_filter.1 present).1
  obtain rfl : keyspace.name = selected := Option.some.inj (chosen.symm.trans same)
  refine ⟨keyspace.name, chosen, ⟨⟨confined.outline.connection, confined.outline.names⟩,
    confined.definitions, fun elsewhere apart member => ?_⟩, kept⟩
  -- The rows that go are those of the column family, which are filed under the keyspace.
  show (store.rows.erase (keyspace.name, name)).get? (elsewhere, member) = _
  rw [Table.get?_erase, if_neg fun same => apart (congrArg Prod.fst same).symm]

/-- What holds for all items with or without a change holds after the first of a class changed. -/
theorem forall_mem_modifyFirst {α : Type} {isMeant : α → Bool} {change : α → α} {holds : α → Prop}
    (changed : ∀ item, holds item → holds (change item)) {items : List α}
    (all : ∀ item ∈ items, holds item) : ∀ item ∈ modifyFirst isMeant change items, holds item := by
  induction items with
  | nil => exact all
  | cons first rest ih =>
    obtain ⟨now, later⟩ := List.forall_mem_cons.1 all
    rw [modifyFirst]
    split
    · exact List.forall_mem_cons.2 ⟨changed first now, later⟩
    · exact List.forall_mem_cons.2 ⟨now, ih later⟩

theorem dropIndex_stays (filed : Keyspace.WellFiled store.keyspaces) {column : Bytes}
    (run : dropIndex name column store = (.ok version, after)) : Stays store after := by
  obtain ⟨keyspace, family, current, -, -, rfl⟩ := dropIndex_ok run
  have kept : ∀ member : ColumnFamily, member.keyspace = keyspace.name →
      (withoutIndex member column).keyspace = keyspace.name := fun _ belongs => belongs
  exact stays_withFamilies filed current
    (forall_mem_modifyFirst kept (filed.belong keyspace (of_currentKeyspace current).2))

/-! ### What a call reads -/

/-- Whether two stores look the same over their connection: in the selected keyspace, and in the
definition of a keyspace by some name of one's own. -/
structure SameView (own : Option String) (store other : Store) : Prop where
  connection : other.connection = store.connection
  described : ∀ name ∈ own,
    Keyspace.find? other.keyspaces name = Keyspace.find? store.keyspaces name
  definition : ∀ name ∈ store.selected?, other.keyspace? name = store.keyspace? name
  rows : ∀ name ∈ store.selected?, ∀ family,
    other.rows.get? (name, family) = store.rows.get? (name, family)

namespace SameView

variable {own : Option String}

theorem isConnected (view : SameView own store other) : other.isConnected = store.isConnected := by
  rw [Store.isConnected, view.connection]
  rfl

theorem requireConnected (view : SameView own store other) :
    other.requireConnected = store.requireConnected := by
  rw [Store.requireConnected, view.isConnected]
  rfl

theorem currentKeyspace (view : SameView own store other) :
    other.currentKeyspace = store.currentKeyspace := by
  have selected : other.selected? = store.selected? := by
    rw [Store.selected?, view.connection]
    rfl
  unfold Store.currentKeyspace
  rw [view.requireConnected, selected]
  cases chosen : store.selected? with
  | none => rfl
  | some name =>
    dsimp only
    rw [view.definition name chosen]

theorem reach (view : SameView own store other) (filed : Keyspace.WellFiled store.keyspaces) :
    SameReach store other := by
  refine ⟨view.currentKeyspace, fun found => ?_⟩
  unfold Store.rowsOf
  rw [view.rows _ (selected?_of_family filed found)]

/-! ### Calls end alike -/

theorem withRows (view : SameView own store other) (family : ColumnFamily)
    (rows : Table Bytes Row) :
    SameView own (store.withRows family rows) (other.withRows family rows) := by
  refine ⟨view.connection, view.described, view.definition, fun name chosen member => ?_⟩
  simp only [Store.withRows, Table.get?_put, view.rows name chosen member]

theorem withoutRows (view : SameView own store other) (place : String × String) :
    SameView own (store.withoutRows place) (other.withoutRows place) := by
  refine ⟨view.connection, view.described, view.definition, fun name chosen member => ?_⟩
  simp only [Store.withoutRows, Table.get?_erase, view.rows name chosen member]

theorem withKeyspace (view : SameView own store other) (keyspace : Keyspace) :
    SameView own (counted (store.withKeyspace keyspace))
      (counted (other.withKeyspace keyspace)) := by
  refine ⟨view.connection, fun name mine => ?_, fun name chosen => ?_, view.rows⟩
  · show (other.withKeyspace keyspace).keyspaces.find? _ =
      (store.withKeyspace keyspace).keyspaces.find? _
    rw [find?_withKeyspace fun old => Text.sameIgnoringCase old name,
      find?_withKeyspace fun old => Text.sameIgnoringCase old name]
    exact congrArg (Option.map _) (view.described name mine)
  · show (other.withKeyspace keyspace).keyspaces.find? _ =
      (store.withKeyspace keyspace).keyspaces.find? _
    rw [find?_withKeyspace (· == name), find?_withKeyspace (· == name)]
    exact congrArg (Option.map _) (view.definition name chosen)

/-- A new schema has a version of its own. -/
theorem kept : Kept (SameView own) fun _ _ => True :=
  ⟨withRows, withoutRows, withKeyspace, fun _ => trivial⟩

end SameView

end Store

end WideColumn
