import WideColumn.Proofs.Store.Dropping

/-!
# Definitions that are replaced

A call that updates a definition finds it again by its name and puts the new one wherever that name
stands. In a sound store a name stands once, so one definition is replaced in its place
(`Store.Redefines`, `Store.RedefinesFamily`) and the rest of the store is as before, but for the
count of changes.
-/

namespace WideColumn

/-! ### One item of a list -/

/-- Of items with distinct names, the one with a name is replaced in its place. -/
theorem map_replace {α : Type} {name : α → String} {front back : List α} {old : α} (new : α)
    (distinct : ((front ++ old :: back).map name).Nodup) :
    (front ++ old :: back).map (fun item => if name item == name old then new else item) =
      front ++ new :: back := by
  rw [List.map_append, List.map_cons, List.nodup_middle, List.nodup_cons, ← List.map_append]
    at distinct
  have others (items : List α) (inside : items ⊆ front ++ back) :
      items.map (fun item => if name item == name old then new else item) = items := by
    refine (List.map_congr_left fun item mem => if_neg fun same => ?_).trans (List.map_id items)
    exact distinct.1 (List.mem_map.2 ⟨item, inside mem, beq_iff_eq.1 same⟩)
  rw [List.map_append, List.map_cons, if_pos (beq_self_eq_true _),
    others front (List.subset_append_left _ _), others back (List.subset_append_right _ _)]

/-- The first item of a class is changed in its place. -/
theorem modifyFirst_append {α : Type} {isMeant : α → Bool} {change : α → α} {front back : List α}
    {item : α} (before : ∀ other ∈ front, isMeant other = false) (meant : isMeant item = true) :
    modifyFirst isMeant change (front ++ item :: back) = front ++ change item :: back := by
  induction front with
  | nil => exact if_pos meant
  | cons first rest ih =>
    obtain ⟨apart, before⟩ := List.forall_mem_cons.1 before
    rw [List.cons_append, modifyFirst, if_neg (by simp [apart]), ih before, List.cons_append]

theorem exists_modifyFirst {α : Type} {isMeant : α → Bool} {items : List α} {item : α}
    (found : items.find? isMeant = some item) (change : α → α) :
    ∃ front back, items = front ++ item :: back ∧ (∀ other ∈ front, isMeant other = false) ∧
      modifyFirst isMeant change items = front ++ change item :: back := by
  obtain ⟨meant, front, back, rfl, before⟩ := List.find?_eq_some_iff_append.1 found
  have before : ∀ other ∈ front, isMeant other = false := by simpa using before
  exact ⟨front, back, rfl, before, modifyFirst_append before meant⟩

theorem Keyspace.DistinctNames.names {keyspaces : List Keyspace}
    (distinct : DistinctNames keyspaces) : (keyspaces.map Keyspace.name).Nodup := by
  refine List.Nodup.of_map Text.lowered ?_
  rw [List.map_map]
  exact distinct

theorem ColumnFamily.DistinctNames.names {families : List ColumnFamily}
    (distinct : DistinctNames families) : (families.map ColumnFamily.name).Nodup := by
  refine List.Nodup.of_map Text.lowered ?_
  rw [List.map_map]
  exact distinct

namespace Store

variable {store after : Store} {name version : String} {keyspace old new : Keyspace}
  {family changed : ColumnFamily} {column : Bytes}

/-! ### One definition of a store -/

/-- Whether a store is another one with a keyspace defined anew in its place, and one more change
counted. -/
def Redefines (store after : Store) (old new : Keyspace) : Prop :=
  ∃ front back, store.keyspaces = front ++ old :: back ∧
    after = counted { store with keyspaces := front ++ new :: back }

/-- Whether a store is another one with a column family of the selected keyspace defined anew in its
place, and one more change counted. -/
def RedefinesFamily (store after : Store) (old new : ColumnFamily) : Prop :=
  ∃ keyspace front back, store.currentKeyspace = .ok keyspace ∧
    keyspace.families = front ++ old :: back ∧
    store.Redefines after keyspace { keyspace with families := front ++ new :: back }

/-- In a sound store the definition of one keyspace is put in place. -/
theorem Sound.redefines_withKeyspace (sound : Sound store) (held : old ∈ store.keyspaces)
    (same : new.name = old.name) : store.Redefines (counted (store.withKeyspace new)) old new := by
  obtain ⟨front, back, split⟩ := List.append_of_mem held
  have distinct := sound.filed.distinct.names
  refine ⟨front, back, split, ?_⟩
  rw [split] at distinct
  rw [withKeyspace, split, same, map_replace new distinct]

/-- An update of a keyspace replaces one definition and keeps the column families. -/
theorem redefines_of_updateKeyspace (sound : Sound store) (held : old ∈ store.keyspaces)
    (same : new.name = old.name) (families : new.families = old.families)
    (run : updateKeyspace new store = (.ok version, after)) : store.Redefines after old new := by
  obtain ⟨found, known, rfl⟩ := updateKeyspace_ok run
  obtain rfl : old = found := by
    rw [same, sound.keyspace? held] at known
    exact Option.some.inj known
  rw [← families]
  exact sound.redefines_withKeyspace held same

/-- An update of a column family replaces one definition and keeps what is fixed of it. -/
theorem redefines_of_updateFamily (sound : Sound store)
    (current : store.currentKeyspace = .ok keyspace) (held : family ∈ keyspace.families)
    (same : changed.name = family.name)
    (run : updateFamily changed store = (.ok version, after)) :
    store.RedefinesFamily after family changed ∧ changed.columnType = family.columnType ∧
      changed.comparatorType = family.comparatorType ∧
      changed.subcomparatorType = family.subcomparatorType := by
  obtain ⟨_, found, again, known, fixed, rfl⟩ := updateFamily_ok run
  obtain rfl := Except.ok.inj (current.symm.trans again)
  obtain ⟨_, chosen, named⟩ := family_eq_ok.1 known
  obtain rfl := Except.ok.inj (current.symm.trans chosen)
  have mem := (of_currentKeyspace current).2
  have distinct := (sound.defined keyspace mem).distinct
  obtain rfl : family = found := by
    refine distinct.eq held (List.mem_of_find?_eq_some named) ?_
    exact same.symm.trans (name_of_family known).symm
  obtain ⟨front, back, split⟩ := List.append_of_mem held
  refine ⟨⟨keyspace, front, back, current, split, ?_⟩, fixed_of_fixedDifference? fixed⟩
  have names := distinct.names
  rw [split] at names
  rw [split, map_replace changed names]
  exact sound.redefines_withKeyspace mem rfl

/-- To drop an index changes the first definition of a column of that name, which has an index. -/
theorem redefines_of_dropIndex (sound : Sound store) (known : store.family name = .ok family)
    (run : dropIndex name column store = (.ok version, after)) :
    ∃ front definition back, family.columnMetadata = front ++ definition :: back ∧
      definition.name = column ∧ definition.isIndexed = true ∧
      (∀ other ∈ front, other.name ≠ column) ∧
      store.RedefinesFamily after family { family with
        columnMetadata :=
          front ++ { definition with indexType := none, indexName := none } :: back } := by
  obtain ⟨keyspace, found, current, again, indexed, rfl⟩ := dropIndex_ok run
  obtain rfl := Except.ok.inj (known.symm.trans again)
  obtain rfl : family.name = name := name_of_family known
  obtain ⟨_, chosen, named⟩ := family_eq_ok.1 known
  obtain rfl := Except.ok.inj (current.symm.trans chosen)
  obtain ⟨definition, first, indexed⟩ := (Option.any_eq_true _ _).1 indexed
  obtain ⟨front, back, columns, before, modified⟩ := exists_modifyFirst first
    fun definition => { definition with indexType := none, indexName := none }
  obtain ⟨ahead, behind, families, -, replaced⟩ := exists_modifyFirst named
    fun other => withoutIndex other column
  refine ⟨front, definition, back, columns, by simpa using List.find?_some first, indexed,
    fun other mem => by simpa using before other mem, keyspace, ahead, behind, current, families, ?_⟩
  rw [replaced, withoutIndex, modified]
  exact sound.redefines_withKeyspace (of_currentKeyspace current).2 rfl

end Store

end WideColumn
