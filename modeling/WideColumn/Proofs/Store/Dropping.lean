import WideColumn.Proofs.Store.Soundness

/-!
# Dropping and making again

Rows are filed under exact names, but a name is free only if no definition has it in any letter
case. In a sound store rows are on file for defined column families alone, so under a free name
there are none: what is created there starts without rows (`Store.Vacant`), whatever had the name
before, and to drop it again brings the old store back, with two changes more counted.
-/

namespace WideColumn

/-! ### Lists of definitions -/

theorem ColumnFamily.DistinctNames.nodup {families : List ColumnFamily}
    (distinct : DistinctNames families) : families.Nodup :=
  List.Nodup.of_map _ distinct

/-- Of column families with distinct names, the ones without a name are all but the one with it. -/
theorem ColumnFamily.DistinctNames.filter_eq_erase {families : List ColumnFamily}
    {family : ColumnFamily} (distinct : DistinctNames families) (mem : family ∈ families) :
    families.filter (fun other => other.name != family.name) = families.erase family := by
  rw [distinct.nodup.erase_eq_filter]
  refine List.filter_congr fun other inside => ?_
  rw [Bool.eq_iff_iff, bne_iff_ne, bne_iff_ne, not_iff_not]
  exact ⟨distinct.eq inside mem, congrArg ColumnFamily.name⟩

theorem Keyspace.DistinctNames.filter_eq_erase {keyspaces : List Keyspace} {keyspace : Keyspace}
    (distinct : DistinctNames keyspaces) (mem : keyspace ∈ keyspaces) :
    keyspaces.filter (fun other => other.name != keyspace.name) = keyspaces.erase keyspace := by
  rw [(List.Nodup.of_map _ distinct).erase_eq_filter]
  refine List.filter_congr fun other inside => ?_
  rw [Bool.eq_iff_iff, bne_iff_ne, bne_iff_ne, not_iff_not]
  exact ⟨distinct.eq inside mem, congrArg Keyspace.name⟩

/-- No definition has exactly a name that none has in any letter case. -/
theorem Keyspace.name_ne_of_free {keyspace : Keyspace} {name : String} {family : ColumnFamily}
    (free : keyspace.family? name = none) (mem : family ∈ keyspace.families) :
    family.name ≠ name := by
  rintro rfl
  exact List.find?_eq_none.1 free family mem (beq_self_eq_true _)

theorem Keyspace.ne_of_find?_eq_none {keyspaces : List Keyspace} {name : String}
    {keyspace : Keyspace} (free : find? keyspaces name = none) (mem : keyspace ∈ keyspaces) :
    keyspace.name ≠ name := by
  rintro rfl
  exact List.find?_eq_none.1 free keyspace mem (beq_self_eq_true _)

namespace Store

open Stateful

variable {store after : Store} {name version : String} {family : ColumnFamily}
  {keyspace : Keyspace}

/-! ### Stores without rows under a name -/

/-- Under a name that is free in the selected keyspace there are no rows. -/
theorem Sound.get?_rows_of_free (sound : Sound store) (mem : keyspace ∈ store.keyspaces)
    (free : keyspace.family? name = none) : store.rows.get? (keyspace.name, name) = none := by
  cases filed : store.rows.get? (keyspace.name, name) with
  | none => rfl
  | some rows =>
    obtain ⟨owner, ownerMem, member, held, place, -⟩ := sound.rows _ rows filed
    obtain ⟨ownerName, memberName⟩ := Prod.mk.inj place
    obtain rfl : owner = keyspace := sound.filed.distinct.eq ownerMem mem ownerName
    exact absurd memberName (Keyspace.name_ne_of_free free held)

/-- Under a keyspace that is not defined there are no rows. -/
theorem Sound.get?_rows_of_missing (sound : Sound store)
    (free : Keyspace.find? store.keyspaces name = none) (member : String) :
    store.rows.get? (name, member) = none := by
  cases filed : store.rows.get? (name, member) with
  | none => rfl
  | some rows =>
    obtain ⟨owner, ownerMem, _, -, place, -⟩ := sound.rows _ rows filed
    exact absurd (Prod.mk.inj place).1 (Keyspace.ne_of_find?_eq_none free ownerMem)

/-- Whether a column family is known and every read of it comes out empty, as far as its arguments
are accepted. -/
structure Vacant (store : Store) (family : ColumnFamily) : Prop where
  known : store.family family.name = .ok family
  column : ∀ now location, location.family = family.name →
    store.getColumn now location = (fun _ => none) <$> checkShape family location
  row : ∀ now key superColumn count, store.getRow now family.name key superColumn count =
    (fun _ => []) <$> checkShape family ⟨family.name, key, superColumn, none⟩
  slice : ∀ now start stop count, store.getSlice now family.name start stop count = .ok []
  indexed : ∀ now expressions count,
    store.getIndexedSlices now family.name expressions count = .ok [] ∨
      ∃ cause, store.getIndexedSlices now family.name expressions count = .error (.store cause)

/-- A known column family without rows on file is read as empty. -/
theorem vacant_of_rows (known : store.family family.name = .ok family)
    (none : store.rows.get? (family.keyspace, family.name) = none) : Vacant store family := by
  have rows : store.rowsOf family = .empty := by rw [rowsOf, none]; rfl
  have sorted : store.sortedRows family = [] := by rw [sortedRows, rows]; rfl
  refine ⟨known, fun now location here => ?_, fun now key superColumn count => ?_,
    fun now start stop count => ?_, fun now expressions count => ?_⟩
  · rw [getColumn, here, known]
    show (checkShape family location >>= _) = _
    cases checkShape family location with
    | error failure => rfl
    | ok accepted =>
      rw [rows]
      rfl
  · rw [getRow, known]
    show (checkShape family _ >>= _) = _
    cases checkShape family ⟨family.name, key, superColumn, Option.none⟩ with
    | error failure => rfl
    | ok accepted =>
      rw [rows]
      rfl
  · rw [getSlice, known]
    simp only [bind, Except.bind, sorted, List.filter_nil, List.filterMap_nil, upTo, List.take_nil]
    rfl
  · rw [getIndexedSlices, known]
    simp only [bind, Except.bind, sorted, List.filter_nil, upTo, List.take_nil]
    split
    · exact .inr ⟨_, rfl⟩
    · split
      · exact .inl rfl
      · exact .inr ⟨_, rfl⟩

/-! ### Other definitions of the selected keyspace -/

/-- The selected keyspace with another definition is still the current one. -/
theorem Sound.currentKeyspace_withKeyspace (sound : Sound store)
    (current : store.currentKeyspace = .ok keyspace) (families : List ColumnFamily) :
    (store.withKeyspace { keyspace with families }).currentKeyspace =
      .ok { keyspace with families } := by
  obtain ⟨selected, mem⟩ := of_currentKeyspace current
  refine currentKeyspace_eq_ok.2 ⟨keyspace.name, selected, ?_⟩
  show (store.withKeyspace _).keyspaces.find? (fun old => old.name == keyspace.name) = _
  rw [find?_withKeyspace (· == keyspace.name)]
  show (store.keyspace? keyspace.name).map _ = _
  rw [sound.keyspace? mem, Option.map_some, if_pos (beq_self_eq_true _)]

/-- Of two definitions with one name that are put in place, the later one counts. -/
theorem withKeyspace_withKeyspace (store : Store) {first second : Keyspace}
    (same : second.name = first.name) :
    (store.withKeyspace first).withKeyspace second = store.withKeyspace second := by
  unfold withKeyspace
  rw [List.map_map]
  refine congrArg (fun keyspaces => { store with keyspaces }) (List.map_congr_left fun old _ => ?_)
  show (if (if old.name == first.name then first else old).name == second.name then second
    else if old.name == first.name then first else old) = _
  rw [name_replaced, same]
  split <;> rfl

/-- A definition that is there may be put in place again. -/
theorem Sound.withKeyspace_self (sound : Sound store) (mem : keyspace ∈ store.keyspaces) :
    store.withKeyspace keyspace = store := by
  have same : (store.keyspaces.map fun old =>
      if old.name == keyspace.name then keyspace else old) = store.keyspaces.map id := by
    refine List.map_congr_left fun old held => ?_
    split
    · rename_i named
      exact (sound.filed.distinct.eq held mem (beq_iff_eq.1 named)).symm
    · rfl
  rw [withKeyspace, same, List.map_id]

/-! ### Column families -/

/-- A column family that is created is vacant. -/
theorem vacant_of_createFamily (sound : Sound store)
    (run : createFamily family store = (.ok version, after)) : ∃ keyspace,
      store.currentKeyspace = .ok keyspace ∧
        Vacant after { family with keyspace := keyspace.name } := by
  obtain ⟨keyspace, current, free, rfl⟩ := createFamily_ok run
  have mem := (of_currentKeyspace current).2
  refine ⟨keyspace, current, vacant_of_rows (family_eq_ok.2
    ⟨_, sound.currentKeyspace_withKeyspace current _, ?_⟩) (sound.get?_rows_of_free mem free)⟩
  show (keyspace.families ++ [_]).find? (fun other : ColumnFamily => other.name == family.name) = _
  have none_held : keyspace.families.find? (fun other => other.name == family.name) = none :=
    List.find?_eq_none.2 fun other held => by simpa using Keyspace.name_ne_of_free free held
  rw [List.find?_append, none_held]
  simp

/-- A column family that is dropped goes from the selected keyspace, with its rows. -/
theorem dropFamily_eq (sound : Sound store) (current : store.currentKeyspace = .ok keyspace)
    (mem : family ∈ keyspace.families) : ∃ version, dropFamily family.name store =
      (.ok version, counted { store.withKeyspace { keyspace with
          families := keyspace.families.erase family } with
        rows := store.rows.erase (keyspace.name, family.name) }) := by
  have distinct := (sound.defined keyspace (of_currentKeyspace current).2).distinct
  have fewer : (keyspace.families.erase family).length ≠ keyspace.families.length := by
    rw [List.length_erase_of_mem mem]
    have filled := List.length_pos_of_mem mem
    omega
  refine ⟨Schema.changedVersion (store.changes + 1) (store.withKeyspace { keyspace with
    families := keyspace.families.erase family }).keyspaces,
    get_bind_eq_ok.2 (lift_bind_eq_ok.2 ⟨keyspace, current, ?_⟩)⟩
  dsimp only
  rw [distinct.filter_eq_erase mem, if_neg fewer]
  rfl

/-- To drop a column family that was just created brings the old store back. -/
theorem dropFamily_of_createFamily (sound : Sound store) (made : Sound after)
    (run : createFamily family store = (.ok version, after)) :
    ∃ again, dropFamily family.name after =
      (.ok again, { store with changes := store.changes + 2 }) := by
  obtain ⟨keyspace, current, free, rfl⟩ := createFamily_ok run
  have mem := (of_currentKeyspace current).2
  let own : ColumnFamily := { family with keyspace := keyspace.name }
  have new : own ∉ keyspace.families := fun held => Keyspace.name_ne_of_free free held rfl
  obtain ⟨again, dropped⟩ := dropFamily_eq made
    (sound.currentKeyspace_withKeyspace current (keyspace.families ++ [own]))
    (List.mem_append_right _ (List.mem_singleton_self own))
  refine ⟨again, dropped.trans (congrArg (Prod.mk _) ?_)⟩
  have left : (keyspace.families ++ [own]).erase own = keyspace.families := by
    rw [List.erase_append_right _ new, List.erase_cons_head, List.append_nil]
  have rows : store.rows.erase (keyspace.name, own.name) = store.rows :=
    Table.erase_of_get?_eq_none (sound.get?_rows_of_free mem free)
  have back : (store.withKeyspace { keyspace with
      families := keyspace.families ++ [own] }).withKeyspace keyspace = store := by
    refine (withKeyspace_withKeyspace store ?_).trans (sound.withKeyspace_self mem)
    rfl
  rw [left]
  show counted { counted ((store.withKeyspace _).withKeyspace keyspace) with
    rows := store.rows.erase (keyspace.name, own.name) } = _
  rw [rows, back]
  rfl

/-! ### Keyspaces -/

/-- A keyspace that is dropped goes, with its rows, and is no longer selected. -/
theorem dropKeyspace_eq (sound : Sound store) (connected : store.isConnected = true)
    (mem : keyspace ∈ store.keyspaces) : ∃ version, dropKeyspace keyspace.name store =
      (.ok version, counted { store with
        connection := if store.connection = .opened (some keyspace.name) then .opened none
          else store.connection
        keyspaces := store.keyspaces.erase keyspace
        rows := store.rows.filter fun entry => entry.1.1 != keyspace.name }) := by
  have present : (store.keyspace? keyspace.name).isNone = false := by
    rw [sound.keyspace? mem]
    rfl
  refine ⟨Schema.changedVersion (store.changes + 1) (store.keyspaces.erase keyspace),
    get_bind_eq_ok.2 (lift_bind_eq_ok.2 ⟨(), requireConnected_eq_ok.2 connected, ?_⟩)⟩
  dsimp only
  rw [present, sound.filed.distinct.filter_eq_erase mem]
  rfl

/-- To drop a keyspace that was just created, and is not selected, brings the old store back. -/
theorem dropKeyspace_of_createKeyspace (sound : Sound store) (made : Sound after)
    (connected : store.isConnected = true) (idle : store.selected? ≠ some keyspace.name)
    (run : createKeyspace keyspace store = (.ok version, after)) :
    ∃ again, dropKeyspace keyspace.name after =
      (.ok again, { store with changes := store.changes + 2 }) := by
  obtain ⟨free, rfl⟩ := createKeyspace_ok run
  let own : Keyspace := { keyspace with
    families := keyspace.families.map fun family => { family with keyspace := keyspace.name } }
  have new : own ∉ store.keyspaces := fun held => Keyspace.ne_of_find?_eq_none free held rfl
  obtain ⟨again, dropped⟩ := dropKeyspace_eq made connected
    (List.mem_append_right _ (List.mem_singleton_self own))
  refine ⟨again, dropped.trans (congrArg (Prod.mk _) ?_)⟩
  have left : (store.keyspaces ++ [own]).erase own = store.keyspaces := by
    rw [List.erase_append_right _ new, List.erase_cons_head, List.append_nil]
  have rows : (store.rows.filter fun entry => entry.1.1 != own.name) = store.rows := by
    refine Table.filter_eq_self fun place rows filed => bne_iff_ne.2 fun same => ?_
    have absent := sound.get?_rows_of_missing free place.2
    rw [← show place.1 = keyspace.name from same, filed] at absent
    cases absent
  have connection : (if store.connection = .opened (some own.name) then Connection.opened none
      else store.connection) = store.connection := by
    refine if_neg fun selected => idle ?_
    rw [selected?, selected]
  show counted { counted store with
    connection := if store.connection = .opened (some own.name) then .opened none
      else store.connection
    keyspaces := (store.keyspaces ++ [own]).erase own
    rows := store.rows.filter fun entry => entry.1.1 != own.name } = _
  rw [left, rows, connection]
  rfl

end Store

end WideColumn
