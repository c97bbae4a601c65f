import WideColumn.Proofs.Store.Calls
import WideColumn.Proofs.Success

/-!
# What calls change

A call that fails changes nothing. For each call that may change the store, one lemma says what it
needs to succeed and what the store is afterwards; everything else about the call follows from it.
-/

namespace WideColumn.Store

open Stateful

variable {store after : Store} {name version : String}

/-! ### Checks -/

theorem requireConnected_eq_ok {checked : Unit} :
    store.requireConnected = .ok checked ↔ store.isConnected = true := by
  unfold requireConnected
  split <;> simp [*]

theorem isConnected_of_selected {selected : String} (chosen : store.selected? = some selected) :
    store.isConnected = true := by
  unfold selected? at chosen
  unfold isConnected
  cases opened : store.connection with
  | closed =>
    rw [opened] at chosen
    cases chosen
  | opened keyspace => rfl

/-- The definition of the selected keyspace is the one with exactly its name. -/
theorem currentKeyspace_eq_ok {keyspace : Keyspace} : store.currentKeyspace = .ok keyspace ↔
    ∃ selected, store.selected? = some selected ∧ store.keyspace? selected = some keyspace := by
  unfold currentKeyspace
  rw [WideColumn.bind_eq_ok]
  constructor
  · rintro ⟨-, -, run⟩
    split at run
    · cases run
    · rename_i selected chosen
      split at run
      · rename_i found
        cases run
        exact ⟨selected, chosen, found⟩
      · cases run
  · rintro ⟨selected, chosen, found⟩
    refine ⟨(), requireConnected_eq_ok.2 (isConnected_of_selected chosen), ?_⟩
    rw [chosen]
    dsimp only
    rw [found]
    rfl

theorem family_eq_ok {found : ColumnFamily} : store.family name = .ok found ↔
    ∃ keyspace, store.currentKeyspace = .ok keyspace ∧
      keyspace.families.find? (fun family => family.name == name) = some found := by
  unfold Store.family
  rw [WideColumn.bind_eq_ok]
  refine exists_congr fun keyspace => and_congr_right fun _ => ?_
  cases keyspace.families.find? (fun family => family.name == name) with
  | none => exact ⟨nofun, nofun⟩
  | some family =>
    exact ⟨fun run => congrArg some (Except.ok.inj run), fun same => congrArg Except.ok (Option.some.inj same)⟩

/-! ### Rows -/

/-- A call on rows changes those of one column family of the selected keyspace. -/
theorem changeRows_ok {change : ColumnFamily → Table Bytes Row → Except Failure (Table Bytes Row)}
    {changed : Unit} (run : changeRows name change store = (.ok changed, after)) :
    ∃ family rows, store.family name = .ok family ∧ change family (store.rowsOf family) = .ok rows ∧
      after = store.withRows family rows := by
  obtain ⟨family, found, run⟩ := lift_bind_eq_ok.1 (get_bind_eq_ok.1 run)
  obtain ⟨rows, changes, run⟩ := lift_bind_eq_ok.1 run
  cases run
  exact ⟨family, rows, found, changes, rfl⟩

theorem insertColumn_ok {now : Int} {location : Location} {data : Bytes} {ttl : Option Int}
    {inserted : Unit} (run : insertColumn now location data ttl store = (.ok inserted, after)) :
    ∃ column family rows, location.column = some column ∧
      requirePositive ttl = .ok () ∧ store.family location.family = .ok family ∧
      holdsCounter family column = false ∧ checkShape family location = .ok () ∧
      withRecord (store.rowsOf family) location column (.value data now ttl) = .ok rows ∧
      after = store.withRows family rows := by
  obtain ⟨column, named, run⟩ := lift_bind_eq_ok.1 run
  obtain ⟨_, positive, run⟩ := lift_bind_eq_ok.1 run
  obtain ⟨family, rows, found, changes, rfl⟩ := changeRows_ok run
  split at changes
  · cases changes
  · rename_i plain
    obtain ⟨_, shape, changes⟩ := WideColumn.bind_eq_ok.1 changes
    exact ⟨column, family, rows, requireColumnName_ok named, positive, found, by simpa using plain,
      shape, changes, rfl⟩

theorem addToCounter_ok {location : Location} {delta : Int} {added : Unit}
    (run : addToCounter location delta store = (.ok added, after)) :
    ∃ column family total rows, location.column = some column ∧
      store.family location.family = .ok family ∧ holdsCounter family column = true ∧
      checkShape family location = .ok () ∧
      totalAt (store.rowsOf family) location column = .ok total ∧
      withRecord (store.rowsOf family) location column (.counter (total + delta)) = .ok rows ∧
      after = store.withRows family rows := by
  obtain ⟨column, named, run⟩ := lift_bind_eq_ok.1 run
  obtain ⟨family, rows, found, changes, rfl⟩ := changeRows_ok run
  split at changes
  · rename_i counts
    obtain ⟨_, shape, changes⟩ := WideColumn.bind_eq_ok.1 changes
    obtain ⟨total, counted, changes⟩ := WideColumn.bind_eq_ok.1 changes
    exact ⟨column, family, total, rows, requireColumnName_ok named, found, counts, shape, counted,
      changes, rfl⟩
  · cases changes

theorem removeColumn_ok {location : Location} {removed : Unit}
    (run : removeColumn location store = (.ok removed, after)) :
    ∃ family rows, store.family location.family = .ok family ∧
      without (store.rowsOf family) location = .ok rows ∧ after = store.withRows family rows := by
  obtain ⟨family, rows, found, changes, rfl⟩ := changeRows_ok run
  refine ⟨family, rows, found, ?_, rfl⟩
  split at changes
  · obtain ⟨_, -, changes⟩ := WideColumn.bind_eq_ok.1 changes
    exact changes
  · exact changes

theorem truncate_ok {truncated : Unit} (run : truncate name store = (.ok truncated, after)) :
    ∃ family, store.family name = .ok family ∧ after = store.withRows family .empty := by
  obtain ⟨family, rows, found, changes, rfl⟩ := changeRows_ok run
  cases changes
  exact ⟨family, found, rfl⟩

/-! ### The schema -/

/-- The store with one more change of the schema counted. -/
def counted (store : Store) : Store :=
  { store with changes := store.changes + 1 }

/-- A new schema that is put in place and then counted. -/
theorem change_ok {given : Store}
    (run : (do set given; countChange : Call String) store = (.ok version, after)) :
    after = counted given :=
  (congrArg Prod.snd run).symm

theorem selectKeyspace_ok {selected : Unit}
    (run : selectKeyspace name store = (.ok selected, after)) :
    store.isConnected = true ∧ ∃ keyspace, Keyspace.find? store.keyspaces name = some keyspace ∧
      after = { store with connection := .opened (some keyspace.name) } := by
  obtain ⟨_, checked, run⟩ := lift_bind_eq_ok.1 (get_bind_eq_ok.1 run)
  refine ⟨requireConnected_eq_ok.1 checked, ?_⟩
  cases found : Keyspace.find? store.keyspaces name with
  | none =>
    rw [found] at run
    cases run
  | some keyspace =>
    rw [found] at run
    cases run
    exact ⟨keyspace, rfl, rfl⟩

/-- A new keyspace comes last, and its column families belong to it. -/
theorem createKeyspace_ok {keyspace : Keyspace}
    (run : createKeyspace keyspace store = (.ok version, after)) :
    Keyspace.find? store.keyspaces keyspace.name = none ∧
      after = counted { store with
        keyspaces := store.keyspaces ++ [{ keyspace with
          families := keyspace.families.map fun family =>
            { family with keyspace := keyspace.name } }] } := by
  obtain ⟨_, checked, run⟩ := lift_bind_eq_ok.1 (get_bind_eq_ok.1 run)
  dsimp only at run
  split at run
  · cases run
  · rename_i free
    exact ⟨by simpa using free, change_ok run⟩

theorem updateKeyspace_ok {keyspace : Keyspace}
    (run : updateKeyspace keyspace store = (.ok version, after)) :
    ∃ old, store.keyspace? keyspace.name = some old ∧
      after = counted (store.withKeyspace { keyspace with families := old.families }) := by
  obtain ⟨_, checked, run⟩ := lift_bind_eq_ok.1 (get_bind_eq_ok.1 run)
  cases found : store.keyspace? keyspace.name with
  | none =>
    rw [found] at run
    cases run
  | some old =>
    rw [found] at run
    exact ⟨old, rfl, change_ok run⟩

theorem dropKeyspace_ok (run : dropKeyspace name store = (.ok version, after)) :
    after = counted { store with
      connection := if store.connection = .opened (some name) then .opened none
        else store.connection
      keyspaces := store.keyspaces.filter fun keyspace => keyspace.name != name
      rows := store.rows.filter fun entry => entry.1.1 != name } := by
  obtain ⟨_, checked, run⟩ := lift_bind_eq_ok.1 (get_bind_eq_ok.1 run)
  dsimp only at run
  split at run
  · cases run
  · exact change_ok run

/-- A new column family comes last in the selected keyspace, and belongs to it. -/
theorem createFamily_ok {family : ColumnFamily}
    (run : createFamily family store = (.ok version, after)) :
    ∃ keyspace, store.currentKeyspace = .ok keyspace ∧ keyspace.family? family.name = none ∧
      after = counted (store.withKeyspace { keyspace with
        families := keyspace.families ++ [{ family with keyspace := keyspace.name }] }) := by
  obtain ⟨keyspace, found, run⟩ := lift_bind_eq_ok.1 (get_bind_eq_ok.1 run)
  dsimp only at run
  split at run
  · cases run
  · rename_i free
    exact ⟨keyspace, found, by simpa using free, change_ok run⟩

theorem updateFamily_ok {family : ColumnFamily}
    (run : updateFamily family store = (.ok version, after)) :
    ∃ keyspace old, store.currentKeyspace = .ok keyspace ∧ store.family family.name = .ok old ∧
      fixedDifference? old family = none ∧
      after = counted (store.withKeyspace { keyspace with
        families := keyspace.families.map fun other =>
          if other.name == old.name then family else other }) := by
  obtain ⟨old, found, run⟩ := lift_bind_eq_ok.1 (get_bind_eq_ok.1 run)
  cases different : fixedDifference? old family with
  | some part =>
    rw [different] at run
    cases run
  | none =>
    rw [different] at run
    obtain ⟨keyspace, current, run⟩ := lift_bind_eq_ok.1 run
    exact ⟨keyspace, old, current, found, different, change_ok run⟩

theorem dropFamily_ok (run : dropFamily name store = (.ok version, after)) :
    ∃ keyspace, store.currentKeyspace = .ok keyspace ∧
      after = counted { store.withKeyspace { keyspace with
          families := keyspace.families.filter fun family => family.name != name } with
        rows := store.rows.erase (keyspace.name, name) } := by
  obtain ⟨keyspace, current, run⟩ := lift_bind_eq_ok.1 (get_bind_eq_ok.1 run)
  dsimp only at run
  split at run
  · cases run
  · exact ⟨keyspace, current, (congrArg Prod.snd run).symm⟩

theorem dropIndex_ok {column : Bytes} (run : dropIndex name column store = (.ok version, after)) :
    ∃ keyspace family, store.currentKeyspace = .ok keyspace ∧ store.family name = .ok family ∧
      (family.column? column).any ColumnDefinition.isIndexed = true ∧
      after = counted (store.withKeyspace { keyspace with
        families := modifyFirst (fun other => other.name == family.name)
          (fun other => withoutIndex other column) keyspace.families }) := by
  obtain ⟨family, found, run⟩ := lift_bind_eq_ok.1 (get_bind_eq_ok.1 run)
  dsimp only at run
  split at run
  · rename_i indexed
    obtain ⟨keyspace, current, run⟩ := lift_bind_eq_ok.1 run
    exact ⟨keyspace, family, current, found, indexed, change_ok run⟩
  · cases run

end WideColumn.Store
