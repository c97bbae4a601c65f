import WideColumn.Proofs.Store.Families

/-!
# Column families belong to their keyspaces

Along a run of calls with whatever definitions, every column family belongs to the keyspace that holds
it just if no update of a column family that succeeds brings a definition that belongs elsewhere: the
call that creates a column family, and the one that creates a keyspace with some, say themselves where
they belong, but the update takes the definition as it is. As long as all belong where they are, the
rows of a column family are out of reach of all calls made in another keyspace
(`Store.belong_of_run`).
-/

namespace WideColumn.Store

variable {store : Store} {family : ColumnFamily}

/-! ### Names of keyspaces -/

theorem SchemaChange.distinctNames {change : SchemaChange} {version : String} {after : Store}
    (distinct : Keyspace.DistinctNames store.keyspaces)
    (run : change.perform store = (.ok version, after)) : Keyspace.DistinctNames after.keyspaces := by
  cases change with
  | createKeyspace keyspace =>
    obtain ⟨free, rfl⟩ := createKeyspace_ok run
    exact distinct.concat free
  | updateKeyspace keyspace => exact (updateKeyspace_sameOutline run).distinctNames distinct
  | dropKeyspace name =>
    obtain rfl := dropKeyspace_ok run
    exact distinct.filter _
  | createFamily family => exact (createFamily_sameOutline run).distinctNames distinct
  | updateFamily family => exact (updateFamily_sameOutline run).distinctNames distinct
  | dropFamily name => exact (dropFamily_sameOutline run).distinctNames distinct
  | dropIndex family column => exact (dropIndex_sameOutline run).distinctNames distinct

theorem Operation.distinctNames (operation : Operation)
    (distinct : Keyspace.DistinctNames store.keyspaces) :
    Keyspace.DistinctNames (operation.after store).keyspaces := by
  cases operation with
  | connect => exact distinct
  | close => exact distinct
  | select name =>
    rw [Operation.after, keyspaces_selectKeyspace]
    exact distinct
  | write call =>
    rw [Operation.after, call.keyspaces_perform]
    exact distinct
  | change call =>
    rw [Operation.after]
    rcases call.counts store with ⟨failure, run⟩ | ⟨version, after, run, -⟩
    · rw [run]
      exact distinct
    · rw [run]
      exact SchemaChange.distinctNames distinct run

theorem distinctNames_afterAll (distinct : Keyspace.DistinctNames store.keyspaces)
    (operations : List Operation) : Keyspace.DistinctNames (store.afterAll operations).keyspaces := by
  induction operations generalizing store with
  | nil => exact distinct
  | cons operation rest ih => exact ih (operation.distinctNames distinct)

/-! ### Rows out of reach -/

/-- Whether the rows of a column family are out of reach: no call on rows changes them, and no read
depends on them. -/
structure OutOfReach (store : Store) (family : ColumnFamily) : Prop where
  written : ∀ call : Write, (call.perform store).2.rowsOf family = store.rowsOf family
  column : ∀ rows now location,
    (store.withRows family rows).getColumn now location = store.getColumn now location
  row : ∀ rows now name key superColumn count,
    (store.withRows family rows).getRow now name key superColumn count =
      store.getRow now name key superColumn count
  slice : ∀ rows now name start stop count,
    (store.withRows family rows).getSlice now name start stop count =
      store.getSlice now name start stop count
  indexed : ∀ rows now name expressions count,
    (store.withRows family rows).getIndexedSlices now name expressions count =
      store.getIndexedSlices now name expressions count

/-- Calls on rows are made in the selected keyspace. -/
theorem outOfReach_of_elsewhere (filed : Keyspace.WellFiled store.keyspaces)
    (elsewhere : store.selected? ≠ some family.keyspace) : store.OutOfReach family := by
  have view (rows : Table Bytes Row) : SameView none store (store.withRows family rows) := by
    refine ⟨rfl, nofun, fun _ _ => rfl, fun name chosen member => ?_⟩
    have apart : (family.keyspace, family.name) ≠ (name, member) := fun same =>
      elsewhere (chosen.trans (congrArg some (congrArg Prod.fst same).symm))
    rw [withRows, Table.get?_put, if_neg apart]
  have reach (rows : Table Bytes Row) : SameReach store (store.withRows family rows) :=
    (view rows).reach filed
  refine ⟨fun call => ?_, fun rows => (reach rows).getColumn, fun rows => (reach rows).getRow,
    fun rows => (reach rows).getSlice, fun rows => (reach rows).getIndexedSlices⟩
  refine call.isolated.same (fun store => store.rowsOf family) fun done after run => ?_
  obtain ⟨worked, rows, found, rfl⟩ := Write.perform_ok run
  have apart : (worked.keyspace, worked.name) ≠ (family.keyspace, family.name) := fun same =>
    elsewhere ((selected?_of_family filed found).trans (congrArg some (congrArg Prod.fst same)))
  rw [rowsOf, withRows, Table.get?_put, if_neg apart]
  rfl

/-! ### Runs -/

/-- Whether all column families belong to the keyspaces that hold them. -/
def AllBelong (store : Store) : Prop :=
  ∀ keyspace ∈ store.keyspaces, ∀ family ∈ keyspace.families, family.keyspace = keyspace.name

/-- Only an update brings a definition that may belong elsewhere. -/
theorem puts_belonging_iff {operation : Operation} :
    operation.Puts (fun name family => family.keyspace = name) store ↔
      ∀ family, operation = .change (.updateFamily family) →
        (updateFamily family store).1.isOk = true → store.selected? = some family.keyspace := by
  constructor
  · rintro puts family rfl works
    have belongs := puts works
    rcases run : updateFamily family store with ⟨failure | version, after⟩
    · rw [run] at works
      cases works
    · obtain ⟨keyspace, -, current, -⟩ := updateFamily_ok run
      have chosen := (of_currentKeyspace current).1
      rw [chosen, belongs keyspace.name chosen]
  · intro anchored
    cases operation with
    | change call =>
      intro works
      cases call with
      | createKeyspace keyspace => exact fun _ _ => rfl
      | createFamily family => exact fun _ _ => rfl
      | updateFamily family =>
        intro name chosen
        exact Option.some.inj ((anchored family rfl works).symm.trans chosen)
      | _ => trivial
    | _ => trivial

/-- Along a run of calls from a new store all column families belong to the keyspaces that hold them
just if each update of a column family that succeeds brings a definition that belongs to the selected
keyspace. Where they do, the rows of a column family are out of reach of all calls that are made in
another keyspace. -/
theorem belong_of_run (clusterName : String) (operations : List Operation) :
    let store : Store := { clusterName }
    ((∀ early, early <+: operations → (store.afterAll early).AllBelong) ↔
        ∀ early family, early ++ [.change (.updateFamily family)] <+: operations →
          (updateFamily family (store.afterAll early)).1.isOk = true →
          (store.afterAll early).selected? = some family.keyspace) ∧
      ∀ early, early <+: operations → (store.afterAll early).AllBelong →
        ∀ keyspace ∈ (store.afterAll early).keyspaces,
          (store.afterAll early).selected? ≠ some keyspace.name →
          ∀ family ∈ keyspace.families, (store.afterAll early).OutOfReach family := by
  intro store
  have distinct : Keyspace.DistinctNames store.keyspaces := List.nodup_singleton _
  refine ⟨?_, fun early _ belong keyspace mem unselected family held => ?_⟩
  · have start : store.AllFamilies fun name family => family.keyspace = name :=
      allFamilies_new clusterName .closed
    refine (allFamilies_afterAll (fun _ _ _ belongs => belongs) start operations).trans ?_
    constructor
    · intro puts early family within
      exact puts_belonging_iff.1 (puts early _ within) family rfl
    · intro anchored early operation within
      exact puts_belonging_iff.2 fun family same => anchored early family (same ▸ within)
  · have filed : Keyspace.WellFiled (store.afterAll early).keyspaces :=
      ⟨distinctNames_afterAll distinct early, belong⟩
    exact outOfReach_of_elsewhere filed (belong keyspace mem family held ▸ unselected)

/-- An update that says that a column family belongs to another keyspace makes two keyspaces share the
rows. -/
theorem belong_of_run_updated :
    let family : ColumnFamily := { keyspace := "A", name := "F" }
    let location : Location := ⟨"F", [0x72], none, some [0x63]⟩
    let schema := afterAll { clusterName := "c" } [.connect,
      .change (.createKeyspace { name := "A" }), .change (.createKeyspace { name := "B" }),
      .select "A", .change (.createFamily family), .select "B", .change (.createFamily family)]
    let updated := schema.afterAll [.change (.updateFamily family)]
    let finds (store : Store) :=
      ((store.afterAll [.select "A"]).getColumn 0 location).toOption.map Option.isSome
    schema.AllBelong ∧ ¬updated.AllBelong ∧
      finds (schema.afterAll [.write (.insert 0 location [0x61] none)]) = some false ∧
      finds (updated.afterAll [.write (.insert 0 location [0x61] none)]) = some true := by
  unfold AllBelong
  decide +kernel

end WideColumn.Store
