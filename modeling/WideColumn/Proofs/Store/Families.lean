import WideColumn.Proofs.Folding
import WideColumn.Proofs.Store.Counters
import WideColumn.Proofs.Store.Versions

/-!
# A property of all column families

What a change of the schema that succeeds leaves is what was there, but for the definitions that it
puts in. So a property of definitions, each with the name of the keyspace that holds it, is kept just
by those changes that put in what has it (`Store.allFamilies_perform`). Whatever else happens to a
store leaves its definitions alone.
-/

namespace WideColumn.Store

/-- Whether all column families have a property, each with the name of the keyspace that holds it. -/
def AllFamilies (holds : String → ColumnFamily → Prop) (store : Store) : Prop :=
  ∀ keyspace ∈ store.keyspaces, ∀ family ∈ keyspace.families, holds keyspace.name family

/-- Whether the definitions that a change puts into the schema have a property. -/
def SchemaChange.Puts (holds : String → ColumnFamily → Prop) (store : Store) : SchemaChange → Prop
  | createKeyspace keyspace => ∀ family ∈ keyspace.families,
      holds keyspace.name { family with keyspace := keyspace.name }
  | createFamily family => ∀ name ∈ store.selected?, holds name { family with keyspace := name }
  | updateFamily family => ∀ name ∈ store.selected?, holds name family
  | _ => True

variable {holds : String → ColumnFamily → Prop} {store after : Store} {keyspace : Keyspace}
  {version : String}

theorem allFamilies_new (clusterName : String) (connection : Connection) :
    AllFamilies holds { clusterName, connection } := by
  intro keyspace mem family held
  rw [List.mem_singleton.1 mem] at held
  cases held

theorem AllFamilies.of_same (all : store.AllFamilies holds)
    (keyspaces : after.keyspaces = store.keyspaces) : after.AllFamilies holds := by
  unfold AllFamilies
  rw [keyspaces]
  exact all

/-- A keyspace that is put in the place of another one brings its column families, and all others
stay. -/
theorem allFamilies_withFamilies (all : store.AllFamilies holds)
    (present : keyspace.name ∈ store.keyspaces.map Keyspace.name) (families : List ColumnFamily) :
    (counted (store.withKeyspace { keyspace with families })).AllFamilies holds ↔
      ∀ family ∈ families, holds keyspace.name family := by
  obtain ⟨old, mem, same⟩ := List.mem_map.1 present
  constructor
  · intro allAfter
    have replaced : { keyspace with families } ∈
        (counted (store.withKeyspace { keyspace with families })).keyspaces :=
      List.mem_map.2 ⟨old, mem, if_pos (beq_iff_eq.2 same)⟩
    exact allAfter _ replaced
  · intro new kept held
    obtain ⟨before, mem, rfl⟩ := List.mem_map.1 held
    split
    · exact new
    · exact all before mem

/-- A change of the schema that succeeds keeps a property that does not depend on indexes just if it
puts in what has it. -/
theorem allFamilies_perform (all : store.AllFamilies holds)
    (unindexed : ∀ name family column, holds name family → holds name (withoutIndex family column))
    {change : SchemaChange} (run : change.perform store = (.ok version, after)) :
    after.AllFamilies holds ↔ change.Puts holds store := by
  cases change with
  | createKeyspace keyspace =>
    obtain ⟨-, rfl⟩ := createKeyspace_ok run
    constructor
    · intro allAfter family mem
      exact allAfter _ (List.mem_append_right _ (List.mem_singleton.2 rfl)) _
        (List.mem_map.2 ⟨family, mem, rfl⟩)
    · intro puts held mem family inside
      rcases List.mem_append.1 mem with old | new
      · exact all held old family inside
      · rw [List.mem_singleton.1 new] at inside ⊢
        obtain ⟨given, among, rfl⟩ := List.mem_map.1 inside
        exact puts given among
  | updateKeyspace keyspace =>
    obtain ⟨old, found, rfl⟩ := updateKeyspace_ok run
    obtain ⟨mem, same⟩ := of_keyspace?_eq_some found
    have present : keyspace.name ∈ store.keyspaces.map Keyspace.name :=
      List.mem_map.2 ⟨old, mem, same⟩
    refine iff_true_intro ((allFamilies_withFamilies all present _).2 fun family held => ?_)
    exact same ▸ all old mem family held
  | dropKeyspace name =>
    obtain rfl := dropKeyspace_ok run
    exact iff_true_intro fun keyspace mem => all keyspace (List.mem_filter.1 mem).1
  | createFamily family =>
    obtain ⟨keyspace, current, -, rfl⟩ := createFamily_ok run
    obtain ⟨chosen, mem⟩ := of_currentKeyspace current
    refine (allFamilies_withFamilies all (List.mem_map_of_mem mem) _).trans ?_
    rw [List.forall_mem_append, List.forall_mem_singleton, and_iff_right (all keyspace mem),
      SchemaChange.Puts, chosen]
    exact ⟨fun new _ same => Option.some.inj same ▸ new, fun puts => puts _ rfl⟩
  | updateFamily family =>
    obtain ⟨keyspace, old, current, found, -, rfl⟩ := updateFamily_ok run
    obtain ⟨chosen, mem⟩ := of_currentKeyspace current
    refine (allFamilies_withFamilies all (List.mem_map_of_mem mem) _).trans ?_
    rw [List.forall_mem_map, SchemaChange.Puts, chosen]
    constructor
    · intro replaced _ same
      cases same
      obtain ⟨current', works, named⟩ := family_eq_ok.1 found
      cases current.symm.trans works
      have put := replaced old (List.mem_of_find?_eq_some named)
      rwa [if_pos (beq_self_eq_true _)] at put
    · intro puts other held
      split
      · exact puts _ rfl
      · exact all keyspace mem other held
  | dropFamily name =>
    obtain ⟨keyspace, current, rfl⟩ := dropFamily_ok run
    obtain ⟨-, mem⟩ := of_currentKeyspace current
    refine iff_true_intro ((allFamilies_withFamilies all (List.mem_map_of_mem mem) _).2 fun family held => ?_)
    exact all keyspace mem family (List.mem_filter.1 held).1
  | dropIndex name column =>
    obtain ⟨keyspace, family, current, -, -, rfl⟩ := dropIndex_ok run
    obtain ⟨-, mem⟩ := of_currentKeyspace current
    refine iff_true_intro ((allFamilies_withFamilies all (List.mem_map_of_mem mem) _).2 ?_)
    exact forall_mem_modifyFirst (fun member => unindexed keyspace.name member column)
      (all keyspace mem)

/-! ### Runs -/

/-- The store after operations one after the other. -/
def afterAll (store : Store) (operations : List Operation) : Store :=
  operations.foldl (fun store operation => operation.after store) store

/-- Whether an operation that changes the schema, if it succeeds, puts in what has a property. -/
def Operation.Puts (holds : String → ColumnFamily → Prop) (store : Store) : Operation → Prop
  | .change call => (call.perform store).1.isOk = true → call.Puts holds store
  | _ => True

theorem Write.keyspaces_perform (call : Write) (store : Store) :
    (call.perform store).2.keyspaces = store.keyspaces := by
  refine call.isolated.same keyspaces fun done after run => ?_
  obtain ⟨_, _, -, rfl⟩ := Write.perform_ok run
  rfl

theorem keyspaces_selectKeyspace (name : String) (store : Store) :
    (selectKeyspace name store).2.keyspaces = store.keyspaces := by
  refine (selectKeyspace_isolated name).same keyspaces fun done after run => ?_
  obtain ⟨-, _, -, rfl⟩ := selectKeyspace_ok run
  rfl

section Runs

variable (unindexed : ∀ name family column, holds name family →
  holds name (withoutIndex family column))

include unindexed

theorem allFamilies_after (all : store.AllFamilies holds) (operation : Operation) :
    (operation.after store).AllFamilies holds ↔ operation.Puts holds store := by
  cases operation with
  | connect => exact iff_true_intro (all.of_same rfl)
  | close => exact iff_true_intro (all.of_same rfl)
  | select name => exact iff_true_intro (all.of_same (keyspaces_selectKeyspace name store))
  | write call => exact iff_true_intro (all.of_same (call.keyspaces_perform store))
  | change call =>
    rw [Operation.after, Operation.Puts]
    rcases call.counts store with ⟨failure, run⟩ | ⟨version, after, run, -⟩
    · rw [run]
      refine iff_of_true all fun works => ?_
      cases works
    · rw [run]
      exact (allFamilies_perform all unindexed run).trans ⟨fun puts _ => puts, fun puts => puts rfl⟩

/-- Along a run a property that does not depend on indexes holds of all definitions just if each change
of the schema that succeeds puts in what has it. -/
theorem allFamilies_afterAll (all : store.AllFamilies holds) (operations : List Operation) :
    (∀ early, early <+: operations → (store.afterAll early).AllFamilies holds) ↔
      ∀ early operation, early ++ [operation] <+: operations →
        operation.Puts holds (store.afterAll early) :=
  foldl_keeps_iff _ (AllFamilies holds) _ all fun _ operation before => allFamilies_after unindexed before operation

end Runs

end WideColumn.Store
