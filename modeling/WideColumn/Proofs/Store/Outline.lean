import WideColumn.Proofs.Store.Changes

/-!
# The outline of a store

The outline of a store is its connection and the names of its keyspaces. Only three calls change it:
selecting, creating and dropping a keyspace. No call makes two keyspaces share a name in different
letter case, so every keyspace is found by its name, wherever it is looked for.
-/

namespace WideColumn

/-- Names stay distinct in more than letter case when an item comes behind whose name is free. -/
theorem nodup_lowered_concat {α : Type} {name : α → String} {items : List α} {item : α}
    (distinct : (items.map fun other => Text.lowered (name other)).Nodup)
    (free : items.find? (fun other => Text.sameIgnoringCase (name other) (name item)) = none) :
    ((items ++ [item]).map fun other => Text.lowered (name other)).Nodup := by
  rw [List.map_append, List.nodup_append]
  refine ⟨distinct, by simp, ?_⟩
  rintro _ mem _ last rfl
  obtain ⟨other, inside, same⟩ := List.mem_map.1 mem
  rw [List.map_singleton, List.mem_singleton] at last
  have apart := List.find?_eq_none.1 free other inside
  exact apart (beq_iff_eq.2 (same.trans last))

namespace Keyspace

/-- Whether the names of keyspaces differ in more than letter case. -/
def DistinctNames (keyspaces : List Keyspace) : Prop :=
  (keyspaces.map fun keyspace => Text.lowered keyspace.name).Nodup

variable {keyspaces : List Keyspace} {keyspace : Keyspace} {name : String}

theorem mem_of_find? (found : find? keyspaces name = some keyspace) : keyspace ∈ keyspaces :=
  List.mem_of_find?_eq_some found

/-- Of keyspaces with distinct names, the one with a name is found. -/
theorem DistinctNames.find? (distinct : DistinctNames keyspaces) (mem : keyspace ∈ keyspaces)
    (same : Text.lowered keyspace.name = Text.lowered name) :
    find? keyspaces name = some keyspace := by
  induction keyspaces with
  | nil => cases mem
  | cons first rest ih =>
    obtain ⟨new, others⟩ := List.nodup_cons.1 distinct
    rw [Keyspace.find?, List.find?_cons]
    rcases List.mem_cons.1 mem with rfl | later
    · rw [Text.sameIgnoringCase, same, beq_self_eq_true]
    · -- An earlier keyspace of this name would be a second one.
      have apart : Text.sameIgnoringCase first.name name = false := by
        refine beq_false_of_ne fun equal => new ?_
        show Text.lowered first.name ∈ _
        rw [equal, ← same]
        exact List.mem_map_of_mem later
      rw [apart]
      exact ih others later

/-- A name that finds none of the keyspaces is new. -/
theorem DistinctNames.concat (distinct : DistinctNames keyspaces)
    (free : Keyspace.find? keyspaces keyspace.name = none) :
    DistinctNames (keyspaces ++ [keyspace]) :=
  nodup_lowered_concat distinct free

theorem DistinctNames.filter (distinct : DistinctNames keyspaces) (keep : Keyspace → Bool) :
    DistinctNames (keyspaces.filter keep) :=
  distinct.sublist (List.filter_sublist.map _)

theorem DistinctNames.of_perm {others : List Keyspace} (distinct : DistinctNames keyspaces)
    (perm : others.Perm keyspaces) : DistinctNames others :=
  (perm.map _).nodup_iff.2 distinct

end Keyspace

namespace Store

variable {store after : Store} {name version : String}

/-! ### Calls that keep the outline -/

/-- Whether two stores have the same connection and keyspaces with the same names. -/
structure SameOutline (store after : Store) : Prop where
  connection : after.connection = store.connection
  names : after.keyspaces.map Keyspace.name = store.keyspaces.map Keyspace.name

theorem SameOutline.refl (store : Store) : SameOutline store store :=
  ⟨rfl, rfl⟩

theorem SameOutline.selected? (same : SameOutline store after) :
    after.selected? = store.selected? := by
  rw [Store.selected?, same.connection]
  rfl

theorem SameOutline.isConnected (same : SameOutline store after) :
    after.isConnected = store.isConnected := by
  rw [Store.isConnected, same.connection]
  rfl

theorem SameOutline.distinctNames (same : SameOutline store after)
    (distinct : Keyspace.DistinctNames store.keyspaces) :
    Keyspace.DistinctNames after.keyspaces := by
  have lowered (keyspaces : List Keyspace) :
      keyspaces.map (fun keyspace => Text.lowered keyspace.name) =
        (keyspaces.map Keyspace.name).map Text.lowered := by
    rw [List.map_map]
    rfl
  rw [Keyspace.DistinctNames, lowered] at distinct ⊢
  rwa [same.names]

/-- All keyspaces are described. -/
theorem describeSchema_perm {keyspaces : List Keyspace}
    (described : store.describeSchema = .ok keyspaces) : keyspaces.Perm store.keyspaces := by
  obtain ⟨-, -, run⟩ := WideColumn.bind_eq_ok.1 described
  cases run
  exact Order.sort_perm _ _

theorem sameOutline_withRows (family : ColumnFamily) (rows : Table Bytes Row) :
    SameOutline store (store.withRows family rows) :=
  ⟨rfl, rfl⟩

/-- A definition is put in the place of one with its name. -/
theorem name_replaced (old keyspace : Keyspace) :
    (if old.name == keyspace.name then keyspace else old).name = old.name := by
  split
  · rename_i same
    exact (beq_iff_eq.1 same).symm
  · rfl

theorem names_withKeyspace (store : Store) (keyspace : Keyspace) :
    (store.withKeyspace keyspace).keyspaces.map Keyspace.name =
      store.keyspaces.map Keyspace.name := by
  rw [withKeyspace, List.map_map]
  exact List.map_congr_left fun old _ => name_replaced old keyspace

theorem sameOutline_withKeyspace (keyspace : Keyspace) :
    SameOutline store (counted (store.withKeyspace keyspace)) :=
  ⟨rfl, names_withKeyspace store keyspace⟩

theorem updateKeyspace_sameOutline {keyspace : Keyspace}
    (run : updateKeyspace keyspace store = (.ok version, after)) : SameOutline store after := by
  obtain ⟨old, -, rfl⟩ := updateKeyspace_ok run
  exact sameOutline_withKeyspace _

theorem createFamily_sameOutline {family : ColumnFamily}
    (run : createFamily family store = (.ok version, after)) : SameOutline store after := by
  obtain ⟨keyspace, -, -, rfl⟩ := createFamily_ok run
  exact sameOutline_withKeyspace _

theorem updateFamily_sameOutline {family : ColumnFamily}
    (run : updateFamily family store = (.ok version, after)) : SameOutline store after := by
  obtain ⟨keyspace, old, -, -, -, rfl⟩ := updateFamily_ok run
  exact sameOutline_withKeyspace _

theorem dropFamily_sameOutline (run : dropFamily name store = (.ok version, after)) :
    SameOutline store after := by
  obtain ⟨keyspace, -, rfl⟩ := dropFamily_ok run
  exact ⟨rfl, names_withKeyspace store _⟩

theorem dropIndex_sameOutline {column : Bytes}
    (run : dropIndex name column store = (.ok version, after)) : SameOutline store after := by
  obtain ⟨keyspace, family, -, -, -, rfl⟩ := dropIndex_ok run
  exact sameOutline_withKeyspace _

/-! ### Dropping a keyspace -/

/-- A dropped keyspace is no longer selected, and another one stays so. -/
theorem dropKeyspace_selected? (run : dropKeyspace name store = (.ok version, after)) :
    after.selected? = if store.selected? = some name then none else store.selected? := by
  obtain rfl := dropKeyspace_ok run
  unfold Store.selected?
  cases opened : store.connection with
  | closed => simp [counted]
  | opened keyspace =>
    by_cases same : keyspace = some name
    · simp [counted, same]
    · simp [counted, same]

theorem dropKeyspace_isConnected (run : dropKeyspace name store = (.ok version, after)) :
    after.isConnected = store.isConnected := by
  obtain rfl := dropKeyspace_ok run
  unfold Store.isConnected
  cases opened : store.connection with
  | closed => simp [counted]
  | opened keyspace =>
    simp only [counted]
    split <;> rfl

/-- All other keyspaces stay. -/
theorem mem_keyspaces_dropKeyspace {keyspace : Keyspace}
    (run : dropKeyspace name store = (.ok version, after)) :
    keyspace ∈ after.keyspaces ↔ keyspace ∈ store.keyspaces ∧ keyspace.name ≠ name := by
  obtain rfl := dropKeyspace_ok run
  show keyspace ∈ store.keyspaces.filter _ ↔ _
  rw [List.mem_filter, bne_iff_ne]

end Store

end WideColumn
