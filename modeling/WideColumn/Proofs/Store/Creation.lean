import WideColumn.Proofs.Sorting
import WideColumn.Proofs.Store.Belonging
import WideColumn.Proofs.Store.Guards
import WideColumn.Proofs.Store.Soundness

/-!
# The order in which keyspaces are created

The keyspaces of a store are in the order of their creation, and no answer shows that order: a name
finds one keyspace at most, a description sorts them, and the text behind a schema version does so
too. Two stores that differ in it only (`Store.SameButOrder`) give the same answers, and every
operation has the same outcome on both and leaves them as alike as they were. So keyspaces can be
created in any order before whatever comes next (`Store.creation_order_invisible`).
-/

namespace WideColumn.Store

variable {store other : Store} {name : String} {keyspace : Keyspace}

/-! ### Stores with keyspaces in another order -/

/-- Whether two stores differ in the order of their keyspaces only, of which the names are distinct. -/
structure SameButOrder (store other : Store) : Prop where
  clusterName : other.clusterName = store.clusterName
  connection : other.connection = store.connection
  rows : other.rows = store.rows
  changes : other.changes = store.changes
  keyspaces : other.keyspaces.Perm store.keyspaces
  distinct : Keyspace.DistinctNames store.keyspaces

/-- Whether two stores answer everything that they can be asked in the same way. -/
structure SameAnswers (store other : Store) : Prop where
  clusterName : other.describeClusterName = store.describeClusterName
  version : other.describeVersion = store.describeVersion
  schema : other.describeSchema = store.describeSchema
  versions : other.describeSchemaVersions = store.describeSchemaVersions
  keyspace : other.describeKeyspace = store.describeKeyspace
  column : other.getColumn = store.getColumn
  row : other.getRow = store.getRow
  slice : other.getSlice = store.getSlice
  indexed : other.getIndexedSlices = store.getIndexedSlices

namespace SameButOrder

theorem isConnected (same : SameButOrder store other) : other.isConnected = store.isConnected := by
  rw [Store.isConnected, same.connection]
  rfl

theorem requireConnected (same : SameButOrder store other) :
    other.requireConnected = store.requireConnected := by
  rw [Store.requireConnected, same.isConnected]
  rfl

theorem find? (same : SameButOrder store other) (name : String) :
    Keyspace.find? other.keyspaces name = Keyspace.find? store.keyspaces name :=
  same.distinct.find?_of_perm same.keyspaces

theorem keyspace? (same : SameButOrder store other) (name : String) :
    other.keyspace? name = store.keyspace? name :=
  find?_of_perm same.keyspaces fun _ mem _ otherMem meant otherMeant =>
    same.distinct.eq mem otherMem ((beq_iff_eq.1 meant).trans (beq_iff_eq.1 otherMeant).symm)

theorem reach (same : SameButOrder store other) : SameReach store other := by
  have selected : other.selected? = store.selected? := by
    rw [Store.selected?, same.connection]
    rfl
  refine ⟨?_, fun _ => by rw [Store.rowsOf, same.rows]; rfl⟩
  unfold Store.currentKeyspace
  rw [same.requireConnected, selected]
  simp only [same.keyspace?]

/-! ### Answers -/

theorem version_eq (same : SameButOrder store other) :
    Schema.version other.keyspaces = Schema.version store.keyspaces :=
  congrArg Schema.tokenOfText (Schema.text_eq_iff.2 same.keyspaces)

/-- Of keyspaces with distinct names there is one list in the order of the names. -/
theorem sorted (same : SameButOrder store other) :
    Order.sort (fun first second => decide (first.name ≤ second.name)) other.keyspaces =
      Order.sort (fun first second => decide (first.name ≤ second.name)) store.keyspaces := by
  have ranks : Order.Ranks fun first second : Keyspace => decide (first.name ≤ second.name) := by
    refine ⟨fun first second => ?_, fun first second third below above => ?_⟩
    · simpa using String.le_total first.name second.name
    · simp only [decide_eq_true_eq] at below above ⊢
      exact String.le_trans below above
  refine List.Perm.eq_of_pairwise (fun first second mem otherMem below above => ?_)
    (Order.sorted_sort ranks _) (Order.sorted_sort ranks _)
    ((Order.sort_perm _ _).trans (same.keyspaces.trans (Order.sort_perm _ _).symm))
  have named : first.name = second.name :=
    String.le_antisymm (of_decide_eq_true below) (of_decide_eq_true above)
  exact same.distinct.eq (same.keyspaces.mem_iff.1 ((Order.sort_perm _ _).mem_iff.1 mem))
    ((Order.sort_perm _ _).mem_iff.1 otherMem) named

theorem answers (same : SameButOrder store other) : SameAnswers store other where
  clusterName := by rw [describeClusterName, same.requireConnected, same.clusterName]; rfl
  version := by rw [describeVersion, same.requireConnected]; rfl
  schema := by rw [describeSchema, same.requireConnected, same.sorted]; rfl
  versions := by rw [describeSchemaVersions, same.requireConnected, same.version_eq]; rfl
  keyspace := by
    funext name
    rw [describeKeyspace, same.requireConnected, same.find?]
    rfl
  column := funext fun _ => funext fun _ => same.reach.getColumn _ _
  row := by
    funext now name key superColumn count
    exact same.reach.getRow now name key superColumn count
  slice := by
    funext now name start stop count
    exact same.reach.getSlice now name start stop count
  indexed := by
    funext now name expressions count
    exact same.reach.getIndexedSlices now name expressions count

/-! ### Operations -/

/-- Stores that differ in the order of their keyspaces report one version. -/
theorem reported_eq (same : SameButOrder store other) : store.reported = other.reported := by
  unfold reported Schema.changedVersion Schema.changedText
  rw [same.changes, Schema.text_eq_iff.2 same.keyspaces]

theorem counted (same : SameButOrder store other) :
    SameButOrder (Store.counted store) (Store.counted other) :=
  { same with changes := congrArg (· + 1) same.changes }

theorem kept : Kept SameButOrder Eq where
  rows same family rows :=
    { same with rows := congrArg (Table.put · (family.keyspace, family.name) rows) same.rows }
  without same place := { same with rows := congrArg (Table.erase · place) same.rows }
  keyspace same keyspace :=
    { same.counted with
      keyspaces := same.keyspaces.map _
      distinct := (sameOutline_withKeyspace keyspace).distinctNames same.distinct }
  versions same := same.reported_eq

theorem change {given again : Store} (same : SameButOrder given again) :
    Alike SameButOrder Eq ((do set given; countChange : Call String) store)
      ((do set again; countChange : Call String) other) :=
  Call.alike_change same.counted same.counted.reported_eq

theorem selectKeyspace (same : SameButOrder store other) (name : String) :
    Alike SameButOrder Eq (Store.selectKeyspace name store) (Store.selectKeyspace name other) := by
  refine Call.alike_get_bind ?_
  refine Call.alike_lift_bind same.requireConnected same fun _ _ => ?_
  rw [same.find?]
  cases Keyspace.find? store.keyspaces name with
  | none => exact .error same
  | some keyspace => exact .ok rfl { same with connection := rfl }

theorem createKeyspace (same : SameButOrder store other) (keyspace : Keyspace) :
    Alike SameButOrder Eq (Store.createKeyspace keyspace store)
      (Store.createKeyspace keyspace other) := by
  refine Call.alike_get_bind ?_
  refine Call.alike_lift_bind same.requireConnected same fun _ _ => ?_
  rw [same.find?]
  cases free : Keyspace.find? store.keyspaces keyspace.name with
  | some taken => exact .error same
  | none =>
    refine change { same with
      keyspaces := same.keyspaces.append_right _
      distinct := same.distinct.concat free }

theorem updateKeyspace (same : SameButOrder store other) (keyspace : Keyspace) :
    Alike SameButOrder Eq (Store.updateKeyspace keyspace store)
      (Store.updateKeyspace keyspace other) := by
  refine Call.alike_get_bind ?_
  refine Call.alike_lift_bind same.requireConnected same fun _ _ => ?_
  rw [same.keyspace?]
  cases store.keyspace? keyspace.name with
  | none => exact .error same
  | some old => exact kept.change same _

theorem dropKeyspace (same : SameButOrder store other) (name : String) :
    Alike SameButOrder Eq (Store.dropKeyspace name store) (Store.dropKeyspace name other) := by
  refine Call.alike_get_bind ?_
  refine Call.alike_lift_bind same.requireConnected same fun _ _ => ?_
  rw [same.keyspace?]
  cases store.keyspace? name with
  | none => exact .error same
  | some old =>
    refine change { same with
      connection := ?_
      rows := ?_
      keyspaces := same.keyspaces.filter _
      distinct := same.distinct.filter _ }
    · simp only [same.connection]
    · simp only [same.rows]

theorem perform (same : SameButOrder store other) (call : SchemaChange) :
    Alike SameButOrder Eq (call.perform store) (call.perform other) := by
  cases call with
  | createKeyspace keyspace => exact same.createKeyspace keyspace
  | updateKeyspace keyspace => exact same.updateKeyspace keyspace
  | dropKeyspace name => exact same.dropKeyspace name
  | createFamily family => exact kept.createFamily same.reach.current same family
  | updateFamily family => exact kept.updateFamily same.reach.current same family
  | dropFamily name => exact kept.dropFamily same.reach.current same name
  | dropIndex family column => exact kept.dropIndex same.reach.current same family column

theorem write (same : SameButOrder store other) (call : Write) :
    Alike SameButOrder Eq (call.perform store) (call.perform other) := by
  cases call with
  | insert now location data ttl => exact kept.insertColumn same.reach same now location data ttl
  | add location delta => exact kept.addToCounter same.reach same location delta
  | remove location => exact kept.removeColumn same.reach same location
  | truncate family => exact kept.truncate same.reach same family

end SameButOrder

/-! ### Runs -/

/-- What an operation reports if it succeeds: the schema version after a change of the schema, and
nothing else. -/
def Operation.outcome : Operation → Store → Except Failure (Option String)
  | .connect, _ => .ok none
  | .close, _ => .ok none
  | .select keyspace, store => (selectKeyspace keyspace store).1.map fun _ => none
  | .write call, store => (call.perform store).1.map fun _ => none
  | .change call, store => (call.perform store).1.map some

/-- The outcomes of operations one after the other. -/
def outcomes : List Operation → Store → List (Except Failure (Option String))
  | [], _ => []
  | operation :: rest, store => operation.outcome store :: outcomes rest (operation.after store)

namespace SameButOrder

theorem ends {α : Type} {first second : Except Failure α × Store}
    (alike : Alike SameButOrder Eq first second) :
    second.1 = first.1 ∧ SameButOrder first.2 second.2 := by
  cases alike with
  | ok values states => exact ⟨congrArg Except.ok values.symm, states⟩
  | error states => exact ⟨rfl, states⟩

/-- An operation has one outcome, and leaves the stores different in the order of keyspaces only. -/
theorem step (same : SameButOrder store other) (operation : Operation) :
    operation.outcome other = operation.outcome store ∧
      SameButOrder (operation.after store) (operation.after other) := by
  cases operation with
  | connect =>
    refine ⟨rfl, { same with connection := ?_ }⟩
    show Connection.opened other.selected? = .opened store.selected?
    rw [Store.selected?, same.connection]
    rfl
  | close => exact ⟨rfl, { same with connection := rfl }⟩
  | select name =>
    obtain ⟨result, states⟩ := ends (same.selectKeyspace name)
    exact ⟨congrArg (Except.map _) result, states⟩
  | write call =>
    obtain ⟨result, states⟩ := ends (same.write call)
    exact ⟨congrArg (Except.map _) result, states⟩
  | change call =>
    obtain ⟨result, states⟩ := ends (same.perform call)
    exact ⟨congrArg (Except.map _) result, states⟩

/-- So do operations one after the other. -/
theorem run (same : SameButOrder store other) (operations : List Operation) :
    outcomes operations other = outcomes operations store ∧
      SameButOrder (store.afterAll operations) (other.afterAll operations) := by
  induction operations generalizing store other with
  | nil => exact ⟨rfl, same⟩
  | cons operation rest ih =>
    obtain ⟨outcome, next⟩ := same.step operation
    obtain ⟨later, last⟩ := ih next
    refine ⟨?_, last⟩
    rw [outcomes, outcomes, outcome, later]

end SameButOrder

/-! ### Creations -/

/-- The creation of a keyspace. -/
def creation (keyspace : Keyspace) : Operation :=
  .change (.createKeyspace keyspace)

/-- A keyspace as it is once it is created, with its column families belonging to it. -/
def owning (keyspace : Keyspace) : Keyspace :=
  { keyspace with
    families := keyspace.families.map fun family => { family with keyspace := keyspace.name } }

/-- Belonging changes no names. -/
theorem distinctNames_owning {before keyspaces after : List Keyspace}
    (distinct : Keyspace.DistinctNames (before ++ keyspaces ++ after)) :
    Keyspace.DistinctNames (before ++ keyspaces.map owning ++ after) := by
  rw [Keyspace.DistinctNames] at distinct ⊢
  rw [List.map_append, List.map_append, List.map_map] at *
  exact distinct

/-- Keyspaces with free names, distinct ones, are all created, and come last in their order. -/
theorem create_all (connected : store.isConnected = true) (keyspaces : List Keyspace)
    (distinct : Keyspace.DistinctNames (store.keyspaces ++ keyspaces)) :
    (∀ outcome ∈ outcomes (keyspaces.map creation) store, ∃ version, outcome = .ok (some version)) ∧
      store.afterAll (keyspaces.map creation) = { store with
        keyspaces := store.keyspaces ++ keyspaces.map owning
        changes := store.changes + keyspaces.length } := by
  induction keyspaces generalizing store with
  | nil => simp [outcomes, afterAll]
  | cons keyspace rest ih =>
    have apart : ∀ old ∈ store.keyspaces, Text.lowered old.name ≠ Text.lowered keyspace.name := by
      intro old mem
      rw [Keyspace.DistinctNames, List.map_append, List.nodup_append] at distinct
      exact distinct.2.2 _ (List.mem_map_of_mem mem) _ (by simp)
    have free : Keyspace.find? store.keyspaces keyspace.name = none :=
      List.find?_eq_none.2 fun old mem => by simpa [Text.sameIgnoringCase] using apart old mem
    obtain ⟨version, succeeded⟩ := (failsOnly_createKeyspace connected free).succeeds
    obtain ⟨-, left⟩ := createKeyspace_ok (Prod.ext succeeded rfl)
    have first : (creation keyspace).outcome store = .ok (some version) :=
      congrArg (Except.map some) succeeded
    have after : (creation keyspace).after store =
        Store.counted { store with keyspaces := store.keyspaces ++ [owning keyspace] } := left
    rw [← List.singleton_append, ← List.append_assoc] at distinct
    have names : Keyspace.DistinctNames (store.keyspaces ++ [owning keyspace] ++ rest) :=
      distinctNames_owning distinct
    obtain ⟨later, last⟩ := @ih ((creation keyspace).after store) (after ▸ connected) (after ▸ names)
    refine ⟨List.forall_mem_cons.2 ⟨⟨version, first⟩, later⟩, ?_⟩
    show ((creation keyspace).after store).afterAll (rest.map creation) = _
    rw [last, after]
    have count : store.changes + 1 + rest.length = store.changes + (rest.length + 1) := by omega
    simp [Store.counted, count]

/-- Created in another order, keyspaces leave a store that differs in their order only. -/
theorem create_all_perm (connected : store.isConnected = true) {keyspaces others : List Keyspace}
    (perm : others.Perm keyspaces)
    (distinct : Keyspace.DistinctNames (store.keyspaces ++ keyspaces)) :
    SameButOrder (store.afterAll (keyspaces.map creation))
      (store.afterAll (others.map creation)) := by
  obtain ⟨-, left⟩ := create_all connected keyspaces distinct
  obtain ⟨-, leftOther⟩ := create_all connected others (distinct.of_perm (perm.append_left _))
  have owned := @distinctNames_owning store.keyspaces keyspaces [] (by rwa [List.append_nil])
  rw [List.append_nil] at owned
  rw [left, leftOther]
  exact ⟨rfl, rfl, rfl, congrArg (store.changes + ·) perm.length_eq,
    (perm.map owning).append_left store.keyspaces, owned⟩

/-- Keyspaces of which the names are distinct, and none is that of the keyspace that every store has,
can be created in any order on a store that is newly connected to: no later operation, and no answer
after later operations, tells in which order they were created. -/
theorem creation_order_invisible (clusterName : String) {keyspaces others : List Keyspace}
    (perm : others.Perm keyspaces)
    (distinct : Keyspace.DistinctNames (systemKeyspace :: keyspaces)) (operations : List Operation) :
    let fresh : Store := connect { clusterName }
    let store := fresh.afterAll (keyspaces.map creation)
    let other := fresh.afterAll (others.map creation)
    (∀ outcome ∈ outcomes (keyspaces.map creation) fresh ++ outcomes (others.map creation) fresh,
      ∃ version, outcome = .ok (some version)) ∧
    outcomes operations other = outcomes operations store ∧
    SameAnswers (store.afterAll operations) (other.afterAll operations) := by
  intro fresh store other
  have connected : fresh.isConnected = true := rfl
  have again : Keyspace.DistinctNames (systemKeyspace :: others) := distinct.of_perm (perm.cons _)
  obtain ⟨created, -⟩ := create_all connected keyspaces distinct
  obtain ⟨recreated, -⟩ := create_all connected others again
  obtain ⟨reported, last⟩ := (create_all_perm connected perm distinct).run operations
  exact ⟨List.forall_mem_append.2 ⟨created, recreated⟩, reported, last.answers⟩

/-- Two keyspaces are created in either order before one of them is selected and the other dropped. -/
theorem creation_order_invisible_two :
    let one : Keyspace := { name := "one" }
    let two : Keyspace := { name := "two" }
    let operations : List Operation := [.select "TWO", .change (.dropKeyspace "one")]
    let store := (connect { clusterName := "c" }).afterAll ([one, two].map creation)
    let other := (connect { clusterName := "c" }).afterAll ([two, one].map creation)
    [two, one].Perm [one, two] ∧ Keyspace.DistinctNames [systemKeyspace, one, two] ∧
      outcomes operations other = outcomes operations store ∧
      SameAnswers (store.afterAll operations) (other.afterAll operations) := by
  intro one two operations store other
  have perm : [two, one].Perm [one, two] := .swap one two []
  have distinct : Keyspace.DistinctNames [systemKeyspace, one, two] := by
    unfold Keyspace.DistinctNames
    decide +kernel
  obtain ⟨-, reported, answers⟩ := creation_order_invisible "c" perm distinct operations
  exact ⟨perm, distinct, reported, answers⟩

end WideColumn.Store
