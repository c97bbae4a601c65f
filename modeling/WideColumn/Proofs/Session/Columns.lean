import WideColumn.Proofs.Session.Frames
import WideColumn.Proofs.Session.Rearranged
import WideColumn.Proofs.Store.Families

/-!
# Columns that are defined twice

The definitions of columns in a column family have distinct names as long as no statement that
succeeds gives two of one name (`State.distinctColumns_of_run`), and nothing refuses a statement that
does: names are compared with nothing, neither as they are written nor as they are stored. What
carries the proof is that a statement that changes the schema makes one change (`State.AsksFor`),
and that only statements that create or update a column family put definitions of columns into it.
-/

namespace WideColumn

open Store (SchemaChange)

/-! ### Attributes -/

namespace ColumnFamily

/-- Whether the columns that are defined have distinct names, as they are stored. -/
def DistinctColumns (family : ColumnFamily) : Prop :=
  (family.columnMetadata.map ColumnDefinition.name).Nodup

instance (family : ColumnFamily) : Decidable family.DistinctColumns :=
  inferInstanceAs (Decidable (List.Nodup _))

/-- Whether attributes define two columns of one name, in that their texts stand for the same bytes. -/
def RepeatsColumn (family : ColumnFamily) (attributes : Attributes) (supply : Supply) : Prop :=
  ∃ plain metadata columns left, family.withPlainAttributes attributes = .ok plain ∧
    attributes.get? "column_metadata" = some metadata ∧
    plain.columnsOf metadata supply = (.ok columns, left) ∧
    ¬(columns.map ColumnDefinition.name).Nodup

variable {family updated : ColumnFamily} {attributes : Attributes} {supply left : Supply}

/-- Attributes that are accepted leave the columns distinct just if they repeat none. -/
theorem distinctColumns_iff (distinct : family.DistinctColumns)
    (run : family.withAttributes attributes supply = (.ok updated, left)) :
    updated.DistinctColumns ↔ ¬family.RepeatsColumn attributes supply := by
  obtain ⟨plain, applied, -, run⟩ := withAttributes_eq_ok.1 run
  cases given : attributes.get? "column_metadata" with
  | none =>
    rw [given] at run
    obtain ⟨rfl, -⟩ := run
    refine iff_of_true ?_ ?_
    · rw [DistinctColumns, (keepsRest_of_withPlainAttributes applied).columns]
      exact distinct
    · rintro ⟨_, _, _, _, -, metadata, -⟩
      rw [given] at metadata
      cases metadata
  | some metadata =>
    rw [given] at run
    obtain ⟨columns, read, rfl⟩ := run
    constructor
    · rintro unequal ⟨_, _, _, _, again, same, reread, repeated⟩
      cases applied.symm.trans again
      cases given.symm.trans same
      cases read.symm.trans reread
      exact repeated unequal
    · intro single
      by_contra repeated
      exact single ⟨plain, metadata, columns, left, applied, given, read, repeated⟩

end ColumnFamily

/-! ### Statements that change the schema -/

/-- The change of the schema that puts in a column family. -/
def Defining.familyChange : Defining → ColumnFamily → SchemaChange
  | create => .createFamily
  | update => .updateFamily

namespace State

/-- The column family to which the attributes of a statement are applied. -/
def familyBefore (state : State) : Defining → String → Except Failure ColumnFamily
  | .create, name => do return { keyspace := (← state.keyspace).name, name }
  | .update, name => do (← state.keyspace).family name

/-- Whether a command asks for a change of the schema. -/
inductive AsksFor (state : State) (supply left : Supply) : Command → SchemaChange → Prop
  | createKeyspace {name : String} {attributes : Attributes} {keyspace : Keyspace}
      (applied : Keyspace.withAttributes { name } attributes = .ok keyspace) :
      AsksFor state supply left (.createKeyspace name attributes) (.createKeyspace keyspace)
  | updateKeyspace {name : String} {attributes : Attributes} {old keyspace : Keyspace}
      (applied : old.withAttributes attributes = .ok keyspace) :
      AsksFor state supply left (.updateKeyspace name attributes) (.updateKeyspace keyspace)
  | dropKeyspace (name exact : String) :
      AsksFor state supply left (.dropKeyspace name) (.dropKeyspace exact)
  | family (defining : Defining) {name : String} {attributes : Attributes}
      {before family : ColumnFamily} (known : state.familyBefore defining name = .ok before)
      (applied : before.withAttributes attributes supply = (.ok family, left)) :
      AsksFor state supply left (defining.family name attributes) (defining.familyChange family)
  | dropFamily (name exact : String) :
      AsksFor state supply left (.dropFamily name) (.dropFamily exact)
  | dropIndex (name exact : String) (literal : Literal) (column : Bytes) :
      AsksFor state supply left (.dropIndex name literal) (.dropIndex exact column)

/-- Whether a command defines two columns of one name in a column family. -/
def Repeats (state : State) (supply : Supply) : Command → Prop
  | .createFamily name attributes => ∃ family, state.familyBefore .create name = .ok family ∧
      family.RepeatsColumn attributes supply
  | .updateFamily name attributes => ∃ family, state.familyBefore .update name = .ok family ∧
      family.RepeatsColumn attributes supply
  | _ => False

/-- Whether a statement that succeeds defines two columns of one name. -/
def RepeatsColumn (state : State) (request : Request) : Prop :=
  (state.reply request).isSuccess = true ∧
    ∃ command, Command.parse request.text = .ok command ∧ state.Repeats request.supply command

variable {state after : State} {moment : Moment} {supply left : Supply} {outcome : Outcome}
  {command : Command}

/-- A command that changes the schema makes the change that it asks for. -/
theorem change_of_execute (changes : command.changesSchema = true)
    (run : Action.execute moment command state supply = ((.ok outcome, after), left)) :
    ∃ change version, AsksFor state supply left command change ∧
      change.perform state.store = (.ok version, after.store) := by
  cases command with
  | createKeyspace name attributes =>
    obtain ⟨_, version, _, applied, called, rfl⟩ :=
      Action.createKeyspace_ok (requireConnected_bind_ok run)
    exact ⟨_, version, .createKeyspace applied, called⟩
  | updateKeyspace name attributes =>
    obtain ⟨_, _, _, version, _, -, -, applied, called, rfl⟩ :=
      Action.updateKeyspace_ok (requireConnected_bind_ok run)
    exact ⟨_, version, .updateKeyspace applied, called⟩
  | dropKeyspace name =>
    obtain ⟨_, _, version, _, -, -, called, rfl⟩ :=
      Action.dropKeyspace_ok (requireConnected_bind_ok run)
    exact ⟨_, version, .dropKeyspace name _, called⟩
  | createFamily name attributes =>
    obtain ⟨_, _, version, _, inUse, -, applied, called, rfl⟩ :=
      Action.createFamily_ok (requireKeyspace_bind_ok run)
    exact ⟨_, version, .family .create (bind_eq_ok.2 ⟨_, inUse, rfl⟩) applied, called⟩
  | updateFamily name attributes =>
    obtain ⟨_, _, _, version, _, inUse, found, applied, called, rfl⟩ :=
      Action.updateFamily_ok (requireKeyspace_bind_ok run)
    exact ⟨_, version, .family .update (bind_eq_ok.2 ⟨_, inUse, found⟩) applied, called⟩
  | dropFamily name =>
    obtain ⟨_, _, version, _, -, -, called, rfl⟩ :=
      Action.dropFamily_ok (requireKeyspace_bind_ok run)
    exact ⟨_, version, .dropFamily name _, called⟩
  | dropIndex name column =>
    obtain ⟨_, _, version, _, -, -, called, rfl⟩ :=
      Action.dropIndex_ok (requireKeyspace_bind_ok run)
    exact ⟨_, version, .dropIndex name _ column _, called⟩
  | _ => cases changes

/-- A statement that fails leaves all definitions. -/
theorem keyspaces_of_failure {request : Request} (failed : (state.reply request).isSuccess = false) :
    (state.after request).store.keyspaces = state.store.keyspaces := by
  cases parsed : Command.parse request.text with
  | error cause => rw [State.after, answer_of_refused parsed]
  | ok command =>
    by_cases connecting : ∃ host port, command = .connect host port
    · obtain ⟨host, port, rfl⟩ := connecting
      have connected : state.after request = (state.connect request.moment host port).2 := by
        rw [State.after, answer_of_parsed parsed]
        exact connect_state host port
      rw [connected, State.connect]
      split <;> rfl
    · rw [after_of_failure parsed (fun host port same => connecting ⟨host, port, same⟩) failed]

/-! ### Columns stay distinct -/

section Distinct

variable (reachable : Reachable state)
  (distinct : state.store.AllFamilies fun _ family => family.DistinctColumns)

include reachable distinct

/-- The column family to which attributes are applied has distinct columns. -/
theorem distinctColumns_of_familyBefore {defining : Defining} {name : String} {family : ColumnFamily}
    (known : state.familyBefore defining name = .ok family) : family.DistinctColumns := by
  cases defining with
  | create =>
    obtain ⟨keyspace, -, same⟩ := bind_eq_ok.1 known
    cases same
    exact List.nodup_nil
  | update =>
    obtain ⟨keyspace, inUse, found⟩ := bind_eq_ok.1 known
    have current := currentKeyspace_of_keyspace reachable.coherent inUse
    exact distinct keyspace (Store.of_currentKeyspace current).2 family
      (Keyspace.mem_of_family found)

/-- A change that a command asks for puts in distinct columns unless the command repeats one. -/
theorem puts_iff {change : SchemaChange} (asks : AsksFor state supply left command change) :
    change.Puts (fun _ family => family.DistinctColumns) state.store ↔
      ¬state.Repeats supply command := by
  cases asks with
  | createKeyspace applied =>
    refine iff_of_true (fun family held => ?_) id
    rw [Keyspace.families_of_withAttributes applied] at held
    cases held
  | @family defining name attributes before family known applied =>
    have before := distinctColumns_of_familyBefore reachable distinct known
    have repeats : state.Repeats supply (defining.family name attributes) ↔
        ∃ family, state.familyBefore defining name = .ok family ∧
          family.RepeatsColumn attributes supply := by
      cases defining <;> rfl
    obtain ⟨keyspace, inUse, -⟩ : ∃ keyspace, state.keyspace = .ok keyspace ∧ True := by
      cases defining <;> obtain ⟨keyspace, inUse, -⟩ := bind_eq_ok.1 known <;>
        exact ⟨keyspace, inUse, trivial⟩
    have chosen := (Store.of_currentKeyspace
      (currentKeyspace_of_keyspace reachable.coherent inUse)).1
    have puts : (defining.familyChange family).Puts (fun _ family => family.DistinctColumns)
        state.store ↔ family.DistinctColumns := by
      cases defining <;> exact ⟨fun puts => puts keyspace.name chosen, fun unequal _ _ => unequal⟩
    rw [puts, repeats, ColumnFamily.distinctColumns_iff before applied, known]
    simp
  | _ => exact iff_of_true trivial id

/-- A statement keeps columns distinct unless it succeeds and repeats one. -/
theorem distinctColumns_after (request : Request) :
    ((state.after request).store.AllFamilies fun _ family => family.DistinctColumns) ↔
      ¬state.RepeatsColumn request := by
  have unindexed : ∀ (name : String) (family : ColumnFamily) (column : Bytes),
      family.DistinctColumns → (Store.withoutIndex family column).DistinctColumns := by
    intro _ family column unequal
    have same : (Store.withoutIndex family column).columnMetadata.map ColumnDefinition.name =
        family.columnMetadata.map ColumnDefinition.name := by
      refine Store.map_modifyFirst ?_
      exact fun _ => rfl
    rw [ColumnFamily.DistinctColumns, same]
    exact unequal
  cases succeeded : (state.reply request).isSuccess with
  | false =>
    refine iff_of_true (distinct.of_same (keyspaces_of_failure succeeded)) fun repeated => ?_
    rw [repeated.1] at succeeded
    cases succeeded
  | true =>
    have repeats (command : Command) (parsed : Command.parse request.text = .ok command) :
        state.RepeatsColumn request ↔ state.Repeats request.supply command := by
      simp [RepeatsColumn, succeeded, parsed]
    cases parsed : Command.parse request.text with
    | error cause =>
      rw [reply, answer_of_refused parsed] at succeeded
      cases succeeded
    | ok command =>
      rw [repeats command parsed]
      cases changes : command.changesSchema with
      | false =>
        have framed := framed_after reachable.coherent reachable.sound parsed succeeded
        refine iff_of_true (distinct.of_same (framed.schema changes).1) fun repeated => ?_
        cases command <;> first | exact repeated | cases changes
      | true =>
        obtain ⟨outcome, after, left, run, same⟩ := execute_of_isSuccess parsed succeeded
        obtain ⟨change, version, asks, performed⟩ := change_of_execute changes run
        rw [State.after, same, ← puts_iff reachable distinct asks]
        exact Store.allFamilies_perform distinct unindexed performed

end Distinct

/-- Along a run of statements from a new store, all column families have columns of distinct names, as
they are stored, just if no statement that succeeds defines two of one name. -/
theorem distinctColumns_of_run (clusterName : String) (connected : Bool) (requests : List Request) :
    (∀ early, early <+: requests →
        ∀ keyspace ∈ ((initial clusterName connected).afterAll early).store.keyspaces,
          ∀ family ∈ keyspace.families, family.DistinctColumns) ↔
      ∀ early request, early ++ [request] <+: requests →
        ¬((initial clusterName connected).afterAll early).RepeatsColumn request := by
  have start : (initial clusterName connected).store.AllFamilies
      fun _ family => family.DistinctColumns := by
    cases connected <;> exact Store.allFamilies_new clusterName _
  refine foldl_keeps_iff after (fun state => state.store.AllFamilies fun _ family =>
    family.DistinctColumns) (fun state request => ¬state.RepeatsColumn request) start
    fun early request distinct => ?_
  exact distinctColumns_after ((reachable_initial clusterName connected).afterAll early) distinct
    request

/-- Two spellings of one number are accepted as two columns, which are stored under the same name. -/
theorem distinctColumns_of_run_repeated :
    let define (text : String) : Request :=
      { text, moment := { now := 0 }, newline := "\n", supply := ⟨id, id, 0, 0⟩ }
    let state := (initial "c" true).afterAll [define "create keyspace k;", define "use k;"]
    let request := define ("create column family F with comparator=LongType and column_metadata=[" ++
      "\x7bcolumn_name:1, validation_class:UTF8Type\x7d, " ++
      "\x7bcolumn_name:01, validation_class:LongType\x7d];")
    (state.reply request).isSuccess = true ∧
      ¬(∀ keyspace ∈ (state.after request).store.keyspaces, ∀ family ∈ keyspace.families,
        family.DistinctColumns) ∧
      ((state.after request).resolver "F").toOption.map (fun resolver =>
        resolver.family.columnMetadata.map ColumnDefinition.name) =
          some [[0, 0, 0, 0, 0, 0, 0, 1], [0, 0, 0, 0, 0, 0, 0, 1]] := by
  decide +kernel

end State

end WideColumn
