import Mathlib.Data.List.Nodup
import WideColumn.Proofs.Schema.Attributes
import WideColumn.Proofs.Store.Confinement
import WideColumn.Proofs.Store.Rows
import WideColumn.Proofs.Tables

/-!
# Definitions and rows fit each other

A store is sound if names tell definitions apart in any letter case, every definition is held where
it belongs and is well defined, and rows are on file only for a column family that is defined, in
the layout that it asks for (`Store.Sound`). Names are looked up in any letter case but rows are
filed under the exact names, so what carries the invariant is that a name finds one definition at
most. Every call keeps it; `Sound.replace` does so for all calls that put another definition of a
keyspace in the place of one.
-/

namespace WideColumn

/-- What means one item at most finds the same one in any order of the items. -/
theorem find?_of_perm {α : Type} {items others : List α} {isMeant : α → Bool}
    (perm : others.Perm items)
    (only : ∀ first ∈ items, ∀ second ∈ items, isMeant first = true → isMeant second = true →
      first = second) : others.find? isMeant = items.find? isMeant := by
  cases found : others.find? isMeant with
  | none =>
    refine (List.find?_eq_none.2 fun item mem => ?_).symm
    exact List.find?_eq_none.1 found item (perm.mem_iff.2 mem)
  | some item =>
    have mem : item ∈ items := perm.mem_iff.1 (List.mem_of_find?_eq_some found)
    have meant : isMeant item = true := List.find?_some found
    cases again : items.find? isMeant with
    | none => exact absurd meant (List.find?_eq_none.1 again item mem)
    | some other =>
      rw [only item mem other (List.mem_of_find?_eq_some again) meant (List.find?_some again)]

/-! ### Definitions -/

/-- Whether the names of column families differ in more than letter case. -/
def ColumnFamily.DistinctNames (families : List ColumnFamily) : Prop :=
  (families.map fun family => Text.lowered family.name).Nodup

theorem ColumnFamily.DistinctNames.eq {families : List ColumnFamily} {family other : ColumnFamily}
    (distinct : DistinctNames families) (mem : family ∈ families) (otherMem : other ∈ families)
    (same : family.name = other.name) : family = other :=
  List.inj_on_of_nodup_map distinct mem otherMem (congrArg Text.lowered same)

/-- A new definition under a free name keeps the names distinct. -/
theorem ColumnFamily.DistinctNames.concat {families : List ColumnFamily} {family : ColumnFamily}
    (distinct : DistinctNames families)
    (free : families.find? (fun other => Text.sameIgnoringCase other.name family.name) = none) :
    DistinctNames (families ++ [family]) :=
  nodup_lowered_concat distinct free

/-- Names are as distinct after a change of definitions that leaves all names. -/
theorem ColumnFamily.DistinctNames.of_names {families changed : List ColumnFamily}
    (distinct : DistinctNames families)
    (names : changed.map ColumnFamily.name = families.map ColumnFamily.name) :
    DistinctNames changed := by
  have lowered (families : List ColumnFamily) :
      families.map (fun family => Text.lowered family.name) =
        (families.map ColumnFamily.name).map Text.lowered := by
    rw [List.map_map]
    rfl
  rw [DistinctNames, lowered] at distinct ⊢
  rwa [names]

namespace Keyspace

theorem DistinctNames.eq {keyspaces : List Keyspace} {keyspace other : Keyspace}
    (distinct : DistinctNames keyspaces) (mem : keyspace ∈ keyspaces) (otherMem : other ∈ keyspaces)
    (same : keyspace.name = other.name) : keyspace = other :=
  List.inj_on_of_nodup_map distinct mem otherMem (congrArg Text.lowered same)

/-- A name finds the same keyspace in any order of the keyspaces. -/
theorem DistinctNames.find?_of_perm {keyspaces others : List Keyspace}
    (distinct : DistinctNames keyspaces) (perm : others.Perm keyspaces) {name : String} :
    Keyspace.find? others name = Keyspace.find? keyspaces name := by
  refine WideColumn.find?_of_perm perm fun first mem second otherMem meant otherMeant => ?_
  exact List.inj_on_of_nodup_map distinct mem otherMem
    ((beq_iff_eq.1 meant).trans (beq_iff_eq.1 otherMeant).symm)

/-- Whether the column families of a keyspace have distinct names and are well defined. -/
structure WellDefined (keyspace : Keyspace) : Prop where
  distinct : ColumnFamily.DistinctNames keyspace.families
  families : ∀ family ∈ keyspace.families, family.WellDefined

end Keyspace

/-! ### Rows keep their layout -/

namespace Row

variable {isSuper : Bool} {row after : Row} {superColumn : Option Bytes} {column : Bytes}

/-- Whatever is removed, the rest keeps its layout. -/
theorem fits_of_remove (fits : row.Fits isSuper) (run : row.remove superColumn column = .ok after) :
    after.Fits isSuper := by
  cases superColumn with
  | none =>
    cases run
    exact fits_erase fits
  | some name =>
    obtain ⟨found, grouped, run⟩ := bind_eq_ok.1 run
    cases found with
    | none =>
      cases run
      exact fits
    | some records =>
      cases run
      -- Only a super column can be used as one, and the row holds nothing else then.
      have super : isSuper = true := by
        unfold Row.group? at grouped
        cases slot : row.get? name with
        | none =>
          rw [slot] at grouped
          cases grouped
        | some held =>
          cases held with
          | record record =>
            rw [slot] at grouped
            cases grouped
          | group others => exact (fits name _ slot).symm
      exact fits_put fits super.symm

end Row

namespace Store

variable {store after : Store} {name version : String} {family : ColumnFamily}
  {isSuper : Bool} {rows changed : Table Bytes Row} {location : Location}

/-- A row that is on file fits if all rows do. -/
theorem RowsFit.get? {key : Bytes} {row : Row} (fit : RowsFit isSuper rows)
    (filed : rows.get? key = some row) : row.Fits isSuper := by
  have fits := fit key
  rw [rowAt, filed] at fits
  exact fits

theorem rowsFit_of_without (fit : RowsFit isSuper rows)
    (run : without rows location = .ok changed) : RowsFit isSuper changed := by
  unfold without at run
  cases found : rows.get? location.key with
  | none =>
    rw [found] at run
    cases run
    exact fit
  | some row =>
    have fits := fit.get? found
    rw [found] at run
    dsimp only at run
    split at run
    · cases run
      exact rowsFit_erase fit
    · cases run
      exact rowsFit_put fit (Row.fits_erase fits)
    · obtain ⟨rest, removed, rfl⟩ := map_eq_ok.1 run
      exact rowsFit_put fit (Row.fits_of_remove fits removed)

/-- A column is written where its layout asks for it. -/
theorem formed_of_checkShape {column : Bytes} (given : location.column = some column)
    (shape : checkShape family location = .ok ()) :
    location.superColumn.isSome = family.isSuper := by
  unfold checkShape at shape
  cases super : family.isSuper <;> cases outer : location.superColumn <;> simp_all

theorem rowsFit_of_withRecord {column : Bytes} {record : Record}
    (fit : RowsFit family.isSuper rows) (given : location.column = some column)
    (shape : checkShape family location = .ok ())
    (run : withRecord rows location column record = .ok changed) :
    RowsFit family.isSuper changed := by
  obtain ⟨found, put, fits, -⟩ :=
    withRecord_ok fit (formed_of_checkShape given shape) column record
  obtain rfl : found = changed := Except.ok.inj (put.symm.trans run)
  exact fits

/-! ### Sound stores -/

/-- Whether names tell definitions apart, each definition is held where it belongs and is well
defined, and all rows are those of a column family and have its layout. -/
structure Sound (store : Store) : Prop where
  filed : Keyspace.WellFiled store.keyspaces
  defined : ∀ keyspace ∈ store.keyspaces, keyspace.WellDefined
  rows : ∀ place rows, store.rows.get? place = some rows →
    ∃ keyspace ∈ store.keyspaces, ∃ family ∈ keyspace.families,
      (keyspace.name, family.name) = place ∧ RowsFit family.isSuper rows

theorem sound_new (clusterName : String) (connection : Connection) :
    Sound { clusterName, connection } := by
  refine ⟨⟨List.pairwise_singleton _ _, fun keyspace mem => ?_⟩, fun keyspace mem => ?_, nofun⟩
  · obtain rfl := List.mem_singleton.1 mem
    exact nofun
  · obtain rfl := List.mem_singleton.1 mem
    exact ⟨List.nodup_nil, nofun⟩

/-- The connection does not matter. -/
theorem Sound.of_same (sound : Sound store) (keyspaces : after.keyspaces = store.keyspaces)
    (rows : after.rows = store.rows) : Sound after := by
  refine ⟨?_, ?_, ?_⟩
  · rw [keyspaces]
    exact sound.filed
  · rw [keyspaces]
    exact sound.defined
  · rw [keyspaces, rows]
    exact sound.rows

/-- Each keyspace is found by its own name. -/
theorem Sound.keyspace? (sound : Sound store) {keyspace : Keyspace}
    (mem : keyspace ∈ store.keyspaces) : store.keyspace? keyspace.name = some keyspace := by
  cases found : store.keyspace? keyspace.name with
  | none =>
    have missed := List.find?_eq_none.1 found keyspace mem
    exact absurd (beq_self_eq_true keyspace.name) missed
  | some other =>
    obtain ⟨otherMem, same⟩ := of_keyspace?_eq_some found
    rw [sound.filed.distinct.eq otherMem mem same]

/-- A column family that is found is one of the selected keyspace. -/
theorem mem_of_store_family (found : store.family name = .ok family) :
    ∃ keyspace ∈ store.keyspaces, family ∈ keyspace.families := by
  obtain ⟨keyspace, current, named⟩ := family_eq_ok.1 found
  exact ⟨keyspace, (of_currentKeyspace current).2, List.mem_of_find?_eq_some named⟩

/-- The rows of a column family have its layout. -/
theorem Sound.rowsFit (sound : Sound store) (found : store.family name = .ok family) :
    RowsFit family.isSuper (store.rowsOf family) := by
  obtain ⟨keyspace, mem, held⟩ := mem_of_store_family found
  unfold rowsOf
  cases filed : store.rows.get? (family.keyspace, family.name) with
  | none => exact rowsFit_empty
  | some rows =>
    obtain ⟨owner, ownerMem, member, memberHeld, place, fit⟩ := sound.rows _ rows filed
    obtain ⟨ownerName, memberName⟩ := Prod.mk.inj place
    -- The exact names lead back to the same keyspace and to the same column family.
    have belongs : family.keyspace = keyspace.name := sound.filed.belong keyspace mem family held
    obtain rfl : owner = keyspace := sound.filed.distinct.eq ownerMem mem (ownerName.trans belongs)
    obtain rfl : member = family := (sound.defined owner mem).distinct.eq memberHeld held memberName
    exact fit

/-! ### Calls on rows -/

theorem Sound.withRows (sound : Sound store) (found : store.family name = .ok family)
    (fit : RowsFit family.isSuper rows) : Sound (store.withRows family rows) := by
  refine ⟨sound.filed, sound.defined, fun place filed get => ?_⟩
  rw [Store.withRows, Table.get?_put] at get
  split at get
  · rename_i here
    cases get
    obtain ⟨keyspace, mem, held⟩ := mem_of_store_family found
    refine ⟨keyspace, mem, family, held, ?_, fit⟩
    rw [← here, sound.filed.belong keyspace mem family held]
  · exact sound.rows place filed get

theorem Sound.insertColumn (sound : Sound store) {now : Int} {data : Bytes} {ttl : Option Int}
    {inserted : Unit} (run : insertColumn now location data ttl store = (.ok inserted, after)) :
    Sound after := by
  obtain ⟨column, family, rows, given, -, found, -, shape, changes, rfl⟩ := insertColumn_ok run
  exact sound.withRows found (rowsFit_of_withRecord (sound.rowsFit found) given shape changes)

theorem Sound.addToCounter (sound : Sound store) {delta : Int} {added : Unit}
    (run : addToCounter location delta store = (.ok added, after)) : Sound after := by
  obtain ⟨column, family, total, rows, given, found, -, shape, -, changes, rfl⟩ :=
    addToCounter_ok run
  exact sound.withRows found (rowsFit_of_withRecord (sound.rowsFit found) given shape changes)

theorem Sound.removeColumn (sound : Sound store) {removed : Unit}
    (run : removeColumn location store = (.ok removed, after)) : Sound after := by
  obtain ⟨family, rows, found, changes, rfl⟩ := removeColumn_ok run
  exact sound.withRows found (rowsFit_of_without (sound.rowsFit found) changes)

theorem Sound.truncate (sound : Sound store) {truncated : Unit}
    (run : truncate name store = (.ok truncated, after)) : Sound after := by
  obtain ⟨family, found, rfl⟩ := truncate_ok run
  exact sound.withRows found rowsFit_empty

/-! ### Calls on keyspaces -/

theorem Sound.createKeyspace (sound : Sound store) {keyspace : Keyspace}
    (empty : keyspace.families = [])
    (run : createKeyspace keyspace store = (.ok version, after)) : Sound after := by
  obtain ⟨free, rfl⟩ := createKeyspace_ok run
  refine ⟨⟨sound.filed.distinct.concat free, fun other mem => ?_⟩, fun other mem => ?_,
    fun place rows get => ?_⟩
  · rcases List.mem_append.1 mem with old | new
    · exact sound.filed.belong other old
    · rw [List.mem_singleton.1 new, empty]
      exact nofun
  · rcases List.mem_append.1 mem with old | new
    · exact sound.defined other old
    · rw [List.mem_singleton.1 new, empty]
      exact ⟨List.nodup_nil, nofun⟩
  · obtain ⟨owner, mem, family, held, same, fit⟩ := sound.rows place rows get
    exact ⟨owner, List.mem_append_left _ mem, family, held, same, fit⟩

/-- The rows of a keyspace go with it. -/
theorem Sound.dropKeyspace (sound : Sound store)
    (run : dropKeyspace name store = (.ok version, after)) : Sound after := by
  have stays {keyspace : Keyspace} : keyspace ∈ after.keyspaces ↔ _ :=
    mem_keyspaces_dropKeyspace run
  obtain rfl := dropKeyspace_ok run
  refine ⟨⟨sound.filed.distinct.filter _, fun other mem => ?_⟩, fun other mem => ?_,
    fun place rows get => ?_⟩
  · exact sound.filed.belong other (stays.1 mem).1
  · exact sound.defined other (stays.1 mem).1
  · obtain ⟨get, kept⟩ := Table.get?_filter_eq_some.1 get
    obtain ⟨owner, mem, family, held, rfl, fit⟩ := sound.rows place rows get
    exact ⟨owner, stays.2 ⟨mem, by simpa using kept⟩, family, held, rfl, fit⟩

/-- A definition of a keyspace takes the place of another one. Each column family that has rows
needs a successor of its name and layout; rows may go, but none may come. -/
theorem Sound.replace (sound : Sound store) {held keyspace : Keyspace}
    (replaced : after.keyspaces = (store.withKeyspace keyspace).keyspaces)
    (mem : held ∈ store.keyspaces) (same : keyspace.name = held.name)
    (belong : ∀ family ∈ keyspace.families, family.keyspace = keyspace.name)
    (defined : keyspace.WellDefined)
    (fewer : ∀ place rows, after.rows.get? place = some rows → store.rows.get? place = some rows)
    (succeeded : ∀ family ∈ held.families, (after.rows.get? (held.name, family.name)).isSome →
      ∃ next ∈ keyspace.families, next.name = family.name ∧ next.isSuper = family.isSuper) :
    Sound after := by
  have outline : SameOutline store (store.withKeyspace keyspace) :=
    ⟨rfl, names_withKeyspace store keyspace⟩
  refine ⟨?_, ?_, ?_⟩ <;> rw [replaced]
  · refine ⟨outline.distinctNames sound.filed.distinct, fun other present => ?_⟩
    obtain ⟨old, oldMem, rfl⟩ := List.mem_map.1 present
    split
    · exact belong
    · exact sound.filed.belong old oldMem
  · intro other present
    obtain ⟨old, oldMem, rfl⟩ := List.mem_map.1 present
    split
    · exact defined
    · exact sound.defined old oldMem
  · intro place rows get
    obtain ⟨owner, ownerMem, family, familyMem, rfl, fit⟩ :=
      sound.rows place rows (fewer place rows get)
    by_cases here : owner.name = keyspace.name
    · obtain rfl : owner = held := sound.filed.distinct.eq ownerMem mem (here.trans same)
      obtain ⟨next, nextMem, named, layout⟩ := succeeded family familyMem (by rw [get]; rfl)
      refine ⟨keyspace, List.mem_map.2 ⟨owner, mem, if_pos (beq_iff_eq.2 here)⟩, next, nextMem, ?_,
        layout ▸ fit⟩
      rw [same, named]
    · refine ⟨owner, List.mem_map.2 ⟨owner, ownerMem, if_neg ?_⟩, family, familyMem, rfl, fit⟩
      exact fun equal => here (beq_iff_eq.1 equal)

theorem Sound.updateKeyspace (sound : Sound store) {keyspace : Keyspace}
    (run : updateKeyspace keyspace store = (.ok version, after)) : Sound after := by
  obtain ⟨old, found, rfl⟩ := updateKeyspace_ok run
  obtain ⟨mem, same⟩ := of_keyspace?_eq_some found
  refine sound.replace rfl mem same.symm (fun family held => ?_) ?_ (fun _ _ get => get)
    fun family held _ => ⟨family, held, rfl, rfl⟩
  · exact (sound.filed.belong old mem family held).trans same
  · exact ⟨(sound.defined old mem).distinct, (sound.defined old mem).families⟩

/-! ### Calls on column families -/

theorem Sound.createFamily (sound : Sound store) (defined : family.WellDefined)
    (run : createFamily family store = (.ok version, after)) : Sound after := by
  obtain ⟨keyspace, current, free, rfl⟩ := createFamily_ok run
  obtain ⟨-, mem⟩ := of_currentKeyspace current
  refine sound.replace rfl mem rfl (fun member present => ?_) ⟨?_, fun member present => ?_⟩
    (fun _ _ get => get) fun member held _ => ⟨member, List.mem_append_left _ held, rfl, rfl⟩
  · rcases List.mem_append.1 present with old | new
    · exact sound.filed.belong keyspace mem member old
    · rw [List.mem_singleton.1 new]
  · exact (sound.defined keyspace mem).distinct.concat free
  · rcases List.mem_append.1 present with old | new
    · exact (sound.defined keyspace mem).families member old
    · rw [List.mem_singleton.1 new]
      exact ⟨defined.known, defined.layered⟩

/-- What an update leaves of a definition. -/
theorem fixed_of_fixedDifference? {old : ColumnFamily} (fixed : fixedDifference? old family = none) :
    family.columnType = old.columnType ∧ family.comparatorType = old.comparatorType ∧
      family.subcomparatorType = old.subcomparatorType := by
  unfold fixedDifference? at fixed
  split_ifs at fixed with type comparator subcomparator
  exact ⟨not_not.1 type, not_not.1 comparator, not_not.1 subcomparator⟩

theorem isSuper_of_fixedDifference? {old : ColumnFamily}
    (fixed : fixedDifference? old family = none) : family.isSuper = old.isSuper :=
  congrArg (· == "Super") (fixed_of_fixedDifference? fixed).1

theorem Sound.updateFamily (sound : Sound store) (defined : family.WellDefined)
    (belongs : store.selected? = some family.keyspace)
    (run : updateFamily family store = (.ok version, after)) : Sound after := by
  obtain ⟨keyspace, old, current, found, fixed, rfl⟩ := updateFamily_ok run
  obtain ⟨chosen, mem⟩ := of_currentKeyspace current
  have oldName : old.name = family.name := name_of_family found
  obtain ⟨again, known, named⟩ := family_eq_ok.1 found
  obtain rfl : keyspace = again := Except.ok.inj (current.symm.trans known)
  have oldMem : old ∈ keyspace.families := List.mem_of_find?_eq_some named
  have distinct := (sound.defined keyspace mem).distinct
  -- The definition goes to the place of the one with its name, so all names stay.
  have names : (keyspace.families.map fun other =>
      if other.name == old.name then family else other).map ColumnFamily.name =
        keyspace.families.map ColumnFamily.name := by
    rw [List.map_map]
    refine List.map_congr_left fun other _ => ?_
    show (if other.name == old.name then family else other).name = other.name
    split
    · rename_i same
      rw [beq_iff_eq.1 same, oldName]
    · rfl
  refine sound.replace rfl mem rfl (fun member present => ?_)
    ⟨distinct.of_names names, fun member present => ?_⟩ (fun _ _ get => get)
    fun member held _ => ?_
  · obtain ⟨before, held, rfl⟩ := List.mem_map.1 present
    split
    · exact Option.some.inj (belongs.symm.trans chosen)
    · exact sound.filed.belong keyspace mem before held
  · obtain ⟨before, held, rfl⟩ := List.mem_map.1 present
    split
    · exact defined
    · exact (sound.defined keyspace mem).families before held
  · refine ⟨_, List.mem_map_of_mem held, ?_⟩
    split
    · rename_i same
      obtain rfl : member = old := distinct.eq held oldMem (beq_iff_eq.1 same)
      exact ⟨oldName.symm, isSuper_of_fixedDifference? fixed⟩
    · exact ⟨rfl, rfl⟩

/-- The rows of a column family go with it. -/
theorem Sound.dropFamily (sound : Sound store)
    (run : dropFamily name store = (.ok version, after)) : Sound after := by
  obtain ⟨keyspace, current, rfl⟩ := dropFamily_ok run
  obtain ⟨-, mem⟩ := of_currentKeyspace current
  refine sound.replace rfl mem rfl (fun member present => ?_) ⟨?_, fun member present => ?_⟩
    (fun place rows get => ?_) fun member held filed => ?_
  · exact sound.filed.belong keyspace mem member (List.mem_filter.1 present).1
  · exact (sound.defined keyspace mem).distinct.sublist (List.filter_sublist.map _)
  · exact (sound.defined keyspace mem).families member (List.mem_filter.1 present).1
  · change (store.rows.erase (keyspace.name, name)).get? place = some rows at get
    rw [Table.get?_erase] at get
    split at get
    · cases get
    · exact get
  · change ((store.rows.erase (keyspace.name, name)).get? _).isSome at filed
    rw [Table.get?_erase] at filed
    split at filed
    · cases filed
    · rename_i apart
      refine ⟨member, List.mem_filter.2 ⟨held, bne_iff_ne.2 fun same => apart ?_⟩, rfl, rfl⟩
      rw [same]

/-- Changing the first item of a class leaves what the change leaves. -/
theorem map_modifyFirst {α β : Type} {isMeant : α → Bool} {change : α → α} {view : α → β}
    {items : List α} (same : ∀ item, view (change item) = view item) :
    (modifyFirst isMeant change items).map view = items.map view := by
  induction items with
  | nil => rfl
  | cons first rest ih =>
    rw [modifyFirst]
    split
    · rw [List.map_cons, List.map_cons, same]
    · rw [List.map_cons, List.map_cons, ih]

/-- Without an index a definition has the validators that it had. -/
theorem wellDefined_withoutIndex (defined : family.WellDefined) (column : Bytes) :
    (withoutIndex family column).WellDefined := by
  have same : (withoutIndex family column).validatorNames = family.validatorNames := by
    refine congrArg (_ ++ ·) (map_modifyFirst ?_)
    exact fun _ => rfl
  refine ⟨?_, defined.layered⟩
  rw [same]
  exact defined.known

theorem Sound.dropIndex (sound : Sound store) {column : Bytes}
    (run : dropIndex name column store = (.ok version, after)) : Sound after := by
  obtain ⟨keyspace, family, current, -, -, rfl⟩ := dropIndex_ok run
  obtain ⟨-, mem⟩ := of_currentKeyspace current
  have kept : ∀ member : ColumnFamily, member.keyspace = keyspace.name →
      (withoutIndex member column).keyspace = keyspace.name := fun _ belongs => belongs
  refine sound.replace rfl mem rfl ?_ ⟨?_, ?_⟩ (fun _ _ get => get) fun member held _ => ?_
  · exact forall_mem_modifyFirst kept (sound.filed.belong keyspace mem)
  · refine (sound.defined keyspace mem).distinct.of_names (map_modifyFirst ?_)
    exact fun _ => rfl
  · exact forall_mem_modifyFirst (fun _ defined => wellDefined_withoutIndex defined column)
      (sound.defined keyspace mem).families
  · -- The names and the layouts are the same list as before.
    have views : (modifyFirst (fun other => other.name == family.name)
          (fun other => withoutIndex other column) keyspace.families).map
            (fun other => (other.name, other.isSuper)) =
        keyspace.families.map fun other => (other.name, other.isSuper) := by
      refine map_modifyFirst ?_
      exact fun _ => rfl
    have view : (member.name, member.isSuper) ∈
        keyspace.families.map fun other => (other.name, other.isSuper) :=
      List.mem_map_of_mem held
    rw [← views] at view
    obtain ⟨next, nextMem, same⟩ := List.mem_map.1 view
    obtain ⟨named, layout⟩ := Prod.mk.inj same
    exact ⟨next, nextMem, named, layout⟩

end Store

end WideColumn
