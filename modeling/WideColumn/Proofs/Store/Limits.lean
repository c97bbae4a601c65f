import WideColumn.Proofs.Store.Indexing

/-!
# What limits cut off

Reads take a limit. With a smaller one they give the first entries of what they give with a larger
one (`CutTo`). A read of one row cuts its entries off when it has them all. A scan tests after each
row that it lists whether it has enough, so it lists one row even if none is asked for; with any
other limit it stops where it should (`Store.limits_cut`).
-/

namespace WideColumn

/-! ### Answers that are cut off -/

/-- Whether a second answer is the first one cut off at a limit. The one that is cut off fails as
the other one does, unless it has as many entries as it may before the other one fails. -/
inductive CutTo {α : Type} (limit : Nat) :
    Except Failure (List α) → Except Failure (List α) → Prop where
  | answered (items : List α) : CutTo limit (.ok items) (.ok (items.take limit))
  | failed (failure : Failure) : CutTo limit (.error failure) (.error failure)
  | before (failure : Failure) {items : List α} (full : items.length = limit) :
      CutTo limit (.error failure) (.ok items)

namespace CutTo

variable {α β : Type} {limit few many : Nat} {answer other : Except Failure (List α)}

theorem nil : CutTo limit (.ok ([] : List α)) (.ok []) := by
  have empty : CutTo limit (.ok ([] : List α)) (.ok (List.take limit [])) := .answered []
  rwa [List.take_nil] at empty

theorem length_le {items : List α} (cut : CutTo limit answer (.ok items)) :
    items.length ≤ limit := by
  cases cut with
  | answered all => exact List.length_take_le limit all
  | before failure full => exact Nat.le_of_eq full

theorem cons (item : α) (cut : CutTo limit answer other) :
    CutTo (limit + 1) ((item :: ·) <$> answer) ((item :: ·) <$> other) := by
  cases cut with
  | answered all => exact .answered (item :: all)
  | failed failure => exact .failed failure
  | before failure full => exact .before failure (congrArg (· + 1) full)

/-- Reading fewer items cuts off what reading more of them gives. -/
theorem mapM_take (read : β → Except Failure α) (items : List β) (le : few ≤ many) :
    CutTo few ((items.take many).mapM read) ((items.take few).mapM read) := by
  induction items generalizing few many with
  | nil =>
    rw [List.take_nil, List.take_nil]
    exact .nil
  | cons item rest ih =>
    cases few with
    | zero =>
      show CutTo 0 _ (.ok [])
      cases ((item :: rest).take many).mapM read with
      | error failure => exact .before failure rfl
      | ok values => exact .answered values
    | succ few =>
      obtain ⟨many, rfl⟩ : ∃ more, many = more + 1 := ⟨many - 1, by omega⟩
      rw [List.take_succ_cons, List.take_succ_cons, List.mapM_cons, List.mapM_cons]
      cases read item with
      | error failure => exact .failed failure
      | ok value =>
        have tail := (ih (by omega : few ≤ many)).cons value
        rwa [map_eq_pure_bind, map_eq_pure_bind] at tail

end CutTo

namespace Store

variable {store : Store} {now : Int} {name : String} {few many : Nat}

/-! ### Scans -/

/-- Whether a read gives, for each limit, the first of certain rows, at least one of them if there
are any, or else fails in the same way for each limit. -/
def ReadsFirst (read : Int → Except Failure (List RowSlice)) : Prop :=
  (∃ failure, ∀ count, read count = .error failure) ∨
    ∃ family now rows, ∀ count, read count = readFirst family now (max 1 count.toNat) rows

theorem readsFirst_getSlice (store : Store) (now : Int) (name : String) (start stop : Bytes) :
    ReadsFirst (store.getSlice now name start stop) := by
  cases found : store.family name with
  | error failure =>
    refine .inl ⟨failure, fun count => ?_⟩
    rw [getSlice, found]
    rfl
  | ok family => exact .inr ⟨family, now, _, fun _ => getSlice_eq_readFirst found⟩

theorem readsFirst_getIndexedSlices (store : Store) (now : Int) (name : String)
    (expressions : List IndexExpression) :
    ReadsFirst (store.getIndexedSlices now name expressions) := by
  cases found : store.family name with
  | error failure =>
    refine .inl ⟨failure, fun count => ?_⟩
    rw [getIndexedSlices, found]
    rfl
  | ok family =>
    cases super : family.isSuper with
    | true =>
      refine .inl ⟨.store .superIndexed, fun count => ?_⟩
      rw [getIndexedSlices, found]
      simp only [bind, Except.bind, super, if_true]
      rfl
    | false =>
      by_cases served : ∃ expression ∈ expressions, expression.Served family
      · exact .inr ⟨family, now, _, fun _ => getIndexedSlices_eq_readFirst found super served⟩
      · refine .inl ⟨.store .noIndexedEquality, fun count => ?_⟩
        have unserved : expressions.any (usesIndex family) = false := by
          rw [Bool.eq_false_iff, ne_eq, List.any_eq_true]
          simpa only [usesIndex_iff] using served
        rw [getIndexedSlices, found]
        simp only [bind, Except.bind, super, unserved, Bool.false_eq_true, if_false]
        rfl

section Scans

variable {read : Int → Except Failure (List RowSlice)} (reads : ReadsFirst read)

include reads

/-- A scan cuts off at its limit, or after one row if it has no other limit. -/
theorem ReadsFirst.cutTo (le : few ≤ many) : CutTo (max 1 few) (read many) (read few) := by
  obtain ⟨failure, fails⟩ | ⟨family, now, rows, first⟩ := reads
  · rw [fails, fails]
    exact .failed failure
  · rw [first, first]
    exact .mapM_take _ rows (by omega)

/-- A scan cuts off at its limit just if this is not zero or there is nothing to list. -/
theorem ReadsFirst.cutTo_iff (le : few ≤ many) : CutTo few (read many) (read few) ↔
    0 < few ∨ ∀ slices, read few = .ok slices → slices = [] := by
  have scanned := reads.cutTo le
  constructor
  · intro cut
    refine or_iff_not_imp_left.2 fun zero slices listed => ?_
    rw [listed] at cut
    have within := cut.length_le
    exact List.eq_nil_of_length_eq_zero (by omega)
  · rintro (positive | nothing)
    · rwa [Nat.max_eq_right positive] at scanned
    · generalize read many = answer, read few = other at scanned nothing
      cases scanned with
      | answered items =>
        have empty := nothing _ rfl
        rw [List.take_eq_nil_iff] at empty
        obtain zero | rfl := empty
        · omega
        · rw [List.take_nil]
          exact .nil
      | failed failure => exact .failed failure
      | before failure full =>
        rw [nothing _ rfl, List.length_nil] at full
        omega

/-- A scan lists no more than its limit just if this is not zero or nothing is listed. -/
theorem ReadsFirst.length_le_iff {slices : List RowSlice} (listed : read few = .ok slices) :
    slices.length ≤ few ↔ 0 < few ∨ slices = [] := by
  have scanned := reads.cutTo (Nat.le_refl few)
  rw [listed] at scanned
  have within := scanned.length_le
  constructor
  · intro short
    refine or_iff_not_imp_left.2 fun zero => List.eq_nil_of_length_eq_zero (by omega)
  · rintro (positive | rfl)
    · omega
    · exact Nat.zero_le few

end Scans

/-! ### Single rows -/

theorem cut_natCast {α : Type} (count : Nat) (items : List α) :
    cut count items = items.take count := by
  rw [cut, if_neg (by omega)]
  rfl

/-- A read of a row has all entries of it before it cuts them off. -/
theorem getRow_eq_take (store : Store) (now : Int) (name : String) (key : Bytes)
    (superColumn : Option Bytes) : ∃ whole, ∀ count : Nat,
      store.getRow now name key superColumn count = List.take count <$> whole := by
  have none_seen (count : Nat) : (.ok [] : Except Failure (List Entry)) =
      List.take count <$> .ok [] := congrArg Except.ok List.take_nil.symm
  unfold getRow
  cases store.family name with
  | error failure => exact ⟨.error failure, fun _ => rfl⟩
  | ok family =>
    show ∃ whole, ∀ count : Nat, (checkShape family _ >>= _) = List.take count <$> whole
    cases checkShape family ⟨name, key, superColumn, none⟩ with
    | error failure => exact ⟨.error failure, fun _ => rfl⟩
    | ok accepted =>
      simp only [bind, Except.bind]
      cases (store.rowsOf family).get? key with
      | none => exact ⟨.ok [], none_seen⟩
      | some row =>
        cases superColumn with
        | none =>
          refine ⟨row.read family now, fun count => ?_⟩
          dsimp only
          cases row.read family now with
          | error failure => rfl
          | ok entries => exact congrArg Except.ok (cut_natCast count entries)
        | some outer =>
          dsimp only
          cases row.group? outer .readAll with
          | error failure => exact ⟨.error failure, fun _ => rfl⟩
          | ok group =>
            cases group with
            | none => exact ⟨.ok [], none_seen⟩
            | some records =>
              refine ⟨.ok ((liveCells family now records).map .cell), fun count => ?_⟩
              dsimp only
              rw [cut_natCast, List.map_take]
              rfl

/-- A read of a row cuts off at its limit. -/
theorem getRow_cut (le : few ≤ many) (key : Bytes) (superColumn : Option Bytes) :
    store.getRow now name key superColumn few =
      List.take few <$> store.getRow now name key superColumn many := by
  obtain ⟨whole, all⟩ := getRow_eq_take store now name key superColumn
  rw [all, all]
  cases whole with
  | error failure => rfl
  | ok entries =>
    show Except.ok (entries.take few) = .ok ((entries.take many).take few)
    rw [List.take_take, Nat.min_eq_left le]

/-- A read of a row gives no more than its limit. -/
theorem length_getRow_le {key : Bytes} {superColumn : Option Bytes} {entries : List Entry}
    (answered : store.getRow now name key superColumn few = .ok entries) :
    entries.length ≤ few := by
  obtain ⟨whole, all⟩ := getRow_eq_take store now name key superColumn
  rw [all, map_eq_ok] at answered
  obtain ⟨found, -, rfl⟩ := answered
  exact List.length_take_le few found

/-! ### All reads with a limit -/

/-- A read of a row with a limit gives the first entries of what it gives with a larger one, and so
no more than the limit. The same holds for both kinds of scan just if the limit is not zero or they
list nothing. -/
theorem limits_cut {few many : Nat} (le : few ≤ many) (store : Store) (now : Int) (name : String) :
    (∀ key superColumn,
      store.getRow now name key superColumn few =
        List.take few <$> store.getRow now name key superColumn many ∧
      ∀ entries, store.getRow now name key superColumn few = .ok entries →
        entries.length ≤ few) ∧
    (∀ start stop,
      (CutTo few (store.getSlice now name start stop many)
          (store.getSlice now name start stop few) ↔
        0 < few ∨ ∀ slices, store.getSlice now name start stop few = .ok slices → slices = []) ∧
      ∀ slices, store.getSlice now name start stop few = .ok slices →
        (slices.length ≤ few ↔ 0 < few ∨ slices = [])) ∧
    (∀ expressions,
      (CutTo few (store.getIndexedSlices now name expressions many)
          (store.getIndexedSlices now name expressions few) ↔
        0 < few ∨
          ∀ slices, store.getIndexedSlices now name expressions few = .ok slices → slices = []) ∧
      ∀ slices, store.getIndexedSlices now name expressions few = .ok slices →
        (slices.length ≤ few ↔ 0 < few ∨ slices = [])) := by
  refine ⟨fun key superColumn => ⟨getRow_cut le key superColumn, fun _ => length_getRow_le⟩,
    fun start stop => ?_, fun expressions => ?_⟩
  · have scans := readsFirst_getSlice store now name start stop
    exact ⟨scans.cutTo_iff le, fun _ => scans.length_le_iff⟩
  · have scans := readsFirst_getIndexedSlices store now name expressions
    exact ⟨scans.cutTo_iff le, fun _ => scans.length_le_iff⟩

/-- Of two rows, a scan with the limit one lists the first. -/
theorem limits_cut_one :
    let family : ColumnFamily := { keyspace := "k", name := "f" }
    let store : Store :=
      { connection := .opened (some "k"), keyspaces := [{ name := "k", families := [family] }] }
    let column (key : Bytes) : Write := .insert 0 ⟨"f", key, none, some [7]⟩ [9] none
    let filled := (runAll Write.perform [column [2], column [1]] store).2
    CutTo 1 (filled.getSlice 0 "f" [] [] (2 : Nat)) (filled.getSlice 0 "f" [] [] (1 : Nat)) ∧
      filled.getSlice 0 "f" [] [] (1 : Nat) =
        .ok [⟨[1], [.cell ⟨[7], .value [9] 0 none⟩]⟩] := by
  intro family store column filled
  have scans := (limits_cut (by decide : 1 ≤ 2) filled 0 "f").2.1 [] []
  exact ⟨scans.1.2 (.inl (by decide)), by decide +kernel⟩

/-- With the limit zero a scan lists a row, and so does a read by an index; a read of the row gives
nothing. -/
theorem limits_zero :
    let family : ColumnFamily :=
      { keyspace := "k", name := "f",
        columnMetadata :=
          [{ name := [7], validationClass := "BytesType", indexType := some "KEYS" }] }
    let store : Store :=
      { connection := .opened (some "k"), keyspaces := [{ name := "k", families := [family] }] }
    let filled := (insertColumn 0 ⟨"f", [1], none, some [7]⟩ [9] none store).2
    let listed : List RowSlice := [⟨[1], [.cell ⟨[7], .value [9] 0 none⟩]⟩]
    filled.getSlice 0 "f" [] [] 0 = .ok listed ∧
      filled.getIndexedSlices 0 "f" [⟨[7], .equal, [9]⟩] 0 = .ok listed ∧
      filled.getRow 0 "f" [1] none 0 = .ok [] := by
  decide +kernel

end Store

end WideColumn
