import WideColumn.Store.Write

/-!
# Rows as maps of records

In rows that fit their column family, every slot of a row is a super column if the column family is
super, and a column otherwise. Such rows are a map from a key, perhaps a super column, and a column
to records (`recordIn`). The lemmas say what a change of the rows does to this map; none of the
changes fails on rows that fit.
-/

namespace WideColumn

namespace Slot

/-- Whether a slot is a super column. -/
def isGroup : Slot → Bool
  | record _ => false
  | group _ => true

/-- The columns of a super column, if it is one. -/
def group? : Slot → Option (Table Bytes Record)
  | record _ => none
  | group records => some records

end Slot

/-! ### One row -/

namespace Row

variable {isSuper : Bool} {row : Row} {superColumn : Option Bytes} {column : Bytes}

/-- Whether a row has super columns only, or columns only. -/
def Fits (isSuper : Bool) (row : Row) : Prop :=
  ∀ name slot, row.get? name = some slot → slot.isGroup = isSuper

/-- The record of a column of the row, or of one of its super columns. -/
def recordAt (row : Row) (superColumn : Option Bytes) (column : Bytes) : Option Record :=
  match superColumn with
  | none => (row.get? column).bind Slot.record?
  | some name => ((row.get? name).bind Slot.group?).bind fun records => records.get? column

theorem fits_empty : Fits isSuper .empty := by
  intro name slot found
  cases found

theorem fits_put {name : Bytes} {slot : Slot} (fits : row.Fits isSuper)
    (same : slot.isGroup = isSuper) : Fits isSuper (Table.put row name slot) := by
  intro other found get
  rw [Table.get?_put] at get
  split at get
  · cases get
    exact same
  · exact fits other found get

theorem fits_erase {name : Bytes} (fits : row.Fits isSuper) :
    Fits isSuper (Table.erase row name) := by
  intro other found get
  rw [Table.get?_erase] at get
  split at get
  · cases get
  · exact fits other found get

@[simp] theorem recordAt_empty : recordAt .empty superColumn column = none := by
  cases superColumn <;> rfl

/-- A row that fits has no record at a place of the other layout. -/
theorem recordAt_of_misplaced (fits : row.Fits isSuper) (misplaced : superColumn.isSome ≠ isSuper) :
    row.recordAt superColumn column = none := by
  cases superColumn with
  | none =>
    cases found : row.get? column with
    | none => simp [recordAt, found]
    | some slot =>
      cases slot with
      | record record => exact absurd (fits column _ found) misplaced
      | group records => simp [recordAt, found, Slot.record?]
  | some name =>
    cases found : row.get? name with
    | none => simp [recordAt, found]
    | some slot =>
      cases slot with
      | record record => simp [recordAt, found, Slot.group?]
      | group records => exact absurd (fits name _ found) misplaced

/-- To know how the records of a row change, it is enough to look at places of its layout. -/
theorem recordAt_of_placed {after : Row} {record : Option Record} {touched : Prop}
    [Decidable touched] (fits : row.Fits isSuper) (afterFits : after.Fits isSuper)
    (within : touched → superColumn.isSome = isSuper)
    (placed : superColumn.isSome = isSuper → after.recordAt superColumn column =
      if touched then record else row.recordAt superColumn column) :
    after.recordAt superColumn column =
      if touched then record else row.recordAt superColumn column := by
  by_cases layout : superColumn.isSome = isSuper
  · exact placed layout
  · rw [recordAt_of_misplaced afterFits layout, recordAt_of_misplaced fits layout,
      if_neg fun touched => layout (within touched)]

/-- A super column of a row that fits can be used in any way. -/
theorem group?_ok (fits : row.Fits true) (name : Bytes) (use : SuperColumnUse) :
    row.group? name use = .ok ((row.get? name).bind Slot.group?) := by
  unfold group?
  cases found : row.get? name with
  | none => rfl
  | some slot =>
    cases slot with
    | record record => exact absurd (fits name _ found) (by simp [Slot.isGroup])
    | group records => rfl

/-- Reading a column of a row that fits gives its record. -/
theorem record?_ok (fits : row.Fits isSuper) (formed : superColumn.isSome = isSuper) :
    row.record? superColumn column = .ok (row.recordAt superColumn column) := by
  cases superColumn with
  | none => rfl
  | some name =>
    subst formed
    rw [record?, group?_ok fits]
    rfl

/-- Putting a column binds its place and no other. -/
theorem put_ok (fits : row.Fits isSuper) (formed : superColumn.isSome = isSuper)
    (column : Bytes) (record : Record) :
    ∃ after : Row, row.put superColumn column record = .ok after ∧ after.Fits isSuper ∧
      ∀ name other, after.recordAt name other =
        if superColumn = name ∧ column = other then some record else row.recordAt name other := by
  cases superColumn with
  | none =>
    have standard : isSuper = false := formed.symm
    subst standard
    have put : Fits false (Table.put row column (.record record)) := fits_put fits rfl
    refine ⟨_, rfl, put, fun name other => ?_⟩
    apply recordAt_of_placed fits put (fun touched => touched.1 ▸ formed)
    intro layout
    obtain rfl := Option.not_isSome_iff_eq_none.1 (Bool.not_eq_true _ ▸ layout)
    by_cases same : column = other <;> simp [recordAt, same, Slot.record?]
  | some outer =>
    have super : isSuper = true := formed.symm
    subst super
    have put (records : Table Bytes Record) : Fits true (Table.put row outer (.group records)) :=
      fits_put fits rfl
    refine ⟨_, by rw [Row.put, group?_ok fits]; rfl, put _, fun name other => ?_⟩
    apply recordAt_of_placed fits (put _) (fun touched => touched.1 ▸ formed)
    intro layout
    obtain ⟨inner, rfl⟩ := Option.isSome_iff_exists.1 layout
    by_cases same : outer = inner
    · subst same
      cases found : (row.get? outer).bind Slot.group? <;> simp [recordAt, found, Slot.group?]
    · simp [recordAt, same]

/-- Removing a column frees its place and no other. -/
theorem remove_ok (fits : row.Fits isSuper) (formed : superColumn.isSome = isSuper)
    (column : Bytes) :
    ∃ after : Row, row.remove superColumn column = .ok after ∧ after.Fits isSuper ∧
      ∀ name other, after.recordAt name other =
        if superColumn = name ∧ column = other then none else row.recordAt name other := by
  cases superColumn with
  | none =>
    have standard : isSuper = false := formed.symm
    subst standard
    have erased : Fits false (Table.erase row column) := fits_erase fits
    refine ⟨_, rfl, erased, fun name other => ?_⟩
    apply recordAt_of_placed fits erased (fun touched => touched.1 ▸ formed)
    intro layout
    obtain rfl := Option.not_isSome_iff_eq_none.1 (Bool.not_eq_true _ ▸ layout)
    by_cases same : column = other <;> simp [recordAt, same]
  | some outer =>
    have super : isSuper = true := formed.symm
    subst super
    rw [Row.remove, group?_ok fits]
    cases found : (row.get? outer).bind Slot.group? with
    | none =>
      -- Where there is no super column, nothing is removed and nothing was bound.
      refine ⟨row, rfl, fits, fun name other => ?_⟩
      split
      · rename_i same
        rw [← same.1]
        simp [recordAt, found]
      · rfl
    | some records =>
      have put : Fits true (Table.put row outer (.group (records.erase column))) :=
        fits_put fits rfl
      refine ⟨_, rfl, put, fun name other => ?_⟩
      apply recordAt_of_placed fits put (fun touched => touched.1 ▸ formed)
      intro layout
      obtain ⟨inner, rfl⟩ := Option.isSome_iff_exists.1 layout
      by_cases same : outer = inner
      · subst same
        simp [recordAt, found, Slot.group?]
      · simp [recordAt, same]

/-- Erasing a super column frees all its places and no other. -/
theorem recordAt_erase (fits : row.Fits true) (outer : Bytes) (name : Option Bytes)
    (other : Bytes) :
    recordAt (Table.erase row outer) name other =
      if some outer = name then none else row.recordAt name other := by
  apply recordAt_of_placed fits (fits_erase fits) (fun touched => touched ▸ rfl)
  intro layout
  obtain ⟨inner, rfl⟩ := Option.isSome_iff_exists.1 layout
  by_cases same : outer = inner <;> simp [recordAt, same]

end Row

/-! ### All rows of a column family -/

namespace Store

variable {isSuper : Bool} {rows : Table Bytes Row} {location : Location}

/-- Whether all rows fit. -/
def RowsFit (isSuper : Bool) (rows : Table Bytes Row) : Prop :=
  ∀ key, (rowAt rows key).Fits isSuper

/-- The record of a column of a row, or of a super column of it. -/
def recordIn (rows : Table Bytes Row) (key : Bytes) (superColumn : Option Bytes)
    (column : Bytes) : Option Record :=
  (rowAt rows key).recordAt superColumn column

theorem rowAt_put (key other : Bytes) (row : Row) :
    rowAt (rows.put key row) other = if key = other then row else rowAt rows other := by
  rw [rowAt, Table.get?_put]
  split <;> rfl

theorem rowAt_erase (key other : Bytes) :
    rowAt (rows.erase key) other = if key = other then .empty else rowAt rows other := by
  rw [rowAt, Table.get?_erase]
  split <;> rfl

theorem rowsFit_empty : RowsFit isSuper .empty :=
  fun _ => Row.fits_empty

@[simp] theorem recordIn_empty (key : Bytes) (superColumn : Option Bytes) (column : Bytes) :
    recordIn .empty key superColumn column = none :=
  Row.recordAt_empty

theorem rowsFit_put {key : Bytes} {row : Row} (fit : RowsFit isSuper rows)
    (fits : row.Fits isSuper) : RowsFit isSuper (rows.put key row) := by
  intro other
  rw [rowAt_put]
  split
  · exact fits
  · exact fit other

theorem rowsFit_erase {key : Bytes} (fit : RowsFit isSuper rows) :
    RowsFit isSuper (rows.erase key) := by
  intro other
  rw [rowAt_erase]
  split
  · exact Row.fits_empty
  · exact fit other

/-- Whether a location is the place of a column, or is its row or its super column. -/
def Covers (location : Location) (key : Bytes) (superColumn : Option Bytes)
    (column : Bytes) : Prop :=
  location.key = key ∧ (location.superColumn = none ∨ location.superColumn = superColumn) ∧
    (location.column = none ∨ location.column = some column)

instance (location : Location) (key : Bytes) (superColumn : Option Bytes) (column : Bytes) :
    Decidable (Covers location key superColumn column) :=
  inferInstanceAs (Decidable (_ ∧ _ ∧ _))

theorem recordIn_put (key wanted : Bytes) (row : Row) (superColumn : Option Bytes)
    (column : Bytes) :
    recordIn (rows.put key row) wanted superColumn column =
      if key = wanted then row.recordAt superColumn column
      else recordIn rows wanted superColumn column := by
  rw [recordIn, rowAt_put]
  split <;> rfl

/-- Putting a column binds its place and no other. -/
theorem withRecord_ok (fit : RowsFit isSuper rows)
    (formed : location.superColumn.isSome = isSuper) (column : Bytes) (record : Record) :
    ∃ after, withRecord rows location column record = .ok after ∧ RowsFit isSuper after ∧
      ∀ key superColumn other, recordIn after key superColumn other =
        if location.key = key ∧ location.superColumn = superColumn ∧ column = other then some record
        else recordIn rows key superColumn other := by
  obtain ⟨row, put, fits, records⟩ := Row.put_ok (fit location.key) formed column record
  refine ⟨rows.put location.key row, by rw [withRecord, put]; rfl, rowsFit_put fit fits, ?_⟩
  intro key superColumn other
  rw [recordIn_put]
  by_cases same : location.key = key
  · rw [if_pos same, records, ← same]
    simp [recordIn]
  · simp [same]

/-- Where a counter stands that has a record, or none yet. -/
def totalOf : Option Record → Int
  | some (.counter total) => total
  | _ => 0

theorem totalAt_of_record? {column : Bytes} {found : Option Record}
    (read : (rowAt rows location.key).record? location.superColumn column = .ok found) :
    totalAt rows location column = .ok (totalOf found) := by
  rw [totalAt, read]
  cases found with
  | none => rfl
  | some record => cases record <;> rfl

theorem totalAt_ok (fit : RowsFit isSuper rows) (formed : location.superColumn.isSome = isSuper)
    (column : Bytes) :
    totalAt rows location column =
      .ok (totalOf (recordIn rows location.key location.superColumn column)) :=
  totalAt_of_record? (Row.record?_ok (fit location.key) formed)

/-- Removing frees the places that the location covers and no other. -/
theorem without_ok (fit : RowsFit isSuper rows)
    (outer : location.superColumn.isSome → isSuper = true)
    (inner : location.column.isSome → location.superColumn.isSome = isSuper) :
    ∃ after, without rows location = .ok after ∧ RowsFit isSuper after ∧
      ∀ key superColumn column, recordIn after key superColumn column =
        if Covers location key superColumn column then none
        else recordIn rows key superColumn column := by
  obtain ⟨family, key, superColumn, column⟩ := location
  unfold without
  cases found : rows.get? key with
  | none =>
    refine ⟨rows, rfl, fit, fun wanted name other => ?_⟩
    split
    · rename_i covered
      obtain ⟨rfl, -⟩ := covered
      simp [recordIn, rowAt, found]
    · rfl
  | some row =>
    have same : rowAt rows key = row := by rw [rowAt, found]; rfl
    have fits : row.Fits isSuper := same ▸ fit key
    cases column with
    | some column =>
      obtain ⟨after, removed, afterFits, records⟩ := Row.remove_ok fits (inner rfl) column
      refine ⟨rows.put key after, ?_, rowsFit_put fit afterFits, fun wanted name other => ?_⟩
      · cases superColumn <;> simp only [removed] <;> rfl
      · rw [recordIn_put, records]
        by_cases here : key = wanted
        · subst here
          by_cases exact : superColumn = name
          · simp [Covers, exact, recordIn, same]
          · -- A column alone covers no place in a super column, but there is no record either.
            have unbound : superColumn = none → row.recordAt name other = none := by
              intro alone
              refine Row.recordAt_of_misplaced fits ?_
              rw [← inner rfl, alone]
              cases name with
              | none => exact absurd alone exact
              | some inside => simp
            by_cases alone : superColumn = none
            · simp [exact, recordIn, same, unbound alone]
            · simp [Covers, exact, alone, recordIn, same]
        · simp [Covers, here]
    | none =>
      cases superColumn with
      | none =>
        refine ⟨rows.erase key, rfl, rowsFit_erase fit, fun wanted name other => ?_⟩
        rw [recordIn, rowAt_erase]
        by_cases here : key = wanted <;> simp [Covers, here, recordIn]
      | some name =>
        have super : isSuper = true := outer rfl
        subst super
        refine ⟨rows.put key (Table.erase row name), rfl, rowsFit_put fit (Row.fits_erase fits),
          fun wanted inside other => ?_⟩
        rw [recordIn_put, Row.recordAt_erase fits]
        by_cases here : key = wanted
        · subst here
          simp [Covers, recordIn, same]
        · simp [Covers, here]

end Store

end WideColumn
