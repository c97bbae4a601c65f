/-!
# Tables

A table is a finite map that keeps its keys in the order in which they first came: giving a key a
new value leaves it in its place, and a key that was taken out comes back at the end. No key occurs
twice.
-/

namespace WideColumn

/-- A finite map with its keys in order of arrival. -/
structure Table (κ α : Type) where
  entries : List (κ × α)
  distinct : (entries.map Prod.fst).Nodup
  deriving DecidableEq

namespace Table

variable {κ α : Type}

/-- The table without keys. -/
def empty : Table κ α :=
  ⟨[], List.nodup_nil⟩

instance : Inhabited (Table κ α) := ⟨empty⟩

/-- The keys in order of arrival. -/
def keys (table : Table κ α) : List κ :=
  table.entries.map Prod.fst

/-- Two tables with the same entries in the same order are the same. -/
theorem ext {first second : Table κ α} (h : first.entries = second.entries) : first = second := by
  cases first; cases second; cases h; rfl

variable [DecidableEq κ]

/-! ### Entries -/

/-- The value that a list of entries has for a key. -/
def valueIn (key : κ) : List (κ × α) → Option α
  | [] => none
  | (other, value) :: rest => if other = key then some value else valueIn key rest

/-- The entries with a new value for a key, at the end if the key is new. -/
def putIn (key : κ) (value : α) : List (κ × α) → List (κ × α)
  | [] => [(key, value)]
  | (other, old) :: rest =>
    if other = key then (key, value) :: rest else (other, old) :: putIn key value rest

/-- Putting a value changes the keys only by a new one at the end. -/
theorem keys_putIn (key : κ) (value : α) (entries : List (κ × α)) :
    (putIn key value entries).map Prod.fst =
      if key ∈ entries.map Prod.fst then entries.map Prod.fst
      else entries.map Prod.fst ++ [key] := by
  induction entries with
  | nil => rfl
  | cons entry rest ih =>
    obtain ⟨other, old⟩ := entry
    by_cases same : other = key
    · simp [putIn, same]
    · have differ : ¬key = other := fun h => same h.symm
      simp only [putIn, same, if_false, List.map_cons, List.mem_cons, differ, false_or, ih]
      split <;> simp

/-- The entry that was put is the one that is found. -/
theorem valueIn_putIn (key wanted : κ) (value : α) (entries : List (κ × α)) :
    valueIn wanted (putIn key value entries) =
      if key = wanted then some value else valueIn wanted entries := by
  induction entries with
  | nil => simp [putIn, valueIn]
  | cons entry rest ih =>
    obtain ⟨other, old⟩ := entry
    by_cases same : other = key
    · subst same
      by_cases h : other = wanted <;> simp [putIn, valueIn, h]
    · by_cases h : other = wanted
      · subst h
        simp [putIn, valueIn, same, Ne.symm same]
      · simp [putIn, valueIn, same, h, ih]

/-- Leaving out the entries of a key hides that key and no other. -/
theorem valueIn_filter (key wanted : κ) (entries : List (κ × α)) :
    valueIn wanted (entries.filter fun entry => entry.1 ≠ key) =
      if key = wanted then none else valueIn wanted entries := by
  induction entries with
  | nil => simp [valueIn]
  | cons entry rest ih =>
    obtain ⟨other, old⟩ := entry
    by_cases same : other = key
    · subst same
      by_cases h : other = wanted <;> simp_all [valueIn]
    · by_cases h : other = wanted
      · subst h
        simp [valueIn, same, Ne.symm same]
      · simp_all [valueIn]

/-! ### Operations -/

/-- The value of a key. -/
def get? (table : Table κ α) (key : κ) : Option α :=
  valueIn key table.entries

/-- The table with a new value for a key. -/
def put (table : Table κ α) (key : κ) (value : α) : Table κ α where
  entries := putIn key value table.entries
  distinct := by
    rw [keys_putIn]
    split
    · exact table.distinct
    · rename_i absent
      refine List.nodup_append.2 ⟨table.distinct, by simp, ?_⟩
      intro other present new isNew
      rw [List.mem_singleton.1 isNew]
      rintro rfl
      exact absent present

/-- The table without some of its entries. -/
def filter (keeps : κ × α → Bool) (table : Table κ α) : Table κ α where
  entries := table.entries.filter keeps
  distinct := table.distinct.sublist (List.filter_sublist.map Prod.fst)

/-- The table without a key. -/
def erase (table : Table κ α) (key : κ) : Table κ α :=
  table.filter fun entry => entry.1 ≠ key

/-- The table of a list of entries, in which a later value of a key counts. -/
def ofList (entries : List (κ × α)) : Table κ α :=
  entries.foldl (fun table (key, value) => table.put key value) empty

@[simp] theorem get?_empty (key : κ) : (empty : Table κ α).get? key = none := rfl

@[simp] theorem get?_put (table : Table κ α) (key wanted : κ) (value : α) :
    (table.put key value).get? wanted = if key = wanted then some value else table.get? wanted :=
  valueIn_putIn key wanted value table.entries

@[simp] theorem get?_erase (table : Table κ α) (key wanted : κ) :
    (table.erase key).get? wanted = if key = wanted then none else table.get? wanted :=
  valueIn_filter key wanted table.entries

/-- The keys after a value is put. -/
theorem keys_put (table : Table κ α) (key : κ) (value : α) :
    (table.put key value).keys =
      if key ∈ table.keys then table.keys else table.keys ++ [key] :=
  keys_putIn key value table.entries

end Table

end WideColumn
