import Mathlib.Data.List.Induction
import WideColumn.Table

/-!
# Tables and their entries

A table of distinct entries has just these entries, in their order, so a table is the table of its
own entries. Putting a value that is there changes nothing.
-/

namespace WideColumn.Table

variable {κ α : Type} [DecidableEq κ]

/-- A key has no value just when it does not occur. -/
theorem valueIn_eq_none {key : κ} {entries : List (κ × α)} :
    valueIn key entries = none ↔ key ∉ entries.map Prod.fst := by
  induction entries with
  | nil => simp [valueIn]
  | cons entry rest ih =>
    obtain ⟨other, value⟩ := entry
    by_cases same : other = key
    · simp [valueIn, same]
    · simp [valueIn, same, Ne.symm same, ih]

/-- With distinct keys, what is found for a key is what stands with it. -/
theorem valueIn_eq_some {key : κ} {value : α} {entries : List (κ × α)}
    (distinct : (entries.map Prod.fst).Nodup) :
    valueIn key entries = some value ↔ (key, value) ∈ entries := by
  induction entries with
  | nil => simp [valueIn]
  | cons entry rest ih =>
    obtain ⟨other, held⟩ := entry
    obtain ⟨new, others⟩ := List.nodup_cons.1 distinct
    by_cases same : other = key
    · subst same
      -- The key does not come again, so its value is the first one.
      have once : (other, value) ∉ rest := fun mem => new (List.mem_map.2 ⟨_, mem, rfl⟩)
      simp [valueIn, once, eq_comm]
    · simp [valueIn, same, Ne.symm same, ih others]

/-- With distinct keys, what is found for a key does not depend on the order of the entries. -/
theorem valueIn_of_perm {entries others : List (κ × α)} (perm : entries.Perm others)
    (distinct : (entries.map Prod.fst).Nodup) (key : κ) :
    valueIn key others = valueIn key entries := by
  apply Option.ext
  intro value
  rw [valueIn_eq_some distinct, valueIn_eq_some ((perm.map Prod.fst).nodup_iff.1 distinct),
    perm.mem_iff]

/-- A new key comes at the end. -/
theorem putIn_of_not_mem {key : κ} (value : α) {entries : List (κ × α)}
    (new : key ∉ entries.map Prod.fst) : putIn key value entries = entries ++ [(key, value)] := by
  induction entries with
  | nil => rfl
  | cons entry rest ih =>
    obtain ⟨other, old⟩ := entry
    rw [List.map_cons, List.mem_cons, not_or] at new
    rw [putIn, if_neg (Ne.symm new.1), ih new.2]
    rfl

/-- Of two values that are put one after the other, the later one counts. -/
theorem putIn_putIn (key : κ) (value later : α) (entries : List (κ × α)) :
    putIn key later (putIn key value entries) = putIn key later entries := by
  induction entries with
  | nil => simp [putIn]
  | cons entry rest ih =>
    by_cases same : entry.1 = key
    · simp [putIn, same]
    · simp [putIn, same, ih]

theorem putIn_self {key : κ} {value : α} {entries : List (κ × α)}
    (found : valueIn key entries = some value) : putIn key value entries = entries := by
  induction entries with
  | nil => cases found
  | cons entry rest ih =>
    obtain ⟨other, held⟩ := entry
    unfold valueIn at found
    unfold putIn
    split at found
    · rename_i same
      cases found
      rw [if_pos same, same]
    · rename_i differ
      rw [if_neg differ, ih found]

theorem put_put (table : Table κ α) (key : κ) (value later : α) :
    (table.put key value).put key later = table.put key later :=
  ext (putIn_putIn key value later table.entries)

/-- The value that is there may be put again. -/
theorem put_self {table : Table κ α} {key : κ} {value : α} (found : table.get? key = some value) :
    table.put key value = table :=
  ext (putIn_self found)

/-- A value that is put is one of the entries that are kept if its key is. -/
theorem filter_putIn (keeps : κ → Bool) (key : κ) (value : α) (entries : List (κ × α)) :
    (putIn key value entries).filter (fun entry => keeps entry.1) =
      if keeps key then putIn key value (entries.filter fun entry => keeps entry.1)
      else entries.filter fun entry => keeps entry.1 := by
  induction entries with
  | nil => simp [putIn, List.filter_cons]
  | cons entry rest ih =>
    obtain ⟨other, old⟩ := entry
    by_cases same : other = key
    · subst same
      by_cases kept : keeps other <;> simp [putIn, kept]
    · by_cases kept : keeps other <;> by_cases put : keeps key <;>
        simp [putIn, same, kept, put, ih]

theorem filter_put (keeps : κ → Bool) {key : κ} (rejected : keeps key = false) (table : Table κ α)
    (value : α) : (table.put key value).filter (fun entry => keeps entry.1) =
      table.filter fun entry => keeps entry.1 :=
  ext ((filter_putIn keeps key value table.entries).trans (if_neg (by simp [rejected])))

/-- Putting a value changes no entry of another key. -/
theorem erase_put (table : Table κ α) (key : κ) (value : α) :
    (table.put key value).erase key = table.erase key :=
  filter_put (fun other => other ≠ key) (by simp) table value

/-- A value that is put shows, unless it is there. -/
theorem get?_put_eq_iff {table : Table κ α} {key : κ} {value : α} :
    (∀ wanted, (table.put key value).get? wanted = table.get? wanted) ↔
      table.get? key = some value := by
  constructor
  · intro same
    rw [← same key, get?_put, if_pos rfl]
  · intro found wanted
    rw [put_self found]

theorem get?_eq_some {table : Table κ α} {key : κ} {value : α} :
    table.get? key = some value ↔ (key, value) ∈ table.entries :=
  valueIn_eq_some table.distinct

theorem get?_of_perm {table other : Table κ α} (perm : table.entries.Perm other.entries) (key : κ) :
    other.get? key = table.get? key :=
  valueIn_of_perm perm table.distinct key

/-- What is found among the entries that are kept was there, and is kept. -/
theorem get?_filter_eq_some {keeps : κ × α → Bool} {table : Table κ α} {key : κ} {value : α} :
    (table.filter keeps).get? key = some value ↔
      table.get? key = some value ∧ keeps (key, value) = true := by
  rw [get?_eq_some, get?_eq_some]
  exact List.mem_filter

/-- Entries that are kept by their keys are found under the keys that are kept. -/
theorem get?_filter_key (keeps : κ → Bool) (table : Table κ α) (key : κ) :
    (table.filter fun entry => keeps entry.1).get? key =
      if keeps key then table.get? key else none := by
  apply Option.ext
  intro value
  rw [get?_filter_eq_some]
  split <;> simp [*]

/-- Leaving out nothing leaves the table. -/
theorem filter_eq_self {keeps : κ × α → Bool} {table : Table κ α}
    (all : ∀ key value, table.get? key = some value → keeps (key, value) = true) :
    table.filter keeps = table :=
  ext (List.filter_eq_self.2 fun entry mem => all entry.1 entry.2 (get?_eq_some.2 mem))

/-- A key that is not there need not be taken out. -/
theorem erase_of_get?_eq_none {table : Table κ α} {key : κ} (absent : table.get? key = none) :
    table.erase key = table := by
  refine filter_eq_self fun other value found => decide_eq_true fun same => ?_
  obtain rfl : other = key := same
  rw [absent] at found
  cases found

theorem ofList_concat (entries : List (κ × α)) (key : κ) (value : α) :
    ofList (entries ++ [(key, value)]) = (ofList entries).put key value := by
  rw [ofList, List.foldl_append]
  rfl

/-- The table of distinct entries has these entries. -/
theorem entries_ofList {entries : List (κ × α)} (distinct : (entries.map Prod.fst).Nodup) :
    (ofList entries).entries = entries := by
  induction entries using List.reverseRecOn with
  | nil => rfl
  | append_singleton entries entry ih =>
    obtain ⟨key, value⟩ := entry
    rw [List.map_append, List.nodup_append] at distinct
    obtain ⟨before, -, apart⟩ := distinct
    have new : key ∉ entries.map Prod.fst := fun mem => apart key mem key (by simp) rfl
    rw [ofList_concat]
    show putIn key value (ofList entries).entries = _
    rw [ih before, putIn_of_not_mem value new]

/-- A table is the table of its entries. -/
theorem ofList_entries (table : Table κ α) : ofList table.entries = table :=
  ext (entries_ofList table.distinct)

/-- A key that no entry has is not in the table of the entries. -/
theorem get?_ofList_of_not_mem {entries : List (κ × α)} {key : κ}
    (distinct : (entries.map Prod.fst).Nodup) (new : key ∉ entries.map Prod.fst) :
    (ofList entries).get? key = none := by
  rw [get?, entries_ofList distinct]
  exact valueIn_eq_none.2 new

end WideColumn.Table
