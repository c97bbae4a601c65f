import Mathlib.Data.List.Forall2
import Mathlib.Data.List.Perm.Basic
import WideColumn.Proofs.Quoting
import WideColumn.Schema.Version

/-!
# The text of a schema says which schema it is

All that a definition holds is quoted in its text, and the names of the fields stand between what is
quoted, so a text belongs to one definition only, whatever it holds (`selfDelimiting_keyspaceText`).
The text of a schema sorts the texts of its keyspaces and quotes them again, so it tells which
keyspaces there are but not in what order (`Schema.text_eq_iff`).
-/

namespace WideColumn

open Text (Delimited SelfDelimiting)

/-! ### Sorting -/

namespace Order

variable {items others : List String}

theorem pairwise_insert {text : String} (sorted : items.Pairwise (· ≤ ·)) :
    (insert (fun first second => decide (first ≤ second)) text items).Pairwise (· ≤ ·) := by
  induction items with
  | nil => exact List.pairwise_singleton _ _
  | cons first rest ih =>
    obtain ⟨below, later⟩ := List.pairwise_cons.1 sorted
    unfold insert
    split
    · rename_i least
      have least : text ≤ first := of_decide_eq_true least
      refine List.pairwise_cons.2 ⟨fun other mem => ?_, sorted⟩
      rcases List.mem_cons.1 mem with rfl | after
      · exact least
      · exact String.le_trans least (below other after)
    · rename_i greater
      have greater : first ≤ text :=
        (String.le_total first text).resolve_right fun least => greater (decide_eq_true least)
      refine List.pairwise_cons.2 ⟨fun other mem => ?_, ih later⟩
      rcases List.mem_cons.1 ((insert_perm _ text rest).mem_iff.1 mem) with rfl | after
      · exact greater
      · exact below other after

theorem pairwise_sortStrings (items : List String) : (sortStrings items).Pairwise (· ≤ ·) := by
  induction items with
  | nil => exact .nil
  | cons text rest ih => exact pairwise_insert ih

/-- Sorting forgets the order and nothing else. -/
theorem sortStrings_eq_iff : sortStrings items = sortStrings others ↔ items.Perm others := by
  constructor
  · intro same
    have rearranged : (sortStrings items).Perm others := same ▸ sort_perm _ others
    exact (sort_perm _ items).symm.trans rearranged
  · intro perm
    have sorted : (sortStrings items).Perm (sortStrings others) :=
      (sort_perm _ items).trans (perm.trans (sort_perm _ others).symm)
    exact sorted.eq_of_pairwise (fun _ _ _ _ => String.le_antisymm)
      (pairwise_sortStrings items) (pairwise_sortStrings others)

end Order

namespace Schema

/-! ### Fields -/

theorem selfDelimiting_optional : SelfDelimiting optional := by
  have apart (text : String) (rest more : List Char) :
      "None".toList ++ rest ≠ (Text.quoted text).toList ++ more := by
    obtain ⟨mark, tail, begins, isQuote⟩ := Text.quoted_begins text
    intro same
    rw [begins] at same
    obtain rfl : 'N' = mark := (List.cons.inj same).1
    rcases isQuote with other | other <;> cases other
  intro first second rest more same
  cases first with
  | none =>
    cases second with
    | none => rfl
    | some text => exact absurd same (apart text rest more)
  | some text =>
    cases second with
    | none => exact absurd same.symm (apart text more rest)
    | some other => rw [Text.selfDelimiting_quoted text other rest more same]

theorem selfDelimiting_truth : SelfDelimiting truth := by
  intro first second rest more same
  cases first <;> cases second <;> first | rfl | cases same

/-- Whether two fields have one name and values that can be told apart. -/
def SameField (first second : String × String) : Prop :=
  first.1 = second.1 ∧ Delimited first.2 second.2

/-- A field as it stands in a record. -/
def fieldText (field : String × String) : String :=
  field.1 ++ "=" ++ field.2

theorem SameField.delimited {first second : String × String} (same : SameField first second) :
    Delimited (fieldText first) (fieldText second) := by
  rw [fieldText, fieldText, same.1]
  exact (Delimited.refl _).append same.2

theorem SameField.inj {first second : String × String} (same : SameField first second)
    (texts : fieldText first = fieldText second) : first = second := by
  rw [fieldText, fieldText, same.1] at texts
  exact Prod.ext same.1 (String.append_right_inj _ |>.1 texts)

theorem aligned_fields {fields others : List (String × String)}
    (each : List.Forall₂ SameField fields others) :
    Text.Aligned (fields.map fieldText) (others.map fieldText) := by
  induction each with
  | nil => exact nofun
  | cons first later ih => exact List.forall_mem_cons.2 ⟨first.delimited, ih⟩

theorem fields_eq {fields others : List (String × String)}
    (each : List.Forall₂ SameField fields others)
    (texts : fields.map fieldText = others.map fieldText) : fields = others := by
  induction each with
  | nil => rfl
  | cons first later ih =>
    obtain ⟨same, rest⟩ := List.cons.inj texts
    rw [first.inj same, ih rest]

/-- The text of a record gives back its fields, if each value can be told from what comes behind
it. -/
theorem record_inj {type : String} {fields others : List (String × String)}
    (each : List.Forall₂ SameField fields others) {rest more : List Char}
    (same : (record type fields).toList ++ rest = (record type others).toList ++ more) :
    fields = others := by
  have aligned := aligned_fields each
  refine fields_eq each ?_
  cases each with
  | nil => rfl
  | cons first later => exact (Text.enclosed_inj_of_cons rfl (by decide) aligned same).1

/-- A field whose value is written in one way. -/
theorem sameField {α : Type} {write : α → String} (self : SelfDelimiting write) (name : String)
    (first second : α) : SameField (name, write first) (name, write second) :=
  ⟨rfl, self.delimited first second⟩

/-! ### Definitions -/

theorem selfDelimiting_columnText : SelfDelimiting columnText := by
  intro first second rest more same
  have fields := record_inj (
    .cons (sameField Text.selfDelimiting_quotedBytes _ _ _) <|
    .cons (sameField Text.selfDelimiting_quoted _ _ _) <|
    .cons (sameField selfDelimiting_optional _ _ _) <|
    .cons (sameField selfDelimiting_optional _ _ _) .nil) same
  simp only [List.cons.injEq, Prod.mk.injEq, true_and, and_true] at fields
  obtain ⟨name, validation, indexType, indexName⟩ := fields
  obtain ⟨_, _, _, _⟩ := first
  obtain ⟨_, _, _, _⟩ := second
  cases Text.selfDelimiting_quotedBytes.injective name
  cases Text.selfDelimiting_quoted.injective validation
  cases selfDelimiting_optional.injective indexType
  cases selfDelimiting_optional.injective indexName
  rfl

/-- Items in square brackets. -/
def listed {α : Type} (write : α → String) (items : List α) : String :=
  Text.enclosed "[" "]" (items.map write)

/-- Records in square brackets. -/
theorem selfDelimiting_listed {α : Type} {write : α → String} (self : SelfDelimiting write)
    {type : String} {c : Char} {rest : List Char} (begins : type.toList = c :: rest) (apart : c ≠ ']')
    (isRecord : ∀ item, ∃ fields, write item = record type fields) :
    SelfDelimiting (listed write) := by
  refine Text.selfDelimiting_enclosed rfl (by decide) self fun item => ?_
  obtain ⟨fields, written⟩ := isRecord item
  rw [written, record, Text.enclosed, String.toList_append, String.toList_append,
    String.toList_append, begins]
  exact ⟨c, _, rfl, apart⟩

theorem selfDelimiting_familyText : SelfDelimiting familyText := by
  have columns : SelfDelimiting (listed columnText) :=
    selfDelimiting_listed selfDelimiting_columnText rfl (by decide) fun _ => ⟨_, rfl⟩
  intro first second rest more same
  have fields := record_inj (
    .cons (sameField Text.selfDelimiting_quoted _ _ _) <|
    .cons (sameField Text.selfDelimiting_quoted _ _ _) <|
    .cons (sameField Text.selfDelimiting_quoted _ _ _) <|
    .cons (sameField selfDelimiting_optional _ _ _) <|
    .cons (sameField selfDelimiting_optional _ _ _) <|
    .cons (sameField selfDelimiting_optional _ _ _) <|
    .cons (sameField selfDelimiting_optional _ _ _) <|
    .cons (sameField selfDelimiting_optional _ _ _) <|
    .cons (sameField columns _ _ _) <|
    .cons (sameField Text.selfDelimiting_quotedEntries _ _ _) .nil) same
  simp only [List.cons.injEq, Prod.mk.injEq, true_and, and_true] at fields
  obtain ⟨keyspace, name, type, comparator, subcomparator, keys, values, comment, metadata,
    options⟩ := fields
  obtain ⟨_, _, _, _, _, _, _, _, _, _⟩ := first
  obtain ⟨_, _, _, _, _, _, _, _, _, _⟩ := second
  cases Text.selfDelimiting_quoted.injective keyspace
  cases Text.selfDelimiting_quoted.injective name
  cases Text.selfDelimiting_quoted.injective type
  cases selfDelimiting_optional.injective comparator
  cases selfDelimiting_optional.injective subcomparator
  cases selfDelimiting_optional.injective keys
  cases selfDelimiting_optional.injective values
  cases selfDelimiting_optional.injective comment
  cases columns.injective metadata
  cases Table.ext (Text.selfDelimiting_quotedEntries.injective options)
  rfl

theorem selfDelimiting_keyspaceText : SelfDelimiting keyspaceText := by
  have families : SelfDelimiting (listed familyText) :=
    selfDelimiting_listed selfDelimiting_familyText rfl (by decide) fun _ => ⟨_, rfl⟩
  intro first second rest more same
  have fields := record_inj (
    .cons (sameField Text.selfDelimiting_quoted _ _ _) <|
    .cons (sameField Text.selfDelimiting_quoted _ _ _) <|
    .cons (sameField Text.selfDelimiting_quotedEntries _ _ _) <|
    .cons (sameField selfDelimiting_truth _ _ _) <|
    .cons (sameField families _ _ _) .nil) same
  simp only [List.cons.injEq, Prod.mk.injEq, true_and, and_true] at fields
  obtain ⟨name, strategy, options, durable, held⟩ := fields
  obtain ⟨_, _, _, _, _⟩ := first
  obtain ⟨_, _, _, _, _⟩ := second
  cases Text.selfDelimiting_quoted.injective name
  cases Text.selfDelimiting_quoted.injective strategy
  cases Table.ext (Text.selfDelimiting_quotedEntries.injective options)
  cases selfDelimiting_truth.injective durable
  cases families.injective held
  rfl

/-! ### Schemas -/

/-- Two schemas have one text if and only if they are the same keyspaces in some order. -/
theorem text_eq_iff {keyspaces others : List Keyspace} :
    text keyspaces = text others ↔ keyspaces.Perm others := by
  have texts : SelfDelimiting (listed Text.quoted) := by
    refine Text.selfDelimiting_enclosed rfl (by decide) Text.selfDelimiting_quoted fun text => ?_
    obtain ⟨mark, rest, begins, isQuote⟩ := Text.quoted_begins text
    refine ⟨mark, rest, begins, ?_⟩
    rcases isQuote with rfl | rfl <;> decide
  have lists : text keyspaces = text others ↔
      Order.sortStrings (keyspaces.map keyspaceText) = Order.sortStrings (others.map keyspaceText) :=
    texts.injective.eq_iff
  rw [lists, Order.sortStrings_eq_iff,
    List.map_perm_map_iff selfDelimiting_keyspaceText.injective]

/-- The text after a change of the schema tells how many changes there were: their number ends at
the comma. -/
theorem changes_eq_of_changedText {changes later : Nat} {keyspaces others : List Keyspace}
    (same : changedText changes keyspaces = changedText later others) : changes = later := by
  have digits (number : Nat) (rest : List Char) :
      ((toString number).toList ++ ',' :: rest).takeWhile Char.isDigit =
        Nat.toDigits 10 number := by
    have written : (toString number).toList = Nat.toDigits 10 number := by simp
    rw [written, List.takeWhile_append_of_pos (Numeral.allDigits_toDigits number),
      List.takeWhile_cons_of_neg (by decide), List.append_nil]
  have begins (number : Nat) (keyspaces : List Keyspace) : ∃ rest,
      (changedText number keyspaces).toList = '(' :: ((toString number).toList ++ ',' :: rest) := by
    rw [changedText, Text.toList_enclosed_cons]
    exact ⟨_, rfl⟩
  obtain ⟨rest, first⟩ := begins changes keyspaces
  obtain ⟨more, second⟩ := begins later others
  rw [same, second] at first
  have numbers := congrArg (List.takeWhile Char.isDigit) (List.cons.inj first).2
  rw [digits, digits] at numbers
  have read := congrArg Numeral.natural? numbers
  rw [Numeral.natural?_toDigits, Numeral.natural?_toDigits] at read
  exact (Int.natCast_inj.1 (Option.some.inj read)).symm

end Schema

end WideColumn
