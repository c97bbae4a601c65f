import Mathlib.Data.List.Pairwise
import WideColumn.Order

/-!
# What stable sorting depends on

Elements that an order does not tell apart are tied. A stable sort keeps tied elements in the order
in which they came (`Order.filter_sort`), and nothing else of that order is left in its result: two
lists are sorted to the same list just if they agree on every class of tied elements
(`Order.sort_eq_sort`). So a sorted list is told by two conditions (`Order.StablySorted`), which
hold as well of what is picked from it.
-/

namespace WideColumn.Order

variable {α β κ : Type} {le : α → α → Bool}

/-- Whether an order does not tell two elements apart. -/
def tied (le : α → α → Bool) (first second : α) : Bool :=
  le first second && le second first

/-- Whether an order compares all elements, in a transitive way. -/
structure Ranks (le : α → α → Bool) : Prop where
  total : ∀ first second, le first second = true ∨ le second first = true
  trans : ∀ first second third, le first second = true → le second third = true →
    le first third = true

theorem tied_iff {first second : α} :
    tied le first second = true ↔ le first second = true ∧ le second first = true :=
  Bool.and_eq_true_iff

theorem Ranks.tied_self (ranks : Ranks le) (x : α) : tied le x x = true :=
  tied_iff.2 ⟨(ranks.total x x).elim id id, (ranks.total x x).elim id id⟩

theorem Ranks.tied_trans (ranks : Ranks le) {first second third : α}
    (one : tied le first second = true) (two : tied le second third = true) :
    tied le first third = true := by
  obtain ⟨up, down⟩ := tied_iff.1 one
  obtain ⟨further, back⟩ := tied_iff.1 two
  exact tied_iff.2 ⟨ranks.trans _ _ _ up further, ranks.trans _ _ _ back down⟩

theorem tied_symm {first second : α} (same : tied le first second = true) :
    tied le second first = true :=
  tied_iff.2 (tied_iff.1 same).symm

/-! ### A sorted list -/

theorem mem_insert {x y : α} {items : List α} : y ∈ insert le x items ↔ y = x ∨ y ∈ items := by
  rw [(insert_perm le x items).mem_iff, List.mem_cons]

theorem sorted_insert (ranks : Ranks le) (x : α) {items : List α}
    (sorted : items.Pairwise fun first second => le first second = true) :
    (insert le x items).Pairwise fun first second => le first second = true := by
  induction items with
  | nil => exact List.pairwise_singleton _ _
  | cons y rest ih =>
    obtain ⟨below, others⟩ := List.pairwise_cons.1 sorted
    unfold insert
    split
    · rename_i first
      refine List.pairwise_cons.2 ⟨fun z mem => ?_, sorted⟩
      rcases List.mem_cons.1 mem with rfl | later
      · exact first
      · exact ranks.trans _ _ _ first (below z later)
    · rename_i later
      refine List.pairwise_cons.2 ⟨fun z mem => ?_, ih others⟩
      rcases mem_insert.1 mem with rfl | inside
      · exact (ranks.total y z).resolve_right later
      · exact below z inside

theorem sorted_sort (ranks : Ranks le) (items : List α) :
    (sort le items).Pairwise fun first second => le first second = true := by
  induction items with
  | nil => exact .nil
  | cons x rest ih => exact sorted_insert ranks x ih

/-! ### Stability -/

theorem filter_insert (ranks : Ranks le) (x y : α) (items : List α) :
    (insert le x items).filter (tied le y) = (x :: items).filter (tied le y) := by
  induction items with
  | nil => rfl
  | cons z rest ih =>
    unfold insert
    split
    · rfl
    · rename_i below
      -- What is passed over is below, so it is not tied to what the new element is tied to.
      have apart (one : tied le y x = true) : ¬tied le y z = true := fun two =>
        below (tied_iff.1 (ranks.tied_trans (tied_symm one) two)).1
      rw [List.filter_cons, ih]
      simp only [List.filter_cons]
      by_cases one : tied le y x = true
      · rw [if_pos one, if_neg (apart one), if_neg (apart one), if_pos one]
      · rw [if_neg one, if_neg one]

/-- Sorting keeps tied elements in their order. -/
theorem filter_sort (ranks : Ranks le) (y : α) (items : List α) :
    (sort le items).filter (tied le y) = items.filter (tied le y) := by
  induction items with
  | nil => rfl
  | cons x rest ih =>
    show (insert le x (sort le rest)).filter _ = _
    rw [filter_insert ranks, List.filter_cons, List.filter_cons, ih]

/-- A sorted list is made up by its classes of tied elements. -/
theorem eq_of_filter (ranks : Ranks le) {items others : List α}
    (sorted : items.Pairwise fun first second => le first second = true)
    (otherSorted : others.Pairwise fun first second => le first second = true)
    (same : ∀ y, items.filter (tied le y) = others.filter (tied le y)) : items = others := by
  induction items generalizing others with
  | nil =>
    cases others with
    | nil => rfl
    | cons b rest =>
      have found := same b
      rw [List.filter_cons, if_pos (ranks.tied_self b)] at found
      cases found
  | cons a rest ih =>
    have own := same a
    rw [List.filter_cons, if_pos (ranks.tied_self a)] at own
    cases others with
    | nil => cases own
    | cons b others =>
      obtain ⟨below, restSorted⟩ := List.pairwise_cons.1 sorted
      obtain ⟨otherBelow, othersSorted⟩ := List.pairwise_cons.1 otherSorted
      -- Each of the two first elements is in the other list, so they are tied.
      have there : a ∈ b :: others := by
        have self : a ∈ (a :: rest).filter (tied le a) :=
          List.mem_filter.2 ⟨List.mem_cons_self, ranks.tied_self a⟩
        have mem : a ∈ (b :: others).filter (tied le a) := same a ▸ self
        exact (List.mem_filter.1 mem).1
      have back : b ∈ a :: rest := by
        have self : b ∈ (b :: others).filter (tied le b) :=
          List.mem_filter.2 ⟨List.mem_cons_self, ranks.tied_self b⟩
        have mem : b ∈ (a :: rest).filter (tied le b) := same b ▸ self
        exact (List.mem_filter.1 mem).1
      have up : le a b = true := by
        rcases List.mem_cons.1 back with rfl | later
        · exact (tied_iff.1 (ranks.tied_self _)).1
        · exact below b later
      have down : le b a = true := by
        rcases List.mem_cons.1 there with rfl | later
        · exact (tied_iff.1 (ranks.tied_self _)).1
        · exact otherBelow a later
      rw [List.filter_cons, if_pos (tied_iff.2 ⟨up, down⟩)] at own
      obtain ⟨rfl, -⟩ := List.cons.inj own
      refine congrArg (a :: ·) (ih restSorted othersSorted fun y => ?_)
      have classes := same y
      rw [List.filter_cons, List.filter_cons] at classes
      split at classes
      · exact (List.cons.inj classes).2
      · exact classes

/-- Two lists are sorted to the same list just if tied elements come in the same order in both. -/
theorem sort_eq_sort (ranks : Ranks le) {items others : List α} :
    sort le items = sort le others ↔
      ∀ y, items.filter (tied le y) = others.filter (tied le y) := by
  constructor
  · intro same y
    rw [← filter_sort ranks, same, filter_sort ranks]
  · intro same
    refine eq_of_filter ranks (sorted_sort ranks _) (sorted_sort ranks _) fun y => ?_
    rw [filter_sort ranks, filter_sort ranks, same]

/-- A sorted list stays as it is. -/
theorem sort_sort (ranks : Ranks le) (items : List α) : sort le (sort le items) = sort le items :=
  (sort_eq_sort ranks).2 fun y => filter_sort ranks y items

/-! ### Other elements in their place -/

theorem insert_map {view : α → β} {leView : β → β → Bool}
    (same : ∀ first second, leView (view first) (view second) = le first second) (x : α)
    (items : List α) : insert leView (view x) (items.map view) = (insert le x items).map view := by
  induction items with
  | nil => rfl
  | cons y rest ih =>
    rw [List.map_cons, insert, insert, same, ih]
    split <;> rfl

/-- Sorting sees nothing but how elements compare. -/
theorem sort_map {view : α → β} {leView : β → β → Bool}
    (same : ∀ first second, leView (view first) (view second) = le first second)
    (items : List α) : sort leView (items.map view) = (sort le items).map view := by
  induction items with
  | nil => rfl
  | cons x rest ih =>
    show insert leView (view x) (sort leView (rest.map view)) = (insert le x (sort le rest)).map view
    rw [ih, insert_map same]

/-! ### What a sorted list is -/

/-- Whether a list is another one in the order of a key: no key comes before a smaller one, and the
items at each place are the same, in the order in which they came. -/
structure StablySorted (le : κ → κ → Bool) (key : α → κ) (items sorted : List α) : Prop where
  ordered : sorted.Pairwise fun first second => le (key first) (key second) = true
  stable : ∀ place, sorted.filter (fun item => tied le place (key item)) =
    items.filter fun item => tied le place (key item)

/-- A total transitive order of keys is one of the items that have them. -/
theorem Ranks.on {le : κ → κ → Bool} (ranks : Ranks le) (key : α → κ) :
    Ranks fun first second => le (key first) (key second) where
  total _ _ := ranks.total _ _
  trans _ _ _ up further := ranks.trans _ _ _ up further

theorem stablySorted_sort {le : κ → κ → Bool} (ranks : Ranks le) (key : α → κ) (items : List α) :
    StablySorted le key items (sort (fun first second => le (key first) (key second)) items) where
  ordered := sorted_sort (ranks.on key) items
  stable place := by
    by_cases some : ∃ item ∈ items, tied le place (key item) = true
    · -- The items at a place are those that are tied to one of them.
      obtain ⟨item, -, there⟩ := some
      have same (other : α) : tied le place (key other) = tied le (key item) (key other) :=
        Bool.eq_iff_iff.2 ⟨ranks.tied_trans (tied_symm there), ranks.tied_trans there⟩
      simp only [same]
      exact filter_sort (ranks.on key) item items
    · have away (other : α) (mem : other ∈ items) : ¬tied le place (key other) = true :=
        fun there => some ⟨other, mem, there⟩
      rw [List.filter_eq_nil_iff.2 away]
      exact List.filter_eq_nil_iff.2 fun other mem => away other ((sort_perm _ items).subset mem)

/-- A list is sorted in one way only. -/
theorem StablySorted.eq {le : κ → κ → Bool} (ranks : Ranks le) {key : α → κ}
    {items sorted other : List α} (sorts : StablySorted le key items sorted)
    (sortsToo : StablySorted le key items other) : sorted = other :=
  eq_of_filter (ranks.on key) sorts.ordered sortsToo.ordered fun item =>
    (sorts.stable (key item)).trans (sortsToo.stable (key item)).symm

/-- What is picked from a sorted list, with its keys, is sorted. -/
theorem StablySorted.filterMap {le : κ → κ → Bool} {key : α → κ} {items sorted : List α}
    (sorts : StablySorted le key items sorted) {view : α → Option β} {named : β → κ}
    (same : ∀ item found, view item = some found → named found = key item) :
    StablySorted le named (items.filterMap view) (sorted.filterMap view) where
  ordered := by
    refine sorts.ordered.filterMap view fun first second up one seen other sight => ?_
    rw [same first one seen, same second other sight]
    exact up
  stable place := by
    -- A place can be looked for before or after picking.
    have swap (list : List α) :
        (list.filterMap view).filter (fun found => tied le place (named found)) =
          (list.filter fun item => tied le place (key item)).filterMap view := by
      induction list with
      | nil => rfl
      | cons first rest ih =>
        cases seen : view first with
        | none =>
          rw [List.filterMap_cons_none seen, ih, List.filter_cons]
          split
          · rw [List.filterMap_cons_none seen]
          · rfl
        | some found =>
          rw [List.filterMap_cons_some seen, List.filter_cons, List.filter_cons, ih,
            same first found seen]
          split
          · rw [List.filterMap_cons_some seen]
          · rfl
    rw [swap, swap, sorts.stable]

end WideColumn.Order
