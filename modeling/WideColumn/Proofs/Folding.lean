import WideColumn.Proofs.Success
import WideColumn.Proofs.Tables

/-!
# Steps in a row

Entries that are applied one after the other may fail at any of them. Where each entry is accepted
or refused for itself, the order does not decide whether all are accepted (`isOk_foldlM_of_perm`);
and a part of the state that one key sets and no other touches is in the end what the entry of that
key says, or what it was if there is none (`part_of_foldlM`), whatever the order (`part_of_perm`).
-/

namespace WideColumn

variable {ε α β γ κ : Type}

/-- A reflexive and transitive relation that holds across each step of a fold holds between its
first state and its last. -/
theorem foldlM_relates (related : α → α → Prop)
    (refl : ∀ state, related state state)
    (trans : ∀ {first between last}, related first between → related between last →
      related first last)
    {step : α → β → Except ε α} {items : List β}
    (each : ∀ state, ∀ item ∈ items, ∀ after, step state item = .ok after → related state after)
    {first last : α} (run : items.foldlM step first = .ok last) :
    related first last := by
  induction items generalizing first with
  | nil =>
    cases run
    exact refl _
  | cons item rest ih =>
    rw [List.foldlM_cons] at run
    obtain ⟨between, stepped, run⟩ := bind_eq_ok.1 run
    have later : related between last :=
      ih (fun state other mem => each state other (List.mem_cons_of_mem item mem)) run
    exact trans (each _ item List.mem_cons_self _ stepped) later

/-- Along a fold an invariant holds throughout just if each step is of the kind that keeps it. -/
theorem foldl_keeps_iff (step : α → β → α) (invariant : α → Prop) (keeping : α → β → Prop)
    {first : α} (start : invariant first) {items : List β}
    (each : ∀ (early : List β) (item : β), invariant (early.foldl step first) →
      (invariant (step (early.foldl step first) item) ↔ keeping (early.foldl step first) item)) :
    (∀ early, early <+: items → invariant (early.foldl step first)) ↔
      ∀ early item, early ++ [item] <+: items → keeping (early.foldl step first) item := by
  constructor
  · intro holds early item within
    have before := holds early ((List.prefix_append early [item]).trans within)
    have after := holds (early ++ [item]) within
    rw [List.foldl_append] at after
    exact (each early item before).1 after
  · intro keeps early
    induction early using List.reverseRecOn with
    | nil => exact fun _ => start
    | append_singleton early item ih =>
      intro within
      have before := ih ((List.prefix_append early [item]).trans within)
      rw [List.foldl_append]
      exact (each early item before).2 (keeps early item within)

/-! ### Whether all entries are accepted -/

section Uniform

variable {step : β → α → Except ε β}
  (uniform : ∀ item state other, (step state item).isOk = (step other item).isOk)

include uniform

/-- Steps that succeed or fail wherever they are taken all succeed just if each of them does. -/
theorem isOk_foldlM (items : List α) (first : β) :
    (items.foldlM step first).isOk = items.all fun item => (step first item).isOk := by
  induction items generalizing first with
  | nil => rfl
  | cons item rest ih =>
    rw [List.foldlM_cons, List.all_cons]
    cases stepped : step first item with
    | error failure => rfl
    | ok between =>
      have same : (rest.all fun later => (step between later).isOk) =
          rest.all fun later => (step first later).isOk :=
        List.all_congr rfl fun later => uniform later between first
      exact (ih between).trans (same.trans (Bool.true_and _).symm)

theorem isOk_foldlM_of_perm {items others : List α} (perm : items.Perm others) (first : β) :
    (others.foldlM step first).isOk = (items.foldlM step first).isOk := by
  rw [isOk_foldlM uniform, isOk_foldlM uniform, perm.all_eq]

end Uniform

/-! ### What one key sets -/

/-- What the entry of one key alone sets is in the end as the entry says, or as before if there is no
such entry. -/
theorem part_of_foldlM [DecidableEq κ] {step : β → κ × α → Except ε β} {view : β → γ} {key : κ}
    {read : α → Except ε γ}
    (sets : ∀ {state value after}, step state (key, value) = .ok after →
      read value = .ok (view after))
    (keeps : ∀ {state other value after}, other ≠ key → step state (other, value) = .ok after →
      view after = view state)
    {entries : List (κ × α)} (distinct : (entries.map Prod.fst).Nodup) {first last : β}
    (run : entries.foldlM step first = .ok last) :
    (∀ value, Table.valueIn key entries = some value → read value = .ok (view last)) ∧
      (Table.valueIn key entries = none → view last = view first) := by
  induction entries generalizing first with
  | nil =>
    cases run
    refine ⟨fun value found => ?_, fun _ => rfl⟩
    cases found
  | cons entry rest ih =>
    obtain ⟨other, given⟩ := entry
    obtain ⟨new, others⟩ := List.nodup_cons.1 distinct
    rw [List.foldlM_cons] at run
    obtain ⟨between, stepped, run⟩ := bind_eq_ok.1 run
    obtain ⟨said, silent⟩ := ih others run
    rw [Table.valueIn]
    by_cases same : other = key
    · subst same
      -- The key does not come again, so nothing changes what was set.
      rw [if_pos rfl, silent (Table.valueIn_eq_none.2 new)]
      refine ⟨fun value found => Option.some.inj found ▸ sets stepped, fun missing => ?_⟩
      cases missing
    · rw [if_neg same, ← keeps same stepped]
      exact ⟨said, silent⟩

/-- Such a part comes out the same for every order of the entries. -/
theorem part_of_perm [DecidableEq κ] {step : β → κ × α → Except ε β} {view : β → γ} (key : κ)
    (read : α → Except ε γ)
    (sets : ∀ {state value after}, step state (key, value) = .ok after →
      read value = .ok (view after))
    (keeps : ∀ {state other value after}, other ≠ key → step state (other, value) = .ok after →
      view after = view state)
    {entries others : List (κ × α)} (perm : entries.Perm others)
    (distinct : (entries.map Prod.fst).Nodup) {first last again : β}
    (run : entries.foldlM step first = .ok last) (rerun : others.foldlM step first = .ok again) :
    view again = view last := by
  obtain ⟨said, silent⟩ := part_of_foldlM sets keeps distinct run
  obtain ⟨saidAgain, silentAgain⟩ :=
    part_of_foldlM sets keeps ((perm.map Prod.fst).nodup_iff.1 distinct) rerun
  have same := Table.valueIn_of_perm perm distinct key
  cases found : Table.valueIn key entries with
  | none => rw [silent found, silentAgain (same.trans found)]
  | some value =>
    exact Except.ok.inj ((saidAgain value (same.trans found)).symm.trans (said value found))

end WideColumn
