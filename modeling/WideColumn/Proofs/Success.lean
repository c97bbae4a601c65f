import Mathlib.Data.List.Forall2
import WideColumn.Session.Action

/-!
# What a computation needs to succeed

A computation made of steps succeeds just if each of its steps does, the later ones where the
earlier ones left off. With a lemma for each kind of first step, a computation that succeeded is
taken apart into what its steps gave, and one that is to succeed is put together in the same way.
-/

namespace WideColumn

variable {ε α β : Type}

/-! ### Computations that may fail -/

theorem bind_eq_ok {first : Except ε α} {next : α → Except ε β} {value : β} :
    (first >>= next) = .ok value ↔ ∃ found, first = .ok found ∧ next found = .ok value := by
  cases first <;> simp [bind, Except.bind]

theorem map_eq_ok {first : Except ε α} {change : α → β} {value : β} :
    change <$> first = .ok value ↔ ∃ found, first = .ok found ∧ change found = value := by
  cases first <;> simp [Functor.map, Except.map]

theorem toOption_eq_some {result : Except ε α} {value : α} :
    result.toOption = some value ↔ result = .ok value := by
  cases result <;> simp [Except.toOption]

/-- A computation may be replaced by one that goes on in the same way after every success. -/
theorem bind_congr_of_ok {first : Except ε α} {next later : α → Except ε β}
    (agree : ∀ value, first = .ok value → next value = later value) :
    (first >>= next) = (first >>= later) := by
  cases first with
  | error failure => rfl
  | ok value => exact agree value rfl

/-! ### Lists that are read item by item -/

section Lists

variable {items : List α} {values : List β}

/-- What is read from the items of a list is read item by item. -/
theorem forall₂_of_mapM_eq_ok {read : α → Except ε β} (run : items.mapM read = .ok values) :
    List.Forall₂ (fun item value => read item = .ok value) items values := by
  induction items generalizing values with
  | nil =>
    cases run
    exact .nil
  | cons item rest ih =>
    rw [List.mapM_cons] at run
    obtain ⟨value, first, run⟩ := bind_eq_ok.1 run
    obtain ⟨others, later, same⟩ := bind_eq_ok.1 run
    cases same
    exact .cons first (ih later)

section Related

variable {γ : Type} {related : α → β → Prop} (pairs : List.Forall₂ related items values)

include pairs

theorem forall_mem_iff_of_forall₂ {first : α → Prop} {second : β → Prop}
    (each : ∀ item value, related item value → (first item ↔ second value)) :
    (∀ item ∈ items, first item) ↔ ∀ value ∈ values, second value := by
  induction pairs with
  | nil => simp
  | cons one _ ih => rw [List.forall_mem_cons, List.forall_mem_cons, each _ _ one, ih]

theorem map_eq_map_of_forall₂ {first : α → γ} {second : β → γ}
    (each : ∀ item value, related item value → first item = second value) :
    items.map first = values.map second := by
  induction pairs with
  | nil => rfl
  | cons one _ ih => rw [List.map_cons, List.map_cons, each _ _ one, ih]

end Related

/-- Each of the values that are read from a list is read from one of its items. -/
theorem exists_of_mapM_eq_ok {read : α → Except ε β} (run : items.mapM read = .ok values) :
    ∀ value ∈ values, ∃ item ∈ items, read item = .ok value :=
  have pairs := (List.forall₂_and_left _ _).2 ⟨fun _ mem => mem, forall₂_of_mapM_eq_ok run⟩
  (forall_mem_iff_of_forall₂ pairs fun item _ pair => iff_of_true trivial ⟨item, pair⟩).1
    fun _ _ => trivial

end Lists

/-! ### Calls and draws -/

namespace Stateful

variable {σ : Type} {first : ExceptT Failure (StateM σ) α} {result : Except Failure α}
  {next : α → ExceptT Failure (StateM σ) β} {before after : σ} {value : β}

theorem bind_eq_ok : (first >>= next) before = (.ok value, after) ↔
    ∃ found between, first before = (.ok found, between) ∧ next found between = (.ok value, after) := by
  have unfolded : (first >>= next) before =
      ExceptT.bindCont next (first before).1 (first before).2 := rfl
  rw [unfolded]
  obtain ⟨result, between⟩ := first before
  cases result with
  | error failure =>
    constructor
    · intro run
      cases run
    · rintro ⟨found, other, run, -⟩
      cases run
  | ok found =>
    constructor
    · exact fun run => ⟨found, between, rfl, run⟩
    · rintro ⟨_, _, same, run⟩
      cases same
      exact run

theorem lift_bind_eq_ok :
    ((liftM result : ExceptT Failure (StateM σ) α) >>= next) before = (.ok value, after) ↔
      ∃ found, result = .ok found ∧ next found before = (.ok value, after) := by
  cases result with
  | error failure =>
    constructor
    · intro run
      cases run
    · rintro ⟨found, failed, -⟩
      cases failed
  | ok found =>
    constructor
    · exact fun run => ⟨found, rfl, run⟩
    · rintro ⟨_, same, run⟩
      cases same
      exact run

theorem get_bind_eq_ok {next : σ → ExceptT Failure (StateM σ) β} :
    ((get : ExceptT Failure (StateM σ) σ) >>= next) before = (.ok value, after) ↔
      next before before = (.ok value, after) :=
  Iff.rfl

end Stateful

/-! ### Actions -/

namespace Action

variable {action : Action α} {result : Except Failure α} {computation : Draw α}
  {stored : Store.Call α} {next : α → Action β} {value : β} {state after : State}
  {supply left : Supply}

theorem bind_eq_ok : (action >>= next) state supply = ((.ok value, after), left) ↔
    ∃ found between drawn, action state supply = ((.ok found, between), drawn) ∧
      next found between drawn = ((.ok value, after), left) := by
  have unfolded : (action >>= next) state supply =
      ExceptT.bindCont next (action state supply).1.1 (action state supply).1.2
        (action state supply).2 := rfl
  rw [unfolded]
  obtain ⟨⟨result, between⟩, drawn⟩ := action state supply
  cases result with
  | error failure =>
    constructor
    · intro run
      cases run
    · rintro ⟨found, other, drawn, run, -⟩
      cases run
  | ok found =>
    constructor
    · exact fun run => ⟨found, between, drawn, rfl, run⟩
    · rintro ⟨_, _, _, same, run⟩
      cases same
      exact run

theorem lift_bind_eq_ok :
    ((liftM result : Action α) >>= next) state supply = ((.ok value, after), left) ↔
      ∃ found, result = .ok found ∧ next found state supply = ((.ok value, after), left) := by
  cases result with
  | error failure =>
    constructor
    · intro run
      cases run
    · rintro ⟨found, failed, -⟩
      cases failed
  | ok found =>
    constructor
    · exact fun run => ⟨found, rfl, run⟩
    · rintro ⟨_, same, run⟩
      cases same
      exact run

theorem lift_bind_of_ok {found : α} (given : result = .ok found) (next : α → Action β) :
    ((liftM result : Action α) >>= next) state supply = next found state supply := by
  rw [given]
  rfl

theorem lift_bind_pure (view : α → β) :
    ((liftM result : Action α) >>= fun found => pure (view found)) state supply =
      ((view <$> result, state), supply) := by
  cases result <;> rfl

theorem get_bind_apply (next : State → Action β) :
    ((get : Action State) >>= next) state supply = next state state supply :=
  rfl

theorem get_bind_eq_ok {next : State → Action β} :
    ((get : Action State) >>= next) state supply = ((.ok value, after), left) ↔
      next state state supply = ((.ok value, after), left) :=
  Iff.rfl

theorem draw_bind_eq_ok :
    (draw computation >>= next) state supply = ((.ok value, after), left) ↔
      ∃ found drawn, computation supply = (.ok found, drawn) ∧
        next found state drawn = ((.ok value, after), left) := by
  have unfolded : draw computation state supply =
      (((computation supply).1, state), (computation supply).2) := rfl
  rw [bind_eq_ok, unfolded]
  obtain ⟨result, drawn⟩ := computation supply
  constructor
  · rintro ⟨found, _, _, run, later⟩
    cases run
    exact ⟨found, drawn, rfl, later⟩
  · rintro ⟨found, _, run, later⟩
    cases run
    exact ⟨found, state, drawn, rfl, later⟩

theorem draw_bind_of_ok {found : α} (given : computation supply = (.ok found, left))
    (next : α → Action β) : (draw computation >>= next) state supply = next found state left := by
  have drawn : draw computation state supply = ((.ok found, state), left) := by
    rw [draw, given]
  have unfolded : (draw computation >>= next) state supply =
      ExceptT.bindCont next (draw computation state supply).1.1 (draw computation state supply).1.2
        (draw computation state supply).2 := rfl
  rw [unfolded, drawn]
  rfl

theorem call_bind_eq_ok :
    (call stored >>= next) state supply = ((.ok value, after), left) ↔
      ∃ found store, stored state.store = (.ok found, store) ∧
        next found { state with store } supply = ((.ok value, after), left) := by
  have unfolded : call stored state supply =
      (((stored state.store).1, { state with store := (stored state.store).2 }), supply) := rfl
  rw [bind_eq_ok, unfolded]
  obtain ⟨result, store⟩ := stored state.store
  constructor
  · rintro ⟨found, _, _, run, later⟩
    cases run
    exact ⟨found, store, rfl, later⟩
  · rintro ⟨found, _, run, later⟩
    cases run
    exact ⟨found, _, supply, rfl, later⟩

end Action

end WideColumn
