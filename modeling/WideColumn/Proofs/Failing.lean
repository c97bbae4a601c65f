import WideColumn.Session.Action

/-!
# How a computation can fail

A computation made of steps fails as one of its steps does, and a later step is taken only after the
earlier ones succeeded. With a lemma for each kind of first step, what a computation can fail with is
found step by step; the rest of it may use what the first step gave.
-/

namespace WideColumn

variable {α β : Type} {allowed : Failure → Prop}

/-! ### Computations that may fail -/

/-- Whether a result is no failure, or one that is allowed. -/
def FailsOnly (allowed : Failure → Prop) (result : Except Failure α) : Prop :=
  ∀ failure, result = .error failure → allowed failure

@[simp] theorem failsOnly_ok (value : α) : FailsOnly allowed (.ok value) :=
  nofun

@[simp] theorem failsOnly_error {failure : Failure} :
    FailsOnly allowed (.error failure : Except Failure α) ↔ allowed failure :=
  ⟨fun only => only failure rfl, fun holds _ same => Except.error.inj same ▸ holds⟩

@[simp] theorem failsOnly_pure (value : α) : FailsOnly allowed (pure value) :=
  nofun

@[simp] theorem failsOnly_throw {failure : Failure} :
    FailsOnly allowed (throw failure : Except Failure α) ↔ allowed failure :=
  failsOnly_error

theorem FailsOnly.bind {first : Except Failure α} {next : α → Except Failure β}
    (head : FailsOnly allowed first)
    (rest : ∀ value, first = .ok value → FailsOnly allowed (next value)) :
    FailsOnly allowed (first >>= next) := by
  cases first with
  | error failure => exact failsOnly_error.2 (failsOnly_error.1 head)
  | ok value => exact rest value rfl

theorem failsOnly_ok_bind {value : α} {next : α → Except Failure β}
    (rest : FailsOnly allowed (next value)) :
    FailsOnly allowed ((.ok value : Except Failure α) >>= next) :=
  rest

theorem failsOnly_throw_bind {failure : Failure} (holds : allowed failure)
    (next : α → Except Failure β) : FailsOnly allowed (throw failure >>= next) :=
  failsOnly_error.2 holds

theorem failsOnly_of_exists {result : Except Failure α}
    (succeeds : ∃ value, result = .ok value) : FailsOnly allowed result := by
  obtain ⟨value, rfl⟩ := succeeds
  exact failsOnly_ok value

/-- A computation that can fail with nothing succeeds. -/
theorem FailsOnly.succeeds {result : Except Failure α}
    (never : FailsOnly (fun _ => False) result) : ∃ value, result = .ok value := by
  cases result with
  | error failure => exact (failsOnly_error.1 never).elim
  | ok value => exact ⟨value, rfl⟩

theorem FailsOnly.mono {wider : Failure → Prop} {result : Except Failure α}
    (only : FailsOnly allowed result) (among : ∀ failure, allowed failure → wider failure) :
    FailsOnly wider result :=
  fun failure failed => among failure (only failure failed)

theorem FailsOnly.map {first : Except Failure α} (change : α → β)
    (head : FailsOnly allowed first) : FailsOnly allowed (change <$> first) := by
  cases first with
  | error failure => exact failsOnly_error.2 (failsOnly_error.1 head)
  | ok value => exact failsOnly_ok _

theorem failsOnly_mapM {read : α → Except Failure β} {items : List α}
    (each : ∀ item ∈ items, FailsOnly allowed (read item)) :
    FailsOnly allowed (items.mapM read) := by
  induction items with
  | nil => exact failsOnly_pure _
  | cons item rest ih =>
    obtain ⟨first, others⟩ := List.forall_mem_cons.1 each
    rw [List.mapM_cons]
    exact first.bind fun value _ => (ih others).bind fun values _ => failsOnly_pure _

theorem failsOnly_foldlM {step : β → α → Except Failure β}
    (each : ∀ value item, FailsOnly allowed (step value item)) (items : List α) (start : β) :
    FailsOnly allowed (items.foldlM step start) := by
  induction items generalizing start with
  | nil => exact failsOnly_pure _
  | cons item rest ih =>
    rw [List.foldlM_cons]
    exact (each start item).bind fun value _ => ih value

/-! ### Calls -/

namespace Store.Call

variable {store : Store} {next : α → Call β}

theorem failsOnly_get_bind {next : Store → Call β} (rest : FailsOnly allowed (next store store).1) :
    FailsOnly allowed (((get : Call Store) >>= next) store).1 :=
  rest

theorem failsOnly_lift_bind {result : Except Failure α} (head : FailsOnly allowed result)
    (rest : ∀ value, result = .ok value → FailsOnly allowed (next value store).1) :
    FailsOnly allowed (((liftM result : Call α) >>= next) store).1 := by
  cases result with
  | error failure => exact failsOnly_error.2 (failsOnly_error.1 head)
  | ok value => exact rest value rfl

end Store.Call

/-! ### Draws -/

/-- Whether a computation fails as is allowed, whatever it draws. -/
def Draw.FailsOnly (allowed : Failure → Prop) (computation : Draw α) : Prop :=
  ∀ supply, WideColumn.FailsOnly allowed (computation supply).1

namespace Draw

section Bind

variable {first : Draw α} {next : α → Draw β} {supply left : Supply}

/-- What begins with a step that fails fails in the same way. -/
theorem fst_bind_of_error {failure : Failure} (failed : (first supply).1 = .error failure) :
    ((first >>= next) supply).1 = .error failure := by
  show (ExceptT.bindCont next (first supply).1 (first supply).2).1 = _
  rw [failed]
  rfl

theorem bind_of_ok {value : α} (ran : first supply = (.ok value, left)) :
    (first >>= next) supply = next value left := by
  show ExceptT.bindCont next (first supply).1 (first supply).2 = _
  rw [ran]
  rfl

end Bind

theorem failsOnly_lift {result : Except Failure α} (only : WideColumn.FailsOnly allowed result) :
    FailsOnly allowed (liftM result : Draw α) :=
  fun _ => only

theorem failsOnly_pure (value : α) : FailsOnly allowed (pure value : Draw α) :=
  fun _ => failsOnly_ok value

theorem failsOnly_throw {failure : Failure} (holds : allowed failure) :
    FailsOnly allowed (throw failure : Draw α) :=
  fun _ => failsOnly_error.2 holds

theorem failsOnly_throw_bind {failure : Failure} (holds : allowed failure) (next : α → Draw β) :
    FailsOnly allowed (throw failure >>= next) :=
  fun _ => failsOnly_error.2 holds

theorem FailsOnly.bind {first : Draw α} {next : α → Draw β} (head : FailsOnly allowed first)
    (rest : ∀ value, FailsOnly allowed (next value)) : FailsOnly allowed (first >>= next) := by
  intro supply
  have start := head supply
  cases ran : first supply with
  | mk result left =>
    rw [ran] at start
    cases result with
    | error failure =>
      rw [fst_bind_of_error (congrArg Prod.fst ran)]
      exact failsOnly_error.2 (failsOnly_error.1 start)
    | ok value =>
      rw [bind_of_ok ran]
      exact rest value left

theorem FailsOnly.map {first : Draw α} (change : α → β) (head : FailsOnly allowed first) :
    FailsOnly allowed (change <$> first) := by
  rw [map_eq_pure_bind]
  exact head.bind fun value => failsOnly_pure _

theorem failsOnly_mapM {read : α → Draw β} (each : ∀ item, FailsOnly allowed (read item))
    (items : List α) : FailsOnly allowed (items.mapM read) := by
  induction items with
  | nil => exact failsOnly_pure _
  | cons item rest ih =>
    rw [List.mapM_cons]
    exact (each item).bind fun value => ih.bind fun values => failsOnly_pure _

end Draw

/-! ### Actions -/

/-- Whether an action on a state fails as is allowed. -/
def Action.FailsOnly (allowed : Failure → Prop) (action : Action α) (state : State)
    (supply : Supply) : Prop :=
  WideColumn.FailsOnly allowed (action state supply).1.1

namespace Action

variable {state : State} {supply : Supply} {next : α → Action β}

theorem failsOnly_pure (value : β) : FailsOnly allowed (pure value : Action β) state supply :=
  failsOnly_ok value

theorem failsOnly_throw {failure : Failure} (holds : allowed failure) :
    FailsOnly allowed (throw failure : Action β) state supply :=
  failsOnly_error.2 holds

theorem failsOnly_throw_bind {failure : Failure} (holds : allowed failure) :
    FailsOnly allowed ((throw failure : Action α) >>= next) state supply :=
  failsOnly_error.2 holds

theorem failsOnly_lift {result : Except Failure β} (only : WideColumn.FailsOnly allowed result) :
    FailsOnly allowed (liftM result : Action β) state supply :=
  only

theorem failsOnly_get_bind {next : State → Action β}
    (rest : FailsOnly allowed (next state) state supply) :
    FailsOnly allowed ((get : Action State) >>= next) state supply :=
  rest

theorem failsOnly_lift_bind {result : Except Failure α} (head : WideColumn.FailsOnly allowed result)
    (rest : ∀ value, result = .ok value → FailsOnly allowed (next value) state supply) :
    FailsOnly allowed ((liftM result : Action α) >>= next) state supply := by
  cases result with
  | error failure => exact failsOnly_error.2 (failsOnly_error.1 head)
  | ok value => exact rest value rfl

/-- How a computation fails with what it draws from may be known. -/
theorem failsOnly_drawn_bind {computation : Draw α}
    (head : WideColumn.FailsOnly allowed (computation supply).1)
    (rest : ∀ value left, computation supply = (.ok value, left) →
      FailsOnly allowed (next value) state left) :
    FailsOnly allowed (draw computation >>= next) state supply := by
  have unfolded : (draw computation >>= next) state supply =
      ExceptT.bindCont next (computation supply).1 state (computation supply).2 := rfl
  rw [FailsOnly, unfolded]
  cases run : computation supply with
  | mk result left =>
    rw [run] at head
    cases result with
    | error failure => exact failsOnly_error.2 (failsOnly_error.1 head)
    | ok value => exact rest value left run

theorem failsOnly_draw_bind {computation : Draw α} (head : computation.FailsOnly allowed)
    (rest : ∀ value left, computation supply = (.ok value, left) →
      FailsOnly allowed (next value) state left) :
    FailsOnly allowed (draw computation >>= next) state supply :=
  failsOnly_drawn_bind (head supply) rest

theorem failsOnly_call_bind {stored : Store.Call α}
    (head : WideColumn.FailsOnly allowed (stored state.store).1)
    (rest : ∀ value store, stored state.store = (.ok value, store) →
      FailsOnly allowed (next value) { state with store } supply) :
    FailsOnly allowed (call stored >>= next) state supply := by
  have unfolded : (call stored >>= next) state supply =
      ExceptT.bindCont next (stored state.store).1 { state with store := (stored state.store).2 }
        supply := rfl
  rw [FailsOnly, unfolded]
  cases run : stored state.store with
  | mk result store =>
    rw [run] at head
    cases result with
    | error failure => exact failsOnly_error.2 (failsOnly_error.1 head)
    | ok value => exact rest value store run

end Action

end WideColumn
