import WideColumn.Session.Action

/-!
# Two runs side by side

What a computation reads shows in what it cannot tell apart: from two states that agree on all that
it looks at, it gives the same result and leaves states that agree again. Two runs are alike if they
end so. The rules here take such a claim apart step by step; steps that only look at the state or
draw from the supply leave both states as they are.
-/

namespace WideColumn

variable {σ α β : Type}

/-- Whether two runs end alike: with values that are as good as the same, or with one failure, and
in related states. -/
inductive Alike (related : σ → σ → Prop) (same : α → α → Prop) :
    Except Failure α × σ → Except Failure α × σ → Prop where
  | ok {value other : α} {state second : σ} (values : same value other)
      (states : related state second) : Alike related same (.ok value, state) (.ok other, second)
  | error {failure : Failure} {state second : σ} (states : related state second) :
      Alike related same (.error failure, state) (.error failure, second)

namespace Store.Call

variable {related : Store → Store → Prop} {same : β → β → Prop} {store other : Store}

theorem alike_get_bind {next later : Store → Call β}
    (rest : Alike related same (next store store) (later other other)) :
    Alike related same (((get : Call Store) >>= next) store)
      (((get : Call Store) >>= later) other) :=
  rest

/-- A call goes on alike behind a check with the same result. -/
theorem alike_lift_bind {result again : Except Failure α} {next later : α → Call β}
    (equal : again = result) (stores : related store other)
    (rest : ∀ value, result = .ok value →
      Alike related same (next value store) (later value other)) :
    Alike related same (((liftM result : Call α) >>= next) store)
      (((liftM again : Call α) >>= later) other) := by
  subst equal
  cases again with
  | error failure => exact .error stores
  | ok value => exact rest value rfl

end Store.Call

namespace Action

/-- Whether two runs of actions end alike, having drawn the same. -/
def Alike (related : State → State → Prop) (same : α → α → Prop)
    (first second : (Except Failure α × State) × Supply) : Prop :=
  WideColumn.Alike related same first.1 second.1 ∧ first.2 = second.2

variable {related : State → State → Prop} {same : β → β → Prop} {state second : State}
  {supply : Supply}

theorem alike_get_bind {next later : State → Action β}
    (rest : Alike related same (next state state supply) (later second second supply)) :
    Alike related same (((get : Action State) >>= next) state supply)
      (((get : Action State) >>= later) second supply) :=
  rest

theorem alike_pure {value other : β} (values : same value other) (states : related state second) :
    Alike related same ((pure value : Action β) state supply)
      ((pure other : Action β) second supply) :=
  ⟨.ok values states, rfl⟩

theorem alike_throw {failure : Failure} (states : related state second) :
    Alike related same ((throw failure : Action β) state supply)
      ((throw failure : Action β) second supply) :=
  ⟨.error states, rfl⟩

theorem alike_throw_bind {failure : Failure} {next later : α → Action β}
    (states : related state second) :
    Alike related same (((throw failure : Action α) >>= next) state supply)
      (((throw failure : Action α) >>= later) second supply) :=
  ⟨.error states, rfl⟩

theorem alike_lift {result : Except Failure β} (reflexive : ∀ value, same value value)
    (states : related state second) :
    Alike related same ((liftM result : Action β) state supply)
      ((liftM result : Action β) second supply) := by
  cases result with
  | error failure => exact ⟨.error states, rfl⟩
  | ok value => exact ⟨.ok (reflexive value) states, rfl⟩

theorem alike_lift_bind {result again : Except Failure α} {next later : α → Action β}
    (equal : again = result) (states : related state second)
    (rest : ∀ value, result = .ok value →
      Alike related same (next value state supply) (later value second supply)) :
    Alike related same (((liftM result : Action α) >>= next) state supply)
      (((liftM again : Action α) >>= later) second supply) := by
  subst equal
  cases again with
  | error failure => exact ⟨.error states, rfl⟩
  | ok value => exact rest value rfl

/-- Actions that end alike do so behind the checks for a connection and a keyspace in use. -/
theorem alike_inKeyspace {action later : Action β}
    (connected : second.requireConnected = state.requireConnected)
    (inUse : second.requireKeyspace = state.requireKeyspace) (states : related state second)
    (rest : Alike related same (action state supply) (later second supply)) :
    Alike related same
      ((do
        (← get).requireConnected
        let _ ← (← get).requireKeyspace
        action : Action β) state supply)
      ((do
        (← get).requireConnected
        let _ ← (← get).requireKeyspace
        later : Action β) second supply) := by
  refine alike_get_bind ?_
  refine alike_lift_bind connected states fun _ _ => ?_
  refine alike_get_bind ?_
  exact alike_lift_bind inUse states fun _ _ => rest

theorem alike_draw_bind {computation : Draw α} {next later : α → Action β}
    (states : related state second)
    (rest : ∀ value left, Alike related same (next value state left) (later value second left)) :
    Alike related same ((draw computation >>= next) state supply)
      ((draw computation >>= later) second supply) := by
  have unfolded (state : State) (next : α → Action β) : (draw computation >>= next) state supply =
      ExceptT.bindCont next (computation supply).1 state (computation supply).2 := rfl
  rw [unfolded, unfolded]
  obtain ⟨result, left⟩ := computation supply
  cases result with
  | error failure => exact ⟨.error states, rfl⟩
  | ok value => exact rest value left

/-- Calls that end alike on two stores do so on states that have these stores. -/
theorem alike_call_bind {stored : Store.Call α} {linked : Store → Store → Prop}
    {equal : α → α → Prop} {next later : α → Action β}
    (called : WideColumn.Alike linked equal (stored state.store) (stored second.store))
    (states : ∀ store other, linked store other →
      related { state with store } { second with store := other })
    (rest : ∀ value other store after, equal value other → linked store after →
      Alike related same (next value { state with store } supply)
        (later other { second with store := after } supply)) :
    Alike related same ((call stored >>= next) state supply)
      ((call stored >>= later) second supply) := by
  have unfolded (state : State) (next : α → Action β) : (call stored >>= next) state supply =
      ExceptT.bindCont next (stored state.store).1 { state with store := (stored state.store).2 }
        supply := rfl
  rw [unfolded, unfolded]
  generalize stored state.store = first at called ⊢
  generalize stored second.store = again at called ⊢
  cases called with
  | ok values stores => exact rest _ _ _ _ values stores
  | error stores => exact ⟨.error (states _ _ stores), rfl⟩

end Action

end WideColumn
