import WideColumn.Proofs.Grammar.Naming
import WideColumn.Proofs.Session.Isolation

/-!
# Names of column families in any letter case

A command looks up its column family before it does anything with the name, and goes on with what it
found. So two names that a session finds the same column family under (`State.SameFamily`) make the
same command (`Action.execute_renamed`). Names that differ in letter case alone are such names, and
a statement that is refused with one of them is refused with the other.
-/

namespace WideColumn

/-- Whether the keyspace in use has the same column family under two names. -/
def State.SameFamily (state : State) (name other : String) : Prop :=
  ∀ keyspace, state.keyspace = .ok keyspace → keyspace.family other = keyspace.family name

/-- A column family is found in any letter case. -/
theorem State.sameFamily_of_defined {state : State} {keyspace : Keyspace} {name other : String}
    (inUse : state.keyspace = .ok keyspace) (defined : (keyspace.family? name).isSome = true)
    (same : Text.sameIgnoringCase name other = true) : state.SameFamily name other := by
  intro used known
  obtain rfl : keyspace = used := Except.ok.inj (inUse.symm.trans known)
  have found : keyspace.family? other = keyspace.family? name := by
    have lowered : Text.lowered name = Text.lowered other := beq_iff_eq.1 same
    unfold Keyspace.family? Text.sameIgnoringCase
    rw [lowered]
  obtain ⟨family, given⟩ := Option.isSome_iff_exists.1 defined
  rw [Keyspace.family, Keyspace.family, found, given]

theorem State.SameFamily.resolver {state : State} {name other : String}
    (same : state.SameFamily name other) : state.resolver other = state.resolver name :=
  bind_congr_of_ok fun keyspace used => by rw [same keyspace used]

namespace Action

variable {α β : Type} {state : State} {supply : Supply} {name other : String}

/-! ### Looking up a column family -/

theorem lift_bind_congr {result : Except Failure β} {next later : β → Action α}
    (same : ∀ value, result = .ok value → later value state supply = next value state supply) :
    (liftM result >>= later : Action α) state supply =
      (liftM result >>= next : Action α) state supply := by
  cases result with
  | error failure => rfl
  | ok value => exact same value rfl

/-- Only what is found in the state matters for what comes next. -/
theorem get_lift_bind_congr {view seen : State → Except Failure β} {next : State → β → Action α}
    (same : seen state = view state) :
    (do let state ← get; let found ← seen state; next state found : Action α) state supply =
      (do let state ← get; let found ← view state; next state found : Action α) state supply := by
  show (liftM (seen state) >>= next state : Action α) state supply =
    (liftM (view state) >>= next state : Action α) state supply
  rw [same]

theorem family_bind_congr (same : state.SameFamily name other)
    {next : Keyspace → ColumnFamily → Action α} :
    (do let keyspace ← (← get).keyspace
        let family ← keyspace.family other
        next keyspace family : Action α) state supply =
      (do let keyspace ← (← get).keyspace
          let family ← keyspace.family name
          next keyspace family : Action α) state supply := by
  show (liftM state.keyspace >>= fun keyspace =>
    liftM (keyspace.family other) >>= next keyspace : Action α) state supply = _
  refine lift_bind_congr fun keyspace used => ?_
  rw [same keyspace used]

/-! ### Commands -/

section Commands

variable (same : state.SameFamily name other)

include same

theorem execute_renamed (moment : Moment) {command : Command}
    (about : command.family? = some name) :
    execute moment (command.withFamily other) state supply =
      execute moment command state supply := by
  have resolver : state.resolver other = state.resolver name := same.resolver
  have inKeyspace {action renamed : Action Outcome}
      (alike : renamed state supply = action state supply) :
      (do
          (← get).requireConnected
          let _ ← (← get).requireKeyspace
          renamed : Action Outcome) state supply =
        (do
          (← get).requireConnected
          let _ ← (← get).requireKeyspace
          action : Action Outcome) state supply := by
    show (liftM state.requireConnected >>= fun _ => do
        let _ ← (← get).requireKeyspace
        renamed : Action Outcome) state supply = _
    refine lift_bind_congr fun _ _ => ?_
    show (liftM state.requireKeyspace >>= fun _ => renamed : Action Outcome) state supply = _
    exact lift_bind_congr fun _ _ => alike
  have named {family : String} (given : some family = some name) : family = name :=
    Option.some.inj given
  cases command with
  | updateFamily family attributes =>
    obtain rfl := named about
    exact inKeyspace (family_bind_congr same)
  | dropFamily family =>
    obtain rfl := named about
    exact inKeyspace (family_bind_congr same)
  | truncate family =>
    obtain rfl := named about
    exact inKeyspace (family_bind_congr same)
  | assume family kind validator =>
    obtain rfl := named about
    exact inKeyspace (family_bind_congr same)
  | dropIndex family column =>
    obtain rfl := named about
    exact inKeyspace (get_lift_bind_congr resolver)
  | set address value ttl =>
    obtain rfl := named about
    exact inKeyspace (get_lift_bind_congr resolver)
  | get address validator limit =>
    obtain rfl := named about
    exact inKeyspace (get_lift_bind_congr resolver)
  | getWhere family conditions limit =>
    obtain rfl := named about
    exact inKeyspace (get_lift_bind_congr resolver)
  | del address =>
    obtain rfl := named about
    exact inKeyspace (get_lift_bind_congr resolver)
  | incr address amount =>
    obtain rfl := named about
    exact inKeyspace (get_lift_bind_congr resolver)
  | decr address amount =>
    obtain rfl := named about
    exact inKeyspace (get_lift_bind_congr resolver)
  | count address =>
    obtain rfl := named about
    exact inKeyspace (get_lift_bind_congr resolver)
  | list family start stop limit =>
    obtain rfl := named about
    exact inKeyspace (get_lift_bind_congr resolver)
  | _ => cases about

end Commands

end Action

namespace State

variable {state : State} {moment : Moment} {newline : String} {supply : Supply}

/-- In every state, a statement about a column family of the keyspace in use has the same effect if
it names the column family in other letter case: the state afterwards is the same, and so is the
reply, with success or failure and the text that is printed. Only the text of a parse failure may
differ, with which a statement is refused for either name. -/
theorem answer_renamed {keyspace : Keyspace} {before name other after : String}
    (naming : Naming before name after) (word : Printing.IsWord other)
    (same : Text.sameIgnoringCase name other = true) (inUse : state.keyspace = .ok keyspace)
    (defined : (keyspace.family? name).isSome = true) :
    let first := state.answer moment newline (before ++ name ++ after) supply
    let second := state.answer moment newline (before ++ other ++ after) supply
    second.1.2 = first.1.2 ∧ second.2 = first.2 ∧
      (second.1.1 = first.1.1 ∨
        (∃ cause text, first.1.1 = .failure (.parse cause) text) ∧
          ∃ cause text, second.1.1 = .failure (.parse cause) text) := by
  intro first second
  have back : Text.sameIgnoringCase other name = true := by
    rw [Text.sameIgnoringCase, beq_iff_eq] at same ⊢
    exact same.symm
  cases parsed : Command.parse (before ++ name ++ after) with
  | ok command =>
    obtain ⟨about, renamed⟩ := naming.parse_renamed word same parsed
    have run : Action.execute moment (command.withFamily other) state supply =
        Action.execute moment command state supply :=
      Action.execute_renamed (sameFamily_of_defined inUse defined same) moment about
    have alike : second = first := by
      show state.answer _ _ _ _ = state.answer _ _ _ _
      rw [answer_of_parsed renamed, answer_of_parsed parsed, run]
    rw [alike]
    exact ⟨rfl, rfl, .inl rfl⟩
  | error refusal =>
    -- What is refused with one name is refused with the other.
    have refused (command : Command) : Command.parse (before ++ other ++ after) ≠ .ok command := by
      intro stated
      have meant := ((naming.renamed word).parse_renamed naming.word back stated).2
      cases parsed.symm.trans meant
    have stays (command : Command) : Command.parse (before ++ name ++ after) ≠ .ok command := by
      intro stated
      cases parsed.symm.trans stated
    obtain ⟨cause, failure⟩ := Command.parse_failure _ stays
    obtain ⟨otherCause, otherFailure⟩ := Command.parse_failure _ refused
    have one : first = _ := answer_of_refused failure
    have two : second = _ := answer_of_refused otherFailure
    rw [one, two]
    exact ⟨rfl, rfl, .inr ⟨⟨_, _, rfl⟩, _, _, rfl⟩⟩

/-- A column family that was created as `Hits` is counted on as `hits` and as `HITS`, with one reply
and one state afterwards. -/
theorem answer_renamed_incr :
    let family : ColumnFamily :=
      { keyspace := "k", name := "Hits", defaultValidationClass := some "CounterColumnType" }
    let keyspace : Keyspace := { name := "k", families := [family] }
    let state : State :=
      { session := { keyspace := some "k" }
        store := { connection := .opened (some "k"), keyspaces := [keyspace] } }
    ∃ first second : (Reply × State) × Supply,
      state.answer { now := 0 } "\n" ("incr  " ++ "hits" ++ "['00']['0b'] by 2;") ⟨id, id, 0, 0⟩ =
        first ∧
      state.answer { now := 0 } "\n" ("incr  " ++ "HITS" ++ "['00']['0b'] by 2;") ⟨id, id, 0, 0⟩ =
        second ∧
      first.1.1.isSuccess = true ∧ second.1 = first.1 := by
  intro family keyspace state
  have naming : Naming "incr  " "hits" "['00']['0b'] by 2;" := by
    refine ⟨⟨[.incr], by decide, by decide +kernel⟩, fun c last => ?_, by decide, by decide⟩
    obtain rfl : ' ' = c := Option.some.inj last
    rfl
  have same : Text.sameIgnoringCase "hits" "HITS" = true := by decide +kernel
  have inUse : state.keyspace = .ok keyspace := by
    refine toOption_eq_some.1 ?_
    decide +kernel
  have defined : (keyspace.family? "hits").isSome = true := by decide +kernel
  have succeeded : (state.answer { now := 0 } "\n" ("incr  " ++ "hits" ++ "['00']['0b'] by 2;")
      ⟨id, id, 0, 0⟩).1.1.isSuccess = true := by
    decide +kernel
  clear_value state keyspace
  obtain ⟨states, -, replies⟩ := @answer_renamed state { now := 0 } "\n" ⟨id, id, 0, 0⟩ keyspace
    "incr  " "hits" "HITS" "['00']['0b'] by 2;" naming (by decide) same inUse defined
  refine ⟨_, _, rfl, rfl, succeeded, Prod.ext (replies.resolve_right ?_) states⟩
  rintro ⟨⟨cause, text, failed⟩, -⟩
  rw [failed] at succeeded
  cases succeeded

end State

end WideColumn
