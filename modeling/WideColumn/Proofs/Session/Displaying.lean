import WideColumn.Proofs.Session.Counting
import WideColumn.Proofs.Store.Showing

/-!
# A session displays what it wrote

A set resolves its plain literals by the validators that display the bytes later on, and what a
validator makes of a literal it can show. So as long as a session finds a column family and its own
assumptions for it unchanged, and all that is written there is written in this way, each record on
file can be shown (`State.legible_afterAll`). A statement that does not write is no danger whatever
it does: it only leaves or removes records. A read can then fail to show something for one reason
alone, which is a literal of its own.
-/

namespace WideColumn

open Failure (NotLiteral)

/-! ### Statements that write and statements that display -/

/-- Whether a command sets a column or counts on one, with plain literals only. -/
inductive Command.WritesPlainly : Command → Prop where
  | set (family key column value : String) (superColumn : Option String) (ttl : Option Int) :
      WritesPlainly (.set ⟨family, .plain key, plainColumns superColumn column⟩ (.plain value) ttl)
  | incr (family key column : String) (superColumn : Option String) (amount : Int) :
      WritesPlainly (.incr ⟨family, .plain key, plainColumns superColumn column⟩ amount)
  | decr (family key column : String) (superColumn : Option String) (amount : Int) :
      WritesPlainly (.decr ⟨family, .plain key, plainColumns superColumn column⟩ amount)

/-- The name of the column family that a command displays by the validators of the session: that of
a get that asks for no other validator, or of a list. -/
def Command.displays? : Command → Option String
  | get address none _ => some address.family
  | list family _ _ _ => some family
  | _ => none

/-- Encode the literals that a read gives itself, which are those of the path of a get and those of
the range of a list. -/
def Resolver.encodeAsked (resolver : Resolver) : Command → Draw Unit
  | .get address _ _ => do let _ ← Action.locate resolver address
  | .list _ start stop _ => do
    let _ ← start.mapM resolver.encodeKey
    let _ ← stop.mapM resolver.encodeKey
  | _ => return

/-- Whether a failure, if it is that of a literal or of stored bytes, comes from a literal that a
read gives itself. -/
def Resolver.OwnFailure (resolver : Resolver) (command : Command) (supply : Supply)
    (failure : Failure) : Prop :=
  ∀ cause, failure = .literal cause → (resolver.encodeAsked command supply).1 = .error failure

namespace State

/-- Whether a column family is defined as a resolver has it, and the session assumes for it what the
resolver has. -/
structure Resolves (state : State) (resolver : Resolver) : Prop where
  defined : ∃ keyspace ∈ state.store.keyspaces, resolver.family ∈ keyspace.families
  assumed : state.session.assumptionsFor resolver.family resolver.family.keyspace =
    resolver.assumptions

/-- Whether a statement writes to a column family: afterwards there is a record where there was none
or another one. -/
def Writes (state : State) (request : Request) (family : ColumnFamily) : Prop :=
  ∃ place record, place.family = family.name ∧
    (state.after request).store.records family.keyspace place = some record ∧
    state.store.records family.keyspace place ≠ some record

/-- Whether over a run the definition of a column family and the assumptions for it stay, and each
statement that writes to it is a set, an increment or a decrement with plain literals. -/
structure WritesPlainly (state : State) (resolver : Resolver) (requests : List Request) :
    Prop where
  steady : ∀ early, early <+: requests → (state.afterAll early).Resolves resolver
  plain : ∀ early request, early ++ [request] <+: requests →
    (state.afterAll early).Writes request resolver.family →
      ∃ command, Command.parse request.text = .ok command ∧ command.WritesPlainly

variable {state after : State} {resolver : Resolver} {place : Store.Place} {record : Record}
  {request : Request} {moment : Moment} {supply left : Supply} {other : String}

/-! ### What was encoded is shown -/

theorem exists_show_of_encode {choice : Choice} {text : String} {data : Bytes}
    (encoded : choice.validator.encode text supply = (.ok data, left)) :
    ∃ shown, choice.show data = .ok shown := by
  obtain ⟨shown, decoded⟩ := exists_decode_of_encode encoded
  refine ⟨shown, ?_⟩
  rw [Choice.show, decoded]

theorem exists_showKey {text : String} {data : Bytes}
    (encoded : resolver.encodeKey (.plain text) supply = (.ok data, left)) :
    ∃ shown, resolver.showKey data = .ok shown := by
  obtain ⟨validator, chosen, encoded⟩ := Stateful.lift_bind_eq_ok.1 encoded
  obtain ⟨choice, known, rfl⟩ := map_eq_ok.1 chosen
  obtain ⟨shown, shows⟩ := exists_show_of_encode encoded
  exact ⟨shown, bind_eq_ok.2 ⟨choice, known, shows⟩⟩

theorem exists_showSuperColumn {text : String} {data : Bytes}
    (encoded : resolver.encodeSuperColumn (.plain text) supply = (.ok data, left)) :
    ∃ shown, resolver.showSuperColumn data = .ok shown := by
  obtain ⟨names, known, encoded⟩ := Stateful.lift_bind_eq_ok.1 encoded
  obtain ⟨shown, decoded⟩ := exists_decode_of_encode encoded
  exact ⟨shown, bind_eq_ok.2 ⟨names, known, decoded⟩⟩

theorem exists_showValue {text : String} {data column : Bytes}
    (encoded : resolver.encodeValue (.plain text) column supply = (.ok data, left)) :
    ∃ shown, resolver.showValue data column none = .ok shown := by
  obtain ⟨validator, chosen, encoded⟩ := Stateful.lift_bind_eq_ok.1 encoded
  obtain ⟨choice, known, rfl⟩ := map_eq_ok.1 chosen
  dsimp only at encoded
  split at encoded
  · cases encoded
  · obtain ⟨shown, shows⟩ := exists_show_of_encode encoded
    exact ⟨shown, bind_eq_ok.2 ⟨choice, known, shows⟩⟩

/-- A record at a place that plain literals stand for can be shown if its value can. -/
theorem shows_of_locate {family key column : String} {superColumn : Option String}
    (located : Action.locate resolver ⟨family, .plain key, plainColumns superColumn column⟩ supply =
      (.ok place.location, left))
    (value : ∀ data timestamp ttl, record = .value data timestamp ttl →
      ∃ shown, resolver.showValue data place.column none = .ok shown) :
    resolver.Shows place record := by
  obtain ⟨⟨_, _, key⟩, outer, inner⟩ := encodes_of_locate located
  refine ⟨exists_showKey key, fun name given => ?_, ?_, value⟩
  · obtain ⟨_, _, _, encoded⟩ := outer name given
    exact exists_showSuperColumn encoded
  · obtain ⟨_, _, encoded⟩ := inner place.column rfl
    exact exists_showColumn_of_encode encoded

/-! ### What a session finds -/

/-- A column family that is defined is found in its keyspace by its name in any letter case. -/
theorem Resolves.resolver_eq (resolves : state.Resolves resolver) (coherent : Coherent state)
    (sound : state.store.Sound) (inUse : state.session.keyspace = some resolver.family.keyspace)
    (named : Text.sameIgnoringCase resolver.family.name other = true) :
    state.resolver other = .ok resolver := by
  obtain ⟨held, mem, inside⟩ := resolves.defined
  have belongs : resolver.family.keyspace = held.name := sound.filed.belong held mem _ inside
  have selected := coherent.selected.symm.trans inUse
  have connected : state.requireConnected = .ok () := by
    rw [requireConnected, Store.isConnected_of_selected selected, if_pos rfl]
  have required : state.requireKeyspace = .ok resolver.family.keyspace := by
    refine bind_eq_ok.2 ⟨(), connected, ?_⟩
    rw [inUse]
    rfl
  have described : state.store.describeKeyspace resolver.family.keyspace = .ok (some held) := by
    refine bind_eq_ok.2 ⟨(), ?_, ?_⟩
    · exact Store.requireConnected_eq_ok.2 (Store.isConnected_of_selected selected)
    · rw [belongs, sound.filed.distinct.find? mem rfl]
      rfl
  have keyspace : state.keyspace = .ok held := by
    refine bind_eq_ok.2 ⟨_, required, bind_eq_ok.2 ⟨_, described, ?_⟩⟩
    rfl
  have family : held.family other = .ok resolver.family := by
    unfold Keyspace.family
    cases found : held.family? other with
    | none => exact absurd named (List.find?_eq_none.1 found _ inside)
    | some family =>
      have given := List.find?_some found
      have same : Text.lowered family.name = Text.lowered resolver.family.name :=
        (beq_iff_eq.1 given).trans (beq_iff_eq.1 named).symm
      have distinct := (sound.defined held mem).distinct
      rw [List.inj_on_of_nodup_map distinct (List.mem_of_find?_eq_some found) inside same]
  refine bind_eq_ok.2 ⟨_, keyspace, bind_eq_ok.2 ⟨_, family, ?_⟩⟩
  rw [← belongs, resolves.assumed]
  rfl

/-- Where the keyspace in use has no column family of a name, there are no records. -/
theorem records_of_free (coherent : Coherent state) (sound : state.store.Sound)
    {keyspace : Keyspace} (inUse : state.keyspace = .ok keyspace)
    (free : keyspace.family? place.family = none) :
    state.store.records keyspace.name place = none := by
  by_contra filed
  obtain ⟨held, heldMem, heldName, other, inside, otherName⟩ := sound.defined_of_records filed
  have mem := (Store.of_currentKeyspace (currentKeyspace_of_keyspace coherent inUse)).2
  obtain rfl : held = keyspace := sound.filed.distinct.eq heldMem mem heldName
  refine absurd ?_ (List.find?_eq_none.1 free other inside)
  rw [otherName]
  exact beq_self_eq_true _

/-! ### What statements leave on file -/

section Step

variable (coherent : Coherent state) (sound : state.store.Sound)
  (resolves : state.Resolves resolver)

include coherent sound resolves

/-- A command that reaches a place in a column family resolves its address by the validators of that
column family, and to that place. -/
theorem located_of_reaches {address : Address} {found : Resolver} {location : Location}
    (resolved : state.resolver address.family = .ok found)
    (located : Action.locate found address supply = (.ok location, left))
    (here : place.family = resolver.family.name)
    (reached : state.session.keyspace = some resolver.family.keyspace ∧
      Text.sameIgnoringCase place.family address.family = true ∧
      state.locate? address supply = some place.location) :
    found = resolver ∧ location = place.location := by
  obtain ⟨inUse, named, known⟩ := reached
  have same := resolves.resolver_eq coherent sound inUse (here ▸ named)
  refine ⟨Except.ok.inj (resolved.symm.trans same), ?_⟩
  exact Option.some.inj ((locate?_eq_some resolved located).symm.trans known)

omit resolves in
/-- A call in the keyspace in use binds the places that it touches. -/
theorem records_of_touches (call : Store.Write) {keyspace : String} {store : Store} {done : Unit}
    (inUse : state.session.keyspace = some keyspace) (formed : call.WellFormed state.store)
    (called : call.perform state.store = (.ok done, store)) (touched : call.Touches place) :
    store.records keyspace place = call.binding (state.store.records keyspace place) := by
  have selected := coherent.selected.symm.trans inUse
  rw [(Store.records_of_perform sound selected formed called).2.1]
  exact if_pos touched

/-- What a set puts in a place can be shown. -/
theorem shows_of_set {family key column value : String} {superColumn : Option String}
    {ttl : Option Int} {outcome : Outcome} (here : place.family = resolver.family.name)
    (run : Action.setColumn moment ⟨family, .plain key, plainColumns superColumn column⟩
      (.plain value) ttl state supply = ((.ok outcome, after), left))
    (reached : state.session.keyspace = some resolver.family.keyspace ∧
      Text.sameIgnoringCase place.family family = true ∧
      state.locate? ⟨family, .plain key, plainColumns superColumn column⟩ supply =
        some place.location)
    (filed : after.store.records resolver.family.keyspace place = some record) :
    resolver.Shows place record := by
  obtain ⟨found, location, name, data, drawn, store, resolved, located, required, encoded, called,
    rfl, -⟩ := Action.setColumn_ok run
  obtain ⟨rfl, rfl⟩ := located_of_reaches coherent sound resolves resolved located here reached
  obtain rfl : place.column = name := Option.some.inj (Action.column_of_requireColumn required)
  have bound := records_of_touches coherent sound (.insert moment.now place.location data ttl)
    reached.1 (wellPlaced_of_locate coherent sound resolved located) called rfl
  obtain rfl : Record.value data moment.now ttl = record :=
    Option.some.inj (bound.symm.trans filed)
  refine shows_of_locate located fun other timestamp ttl same => ?_
  cases same
  exact exists_showValue encoded

/-- What an increment or a decrement puts in a place can be shown. -/
theorem shows_of_count {family key column : String} {superColumn : Option String}
    {delta : Int} {given outcome : Outcome} (here : place.family = resolver.family.name)
    (run : Action.addToCounter ⟨family, .plain key, plainColumns superColumn column⟩ delta given
      state supply = ((.ok outcome, after), left))
    (reached : state.session.keyspace = some resolver.family.keyspace ∧
      Text.sameIgnoringCase place.family family = true ∧
      state.locate? ⟨family, .plain key, plainColumns superColumn column⟩ supply =
        some place.location)
    (filed : after.store.records resolver.family.keyspace place = some record) :
    resolver.Shows place record := by
  obtain ⟨found, location, _, store, resolved, located, -, called, rfl, -⟩ :=
    Action.addToCounter_ok run
  obtain ⟨rfl, rfl⟩ := located_of_reaches coherent sound resolves resolved located here reached
  have bound := records_of_touches coherent sound (.add place.location delta) reached.1
    (wellPlaced_of_locate coherent sound resolved located) called rfl
  have counted := bound.symm.trans filed
  refine shows_of_locate located fun data timestamp ttl same => ?_
  cases same
  cases counted

/-- A command with plain literals that reaches a place leaves there what can be shown. -/
theorem shows_of_writesPlainly {command : Command} (plainly : command.WritesPlainly)
    {outcome : Outcome} (here : place.family = resolver.family.name)
    (run : Action.execute moment command state supply = ((.ok outcome, after), left))
    (reached : state.Reaches supply command resolver.family.keyspace place)
    (filed : after.store.records resolver.family.keyspace place = some record) :
    resolver.Shows place record := by
  cases plainly with
  | set family key column value superColumn ttl =>
    exact shows_of_set coherent sound resolves here (requireKeyspace_bind_ok run) reached filed
  | incr family key column superColumn amount =>
    exact shows_of_count coherent sound resolves here (requireKeyspace_bind_ok run) reached filed
  | decr family key column superColumn amount =>
    exact shows_of_count coherent sound resolves here (requireKeyspace_bind_ok run) reached filed

/-- A statement keeps the records of a column family such that they can be shown, if it writes there
with plain literals or not at all. -/
theorem legible_after (legible : state.store.Legible resolver)
    (plain : state.Writes request resolver.family →
      ∃ command, Command.parse request.text = .ok command ∧ command.WritesPlainly) :
    (state.after request).store.Legible resolver := by
  intro place record here filed
  by_cases old : state.store.records resolver.family.keyspace place = some record
  · exact legible place record here old
  · obtain ⟨command, parsed, plainly⟩ := plain ⟨place, record, here, filed, old⟩
    have noConnect : ∀ host port, command ≠ .connect host port := by
      rintro host port rfl
      cases plainly
    have succeeded : (state.reply request).isSuccess = true := by
      by_contra failed
      rw [after_of_failure parsed noConnect (Bool.not_eq_true _ ▸ failed)] at filed
      exact old filed
    have reached : state.Reaches request.supply command resolver.family.keyspace place := by
      by_contra beyond
      rw [(framed_after coherent sound parsed succeeded).kept _ place beyond] at filed
      exact old filed
    obtain ⟨outcome, after, left, run, same⟩ := execute_of_isSuccess parsed succeeded
    rw [State.after, same] at filed
    exact shows_of_writesPlainly coherent sound resolves plainly here run reached filed

end Step

/-! ### Runs -/

/-- In a run that writes to a column family with plain literals only, what was on file and can be
shown is joined by what can be shown. -/
theorem legible_afterAll (reachable : Reachable state) (legible : state.store.Legible resolver)
    {requests : List Request} (plainly : state.WritesPlainly resolver requests) :
    ∀ early, early <+: requests → (state.afterAll early).store.Legible resolver := by
  intro early
  induction early using List.reverseRecOn with
  | nil => exact fun _ => legible
  | append_singleton early request ih =>
    intro within
    have inside := (List.prefix_append early [request]).trans within
    have reached := reachable.afterAll early
    rw [afterAll_concat]
    exact legible_after reached.coherent reached.sound (plainly.steady early inside) (ih inside)
      (plainly.plain early request within)

/-- A column family that was just created is found, and has no records yet. -/
theorem exists_resolver_of_created (reachable : Reachable state) {name : String}
    {attributes : Attributes}
    (parsed : Command.parse request.text = .ok (.createFamily name attributes))
    (created : (state.reply request).isSuccess = true) :
    ∃ resolver, (state.after request).resolver name = .ok resolver ∧
      (state.after request).store.Legible resolver := by
  have kept (keyspace : String) (place : Store.Place) :
      (state.after request).store.records keyspace place = state.store.records keyspace place :=
    (framed_after reachable.coherent reachable.sound parsed created).kept keyspace place id
  have made : Reachable (state.after request) := reachable.answered _ _ _ _
  obtain ⟨outcome, after, left, run, same⟩ := execute_of_isSuccess parsed created
  replace same : state.after request = after := same
  rw [same] at kept made ⊢
  obtain ⟨keyspace, family, version, store, inUse, free, applied, called, rfl⟩ :=
    Action.createFamily_ok (requireKeyspace_bind_ok run)
  obtain ⟨current, works, -, changed⟩ := Store.createFamily_ok called
  obtain rfl : keyspace = current :=
    Except.ok.inj ((currentKeyspace_of_keyspace reachable.coherent inUse).symm.trans works)
  obtain ⟨selected, mem⟩ := Store.of_currentKeyspace works
  obtain rfl : family.name = name := (ColumnFamily.comesFrom_of_withAttributes applied).1.name
  let defined : ColumnFamily := { family with keyspace := keyspace.name }
  let resolver : Resolver := ⟨defined, state.session.assumptionsFor defined keyspace.name⟩
  have resolves : Resolves { state with store } resolver := by
    refine ⟨⟨{ keyspace with families := keyspace.families ++ [defined] }, ?_, ?_⟩, rfl⟩
    · rw [changed]
      exact List.mem_map.2 ⟨keyspace, mem, if_pos (beq_self_eq_true _)⟩
    · exact List.mem_append_right _ (List.mem_singleton_self _)
  refine ⟨resolver, ?_, fun place record here filed => ?_⟩
  · exact resolves.resolver_eq made.coherent made.sound
      (reachable.coherent.selected.trans selected) (beq_self_eq_true _)
  · rw [kept, records_of_free reachable.coherent reachable.sound inUse (here ▸ free)] at filed
    cases filed

/-! ### Reads -/

theorem ownFailure_of_notLiteral {command : Command} {failure : Failure}
    (other : NotLiteral failure) : resolver.OwnFailure command supply failure := by
  rintro cause rfl
  exact absurd other id

section Reads

variable (coherent : Coherent state) (sound : state.store.Sound)
  (legible : state.store.Legible resolver)

include coherent sound legible

/-- A get without a validator of its own fails to show nothing that is on file. -/
theorem failsOnly_getAddress_of_legible {address : Address} {limit : Option Int}
    (resolved : state.resolver address.family = .ok resolver) :
    Action.FailsOnly (resolver.OwnFailure (.get address none limit) supply)
      (Action.getAddress moment address none limit) state supply := by
  refine Action.failsOnly_get_bind ?_
  refine Action.failsOnly_lift_bind (failsOnly_of_exists ⟨_, resolved⟩) fun found again => ?_
  obtain rfl : resolver = found := Except.ok.inj (resolved.symm.trans again)
  refine Action.failsOnly_lift_bind (failsOnly_ok none) fun asked unasked => ?_
  cases unasked
  refine Action.failsOnly_drawn_bind (fun failure failed _ _ => Draw.fst_bind_of_error failed)
    fun location left located => ?_
  -- From here on no literal is encoded.
  refine FailsOnly.mono (?_ : WideColumn.FailsOnly NotLiteral _) fun failure =>
    ownFailure_of_notLiteral
  obtain ⟨named, shape⟩ := Action.locate_shape located
  obtain ⟨familyName, key, outer, column⟩ := location
  obtain rfl : familyName = resolver.family.name := named
  have family := store_family_of_resolver coherent sound resolved
  have fit := sound.rowsFit family
  have placed := Store.wellPlaced_of_checkShape shape
  cases column with
  | none =>
    have layered : outer.isSome → resolver.family.isSuper = true := by
      intro given
      by_contra standard
      have none : outer = none := placed.2 (Bool.not_eq_true _ ▸ standard)
      rw [none] at given
      cases given
    obtain ⟨entries, read, shows⟩ := legible.getRow family fit layered
    refine Action.failsOnly_lift_bind (failsOnly_of_exists ⟨_, read⟩) fun _ again => ?_
    obtain rfl := Except.ok.inj (read.symm.trans again)
    exact Action.failsOnly_lift_bind shows fun _ _ => Action.failsOnly_pure _
  | some column =>
    obtain ⟨answer, read, shows⟩ :=
      legible.getColumn family fit (Store.isSome_superColumn placed rfl)
    refine Action.failsOnly_lift_bind (failsOnly_of_exists ⟨_, read⟩) fun _ again => ?_
    obtain rfl := Except.ok.inj (read.symm.trans again)
    split
    · rename_i cell
      exact Action.failsOnly_lift_bind (shows cell rfl) fun _ _ => Action.failsOnly_pure _
    · exact Action.failsOnly_throw trivial
    · exact Action.failsOnly_pure _

/-- A list fails to show nothing that is on file. -/
theorem failsOnly_listRows_of_legible {start stop : Option Literal} {limit : Option Int}
    (resolved : state.resolver other = .ok resolver) :
    Action.FailsOnly (resolver.OwnFailure (.list other start stop limit) supply)
      (Action.listRows moment other start stop limit) state supply := by
  refine Action.failsOnly_get_bind ?_
  refine Action.failsOnly_lift_bind (failsOnly_of_exists ⟨_, resolved⟩) fun found again => ?_
  obtain rfl : resolver = found := Except.ok.inj (resolved.symm.trans again)
  refine Action.failsOnly_drawn_bind (fun failure failed _ _ => Draw.fst_bind_of_error failed)
    fun first drawn ran => ?_
  refine Action.failsOnly_drawn_bind (fun failure failed _ _ => ?_) fun last left _ => ?_
  · show ((start.mapM resolver.encodeKey >>= fun _ => _ : Draw Unit) supply).1 = _
    rw [Draw.bind_of_ok ran]
    exact Draw.fst_bind_of_error failed
  -- From here on no literal is encoded.
  refine FailsOnly.mono (?_ : WideColumn.FailsOnly NotLiteral _) fun failure =>
    ownFailure_of_notLiteral
  have family := store_family_of_resolver coherent sound resolved
  obtain ⟨slices, read, shows⟩ := legible.getSlice family (sound.rowsFit family) (first.getD [])
    (last.getD [])
  refine Action.failsOnly_lift_bind (failsOnly_of_exists ⟨_, read⟩) fun _ again => ?_
  obtain rfl := Except.ok.inj (read.symm.trans again)
  exact Action.failsOnly_lift shows

theorem failsOnly_execute_of_legible {command : Command}
    (displays : command.displays? = some other) (resolved : state.resolver other = .ok resolver) :
    Action.FailsOnly (resolver.OwnFailure command supply) (Action.execute moment command) state
      supply := by
  obtain ⟨connected, keyspace, required⟩ := requireKeyspace_of_resolver resolved
  have inKeyspace {allowed : Failure → Prop} {action : Action Outcome}
      (only : Action.FailsOnly allowed action state supply) :
      Action.FailsOnly allowed (do
          (← get).requireConnected
          let _ ← (← get).requireKeyspace
          action) state supply := by
    refine Action.failsOnly_get_bind ?_
    refine Action.failsOnly_lift_bind (failsOnly_of_exists ⟨_, connected⟩) fun _ _ => ?_
    refine Action.failsOnly_get_bind ?_
    exact Action.failsOnly_lift_bind (failsOnly_of_exists ⟨_, required⟩) fun _ _ => only
  cases command with
  | get address validator limit =>
    cases validator with
    | some name => cases displays
    | none =>
      obtain rfl := Option.some.inj displays
      exact inKeyspace (failsOnly_getAddress_of_legible coherent sound legible resolved)
  | list name start stop limit =>
    obtain rfl := Option.some.inj displays
    exact inKeyspace (failsOnly_listRows_of_legible coherent sound legible resolved)
  | _ => cases displays

end Reads

/-- What a read ends in is no definition. -/
theorem ne_keyspaces_of_displays {command : Command} {outcome : Outcome}
    (displays : command.displays? = some other)
    (run : Action.execute moment command state supply = ((.ok outcome, after), left)) :
    ∀ keyspaces, outcome ≠ .keyspaces keyspaces := by
  rintro keyspaces rfl
  cases command with
  | get address validator limit =>
    obtain ⟨_, -, ran⟩ :=
      Action.lift_bind_eq_ok.1 (Action.get_bind_eq_ok.1 (requireKeyspace_bind_ok run))
    obtain ⟨_, -, ran⟩ := Action.lift_bind_eq_ok.1 ran
    obtain ⟨_, _, -, ran⟩ := Action.draw_bind_eq_ok.1 ran
    split at ran
    · obtain ⟨_, -, ran⟩ := Action.lift_bind_eq_ok.1 ran
      obtain ⟨_, -, ran⟩ := Action.lift_bind_eq_ok.1 ran
      cases ran
    · obtain ⟨_, -, ran⟩ := Action.lift_bind_eq_ok.1 ran
      split at ran
      · obtain ⟨_, -, ran⟩ := Action.lift_bind_eq_ok.1 ran
        cases ran
      · cases ran
      · cases ran
  | list name start stop limit =>
    obtain ⟨_, -, ran⟩ :=
      Action.lift_bind_eq_ok.1 (Action.get_bind_eq_ok.1 (requireKeyspace_bind_ok run))
    obtain ⟨_, _, -, ran⟩ := Action.draw_bind_eq_ok.1 ran
    obtain ⟨_, _, -, ran⟩ := Action.draw_bind_eq_ok.1 ran
    obtain ⟨_, -, ran⟩ := Action.lift_bind_eq_ok.1 ran
    obtain ⟨_, -, same⟩ := map_eq_ok.1 (congrArg (·.1.1) ran)
    cases same
  | _ => cases displays

/-- A reply that shows a literal failure to a read is one for a literal of its own. -/
theorem ownFailure_of_reply {command : Command} {cause : LiteralFailure} {text : String}
    (parsed : Command.parse request.text = .ok command)
    (displays : command.displays? = some other)
    (only : Action.FailsOnly (resolver.OwnFailure command request.supply)
      (Action.execute request.moment command) state request.supply)
    (failed : state.reply request = .failure (.literal cause) text) :
    (resolver.encodeAsked command request.supply).1 = .error (.literal cause) := by
  rw [reply, answer_of_parsed parsed] at failed
  cases run : Action.execute request.moment command state request.supply with
  | mk ended left =>
    obtain ⟨result, after⟩ := ended
    rw [Action.FailsOnly, run] at only
    rw [run] at failed
    cases result with
    | error failure =>
      obtain rfl : failure = .literal cause := (Reply.failure.inj failed).1
      exact only _ rfl cause rfl
    | ok outcome =>
      have written : FailsOnly NotLiteral (Report.outcome request.newline outcome) :=
        (Report.failsOnly_lines_of_read trivial _ (ne_keyspaces_of_displays displays run)).bind
          fun _ _ => failsOnly_pure _
      dsimp only [Reply.ofResult] at failed
      split at failed
      · cases failed
      · rename_i failure unwritten
        obtain rfl : failure = .literal cause := (Reply.failure.inj failed).1
        exact absurd (written _ unwritten) id

/-- A session can display what it wrote. A column family is created and afterwards keeps its
definition, and the session what it assumes for it; all that is written to it is written by sets,
increments and decrements of the session, with plain literals. Then a get of a row, super column or
column that asks for no other validator, or a list, fails with a literal failure only if a literal
of its own path or range does not encode, and with the failure of that one. -/
theorem shows_written (reachable : Reachable state) {creation : Request} {name : String}
    {attributes : Attributes}
    (creates : Command.parse creation.text = .ok (.createFamily name attributes))
    (created : (state.reply creation).isSuccess = true) :
    ∃ resolver, (state.after creation).resolver name = .ok resolver ∧
      ∀ requests, (state.after creation).WritesPlainly resolver requests →
        let later := (state.after creation).afterAll requests
        later.session.keyspace = some resolver.family.keyspace →
        ∀ request command other, Command.parse request.text = .ok command →
          command.displays? = some other →
          Text.sameIgnoringCase resolver.family.name other = true →
          ∀ cause text, later.reply request = .failure (.literal cause) text →
            (resolver.encodeAsked command request.supply).1 = .error (.literal cause) := by
  obtain ⟨resolver, resolved, legible⟩ := exists_resolver_of_created reachable creates created
  refine ⟨resolver, resolved, fun requests plainly => ?_⟩
  intro later inUse request command other parsed displays named cause text failed
  have made : Reachable (state.after creation) := reachable.answered _ _ _ _
  have reached : Reachable later := made.afterAll requests
  have stays : later.store.Legible resolver :=
    legible_afterAll made legible plainly requests List.prefix_rfl
  have resolves := plainly.steady requests List.prefix_rfl
  have again := resolves.resolver_eq reached.coherent reached.sound inUse named
  refine ownFailure_of_reply parsed displays ?_ failed
  exact failsOnly_execute_of_legible reached.coherent reached.sound stays displays again

/-- A fresh identifier, a negative number and a counter are listed. -/
theorem shows_written_super :
    let request (text : String) : Request := ⟨text, { now := 0 }, "\n", ⟨id, id, 0, 0⟩⟩
    let state := (initial "c" true).afterAll (["create keyspace k;", "use k;"].map request)
    let creation := request ("create column family S with column_type = super and " ++
      "comparator = TimeUUIDType and subcomparator = LongType and " ++
      "column_metadata = [{column_name: 7, validation_class: CounterColumnType}];")
    let requests := ["set s['r'][now]['-5'] = 'v';", "incr s['r'][now]['7'] by 3;"].map request
    let later := (state.after creation).afterAll requests
    let listing := request "list S;"
    (later.reply listing).output = "-------------------\nRowKey: r\n" ++
        "=> (super_column=00000000-0000-0000-0000-000000000001,\n" ++
        "     (column=-5, value=v, timestamp=0)\n     (counter=7, value=3))\n\n" ++
        "1 Row Returned.\n" ∧
      ∀ cause text, later.reply listing ≠ .failure (.literal cause) text := by
  intro request state creation requests later listing
  let family : ColumnFamily :=
    { keyspace := "k"
      name := "S"
      columnType := "Super"
      comparatorType := some "TimeUUIDType"
      subcomparatorType := some "LongType"
      columnMetadata :=
        [{ name := [0, 0, 0, 0, 0, 0, 0, 7], validationClass := "CounterColumnType" }] }
  let columns : AttributeItem :=
    .hash (.ofList [("column_name", "7"), ("validation_class", "CounterColumnType")])
  have reachable : Reachable state := (reachable_initial "c" true).afterAll _
  have known : Command.parse creation.text = .ok (.createFamily "S" (.ofList
        [("column_type", .text "super"), ("comparator", .text "TimeUUIDType"),
          ("subcomparator", .text "LongType"), ("column_metadata", .list [columns])])) ∧
      (state.reply creation).isSuccess = true ∧
      (((state.after creation).resolver "S").toOption.map fun resolver =>
        (resolver.family, resolver.assumptions)) = some (family, {}) ∧
      (∀ count < 3,
        (∃ keyspace ∈ ((state.after creation).afterAll (requests.take count)).store.keyspaces,
          family ∈ keyspace.families) ∧
        ((state.after creation).afterAll (requests.take count)).session.assumptionsFor family "k" =
          {}) ∧
      (later.reply listing).output = "-------------------\nRowKey: r\n" ++
        "=> (super_column=00000000-0000-0000-0000-000000000001,\n" ++
        "     (column=-5, value=v, timestamp=0)\n     (counter=7, value=3))\n\n" ++
        "1 Row Returned.\n" ∧
      ((state.after creation).afterAll requests).session.keyspace = some family.keyspace := by
    decide +kernel
  have size : requests.length = 2 := rfl
  have parsed : ∀ request ∈ requests, ∃ command, Command.parse request.text = .ok command ∧
      command.WritesPlainly := by
    have sets : Command.parse "set s['r'][now]['-5'] = 'v';" =
        .ok (.set ⟨"s", .plain "r", plainColumns (some "now") "-5"⟩ (.plain "v") none) := by
      decide +kernel
    have counts : Command.parse "incr s['r'][now]['7'] by 3;" =
        .ok (.incr ⟨"s", .plain "r", plainColumns (some "now") "7"⟩ 3) := by
      decide +kernel
    refine List.forall_mem_cons.2 ⟨⟨_, sets, .set ..⟩, List.forall_mem_singleton.2 ?_⟩
    exact ⟨_, counts, .incr ..⟩
  have lists : Command.parse listing.text = .ok (.list "S" none none none) := by decide +kernel
  obtain ⟨creates, created, found, steady, display, inUse⟩ := known
  refine ⟨display, fun cause text failed => ?_⟩
  clear_value state creation requests listing
  obtain ⟨resolver, resolved, shows⟩ := shows_written reachable creates created
  obtain ⟨other, again, same⟩ := Option.map_eq_some_iff.1 found
  obtain rfl : resolver = other := Except.ok.inj (resolved.symm.trans (toOption_eq_some.1 again))
  obtain ⟨sameFamily, sameAssumptions⟩ := Prod.mk.inj same
  have plainly : (state.after creation).WritesPlainly resolver requests := by
    refine ⟨fun early within => ?_, fun early request within _ => ?_⟩
    · have short : early.length < 3 := Nat.lt_succ_of_le (size ▸ within.length_le)
      obtain ⟨defined, assumed⟩ := steady early.length short
      rw [← List.prefix_iff_eq_take.1 within] at defined assumed
      refine ⟨sameFamily ▸ defined, ?_⟩
      rw [sameFamily, sameAssumptions]
      exact assumed
    · exact parsed request (within.subset (List.mem_append_right _ (List.mem_singleton_self _)))
  have named : Text.sameIgnoringCase resolver.family.name "S" = true := by
    rw [sameFamily]
    decide
  have own := shows requests plainly (sameFamily ▸ inUse) listing _ "S" lists rfl named cause text
    failed
  -- A list without a range has no literals.
  cases own

end State

end WideColumn
