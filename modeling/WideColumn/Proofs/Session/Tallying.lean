import WideColumn.Proofs.Session.Counting
import WideColumn.Proofs.Session.Sharing
import WideColumn.Proofs.Session.Soundness
import WideColumn.Proofs.Store.Tallying

/-!
# What counting shows

A statement that counts reads what a statement that gets the same place reads, and shows how many
entries there are: all that is live on file, but no more than are read if no limit is given. Sessions
that update column families only in the keyspace that is selected keep every row in the layout of its
column family (`Shared.Reachable.sound`). Any other update may leave a column family with the rows of
another one, in which super columns are counted whether or not there is a column in them.
-/

namespace WideColumn

/-! ### Sessions that share a sound store -/

namespace Shared

variable {ι : Type} [DecidableEq ι] {shared : Shared ι}

theorem Reachable.sound (reachable : Reachable shared) : shared.store.Sound := by
  induction reachable with
  | start clusterName connection => exact Store.sound_new clusterName connection
  | answered reachable who moment newline statement supply fits ih =>
    dsimp only [after, put]
    exact State.sound_answer ih newline fits

end Shared

namespace State

variable {state after : State} {moment : Moment} {supply left : Supply} {request : Request}
  {address : Address} {location : Location} {outcome : Outcome}

/-- Whether a state is what one of several sessions finds that share a store from the start and
update column families only in the keyspace that is selected. -/
def Shares (state : State) : Prop :=
  ∃ (ι : Type) (_ : DecidableEq ι) (shared : Shared ι) (who : ι),
    shared.Reachable ∧ shared.state who = state

/-- A session alone always updates column families in the keyspace that is selected. -/
theorem Reachable.shares (reachable : Reachable state) : Shares state := by
  refine ⟨Unit, inferInstance, ⟨fun _ => state.session, state.store⟩, (), ?_, rfl⟩
  induction reachable with
  | unconnected clusterName => exact .start clusterName .closed
  | connected clusterName => exact .start clusterName (.opened none)
  | @answered state reachable moment newline statement supply ih =>
    have alone (before left : Session) :
        (fun _ : Unit => left) = Function.update (fun _ => before) () left := by
      funext who
      rw [Subsingleton.elim who (), Function.update_self]
    have here : (⟨fun _ : Unit => state.session, state.store⟩ : Shared Unit).state () = state := rfl
    have next := ih.answered () moment newline statement supply
      fun command _ => here ▸ reachable.coherent.fits command
    rw [Shared.after, Shared.put, here, ← alone] at next
    exact next

theorem Shares.sound (shares : Shares state) : state.store.Sound := by
  obtain ⟨ι, _, shared, who, reachable, rfl⟩ := shares
  exact reachable.sound

/-! ### Statements that count and that get -/

/-- A count is the number of the entries that are read up to the limit. -/
theorem exists_of_count
    (run : Action.execute moment (.count address) state supply = ((.ok outcome, after), left)) :
    ∃ resolver location entries, state.resolver address.family = .ok resolver ∧
      Action.locate resolver address supply = (.ok location, left) ∧ location.column = none ∧
      state.store.getRow moment.now location.family location.key location.superColumn
        Action.rowLimit = .ok entries ∧
      outcome = .counted entries.length := by
  obtain ⟨resolver, resolved, run⟩ :=
    Action.lift_bind_eq_ok.1 (Action.get_bind_eq_ok.1 (requireKeyspace_bind_ok run))
  obtain ⟨location, drawn, located, run⟩ := Action.draw_bind_eq_ok.1 run
  dsimp only at run
  split at run
  · cases run
  · rename_i noColumn
    obtain ⟨entries, read, run⟩ := Action.lift_bind_eq_ok.1 run
    cases run
    exact ⟨resolver, location, entries, resolved, located, by simpa using noColumn, read, rfl⟩

/-- What is shown for a place without a column are all the entries that are read up to the limit. -/
theorem exists_of_get {validator : Option String} (known : state.locate? address supply = some location)
    (noColumn : location.column = none)
    (run : Action.execute moment (.get address validator none) state supply =
      ((.ok outcome, after), left)) :
    ∃ entries shown, state.store.getRow moment.now location.family location.key
        location.superColumn Action.rowLimit = .ok entries ∧
      outcome = .entries shown ∧ shown.length = entries.length := by
  obtain ⟨resolver, resolved, run⟩ :=
    Action.lift_bind_eq_ok.1 (Action.get_bind_eq_ok.1 (requireKeyspace_bind_ok run))
  obtain ⟨asked, -, run⟩ := Action.lift_bind_eq_ok.1 run
  obtain ⟨found, drawn, located, run⟩ := Action.draw_bind_eq_ok.1 run
  obtain rfl : location = found :=
    Option.some.inj (known.symm.trans (locate?_eq_some resolved located))
  rw [noColumn] at run
  obtain ⟨entries, read, run⟩ := Action.lift_bind_eq_ok.1 run
  obtain ⟨shown, displayed, run⟩ := Action.lift_bind_eq_ok.1 run
  cases run
  exact ⟨entries, shown, read, rfl, (forall₂_of_mapM_eq_ok displayed).length_eq.symm⟩

/-- A statement that was answered with success was executed, and its outcome is shown. -/
theorem reply_of_isSuccess {command : Command} (parsed : Command.parse request.text = .ok command)
    (succeeded : (state.reply request).isSuccess = true) :
    ∃ outcome text after left,
      Action.execute request.moment command state request.supply = ((.ok outcome, after), left) ∧
      Report.outcome request.newline outcome = .ok text ∧
      state.reply request = .success outcome text := by
  obtain ⟨outcome, after, left, run, -⟩ := execute_of_isSuccess parsed succeeded
  have replied : state.reply request = .ofResult request.newline (.ok outcome) := by
    rw [reply, answer_of_parsed parsed, run]
  rw [replied, Reply.ofResult] at succeeded ⊢
  cases shown : Report.outcome request.newline outcome with
  | error cause =>
    rw [shown] at succeeded
    cases succeeded
  | ok text => exact ⟨outcome, text, after, left, run, shown, rfl⟩

theorem outcome_counted (newline : String) (number : Nat) :
    Report.outcome newline (.counted number) = .ok (s!"{number} columns" ++ newline) :=
  congrArg Except.ok (String.empty_append ..)

/-- The lines of entries are followed by the line that tells how many they are. -/
theorem outcome_entries {newline text : String} {entries : List ShownEntry}
    (shown : Report.outcome newline (.entries entries) = .ok text) :
    ∃ lines, text = lines ++ s!"Returned {entries.length} results." ++ newline := by
  obtain ⟨lines, listed, joined⟩ := bind_eq_ok.1 shown
  obtain ⟨texts, -, same⟩ := bind_eq_ok.1 listed
  cases joined
  cases same
  refine ⟨String.join (texts.map (· ++ newline)), ?_⟩
  simp [String.join_append, String.append_assoc]

/-- A statement that counts shows how many live columns there are in a row or in a super column, or
how many super columns with live columns are in a row, as long as there are no more than a million.
Nothing else is counted in what sessions find that update column families only in the keyspace that
is selected, as a session alone always does; in any other state super columns that strayed into a row
of columns are. A statement that gets the same place at the same time without a limit tells the same
number of results. -/
theorem count_shows_live (parsed : Command.parse request.text = .ok (.count address))
    (succeeded : (state.reply request).isSuccess = true) :
    ∃ location family, state.locate? address request.supply = some location ∧
      location.column = none ∧ state.store.family location.family = .ok family ∧
      let live := state.store.liveAt family request.moment.now location.key location.superColumn
      let strays := state.store.straysAt family location.key location.superColumn
      let number := min (live + strays) 1000000
      state.reply request = .success (.counted number) (s!"{number} columns" ++ request.newline) ∧
      (Shares state → strays = 0) ∧
      (Reachable state → ∃ resolver, state.resolver address.family = .ok resolver ∧
        resolver.family = family) ∧
      ∀ asking other validator, Command.parse asking.text = .ok (.get other validator none) →
        state.locate? other asking.supply = some location →
        asking.moment.now = request.moment.now → (state.reply asking).isSuccess = true →
        ∃ entries lines, entries.length = number ∧ state.reply asking =
          .success (.entries entries) (lines ++ s!"Returned {number} results." ++ asking.newline) := by
  obtain ⟨outcome, text, after, left, run, shown, replied⟩ := reply_of_isSuccess parsed succeeded
  obtain ⟨resolver, location, entries, resolved, located, noColumn, read, rfl⟩ :=
    exists_of_count run
  have known := locate?_eq_some resolved located
  obtain ⟨family, found, length⟩ := Store.length_getRow 1000000 read
  refine ⟨location, family, known, noColumn, found, ?_⟩
  rw [outcome_counted] at shown
  rw [← Except.ok.inj shown, length] at replied
  refine ⟨replied, fun shares => ?_, fun reachable => ?_, ?_⟩
  · exact Store.straysAt_of_rowsFit (shares.sound.rowsFit found) _ _
  · refine ⟨resolver, resolved, ?_⟩
    have own := store_family_of_resolver reachable.coherent reachable.sound resolved
    rw [← (Action.locate_shape located).1, found] at own
    exact (Except.ok.inj own).symm
  · intro asking other validator asks same clock answered
    obtain ⟨outcome, text, after, left, run, shown, replied⟩ := reply_of_isSuccess asks answered
    obtain ⟨again, listed, reread, rfl, kept⟩ := exists_of_get same noColumn run
    rw [clock, read] at reread
    obtain rfl := Except.ok.inj reread
    obtain ⟨lines, rfl⟩ := outcome_entries shown
    rw [length] at kept
    exact ⟨listed, lines, kept, kept ▸ replied⟩

/-- A column past its time to live is on file and not counted. -/
theorem count_shows_live_expired :
    let ask (now : Int) (text : String) : Request := ⟨text, { now }, "\n", ⟨id, id, 0, 0⟩⟩
    let state := afterAll (initial "c" true) [ask 0 "create keyspace k;", ask 0 "use k;",
      ask 0 "create column family F;", ask 0 "set F['r']['0a'] = 'v' with ttl = 2;",
      ask 0 "set F['r']['0b'] = 'v';"]
    let counting := ask 2000000 "count F['r'];"
    Command.parse counting.text = .ok (.count ⟨"F", .plain "r", .none⟩) ∧
      (state.reply counting).isSuccess = true ∧ (state.reply counting).output = "1 columns\n" ∧
      ∃ location family, state.locate? ⟨"F", .plain "r", .none⟩ counting.supply = some location ∧
        state.store.family location.family = .ok family ∧
        let live := state.store.liveAt family 2000000 location.key location.superColumn
        state.reply counting =
          .success (.counted (min live 1000000)) (s!"{min live 1000000} columns" ++ "\n") := by
  intro ask state counting
  have parsed : Command.parse counting.text = .ok (.count ⟨"F", .plain "r", .none⟩) := by
    decide +kernel
  have succeeded : (state.reply counting).isSuccess = true := by decide +kernel
  have reachable : Reachable state := (Reachable.connected "c").afterAll _
  obtain ⟨location, family, known, -, found, replied, strays, -, -⟩ :=
    count_shows_live parsed succeeded
  rw [strays reachable.shares, Nat.add_zero] at replied
  exact ⟨parsed, succeeded, by decide +kernel, location, family, known, found, replied⟩

end State

namespace Shared

/-- A session updates a column family while another keyspace is selected, where the column family of
that name is left with rows of the first one. When those are made again as rows of super columns, a
super column without a column is counted. -/
theorem count_of_strays :
    let supply : Supply := ⟨id, id, 0, 0⟩
    let moment : Moment := { now := 0 }
    let say (shared : Shared Bool) (statement : Bool × String) : Shared Bool :=
      shared.after statement.1 moment "\n" statement.2 supply
    let shared := [(true, "create keyspace a;"), (true, "create keyspace b;"), (true, "use a;"),
      (true, "create column family F;"), (false, "use b;"), (false, "create column family F;"),
      (true, "update column family F with comment = 'x';"), (true, "use a;"),
      (true, "drop column family F;"), (true, "create column family F with column_type = Super;"),
      (true, "set F['k']['0b']['0c'] = 'v';"), (true, "del F['k']['0b']['0c'];"),
      (false, "use b;")].foldl say ⟨fun _ => {}, Store.connect { clusterName := "c" }⟩
    let state := shared.state false
    (state.answer moment "\n" "count F['k'];" supply).1.1.output = "1 columns\n" ∧
      state.locate? ⟨"F", .plain "k", .none⟩ supply = some ⟨"F", [0x6b], none, none⟩ ∧
      (state.store.family "F").toOption.map (fun family =>
        (state.store.liveAt family 0 [0x6b] none, state.store.straysAt family [0x6b] none)) =
          some (0, 1) := by
  decide +kernel

end Shared

end WideColumn
