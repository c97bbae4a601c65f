import WideColumn.Proofs.Session.Reporting
import WideColumn.Proofs.Session.Tallying

/-!
# Reading a scan off its lines

A list, and a get with conditions, shows the rows that the store answers, each with the entries that
it read there, which are columns in a standard column family (`Store.ReadIn.cells`). What is written
can be read back by its lines just if the texts in it are plain (`State.scan_reads_back`), whatever
the store and the session are.
-/

namespace WideColumn

/-! ### Rows that are read -/

/-- The rows that a reply shows, if it is that to a scan. -/
def Reply.rows? : Reply → Option (List ShownRow)
  | success (.rows rows) _ => some rows
  | _ => none

/-- The name of the column family that a command scans. -/
def Command.scans? : Command → Option String
  | list family _ _ _ => some family
  | getWhere family _ _ => some family
  | _ => none

namespace Store

variable {store : Store} {family : ColumnFamily} {name : String} {now count : Int}
  {slices : List RowSlice}

/-- Whether a row is one of a column family as it is read. -/
def ReadIn (family : ColumnFamily) (now : Int) (slice : RowSlice) : Prop :=
  ∃ row : Row, row.read family now = .ok slice.entries

theorem readIn_of_getSlice {start stop : Bytes}
    (read : store.getSlice now name start stop count = .ok slices) :
    ∃ family, store.family name = .ok family ∧ ∀ slice ∈ slices, ReadIn family now slice := by
  obtain ⟨family, found, read⟩ := bind_eq_ok.1 read
  refine ⟨family, found, fun slice mem => ?_⟩
  obtain ⟨item, inside, same⟩ := exists_of_mapM_eq_ok read slice mem
  obtain ⟨⟨key, row⟩, -, seen⟩ :=
    List.mem_filterMap.1 ((upTo_sublist _ _).subset inside)
  dsimp only at seen
  split at seen
  · cases seen
  · obtain rfl := Option.some.inj seen
    obtain ⟨entries, read, rfl⟩ := map_eq_ok.1 same
    exact ⟨row, read⟩

theorem readIn_of_getIndexedSlices {expressions : List IndexExpression}
    (read : store.getIndexedSlices now name expressions count = .ok slices) :
    ∃ family, store.family name = .ok family ∧ ∀ slice ∈ slices, ReadIn family now slice := by
  obtain ⟨family, found, read⟩ := bind_eq_ok.1 read
  refine ⟨family, found, fun slice mem => ?_⟩
  dsimp only at read
  split at read
  · cases read
  · split at read
    · obtain ⟨⟨key, row⟩, -, same⟩ := exists_of_mapM_eq_ok read slice mem
      obtain ⟨entries, read, made⟩ := bind_eq_ok.1 same
      cases made
      exact ⟨row, read⟩
    · cases read

/-- What is read in a standard column family is shown as columns, if at all. -/
theorem ReadIn.cells {resolver : Resolver} {slice : RowSlice} {row : ShownRow}
    (read : ReadIn family now slice) (standard : family.isSuper = false)
    (shown : Action.showRow resolver slice = .ok row) :
    ∀ entry ∈ row.entries, ∃ cell, entry = .cell cell := by
  obtain ⟨held, read⟩ := read
  obtain ⟨key, -, shown⟩ := bind_eq_ok.1 shown
  obtain ⟨entries, listed, same⟩ := bind_eq_ok.1 shown
  cases same
  intro entry mem
  obtain ⟨source, inside, made⟩ := exists_of_mapM_eq_ok listed entry mem
  rw [Row.read, standard] at read
  rw [← Except.ok.inj read] at inside
  obtain ⟨⟨name, slot⟩, -, seen⟩ := List.mem_filterMap.1 inside
  cases slot with
  | record record =>
    obtain ⟨-, seen⟩ := Option.ite_none_right_eq_some.1 seen
    cases seen
    obtain ⟨cell, -, same⟩ := map_eq_ok.1 made
    exact ⟨cell, same.symm⟩
  | group records =>
    cases seen
    cases made

end Store

namespace State

variable {state after : State} {request : Request} {command : Command} {name : String}
  {moment : Moment} {supply left : Supply} {outcome : Outcome}

/-- Whether a scan reads some rows from the store, by the literals that it gives. -/
inductive Scans (state : State) (moment : Moment) (supply : Supply) (resolver : Resolver) :
    Command → List RowSlice → Prop where
  | list {name : String} {start stop : Option Literal} {limit : Option Int}
      {first last : Option Bytes} {between left : Supply} {slices : List RowSlice} :
      start.mapM resolver.encodeKey supply = (.ok first, between) →
      stop.mapM resolver.encodeKey between = (.ok last, left) →
      state.store.getSlice moment.now resolver.family.name (first.getD []) (last.getD [])
        (limit.getD Action.scanLimit) = .ok slices →
      Scans state moment supply resolver (.list name start stop limit) slices
  | getWhere {name : String} {conditions : List Condition} {limit : Option Int}
      {expressions : List IndexExpression} {left : Supply} {slices : List RowSlice} :
      conditions.mapM (Action.encodeCondition resolver) supply = (.ok expressions, left) →
      state.store.getIndexedSlices moment.now resolver.family.name expressions
        (limit.getD Action.scanLimit) = .ok slices →
      Scans state moment supply resolver (.getWhere name conditions limit) slices

theorem scans_of_execute (scans : command.scans? = some name)
    (run : Action.execute moment command state supply = ((.ok outcome, after), left)) :
    ∃ resolver slices rows, state.resolver name = .ok resolver ∧
      Scans state moment supply resolver command slices ∧
      slices.mapM (Action.showRow resolver) = .ok rows ∧ outcome = .rows rows := by
  cases command with
  | list name start stop limit =>
    cases scans
    obtain ⟨resolver, resolved, run⟩ :=
      Action.lift_bind_eq_ok.1 (Action.get_bind_eq_ok.1 (requireKeyspace_bind_ok run))
    obtain ⟨first, between, begins, run⟩ := Action.draw_bind_eq_ok.1 run
    obtain ⟨last, drawn, ends, run⟩ := Action.draw_bind_eq_ok.1 run
    obtain ⟨slices, read, run⟩ := Action.lift_bind_eq_ok.1 run
    obtain ⟨rows, shown, same⟩ := map_eq_ok.1 (Prod.mk.inj (Prod.mk.inj run).1).1
    exact ⟨resolver, slices, rows, resolved, .list begins ends read, shown, same.symm⟩
  | getWhere name conditions limit =>
    cases scans
    obtain ⟨resolver, resolved, run⟩ :=
      Action.lift_bind_eq_ok.1 (Action.get_bind_eq_ok.1 (requireKeyspace_bind_ok run))
    obtain ⟨expressions, drawn, encoded, run⟩ := Action.draw_bind_eq_ok.1 run
    obtain ⟨slices, read, run⟩ := Action.lift_bind_eq_ok.1 run
    obtain ⟨rows, shown, same⟩ := map_eq_ok.1 (Prod.mk.inj (Prod.mk.inj run).1).1
    exact ⟨resolver, slices, rows, resolved, .getWhere encoded read, shown, same.symm⟩
  | _ => cases scans

theorem Scans.readIn {resolver : Resolver} {slices : List RowSlice}
    (scans : Scans state moment supply resolver command slices) :
    ∃ family, state.store.family resolver.family.name = .ok family ∧
      ∀ slice ∈ slices, Store.ReadIn family moment.now slice := by
  cases scans with
  | list _ _ read => exact Store.readIn_of_getSlice read
  | getWhere _ read => exact Store.readIn_of_getIndexedSlices read

/-- A scan that succeeds shows the rows that it reads from the store. Cut at its line feeds, its text
has as many lines with a key as there are rows, each directly behind a line of dashes and with the
keys in the order of the rows, as many lines with an entry as there are entries, which are columns in
a standard column family, and at its end the number of rows, if and only if no key has a line feed
and no name and no value has one that is followed by the beginning of such a line. -/
theorem scan_reads_back (parsed : Command.parse request.text = .ok command)
    (scans : command.scans? = some name) (newline : request.newline = "\n")
    (succeeded : (state.reply request).isSuccess = true) :
    ∃ resolver family slices rows text, state.resolver name = .ok resolver ∧
      state.store.family resolver.family.name = .ok family ∧
      Scans state request.moment request.supply resolver command slices ∧
      slices.mapM (Action.showRow resolver) = .ok rows ∧
      state.reply request = .success (.rows rows) text ∧
      (family.isSuper = false → ∀ row ∈ rows, ∀ entry ∈ row.entries, ∃ cell, entry = .cell cell) ∧
      (Report.ReadsBack rows (Text.lines text.toList) ↔ Report.Plain rows) := by
  obtain ⟨outcome, text, after, left, run, shown, replied⟩ := reply_of_isSuccess parsed succeeded
  obtain ⟨resolver, slices, rows, resolved, scanned, displayed, rfl⟩ := scans_of_execute scans run
  obtain ⟨family, found, read⟩ := scanned.readIn
  rw [newline] at shown
  refine ⟨resolver, family, slices, rows, text, resolved, found, scanned, displayed, replied,
    fun standard row mem => ?_, Report.readsBack_iff shown⟩
  obtain ⟨slice, inside, row⟩ := exists_of_mapM_eq_ok displayed row mem
  exact (read slice inside).cells standard row

/-- A line break in a value does no harm if what comes behind it looks like no line of a scan. -/
theorem scan_reads_back_lineBreak :
    let ask (text : String) : Request := ⟨text, { now := 0 }, "\n", ⟨id, id, 0, 0⟩⟩
    let state := afterAll (initial "c" true) [ask "create keyspace k;", ask "use k;",
      ask "create column family F;", ask "set F['a']['0a'] = 'v';",
      ask "set F['b']['0b'] = 'v\\nw';"]
    let listing := ask "list F;"
    Command.parse listing.text = .ok (.list "F" none none none) ∧
      (state.reply listing).isSuccess = true ∧
      ∃ rows, rows.map ShownRow.key = ["a", "b"] ∧
        Report.ReadsBack rows (Text.lines (state.reply listing).output.toList) := by
  intro ask state listing
  have parsed : Command.parse listing.text = .ok (.list "F" none none none) := by decide +kernel
  have succeeded : (state.reply listing).isSuccess = true := by decide +kernel
  obtain ⟨resolver, family, slices, rows, text, -, -, -, -, replied, -, reads⟩ :=
    scan_reads_back parsed rfl rfl succeeded
  have shown : (state.reply listing).rows? = some [⟨"a", [.cell (.column "0a" "v" (some 0) none)]⟩,
    ⟨"b", [.cell (.column "0b" "v\nw" (some 0) none)]⟩] := by decide +kernel
  rw [replied] at shown ⊢
  obtain rfl := Option.some.inj shown
  exact ⟨parsed, rfl, _, rfl, reads.2 (by decide)⟩

/-- A value with the line of another row in it: there is one row, and two lines name one. -/
theorem scan_of_forged_row :
    let ask (text : String) : Request := ⟨text, { now := 0 }, "\n", ⟨id, id, 0, 0⟩⟩
    let state := afterAll (initial "c" true) [ask "create keyspace k;", ask "use k;",
      ask "create column family F;", ask "set F['a']['0a'] = 'v\\nRowKey: b';"]
    let reply := state.reply (ask "list F;")
    (state.store.family "F").toOption.map ColumnFamily.isSuper = some false ∧
      (state.store.getSlice 0 "F" [] [] 100).toOption.map List.length = some 1 ∧
      reply.isSuccess = true ∧
      reply.output = "-------------------\nRowKey: a\n=> (column=0a, value=v\n" ++
        "RowKey: b, timestamp=0)\n\n1 Row Returned.\n" ∧
      ∀ rows, rows.length = 1 → ¬ Report.ReadsBack rows (Text.lines reply.output.toList) := by
  intro ask state reply
  have output : reply.output = "-------------------\nRowKey: a\n=> (column=0a, value=v\n" ++
      "RowKey: b, timestamp=0)\n\n1 Row Returned.\n" := by decide +kernel
  refine ⟨by decide +kernel, by decide +kernel, by decide +kernel, output, fun rows one reads => ?_⟩
  have named := congrArg List.length reads.keys
  rw [output, List.length_map, one] at named
  exact absurd named (by decide)

end State

end WideColumn
