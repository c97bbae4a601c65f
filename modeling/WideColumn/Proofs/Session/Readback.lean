import WideColumn.Proofs.Codec.RoundTrip
import WideColumn.Proofs.Grammar.Exactness
import WideColumn.Proofs.Session.Commands
import WideColumn.Proofs.Session.Isolation
import WideColumn.Proofs.Store.Readback

/-!
# A column that was set is shown

A statement that sets a column resolves its literals by the validators of the column family, and a
statement that gets the column resolves them in the same way, as long as no literal stands for a
fresh identifier. So it looks at the place that was written, and shows the name and the value by the
validators that read them.
-/

namespace WideColumn

/-! ### Literals that stand for the same bytes every time -/

/-- Whether a computation always has a value, and draws nothing. -/
def Draw.Gives {α : Type} (computation : Draw α) (value : α) : Prop :=
  ∀ supply, computation supply = (.ok value, supply)

/-- The plain literals for a column, which may be in a super column. -/
def plainColumns (superColumn : Option String) (column : String) : Columns :=
  match superColumn with
  | none => .one (.plain column)
  | some outer => .two (.plain outer) (.plain column)

namespace Resolver

variable {resolver : Resolver} {validator : Except Failure Validator} {text : String}
  {data : Bytes} {supply left : Supply}

/-- Whether no literal for a column and its value stands for a fresh identifier, with the validators
that are chosen for them. -/
structure NoneFresh (resolver : Resolver) (key : String) (superColumn : Option String)
    (column value : String) : Prop where
  key : ∀ validator, resolver.keyValidator = .ok validator → validator.isNow key = false
  superColumn : ∀ validator, resolver.comparator = .ok validator →
    ∀ outer ∈ superColumn, validator.isNow outer = false
  columnName : ∀ validator, resolver.columnNameValidator = .ok validator →
    validator.isNow column = false
  value : ∀ names name validator, resolver.columnNameValidator = .ok names →
    (names.encode column).Gives name → resolver.valueValidator (some name) = .ok validator →
    validator.isNow value = false

theorem gives_encode {validator : Validator} (fixed : validator.isNow text = false)
    (encoded : validator.encodeFixed text = .ok data) : (validator.encode text).Gives data :=
  fun supply => by rw [Validator.encode_of_not_isNow supply fixed, encoded]

/-- A plain literal stands for what the chosen validator makes of it, every time. -/
theorem encodeWith_ok (fixed : ∀ chosen, validator = .ok chosen → chosen.isNow text = false)
    (run : encodeWith validator (.plain text) supply = (.ok data, left)) :
    ∃ chosen, validator = .ok chosen ∧ chosen.encodeFixed text = .ok data ∧ left = supply ∧
      (encodeWith validator (.plain text)).Gives data := by
  obtain ⟨chosen, rfl, run⟩ := Stateful.lift_bind_eq_ok.1 run
  replace run : chosen.encode text supply = (.ok data, left) := run
  rw [Validator.encode_of_not_isNow supply (fixed chosen rfl)] at run
  obtain ⟨encoded, same⟩ := Prod.mk.inj run
  exact ⟨chosen, rfl, encoded, same.symm, gives_encode (fixed chosen rfl) encoded⟩

theorem encodeValue_ok {column : Bytes}
    (fixed : ∀ chosen, resolver.valueValidator (some column) = .ok chosen →
      chosen.isNow text = false)
    (run : resolver.encodeValue (.plain text) column supply = (.ok data, left)) :
    ∃ chosen, resolver.valueValidator (some column) = .ok chosen ∧
      chosen.encodeFixed text = .ok data ∧ left = supply := by
  obtain ⟨chosen, found, run⟩ := Stateful.lift_bind_eq_ok.1 run
  dsimp only at run
  split at run
  · cases run
  · replace run : chosen.encode text supply = (.ok data, left) := run
    rw [Validator.encode_of_not_isNow supply (fixed chosen found)] at run
    obtain ⟨encoded, same⟩ := Prod.mk.inj run
    exact ⟨chosen, found, encoded, same.symm⟩

end Resolver

namespace Action

variable {resolver : Resolver} {family key column value : String} {superColumn : Option String}
  {location : Location} {name data : Bytes} {supply left : Supply}

/-- A location that ends in a column is found again for the same literals. -/
theorem locate_ok (fresh : resolver.NoneFresh key superColumn column value)
    (run : locate resolver ⟨family, .plain key, plainColumns superColumn column⟩ supply =
      (.ok location, left))
    (required : requireColumn resolver.family location = .ok name) :
    left = supply ∧ location.column = some name ∧
      (∃ names, resolver.columnNameValidator = .ok names ∧ names.encodeFixed column = .ok name) ∧
      ∀ other, (locate resolver ⟨other, .plain key, plainColumns superColumn column⟩).Gives
        location := by
  have given : location.column = some name := by
    unfold requireColumn at required
    split at required
    · rename_i found
      cases required
      exact found
    · split at required <;> cases required
  obtain ⟨keyData, _, encoded, rest⟩ := Stateful.bind_eq_ok.1 run
  obtain ⟨_, -, -, rfl, keyGives⟩ := Resolver.encodeWith_ok fresh.key encoded
  -- The shape of the column family and of the address have to go together.
  cases superColumn with
  | none =>
    dsimp only [plainColumns] at rest
    cases super : resolver.family.isSuper with
    | true =>
      rw [super] at rest
      obtain ⟨outerData, _, -, last⟩ := Stateful.bind_eq_ok.1 rest
      cases last
      cases given
    | false =>
      rw [super] at rest
      obtain ⟨columnData, _, columnRun, last⟩ := Stateful.bind_eq_ok.1 rest
      obtain ⟨names, known, encodes, rfl, columnGives⟩ :=
        Resolver.encodeWith_ok fresh.columnName columnRun
      cases last
      cases given
      refine ⟨rfl, rfl, ⟨names, known, encodes⟩, fun other later => ?_⟩
      refine Stateful.bind_eq_ok.2 ⟨keyData, later, keyGives later, ?_⟩
      dsimp only [plainColumns]
      rw [super]
      exact Stateful.bind_eq_ok.2 ⟨_, later, columnGives later, rfl⟩
  | some outer =>
    dsimp only [plainColumns] at rest
    cases super : resolver.family.isSuper with
    | true =>
      rw [super] at rest
      obtain ⟨outerData, _, outerRun, inside⟩ := Stateful.bind_eq_ok.1 rest
      obtain ⟨_, -, -, rfl, outerGives⟩ :=
        Resolver.encodeWith_ok (fun chosen found => fresh.superColumn chosen found outer rfl) outerRun
      obtain ⟨columnData, _, columnRun, last⟩ := Stateful.bind_eq_ok.1 inside
      obtain ⟨names, known, encodes, rfl, columnGives⟩ :=
        Resolver.encodeWith_ok fresh.columnName columnRun
      cases last
      cases given
      refine ⟨rfl, rfl, ⟨names, known, encodes⟩, fun other later => ?_⟩
      refine Stateful.bind_eq_ok.2 ⟨keyData, later, keyGives later, ?_⟩
      dsimp only [plainColumns]
      rw [super]
      refine Stateful.bind_eq_ok.2 ⟨outerData, later, outerGives later, ?_⟩
      exact Stateful.bind_eq_ok.2 ⟨_, later, columnGives later, rfl⟩
    | false =>
      rw [super] at rest
      cases rest

end Action

/-! ### Showing a column -/

/-- A value is shown by the validators of its column. -/
theorem showCell_ok {resolver : Resolver} {names values : Validator} {name data : Bytes}
    {shownName shownValue : String} {now : Int} {ttl : Option Int}
    (known : resolver.columnNameValidator = .ok names) (nameShown : names.decode name = .ok shownName)
    (chosen : resolver.valueValidator (some name) = .ok values)
    (valueShown : values.decode data = .ok shownValue) :
    Action.showCell resolver none ⟨name, .value data now ttl⟩ =
      .ok (.column shownName shownValue (some now) ttl) := by
  obtain ⟨choice, found, rfl⟩ := map_eq_ok.1 chosen
  have shows : choice.show data = .ok shownValue := by
    rw [Choice.show, valueShown]
  have named : resolver.showColumn name = .ok shownName :=
    bind_eq_ok.2 ⟨names, known, nameShown⟩
  have valued : resolver.showValue data name none = .ok shownValue :=
    bind_eq_ok.2 ⟨choice, found, shows⟩
  exact bind_eq_ok.2 ⟨shownName, named, bind_eq_ok.2 ⟨shownValue, valued, rfl⟩⟩

/-- The text of a time to live behind a timestamp. -/
def ttlText : Option Int → String
  | none => ""
  | some seconds => ", ttl=" ++ Numeral.write seconds

theorem shownNumber_of_lt {value : Int} (small : value.natAbs < 10 ^ Numeral.maxDigits) :
    shownNumber value = .ok (Numeral.write value) := by
  rw [shownNumber, Numeral.write?_of_lt small]

/-- The text of a column with a time and perhaps a time to live. -/
theorem Report.outcome_column {newline name value : String} {now : Int} {ttl : Option Int}
    (clock : now.natAbs < 10 ^ Numeral.maxDigits)
    (lives : ∀ seconds, ttl = some seconds → 0 < seconds ∧ seconds.natAbs < 10 ^ Numeral.maxDigits) :
    Report.outcome newline (.column (.column name value (some now) ttl)) =
      .ok ("=> (column=" ++ name ++ ", value=" ++ value ++ ", timestamp=" ++ Numeral.write now ++
        ttlText ttl ++ ")" ++ newline) := by
  have time := shownNumber_of_lt clock
  have lead : "=> (column=" = "=> " ++ "(column=" := rfl
  cases ttl with
  | none =>
    have text : Report.cellText (.column name value (some now) none) =
        .ok ("(column=" ++ name ++ ", value=" ++ value ++ ", timestamp=" ++ Numeral.write now ++
          ")") :=
      bind_eq_ok.2 ⟨_, time, rfl⟩
    simp [Report.outcome, Report.lines, text, ttlText, String.join, String.append_assoc]
    rw [lead, String.append_assoc]
  | some seconds =>
    obtain ⟨positive, small⟩ := lives seconds rfl
    have text : Report.cellText (.column name value (some now) (some seconds)) =
        .ok ("(column=" ++ name ++ ", value=" ++ value ++ ", timestamp=" ++ Numeral.write now ++
          (", ttl=" ++ Numeral.write seconds ++ ")")) := by
      refine bind_eq_ok.2 ⟨_, time, ?_⟩
      have live := shownNumber_of_lt small
      dsimp only
      split
      · rename_i same
        cases same
      · rename_i same
        cases same
        omega
      · rename_i same
        cases same
        exact bind_eq_ok.2 ⟨_, live, rfl⟩
    simp [Report.outcome, Report.lines, text, ttlText, String.join, String.append_assoc]
    rw [lead, String.append_assoc]

/-! ### Times to live that are read -/

/-- A time to live in a command is the value of its clause. -/
theorem exists_ttlClause {tree : Grammar.Command} {address : Address} {content : Literal} {ttl : Int}
    (valued : tree.value = .ok (.set address content (some ttl))) :
    ∃ clause : Grammar.TtlClause, clause.value = .ok (some ttl) := by
  cases tree with
  | set lead reference equal given clause =>
    obtain ⟨_, -, later⟩ := bind_eq_ok.1 valued
    obtain ⟨_, live, same⟩ := bind_eq_ok.1 later
    cases same
    exact ⟨clause, live⟩
  | get lead reference validator limit =>
    obtain ⟨_, -, later⟩ := bind_eq_ok.1 valued
    obtain ⟨_, -, other⟩ := bind_eq_ok.1 later
    cases other
  | incr lead reference amount =>
    obtain ⟨_, -, later⟩ := bind_eq_ok.1 valued
    obtain ⟨_, -, other⟩ := bind_eq_ok.1 later
    cases other
  | decr lead reference amount =>
    obtain ⟨_, -, later⟩ := bind_eq_ok.1 valued
    obtain ⟨_, -, other⟩ := bind_eq_ok.1 later
    cases other
  | _ =>
    -- The command of any other rule is another one.
    first
    | cases valued
    | obtain ⟨_, -, other⟩ := bind_eq_ok.1 valued
      cases other

/-- A time to live that was read has no more digits than may be written. -/
theorem natAbs_lt_of_parse {statement : String} {address : Address} {content : Literal} {ttl : Int}
    (parsed : Command.parse statement = .ok (.set address content (some ttl))) :
    ttl.natAbs < 10 ^ Numeral.maxDigits := by
  obtain ⟨tree, -, valued⟩ := Command.ofTokens_eq_ok.1 (Command.parse_eq_ok.1 parsed)
  have found : ∃ clause : Grammar.TtlClause, clause.value = .ok (some ttl) := by
    cases tree with
    | closed command semicolon => exact exists_ttlClause valued
    | bare command => exact exists_ttlClause valued
  obtain ⟨clause, live⟩ := found
  cases clause with
  | empty => cases live
  | given lead name equal amount =>
    rw [Grammar.TtlClause.value_given] at live
    obtain ⟨_, read, same⟩ := map_eq_ok.1 live
    cases same
    split at read
    · cases read
    · unfold Parser.integer at read
      split at read
      · rename_i found
        cases read
        exact Numeral.natAbs_lt_of_decimal? found
      · cases read

namespace State

variable {state : State} {moment later : Moment} {newline first second : String}
  {supply : Supply} {family other key column value : String} {superColumn : Option String}
  {ttl limit : Option Int}

/-- Changing rows changes no name, so the same column family is found under its name in any letter
case. -/
theorem resolver_withRows {resolver : Resolver} (same : Text.sameIgnoringCase family other = true)
    (resolved : state.resolver family = .ok resolver) (changed : ColumnFamily)
    (rows : Table Bytes Row) :
    ({ state with store := state.store.withRows changed rows } : State).resolver other =
      .ok resolver := by
  have names : Text.lowered family = Text.lowered other := beq_iff_eq.1 same
  have found (keyspace : Keyspace) : keyspace.family? other = keyspace.family? family := by
    simp only [Keyspace.family?, Text.sameIgnoringCase, names]
  obtain ⟨keyspace, inUse, resolved⟩ := bind_eq_ok.1 resolved
  obtain ⟨definition, named, resolved⟩ := bind_eq_ok.1 resolved
  refine bind_eq_ok.2 ⟨keyspace, inUse, bind_eq_ok.2 ⟨definition, ?_, resolved⟩⟩
  rw [Keyspace.family, found]
  unfold Keyspace.family at named
  split at named
  · cases named
    rfl
  · cases named

/-- Looking at the place of a column that is there shows it. -/
theorem execute_get {resolver : Resolver} {keyspace : String} {location : Location}
    {columnName data : Bytes} {names values : Validator} {shownName shownValue : String} {now : Int}
    (connected : state.requireConnected = .ok ()) (inUse : state.requireKeyspace = .ok keyspace)
    (resolved : state.resolver family = .ok resolver)
    (located : (Action.locate resolver
      ⟨family, .plain key, plainColumns superColumn column⟩).Gives location)
    (given : location.column = some columnName)
    (read : state.store.getColumn later.now location =
      .ok (some (.cell ⟨columnName, .value data now ttl⟩)))
    (known : resolver.columnNameValidator = .ok names)
    (nameShown : names.decode columnName = .ok shownName)
    (chosen : resolver.valueValidator (some columnName) = .ok values)
    (valueShown : values.decode data = .ok shownValue) :
    Action.execute later (.get ⟨family, .plain key, plainColumns superColumn column⟩ none limit)
        state supply =
      ((.ok (.column (.column shownName shownValue (some now) ttl)), state), supply) := by
  refine Action.get_bind_eq_ok.2 (Action.lift_bind_eq_ok.2 ⟨(), connected, ?_⟩)
  refine Action.get_bind_eq_ok.2 (Action.lift_bind_eq_ok.2 ⟨keyspace, inUse, ?_⟩)
  refine Action.get_bind_eq_ok.2 (Action.lift_bind_eq_ok.2 ⟨resolver, resolved, ?_⟩)
  refine Action.lift_bind_eq_ok.2 ⟨none, rfl, ?_⟩
  refine Action.draw_bind_eq_ok.2 ⟨location, supply, located supply, ?_⟩
  rw [given]
  refine Action.lift_bind_eq_ok.2 ⟨_, read, ?_⟩
  exact Action.lift_bind_eq_ok.2 ⟨_, showCell_ok known nameShown chosen valueShown, rfl⟩

/-- A column that a statement set is shown by the next statement that gets it at the same time: with
its name and its value as the validators that were chosen for them show them, with the time, and
with the time to live if there is one. -/
theorem answer_get_of_set
    (setParsed : Command.parse first =
      .ok (.set ⟨family, .plain key, plainColumns superColumn column⟩ (.plain value) ttl))
    (getParsed : Command.parse second =
      .ok (.get ⟨other, .plain key, plainColumns superColumn column⟩ none limit))
    (sameFamily : Text.sameIgnoringCase family other = true)
    (fresh : ∀ resolver, state.resolver family = .ok resolver →
      resolver.NoneFresh key superColumn column value)
    (clock : moment.now.natAbs < 10 ^ Numeral.maxDigits) (sameClock : later.now = moment.now)
    (succeeded : (state.answer moment newline first supply).1.1.isSuccess = true) :
    ∃ resolver names columnName shownName values data shownValue,
      state.resolver family = .ok resolver ∧
      resolver.columnNameValidator = .ok names ∧ (names.encode column).Gives columnName ∧
      names.decode columnName = .ok shownName ∧
      resolver.valueValidator (some columnName) = .ok values ∧ (values.encode value).Gives data ∧
      values.decode data = .ok shownValue ∧
      ∀ laterSupply,
        ((state.answer moment newline first supply).1.2.answer later newline second laterSupply).1.1 =
          .success (.column (.column shownName shownValue (some moment.now) ttl))
            ("=> (column=" ++ shownName ++ ", value=" ++ shownValue ++ ", timestamp=" ++
              Numeral.write moment.now ++ ttlText ttl ++ ")" ++ newline) := by
  obtain ⟨outcome, after, left, run, sameAfter⟩ := execute_of_isSuccess setParsed succeeded
  rw [sameAfter]
  obtain ⟨_, connected, inside⟩ := Action.lift_bind_eq_ok.1 (Action.get_bind_eq_ok.1 run)
  obtain ⟨keyspace, inUse, sets⟩ := Action.lift_bind_eq_ok.1 (Action.get_bind_eq_ok.1 inside)
  obtain ⟨resolver, location, columnName, data, drawn, store, resolved, located, required, encoded,
    called, rfl, -⟩ := Action.setColumn_ok sets
  have noneFresh := fresh resolver resolved
  obtain ⟨rfl, given, ⟨names, known, nameEncoded⟩, again⟩ :=
    Action.locate_ok noneFresh located required
  have nameGives := Resolver.gives_encode (noneFresh.columnName names known) nameEncoded
  have fixed := fun values => noneFresh.value names columnName values known nameGives
  obtain ⟨values, chosen, valueEncoded, -⟩ := Resolver.encodeValue_ok fixed encoded
  -- What a validator made of a literal, it can show.
  obtain ⟨shownName, nameShown, -⟩ :=
    Validator.decode_of_stores (Validator.stores_of_encodeFixed nameEncoded)
  obtain ⟨shownValue, valueShown, -⟩ :=
    Validator.decode_of_stores (Validator.stores_of_encodeFixed valueEncoded)
  obtain ⟨found, same, read⟩ := Store.getColumn_insertColumn called
  obtain rfl : columnName = found := Option.some.inj (given.symm.trans same)
  obtain ⟨_, changed, rows, -, positive, -, -, -, -, rfl⟩ := Store.insertColumn_ok called
  refine ⟨resolver, names, columnName, shownName, values, data, shownValue, resolved, known, nameGives,
    nameShown, chosen, Resolver.gives_encode (fixed values chosen) valueEncoded, valueShown,
    fun laterSupply => ?_⟩
  have lives : ∀ seconds, ttl = some seconds →
      0 < seconds ∧ seconds.natAbs < 10 ^ Numeral.maxDigits := by
    rintro seconds rfl
    refine ⟨?_, natAbs_lt_of_parse setParsed⟩
    by_contra low
    simp [Store.requirePositive, Int.not_lt.1 low] at positive
  have gets : Action.execute later
      (.get ⟨other, .plain key, plainColumns superColumn column⟩ none limit)
      { state with store := state.store.withRows changed rows } laterSupply =
        ((.ok (.column (.column shownName shownValue (some moment.now) ttl)), _), laterSupply) :=
    execute_get connected inUse (resolver_withRows sameFamily resolved changed rows) (again other)
      given (sameClock ▸ read) known nameShown chosen valueShown
  rw [answer_of_parsed getParsed, gets]
  simp only [Reply.ofResult, Report.outcome_column clock lives]

/-- A column name of type long is shown without its leading zeros. -/
theorem answer_get_of_set_long :
    let family : ColumnFamily := { keyspace := "k", name := "F", comparatorType := some "LongType" }
    let keyspace : Keyspace := { name := "k", families := [family] }
    let state : State :=
      { session := { keyspace := some "k" }
        store := { connection := .opened (some "k"), keyspaces := [keyspace] } }
    let supply : Supply := ⟨id, id, 0, 0⟩
    let moment : Moment := { now := 12 }
    let after := (state.answer moment "\n" "set f['x']['007'] = 'v' with ttl = 5;" supply).1.2
    let reply := (after.answer moment "\n" "get F['x']['007'];" supply).1.1
    reply.output = "=> (column=7, value=v, timestamp=12, ttl=5)\n" ∧
      ∃ outcome name value, reply = .success outcome ("=> (column=" ++ name ++ ", value=" ++ value ++
        ", timestamp=" ++ Numeral.write moment.now ++ ttlText (some 5) ++ ")" ++ "\n") := by
  intro family keyspace state supply moment after reply
  have fixed {text : String} (other : Text.lowered text ≠ "now") (validator : Validator) :
      validator.isNow text = false := by
    rw [Validator.isNow, beq_false_of_ne other, Bool.and_false]
  have fresh : ∀ resolver, state.resolver "f" = .ok resolver →
      resolver.NoneFresh "x" none "007" "v" := fun resolver _ =>
    ⟨fun validator _ => fixed (by decide) validator,
      fun _ _ outer given => absurd given (Option.not_mem_none outer),
      fun validator _ => fixed (by decide) validator,
      fun _ _ validator _ _ _ => fixed (by decide) validator⟩
  have clock : (12 : Int).natAbs < 10 ^ Numeral.maxDigits :=
    lt_of_lt_of_le (by decide : 12 < 10 ^ 2) (Nat.pow_le_pow_right (by decide) (by decide))
  have setParsed : Command.parse "set f['x']['007'] = 'v' with ttl = 5;" =
      .ok (.set ⟨"f", .plain "x", plainColumns none "007"⟩ (.plain "v") (some 5)) := by
    decide +kernel
  have getParsed : Command.parse "get F['x']['007'];" =
      .ok (.get ⟨"F", .plain "x", plainColumns none "007"⟩ none none) := by
    decide +kernel
  have succeeded : (state.answer moment "\n" "set f['x']['007'] = 'v' with ttl = 5;"
      supply).1.1.isSuccess = true := by
    decide +kernel
  refine ⟨by decide +kernel, ?_⟩
  obtain ⟨_, _, _, name, _, _, value, -, -, -, -, -, -, -, gets⟩ :=
    @answer_get_of_set state moment moment "\n" _ _ supply "f" "F" "x" "007" "v" none (some 5) none
      setParsed getParsed (by decide) fresh clock rfl succeeded
  refine ⟨.column (.column name value (some moment.now) (some 5)), name, value, ?_⟩
  dsimp only [reply, after]
  exact gets supply

end State

end WideColumn
