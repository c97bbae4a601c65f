import WideColumn.Proofs.Script.CommentLines
import WideColumn.Proofs.Script.Openings
import WideColumn.Proofs.Session.Counting

/-!
# The lines of a scan

A scan is written in lines: for each row a line of dashes, a line with the key and a line for each
entry, and at last the number of rows. Keys, names and values are written into these lines as they
are. So the rows can be read off the lines as long as none of those texts begins a line of its own
that looks like one of the scan (`Report.Plain`), and not otherwise: a key must not have a line feed
at all, since its line names it, and a name or a value none that has the beginning of such a line
behind it (`Report.readsBack_iff`).
-/

namespace WideColumn

/-! ### The texts in a scan -/

/-- The name of a column. -/
def ShownCell.name : ShownCell → String
  | column name _ _ _ => name
  | counter name _ => name

/-- The value of a column. -/
def ShownCell.value : ShownCell → String
  | column _ value _ _ => value
  | counter _ value => value

/-- The names and the values of an entry. -/
def ShownEntry.texts : ShownEntry → List String
  | .cell inner => [inner.name, inner.value]
  | .superColumn name cells => name :: cells.flatMap fun cell => [cell.name, cell.value]

namespace Report

open Text (OpensLine begun stacked)

/-- The line between two rows. -/
def dashes : List Char :=
  "-------------------".toList

/-- What the line of a row begins with. -/
def rowMark : List Char :=
  "RowKey: ".toList

/-- What the line of an entry begins with. -/
def entryMark : List Char :=
  "=> (".toList

/-- Whether each line that looks like that of a row comes directly behind a line of dashes. -/
def Separated (lines : List (List Char)) : Prop :=
  ∀ before line behind, lines = before ++ line :: behind → rowMark <+: line →
    before.getLast? = some dashes

/-- Whether rows can be read off some lines. -/
structure ReadsBack (rows : List ShownRow) (lines : List (List Char)) : Prop where
  keys : begun rowMark lines = rows.map fun row => rowMark ++ row.key.toList
  separated : Separated lines
  entries : (begun entryMark lines).length = (rows.flatMap ShownRow.entries).length
  count : ∃ before, lines = before ++ [(rowCount rows.length).toList, []]

/-- Whether no key goes beyond its line, and no name and no value has a line that looks like that of
a row or of an entry. -/
def Plain (rows : List ShownRow) : Prop :=
  ∀ row ∈ rows, '\n' ∉ row.key.toList ∧
    ∀ entry ∈ row.entries, ∀ text ∈ entry.texts,
      ¬ OpensLine rowMark text.toList ∧ ¬ OpensLine entryMark text.toList

instance (rows : List ShownRow) : Decidable (Plain rows) :=
  inferInstanceAs (Decidable (∀ row ∈ rows, _ ∧ ∀ entry ∈ row.entries, ∀ text ∈ entry.texts, _ ∧ _))

/-! ### Cells and entries -/

/-- What tells the beginning of a line from what is written around names and values. -/
structure IsMark (start : List Char) : Prop where
  filled : start ≠ []
  noFeed : '\n' ∉ start
  noComma : ',' ∉ start
  noBracket : ')' ∉ start
  noBlank : ∀ text, ¬ start <+: ' ' :: text
  noDigit : ∀ c text, c.isDigit = true → ¬ start <+: c :: text

theorem isMark_rowMark : IsMark rowMark where
  filled := by decide
  noFeed := by decide
  noComma := by decide
  noBracket := by decide
  noBlank _ early := absurd (List.cons_prefix_cons.1 early).1 (by decide)
  noDigit _ _ digit early := absurd ((List.cons_prefix_cons.1 early).1 ▸ digit) (by decide)

theorem isMark_entryMark : IsMark entryMark where
  filled := by decide
  noFeed := by decide
  noComma := by decide
  noBracket := by decide
  noBlank _ early := absurd (List.cons_prefix_cons.1 early).1 (by decide)
  noDigit _ _ digit early := absurd ((List.cons_prefix_cons.1 early).1 ▸ digit) (by decide)

theorem feed_not_mem_write (value : Int) : '\n' ∉ (Numeral.write value).toList := by
  intro feed
  rcases Numeral.mem_write feed with sign | digit
  · exact absurd sign (by decide)
  · exact absurd digit (by decide)

theorem feed_not_mem_of_shownNumber {value : Int} {text : String}
    (shown : shownNumber value = .ok text) : '\n' ∉ text.toList := by
  rw [State.shownNumber_eq] at shown
  split at shown
  · cases shown
    exact feed_not_mem_write value
  · cases shown

theorem feed_not_mem_of_numberText {value : Option Int} {text : String}
    (shown : numberText value = .ok text) : '\n' ∉ text.toList := by
  cases value with
  | none =>
    cases shown
    decide
  | some value => exact feed_not_mem_of_shownNumber shown

variable {start : List Char} {cell : ShownCell} {entry : ShownEntry} {row : ShownRow}
  {rows : List ShownRow} {newline text : String}

/-- Whether a text is a name and a value in brackets, each with a comma or a bracket behind it, and
with no line feed but those of the two. -/
def Brackets (name value : String) (text : List Char) : Prop :=
  ∃ front sign behind, text = ('(' :: front) ++ (name.toList ++
    ',' :: (" value=".toList ++ (value.toList ++ sign :: behind))) ∧
    '\n' ∉ front ∧ (sign = ',' ∨ sign = ')') ∧ '\n' ∉ behind

theorem brackets_column {name value time behind : String} (clock : '\n' ∉ time.toList)
    (oneLine : '\n' ∉ behind.toList) : Brackets name value
      (s!"(column={name}, value={value}, timestamp={time}" ++ behind).toList := by
  refine ⟨"column=".toList, ',', " timestamp=".toList ++ (time.toList ++ behind.toList), ?_,
    by decide, .inl rfl, ?_⟩
  · simp [toString]
  · simp [clock, oneLine]

theorem brackets_of_cellText (shown : cellText cell = .ok text) :
    Brackets cell.name cell.value text.toList := by
  cases cell with
  | counter name value =>
    cases shown
    refine ⟨"counter=".toList, ')', [], ?_, by decide, .inr rfl, List.not_mem_nil⟩
    simp [toString, ShownCell.name, ShownCell.value]
  | column name value timestamp ttl =>
    obtain ⟨time, told, shown⟩ := bind_eq_ok.1 shown
    have clock := feed_not_mem_of_numberText told
    dsimp only at shown
    split at shown
    · cases shown
      exact brackets_column clock (by decide)
    · cases shown
      exact brackets_column clock (by decide)
    · obtain ⟨seconds, live, same⟩ := bind_eq_ok.1 shown
      cases same
      refine brackets_column clock ?_
      simp [toString, feed_not_mem_of_shownNumber live]

variable (mark : IsMark start)

include mark

/-- A text in brackets opens the lines that the name and the value open. -/
theorem opensLine_brackets {name value : String} {text : List Char}
    (brackets : Brackets name value text) : OpensLine start text ↔
      OpensLine start name.toList ∨ OpensLine start value.toList := by
  obtain ⟨front, sign, behind, rfl, noFeed, signs, closed⟩ := brackets
  have absent : sign ∉ start ∧ '\n' ∉ sign :: behind := by
    rcases signs with rfl | rfl
    · exact ⟨mark.noComma, by simpa using closed⟩
    · exact ⟨mark.noBracket, by simpa using closed⟩
  rw [Text.opensLine_append (by simpa using noFeed), Text.opensLine_append_cons mark.noComma,
    Text.opensLine_cons_of_ne (by decide), Text.opensLine_append (by decide),
    Text.opensLine_append_cons absent.1, or_iff_left (Text.not_opensLine_of_not_mem absent.2)]

/-- The columns of a super column stand on lines of their own, which begin with blanks. -/
theorem opensLine_columns {cells : List ShownCell} {found : List String}
    (written : List.Forall₂ (fun cell line => ∃ inner, cellText cell = .ok inner ∧
      line.toList = '\n' :: ' ' :: ("    ".toList ++ inner.toList)) cells found) :
    OpensLine start (found.flatMap String.toList) ↔
      ∃ cell ∈ cells, OpensLine start cell.name.toList ∨ OpensLine start cell.value.toList := by
  induction written with
  | nil => simp [Text.not_opensLine_of_not_mem]
  | @cons cell line others later one rest ih =>
    obtain ⟨inner, shown, begins⟩ := one
    have apart : OpensLine start (inner.toList ++ later.flatMap String.toList) ↔
        OpensLine start inner.toList ∨ OpensLine start (later.flatMap String.toList) := by
      cases rest with
      | nil => simp [Text.not_opensLine_of_not_mem]
      | cons next _ =>
        obtain ⟨_, -, feed⟩ := next
        rw [List.flatMap_cons, feed]
        exact Text.opensLine_append_cons mark.noFeed
    rw [List.flatMap_cons, begins, List.cons_append, Text.opensLine_cons,
      or_iff_right fun early => mark.noBlank _ early.2, List.cons_append,
      Text.opensLine_cons_of_ne (by decide), List.append_assoc,
      Text.opensLine_append (by decide), apart, ih,
      opensLine_brackets mark (brackets_of_cellText shown)]
    simp only [List.mem_cons, exists_eq_or_imp]

/-- An entry opens the lines that its names and its values open. -/
theorem opensLine_entryText (shown : entryText "\n" entry = .ok text) :
    OpensLine start text.toList ↔ ∃ part ∈ entry.texts, OpensLine start part.toList := by
  cases entry with
  | cell cell =>
    obtain ⟨inner, written, same⟩ := bind_eq_ok.1 shown
    cases same
    rw [String.toList_append, Text.opensLine_append (by decide),
      opensLine_brackets mark (brackets_of_cellText written)]
    simp [ShownEntry.texts]
  | superColumn name cells =>
    obtain ⟨found, written, same⟩ := bind_eq_ok.1 shown
    cases same
    have lined : (s!"=> (super_column={name}," ++ String.join found ++ ")").toList =
        "=> (super_column=".toList ++
          (name.toList ++ ',' :: (found.flatMap String.toList ++ ')' :: [])) := by
      simp [toString]
    have columns := opensLine_columns mark <| (forall₂_of_mapM_eq_ok written).imp
      fun cell line read => by
        obtain ⟨inner, shown, same⟩ := bind_eq_ok.1 read
        cases same
        exact ⟨inner, shown, by simp⟩
    rw [lined, Text.opensLine_append (by decide), Text.opensLine_append_cons mark.noComma,
      Text.opensLine_cons_of_ne (by decide), Text.opensLine_append_cons mark.noBracket, columns,
      or_iff_left (Text.not_opensLine_of_not_mem (by decide))]
    simp only [ShownEntry.texts]
    grind

omit mark

theorem prefix_entryText (shown : entryText newline entry = .ok text) :
    entryMark <+: text.toList := by
  cases entry with
  | cell cell =>
    obtain ⟨inner, written, same⟩ := bind_eq_ok.1 shown
    obtain ⟨front, sign, behind, bracket, -⟩ := brackets_of_cellText written
    cases same
    rw [String.toList_append, bracket]
    exact List.prefix_append ..
  | superColumn name cells =>
    obtain ⟨found, written, same⟩ := bind_eq_ok.1 shown
    cases same
    refine ⟨"super_column=".toList ++
      (name.toList ++ ',' :: (found.flatMap String.toList ++ [')'])), ?_⟩
    simp [entryMark, toString]

/-! ### Rows -/

/-- Whether a text is that of an entry: it begins as an entry does, and opens the lines that the
entry opens. -/
structure EntryText (entry : ShownEntry) (text : List Char) : Prop where
  marked : entryMark <+: text
  opens : ∀ start, IsMark start →
    (OpensLine start text ↔ ∃ part ∈ entry.texts, OpensLine start part.toList)

/-- Whether some texts are those of a row. -/
def RowTexts (row : ShownRow) (texts : List (List Char)) : Prop :=
  ∃ entries, texts = dashes :: (rowMark ++ row.key.toList) :: entries ∧
    List.Forall₂ EntryText row.entries entries

theorem rowTexts_of_rowLines {found : List String} (shown : rowLines "\n" row = .ok found) :
    RowTexts row (found.map String.toList) := by
  obtain ⟨entries, read, same⟩ := bind_eq_ok.1 shown
  cases same
  refine ⟨entries.map String.toList, ?_, ?_⟩
  · rw [List.map_cons, List.map_cons, String.toList_append]
    rfl
  · refine List.forall₂_map_right_iff.2 <|
      (forall₂_of_mapM_eq_ok read).imp fun entry text written => ?_
    exact ⟨prefix_entryText written, fun start mark => opensLine_entryText mark written⟩

theorem join_stacked (texts : List String) :
    (String.join (texts.map (· ++ "\n"))).toList = stacked (texts.map String.toList) := by
  simp [stacked, List.flatMap_map]

/-- The texts of a scan, one below another. -/
theorem stacked_of_outcome (shown : outcome "\n" (.rows rows) = .ok text) :
    ∃ texts, List.Forall₂ RowTexts rows texts ∧
      text.toList = stacked (texts.flatten ++ [[], (rowCount rows.length).toList]) := by
  obtain ⟨listed, found, same⟩ := bind_eq_ok.1 shown
  obtain ⟨texts, read, joined⟩ := bind_eq_ok.1 found
  cases same
  cases joined
  refine ⟨texts.map fun found => found.map String.toList, ?_, ?_⟩
  · refine List.forall₂_map_right_iff.2 <|
      (forall₂_of_mapM_eq_ok read).imp fun row found shown => ?_
    exact rowTexts_of_rowLines shown
  · rw [join_stacked, List.map_append, List.map_flatten]
    rfl

/-! ### Separation -/

theorem Separated.append {first second : List (List Char)} (front : Separated first)
    (back : Separated second) : Separated (first ++ second) := by
  intro before line behind same early
  rcases List.append_eq_append_iff.1 same with ⟨middle, rfl, rest⟩ | ⟨middle, inner, rest⟩
  · have last := back middle line behind rest early
    rw [List.getLast?_append, last]
    rfl
  · cases middle with
    | nil =>
      have last := back [] line behind rest.symm early
      cases last
    | cons other later =>
      obtain ⟨rfl, rfl⟩ := List.cons.inj rest
      exact front before line later inner early

/-- Where no line looks like that of a row there is nothing to separate. -/
theorem separated_of_begun_eq_nil {lines : List (List Char)} (none : begun rowMark lines = []) :
    Separated lines := by
  rintro before line behind rfl early
  refine absurd (List.isPrefixOf_iff_prefix.2 early) (List.filter_eq_nil_iff.1 none line ?_)
  exact List.mem_append_right before List.mem_cons_self

theorem separated_dashes (line : List Char) : Separated [dashes, line] := by
  intro before other behind same early
  match before, same with
  | [], same =>
    obtain ⟨rfl, -⟩ := List.cons.inj same
    exact absurd early (by decide)
  | [_], same =>
    obtain ⟨rfl, -⟩ := List.cons.inj same
    rfl
  | _ :: _ :: more, same => simp at same

/-! ### The lines of a row -/

section Row

variable {texts : List (List Char)}

theorem not_prefix_of_marked {text : List Char} (marked : entryMark <+: text) :
    ¬ rowMark <+: text := by
  obtain ⟨behind, rfl⟩ := marked
  exact fun early => absurd (List.cons_prefix_cons.1 early).1 (by decide)

theorem forall_marked {entries : List ShownEntry}
    (written : List.Forall₂ EntryText entries texts) : ∀ text ∈ texts, entryMark <+: text :=
  (forall_mem_iff_of_forall₂ written fun _ _ shown => iff_of_true trivial shown.marked).1
    fun _ _ => trivial

variable (written : RowTexts row texts)

include written

theorem RowTexts.begun_rowMark : begun rowMark texts = [rowMark ++ row.key.toList] := by
  obtain ⟨entries, rfl, listed⟩ := written
  have none : begun rowMark entries = [] := by
    refine List.filter_eq_nil_iff.2 fun text mem early => ?_
    exact not_prefix_of_marked (forall_marked listed text mem) (List.isPrefixOf_iff_prefix.1 early)
  rw [Text.begun_cons, Text.begun_cons, none, if_neg (by decide), if_pos (List.prefix_append ..)]
  rfl

theorem RowTexts.length_begun_entryMark : (begun entryMark texts).length = row.entries.length := by
  obtain ⟨entries, rfl, listed⟩ := written
  have all : begun entryMark entries = entries :=
    List.filter_eq_self.2 fun text mem =>
      List.isPrefixOf_iff_prefix.2 (forall_marked listed text mem)
  have other : ¬ entryMark <+: rowMark ++ row.key.toList :=
    fun early => absurd (List.cons_prefix_cons.1 early).1 (by decide)
  rw [Text.begun_cons, Text.begun_cons, all, if_neg (by decide), if_neg other, listed.length_eq]
  rfl

theorem RowTexts.opens (mark : IsMark start) :
    (∀ text ∈ texts, ¬ OpensLine start text) ↔ ¬ OpensLine start row.key.toList ∧
      ∀ entry ∈ row.entries, ∀ part ∈ entry.texts, ¬ OpensLine start part.toList := by
  obtain ⟨entries, rfl, listed⟩ := written
  have entries := forall_mem_iff_of_forall₂ listed fun entry text shown =>
    not_congr (shown.opens start mark).symm
  push Not at entries
  rw [List.forall_mem_cons, List.forall_mem_cons, Text.opensLine_append (by decide), ← entries,
    and_iff_right (Text.not_opensLine_of_not_mem (by decide))]

theorem RowTexts.separated (closed : ∀ text ∈ texts, ¬ OpensLine rowMark text) :
    Separated (texts.flatMap Text.lines) := by
  obtain ⟨entries, rfl, listed⟩ := written
  have noFeed := isMark_rowMark.noFeed
  obtain ⟨keyed, rest⟩ := List.forall_mem_cons.1 (List.forall_mem_cons.1 closed).2
  have whole : (dashes :: (rowMark ++ row.key.toList) :: entries).flatMap Text.lines =
      [dashes, Text.firstLine (rowMark ++ row.key.toList)] ++
        ((Text.lines (rowMark ++ row.key.toList)).tail ++ entries.flatMap Text.lines) := by
    rw [List.flatMap_cons, List.flatMap_cons, Text.lines_eq_cons (rowMark ++ _)]
    rfl
  have none : begun rowMark (entries.flatMap Text.lines) = [] := by
    rw [begun, List.filter_flatMap, List.flatMap_eq_nil_iff]
    intro text mem
    refine (Text.begun_lines noFeed text).trans ?_
    rw [if_neg (not_prefix_of_marked (forall_marked listed text mem)),
      (Text.begun_tail_eq_nil noFeed).2 (rest text mem)]
    rfl
  rw [whole]
  refine (separated_dashes _).append (separated_of_begun_eq_nil ?_)
  rw [begun, List.filter_append]
  exact List.append_eq_nil_iff.2 ⟨(Text.begun_tail_eq_nil noFeed).2 keyed, none⟩

end Row

/-! ### Scans -/

/-- The last line begins with a digit. -/
theorem rowCount_shape (count : Nat) : ∃ c behind, (rowCount count).toList = c :: behind ∧
    c.isDigit = true ∧ '\n' ∉ c :: behind := by
  unfold rowCount
  split
  · exact ⟨'1', " Row Returned.".toList, rfl, rfl, by decide⟩
  · obtain ⟨c, others, digits⟩ :=
      List.exists_cons_of_ne_nil (Nat.toDigits_ne_nil (n := count) (b := 10))
    have all := digits ▸ Numeral.allDigits_toDigits count
    refine ⟨c, others ++ " Rows Returned.".toList, ?_, all c List.mem_cons_self, fun feed => ?_⟩
    · rw [String.toList_append, Nat.toString_eq_ofList_toDigits, String.toList_ofList, digits]
      rfl
    · rcases List.mem_append.1 (List.cons_append ▸ feed) with digit | word
      · exact absurd (all _ digit) (by decide)
      · exact absurd word (by decide)

theorem not_prefix_rowCount (mark : IsMark start) (count : Nat) :
    ¬ start <+: (rowCount count).toList := by
  obtain ⟨c, behind, written, digit, -⟩ := rowCount_shape count
  exact written ▸ mark.noDigit c behind digit

section Scan

variable {texts : List (List (List Char))} (count : Nat)

theorem begun_scan (mark : IsMark start) (texts : List (List (List Char))) :
    begun start (texts.flatten ++ [[], (rowCount count).toList]) =
      (texts.map (begun start)).flatten := by
  have none : begun start [[], (rowCount count).toList] = [] := by
    rw [Text.begun_cons, Text.begun_cons, if_neg (mt List.prefix_nil.1 mark.filled),
      if_neg (not_prefix_rowCount mark count)]
    rfl
  rw [begun, List.filter_append, List.filter_flatten]
  exact (congrArg (_ ++ ·) none).trans (List.append_nil _)

variable (written : List.Forall₂ RowTexts rows texts)

include written

theorem begun_rowMark_scan : begun rowMark (texts.flatten ++ [[], (rowCount count).toList]) =
    rows.map fun row => rowMark ++ row.key.toList := by
  have same := map_eq_map_of_forall₂ written fun row texts shown => shown.begun_rowMark.symm
  rw [begun_scan count isMark_rowMark, ← same]
  exact List.map_eq_flatMap.symm

theorem length_begun_entryMark_scan :
    (begun entryMark (texts.flatten ++ [[], (rowCount count).toList])).length =
      (rows.flatMap ShownRow.entries).length := by
  have same := map_eq_map_of_forall₂ written fun row texts shown =>
    shown.length_begun_entryMark.symm
  rw [begun_scan count isMark_entryMark, List.length_flatten, List.map_map, List.length_flatMap,
    same]
  rfl

theorem opens_scan (mark : IsMark start) :
    (∀ text ∈ texts.flatten ++ [[], (rowCount count).toList], ¬ OpensLine start text) ↔
      ∀ row ∈ rows, ¬ OpensLine start row.key.toList ∧
        ∀ entry ∈ row.entries, ∀ part ∈ entry.texts, ¬ OpensLine start part.toList := by
  have none : ∀ text ∈ [[], (rowCount count).toList], ¬ OpensLine start text := by
    obtain ⟨c, behind, same, -, noFeed⟩ := rowCount_shape count
    rw [same]
    simp [Text.not_opensLine_of_not_mem, noFeed]
  rw [List.forall_mem_append, and_iff_left none, List.forall_mem_flatten]
  exact (forall_mem_iff_of_forall₂ written fun row texts shown => (shown.opens mark).symm).symm

theorem separated_scan (closed : ∀ text ∈ texts.flatten, ¬ OpensLine rowMark text) :
    Separated (texts.flatten.flatMap Text.lines) := by
  induction written with
  | nil => exact separated_of_begun_eq_nil rfl
  | cons shown _ ih =>
    rw [List.flatten_cons] at closed ⊢
    obtain ⟨first, rest⟩ := List.forall_mem_append.1 closed
    rw [List.flatMap_append]
    exact (shown.separated first).append (ih rest)

end Scan

/-- The lines of a scan end with the number of rows. -/
theorem lines_scan (texts : List (List Char)) (count : Nat) :
    Text.lines (stacked (texts ++ [[], (rowCount count).toList])) =
      texts.flatMap Text.lines ++ [[], (rowCount count).toList, []] := by
  obtain ⟨c, behind, same, -, noFeed⟩ := rowCount_shape count
  have last : Text.lines (rowCount count).toList = [(rowCount count).toList] :=
    List.splitOn_eq_singleton (same ▸ noFeed)
  rw [Text.lines_stacked, List.flatMap_append, List.append_assoc, List.flatMap_cons,
    List.flatMap_singleton, last]
  rfl

/-- The rows of a scan can be read off its lines just if its texts are plain. -/
theorem readsBack_iff (shown : outcome "\n" (.rows rows) = .ok text) :
    ReadsBack rows (Text.lines text.toList) ↔ Plain rows := by
  obtain ⟨texts, written, same⟩ := stacked_of_outcome shown
  have closed {start : List Char} (mark : IsMark start) :=
    (Text.length_begun_stacked_le_iff mark.noFeed mark.filled _).trans
      (opens_scan rows.length written mark)
  rw [same]
  constructor
  · intro reads
    have noRow := (closed isMark_rowMark).1 (by rw [reads.keys, begun_rowMark_scan _ written])
    have noEntry := (closed isMark_entryMark).1
      (by rw [reads.entries, length_begun_entryMark_scan _ written])
    intro row mem
    refine ⟨fun feed => ?_, fun entry inside part has =>
      ⟨(noRow row mem).2 entry inside part has, (noEntry row mem).2 entry inside part has⟩⟩
    -- A key stands on one of the lines, and none of these has a line feed.
    have named : rowMark ++ row.key.toList ∈ begun rowMark _ :=
      reads.keys ▸ List.mem_map_of_mem mem
    exact Text.feed_not_mem _ _ (List.mem_of_mem_filter named) (List.mem_append_right _ feed)
  · intro plain
    have noRow := (opens_scan rows.length written isMark_rowMark).2 fun row mem =>
      ⟨Text.not_opensLine_of_not_mem (plain row mem).1,
        fun entry inside part has => ((plain row mem).2 entry inside part has).1⟩
    have noEntry := (opens_scan rows.length written isMark_entryMark).2 fun row mem =>
      ⟨Text.not_opensLine_of_not_mem (plain row mem).1,
        fun entry inside part has => ((plain row mem).2 entry inside part has).2⟩
    refine ⟨?keys, ?separated, ?entries, ?count⟩
    case keys =>
      rw [Text.begun_stacked isMark_rowMark.noFeed isMark_rowMark.filled noRow,
        begun_rowMark_scan _ written, List.map_map]
      refine List.map_congr_left fun row mem => Text.firstLine_of_not_mem fun feed => ?_
      rcases List.mem_append.1 feed with front | key
      · exact isMark_rowMark.noFeed front
      · exact (plain row mem).1 key
    case separated =>
      rw [lines_scan]
      refine (separated_scan written (List.forall_mem_append.1 noRow).1).append ?_
      refine separated_of_begun_eq_nil ?_
      rw [Text.begun_cons, Text.begun_cons, if_neg (by decide),
        if_neg (not_prefix_rowCount isMark_rowMark _)]
      rfl
    case entries =>
      rw [Text.begun_stacked isMark_entryMark.noFeed isMark_entryMark.filled noEntry,
        List.length_map, length_begun_entryMark_scan _ written]
    case count =>
      refine ⟨texts.flatten.flatMap Text.lines ++ [[]], ?_⟩
      rw [lines_scan, List.append_assoc]
      rfl

end Report

end WideColumn
