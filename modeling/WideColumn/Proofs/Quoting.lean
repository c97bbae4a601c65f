import WideColumn.Proofs.Codec.Hexadecimal
import WideColumn.Text.Quoted

/-!
# Texts that show where they end

A way of writing is self-delimiting if what it writes can be told from all that may come behind it:
then nothing is lost, and nothing inside can pass for the end. Quoting is, whichever quote it takes
and whatever characters it writes by number (`selfDelimiting_quoted`), and so are lists and records
of what is.
-/

namespace WideColumn.Text

variable {α β : Type}

/-! ### Ends of texts -/

/-- Whether neither of two texts goes on where the other one ends. -/
def Delimited (first second : String) : Prop :=
  ∀ rest more : List Char, first.toList ++ rest = second.toList ++ more → first = second

/-- Whether values can be told from what is written, whatever comes behind it. -/
def SelfDelimiting (write : α → String) : Prop :=
  ∀ first second (rest more : List Char),
    (write first).toList ++ rest = (write second).toList ++ more → first = second

theorem SelfDelimiting.delimited {write : α → String} (self : SelfDelimiting write)
    (first second : α) : Delimited (write first) (write second) :=
  fun rest more same => congrArg write (self first second rest more same)

theorem SelfDelimiting.injective {write : α → String} (self : SelfDelimiting write) :
    Function.Injective write :=
  fun first second same => self first second [] [] (by rw [same])

theorem Delimited.rest {first second : String} (delimited : Delimited first second)
    {rest more : List Char} (same : first.toList ++ rest = second.toList ++ more) :
    first = second ∧ rest = more := by
  obtain rfl := delimited rest more same
  exact ⟨rfl, List.append_cancel_left same⟩

theorem Delimited.refl (text : String) : Delimited text text :=
  fun _ _ _ => rfl

theorem Delimited.append {first second third fourth : String} (heads : Delimited first second)
    (tails : Delimited third fourth) : Delimited (first ++ third) (second ++ fourth) := by
  intro rest more same
  simp only [String.toList_append, List.append_assoc] at same
  obtain ⟨rfl, later⟩ := heads.rest same
  rw [tails rest more later]

/-! ### Quoted characters -/

/-- The character with a number in hexadecimal digits, and what comes behind the digits. -/
def readNumber (width : Nat) (text : List Char) : Char × List Char :=
  let values := (text.take width).map fun digit => (Bytes.hexDigit? digit).getD 0
  (Char.ofNat (Numeral.ofDigits 16 values), text.drop width)

/-- The first character of what is written between quotes, and the rest. -/
def readQuoted : List Char → Option (Char × List Char)
  | '\\' :: 'n' :: rest => some ('\n', rest)
  | '\\' :: 'r' :: rest => some ('\r', rest)
  | '\\' :: 't' :: rest => some ('\t', rest)
  | '\\' :: 'x' :: rest => some (readNumber 2 rest)
  | '\\' :: 'u' :: rest => some (readNumber 4 rest)
  | '\\' :: 'U' :: rest => some (readNumber 8 rest)
  | '\\' :: c :: rest => some (c, rest)
  | c :: rest => some (c, rest)
  | [] => none

theorem readNumber_hexOfNat {width number : Nat} (small : number < 16 ^ width)
    (rest : List Char) :
    readNumber width (Bytes.hexOfNat width number ++ rest) = (Char.ofNat number, rest) := by
  obtain ⟨values, length, below, written, spelled⟩ := Bytes.exists_values width number
  have width_eq : (values.map Bytes.hexDigit).length = width := by rw [List.length_map, length]
  have read : (values.map Bytes.hexDigit).map (fun digit => (Bytes.hexDigit? digit).getD 0) =
      values := by
    rw [List.map_map]
    refine (List.map_congr_left fun value mem => ?_).trans (List.map_id values)
    rw [Function.comp_apply, Bytes.hexDigit?_hexDigit value (below value mem)]
    rfl
  unfold readNumber
  dsimp only
  rw [written, List.take_left' width_eq, List.drop_left' width_eq, read, spelled,
    Nat.mod_eq_of_lt small]

/-- Either quote. -/
def IsQuote (c : Char) : Prop :=
  c = '\'' ∨ c = '"'

theorem isQuote_quoteFor (text : List Char) : IsQuote (quoteFor text) := by
  unfold quoteFor
  split
  · exact .inr rfl
  · exact .inl rfl

variable {shows : Char → Bool} {mark : Char}

theorem readQuoted_numbered (c : Char) (rest : List Char) :
    readQuoted (numbered c.toNat ++ rest) = some (c, rest) := by
  have same : Char.ofNat c.toNat = c := Char.ofNat_toNat c
  unfold numbered
  split
  · rename_i small
    rw [List.cons_append, List.cons_append, readQuoted,
      readNumber_hexOfNat (by omega : c.toNat < 16 ^ 2), same]
  · split
    · rename_i small
      rw [List.cons_append, List.cons_append, readQuoted,
        readNumber_hexOfNat (by omega : c.toNat < 16 ^ 4), same]
    · have small : c.toNat < 16 ^ 8 := c.val.toNat_lt
      rw [List.cons_append, List.cons_append, readQuoted, readNumber_hexOfNat small, same]

/-- Each character is read back from what is written for it. -/
theorem readQuoted_quoteChar (isQuote : IsQuote mark) (c : Char) (rest : List Char) :
    readQuoted (quoteChar shows mark c ++ rest) = some (c, rest) := by
  unfold quoteChar
  split
  · rename_i marked
    rcases marked with rfl | rfl
    · rcases isQuote with rfl | rfl <;> rfl
    · rfl
  · rename_i unmarked
    split
    · rename_i same
      rw [same]
      rfl
    · split
      · rename_i same
        rw [same]
        rfl
      · split
        · rename_i same
          rw [same]
          rfl
        · split
          · have plain : c ≠ '\\' := fun same => unmarked (.inr same)
            rw [List.singleton_append]
            unfold readQuoted
            split <;> simp_all
          · exact readQuoted_numbered c rest

/-- What is written for a character does not begin with the quote. -/
theorem quoteChar_begins (isQuote : IsQuote mark) (c : Char) :
    ∃ head rest, quoteChar shows mark c = head :: rest ∧ head ≠ mark := by
  have apart : '\\' ≠ mark := by
    rcases isQuote with rfl | rfl <;> decide
  have escape (tail : List Char) : ∃ head rest, '\\' :: tail = head :: rest ∧ head ≠ mark :=
    ⟨_, _, rfl, apart⟩
  unfold quoteChar
  split
  · exact escape _
  · rename_i unmarked
    split
    · exact escape _
    · split
      · exact escape _
      · split
        · exact escape _
        · split
          · exact ⟨c, [], rfl, fun same => unmarked (.inl same)⟩
          · unfold numbered
            split
            · exact escape _
            · split <;> exact escape _

/-! ### Quoted texts -/

/-- Characters between quotes and the quote behind them: the quote ends them, because no character
is written with a quote in front, and before it each character is read back. -/
theorem inside_inj (isQuote : IsQuote mark) {text other rest more : List Char}
    (same : text.flatMap (quoteChar shows mark) ++ mark :: rest =
      other.flatMap (quoteChar shows mark) ++ mark :: more) : text = other ∧ rest = more := by
  have ended (c : Char) (after later : List Char) :
      mark :: after ≠ quoteChar shows mark c ++ later := by
    obtain ⟨head, tail, written, apart⟩ : ∃ head rest,
        quoteChar shows mark c = head :: rest ∧ head ≠ mark := quoteChar_begins isQuote c
    intro same
    rw [written] at same
    exact apart (List.cons.inj same).1.symm
  induction text generalizing other with
  | nil =>
    cases other with
    | nil => exact ⟨rfl, (List.cons.inj same).2⟩
    | cons d others =>
      rw [List.flatMap_cons, List.append_assoc] at same
      exact absurd same (ended d _ _)
  | cons c text ih =>
    cases other with
    | nil =>
      rw [List.flatMap_cons, List.append_assoc] at same
      exact absurd same.symm (ended c _ _)
    | cons d others =>
      rw [List.flatMap_cons, List.flatMap_cons, List.append_assoc, List.append_assoc] at same
      have read := congrArg readQuoted same
      rw [readQuoted_quoteChar isQuote, readQuoted_quoteChar isQuote] at read
      obtain ⟨rfl, behind⟩ := Prod.mk.inj (Option.some.inj read)
      obtain ⟨rfl, later⟩ := ih behind
      exact ⟨rfl, later⟩

theorem quoteWith_inj {text other rest more : List Char}
    (same : quoteWith shows text ++ rest = quoteWith shows other ++ more) :
    text = other ∧ rest = more := by
  simp only [quoteWith, List.cons_append, List.append_assoc, List.nil_append] at same
  obtain ⟨mark, inside⟩ := List.cons.inj same
  rw [← mark] at inside
  exact inside_inj (isQuote_quoteFor text) inside

theorem selfDelimiting_quoted : SelfDelimiting quoted := by
  intro first second rest more same
  simp only [quoted, quote, String.toList_ofList] at same
  exact String.toList_inj.1 (quoteWith_inj same).1

theorem selfDelimiting_quotedBytes : SelfDelimiting Bytes.quoted := by
  intro first second rest more same
  simp only [Bytes.quoted, String.toList_ofList, List.cons_append] at same
  have chars := (quoteWith_inj (List.cons.inj same).2).1
  refine List.map_injective_iff.2 (fun byte other equal => ?_) chars
  have number (byte : UInt8) : (Char.ofNat byte.toNat).toNat = byte.toNat := by
    have below := byte.toNat_lt
    have valid : byte.toNat.isValidChar := .inl (by omega)
    rw [Char.ofNat, dif_pos valid]
    rfl
  exact UInt8.toNat_inj.1 ((number byte).symm.trans (equal ▸ number other))

/-- A quoted text begins with a quote. -/
theorem quoted_begins (text : String) : ∃ mark rest, (quoted text).toList = mark :: rest ∧
    IsQuote mark := by
  rw [quoted, String.toList_ofList]
  exact ⟨quoteFor text.toList, _, rfl, isQuote_quoteFor _⟩

/-! ### Lists -/

/-- What comes behind the first item between brackets. -/
def following (closing : String) (items : List String) : List Char :=
  items.flatMap (fun item => ", ".toList ++ item.toList) ++ closing.toList

theorem toList_enclosed_cons (opening closing item : String) (items : List String) :
    (enclosed opening closing (item :: items)).toList =
      opening.toList ++ (item.toList ++ following closing items) := by
  have joined (item : String) : (", ".intercalate (item :: items)).toList =
      item.toList ++ items.flatMap fun item => ", ".toList ++ item.toList := by
    induction items generalizing item with
    | nil => simp
    | cons next items ih =>
      rw [String.intercalate_cons_cons, String.toList_append, String.toList_append, ih,
        List.flatMap_cons]
      simp only [List.append_assoc]
  rw [enclosed, String.toList_append, String.toList_append, joined, following]
  simp only [List.append_assoc]

/-- Whether items at the same position in two lists can be told apart. -/
def Aligned (items others : List String) : Prop :=
  ∀ pair ∈ items.zip others, Delimited pair.1 pair.2

theorem Aligned.of_cons {item other : String} {items others : List String}
    (aligned : Aligned (item :: items) (other :: others)) :
    Delimited item other ∧ Aligned items others :=
  List.forall_mem_cons.1 aligned

theorem following_inj {closing : String} {c : Char} (closes : closing.toList = [c])
    (apart : c ≠ ',') {items others : List String} (aligned : Aligned items others)
    {rest more : List Char}
    (same : following closing items ++ rest = following closing others ++ more) :
    items = others ∧ rest = more := by
  have comma : ", ".toList = [',', ' '] := rfl
  induction items generalizing others with
  | nil =>
    cases others with
    | nil => exact ⟨rfl, List.append_cancel_left same⟩
    | cons other others =>
      simp only [following, closes, comma, List.flatMap_nil, List.flatMap_cons, List.nil_append,
        List.cons_append] at same
      exact absurd (List.cons.inj same).1 apart
  | cons item items ih =>
    cases others with
    | nil =>
      simp only [following, closes, comma, List.flatMap_nil, List.flatMap_cons, List.nil_append,
        List.cons_append] at same
      exact absurd (List.cons.inj same).1.symm apart
    | cons other others =>
      simp only [following, List.flatMap_cons, List.append_assoc] at same ih
      obtain ⟨first, later⟩ := aligned.of_cons
      obtain ⟨rfl, behind⟩ := first.rest (List.append_cancel_left same)
      obtain ⟨rfl, ends⟩ := ih later behind
      exact ⟨rfl, ends⟩

/-- Items between brackets, at least one in each list. -/
theorem enclosed_inj_of_cons {opening closing : String} {c : Char} (closes : closing.toList = [c])
    (apart : c ≠ ',') {item other : String} {items others : List String}
    (aligned : Aligned (item :: items) (other :: others)) {rest more : List Char}
    (same : (enclosed opening closing (item :: items)).toList ++ rest =
      (enclosed opening closing (other :: others)).toList ++ more) :
    item :: items = other :: others ∧ rest = more := by
  simp only [toList_enclosed_cons, List.append_assoc] at same
  obtain ⟨first, later⟩ := aligned.of_cons
  obtain ⟨rfl, behind⟩ := first.rest (List.append_cancel_left same)
  obtain ⟨rfl, ends⟩ := following_inj closes apart later behind
  exact ⟨rfl, ends⟩

/-- A list of items between brackets can be told from what comes behind it if its items can, and
none of them begins as the list ends. -/
theorem selfDelimiting_enclosed {opening closing : String} {c : Char} (closes : closing.toList = [c])
    (apart : c ≠ ',') {write : α → String} (self : SelfDelimiting write)
    (begins : ∀ item, ∃ head rest, (write item).toList = head :: rest ∧ head ≠ c) :
    SelfDelimiting fun items : List α => enclosed opening closing (items.map write) := by
  intro items others rest more same
  have empty : (enclosed opening closing []).toList = opening.toList ++ [c] := by
    simp [enclosed, closes]
  have mixed (item : α) (later : List α) (after behind : List Char) :
      (enclosed opening closing []).toList ++ after ≠
        (enclosed opening closing ((item :: later).map write)).toList ++ behind := by
    obtain ⟨head, tail, written, apart⟩ := begins item
    intro same
    rw [empty, List.map_cons, toList_enclosed_cons, List.append_assoc, List.append_assoc,
      written] at same
    exact apart (List.cons.inj (List.append_cancel_left same)).1.symm
  cases items with
  | nil =>
    cases others with
    | nil => rfl
    | cons other others => exact absurd same (mixed other others rest more)
  | cons item items =>
    cases others with
    | nil => exact absurd same.symm (mixed item items more rest)
    | cons other others =>
      have aligned : Aligned ((item :: items).map write) ((other :: others).map write) := by
        rintro ⟨first, second⟩ mem
        obtain ⟨inFirst, inSecond⟩ := List.of_mem_zip mem
        obtain ⟨x, -, rfl⟩ := List.mem_map.1 inFirst
        obtain ⟨y, -, rfl⟩ := List.mem_map.1 inSecond
        exact self.delimited x y
      exact List.map_injective_iff.2 self.injective
        (enclosed_inj_of_cons closes apart aligned same).1

/-- The entries of a table are told apart by the quotes. -/
theorem selfDelimiting_quotedEntries : SelfDelimiting quotedEntries := by
  refine selfDelimiting_enclosed rfl (by decide) ?_ fun entry => ?_
  · rintro ⟨key, value⟩ ⟨other, content⟩ rest more same
    simp only [String.toList_append, List.append_assoc] at same
    obtain ⟨keys, same⟩ := (selfDelimiting_quoted.delimited key other).rest same
    have values := selfDelimiting_quoted _ _ _ _ (List.append_cancel_left same)
    rw [selfDelimiting_quoted.injective keys, values]
  · obtain ⟨mark, rest, begins, isQuote⟩ := quoted_begins entry.1
    refine ⟨mark, rest ++ (": " ++ quoted entry.2).toList, ?_, ?_⟩
    · simp only [String.toList_append, begins, List.append_assoc, List.cons_append]
    · rcases isQuote with rfl | rfl <;> decide

end WideColumn.Text
