import WideColumn.Proofs.Grammar.Exactness
import WideColumn.Proofs.Script.Tokens
import WideColumn.Proofs.Success

/-!
# Where a statement names a column family

A statement about a column family names it right behind one of twelve groups of keywords
(`Naming.exists_of_parse`), so the name can be found before the statement is understood. Another
word of the same length leaves the other tokens as they are (`Naming.read_eq`), and a tree over the
tokens has the name as a leaf that can be replaced (`Grammar.Command.exists_fill`). So a statement
states the same command with one name as with the other, but for the name (`Naming.parse_renamed`).
-/

namespace WideColumn

/-! ### Commands about a column family -/

namespace Command

/-- The column family that a command is about, as the statement names it. -/
def family? : Command → Option String
  | updateFamily name _ => some name
  | dropFamily name => some name
  | dropIndex name _ => some name
  | assume name _ _ => some name
  | set address _ _ => some address.family
  | get address _ _ => some address.family
  | getWhere name _ _ => some name
  | del address => some address.family
  | incr address _ => some address.family
  | decr address _ => some address.family
  | count address => some address.family
  | list name _ _ _ => some name
  | truncate name => some name
  | _ => none

/-- The same command about a column family of another name. -/
def withFamily (name : String) : Command → Command
  | updateFamily _ attributes => updateFamily name attributes
  | dropFamily _ => dropFamily name
  | dropIndex _ column => dropIndex name column
  | assume _ kind validator => assume name kind validator
  | set address value ttl => set { address with family := name } value ttl
  | get address validator limit => get { address with family := name } validator limit
  | getWhere _ conditions limit => getWhere name conditions limit
  | del address => del { address with family := name }
  | incr address amount => incr { address with family := name } amount
  | decr address amount => decr { address with family := name } amount
  | count address => count { address with family := name }
  | list _ start stop limit => list name start stop limit
  | truncate _ => truncate name
  | command => command

end Command

/-- The keywords that the name of a column family may stand behind. -/
def familyLeads : List (List Keyword) :=
  [[.assume], [.set], [.get], [.del], [.incr], [.decr], [.count], [.list], [.truncate],
    [.drop, .index, .on], [.drop, .column, .family], [.update, .column, .family]]

theorem nonempty_familyLeads : ∀ lead ∈ familyLeads, lead ≠ [] := by
  decide

/-- Groups of keywords that begin in the same way are as long as each other. -/
theorem length_familyLeads : ∀ lead ∈ familyLeads, ∀ other ∈ familyLeads,
    lead.head? = other.head? → lead.length = other.length := by
  decide

/-- A keyspace is updated and dropped by another second keyword. -/
theorem second_familyLeads : ∀ lead ∈ familyLeads,
    lead.head? = some .update ∨ lead.head? = some .drop →
      lead.tail.head? ≠ none ∧ lead.tail.head? ≠ some .keyspace := by
  decide

/-! ### The name as a leaf -/

namespace Grammar

/-- Renaming the column family of a command that is worth something. -/
def Renames (value renamed : Except ParseFailure WideColumn.Command) (name other : String) : Prop :=
  ∀ command, value = .ok command →
    command.family? = some name ∧ renamed = .ok (command.withFamily other)

theorem ColumnRef.value_ok {family other : Word} {brackets : BracketList} {address : Address}
    (valued : ColumnRef.value ⟨family, brackets⟩ = .ok address) :
    address.family = family.value ∧
      ColumnRef.value ⟨other, brackets⟩ = .ok { address with family := other.value } := by
  unfold ColumnRef.value at valued ⊢
  dsimp only at valued ⊢
  split at valued
  · cases valued
    exact ⟨rfl, rfl⟩
  · cases valued

namespace Command

/-- The tokens in front of the name of a column family, the name, and the command with a hole in
its place. -/
def fill? : Command → Option (List Token × Word × (Word → Command))
  | updateFamily lead column family name attributes =>
    some ([lead.token, column.token, family.token], name,
      fun word => updateFamily lead column family word attributes)
  | dropFamily lead column family name =>
    some ([lead.token, column.token, family.token], name,
      fun word => dropFamily lead column family word)
  | dropIndex lead index on family dot column =>
    some ([lead.token, index.token, on.token], family,
      fun word => dropIndex lead index on word dot column)
  | assume lead family kind link validator =>
    some ([lead.token], family, fun word => assume lead word kind link validator)
  | set lead address equal content ttl =>
    some ([lead.token], address.family,
      fun word => set lead ⟨word, address.brackets⟩ equal content ttl)
  | get lead address validator limit =>
    some ([lead.token], address.family,
      fun word => get lead ⟨word, address.brackets⟩ validator limit)
  | getWhere lead family link conditions limit =>
    some ([lead.token], family, fun word => getWhere lead word link conditions limit)
  | del lead address =>
    some ([lead.token], address.family, fun word => del lead ⟨word, address.brackets⟩)
  | incr lead address amount =>
    some ([lead.token], address.family, fun word => incr lead ⟨word, address.brackets⟩ amount)
  | decr lead address amount =>
    some ([lead.token], address.family, fun word => decr lead ⟨word, address.brackets⟩ amount)
  | count lead address =>
    some ([lead.token], address.family, fun word => count lead ⟨word, address.brackets⟩)
  | list lead family range limit =>
    some ([lead.token], family, fun word => list lead word range limit)
  | truncate lead family => some ([lead.token], family, fun word => truncate lead word)
  | _ => none

variable {command : Command} {front : List Token} {word : Word} {fill : Word → Command}

theorem fill_self (filled : command.fill? = some (front, word, fill)) : fill word = command := by
  cases command <;> cases filled <;> rfl

theorem lead_mem (filled : command.fill? = some (front, word, fill)) :
    ∃ lead ∈ familyLeads, front.map Token.kind = lead.map .keyword := by
  cases command <;> cases filled <;> simp [familyLeads]

theorem yield_fill (filled : command.fill? = some (front, word, fill)) :
    ∃ later, ∀ other, (fill other).yield = front ++ other.token :: later := by
  cases command <;> cases filled <;>
    exact ⟨_, fun other => by
      simp only [yield, Terminal.yield, Word.yield, ColumnRef.yield, List.append_assoc,
        List.cons_append, List.nil_append]
      rfl⟩

theorem renames_fill (filled : command.fill? = some (front, word, fill)) (other : Word) :
    Renames (fill word).value (fill other).value word.value other.value := by
  intro meant valued
  cases command <;> cases filled
  case updateFamily | getWhere | list =>
    obtain ⟨found, given, same⟩ := bind_eq_ok.1 valued
    cases same
    exact ⟨rfl, bind_eq_ok.2 ⟨found, given, rfl⟩⟩
  case dropFamily | dropIndex | assume | truncate =>
    cases valued
    exact ⟨rfl, rfl⟩
  case del | count =>
    obtain ⟨address, placed, same⟩ := bind_eq_ok.1 valued
    obtain ⟨named, renamed⟩ := ColumnRef.value_ok placed
    cases same
    exact ⟨congrArg some named, bind_eq_ok.2 ⟨_, renamed, rfl⟩⟩
  case set | get | incr | decr =>
    obtain ⟨address, placed, rest⟩ := bind_eq_ok.1 valued
    obtain ⟨named, renamed⟩ := ColumnRef.value_ok placed
    obtain ⟨found, given, same⟩ := bind_eq_ok.1 rest
    cases same
    exact ⟨congrArg some named, bind_eq_ok.2 ⟨_, renamed, bind_eq_ok.2 ⟨found, given, rfl⟩⟩⟩

theorem leadKind_of_led {lead : List Keyword} {later tail : List Token} (led : lead ∈ familyLeads)
    (kinds : front.map Token.kind = lead.map .keyword)
    (yield : command.yield ++ tail = front ++ later) :
    lead.head?.map Token.Kind.keyword = some command.leadKind := by
  obtain ⟨keyword, rest, rfl⟩ := List.exists_cons_of_ne_nil (nonempty_familyLeads lead led)
  obtain ⟨token, more, rfl, kind, -⟩ := List.map_eq_cons_iff.1 kinds
  rw [← command.head_yield tail, yield, List.cons_append, List.head?_cons, List.head?_cons,
    Option.map_some, Option.map_some, kind]

/-- A command that names no column family begins in another way than those that do. -/
theorem fill_isSome {lead : List Keyword} {later tail : List Token} (led : lead ∈ familyLeads)
    (kinds : front.map Token.kind = lead.map .keyword)
    (yield : command.yield ++ tail = front ++ later) : command.fill?.isSome = true := by
  obtain ⟨keyword, rest, rfl⟩ := List.exists_cons_of_ne_nil (nonempty_familyLeads lead led)
  obtain ⟨token, more, rfl, kind, restKinds⟩ := List.map_eq_cons_iff.1 kinds
  have first : command.leadKind = .keyword keyword :=
    (Option.some.inj (leadKind_of_led led kinds yield)).symm
  have apart {other : Keyword} (same : command.leadKind = .keyword other)
      (unled : ∀ lead ∈ familyLeads, lead.head? ≠ some other) : False := by
    obtain rfl : keyword = other := Token.Kind.keyword.inj (first.symm.trans same)
    exact unled _ led rfl
  have keyspaceApart {second : Token} {others : List Token}
      (either : keyword = .update ∨ keyword = .drop) (same : second.kind = .keyword .keyspace)
      (tokens : more ++ later = second :: others) : False := by
    obtain ⟨longer, unlike⟩ := second_familyLeads _ led (either.imp (congrArg some) (congrArg some))
    cases rest with
    | nil => exact longer rfl
    | cons follower rest =>
      obtain ⟨other, more, rfl, kind, -⟩ := List.map_eq_cons_iff.1 restKinds
      obtain ⟨rfl, -⟩ := List.cons.inj tokens
      exact unlike (congrArg some (Token.Kind.keyword.inj (kind.symm.trans same)))
  cases command
  case updateKeyspace lead kind name attributes =>
    have update : keyword = .update := (Token.Kind.keyword.inj first).symm
    exact (keyspaceApart (.inl update) kind.kind_eq (List.cons.inj yield).2.symm).elim
  case dropKeyspace lead kind name =>
    have drop : keyword = .drop := (Token.Kind.keyword.inj first).symm
    exact (keyspaceApart (.inr drop) kind.kind_eq (List.cons.inj yield).2.symm).elim
  case question => cases first
  case useWord | useQuoted => exact (apart rfl (by decide)).elim
  case connect => exact (apart rfl (by decide)).elim
  case exit => exact (apart rfl (by decide)).elim
  case quit => exact (apart rfl (by decide)).elim
  case createKeyspace | createFamily => exact (apart rfl (by decide)).elim
  case describe | describeWords => exact (apart rfl (by decide)).elim
  case «show» => exact (apart rfl (by decide)).elim
  case help | helpWords => exact (apart rfl (by decide)).elim
  all_goals rfl

/-- Where a command has keywords and a word that names a column family behind them, the word can be
replaced. -/
theorem exists_fill {lead : List Keyword} {later tail : List Token} {token : Token}
    (led : lead ∈ familyLeads) (kinds : front.map Token.kind = lead.map .keyword)
    (yield : command.yield ++ tail = front ++ token :: later) :
    ∃ word fill, command.fill? = some (front, word, fill) ∧ word.token = token ∧
      ∀ other, (fill other).yield ++ tail = front ++ other.token :: later := by
  obtain ⟨⟨found, word, fill⟩, filled⟩ :=
    Option.isSome_iff_exists.1 (fill_isSome led kinds yield)
  obtain ⟨behind, yields⟩ := yield_fill filled
  obtain ⟨other, otherLed, otherKinds⟩ := lead_mem filled
  have self : command.yield ++ tail = found ++ word.token :: (behind ++ tail) := by
    rw [← fill_self filled, yields, List.append_assoc]
    rfl
  have heads : lead.head? = other.head? := by
    have first := leadKind_of_led led kinds yield
    rw [← leadKind_of_led otherLed otherKinds self] at first
    exact Option.map_injective (fun _ _ => Token.Kind.keyword.inj) first
  have lengths : found.length = front.length := by
    have length := length_familyLeads _ led _ otherLed heads
    have one := congrArg List.length kinds
    have two := congrArg List.length otherKinds
    simp only [List.length_map] at one two
    omega
  obtain ⟨rfl, rest⟩ := List.append_inj (self.symm.trans yield) lengths
  obtain ⟨same, rfl⟩ := List.cons.inj rest
  refine ⟨word, fill, filled, same, fun other => ?_⟩
  rw [yields, List.append_assoc]
  rfl

/-- A command that is about a column family has its name. -/
theorem fill_isSome_of_family? {meant : WideColumn.Command} (valued : command.value = .ok meant)
    (named : meant.family?.isSome = true) : command.fill?.isSome = true := by
  cases command
  case useWord | useQuoted | exit | quit | dropKeyspace | help | helpWords | question =>
    cases valued
    cases named
  case connect | createKeyspace | updateKeyspace | createFamily | describe | describeWords |
      «show» =>
    obtain ⟨_, -, same⟩ := bind_eq_ok.1 valued
    cases same
    cases named
  all_goals rfl

end Command

/-- The name of a column family in a statement can be replaced. -/
theorem Statement.exists_renamed {tree : Statement} {lead : List Keyword}
    {front later : List Token} {token : Token} (led : lead ∈ familyLeads)
    (kinds : front.map Token.kind = lead.map .keyword)
    (yield : tree.yield = front ++ token :: later) (other : Word) :
    ∃ renamed : Statement, renamed.yield = front ++ other.token :: later ∧
      Renames tree.value renamed.value token.value other.value := by
  cases tree with
  | closed command semicolon =>
    obtain ⟨word, fill, filled, rfl, yields⟩ := Command.exists_fill led kinds yield
    refine ⟨.closed (fill other) semicolon, yields other, ?_⟩
    rw [← Command.fill_self filled]
    exact Command.renames_fill filled other
  | bare command =>
    have bare : command.yield ++ [] = front ++ token :: later :=
      (List.append_nil _).trans yield
    obtain ⟨word, fill, filled, rfl, yields⟩ := Command.exists_fill led kinds bare
    refine ⟨.bare (fill other), (List.append_nil _).symm.trans (yields other), ?_⟩
    rw [← Command.fill_self filled]
    exact Command.renames_fill filled other

end Grammar

/-- Tokens that differ only in the name of a column family state the same command about it. -/
theorem Command.ofTokens_renamed {lead : List Keyword} {front later : List Token}
    {token other : Token} {command : Command} (led : lead ∈ familyLeads)
    (kinds : front.map Token.kind = lead.map .keyword) (word : other.isWord = true)
    (read : ofTokens (front ++ token :: later) = .ok command) :
    command.family? = some token.value ∧
      ofTokens (front ++ other :: later) = .ok (command.withFamily other.value) := by
  obtain ⟨tree, yield, valued⟩ := ofTokens_eq_ok.1 read
  obtain ⟨renamed, rfl⟩ := Grammar.exists_word word
  obtain ⟨again, yields, renames⟩ := Grammar.Statement.exists_renamed led kinds yield renamed
  obtain ⟨named, values⟩ := renames command valued
  exact ⟨named, ofTokens_eq_ok.2 ⟨again, yields, values⟩⟩

/-! ### The name in the text -/

namespace Token

variable {text before rest lexeme : List Char} {kind : Kind} {lexemes : List Lexeme}

/-- What fits in front of a text fits in front of what goes on like it. -/
theorem Fits.append (fits : Fits kind lexeme rest) (nonempty : rest ≠ []) (more : List Char) :
    Fits kind lexeme (rest ++ more) := by
  have head : (rest ++ more).head? = rest.head? := List.head?_append_of_ne_nil _ nonempty
  cases fits with
  | quoted mark closes => exact .quoted mark closes
  | word nonempty word ends => exact .word nonempty word (head ▸ ends)
  | mark sign ends =>
    refine .mark sign ?_
    cases sign
    case greater | less =>
      show (rest ++ more).head? ≠ some '='
      exact head ▸ ends
    all_goals trivial

/-- More fuel than characters changes nothing. -/
theorem readFrom_of_le {fuel more position : Nat} (enough : text.length ≤ fuel)
    (plenty : text.length ≤ more) : readFrom fuel position text = readFrom more position text := by
  induction fuel generalizing more position text with
  | zero =>
    obtain rfl := List.length_eq_zero_iff.1 (Nat.le_zero.1 enough)
    cases more <;> rfl
  | succ fuel ih =>
    cases text with
    | nil => cases more <;> rfl
    | cons c rest =>
      cases more with
      | zero => cases plenty
      | succ more =>
        rw [readFrom, readFrom, ih (Nat.le_of_succ_le_succ enough) (Nat.le_of_succ_le_succ plenty)]
        split
        · rfl
        · cases start : startOf? (c :: rest) with
          | none => rfl
          | some found =>
            obtain ⟨kind, lexeme, after⟩ := found
            obtain ⟨same, fits⟩ := startOf?_iff.1 start
            have positive := List.length_pos_iff.2 fits.ne_nil
            have total := congrArg List.length same
            simp only [List.length_append, List.length_cons] at total enough plenty
            exact congrArg _ (ih (by omega) (by omega))

/-- What fits at the start of a text is its first token. -/
theorem Fits.readFrom (fits : Fits kind lexeme rest) {fuel : Nat} (position : Nat)
    (enough : (lexeme ++ rest).length ≤ fuel) : readFrom fuel position (lexeme ++ rest) =
      ⟨kind, lexeme, position⟩ :: readFrom rest.length (position + lexeme.length) rest := by
  have positive := List.length_pos_iff.2 fits.ne_nil
  have start := startOf?_iff.2 ⟨rfl, fits⟩
  cases whole : lexeme ++ rest with
  | nil => exact absurd (List.append_eq_nil_iff.1 whole).1 fits.ne_nil
  | cons c others =>
    rw [whole] at start
    have noGap : ¬isGap c = true := by
      intro gap
      rw [startOf?_of_isBlank (isBlank_of_isGap gap)] at start
      cases start
    rw [List.length_append] at enough
    cases fuel with
    | zero => omega
    | succ fuel =>
      rw [Token.readFrom, if_neg noGap, start]
      exact congrArg _ (readFrom_of_le (by omega) (Nat.le_refl _))

/-- A text is read up to a gap as if nothing came behind it. -/
theorem readFrom_append (lexes : Lexes before lexemes)
    (apart : ∀ c, before.getLast? = some c → isGap c = true) {fuel : Nat} (position : Nat)
    (enough : (before ++ rest).length ≤ fuel) :
    readFrom fuel position (before ++ rest) = readFrom before.length position before ++
      readFrom rest.length (position + before.length) rest := by
  induction lexes generalizing fuel position with
  | done => exact readFrom_of_le enough (Nat.le_refl _)
  | @gap c inside lexemes gap lexes ih =>
    have apart : ∀ c, inside.getLast? = some c → isGap c = true := fun other last =>
      apart other (List.getLast?_cons.trans (by rw [last]; rfl))
    cases fuel with
    | zero => cases enough
    | succ fuel =>
      rw [List.cons_append, readFrom, if_pos gap,
        ih apart (position + 1) (Nat.le_of_succ_le_succ enough), List.length_cons, readFrom,
        if_pos gap, Nat.add_assoc, Nat.add_comm 1]
  | @token kind lexeme after lexemes fits lexes ih =>
    -- The text goes on behind the token, as this does not end with a gap.
    have nonempty : after ≠ [] := by
      rintro rfl
      obtain ⟨front, last, rfl, solid⟩ := fits.solid
      rw [List.append_nil] at apart
      have gap := apart last List.getLast?_concat
      rw [isBlank_of_isGap gap] at solid
      cases solid
    have apart : ∀ c, after.getLast? = some c → isGap c = true := fun c last =>
      apart c (by rw [List.getLast?_append, last]; rfl)
    have whole := fits.append nonempty rest
    have total : (after ++ rest).length ≤ (after ++ rest).length := Nat.le_refl _
    rw [List.append_assoc] at enough ⊢
    rw [whole.readFrom position enough, fits.readFrom position (Nat.le_refl _),
      ih apart (position + lexeme.length) total, List.length_append, Nat.add_assoc]
    rfl

/-- A token that can stand for a word is made of characters of words, and ends with them. -/
theorem word_of_fits {token : Token} (word : token.isWord = true)
    (fits : Fits token.kind token.lexeme rest) :
    token.lexeme.all isWordChar = true ∧ rest.head?.all (!isWordChar ·) = true := by
  obtain ⟨kind, lexeme, position⟩ := token
  change Fits kind lexeme rest at fits
  cases fits with
  | quoted mark closes => cases word
  | word nonempty isWord ends => exact ⟨isWord, ends⟩
  | mark sign ends => cases word

theorem value_of_isWord {token : Token} (word : token.isWord = true) :
    token.value = String.ofList token.lexeme := by
  obtain ⟨kind, lexeme, position⟩ := token
  cases kind with
  | word => rfl
  | keyword => rfl
  | _ => cases word

/-- A word that is read behind words stands in the text, with a gap in front of it. -/
theorem exists_before {fuel position : Nat} {front later : List Token} {token : Token}
    (enough : text.length ≤ fuel) (read : readFrom fuel position text = front ++ token :: later)
    (words : ∀ token ∈ front, token.isWord = true) (word : token.isWord = true) :
    ∃ before after, text = before ++ (token.lexeme ++ after) ∧
      readFrom before.length position before = front ∧
      (∀ c, before.getLast? = some c → isGap c = true) ∧
      Fits token.kind token.lexeme after := by
  induction fuel generalizing position text front with
  | zero => simp [readFrom] at read
  | succ fuel ih =>
    cases text with
    | nil => simp [readFrom] at read
    | cons c rest =>
      rw [readFrom] at read
      split at read
      · rename_i gap
        obtain ⟨before, after, same, reads, apart, fits⟩ :=
          ih (Nat.le_of_succ_le_succ enough) read words
        refine ⟨c :: before, after, congrArg (c :: ·) same, ?_, fun other last => ?_, fits⟩
        · rw [List.length_cons, readFrom, if_pos gap, reads]
        · rw [List.getLast?_cons] at last
          cases inside : before.getLast? with
          | none =>
            rw [inside] at last
            cases last
            exact gap
          | some found =>
            rw [inside] at last
            cases last
            exact apart _ inside
      · cases start : startOf? (c :: rest) with
        | none =>
          rw [start] at read
          cases front with
          | nil =>
            obtain ⟨rfl, -⟩ := List.cons.inj read
            cases word
          | cons first front =>
            obtain ⟨rfl, -⟩ := List.cons.inj read
            cases words _ List.mem_cons_self
        | some found =>
          obtain ⟨kind, lexeme, behind⟩ := found
          rw [start] at read
          obtain ⟨same, fits⟩ := startOf?_iff.1 start
          rw [same] at enough ⊢
          cases front with
          | nil =>
            obtain ⟨rfl, -⟩ := List.cons.inj read
            refine ⟨[], behind, rfl, rfl, fun c last => ?_, fits⟩
            cases last
          | cons first front =>
            obtain ⟨rfl, others⟩ := List.cons.inj read
            have positive := List.length_pos_iff.2 fits.ne_nil
            rw [List.length_append] at enough
            obtain ⟨before, after, rfl, reads, apart, name⟩ :=
              ih (by omega) others fun token mem => words token (List.mem_cons_of_mem _ mem)
            -- Two words that touched would be one.
            have nonempty : before ≠ [] := by
              rintro rfl
              have ends := (word_of_fits (words _ List.mem_cons_self) fits).2
              have joined := (word_of_fits word name).1
              cases start : token.lexeme with
              | nil => exact name.ne_nil start
              | cons c others =>
                rw [start] at ends joined
                have isWord := List.all_eq_true.1 joined c List.mem_cons_self
                simp [isWord] at ends
            refine ⟨lexeme ++ before, after, (List.append_assoc _ _ _).symm, ?_,
              fun c last => ?_, name⟩
            · have own := fits.of_prefix (List.prefix_append before _)
              rw [own.readFrom position (Nat.le_refl _), reads]
            · rw [List.getLast?_append_of_ne_nil _ nonempty] at last
              exact apart c last

end Token

/-- How a text names a column family: there are keywords that lead to a name, a gap, and a word. -/
structure Naming (before name after : String) : Prop where
  led : ∃ lead ∈ familyLeads, (Token.read before.toList).map Token.kind = lead.map .keyword
  apart : ∀ c, before.toList.getLast? = some c → Token.isGap c = true
  word : Printing.IsWord name
  ends : after.toList.head?.all (!Token.isWordChar ·) = true

namespace Naming

variable {before name other after : String}

/-- The token that a name is behind a text. -/
def token (before name : String) : Token :=
  ⟨Token.wordKind name.toList, name.toList, before.toList.length⟩

theorem isWord_token (before name : String) : (token before name).isWord = true :=
  (Printing.value_wordKind _ _).1

theorem value_token (before name : String) : (token before name).value = name :=
  (Printing.value_wordKind _ _).2.trans String.ofList_toList

/-- Another word in the place of the name is a name as well. -/
theorem renamed (naming : Naming before name after) (word : Printing.IsWord other) :
    Naming before other after :=
  { naming with word }

/-- The tokens of a text that names a column family are those in front of the name, the name, and
those behind it. -/
theorem read_eq (naming : Naming before name after) :
    Token.read (before ++ name ++ after).toList =
      Token.read before.toList ++ token before name :: Token.readFrom after.toList.length
        (before.toList.length + name.toList.length) after.toList := by
  obtain ⟨lead, -, kinds⟩ := naming.led
  have readable : ∀ token ∈ Token.read before.toList, token.kind ≠ .unreadable := by
    intro token mem unreadable
    have among : token.kind ∈ lead.map Token.Kind.keyword := kinds ▸ List.mem_map_of_mem mem
    obtain ⟨keyword, -, same⟩ := List.mem_map.1 among
    rw [unreadable] at same
    cases same
  have lexes := Token.lexes_of_readFrom (Nat.le_refl _) readable
  have nonempty : name.toList ≠ [] := fun empty => naming.word.1 (String.toList_inj.1 empty)
  have fits : Token.Fits (Token.wordKind name.toList) name.toList after.toList :=
    .word nonempty naming.word.2 naming.ends
  rw [String.toList_append, String.toList_append, List.append_assoc, Token.read,
    Token.readFrom_append lexes naming.apart 0 (Nat.le_refl _), fits.readFrom _ (Nat.le_refl _),
    Nat.zero_add]
  rfl

/-- A word in other letter case is cut as the same sort of token, of the same length. -/
theorem map_toLower_eq (word : Printing.IsWord name) (otherWord : Printing.IsWord other)
    (same : Text.sameIgnoringCase name other = true) :
    name.toList.map Char.toLower = other.toList.map Char.toLower := by
  have ascii {text : String} (word : Printing.IsWord text) (c : Char) (mem : c ∈ text.toList) :
      c.toNat < 0x80 := Printing.toNat_lt_of_isWordChar (List.all_eq_true.1 word.2 c mem)
  rw [← Printing.lower_of_ascii (ascii word), ← Printing.lower_of_ascii (ascii otherWord)]
  exact String.ofList_injective (beq_iff_eq.1 same)

/-- A text states the same command with the name of its column family in other letter case, but for
the name. -/
theorem parse_renamed (naming : Naming before name after) (word : Printing.IsWord other)
    (same : Text.sameIgnoringCase name other = true) {command : Command}
    (parsed : Command.parse (before ++ name ++ after) = .ok command) :
    command.family? = some name ∧
      Command.parse (before ++ other ++ after) = .ok (command.withFamily other) := by
  obtain ⟨lead, led, kinds⟩ := naming.led
  have lengths : name.toList.length = other.toList.length := by
    have lowered := congrArg List.length (map_toLower_eq naming.word word same)
    simpa only [List.length_map] using lowered
  rw [Command.parse_eq_ok, naming.read_eq] at parsed
  rw [Command.parse_eq_ok, (naming.renamed word).read_eq, ← lengths]
  obtain ⟨named, read⟩ := Command.ofTokens_renamed led kinds (isWord_token before other) parsed
  rw [value_token] at named read
  exact ⟨named, read⟩

/-- Every statement about a column family names it in this way. -/
theorem exists_of_parse {statement : String} {command : Command}
    (parsed : Command.parse statement = .ok command) (about : command.family? = some name) :
    ∃ before after, statement = before ++ name ++ after ∧ Naming before name after := by
  obtain ⟨tree, yield, valued⟩ := Command.ofTokens_eq_ok.1 (Command.parse_eq_ok.1 parsed)
  -- A semicolon at the end does not matter.
  obtain ⟨stated, tail, yields, values⟩ : ∃ (stated : Grammar.Command) (tail : List Token),
      tree.yield = stated.yield ++ tail ∧ stated.value = .ok command := by
    cases tree with
    | closed stated semicolon => exact ⟨stated, _, rfl, valued⟩
    | bare stated => exact ⟨stated, [], (List.append_nil _).symm, valued⟩
  have filled := Grammar.Command.fill_isSome_of_family? values (about ▸ rfl)
  obtain ⟨⟨front, word, fill⟩, filled⟩ := Option.isSome_iff_exists.1 filled
  obtain ⟨later, fills⟩ := Grammar.Command.yield_fill filled
  obtain ⟨lead, led, kinds⟩ := Grammar.Command.lead_mem filled
  have self : (fill word).value = .ok command := by rw [Grammar.Command.fill_self filled, values]
  obtain ⟨named, -⟩ := Grammar.Command.renames_fill filled word command self
  obtain rfl : name = word.value := Option.some.inj (about.symm.trans named)
  have read : Token.readFrom statement.toList.length 0 statement.toList =
      front ++ word.token :: (later ++ tail) := by
    rw [← Grammar.Command.fill_self filled, fills, yield, List.append_assoc] at yields
    exact yields
  have words : ∀ token ∈ front, token.isWord = true := by
    intro token mem
    have among : token.kind ∈ lead.map Token.Kind.keyword := kinds ▸ List.mem_map_of_mem mem
    obtain ⟨keyword, -, same⟩ := List.mem_map.1 among
    rw [Token.isWord, ← same]
  obtain ⟨before, after, text, reads, apart, fits⟩ :=
    Token.exists_before (Nat.le_refl _) read words word.isWord_token
  obtain ⟨isWord, ends⟩ := Token.word_of_fits word.isWord_token fits
  have spelled : word.value = String.ofList word.token.lexeme :=
    Token.value_of_isWord word.isWord_token
  refine ⟨String.ofList before, String.ofList after, ?_, ?_⟩
  · rw [spelled, ← String.toList_inj, text]
    simp only [String.toList_append, String.toList_ofList, List.append_assoc]
  · refine ⟨⟨lead, led, ?_⟩, ?_, ⟨?_, ?_⟩, ?_⟩
    · rw [String.toList_ofList, Token.read, reads, kinds]
    · rwa [String.toList_ofList]
    · intro empty
      rw [spelled, ← String.toList_inj, String.toList_ofList] at empty
      exact fits.ne_nil empty
    · rwa [spelled, String.toList_ofList]
    · rwa [String.toList_ofList]

end Naming

end WideColumn
