import WideColumn.Command.Parser

/-!
# Running parsers

What the parts that parsers are made of do to a list of tokens. A law with the name of a part says
what it gives; one that ends in `eq_ok` says what there must have been in front if it succeeded.

The law of a loop is stated for any list of steps, each with the tokens that it takes: a loop over
the tokens of some steps and then of something else makes exactly these steps (`whileNext_steps`),
and a loop that succeeds has made some steps (`steps_of_whileNext`).
-/

namespace WideColumn.Parser

variable {α β σ : Type}

/-- The outcome of a part with a certain value, in front of the rest of the tokens. -/
def settled (value : Except ParseFailure α) (rest : List Token) :
    Except Refusal (α × List Token) :=
  match value with
  | .ok value => .ok (value, rest)
  | .error failure => .error (.cause failure)

/-- The outcome is settled part by part. -/
@[simp] theorem settled_bind (value : Except ParseFailure α) (f : α → Except ParseFailure β)
    (rest : List Token) :
    settled (value >>= f) rest = match settled value rest with
      | .ok (a, rest) => settled (f a) rest
      | .error refusal => .error refusal := by
  cases value <;> rfl

@[simp] theorem settled_map (value : Except ParseFailure α) (g : α → β) (rest : List Token) :
    settled (g <$> value) rest = match settled value rest with
      | .ok (a, rest) => .ok (g a, rest)
      | .error refusal => .error refusal := by
  cases value <;> rfl

@[simp] theorem settled_ok (a : α) (rest : List Token) :
    settled (.ok a) rest = .ok (a, rest) := rfl

@[simp] theorem settled_error (failure : ParseFailure) (rest : List Token) :
    settled (.error failure : Except ParseFailure α) rest = .error (.cause failure) := rfl

@[simp] theorem settled_throw (failure : ParseFailure) (rest : List Token) :
    settled (throw failure : Except ParseFailure α) rest = .error (.cause failure) := rfl

@[simp] theorem settled_pure (a : α) (rest : List Token) :
    settled (pure a) rest = .ok (a, rest) := rfl

/-! ### Sequences -/

@[simp] theorem pure_apply (a : α) (tokens : List Token) :
    (pure a : Parser α) tokens = .ok (a, tokens) := rfl

@[simp] theorem bind_apply (p : Parser α) (f : α → Parser β) (tokens : List Token) :
    (p >>= f) tokens = match p tokens with
      | .ok (a, rest) => f a rest
      | .error refusal => .error refusal := by
  show Except.bind _ _ = _
  cases p tokens <;> rfl

@[simp] theorem map_apply (g : α → β) (p : Parser α) (tokens : List Token) :
    (g <$> p) tokens = match p tokens with
      | .ok (a, rest) => .ok (g a, rest)
      | .error refusal => .error refusal := by
  show Except.bind _ _ = _
  cases p tokens <;> rfl

@[simp] theorem branch_apply (c : Prop) [Decidable c] (p q : Parser α) (tokens : List Token) :
    (if c then p else q) tokens = if c then p tokens else q tokens := by
  split <;> rfl

theorem pure_eq_ok {a b : α} {tokens rest : List Token} :
    (pure a : Parser α) tokens = .ok (b, rest) ↔ a = b ∧ tokens = rest := by
  simp

theorem bind_eq_ok {p : Parser α} {f : α → Parser β} {b : β} {tokens rest : List Token} :
    (p >>= f) tokens = .ok (b, rest) ↔
      ∃ a middle, p tokens = .ok (a, middle) ∧ f a middle = .ok (b, rest) := by
  rw [bind_apply]
  cases p tokens with
  | error refusal => simp
  | ok read =>
    constructor
    · intro h
      exact ⟨read.1, read.2, rfl, h⟩
    · rintro ⟨a, middle, same, h⟩
      cases same
      exact h

theorem map_eq_ok {g : α → β} {p : Parser α} {b : β} {tokens rest : List Token} :
    (g <$> p) tokens = .ok (b, rest) ↔ ∃ a, p tokens = .ok (a, rest) ∧ g a = b := by
  rw [map_apply]
  cases p tokens with
  | error refusal => simp
  | ok read =>
    constructor
    · intro h
      cases h
      exact ⟨read.1, rfl, rfl⟩
    · rintro ⟨a, same, rfl⟩
      cases same
      rfl

/-! ### Single tokens -/

@[simp] theorem nextIs_apply (accepts : Token → Bool) (tokens : List Token) :
    nextIs accepts tokens = .ok (tokens.head?.any accepts, tokens) := rfl

@[simp] theorem take_cons {accepts : Token → Bool} {token : Token} (h : accepts token = true)
    (rest : List Token) : take accepts (token :: rest) = .ok (token, rest) := by
  simp [take, h]

@[simp] theorem discard_apply (p : Parser α) (tokens : List Token) :
    (discard p) tokens = match p tokens with
      | .ok (_, rest) => .ok ((), rest)
      | .error refusal => .error refusal :=
  map_apply _ p tokens

/-- A choice by the next token that succeeds has taken one of its two ways. -/
theorem choice_eq_ok {accepts : Token → Bool} {p q : Parser α} {a : α} {tokens rest : List Token}
    (h : (nextIs accepts >>= fun found => if found = true then p else q) tokens = .ok (a, rest)) :
    p tokens = .ok (a, rest) ∨ q tokens = .ok (a, rest) := by
  rw [bind_apply] at h
  simp only [nextIs_apply, branch_apply] at h
  split at h
  · exact .inl h
  · exact .inr h

theorem take_eq_ok {accepts : Token → Bool} {token : Token} {tokens rest : List Token} :
    take accepts tokens = .ok (token, rest) ↔ accepts token = true ∧ tokens = token :: rest := by
  constructor
  · intro h
    cases tokens with
    | nil => cases h
    | cons next others =>
      rw [take] at h
      split at h
      · next accepted =>
        cases h
        exact ⟨accepted, rfl⟩
      · cases h
  · rintro ⟨accepted, rfl⟩
    exact take_cons accepted rest

theorem discard_eq_ok {p : Parser α} {tokens rest : List Token} {u : Unit} :
    (discard p) tokens = .ok (u, rest) ↔ ∃ a, p tokens = .ok (a, rest) := by
  rw [discard_apply]
  cases p tokens with
  | error refusal => simp
  | ok read => simp [Prod.ext_iff]

/-! ### What comes next -/

/-- There is nothing left, or the next token is of one of some sorts. -/
def Follows (kinds : List Token.Kind) (rest : List Token) : Prop :=
  ∀ token ∈ rest.head?, token.kind ∈ kinds

/-- No token of a class comes next. -/
abbrev Without (begins : Token → Bool) (rest : List Token) : Prop :=
  rest.head?.any begins = false

@[simp] theorem without_nil (begins : Token → Bool) : Without begins [] :=
  rfl

@[simp] theorem without_cons {begins : Token → Bool} {token : Token} {rest : List Token} :
    Without begins (token :: rest) ↔ begins token = false :=
  Iff.rfl

namespace Follows

variable {kinds : List Token.Kind} {rest : List Token}

@[simp] theorem nil : Follows kinds [] := by
  intro token h
  cases h

@[simp] theorem cons {token : Token} : Follows kinds (token :: rest) ↔ token.kind ∈ kinds := by
  simp [Follows]

theorem mono {others : List Token.Kind} (h : Follows kinds rest) (within : kinds ⊆ others) :
    Follows others rest :=
  fun token next => within (h token next)

/-- The next token is in every class that has all tokens of the sorts. -/
theorem all_head {p : Token → Bool} (h : Follows kinds rest)
    (within : ∀ token, token.kind ∈ kinds → p token = true) : rest.head?.all p = true := by
  cases rest with
  | nil => rfl
  | cons token rest => exact within token (cons.1 h)

/-- The next token is in no class that has no token of the sorts. -/
theorem any_head {p : Token → Bool} (h : Follows kinds rest)
    (apart : ∀ token, token.kind ∈ kinds → p token = false) : Without p rest := by
  cases rest with
  | nil => rfl
  | cons token rest => exact apart token (cons.1 h)

theorem not_mark (h : Follows kinds rest) {mark : Mark} (other : .mark mark ∉ kinds) :
    Without (Token.isMark mark) rest := by
  refine h.any_head fun token found => ?_
  rw [Token.isMark, beq_eq_false_iff_ne]
  rintro same
  exact other (same ▸ found)

theorem not_keyword (h : Follows kinds rest) {keyword : Keyword}
    (other : .keyword keyword ∉ kinds) : Without (Token.isKeyword keyword) rest := by
  refine h.any_head fun token found => ?_
  rw [Token.isKeyword, beq_eq_false_iff_ne]
  rintro same
  exact other (same ▸ found)

end Follows

/-! ### Optional parts and rules -/

theorem optional_present {begins : Token → Bool} {p : Parser α} {tokens : List Token}
    (h : tokens.head?.any begins = true) :
    Parser.optional begins p tokens = (some <$> p) tokens := by
  simp [Parser.optional, h]

theorem optional_absent {begins : Token → Bool} {p : Parser α} {tokens : List Token}
    (h : tokens.head?.any begins = false) :
    Parser.optional begins p tokens = .ok (none, tokens) := by
  simp [Parser.optional, h]

theorem optional_eq_ok {begins : Token → Bool} {p : Parser α} {value : Option α}
    {tokens rest : List Token} (h : Parser.optional begins p tokens = .ok (value, rest)) :
    (∃ a, p tokens = .ok (a, rest) ∧ value = some a) ∨ (value = none ∧ tokens = rest) := by
  cases present : tokens.head?.any begins with
  | true =>
    rw [optional_present present, map_eq_ok] at h
    obtain ⟨a, read, rfl⟩ := h
    exact .inl ⟨a, read, rfl⟩
  | false =>
    rw [optional_absent present] at h
    cases h
    exact .inr ⟨rfl, rfl⟩

theorem settle_of_follows {follows : Token → Bool} {rest : List Token}
    (h : rest.head?.all follows = true) (outcome : Except ParseFailure α) :
    settle follows outcome rest = settled outcome rest := by
  simp only [settle, h, if_true]
  cases outcome <;> rfl

theorem settle_eq_ok {follows : Token → Bool} {outcome : Except ParseFailure α} {value : α}
    {tokens rest : List Token} (h : settle follows outcome tokens = .ok (value, rest)) :
    outcome = .ok value ∧ tokens = rest := by
  unfold settle at h
  split at h
  · cases outcome with
    | ok found => cases h; exact ⟨rfl, rfl⟩
    | error failure => cases h
  · cases h

/-! ### Loops -/

section Loops

variable {begins : Token → Bool} {step : σ → Parser σ} {tokensOf : β → List Token}
  {next : σ → β → Except ParseFailure σ} {stops : List Token → Prop}

/-- What may come after an item comes after any items in front of it. -/
theorem stops_flatMap (between : ∀ item rest, stops (tokensOf item ++ rest)) {rest : List Token}
    (last : stops rest) (items : List β) : stops (items.flatMap tokensOf ++ rest) := by
  cases items with
  | nil => exact last
  | cons item items =>
    rw [List.flatMap_cons, List.append_assoc]
    exact between item _

/-- A loop with fuel enough makes the steps whose tokens are in front. -/
theorem repeatStep_steps
    (starts : ∀ item rest, (tokensOf item ++ rest).head?.any begins = true)
    (reads : ∀ state item rest, stops rest →
      step state (tokensOf item ++ rest) = settled (next state item) rest)
    (between : ∀ item rest, stops (tokensOf item ++ rest))
    {rest : List Token} (last : stops rest) (ends : Without begins rest)
    (items : List β) (fuel : Nat) (enough : items.length ≤ fuel) (state : σ) :
    repeatStep begins step fuel state (items.flatMap tokensOf ++ rest) =
      settled (items.foldlM next state) rest := by
  induction items generalizing fuel state with
  | nil =>
    cases fuel with
    | zero => rfl
    | succ fuel =>
      have ended : rest.head?.any begins = false := ends
      simp only [List.flatMap_nil, List.nil_append, repeatStep, bind_apply, nextIs_apply, ended]
      rfl
  | cons item items ih =>
    cases fuel with
    | zero => simp at enough
    | succ fuel =>
      -- The item may end where the next one begins, and the last one before the rest.
      have later := stops_flatMap between last items
      rw [List.flatMap_cons, List.append_assoc]
      simp only [repeatStep, bind_apply, nextIs_apply, starts, if_true, reads state item _ later]
      rw [List.foldlM_cons]
      cases next state item with
      | error failure => rfl
      | ok after => exact ih fuel (Nat.le_of_succ_le_succ enough) after

/-- A loop makes the steps whose tokens are in front. -/
theorem whileNext_steps
    (starts : ∀ item rest, (tokensOf item ++ rest).head?.any begins = true)
    (reads : ∀ state item rest, stops rest →
      step state (tokensOf item ++ rest) = settled (next state item) rest)
    (between : ∀ item rest, stops (tokensOf item ++ rest))
    {rest : List Token} (last : stops rest) (ends : Without begins rest)
    (items : List β) (state : σ) :
    whileNext begins step state (items.flatMap tokensOf ++ rest) =
      settled (items.foldlM next state) rest := by
  refine repeatStep_steps starts reads between last ends items _ ?_ state
  rw [List.length_append]
  refine Nat.le_trans ?_ (Nat.le_add_right _ _)
  induction items with
  | nil => exact Nat.zero_le _
  | cons item items ih =>
    -- Every step takes a token, so there are no more steps than tokens.
    have nonempty : 1 ≤ (tokensOf item).length := by
      have first := starts item []
      cases tokens : tokensOf item with
      | nil => simp [tokens] at first
      | cons => simp
    rw [List.flatMap_cons, List.length_append, List.length_cons]
    omega

/-- A loop that succeeds with some fuel has made steps. -/
theorem steps_of_repeatStep
    (inverts : ∀ state after tokens rest, step state tokens = .ok (after, rest) →
      ∃ item, tokens = tokensOf item ++ rest ∧ next state item = .ok after)
    (fuel : Nat) (state after : σ) (tokens rest : List Token)
    (h : repeatStep begins step fuel state tokens = .ok (after, rest)) :
    ∃ items : List β, tokens = items.flatMap tokensOf ++ rest ∧ items.foldlM next state = .ok after := by
  induction fuel generalizing state tokens with
  | zero =>
    cases h
    exact ⟨[], rfl, rfl⟩
  | succ fuel ih =>
    simp only [repeatStep, bind_apply, nextIs_apply] at h
    -- Out of fuel or out of tokens that begin an item, the loop ends without a failure.
    split at h
    · obtain ⟨middle, left, made, others⟩ := bind_eq_ok.1 h
      obtain ⟨item, rfl, first⟩ := inverts state middle tokens left made
      obtain ⟨items, rfl, later⟩ := ih middle left others
      refine ⟨item :: items, ?_, ?_⟩
      · rw [List.flatMap_cons, List.append_assoc]
      · rw [List.foldlM_cons, first]
        exact later
    · cases h
      exact ⟨[], rfl, rfl⟩

/-- A loop that succeeds has made steps. -/
theorem steps_of_whileNext
    (inverts : ∀ state after tokens rest, step state tokens = .ok (after, rest) →
      ∃ item, tokens = tokensOf item ++ rest ∧ next state item = .ok after)
    {state after : σ} {tokens rest : List Token}
    (h : whileNext begins step state tokens = .ok (after, rest)) :
    ∃ items : List β, tokens = items.flatMap tokensOf ++ rest ∧ items.foldlM next state = .ok after :=
  steps_of_repeatStep inverts tokens.length state after tokens rest h

end Loops

/-- Collecting values one after the other gives them all in order. -/
theorem foldlM_collect (value : β → α) (items : List β) (known : List α) :
    (items.foldlM (fun known item => .ok (known ++ [value item])) known :
      Except ParseFailure (List α)) = .ok (known ++ items.map value) := by
  refine List.foldlM_pure.trans (congrArg Except.ok ?_)
  induction items generalizing known with
  | nil => simp
  | cons item items ih => simp [ih]

section Many

variable {begins : Token → Bool} {item : Parser α} {tokensOf : β → List Token} {value : β → α}
  {stops : List Token → Prop}

/-- The items whose tokens are in front are read. -/
theorem many_items
    (starts : ∀ source rest, (tokensOf source ++ rest).head?.any begins = true)
    (reads : ∀ source rest, stops rest →
      item (tokensOf source ++ rest) = .ok (value source, rest))
    (between : ∀ source rest, stops (tokensOf source ++ rest))
    {rest : List Token} (last : stops rest) (ends : Without begins rest)
    (sources : List β) :
    many begins item (sources.flatMap tokensOf ++ rest) = .ok (sources.map value, rest) := by
  have collects : ∀ known source rest, stops rest →
      (do return known ++ [← item] : Parser (List α)) (tokensOf source ++ rest) =
        settled (.ok (known ++ [value source])) rest := by
    intro known source rest h
    simp [reads source rest h, settled]
  have steps := whileNext_steps starts collects between last ends sources []
  rw [foldlM_collect] at steps
  exact steps

/-- Items that were read have their tokens in front. -/
theorem items_of_many
    (inverts : ∀ read tokens rest, item tokens = .ok (read, rest) →
      ∃ source, tokens = tokensOf source ++ rest ∧ value source = read)
    {read : List α} {tokens rest : List Token} (h : many begins item tokens = .ok (read, rest)) :
    ∃ sources : List β, tokens = sources.flatMap tokensOf ++ rest ∧ sources.map value = read := by
  have collected : ∀ known after tokens rest,
      (do return known ++ [← item] : Parser (List α)) tokens = .ok (after, rest) →
      ∃ source, tokens = tokensOf source ++ rest ∧
        (.ok (known ++ [value source]) : Except ParseFailure (List α)) = .ok after := by
    intro known after tokens rest h
    obtain ⟨one, left, found, done⟩ := bind_eq_ok.1 h
    obtain ⟨rfl, rfl⟩ := pure_eq_ok.1 done
    obtain ⟨source, rfl, rfl⟩ := inverts one tokens left found
    exact ⟨source, rfl, rfl⟩
  obtain ⟨sources, rfl, made⟩ := steps_of_whileNext collected h
  rw [foldlM_collect] at made
  exact ⟨sources, rfl, by simpa using made⟩

end Many

end WideColumn.Parser
