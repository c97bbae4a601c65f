import Mathlib.Computability.Language
import Mathlib.Order.CompletePartialOrder
import WideColumn.Proofs.Parsing

/-!
# Where parsers stop

A parser reads a language if, whatever the tokens are, it takes a list of the language off their front,
or refuses what is left behind the beginning of such a list, or finds a rule broken (`Reads`). It knows
of what is left only the next token. Both are kept by everything that parsers are put together with:
the language of a sequence is the product of the languages, that of a choice their sum, and that of a
loop the closure of the language of a step. So the language of a parser can be read off its text, and
where it refuses a token, all that it took can still be completed.
-/

namespace WideColumn.Parser

open scoped Computability

variable {α β σ : Type} {p q : Parser α} {L M : Language Token} {tokens taken rest : List Token}

/-! ### Languages -/

/-- The lists that can be completed to one of a language. -/
def Begins (L : Language Token) : Language Token :=
  {front | ∃ more, front ++ more ∈ L}

theorem Begins.mono (within : L ≤ M) : Begins L ≤ Begins M := by
  rintro front ⟨more, mem⟩
  exact ⟨more, within mem⟩

theorem nil_mem_begins (nonempty : ∃ tokens, tokens ∈ L) : [] ∈ Begins L :=
  nonempty

/-- The single tokens of a class. -/
def single (accepts : Token → Bool) : Language Token :=
  {tokens | ∃ token, accepts token = true ∧ tokens = [token]}

/-! ### Running -/

/-- Whether a failure is about a rule, and not about a token that cannot come where it stands. -/
def IsRule : ParseFailure → Prop
  | .unexpectedToken .. | .unexpectedEnd _ => False
  | _ => True

/-- Whether an outcome fails by a rule only. -/
def Ruled (outcome : Except ParseFailure α) : Prop :=
  ∀ failure, outcome = .error failure → IsRule failure

theorem Ruled.ok (value : α) : Ruled (.ok value) := nofun

theorem Ruled.error {failure : ParseFailure} (rule : IsRule failure) :
    Ruled (.error failure : Except ParseFailure α) := by
  rintro _ ⟨⟩
  exact rule

theorem Ruled.bind {outcome : Except ParseFailure α} {f : α → Except ParseFailure β}
    (first : Ruled outcome) (second : ∀ value, Ruled (f value)) : Ruled (outcome >>= f) := by
  cases outcome with
  | ok value => exact second value
  | error failure => exact .error (first failure rfl)

/-- What a parser makes of some tokens. Of those that it leaves only the first one counts. -/
inductive Runs (p : Parser α) (L : Language Token) : List Token → Prop
  | accepts (taken : List Token) {rest : List Token} (value : α) (complete : taken ∈ L)
      (ahead : ∀ more, more.head? = rest.head? → p (taken ++ more) = .ok (value, more)) :
    Runs p L (taken ++ rest)
  | refuses (taken : List Token) {rest : List Token} (begun : taken ∈ Begins L)
      (ahead : ∀ more, more.head? = rest.head? → p (taken ++ more) = .error (.unexpected more)) :
    Runs p L (taken ++ rest)
  | breaks {tokens : List Token} {failure : ParseFailure} (rule : IsRule failure)
      (broken : p tokens = .error (.cause failure)) : Runs p L tokens

/-- Whether a parser makes something of any tokens, for a language that has some list. -/
structure Reads (p : Parser α) (L : Language Token) : Prop where
  nonempty : ∃ tokens, tokens ∈ L
  runs (tokens : List Token) : Runs p L tokens

theorem Runs.mono (runs : Runs p L tokens) (within : L ≤ M) : Runs p M tokens := by
  cases runs with
  | accepts taken value complete ahead => exact .accepts taken value (within complete) ahead
  | refuses taken begun ahead => exact .refuses taken (Begins.mono within begun) ahead
  | breaks rule broken => exact .breaks rule broken

theorem Reads.mono (reads : Reads p L) (within : L ≤ M) : Reads p M := by
  obtain ⟨some, mem⟩ := reads.nonempty
  exact ⟨⟨some, within mem⟩, fun tokens => (reads.runs tokens).mono within⟩

/-- What comes next is the same in front of the same next token. -/
theorem head?_append_congr {more : List Token} (next : more.head? = rest.head?)
    (taken : List Token) : (taken ++ more).head? = (taken ++ rest).head? := by
  rw [List.head?_append, List.head?_append, next]

/-- Parsers that agree on all tokens with the same first one run alike. -/
theorem Runs.of_head (runs : Runs p L tokens)
    (same : ∀ more, more.head? = tokens.head? → q more = p more) : Runs q L tokens := by
  cases runs with
  | accepts taken value complete ahead =>
    refine .accepts taken value complete fun more next => ?_
    rw [same _ (head?_append_congr next _), ahead more next]
  | refuses taken begun ahead =>
    refine .refuses taken begun fun more next => ?_
    rw [same _ (head?_append_congr next _), ahead more next]
  | breaks rule broken => exact .breaks rule ((same _ rfl).trans broken)

/-- A parser may refuse the next token before it has taken any. -/
theorem Runs.of_refused (nonempty : ∃ tokens, tokens ∈ L)
    (refused : ∀ more, more.head? = tokens.head? → p more = .error (.unexpected more)) :
    Runs p L tokens :=
  .refuses [] (nil_mem_begins nonempty) refused

/-- A parser that takes a certain token and goes on as another one runs as that one behind it. -/
theorem Runs.cons (token : Token) (runs : Runs p L rest)
    (takes : ∀ more, q (token :: more) = p more) (within : ∀ tokens ∈ L, token :: tokens ∈ M) :
    Runs q M (token :: rest) := by
  cases runs with
  | @accepts taken rest value complete ahead =>
    refine .accepts (token :: taken) value (within taken complete) fun more next => ?_
    rw [List.cons_append, takes, ahead more next]
  | @refuses taken rest begun ahead =>
    obtain ⟨missing, complete⟩ := begun
    refine .refuses (token :: taken) ⟨missing, within _ complete⟩ fun more next => ?_
    rw [List.cons_append, takes, ahead more next]
  | breaks rule broken => exact .breaks rule ((takes rest).trans broken)

/-! ### Sequences -/

/-- A sequence runs on as its second part does on what the first one leaves. -/
theorem Runs.bind {f : α → Parser β} (first : Runs p L tokens)
    (second : ∀ taken rest value, taken ∈ L → tokens = taken ++ rest → Runs (f value) M rest)
    (nonempty : ∃ tokens, tokens ∈ M) : Runs (p >>= f) (L * M) tokens := by
  cases first with
  | @accepts taken rest value complete ahead =>
    have goesOn (more : List Token) (next : more.head? = rest.head?) :
        (p >>= f) (taken ++ more) = f value more := by
      rw [bind_apply, ahead more next]
    have later := second taken rest value complete rfl
    cases later with
    | @accepts others rest last done afterwards =>
      rw [← List.append_assoc]
      refine .accepts (taken ++ others) last (Language.append_mem_mul complete done) fun more next => ?_
      rw [List.append_assoc, goesOn _ (head?_append_congr next others), afterwards more next]
    | @refuses others rest begun afterwards =>
      obtain ⟨missing, done⟩ := begun
      rw [← List.append_assoc]
      refine .refuses (taken ++ others) ⟨missing, ?_⟩ fun more next => ?_
      · rw [List.append_assoc]
        exact Language.append_mem_mul complete done
      · rw [List.append_assoc, goesOn _ (head?_append_congr next others), afterwards more next]
    | breaks rule broken => exact .breaks rule ((goesOn rest rfl).trans broken)
  | @refuses taken rest begun ahead =>
    obtain ⟨missing, complete⟩ := begun
    obtain ⟨others, done⟩ := nonempty
    refine .refuses taken ⟨missing ++ others, ?_⟩ fun more next => ?_
    · rw [← List.append_assoc]
      exact Language.append_mem_mul complete done
    · rw [bind_apply, ahead more next]
  | breaks rule broken => exact .breaks rule (by rw [bind_apply, broken])

theorem Reads.bind [Nonempty α] {f : α → Parser β} (first : Reads p L)
    (second : ∀ value, Reads (f value) M) : Reads (p >>= f) (L * M) := by
  obtain ⟨value⟩ := ‹Nonempty α›
  obtain ⟨front, complete⟩ := first.nonempty
  obtain ⟨others, done⟩ := (second value).nonempty
  exact ⟨⟨front ++ others, Language.append_mem_mul complete done⟩, fun tokens =>
    (first.runs tokens).bind (fun _ rest value _ _ => (second value).runs rest) ⟨others, done⟩⟩

theorem Reads.pure (value : α) : Reads (pure value : Parser α) 1 :=
  ⟨⟨[], rfl⟩, fun _ => .accepts [] value rfl fun _ _ => rfl⟩

theorem Reads.map (reads : Reads p L) (g : α → β) : Reads (g <$> p) L := by
  refine ⟨reads.nonempty, fun tokens => ?_⟩
  cases reads.runs tokens with
  | @accepts taken rest value complete ahead =>
    refine .accepts taken (g value) complete fun more next => ?_
    rw [map_apply, ahead more next]
  | refuses taken begun ahead =>
    refine .refuses taken begun fun more next => ?_
    rw [map_apply, ahead more next]
  | breaks rule broken => exact .breaks rule (by rw [map_apply, broken])

/-- A last step that only gives a value takes no tokens. -/
theorem Reads.bind_pure [Nonempty α] (reads : Reads p L) (g : α → β) :
    Reads (p >>= fun value => Pure.pure (g value)) L := by
  have whole := reads.bind fun value => Reads.pure (g value)
  rwa [mul_one] at whole

/-! ### Single tokens and choices -/

theorem Reads.take {accepts : Token → Bool} (token : Token) (accepted : accepts token = true) :
    Reads (take accepts) (single accepts) := by
  have nonempty : ∃ tokens, tokens ∈ single accepts := ⟨[token], token, accepted, rfl⟩
  refine ⟨nonempty, fun tokens => ?_⟩
  have refused (wrong : tokens.head?.any accepts = false) :
      Runs (Parser.take accepts) (single accepts) tokens := by
    refine .of_refused nonempty fun more next => ?_
    rw [← next] at wrong
    cases more with
    | nil => rfl
    | cons first others =>
      have other : accepts first = false := wrong
      simp [Parser.take, other, refuse]
  cases tokens with
  | nil => exact refused rfl
  | cons first others =>
    cases found : accepts first with
    | false => exact refused found
    | true =>
      exact .accepts [first] first ⟨first, found, rfl⟩ fun more _ =>
        take_cons found more

theorem Reads.choice (accepts : Token → Bool) (present : Reads p L) (absent : Reads q M) :
    Reads (nextIs accepts >>= fun found => if found = true then p else q) (L + M) := by
  obtain ⟨some, mem⟩ := present.nonempty
  refine ⟨⟨some, .inl mem⟩, fun tokens => ?_⟩
  cases found : tokens.head?.any accepts with
  | true =>
    refine ((present.runs tokens).mono fun _ => Or.inl).of_head fun more next => ?_
    rw [← next] at found
    simp [found]
  | false =>
    refine ((absent.runs tokens).mono fun _ => Or.inr).of_head fun more next => ?_
    rw [← next] at found
    simp [found]

theorem Reads.optional (begins : Token → Bool) (reads : Reads p L) :
    Reads (Parser.optional begins p) (L + 1) :=
  .choice begins (reads.map some) (.pure none)

/-- A rule takes no tokens, and is about nothing else than what was taken before. -/
theorem Reads.settle (follows : Token → Bool) {outcome : Except ParseFailure α}
    (ruled : Ruled outcome) : Reads (settle follows outcome) 1 := by
  refine ⟨⟨[], rfl⟩, fun tokens => ?_⟩
  cases found : tokens.head?.all follows with
  | false =>
    refine .of_refused ⟨[], rfl⟩ fun more next => ?_
    rw [← next] at found
    simp [Parser.settle, found, refuse]
  | true =>
    cases outcome with
    | error failure =>
      exact .breaks (ruled failure rfl) (by rw [settle_of_follows found, settled_error])
    | ok value =>
      refine .accepts [] value rfl fun more next => ?_
      rw [← next] at found
      exact settle_of_follows found _

/-! ### Loops -/

section Loops

variable {begins : Token → Bool} {step : σ → Parser σ}

theorem repeatStep_of_absent {fuel : Nat} {tokens : List Token}
    (absent : tokens.head?.any begins = false) (state : σ) :
    repeatStep begins step fuel state tokens = .ok (state, tokens) := by
  cases fuel with
  | zero => rfl
  | succ fuel =>
    simp only [repeatStep, bind_apply, nextIs_apply, absent]
    rfl

theorem repeatStep_of_present {fuel : Nat} {tokens : List Token}
    (present : tokens.head?.any begins = true) (state : σ) :
    repeatStep begins step (fuel + 1) state tokens =
      (step state >>= repeatStep begins step fuel) tokens := by
  simp only [repeatStep, bind_apply, nextIs_apply, present, if_true]

variable (reads : ∀ state, Reads (step state) L) (solid : [] ∉ L)
include reads solid

/-- What comes after a step that takes tokens matters for fewer tokens only. -/
theorem bind_congr_of_shorter {next other : σ → Parser β} {tokens : List Token} {state : σ}
    (same : ∀ value rest, rest.length < tokens.length → next value rest = other value rest) :
    (step state >>= next) tokens = (step state >>= other) tokens := by
  rw [bind_apply, bind_apply]
  cases (reads state).runs tokens with
  | @accepts taken rest value complete ahead =>
    rw [ahead rest rfl]
    refine same value rest ?_
    have nonempty : taken ≠ [] := fun empty => solid (empty ▸ complete)
    have positive := List.length_pos_iff.2 nonempty
    rw [List.length_append]
    omega
  | @refuses taken rest begun ahead => rw [ahead rest rfl]
  | breaks rule broken => rw [broken]

/-- A loop whose steps take tokens does not depend on its fuel if it has enough. -/
theorem repeatStep_congr {fuel more : Nat} {tokens : List Token} (enough : tokens.length ≤ fuel)
    (also : tokens.length ≤ more) (state : σ) :
    repeatStep begins step fuel state tokens = repeatStep begins step more state tokens := by
  induction fuel generalizing more tokens state with
  | zero =>
    obtain rfl := List.length_eq_zero_iff.1 (Nat.le_zero.1 enough)
    rw [repeatStep_of_absent rfl, repeatStep_of_absent rfl]
  | succ fuel ih =>
    cases present : tokens.head?.any begins with
    | false => rw [repeatStep_of_absent present, repeatStep_of_absent present]
    | true =>
      cases more with
      | zero =>
        obtain rfl := List.length_eq_zero_iff.1 (Nat.le_zero.1 also)
        cases present
      | succ more =>
        rw [repeatStep_of_present present, repeatStep_of_present present]
        exact bind_congr_of_shorter reads solid fun value rest shorter =>
          ih (by omega) (by omega) value

/-- A loop is a step and then the loop, as long as the next token begins a step. -/
theorem whileNext_of_present {tokens : List Token} (present : tokens.head?.any begins = true)
    (state : σ) :
    whileNext begins step state tokens = (step state >>= whileNext begins step) tokens := by
  cases tokens with
  | nil => cases present
  | cons first others =>
    rw [whileNext, List.length_cons, repeatStep_of_present present]
    exact bind_congr_of_shorter reads solid fun value rest shorter =>
      repeatStep_congr reads solid (Nat.le_of_lt_succ shorter) (Nat.le_refl _) value

/-- A loop reads the closure of the language of its steps. -/
theorem Reads.whileNext (begins : Token → Bool) (state : σ) : Reads (whileNext begins step state) L∗ := by
  refine ⟨⟨[], Language.nil_mem_kstar L⟩, fun tokens => ?_⟩
  induction size : tokens.length using Nat.strong_induction_on generalizing tokens state with
  | _ size ih =>
    cases present : tokens.head?.any begins with
    | false =>
      refine (((Reads.pure state).runs tokens).mono one_le_kstar).of_head fun more next => ?_
      rw [← next] at present
      exact repeatStep_of_absent present state
    | true =>
      have step : Runs (step state >>= Parser.whileNext begins step) (L * L∗) tokens := by
        refine ((reads state).runs tokens).bind (fun taken rest value complete same => ?_)
          ⟨[], Language.nil_mem_kstar L⟩
        have nonempty : taken ≠ [] := fun empty => solid (empty ▸ complete)
        have positive := List.length_pos_iff.2 nonempty
        refine ih rest.length ?_ value rest rfl
        rw [← size, same, List.length_append]
        omega
      refine (step.mono mul_kstar_le_kstar).of_head fun more next => ?_
      rw [← next] at present
      exact whileNext_of_present reads solid present state

end Loops

section Lists

variable {item : Parser α} [Nonempty α]

theorem Reads.many (begins : Token → Bool) (reads : Reads item L) (solid : [] ∉ L) :
    Reads (many begins item) L∗ :=
  .whileNext (fun items => reads.bind_pure fun value => items ++ [value]) solid begins []

theorem Reads.separated {separator : Mark} {S : Language Token} (between : Reads (mark separator) S)
    (reads : Reads item L) (solid : [] ∉ S * L) : Reads (separated separator item) (L * (S * L)∗) :=
  reads.bind fun first =>
    (Reads.many (Token.isMark separator) (between.bind fun _ => reads) solid).bind_pure (first :: ·)

end Lists

end WideColumn.Parser
