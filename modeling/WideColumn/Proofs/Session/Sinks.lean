import WideColumn.Proofs.Session.Commands
import WideColumn.Proofs.Session.Isolation

/-!
# One sink for a statement, one line for a failure

Whatever a statement holds and wherever it fails, its failure is written as one line: a label, and a
message in which every line break is spelled out (`Report.failure_line`). An outcome is written as
whole lines (`Report.ends_of_outcome`). So a statement writes to one of the two outputs at most and
leaves the other alone (`State.process_writes`).
-/

namespace WideColumn

namespace Report

variable {newline text : String}

/-- Whether a text stays on one line. -/
def OnOneLine (text : String) : Prop :=
  ∀ c ∈ text.toList, c ≠ '\r' ∧ c ≠ '\n'

/-! ### Failures -/

/-- Spelled out, a message has no line break left. -/
theorem onOneLine_oneLine (message : String) : OnOneLine (oneLine message) := by
  intro c mem
  rw [oneLine, String.toList_ofList] at mem
  obtain ⟨given, -, spelled⟩ := List.mem_flatMap.1 mem
  split at spelled
  · rcases List.mem_cons.1 spelled with rfl | spelled
    · decide
    · obtain rfl := List.mem_singleton.1 spelled
      decide
  · rename_i noReturn
    split at spelled
    · rcases List.mem_cons.1 spelled with rfl | spelled
      · decide
      · obtain rfl := List.mem_singleton.1 spelled
        decide
    · rename_i noFeed
      obtain rfl := List.mem_singleton.1 spelled
      exact ⟨noReturn, noFeed⟩

theorem onOneLine_of_all (all : text.toList.all (fun c => c != '\r' && c != '\n') = true) :
    OnOneLine text := by
  intro c mem
  simpa using List.all_eq_true.1 all c mem

theorem onOneLine_label (cause : Failure) : OnOneLine (cause.label ++ ": ") := by
  cases cause <;> rw [Failure.label] <;> exact onOneLine_of_all (by decide)

theorem OnOneLine.append {first second : String} (start : OnOneLine first)
    (rest : OnOneLine second) : OnOneLine (first ++ second) := by
  intro c mem
  rw [String.toList_append] at mem
  rcases List.mem_append.1 mem with early | late
  · exact start c early
  · exact rest c late

/-- The text of a failure is a line with the separator at its end only. -/
theorem failure_line (newline : String) (cause : Failure) :
    failure newline cause = cause.label ++ ": " ++ oneLine cause.message ++ newline ∧
      OnOneLine (cause.label ++ ": " ++ oneLine cause.message) :=
  ⟨rfl, (onOneLine_label cause).append (onOneLine_oneLine _)⟩

theorem failure_ne_empty (newline : String) (cause : Failure) : failure newline cause ≠ "" := by
  intro empty
  have length := congrArg String.length empty
  rw [(failure_line newline cause).1] at length
  simp [String.length_append] at length

/-! ### Outcomes -/

/-- The text of an outcome is empty or ends with a line break. -/
theorem ends_of_outcome {given : Outcome} (shown : outcome newline given = .ok text) :
    text = "" ∨ ∃ body, text = body ++ newline := by
  obtain ⟨found, -, same⟩ := bind_eq_ok.1 shown
  cases same
  rcases List.eq_nil_or_concat found with rfl | ⟨init, last, rfl⟩
  · exact .inl rfl
  · refine .inr ⟨String.join (init.map (· ++ newline)) ++ last, ?_⟩
    simp [String.append_assoc]

end Report

namespace Sinks

theorem append_empty (texts : List String) : append texts "" = texts :=
  rfl

theorem append_of_ne {text : String} (shown : text ≠ "") (texts : List String) :
    append texts text = texts ++ [text] := by
  rw [append, if_neg]
  simpa using shown

end Sinks

namespace State

/-- A reply is a failure with its line, or the outcome of the command that was read, with its
text. -/
theorem answer_cases (state : State) (moment : Moment) (newline statement : String)
    (supply : Supply) :
    (∃ cause, (state.answer moment newline statement supply).1.1 =
        .failure cause (Report.failure newline cause)) ∨
      ∃ command outcome text, Command.parse statement = .ok command ∧
        (Action.execute moment command state supply).1.1 = .ok outcome ∧
        Report.outcome newline outcome = .ok text ∧
        (state.answer moment newline statement supply).1.1 = .success outcome text := by
  cases parsed : Command.parse statement with
  | error cause =>
    rw [answer_of_refused parsed]
    exact .inl ⟨cause, rfl⟩
  | ok command =>
    rw [answer_of_parsed parsed]
    rcases ran : Action.execute moment command state supply with ⟨⟨result, after⟩, left⟩
    cases result with
    | error cause => exact .inl ⟨cause, rfl⟩
    | ok outcome =>
      dsimp only [Reply.ofResult]
      cases shown : Report.outcome newline outcome with
      | error cause => exact .inl ⟨cause, rfl⟩
      | ok text => exact .inr ⟨command, outcome, text, rfl, by rw [ran], shown, rfl⟩

/-- Processing a statement writes its reply and does nothing else with the outputs. -/
theorem process_eq (state : State) (moment : Moment) (newline statement : String) (sinks : Sinks)
    (supply : Supply) :
    state.process moment newline statement sinks supply =
      (((state.answer moment newline statement supply).1.1,
          (state.answer moment newline statement supply).1.2,
          sinks.write (state.answer moment newline statement supply).1.1),
        (state.answer moment newline statement supply).2) := by
  unfold process
  generalize state.answer moment newline statement = answer
  rfl

/-- A statement that fails leaves the output as it was and writes one text to the error output: a
line, which the separator ends and in which there is no other line break. A statement that succeeds
leaves the error output as it was and writes the text of its outcome to the output, if that is not
empty; and then the separator is at its end. -/
theorem process_writes (state : State) (moment : Moment) (newline statement : String)
    (sinks : Sinks) (supply : Supply) :
    let reply := (state.process moment newline statement sinks supply).1.1
    let written := (state.process moment newline statement sinks supply).1.2.2
    (reply.isSuccess = false → written.output = sinks.output ∧
        ∃ line, written.errorOutput = sinks.errorOutput ++ [line ++ newline] ∧
          ∀ c ∈ line.toList, c ≠ '\r' ∧ c ≠ '\n') ∧
      (reply.isSuccess = true → written.errorOutput = sinks.errorOutput ∧
        ∃ command outcome text, Command.parse statement = .ok command ∧
          (Action.execute moment command state supply).1.1 = .ok outcome ∧
          Report.outcome newline outcome = .ok text ∧
          written.output = (if text = "" then sinks.output else sinks.output ++ [text]) ∧
          (text ≠ "" → ∃ body, text = body ++ newline)) := by
  rw [process_eq]
  dsimp only
  have cases := answer_cases state moment newline statement supply
  generalize (state.answer moment newline statement supply).1.1 = reply at cases ⊢
  rcases cases with ⟨cause, rfl⟩ | ⟨command, outcome, text, parsed, ran, shown, rfl⟩
  · refine ⟨fun _ => ⟨rfl, _, ?_, (Report.failure_line newline cause).2⟩, nofun⟩
    exact Sinks.append_of_ne (Report.failure_ne_empty newline cause) _
  · refine ⟨nofun, fun _ => ⟨rfl, command, outcome, text, parsed, ran, shown, ?_,
      (Report.ends_of_outcome shown).resolve_left⟩⟩
    split
    · rename_i empty
      rw [empty]
      exact Sinks.append_empty _
    · rename_i shows
      exact Sinks.append_of_ne shows _

end State

end WideColumn
