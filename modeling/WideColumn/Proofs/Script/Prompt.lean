import WideColumn.Prompt
import WideColumn.Proofs.Script.Comments

/-!
# The prompt and the script

Lines taken one by one at a prompt are run as the statements of the script that they make. A buffer
that is complete has ended, so the script is cut where it ends, and the lines after it are cut as if
they stood alone; a buffer that has ended without being complete holds no statement. The induction is
on the lines, and what carries it is that the buffer and the lines to come have the statements that
are still to be run (`turns_eq_answers`).
-/

namespace WideColumn

open Text

/-! ### Completeness -/

namespace Script

variable {text last : List Char} {ended : List (List Char)} {buffer : String}

/-- Whether a buffer is one of the statements that need no semicolon. -/
def IsBare (buffer : String) : Prop :=
  String.ofList (lower (trim buffer.toList)) ∈ bareStatements

theorem isComplete_iff (clear : ¬IsBare buffer) : isComplete buffer = true ↔
    ¬Blank buffer.toList ∧ modeAfter (withoutComments buffer.toList) = .outside ∧
      (split buffer.toList).getLast?.any endsWithSemicolon = true := by
  obtain ⟨statements, mode⟩ := split_trim buffer.toList
  have notBare : bareStatements.contains (String.ofList (lower (trim buffer.toList))) = false := by
    refine Bool.eq_false_iff.2 fun found => clear ?_
    exact List.contains_iff_mem.1 found
  simp only [isComplete, notBare, Bool.false_or, Bool.and_eq_true, Bool.not_eq_true',
    List.isEmpty_eq_false_iff, ne_eq, trim_eq_nil, beq_iff_eq, mode, statements]

/-- The last piece is cut no further, and ends in the mode in which the whole text ends. -/
theorem Cut.last_alone (cut : Cut .outside text ended last) :
    Cut .outside last [] last ∧ modeAfter last = modeAfter text := by
  cases ended with
  | nil =>
    obtain rfl := cut.eq_last
    exact ⟨cut, rfl⟩
  | cons head others => exact cut.alone nofun

/-- A text outside quotes that is not cut does not end with a semicolon and blanks. -/
theorem Cut.not_semicolon (cut : Cut .outside last [] last) (outside : modeAfter last = .outside)
    (front : List Char) : trim last ≠ front ++ [';'] := by
  intro ends
  obtain ⟨before, after, -, back, same⟩ := eq_trim last
  have split : last = (before ++ front) ++ ';' :: after := by
    rw [same, ends]
    simp only [List.append_assoc, List.singleton_append]
  have reached := sound_modeAfter (before ++ front)
  -- In quotes the semicolon and the blanks would have left the text there.
  have open_ : modeAfter (before ++ front) = .outside := by
    rw [split, modeAfter_append, List.foldl_cons, foldl_blank (reached.next ';') back] at outside
    exact (Mode.next_eq_outside reached (by decide) (by decide)).1 outside
  obtain ⟨others, final, inner⟩ := exists_cut .outside (before ++ front)
  have pieces := inner.pieces_append open_ (';' :: after)
  rw [← split, cut.pieces, pieces_semicolon] at pieces
  have rest := List.length_pos_iff.2 (pieces_ne_nil .outside after)
  have count := congrArg List.length pieces
  simp only [List.nil_append, List.length_append, List.modifyHead_cons, List.length_cons,
    List.length_nil] at count
  omega

/-- Whether a text has nothing but blanks behind its last semicolon outside quotes, or nothing but
blanks. -/
def EndsClosed (text : List Char) : Prop :=
  Blank text ∨ ∃ before after, text = before ++ ';' :: after ∧ modeAfter before = .outside ∧
    Blank after

theorem ended_of_endsClosed (closed : EndsClosed text) : Ended text := by
  rcases closed with blank | ⟨before, after, rfl, outside, blank⟩
  · exact ended_of_blank blank
  · obtain ⟨ended, last, cut⟩ := exists_cut .outside before
    have joined := cut.pieces_append outside (';' :: after)
    rw [pieces_semicolon, (cut_of_blank .outside blank).pieces, List.nil_append,
      List.modifyHead_cons] at joined
    have shape : ended ++ [last ++ [';'], after] = (ended ++ [last ++ [';']]) ++ [after] := by simp
    refine (cut_iff.2 (joined.trans shape)).ended_iff.2 ⟨blank, ?_⟩
    rw [modeAfter_append, outside, List.foldl_cons,
      foldl_blank (Mode.sound_outside.next ';') blank]
    rfl

instance (buffer : String) : Decidable (IsBare buffer) :=
  inferInstanceAs (Decidable (_ ∈ bareStatements))

/-- A complete buffer has ended. -/
theorem ended_of_isComplete (clear : ¬IsBare buffer) (complete : isComplete buffer = true) :
    Ended (withoutComments buffer.toList) := by
  obtain ⟨-, outside, semicolon⟩ := (isComplete_iff clear).1 complete
  obtain ⟨ended, last, cut⟩ := exists_cut .outside (withoutComments buffer.toList)
  obtain ⟨alone, mode⟩ := cut.last_alone
  have open_ := alone.not_semicolon (mode.trans outside)
  refine cut.ended_iff.2 ⟨trim_eq_nil.1 ?_, outside⟩
  by_contra filled
  have notAlone : trim last ≠ [';'] := open_ []
  have statement : isStatement (trim last) = true := by
    simp [isStatement, filled, notAlone]
  rw [split_eq, statementsOf, cut.pieces, List.map_append, List.filter_append, List.map_singleton,
    List.filter_cons_of_pos statement, List.filter_nil, List.getLast?_concat, Option.any_some,
    endsWithSemicolon, beq_iff_eq] at semicolon
  obtain ⟨front, ends⟩ := List.getLast?_eq_some_iff.1 semicolon
  exact open_ front ends

/-- A buffer that has ended and is not complete holds no statement. -/
theorem split_of_not_isComplete (clear : ¬IsBare buffer)
    (done : Ended (withoutComments buffer.toList)) (incomplete : isComplete buffer ≠ true) :
    split buffer.toList = [] := by
  by_contra filled
  refine incomplete ((isComplete_iff clear).2 ⟨fun blank => filled ?_, ?_, ?_⟩)
  · rw [split_eq, statementsOf_of_blank (blank_withoutComments blank)]
  · obtain ⟨-, -, -, -, outside⟩ := done
    exact outside
  · rw [List.getLast?_eq_some_getLast filled, Option.any_some]
    exact done.endsWithSemicolon _ (List.getLast_mem filled)

end Script

/-! ### What is answered -/

namespace Shell

/-- Statements with their answers, up to the first one that ends the session; whether there was one,
and the shell afterwards. -/
def answers (moment : Moment) (shell : Shell) :
    List String → List (String × Reply) × Bool × Shell
  | [] => ([], false, shell)
  | statement :: rest =>
    let answered := shell.answer moment statement
    if answered.1.endsSession then ([(statement, answered.1)], true, answered.2)
    else
      let others := answers moment answered.2 rest
      ((statement, answered.1) :: others.1, others.2)

/-- What is shown of statements and their answers. -/
def shown (answered : List (String × Reply)) : List Display :=
  answered.map fun (_, reply) => display reply

variable {moment : Moment} {shell : Shell} {statement : String}

theorem answers_of_ends (ends : (shell.answer moment statement).1.endsSession = true)
    (rest : List String) :
    shell.answers moment (statement :: rest) =
      ([(statement, (shell.answer moment statement).1)], true,
        (shell.answer moment statement).2) := by
  rw [answers]
  exact if_pos ends

theorem answers_of_goesOn (goesOn : (shell.answer moment statement).1.endsSession = false)
    (rest : List String) :
    shell.answers moment (statement :: rest) =
      ((statement, (shell.answer moment statement).1) ::
          ((shell.answer moment statement).2.answers moment rest).1,
        ((shell.answer moment statement).2.answers moment rest).2) := by
  rw [answers]
  exact if_neg (by simp [goesOn])

/-- Statements behind one that ended the session are not answered. -/
theorem answers_append_of_ended {first : List String}
    (ended : (shell.answers moment first).2.1 = true) (second : List String) :
    shell.answers moment (first ++ second) = shell.answers moment first := by
  induction first generalizing shell with
  | nil => cases ended
  | cons statement rest ih =>
    cases ends : (shell.answer moment statement).1.endsSession with
    | true => rw [List.cons_append, answers_of_ends ends, answers_of_ends ends]
    | false =>
      rw [answers_of_goesOn ends] at ended
      rw [List.cons_append, answers_of_goesOn ends, answers_of_goesOn ends, ih ended]

/-- Otherwise they are answered where the first ones left off. -/
theorem answers_append {first : List String}
    (goesOn : (shell.answers moment first).2.1 = false) (second : List String) :
    shell.answers moment (first ++ second) =
      ((shell.answers moment first).1 ++ ((shell.answers moment first).2.2.answers moment second).1,
        ((shell.answers moment first).2.2.answers moment second).2) := by
  induction first generalizing shell with
  | nil => rfl
  | cons statement rest ih =>
    cases ends : (shell.answer moment statement).1.endsSession with
    | true =>
      rw [answers_of_ends ends] at goesOn
      cases goesOn
    | false =>
      rw [answers_of_goesOn ends] at goesOn
      rw [List.cons_append, answers_of_goesOn ends, answers_of_goesOn ends, ih goesOn]
      rfl

/-- A script is run as its statements are answered. -/
theorem run_eq (statements : List String) :
    shell.run {} moment statements =
      (shown (shell.answers moment statements).1,
        (shell.answers moment statements).1.all fun (_, reply) => reply.isSuccess,
        (shell.answers moment statements).2.2) := by
  induction statements generalizing shell with
  | nil => rfl
  | cons statement rest ih =>
    rw [run]
    cases ends : (shell.answer moment statement).1.endsSession with
    | true => simp [answers_of_ends ends, shown, ends]
    | false => simp [answers_of_goesOn ends, shown, ends, ih]

end Shell

namespace Prompt

variable {moment : Moment} {prompt : Prompt} {line : String}

theorem runAll_eq {shell : Shell} (statements : List String) :
    runAll moment shell statements =
      (Shell.shown (shell.answers moment statements).1, (shell.answers moment statements).2) := by
  induction statements generalizing shell with
  | nil => rfl
  | cons statement rest ih =>
    rw [runAll]
    cases ends : (shell.answer moment statement).1.endsSession with
    | true => simp [Shell.answers_of_ends ends, Shell.shown, ends]
    | false => simp [Shell.answers_of_goesOn ends, Shell.shown, ends, ih]

/-- What happens when a line is taken: what is shown before it, the buffer that it makes, and the
statements that are then run with their answers. -/
structure Turn where
  asked : String
  typed : String
  answered : List (String × Reply)

/-- What is shown in a turn. -/
def Turn.shown (turn : Turn) : List Display :=
  .output turn.asked :: Shell.shown turn.answered

/-- The turns of a conversation, whether the session ended, and the prompt afterwards. -/
def turns (moment : Moment) (prompt : Prompt) : List String → List Turn × Bool × Prompt
  | [] => ([], false, prompt)
  | line :: rest =>
    let answered := prompt.shell.answers moment (take prompt.buffer line).1
    let turn : Turn := ⟨prompt.text, extend prompt.buffer line, answered.1⟩
    let after : Prompt := ⟨answered.2.2, (take prompt.buffer line).2⟩
    if answered.2.1 then ([turn], true, after)
    else
      let others := turns moment after rest
      (turn :: others.1, others.2)

theorem turns_of_ended {statements : List String} {buffer : String}
    (taken : take prompt.buffer line = (statements, buffer))
    (ended : (prompt.shell.answers moment statements).2.1 = true) (rest : List String) :
    prompt.turns moment (line :: rest) =
      ([⟨prompt.text, extend prompt.buffer line, (prompt.shell.answers moment statements).1⟩], true,
        ⟨(prompt.shell.answers moment statements).2.2, buffer⟩) := by
  rw [turns, taken]
  exact if_pos ended

theorem turns_of_goesOn {statements : List String} {buffer : String}
    (taken : take prompt.buffer line = (statements, buffer))
    (goesOn : (prompt.shell.answers moment statements).2.1 = false) (rest : List String) :
    prompt.turns moment (line :: rest) =
      (⟨prompt.text, extend prompt.buffer line, (prompt.shell.answers moment statements).1⟩ ::
          (turns moment ⟨(prompt.shell.answers moment statements).2.2, buffer⟩ rest).1,
        (turns moment ⟨(prompt.shell.answers moment statements).2.2, buffer⟩ rest).2) := by
  rw [turns, taken]
  exact if_neg (by simp [goesOn])

/-- A line makes a turn, in which it is typed behind the buffer. -/
theorem exists_turn (line : String) (rest : List String) :
    ∃ turn ∈ (prompt.turns moment (line :: rest)).1, turn.typed = extend prompt.buffer line := by
  rcases taken : take prompt.buffer line with ⟨statements, buffer⟩
  cases ends : (prompt.shell.answers moment statements).2.1 with
  | true =>
    rw [turns_of_ended taken ends]
    exact ⟨_, List.mem_cons_self, rfl⟩
  | false =>
    rw [turns_of_goesOn taken ends]
    exact ⟨_, List.mem_cons_self, rfl⟩

/-- A prompt takes a line by running the statements that the line completes. -/
theorem feed_eq : prompt.feed moment line =
    (Shell.shown (prompt.shell.answers moment (take prompt.buffer line).1).1,
      (prompt.shell.answers moment (take prompt.buffer line).1).2.1,
      ⟨(prompt.shell.answers moment (take prompt.buffer line).1).2.2,
        (take prompt.buffer line).2⟩) := by
  simp only [feed, runAll_eq]

/-- A conversation shows its turns, and a last prompt if the input ends before the session. -/
theorem converse_eq (lines : List String) :
    prompt.converse moment lines =
      (prompt.turns moment lines).1.flatMap Turn.shown ++
        if (prompt.turns moment lines).2.1 then []
        else [.output (prompt.turns moment lines).2.2.text, .output "\n"] := by
  induction lines generalizing prompt with
  | nil => rfl
  | cons line rest ih =>
    rcases taken : take prompt.buffer line with ⟨statements, buffer⟩
    rw [converse, feed_eq, taken]
    cases ends : (prompt.shell.answers moment statements).2.1 with
    | true => simp [turns_of_ended taken ends, Turn.shown]
    | false => simp [turns_of_goesOn taken ends, Turn.shown, ih]

/-! ### The statements of the lines -/

/-- The text of a buffer and the lines to come. -/
def remaining (buffer : String) (lines : List String) : List Char :=
  unlines ((if buffer.isEmpty then [] else [buffer.toList]) ++ lines.map String.toList)

theorem remaining_of_nonempty {buffer : String} (nonempty : buffer.isEmpty = false)
    (lines : List String) :
    remaining buffer lines = unlines (buffer.toList :: lines.map String.toList) := by
  rw [remaining, nonempty]
  rfl

/-- A line goes to the end of the buffer. -/
theorem remaining_cons (buffer line : String) (lines : List String) :
    remaining buffer (line :: lines) =
      unlines ((extend buffer line).toList :: lines.map String.toList) := by
  cases empty : buffer.isEmpty with
  | true =>
    rw [remaining, extend, empty]
    rfl
  | false =>
    have feed : "\n".toList = ['\n'] := rfl
    rw [remaining_of_nonempty empty, extend, empty, if_neg Bool.false_ne_true, String.toList_append,
      String.toList_append, feed, List.append_assoc, List.singleton_append, List.map_cons,
      unlines_cons_cons]
    cases lines with
    | nil => rw [List.map_nil, unlines_singleton, unlines_singleton]
    | cons next others =>
      rw [List.map_cons, unlines_cons_cons, unlines_cons_cons, List.append_assoc, List.cons_append]

/-- Behind a text that has ended, lines have the statements and the end that they have alone. -/
theorem split_unlines {text : List Char} (done : Script.Ended (Script.withoutComments text))
    (lines : List (List Char)) :
    Script.split (unlines (text :: lines)) = Script.split text ++ Script.split (unlines lines) ∧
      (Script.Ended (Script.withoutComments (unlines (text :: lines))) →
        Script.Ended (Script.withoutComments (unlines lines))) := by
  cases lines with
  | nil =>
    rw [unlines_singleton]
    exact ⟨(List.append_nil _).symm, fun _ => Script.ended_of_blank blank_nil⟩
  | cons line rest =>
    obtain ⟨gap, blank, same⟩ := Script.withoutComments_join text (unlines (line :: rest))
    rw [unlines_cons_cons, Script.split_eq, same, done.statementsOf_append, done.append_iff,
      (Script.ended_of_blank blank).append_iff, (Script.ended_of_blank blank).statementsOf_append,
      Script.statementsOf_of_blank blank, List.nil_append]
    exact ⟨rfl, id⟩

/-- A line that does not leave the buffer incomplete makes it a text that has ended. -/
theorem take_cases {buffer line : String} (clear : ¬Script.IsBare (extend buffer line)) :
    (take buffer line = (Script.statements (extend buffer line), "") ∧
        Script.Ended (Script.withoutComments (extend buffer line).toList)) ∨
      (take buffer line = ([], extend buffer line) ∧ (extend buffer line).isEmpty = false ∧
        Script.isComplete (extend buffer line) = false) := by
  by_cases blank : Blank (extend buffer line).toList
  · have ended := Script.ended_of_blank (Script.blank_withoutComments blank)
    have nothing : Script.statements (extend buffer line) = [] := by
      rw [Script.statements, Script.split_eq,
        Script.statementsOf_of_blank (Script.blank_withoutComments blank), List.map_nil]
    refine .inl ⟨?_, ended⟩
    rw [nothing]
    exact if_pos (List.isEmpty_iff.2 (trim_eq_nil.2 blank))
  · have filled : ¬(trim (extend buffer line).toList).isEmpty = true := fun empty =>
      blank (trim_eq_nil.1 (List.isEmpty_iff.1 empty))
    cases complete : Script.isComplete (extend buffer line) with
    | true =>
      refine .inl ⟨?_, Script.ended_of_isComplete clear complete⟩
      exact (if_neg filled).trans (if_pos complete)
    | false =>
      refine .inr ⟨(if_neg filled).trans (if_neg (by simp [complete])), ?_, rfl⟩
      refine Bool.eq_false_iff.2 fun empty => blank ?_
      rw [String.isEmpty_iff.1 empty]
      exact blank_nil

/-- Whether a buffer waits for further lines: it is empty, or it is neither complete nor a statement
that needs no semicolon. -/
def Waits (buffer : String) : Prop :=
  buffer.isEmpty = false → ¬Script.IsBare buffer ∧ Script.isComplete buffer = false

theorem waits_empty : Waits "" := fun filled => absurd filled (by decide)

/-- Lines that are taken one by one at a prompt are answered as the statements of the buffer and the
lines. -/
theorem turns_eq_answers (prompt : Prompt) (lines : List String) (waits : Waits prompt.buffer)
    (clear : ∀ turn ∈ (prompt.turns moment lines).1, ¬Script.IsBare turn.typed)
    (done : Script.Ended (Script.withoutComments (remaining prompt.buffer lines))) :
    ((prompt.turns moment lines).1.flatMap Turn.answered, (prompt.turns moment lines).2.1,
        (prompt.turns moment lines).2.2.shell) =
      prompt.shell.answers moment
        ((Script.split (remaining prompt.buffer lines)).map String.ofList) := by
  induction lines generalizing prompt with
  | nil =>
    have nothing : Script.split (remaining prompt.buffer []) = [] := by
      cases empty : prompt.buffer.isEmpty with
      | true =>
        rw [remaining, empty]
        rfl
      | false =>
        obtain ⟨notBare, incomplete⟩ := waits empty
        rw [remaining_of_nonempty empty, List.map_nil, unlines_singleton] at done ⊢
        exact Script.split_of_not_isComplete notBare done (by simp [incomplete])
    rw [nothing]
    rfl
  | cons line rest ih =>
    have notBare : ¬Script.IsBare (extend prompt.buffer line) := by
      obtain ⟨turn, mem, typed⟩ := exists_turn line rest
      exact typed ▸ clear turn mem
    rw [remaining_cons] at done ⊢
    rcases take_cases notBare with ⟨taken, ended⟩ | ⟨taken, nonempty, incomplete⟩
    · -- What the line completes is cut off, and the lines to come stand alone.
      obtain ⟨joined, later⟩ := split_unlines ended (rest.map String.toList)
      rw [joined, List.map_append]
      rw [Script.statements] at taken
      cases ends : (prompt.shell.answers moment
          ((Script.split (extend prompt.buffer line).toList).map String.ofList)).2.1 with
      | true =>
        rw [turns_of_ended taken ends, Shell.answers_append_of_ended ends, List.flatMap_singleton,
          ← ends]
      | false =>
        rw [turns_of_goesOn taken ends] at clear ⊢
        rw [Shell.answers_append ends, List.flatMap_cons]
        have others := ih ⟨_, ""⟩ waits_empty
          (fun turn mem => clear turn (List.mem_cons_of_mem _ mem)) (later done)
        have alone : remaining "" rest = unlines (rest.map String.toList) := rfl
        rw [alone] at others
        rw [← others]
    · -- Nothing is run yet, and the buffer and the lines to come are still the same text.
      have nothing : prompt.shell.answers moment [] = ([], false, prompt.shell) := rfl
      have goesOn : (prompt.shell.answers moment []).2.1 = false := rfl
      rw [turns_of_goesOn taken goesOn, nothing] at clear ⊢
      rw [← remaining_of_nonempty nonempty] at done ⊢
      rw [List.flatMap_cons, List.nil_append]
      exact ih ⟨prompt.shell, extend prompt.buffer line⟩ (fun _ => ⟨notBare, incomplete⟩)
        (fun turn mem => clear turn (List.mem_cons_of_mem _ mem)) done

/-- Lines that are taken one by one at a prompt are answered as the statements of the script that
they make, up to the first that ends the session, if none of the buffers on the way is a statement
that needs no semicolon, and nothing but blanks and comments stands behind the last semicolon. The
prompt shows these answers between its own texts, the script shows them alone, and the session is the
same afterwards. -/
theorem converse_eq_script (moment : Moment) (shell : Shell) (lines : List String)
    (clear : ∀ turn ∈ (turns moment { shell } lines).1, ¬Script.IsBare turn.typed)
    (closed : Script.EndsClosed
      (Script.withoutComments (unlines (lines.map String.toList)))) :
    let statements := Script.statements (String.ofList (unlines (lines.map String.toList)))
    let talk := turns moment { shell } lines
    let answered := shell.answers moment statements
    (talk.1.flatMap Turn.answered, talk.2.1, talk.2.2.shell) = answered ∧
      converse moment { shell } lines = talk.1.flatMap Turn.shown ++
        (if talk.2.1 then [] else [.output talk.2.2.text, .output "\n"]) ∧
      shell.run {} moment statements = (Shell.shown (talk.1.flatMap Turn.answered),
        (talk.1.flatMap Turn.answered).all fun (_, reply) => reply.isSuccess, talk.2.2.shell) := by
  have whole : Script.statements (String.ofList (unlines (lines.map String.toList))) =
      (Script.split (remaining "" lines)).map String.ofList := by
    unfold Script.statements
    rw [String.toList_ofList]
    rfl
  have same := turns_eq_answers { shell } lines waits_empty clear
    (Script.ended_of_endsClosed closed)
  dsimp only at same ⊢
  rw [whole, Shell.run_eq, ← same]
  exact ⟨rfl, converse_eq lines, rfl⟩

/-- Two statements over several lines with a comment, as they are typed and as they are cut. -/
theorem converse_eq_script_use :
    let supply : Supply := ⟨id, id, 0, 0⟩
    let shell : Shell := { state := { store := Store.connect { clusterName := "c" } }, supply }
    let lines := ["-- first", "use", "system; create keyspace", "'b;';", ""]
    let talk := turns { now := 0 } { shell } lines
    let statements := Script.statements (String.ofList (unlines (lines.map String.toList)))
    talk.1.map Turn.typed = ["-- first", "-- first\nuse", "-- first\nuse\nsystem; create keyspace",
        "-- first\nuse\nsystem; create keyspace\n'b;';", ""] ∧
      statements = ["use\nsystem;", "create keyspace\n'b;';"] ∧
      (talk.1.flatMap Turn.answered).map Prod.fst = statements ∧
      (shell.run {} { now := 0 } statements).1 = Shell.shown (talk.1.flatMap Turn.answered) := by
  intro supply shell lines talk statements
  have typed : talk.1.map Turn.typed = ["-- first", "-- first\nuse",
      "-- first\nuse\nsystem; create keyspace",
      "-- first\nuse\nsystem; create keyspace\n'b;';", ""] := by
    decide +kernel
  have cut : statements = ["use\nsystem;", "create keyspace\n'b;';"] := by decide +kernel
  have first : (talk.1.flatMap Turn.answered).map Prod.fst = statements := by decide +kernel
  have clear : ∀ turn ∈ talk.1, ¬Script.IsBare turn.typed := by
    have all : ∀ buffer ∈ talk.1.map Turn.typed, ¬Script.IsBare buffer := by
      rw [typed]
      decide +kernel
    exact fun turn mem => all turn.typed (List.mem_map_of_mem mem)
  have closed : Script.EndsClosed (Script.withoutComments (unlines (lines.map String.toList))) :=
    .inr ⟨"use\nsystem; create keyspace\n'b;'".toList, ['\n'], by decide +kernel, by decide +kernel,
      blank_singleton rfl⟩
  obtain ⟨-, -, run⟩ := converse_eq_script { now := 0 } shell lines clear closed
  refine ⟨typed, cut, first, ?_⟩
  rw [run]

end Prompt

end WideColumn
