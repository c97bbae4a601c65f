import WideColumn.Proofs.Script.Comments

/-!
# Splitting loses nothing

The statements of a script, with the blanks and the lone semicolons that stand between them, give the
script back without its comments (`Restores`). Where a statement ends is said without the splitter: a
text ends outside quotes if it is made of strings and of characters that are no quotes (`Unquoted`),
and a statement is cut at the first semicolon that stands behind such a text (`WellCut`). There is one
way only to restore a script from statements that are cut so (`Restores.eq_statementsOf`).
-/

namespace WideColumn.Script

open Text

/-! ### Outside quotes -/

/-- A text behind a quote that does not close it: a backslash takes the character behind it along. -/
inductive StaysQuoted (quote : Char) : List Char → Prop
  | nil : StaysQuoted quote []
  | escape {c : Char} {rest : List Char} (stays : StaysQuoted quote rest) :
    StaysQuoted quote ('\\' :: c :: rest)
  | char {c : Char} {rest : List Char} (notQuote : c ≠ quote) (notEscape : c ≠ '\\')
      (stays : StaysQuoted quote rest) : StaysQuoted quote (c :: rest)

/-- A text of strings and of characters that are no quotes. -/
inductive Unquoted : List Char → Prop
  | nil : Unquoted []
  | char {c : Char} {rest : List Char} (single : c ≠ '\'') (double : c ≠ '"')
      (unquoted : Unquoted rest) : Unquoted (c :: rest)
  | string {quote : Char} {body rest : List Char} (mark : quote = '\'' ∨ quote = '"')
      (stays : StaysQuoted quote body) (unquoted : Unquoted rest) :
    Unquoted (quote :: (body ++ quote :: rest))

variable {mode : Mode} {quote c : Char} {text body rest blanks statement : List Char}
  {statements : List (List Char)}

theorem StaysQuoted.foldl (stays : StaysQuoted quote body) :
    body.foldl Mode.next (.quoted quote) = .quoted quote := by
  induction stays with
  | nil => rfl
  | escape stays ih => simpa [Mode.next] using ih
  | char notQuote notEscape stays ih => simpa [Mode.next, notQuote, notEscape] using ih

/-- What leads from a mode to the outside of quotes. -/
def Mode.Leaves : Mode → List Char → Prop
  | outside, text => Unquoted text
  | quoted quote, text =>
    ∃ body rest, text = body ++ quote :: rest ∧ StaysQuoted quote body ∧ Unquoted rest
  | escaped quote, text =>
    ∃ c body rest, text = c :: (body ++ quote :: rest) ∧ StaysQuoted quote body ∧ Unquoted rest

theorem leaves_of_foldl (sound : mode.Sound) (outside : text.foldl Mode.next mode = .outside) :
    mode.Leaves text := by
  induction text generalizing mode with
  | nil =>
    obtain rfl : mode = .outside := outside
    exact .nil
  | cons c rest ih =>
    have later := ih (sound.next c) outside
    cases mode with
    | outside =>
      rw [Mode.next] at later
      split at later
      · rename_i mark
        obtain ⟨body, rest, rfl, stays, unquoted⟩ := later
        exact .string mark stays unquoted
      · rename_i plain
        rw [not_or] at plain
        exact .char plain.1 plain.2 later
    | quoted quote =>
      rw [Mode.next] at later
      split at later
      · rename_i escape
        obtain ⟨next, body, rest, rfl, stays, unquoted⟩ := later
        exact ⟨c :: next :: body, rest, rfl, escape ▸ .escape stays, unquoted⟩
      · rename_i notEscape
        split at later
        · rename_i close
          exact ⟨[], rest, by rw [close]; rfl, .nil, later⟩
        · rename_i notQuote
          obtain ⟨body, rest, rfl, stays, unquoted⟩ := later
          exact ⟨c :: body, rest, rfl, .char notQuote notEscape stays, unquoted⟩
    | escaped quote =>
      obtain ⟨body, rest, rfl, stays, unquoted⟩ := later
      exact ⟨c, body, rest, rfl, stays, unquoted⟩

/-- The splitter is outside quotes behind a text just if the text is made of strings and of characters
that are no quotes. -/
theorem unquoted_iff : Unquoted text ↔ modeAfter text = .outside := by
  refine ⟨fun unquoted => ?_, leaves_of_foldl Mode.sound_outside⟩
  induction unquoted with
  | nil => rfl
  | @char c rest single double unquoted ih =>
    have stay : Mode.outside.next c = .outside := by simp [Mode.next, single, double]
    rwa [modeAfter, List.foldl_cons, stay]
  | @string quote body rest mark stays unquoted ih =>
    have enter : Mode.outside.next quote = .quoted quote := if_pos mark
    have notEscape : quote ≠ '\\' := by
      rcases mark with rfl | rfl <;> decide
    have leave : (Mode.quoted quote).next quote = .outside := by simp [Mode.next, notEscape]
    rwa [modeAfter, List.foldl_cons, enter, List.foldl_append, stays.foldl, List.foldl_cons, leave]

/-- Blanks in front of a text do not change where it ends. -/
theorem unquoted_blank_append (blank : Blank blanks) :
    Unquoted (blanks ++ text) ↔ Unquoted text := by
  rw [unquoted_iff, unquoted_iff, modeAfter_append, modeAfter_of_blank blank]
  exact Iff.rfl

/-! ### Cutting -/

/-- Whether no semicolon of a text that is read from a mode on stands outside quotes. -/
def Uncut (mode : Mode) (text : List Char) : Prop :=
  ∀ body rest, text = body ++ ';' :: rest → body.foldl Mode.next mode ≠ .outside

theorem uncut_outside :
    Uncut .outside text ↔ ∀ body rest, text = body ++ ';' :: rest → ¬Unquoted body :=
  forall_congr' fun _ => forall_congr' fun _ => imp_congr_right fun _ => not_congr unquoted_iff.symm

theorem uncut_nil : Uncut mode [] := by
  intro body rest same
  simp at same

theorem Uncut.cons (inside : ¬(mode = .outside ∧ c = ';')) (uncut : Uncut (mode.next c) text) :
    Uncut mode (c :: text) := by
  intro body rest same outside
  cases body with
  | nil => exact inside ⟨outside, (List.cons.inj same).1⟩
  | cons head body =>
    obtain ⟨rfl, later⟩ := List.cons.inj same
    exact uncut body rest later outside

/-- A text is uncut, or cut first behind a text that is. -/
theorem uncut_or_exists (mode : Mode) (text : List Char) :
    Uncut mode text ∨ ∃ body rest, text = body ++ ';' :: rest ∧ Uncut mode body ∧
      body.foldl Mode.next mode = .outside := by
  induction text generalizing mode with
  | nil => exact .inl uncut_nil
  | cons c text ih =>
    by_cases stop : mode = .outside ∧ c = ';'
    · obtain ⟨rfl, rfl⟩ := stop
      exact .inr ⟨[], text, rfl, uncut_nil, rfl⟩
    · rcases ih (mode.next c) with uncut | ⟨body, rest, rfl, uncut, outside⟩
      · exact .inl (uncut.cons stop)
      · exact .inr ⟨c :: body, rest, rfl, uncut.cons stop, outside⟩

theorem Uncut.cut (uncut : Uncut mode text) : Cut mode text [] text := by
  induction text generalizing mode with
  | nil => exact .done mode
  | cons c rest ih =>
    refine .last ?_ (ih fun body later same => uncut (c :: body) later (congrArg (c :: ·) same))
    rintro ⟨outside, rfl⟩
    exact uncut [] rest rfl outside

/-- A semicolon behind an uncut text outside quotes cuts it. -/
theorem Uncut.cut_concat (uncut : Uncut .outside body) (unquoted : Unquoted body) :
    Cut .outside (body ++ [';']) [body ++ [';']] [] :=
  cut_iff.2 (uncut.cut.pieces_append (unquoted_iff.1 unquoted) [';'])

/-- Behind an uncut text outside quotes and a semicolon, a text is cut as if it stood alone. -/
theorem Uncut.statementsOf_append (uncut : Uncut .outside body) (unquoted : Unquoted body)
    (rest : List Char) :
    statementsOf (body ++ ';' :: rest) =
      [trim (body ++ [';'])].filter isStatement ++ statementsOf rest := by
  have cut := uncut.cut_concat unquoted
  have reached : modeAfter (body ++ [';']) = .outside := by
    rw [modeAfter_append, unquoted_iff.1 unquoted]
    rfl
  have done : Ended (body ++ [';']) := cut.ended_iff.2 ⟨blank_nil, reached⟩
  rw [List.append_cons, done.statementsOf_append, cut.statementsOf blank_nil, List.map_singleton]

/-! ### Statements -/

/-- Whether a statement has its semicolon. -/
def Closed (statement : List Char) : Prop :=
  ∃ body, statement = body ++ [';'] ∧ Unquoted body

/-- What a statement of a script is. -/
structure WellCut (statement : List Char) : Prop where
  nonempty : statement ≠ []
  notAlone : statement ≠ [';']
  trimmed : trim statement = statement
  /-- Only at the end there is a semicolon outside quotes. -/
  uncut : ∀ body rest, statement = body ++ ';' :: rest → Unquoted body → rest = []

/-- How statements give a text back, with the blanks and the lone semicolons between them. All have
their semicolons, but for the last one. -/
inductive Restores : List (List Char) → List Char → Prop
  | done : Restores [] []
  | blank {c : Char} {statements : List (List Char)} {text : List Char} (blank : isBlank c = true)
      (restores : Restores statements text) : Restores statements (c :: text)
  | semicolon {statements : List (List Char)} {text : List Char}
      (restores : Restores statements text) : Restores statements (';' :: text)
  | closed {statement : List Char} {statements : List (List Char)} {text : List Char}
      (closed : Closed statement) (restores : Restores statements text) :
    Restores (statement :: statements) (statement ++ text)
  | last {statement blanks : List Char} (blank : Blank blanks) :
    Restores [statement] (statement ++ blanks)

theorem Restores.blank_append (restores : Restores statements text) (blank : Blank blanks) :
    Restores statements (blanks ++ text) := by
  induction blanks with
  | nil => exact restores
  | cons c rest ih =>
    exact .blank (blank c List.mem_cons_self) (ih fun other mem => blank other (.tail c mem))

/-- Every statement but the last has its semicolon. -/
theorem Restores.closed_of_mem_dropLast (restores : Restores statements text) :
    ∀ statement ∈ statements.dropLast, Closed statement := by
  induction restores with
  | done => exact nofun
  | blank _ _ ih => exact ih
  | semicolon _ ih => exact ih
  | @closed first others text closed _ ih =>
    intro statement mem
    cases others with
    | nil => cases mem
    | cons next others =>
      rcases List.mem_cons.1 mem with rfl | mem
      · exact closed
      · exact ih statement mem
  | last _ => exact nofun

theorem WellCut.isStatement (wellCut : WellCut statement) : isStatement statement = true := by
  simp [Script.isStatement, wellCut.nonempty, wellCut.notAlone]

/-- Behind a statement with its semicolon a text is cut as if it stood alone. -/
theorem WellCut.statementsOf_append (wellCut : WellCut statement) (closed : Closed statement)
    (rest : List Char) : statementsOf (statement ++ rest) = statement :: statementsOf rest := by
  obtain ⟨body, rfl, unquoted⟩ := closed
  have uncut : Uncut .outside body := by
    refine uncut_outside.2 fun inner later same open_ => ?_
    have ends := wellCut.uncut inner (later ++ [';']) (by rw [same, List.append_assoc]; rfl) open_
    simp at ends
  rw [List.append_assoc, List.singleton_append, uncut.statementsOf_append unquoted, wellCut.trimmed,
    List.filter_cons_of_pos wellCut.isStatement]
  rfl

/-- A statement is its only one. -/
theorem WellCut.statementsOf (wellCut : WellCut statement) :
    statementsOf statement = [statement] := by
  rcases uncut_or_exists .outside statement with uncut | ⟨body, rest, rfl, -, outside⟩
  · rw [Script.statementsOf, uncut.cut.pieces, List.nil_append, List.map_singleton,
      wellCut.trimmed, List.filter_cons_of_pos wellCut.isStatement]
    rfl
  · have unquoted := unquoted_iff.2 outside
    obtain rfl := wellCut.uncut body rest rfl unquoted
    have single := wellCut.statementsOf_append ⟨body, rfl, unquoted⟩ []
    rwa [List.append_nil] at single

/-- There is one way only to restore a text. -/
theorem Restores.eq_statementsOf (restores : Restores statements text)
    (wellCut : ∀ statement ∈ statements, WellCut statement) : statements = statementsOf text := by
  induction restores with
  | done => rfl
  | @blank c statements text blank _ ih =>
    have space := blank_singleton blank
    rw [← List.singleton_append, (ended_of_blank space).statementsOf_append,
      statementsOf_of_blank space, List.nil_append]
    exact ih wellCut
  | @semicolon statements text _ ih =>
    have alone := uncut_nil.statementsOf_append .nil text
    have nothing : [trim ([] ++ [';'])].filter Script.isStatement = [] := by decide
    rw [nothing] at alone
    exact (ih wellCut).trans alone.symm
  | @closed statement statements text closed _ ih =>
    rw [(wellCut statement List.mem_cons_self).statementsOf_append closed,
      ← ih fun other mem => wellCut other (.tail statement mem)]
  | @last statement blanks blank =>
    rw [statementsOf_append_blank blank, (wellCut statement List.mem_cons_self).statementsOf]

/-- What is left of an uncut text is a statement, if anything is left. -/
theorem Uncut.wellCut (uncut : Uncut .outside text) (solid : ¬Blank text) :
    WellCut (trim text) := by
  obtain ⟨before, after, front, -, same⟩ := eq_trim text
  have inside : ∀ body rest, trim text = body ++ ';' :: rest → ¬Unquoted body := by
    intro body rest cut unquoted
    refine uncut_outside.1 uncut (before ++ body) (rest ++ after) ?_
      ((unquoted_blank_append front).2 unquoted)
    rw [same, cut]
    simp
  exact {
    nonempty := fun empty => solid (trim_eq_nil.1 empty)
    notAlone := fun alone => inside [] [] alone .nil
    trimmed := trim_trim text
    uncut := fun body rest cut unquoted => absurd unquoted (inside body rest cut) }

/-- Blanks in front of a text that ends with its semicolon are all that trimming leaves out. -/
theorem eq_append_trim_semicolon (body : List Char) :
    ∃ before front, Blank before ∧ trim (body ++ [';']) = front ++ [';'] ∧
      body = before ++ front := by
  obtain ⟨before, after, blank, back, same⟩ := eq_trim (body ++ [';'])
  obtain ⟨front, ends⟩ := trim_concat body (show isBlank ';' = false by decide)
  have nothing : after = [] := by
    rcases List.eq_nil_or_concat after with empty | ⟨inner, c, rfl⟩
    · exact empty
    · have whole : body ++ [';'] = (before ++ (trim (body ++ [';']) ++ inner)) ++ [c] := by
        simpa using same
      obtain ⟨-, final⟩ := List.append_inj' whole rfl
      obtain rfl := List.singleton_inj.1 final
      exact absurd (back ';' (by simp)) (by decide)
  refine ⟨before, front, blank, ends, ?_⟩
  have whole : body ++ [';'] = (before ++ front) ++ [';'] := by
    rw [nothing, ends] at same
    simpa using same
  exact (List.append_inj' whole rfl).1

/-- A text that is not cut is restored by its one statement, or it is blank. -/
theorem Uncut.restores (uncut : Uncut .outside text) :
    Restores (Script.statementsOf text) text ∧
      ∀ statement ∈ Script.statementsOf text, WellCut statement := by
  by_cases solid : Blank text
  · rw [statementsOf_of_blank solid]
    have restores := Restores.done.blank_append solid
    rw [List.append_nil] at restores
    exact ⟨restores, nofun⟩
  · obtain ⟨before, after, front, back, same⟩ := eq_trim text
    have wellCut := uncut.wellCut solid
    have single : Script.statementsOf text = [trim text] := by
      rw [Script.statementsOf, uncut.cut.pieces, List.nil_append, List.map_singleton,
        List.filter_cons_of_pos wellCut.isStatement, List.filter_nil]
    have last : Restores [trim text] (trim text ++ after) := .last back
    have restores := last.blank_append front
    rw [← same] at restores
    exact ⟨single ▸ restores, by simpa [single] using wellCut⟩

/-- What stands behind blanks in front of the first cut is a statement with its semicolon. -/
theorem Uncut.wellCut_concat {before front : List Char} (uncut : Uncut .outside (before ++ front))
    (blank : Blank before) (filled : front ≠ []) (trimmed : trim (front ++ [';']) = front ++ [';']) :
    WellCut (front ++ [';']) where
  nonempty := by simp
  notAlone := by simpa using filled
  trimmed := trimmed
  uncut body rest same unquoted := by
    rcases List.eq_nil_or_concat rest with empty | ⟨later, last, rfl⟩
    · exact empty
    · -- A semicolon before the last one would be outside quotes in the uncut text.
      have whole : front ++ [';'] = (body ++ ';' :: later) ++ [last] := by
        simpa using same
      have earlier := (List.append_inj' whole rfl).1
      have inside : before ++ front = (before ++ body) ++ ';' :: later := by
        rw [earlier, List.append_assoc]
      exact absurd ((unquoted_blank_append blank).2 unquoted)
        (uncut_outside.1 uncut (before ++ body) later inside)

/-- What stands in front of the first cut is a statement with its semicolon, or a lone semicolon. -/
theorem Uncut.restores_append (uncut : Uncut .outside body) (unquoted : Unquoted body)
    (restores : Restores statements text) (wellCut : ∀ statement ∈ statements, WellCut statement) :
    Restores ([trim (body ++ [';'])].filter isStatement ++ statements) (body ++ ';' :: text) ∧
      ∀ statement ∈ [trim (body ++ [';'])].filter isStatement ++ statements, WellCut statement := by
  obtain ⟨before, front, blank, ends, rfl⟩ := eq_append_trim_semicolon body
  rw [ends, List.append_assoc]
  cases front with
  | nil => exact ⟨(Restores.semicolon restores).blank_append blank, wellCut⟩
  | cons c front =>
    have trimmed : trim (c :: front ++ [';']) = c :: front ++ [';'] := by
      rw [← ends, trim_trim]
    have cut := uncut.wellCut_concat blank (List.cons_ne_nil c front) trimmed
    have closed : Closed (c :: front ++ [';']) :=
      ⟨_, rfl, (unquoted_blank_append blank).1 unquoted⟩
    have whole := (Restores.closed closed restores).blank_append blank
    rw [List.append_assoc, List.singleton_append] at whole
    rw [List.filter_cons_of_pos cut.isStatement, List.filter_nil, List.singleton_append]
    exact ⟨whole, List.forall_mem_cons.2 ⟨cut, wellCut⟩⟩

/-- The statements of a text restore it. -/
theorem restores_statementsOf (text : List Char) :
    Restores (statementsOf text) text ∧ ∀ statement ∈ statementsOf text, WellCut statement := by
  rcases uncut_or_exists .outside text with uncut | ⟨body, rest, same, uncut, outside⟩
  · exact uncut.restores
  · have unquoted := unquoted_iff.2 outside
    have shorter : rest.length < text.length := by
      rw [same, List.length_append, List.length_cons]
      omega
    obtain ⟨restores, wellCut⟩ := restores_statementsOf rest
    rw [same, uncut.statementsOf_append unquoted]
    exact uncut.restores_append unquoted restores wellCut
termination_by text.length

/-- Nothing is lost when a script is split: its statements, in their order, give back what is left of
it without its comments, with blanks and lone semicolons between them. No statement is empty, a lone
semicolon or has blanks at an end; all but the last end with a semicolon outside quotes, and no
other semicolon of a statement is outside quotes. No other statements do all this. -/
theorem statements_restore (script : String) :
    let cut := (Script.statements script).map String.toList
    let kept := withoutComments script.toList
    Restores cut kept ∧ (∀ statement ∈ cut, WellCut statement) ∧
      (∀ statement ∈ cut.dropLast, Closed statement) ∧
      ∀ other, Restores other kept → (∀ statement ∈ other, WellCut statement) → other = cut := by
  have same : (Script.statements script).map String.toList =
      statementsOf (withoutComments script.toList) := by
    rw [Script.statements, List.map_map, ← split_eq]
    exact List.map_id'' (fun _ => String.toList_ofList) _
  obtain ⟨restores, wellCut⟩ := restores_statementsOf (withoutComments script.toList)
  rw [← same] at restores wellCut
  refine ⟨restores, wellCut, restores.closed_of_mem_dropLast, fun other others cuts => ?_⟩
  rw [same]
  exact others.eq_statementsOf cuts

end WideColumn.Script
