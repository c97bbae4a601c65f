import WideColumn.Proofs.Lexing
import WideColumn.Script

/-!
# Where scripts are cut

A text that is put together of two is cut where both are, if the second one is read in the mode in
which the first one leaves off (`Cut.append`). Blanks at either end of a text neither change
quotes nor make a statement. A text is `Ended` if it is outside quotes at its end and only blanks
stand after the last cut; what is put behind such a text is cut as if it stood alone.
-/

namespace WideColumn

/-! ### Blanks at the ends of a text -/

namespace Text

variable {text blanks : List Char}

/-- Whether a text has no characters but blanks. -/
def Blank (text : List Char) : Prop :=
  ∀ c ∈ text, isBlank c = true

theorem blank_nil : Blank [] := nofun

theorem blank_singleton {c : Char} (blank : isBlank c = true) : Blank [c] :=
  fun _ mem => List.mem_singleton.1 mem ▸ blank

theorem Blank.append {first second : List Char} (left : Blank first) (right : Blank second) :
    Blank (first ++ second) := by
  intro c mem
  rcases List.mem_append.1 mem with mem | mem
  · exact left c mem
  · exact right c mem

theorem trim_blank_append (blank : Blank blanks) : trim (blanks ++ text) = trim text := by
  rw [trim, trimWhile, List.dropWhile_append_of_pos blank]
  rfl

theorem trim_append_blank (blank : Blank blanks) : trim (text ++ blanks) = trim text := by
  rw [trim, trimWhile, List.dropWhile_append, trim, trimWhile]
  split
  · rename_i empty
    rw [List.isEmpty_iff.1 empty, ← List.append_nil blanks, List.dropWhile_append_of_pos blank]
    rfl
  · rw [trimEndWhile, List.reverse_append, List.dropWhile_append_of_pos]
    · rfl
    · exact fun c mem => blank c (List.mem_reverse.1 mem)

@[simp] theorem trim_nil : trim [] = [] := rfl

theorem trim_eq_nil : trim text = [] ↔ Blank text := by
  constructor
  · intro empty c mem
    rcases mem_trim_or mem with kept | blank
    · rw [empty] at kept
      cases kept
    · exact blank
  · intro blank
    rw [← List.append_nil text, trim_blank_append blank, trim_nil]

/-- A text is what is left of it between blanks. -/
theorem eq_trim (text : List Char) :
    ∃ before after, Blank before ∧ Blank after ∧ text = before ++ (trim text ++ after) := by
  let inner := text.dropWhile isBlank
  refine ⟨text.takeWhile isBlank, (inner.reverse.takeWhile isBlank).reverse,
    fun c mem => List.mem_takeWhile_imp mem,
    fun c mem => List.mem_takeWhile_imp (List.mem_reverse.1 mem), ?_⟩
  have ends : trim text ++ (inner.reverse.takeWhile isBlank).reverse = inner := by
    rw [trim, trimWhile, trimEndWhile, ← List.reverse_append, List.takeWhile_append_dropWhile,
      List.reverse_reverse]
  rw [ends, List.takeWhile_append_dropWhile]

@[simp] theorem trim_trim (text : List Char) : trim (trim text) = trim text := by
  obtain ⟨before, after, front, back, same⟩ := eq_trim text
  calc trim (trim text) = trim (before ++ (trim text ++ after)) := by
        rw [trim_blank_append front, trim_append_blank back]
    _ = trim text := congrArg trim same.symm

/-- A character that is not left out at the end keeps what stands in front of it. -/
theorem trimEndWhile_cons {drops : Char → Bool} {c : Char} (keeps : drops c = false)
    (text : List Char) : trimEndWhile drops (c :: text) = c :: trimEndWhile drops text := by
  rw [trimEndWhile, List.reverse_cons, List.dropWhile_append, trimEndWhile]
  split
  · rename_i empty
    rw [List.isEmpty_iff.1 empty, List.dropWhile_cons_of_neg (by simp [keeps])]
    rfl
  · rw [List.reverse_append, List.reverse_singleton, List.singleton_append]

/-- A last character that is not blank stays at the end. -/
theorem trim_concat (text : List Char) {c : Char} (solid : isBlank c = false) :
    ∃ front, trim (text ++ [c]) = front ++ [c] := by
  have kept : [c].dropWhile isBlank = [c] := List.dropWhile_cons_of_neg (by simp [solid])
  rw [trim, trimWhile, List.dropWhile_append]
  split
  · refine ⟨[], ?_⟩
    rw [kept, trimEndWhile, List.reverse_singleton, kept]
    rfl
  · refine ⟨text.dropWhile isBlank, ?_⟩
    rw [trimEndWhile, List.reverse_concat, List.dropWhile_cons_of_neg (by simp [solid]),
      List.reverse_cons, List.reverse_reverse]

end Text

namespace Script

open Text

/-! ### Quotes -/

/-- Whether quotes are of one of the two sorts. -/
def Mode.Sound : Mode → Prop
  | outside => True
  | quoted quote | escaped quote => quote = '\'' ∨ quote = '"'

theorem Mode.sound_outside : Mode.outside.Sound := trivial

theorem Mode.Sound.next {mode : Mode} (sound : mode.Sound) (c : Char) : (mode.next c).Sound := by
  cases mode with
  | outside =>
    rw [Mode.next]
    split
    · assumption
    · trivial
  | quoted quote =>
    rw [Mode.next]
    split
    · exact sound
    · split
      · trivial
      · exact sound
  | escaped quote => exact sound

theorem Mode.Sound.foldl {mode : Mode} (sound : mode.Sound) (text : List Char) :
    (text.foldl Mode.next mode).Sound := by
  induction text generalizing mode with
  | nil => exact sound
  | cons c rest ih => exact ih (sound.next c)

theorem sound_modeAfter (text : List Char) : (modeAfter text).Sound :=
  Mode.sound_outside.foldl text

/-- A character that neither is a quote nor follows a quote leads into quotes or out of them. -/
theorem Mode.next_eq_outside {mode : Mode} (sound : mode.Sound) {c : Char}
    (single : c ≠ '\'') (double : c ≠ '"') : mode.next c = .outside ↔ mode = .outside := by
  cases mode with
  | outside => simp [Mode.next, single, double]
  | quoted quote =>
    have open_ : c ≠ quote := by
      rintro rfl
      rcases sound with same | same
      · exact single same
      · exact double same
    by_cases escape : c = '\\' <;> simp [Mode.next, escape, open_]
  | escaped quote => simp [Mode.next]

theorem foldl_blank {mode : Mode} (sound : mode.Sound) {blanks : List Char} (blank : Blank blanks) :
    blanks.foldl Mode.next mode = .outside ↔ mode = .outside := by
  induction blanks generalizing mode with
  | nil => exact Iff.rfl
  | cons c rest ih =>
    have space := blank c List.mem_cons_self
    have single : c ≠ '\'' := by
      rintro rfl
      exact absurd space (by decide)
    have double : c ≠ '"' := by
      rintro rfl
      exact absurd space (by decide)
    rw [List.foldl_cons, ih (sound.next c) fun other mem => blank other (List.mem_cons_of_mem c mem),
      Mode.next_eq_outside sound single double]

theorem modeAfter_append (first second : List Char) :
    modeAfter (first ++ second) = second.foldl Mode.next (modeAfter first) :=
  List.foldl_append

theorem modeAfter_of_blank {blanks : List Char} (blank : Blank blanks) :
    modeAfter blanks = .outside :=
  (foldl_blank Mode.sound_outside blank).2 rfl

/-! ### Pieces -/

variable {mode : Mode} {text first last : List Char} {ended : List (List Char)} {c : Char}

/-- How a text is cut that is read from a mode on: the pieces that end with a semicolon, and the last
one. -/
inductive Cut : Mode → List Char → List (List Char) → List Char → Prop
  | done (mode : Mode) : Cut mode [] [] []
  | stop {rest last : List Char} {ended : List (List Char)} (cut : Cut .outside rest ended last) :
    Cut .outside (';' :: rest) ([';'] :: ended) last
  | last {mode : Mode} {c : Char} {rest last : List Char} (inside : ¬(mode = .outside ∧ c = ';'))
      (cut : Cut (mode.next c) rest [] last) : Cut mode (c :: rest) [] (c :: last)
  | first {mode : Mode} {c : Char} {rest head last : List Char} {ended : List (List Char)}
      (inside : ¬(mode = .outside ∧ c = ';')) (cut : Cut (mode.next c) rest (head :: ended) last) :
    Cut mode (c :: rest) ((c :: head) :: ended) last

theorem pieces_semicolon (rest : List Char) :
    pieces .outside (';' :: rest) = [';'] :: pieces .outside rest := by
  rw [pieces, if_pos ⟨rfl, rfl⟩]

theorem pieces_cons (inside : ¬(mode = .outside ∧ c = ';')) (rest : List Char) :
    pieces mode (c :: rest) = (pieces (mode.next c) rest).modifyHead (c :: ·) := by
  rw [pieces, if_neg inside]
  cases cut : pieces (mode.next c) rest with
  | nil => exact absurd cut (pieces_ne_nil _ _)
  | cons first others => rfl

theorem Cut.pieces (cut : Cut mode text ended last) : pieces mode text = ended ++ [last] := by
  induction cut with
  | done mode => rfl
  | stop cut ih => rw [pieces_semicolon, ih, List.cons_append]
  | last inside cut ih =>
    rw [pieces_cons inside, ih]
    rfl
  | first inside cut ih =>
    rw [pieces_cons inside, ih]
    rfl

theorem exists_cut (mode : Mode) (text : List Char) : ∃ ended last, Cut mode text ended last := by
  induction text generalizing mode with
  | nil => exact ⟨[], [], .done mode⟩
  | cons c rest ih =>
    by_cases stop : mode = .outside ∧ c = ';'
    · obtain ⟨rfl, rfl⟩ := stop
      obtain ⟨ended, last, cut⟩ := ih .outside
      exact ⟨_, _, .stop cut⟩
    · obtain ⟨ended, last, cut⟩ := ih (mode.next c)
      cases ended with
      | nil => exact ⟨_, _, .last stop cut⟩
      | cons head ended => exact ⟨_, _, .first stop cut⟩

/-- A text without a cut is its own last piece. -/
theorem Cut.eq_last (cut : Cut mode text [] last) : last = text := by
  have joined := flatten_pieces mode text
  rwa [cut.pieces, List.nil_append, List.flatten_singleton] at joined

/-- A text that goes on is cut where its first part is, and the rest in the mode reached there. -/
theorem Cut.append (cut : Cut mode first ended last) (second : List Char) :
    Script.pieces mode (first ++ second) =
      ended ++ (Script.pieces (first.foldl Mode.next mode) second).modifyHead (last ++ ·) := by
  induction cut with
  | done mode => exact List.modifyHead_id.symm ▸ rfl
  | stop cut ih =>
    rw [List.cons_append, pieces_semicolon, ih]
    rfl
  | last inside cut ih =>
    rw [List.cons_append, pieces_cons inside, ih, List.nil_append, List.modifyHead_modifyHead]
    rfl
  | first inside cut ih =>
    rw [List.cons_append, pieces_cons inside, ih]
    rfl

/-- What is put behind a text outside quotes is cut as if it stood alone, with the last piece of that
text in front of its first piece. -/
theorem Cut.pieces_append (cut : Cut .outside first ended last)
    (outside : modeAfter first = .outside) (second : List Char) :
    Script.pieces .outside (first ++ second) =
      ended ++ (Script.pieces .outside second).modifyHead (last ++ ·) := by
  have reached : first.foldl Mode.next .outside = .outside := outside
  rw [cut.append, reached]

/-- Every piece but the last ends with the semicolon that ends it. -/
theorem Cut.semicolon (cut : Cut mode text ended last) :
    ∀ piece ∈ ended, ∃ body, piece = body ++ [';'] := by
  induction cut with
  | done mode => exact nofun
  | stop cut ih =>
    intro piece mem
    rcases List.mem_cons.1 mem with rfl | mem
    · exact ⟨[], rfl⟩
    · exact ih piece mem
  | last inside cut ih => exact nofun
  | @first mode c rest head last ended inside cut ih =>
    intro piece mem
    rcases List.mem_cons.1 mem with rfl | mem
    · obtain ⟨body, rfl⟩ := ih head List.mem_cons_self
      exact ⟨c :: body, rfl⟩
    · exact ih piece (List.mem_cons_of_mem head mem)

/-- Behind a cut, the last piece stands as if it were alone. -/
theorem Cut.alone (cut : Cut mode text ended last) (behind : ended ≠ []) :
    Cut .outside last [] last ∧ modeAfter last = text.foldl Mode.next mode := by
  induction cut with
  | done mode => exact absurd rfl behind
  | @stop rest last ended cut ih =>
    cases ended with
    | nil =>
      obtain rfl := cut.eq_last
      exact ⟨cut, rfl⟩
    | cons head ended => exact ih nofun
  | last inside cut ih => exact absurd rfl behind
  | first inside cut ih => exact ih nofun

/-- A text without semicolons is not cut. -/
theorem cut_of_not_mem (mode : Mode) (none : ';' ∉ text) : Cut mode text [] text := by
  induction text generalizing mode with
  | nil => exact .done mode
  | cons c rest ih =>
    have differ : ¬(mode = .outside ∧ c = ';') := by
      rintro ⟨-, rfl⟩
      exact none List.mem_cons_self
    exact .last differ (ih _ fun mem => none (List.mem_cons_of_mem c mem))

theorem cut_of_blank (mode : Mode) {blanks : List Char} (blank : Blank blanks) :
    Cut mode blanks [] blanks :=
  cut_of_not_mem mode fun mem => absurd (blank ';' mem) (by decide)

/-- There is one way only to cut a text. -/
theorem cut_iff : Cut mode text ended last ↔ pieces mode text = ended ++ [last] := by
  refine ⟨Cut.pieces, fun same => ?_⟩
  obtain ⟨before, final, cut⟩ := exists_cut mode text
  obtain ⟨rfl, ends⟩ := List.append_inj' (cut.pieces.symm.trans same) rfl
  obtain rfl := List.singleton_inj.1 ends
  exact cut

/-! ### Statements -/

/-- The statements of a text that has no comments. -/
def statementsOf (text : List Char) : List (List Char) :=
  ((pieces .outside text).map trim).filter isStatement

theorem split_eq (text : List Char) : split text = statementsOf (withoutComments text) := rfl

/-- Whether a text ends outside quotes, with nothing but blanks behind the last cut. -/
def Ended (text : List Char) : Prop :=
  ∃ ended last, Cut .outside text ended last ∧ Blank last ∧ modeAfter text = .outside

theorem Cut.ended_iff (cut : Cut .outside text ended last) :
    Ended text ↔ Blank last ∧ modeAfter text = .outside := by
  constructor
  · rintro ⟨before, final, same, blank, outside⟩
    obtain ⟨-, ends⟩ := List.append_inj' (cut.pieces.symm.trans same.pieces) rfl
    obtain rfl := List.singleton_inj.1 ends
    exact ⟨blank, outside⟩
  · rintro ⟨blank, outside⟩
    exact ⟨ended, last, cut, blank, outside⟩

/-- Blanks behind the last cut are no statement. -/
theorem Cut.statementsOf (cut : Cut .outside text ended last) (blank : Blank last) :
    Script.statementsOf text = (ended.map trim).filter isStatement := by
  have nothing : isStatement [] ≠ true := by decide
  rw [Script.statementsOf, cut.pieces, List.map_append, List.filter_append, List.map_singleton,
    trim_eq_nil.2 blank, List.filter_cons_of_neg nothing, List.filter_nil, List.append_nil]

theorem ended_of_blank {blanks : List Char} (blank : Blank blanks) : Ended blanks :=
  ⟨[], blanks, cut_of_blank .outside blank, blank, modeAfter_of_blank blank⟩

theorem statementsOf_of_blank {blanks : List Char} (blank : Blank blanks) :
    statementsOf blanks = [] :=
  (cut_of_blank .outside blank).statementsOf blank

/-- Behind a text that has ended, a text is cut as if it stood alone. -/
theorem Ended.statementsOf_append (done : Ended first) (second : List Char) :
    statementsOf (first ++ second) = statementsOf first ++ statementsOf second := by
  obtain ⟨ended, last, cut, blank, outside⟩ := done
  rw [cut.statementsOf blank, statementsOf, statementsOf, cut.pieces_append outside,
    List.map_append, List.filter_append]
  cases rest : pieces .outside second with
  | nil => exact absurd rest (pieces_ne_nil _ _)
  | cons head others =>
    rw [List.modifyHead_cons, List.map_cons, List.map_cons, trim_blank_append blank]

/-- Behind a text that has ended, a text ends as if it stood alone. -/
theorem Ended.append_iff {second : List Char} (done : Ended first) :
    Ended (first ++ second) ↔ Ended second := by
  obtain ⟨ended, last, cut, blank, outside⟩ := done
  obtain ⟨others, final, later⟩ := exists_cut .outside second
  have mode : modeAfter (first ++ second) = modeAfter second := by
    rw [modeAfter_append, outside]
    rfl
  have joined := cut.pieces_append outside second
  rw [later.pieces] at joined
  rw [later.ended_iff]
  cases others with
  | nil =>
    rw [(cut_iff.2 joined).ended_iff, mode]
    exact and_congr_left fun _ =>
      ⟨fun all c mem => all c (List.mem_append_right last mem), blank.append⟩
  | cons head others =>
    rw [List.cons_append, List.modifyHead_cons, ← List.cons_append, ← List.append_assoc] at joined
    rw [(cut_iff.2 joined).ended_iff, mode]

/-- Every statement of a text that has ended has its semicolon. -/
theorem Ended.endsWithSemicolon (done : Ended text) :
    ∀ statement ∈ statementsOf text, Script.endsWithSemicolon statement = true := by
  obtain ⟨ended, last, cut, blank, -⟩ := done
  rw [cut.statementsOf blank]
  intro statement mem
  obtain ⟨piece, inside, rfl⟩ := List.mem_map.1 (List.mem_filter.1 mem).1
  obtain ⟨body, rfl⟩ := cut.semicolon piece inside
  have solid : isBlank ';' = false := by decide
  obtain ⟨front, ends⟩ := trim_concat body solid
  rw [ends, Script.endsWithSemicolon, List.getLast?_concat, beq_iff_eq]

/-- Blanks behind a text make no statement. -/
theorem statementsOf_append_blank {blanks : List Char} (blank : Blank blanks) :
    statementsOf (text ++ blanks) = statementsOf text := by
  obtain ⟨ended, last, cut⟩ := exists_cut .outside text
  have joined := cut.append blanks
  rw [(cut_of_blank _ blank).pieces] at joined
  rw [statementsOf, statementsOf, joined, cut.pieces]
  simp only [List.nil_append, List.modifyHead_cons, List.map_append, List.map_singleton,
    trim_append_blank blank]

end Script

end WideColumn
