import BootTheme.Proofs.Number.ReadBack
import BootTheme.Proofs.Theme.FirstOffending
import BootTheme.Theme.Report

/-!
# The place that a report names

A report opens with the line and the column of a fault. Both are those of the character whose
*index* is the number that the fault starts with. The parser counts the *bytes* in front of the
offending token, so the place is that of the token as long as every character in front of it is
of one byte. Behind any other character the report names a place further on, and if the fault
ends beyond the source, counted so, it names none.
-/

namespace BootTheme

/-- A place of a source: a line, and a column of the line, both counted from one. -/
structure SourcePlace where
  line : Nat
  column : Nat
deriving DecidableEq, Repr

/-- What the report of a syntax error says about a source of the given name. -/
def SyntaxError.report (error : SyntaxError) (source filename : String) : String :=
  error.fault.report source filename

namespace Report

/-- Whether a line ends between a character and the rest of a text. A carriage return and the
line feed behind it are on one line, and so is the end of the text with its last character. -/
def breaksLine (char : Char) : List Char → Bool
  | [] => false
  | next :: _ => endsLine char && !(char == '\r' && next == '\n')

end Report

namespace SourcePlace

open Report (breaksLine)

/-- The place behind a character, where the rest of a text goes on. -/
def behind (place : SourcePlace) (char : Char) (rest : List Char) : SourcePlace :=
  if breaksLine char rest then ⟨place.line + 1, 1⟩ else ⟨place.line, place.column + 1⟩

/-- The place of the character with an index in a text that starts at a place. -/
def along (place : SourcePlace) : Nat → List Char → SourcePlace
  | 0, _ => place
  | _ + 1, [] => place
  | index + 1, char :: rest => (place.behind char rest).along index rest

/-- The place of the character with an index, or of the end. -/
def ofIndex (index : Nat) (text : List Char) : SourcePlace := along ⟨1, 1⟩ index text

/-- One place is in front of another one. -/
def Before (first second : SourcePlace) : Prop :=
  first.line < second.line ∨ first.line = second.line ∧ first.column < second.column

theorem Before.trans {first second third : SourcePlace} (here : Before first second)
    (there : Before second third) : Before first third := by
  unfold Before at *
  omega

theorem before_behind (place : SourcePlace) (char : Char) (rest : List Char) :
    Before place (place.behind char rest) := by
  unfold behind
  split
  · exact .inl (Nat.lt_succ_self _)
  · exact .inr ⟨rfl, Nat.lt_succ_self _⟩

/-- Places go on with every character. -/
theorem before_along (place : SourcePlace) {text : List Char} {index : Nat}
    (positive : 0 < index) (inside : index ≤ text.length) :
    Before place (place.along index text) := by
  induction text generalizing place index with
  | nil => exact absurd (Nat.lt_of_lt_of_le positive inside) (Nat.lt_irrefl 0)
  | cons char rest ih =>
      obtain ⟨earlier, rfl⟩ := Nat.exists_eq_succ_of_ne_zero (Nat.ne_of_gt positive)
      have next := before_behind place char rest
      rw [along]
      rcases Nat.eq_zero_or_pos earlier with rfl | more
      · exact next
      · exact next.trans (ih _ more (Nat.le_of_succ_le_succ inside))

theorem along_add (place : SourcePlace) (first second : Nat) {text : List Char}
    (inside : first ≤ text.length) :
    place.along (first + second) text =
      (place.along first text).along second (text.drop first) := by
  induction text generalizing place first with
  | nil =>
      obtain rfl := Nat.le_zero.1 inside
      rw [Nat.zero_add]
      rfl
  | cons char rest ih =>
      cases first with
      | zero =>
          rw [Nat.zero_add]
          rfl
      | succ first =>
          rw [Nat.succ_add, along, along]
          exact ih _ first (Nat.le_of_succ_le_succ inside)

/-- The characters of a text, and its end, are in different places. -/
theorem ofIndex_injective {text : List Char} {first second : Nat} (here : first ≤ text.length)
    (there : second ≤ text.length) (same : ofIndex first text = ofIndex second text) :
    first = second := by
  have apart : ∀ {first second : Nat}, first < second → second ≤ text.length →
      ofIndex first text ≠ ofIndex second text := by
    intro first second less inside same
    obtain ⟨more, rfl⟩ := Nat.exists_eq_add_of_lt less
    have ahead : Before (ofIndex first text) (ofIndex (first + (more + 1)) text) := by
      unfold ofIndex
      rw [along_add _ _ _ (by omega)]
      exact before_along _ (Nat.succ_pos more) (by rw [List.length_drop]; omega)
    rw [← Nat.add_assoc, ← same] at ahead
    unfold Before at ahead
    omega
  rcases Nat.lt_trichotomy first second with less | same | greater
  · exact absurd same (apart less there)
  · exact same
  · exact absurd same.symm (apart greater here)

end SourcePlace

namespace Report

open SourcePlace (ofIndex)

/-! ## Lines and columns -/

/-- The line and the column of an index in lines of text, both from zero. What is behind the
last line counts as a part of it. -/
def lineAndColumn : List (List Char) → Nat → Nat × Nat
  | [], index => (0, index)
  | line :: rest, index =>
      if index < line.length ∨ rest = [] then (0, index)
      else
        let place := lineAndColumn rest (index - line.length)
        (place.1 + 1, place.2)

/-- The place that is a number of lines and columns further on. -/
def advance (place : SourcePlace) : Nat × Nat → SourcePlace
  | (0, columns) => ⟨place.line, place.column + columns⟩
  | (lines + 1, columns) => ⟨place.line + lines + 1, columns + 1⟩

theorem splitLines_ne_nil {text : List Char} (nonempty : text ≠ []) : splitLines text ≠ [] := by
  fun_cases splitLines text with
  | case1 => exact absurd rfl nonempty
  | case2 rest => exact List.cons_ne_nil _ _
  | case3 char rest _ ends => exact List.cons_ne_nil _ _
  | case4 char rest =>
      cases splitLines rest <;> exact List.cons_ne_nil _ _

/-- Behind a line that is not the last one, columns are those of the lines below it. -/
theorem advance_next (place : SourcePlace) (line : List Char) {rest : List (List Char)}
    (more : rest ≠ []) (index : Nat) :
    advance place (lineAndColumn (line :: rest) (index + line.length)) =
      advance ⟨place.line + 1, 1⟩ (lineAndColumn rest index) := by
  have behind : ¬ (index + line.length < line.length ∨ rest = []) :=
    not_or.2 ⟨Nat.not_lt.2 (Nat.le_add_left _ _), more⟩
  rw [lineAndColumn, if_neg behind, Nat.add_sub_cancel]
  rcases lineAndColumn rest index with ⟨_ | lines, columns⟩
  · exact congrArg (SourcePlace.mk (place.line + 1)) (Nat.add_comm columns 1)
  · exact congrArg (SourcePlace.mk · (columns + 1)) (by dsimp only; omega)

/-- A character in front of lines is one column of the first of them. -/
theorem advance_prepend (place : SourcePlace) (char : Char) (lines : List (List Char))
    (index : Nat) :
    advance place (lineAndColumn (prepend char lines) (index + 1)) =
      advance ⟨place.line, place.column + 1⟩ (lineAndColumn lines index) := by
  have onFirst : advance place (0, index + 1) = advance ⟨place.line, place.column + 1⟩ (0, index) :=
    congrArg (SourcePlace.mk place.line) (by dsimp only; omega)
  cases lines with
  | nil => exact onFirst
  | cons line rest =>
      simp only [prepend, lineAndColumn, List.length_cons, Nat.succ_lt_succ_iff,
        Nat.add_sub_add_right]
      split
      · exact onFirst
      · rfl

theorem lineAndColumn_prepend_zero (char : Char) (lines : List (List Char)) :
    lineAndColumn (prepend char lines) 0 = (0, 0) := by
  cases lines with
  | nil => rfl
  | cons line rest => exact if_pos (.inl (Nat.succ_pos line.length))

theorem endsLine_of_breaksLine {char : Char} {rest : List Char}
    (breaks : breaksLine char rest = true) : endsLine char = true := by
  cases rest with
  | nil => cases breaks
  | cons next rest => exact (Bool.and_eq_true _ _ ▸ breaks).1

/-- The lines of a text are where its line ends say. -/
theorem along_eq_advance {text : List Char} {index : Nat} (inside : index ≤ text.length)
    (place : SourcePlace) :
    place.along index text = advance place (lineAndColumn (splitLines text) index) := by
  -- A line end is the end of a line only if something follows it, so the rest is taken apart where
  -- a line ends: with nothing behind, the index can only be that of the end.
  fun_induction splitLines text generalizing index place with
  | case1 =>
      obtain rfl := Nat.le_zero.1 inside
      rfl
  | case2 rest ih =>
      match index with
      | 0 => rfl
      | 1 => rfl
      | index + 2 =>
          have inside : index ≤ rest.length := Nat.le_of_add_le_add_right inside
          cases rest with
          | nil =>
              obtain rfl := Nat.le_zero.1 inside
              rfl
          | cons next rest =>
              have more := splitLines_ne_nil (List.cons_ne_nil next rest)
              exact (ih inside _).trans (advance_next place ['\r', '\n'] more index).symm
  | case3 char rest alone ends ih =>
      cases index with
      | zero => rfl
      | succ index =>
          have inside : index ≤ rest.length := Nat.le_of_succ_le_succ inside
          cases rest with
          | nil =>
              obtain rfl := Nat.le_zero.1 inside
              rfl
          | cons next rest =>
              have more := splitLines_ne_nil (List.cons_ne_nil next rest)
              have breaks : breaksLine char (next :: rest) = true := by
                have single : ¬ (char = '\r' ∧ next = '\n') := by
                  rintro ⟨rfl, rfl⟩
                  exact alone rest rfl rfl
                simpa only [breaksLine, ends, Bool.true_and, Bool.not_eq_true',
                  Bool.and_eq_false_imp, beq_iff_eq, beq_eq_false_iff_ne, not_and] using single
              rw [SourcePlace.along, SourcePlace.behind, if_pos breaks]
              exact (ih inside _).trans (advance_next place [char] more index).symm
  | case4 char rest _ goesOn ih =>
      cases index with
      | zero =>
          rw [lineAndColumn_prepend_zero]
          rfl
      | succ index =>
          rw [SourcePlace.along, SourcePlace.behind, if_neg (mt endsLine_of_breaksLine goesOn),
            advance_prepend]
          exact ih (Nat.le_of_succ_le_succ inside) _

theorem lineIndex_first (line : SourceLine) {rest : List SourceLine} {offset : Nat}
    (here : line.offset ≤ offset) (ahead : ∀ next ∈ rest.head?, offset < next.offset) :
    lineIndex offset (line :: rest) = 0 := by
  have none : rest.takeWhile (fun line => decide (line.offset ≤ offset)) = [] := by
    cases rest with
    | nil => rfl
    | cons next rest =>
        refine List.takeWhile_cons_of_neg ?_
        rw [decide_eq_true_eq]
        exact Nat.not_le.2 (ahead next rfl)
  rw [lineIndex, List.takeWhile_cons, if_pos (decide_eq_true here), none]
  rfl

theorem lineIndex_next (line next : SourceLine) {rest : List SourceLine} {offset : Nat}
    (here : line.offset ≤ offset) (there : next.offset ≤ offset) :
    lineIndex offset (line :: next :: rest) = lineIndex offset (next :: rest) + 1 := by
  rw [lineIndex, lineIndex, List.takeWhile_cons, if_pos (decide_eq_true here),
    List.takeWhile_cons, if_pos (decide_eq_true there)]
  rfl

/-- The report finds the line of an index by where the lines start. -/
theorem locate_placeLines {lines : List (List Char)} (nonempty : lines ≠ []) (offset index : Nat) :
    ((placeLines offset lines)[lineIndex (offset + index) (placeLines offset lines)]?.map
        fun line => (lineIndex (offset + index) (placeLines offset lines),
          offset + index - line.offset)) =
      some (lineAndColumn lines index) := by
  have here : offset ≤ offset + index := Nat.le_add_right _ _
  induction lines generalizing offset index with
  | nil => exact absurd rfl nonempty
  | cons line rest ih =>
      rw [lineAndColumn]
      split
      · next onFirst =>
          have found : lineIndex (offset + index) (placeLines offset (line :: rest)) = 0 := by
            refine lineIndex_first ⟨offset, line⟩ here ?_
            cases rest with
            | nil =>
                intro next impossible
                cases impossible
            | cons second rest =>
                rintro next ⟨⟩
                exact Nat.add_lt_add_left (onFirst.resolve_right (List.cons_ne_nil _ _)) offset
          rw [found]
          exact congrArg (fun columns => some (0, columns)) (Nat.add_sub_cancel_left offset index)
      · next below =>
          obtain ⟨behind, more⟩ := not_or.1 below
          obtain ⟨second, rest, rfl⟩ := List.exists_cons_of_ne_nil more
          have there : offset + line.length + (index - line.length) = offset + index := by omega
          have found : lineIndex (offset + index) (placeLines offset (line :: second :: rest)) =
              lineIndex (offset + index) (placeLines (offset + line.length) (second :: rest)) + 1 :=
            lineIndex_next ⟨offset, line⟩ ⟨offset + line.length, second⟩ here
              (there ▸ Nat.le_add_right _ _)
          have inRest := ih more (offset + line.length) (index - line.length) (Nat.le_add_right _ _)
          rw [there] at inRest
          have oneMore := congrArg (Option.map fun place => (place.1 + 1, place.2)) inRest
          rw [Option.map_map] at oneMore
          rw [found]
          exact oneMore

/-- The line and the column that are told are those of the character with the number as its
index. -/
theorem locateOffset_eq_some {text : List Char} (nonempty : text ≠ []) {index : Nat}
    (inside : index ≤ text.length) :
    ∃ line column, locateOffset text.length index (placeLines 0 (splitLines text)) =
      some (line, column) ∧ ofIndex index text = ⟨line + 1, column + 1⟩ := by
  have located := locate_placeLines (splitLines_ne_nil nonempty) 0 index
  rw [Nat.zero_add] at located
  refine ⟨_, _, (if_pos inside).trans located, ?_⟩
  rw [ofIndex, along_eq_advance inside]
  rcases lineAndColumn (splitLines text) index with ⟨_ | lines, columns⟩
  · exact congrArg (SourcePlace.mk 1) (Nat.add_comm 1 columns)
  · exact congrArg (SourcePlace.mk · (columns + 1)) (by dsimp only; omega)

/-- A range has a place where it starts in the source and ends there, or right behind it. -/
theorem place_eq_some {text : List Char} (nonempty : text ≠ []) {fault : Fault}
    (starts : fault.start ≤ text.length) (stops : fault.stop ≤ text.length + 1) :
    ∃ line column last, place text.length (placeLines 0 (splitLines text)) fault =
      some (line, column, last) ∧ ofIndex fault.start text = ⟨line + 1, column + 1⟩ := by
  obtain ⟨line, column, located, index⟩ := locateOffset_eq_some nonempty starts
  rw [place, located]
  dsimp only
  split
  · exact ⟨line, column, line, rfl, index⟩
  · obtain ⟨last, _, ends, _⟩ := locateOffset_eq_some nonempty (Nat.sub_le_of_le_add stops)
    rw [ends]
    exact ⟨line, column, last, rfl, index⟩

theorem place_eq_none {size : Nat} {lines : List SourceLine} {fault : Fault}
    (beyond : ¬ (fault.start ≤ size ∧ fault.stop ≤ size + 1)) : place size lines fault = none := by
  unfold place
  cases located : locateOffset size fault.start lines with
  | none => rfl
  | some spot =>
      have starts : fault.start ≤ size := by
        refine Decidable.byContradiction fun behind => ?_
        rw [locateOffset, if_neg behind] at located
        cases located
      have stops : ¬ fault.stop - 1 ≤ size := by omega
      dsimp only
      rw [if_neg (by omega), locateOffset, if_neg stops]
      rfl

/-! ## What a report names -/

/-- How a report that names a place starts: the message, and below it the name of the file with
the place. -/
def opening (message filename : String) (indent : Nat) (place : SourcePlace) : String :=
  red "Error:" ++ " " ++ message ++ "\n" ++ repeated " " indent ++ marginColor "╭"
    ++ marginColor "─" ++ marginColor "[" ++ filename ++ ":" ++ toString place.line ++ ":"
    ++ toString place.column ++ marginColor "]"

/-- That a report names a place of a file. -/
def NamesPlace (report message filename : String) (place : SourcePlace) : Prop :=
  ∃ indent rest, report = opening message filename indent place ++ rest

theorem blank_of_mem_repeated {count : Nat} :
    ∀ char ∈ (repeated " " count).toList, (char == ' ') = true := by
  intro char among
  rw [repeated, String.toList_join, List.mem_flatMap] at among
  obtain ⟨blank, replicated, among⟩ := among
  rw [List.eq_of_mem_replicate replicated] at among
  exact beq_iff_eq.2 (List.mem_singleton.1 among)

/-- What is shown in the colour of the margin starts with an escape. -/
theorem head_marginColor {text : String} {more : List Char} :
    ∀ char ∈ ((marginColor text).toList ++ more).head?, char = '\x1b' := by
  intro char head
  simp only [marginColor, paint, String.toList_append, List.append_assoc] at head
  exact (Option.some.inj head).symm

/-- A number is told by its digits and what ends them. -/
theorem number_unique {first second : Nat} {after behind : List Char}
    (same : (toString first).toList ++ after = (toString second).toList ++ behind)
    (ended : ∀ char ∈ after.head?, char.isDigit = false)
    (alsoEnded : ∀ char ∈ behind.head?, char.isDigit = false) :
    first = second ∧ after = behind := by
  rw [toList_toString, toList_toString] at same
  obtain ⟨alike, left⟩ :=
    run_unique same (digitsOf_digits first) (digitsOf_digits second) ended alsoEnded
  refine ⟨?_, left⟩
  rw [← digitsValue_digitsOf first, alike, digitsValue_digitsOf]

variable {report message filename : String}

theorem NamesPlace.append {spot : SourcePlace}
    (named : NamesPlace report message filename spot) (more : String) :
    NamesPlace (report ++ more) message filename spot := by
  obtain ⟨indent, rest, rfl⟩ := named
  exact ⟨indent, rest ++ more, String.append_assoc⟩

/-- A report names one place at most. -/
theorem NamesPlace.unique {first second : SourcePlace}
    (here : NamesPlace report message filename first)
    (there : NamesPlace report message filename second) : first = second := by
  obtain ⟨indent, rest, rfl⟩ := here
  obtain ⟨other, more, same⟩ := there
  have same := congrArg String.toList same
  -- Blanks end at the first escape, digits at a colon or an escape; all else is the same text.
  simp only [opening, String.toList_append, List.append_assoc, List.append_cancel_left_eq] at same
  have notBlank {text : String} {more : List Char} :
      ∀ char ∈ ((marginColor text).toList ++ more).head?, (char == ' ') = false := by
    intro char head
    rw [head_marginColor char head]
    rfl
  have notDigit {text : String} {more : List Char} :
      ∀ char ∈ ((marginColor text).toList ++ more).head?, char.isDigit = false := by
    intro char head
    rw [head_marginColor char head]
    rfl
  obtain ⟨_, same⟩ :=
    run_unique same blank_of_mem_repeated blank_of_mem_repeated notBlank notBlank
  simp only [List.append_cancel_left_eq] at same
  obtain ⟨line, same⟩ := number_unique same (by rintro char ⟨⟩; rfl) (by rintro char ⟨⟩; rfl)
  simp only [List.append_cancel_left_eq] at same
  obtain ⟨column, _⟩ := number_unique same notDigit notDigit
  cases first
  cases second
  exact congrArg₂ SourcePlace.mk line column

/-- A report names the place of the character that its range starts with, by number. -/
theorem names_report_iff {fault : Fault} {source : String} (nonempty : source.toList ≠ [])
    (ordered : fault.start ≤ fault.stop) (spot : SourcePlace) :
    NamesPlace (fault.report source filename) fault.message filename spot ↔
      (fault.start ≤ source.toList.length ∧ fault.stop ≤ source.toList.length + 1) ∧
        spot = ofIndex fault.start source.toList := by
  have turned : { fault with
      start := min fault.start fault.stop
      stop := max fault.start fault.stop } = fault := by
    rw [Nat.min_eq_left ordered, Nat.max_eq_right ordered]
  by_cases inside : fault.start ≤ source.toList.length ∧ fault.stop ≤ source.toList.length + 1
  · obtain ⟨line, column, last, found, index⟩ := place_eq_some nonempty inside.1 inside.2
    have named : NamesPlace (fault.report source filename) fault.message filename
        ⟨line + 1, column + 1⟩ := by
      unfold Fault.report
      dsimp only
      rw [turned, found]
      -- Seven texts follow the opening.
      iterate 7 refine NamesPlace.append ?_ _
      exact ⟨_, "", String.append_empty.symm⟩
    exact ⟨fun other => ⟨inside, (other.unique named).trans index.symm⟩,
      fun told => (told.2.trans index) ▸ named⟩
  · refine iff_of_false ?_ (mt And.left inside)
    rintro ⟨indent, rest, impossible⟩
    unfold Fault.report at impossible
    dsimp only at impossible
    rw [turned, place_eq_none inside] at impossible
    have longer := congrArg (fun report => report.toList.length) impossible
    have corner : 0 < (marginColor "╭").toList.length := by decide
    simp only [opening, String.toList_append, List.length_append] at longer
    omega

end Report

open Reader Report SourcePlace

/-! ## Where errors start -/

/-- An error starts at a character of the source, or at its end, and does not end before. -/
theorem starts_at_character {source : String} {error : SyntaxError}
    (refused : parseTheme source = .error error) :
    ∃ before after, source.toList = before ++ after ∧ byteCount before = error.span.start ∧
      error.span.start ≤ error.span.stop ∧ error.span.stop ≤ byteCount source.toList := by
  have ends {located : Located} (among : located ∈ (lex source).tokens) :
      located.span.stop ≤ byteCount source.toList := by
    obtain ⟨_, _, stands, _⟩ := stands_of_mem_tokens among
    exact stands.stop_le
  rcases run_eq_error refused with ⟨front, located, rest, middle, split, _, _, rfl⟩ |
    ⟨last, stop, _, told, rfl⟩
  · have among : located ∈ (lex source).tokens := by
      rw [split]
      exact List.mem_append_right front List.mem_cons_self
    obtain ⟨text, after, ⟨before, whole, span⟩, _⟩ := stands_of_mem_tokens among
    refine ⟨before, text ++ after, whole, ?_, (token_stop_le among).1, ends among⟩
    rw [span]
  · rcases told with rfl | ⟨located, among, rfl⟩
    · exact ⟨[], source.toList, rfl, rfl, Nat.zero_le _, Nat.le_refl _⟩
    · obtain ⟨text, after, ⟨before, whole, span⟩, _⟩ := stands_of_mem_tokens among
      refine ⟨before ++ text, after, by rw [whole, List.append_assoc], ?_, ends among,
        Nat.le_refl _⟩
      rw [byteCount_append, span]

theorem toList_ne_nil_of_refused {source : String} {error : SyntaxError}
    (refused : parseTheme source = .error error) : source.toList ≠ [] := by
  intro empty
  rw [String.toList_eq_nil_iff.1 empty] at refused
  cases refused

/-- The report of a syntax error names the character with the number of the error's first byte,
if the source has as many characters as that, and as the error's last byte. -/
theorem namesPlace_iff {source : String} {error : SyntaxError}
    (refused : parseTheme source = .error error) (filename : String) (spot : SourcePlace) :
    NamesPlace (error.report source filename) error.message filename spot ↔
      (error.span.start ≤ source.toList.length ∧ error.span.stop ≤ source.toList.length + 1) ∧
        spot = ofIndex error.span.start source.toList := by
  obtain ⟨_, _, _, _, ordered, _⟩ := starts_at_character refused
  exact names_report_iff (toList_ne_nil_of_refused refused) ordered spot

/-- The report of a syntax error names the place of the character whose index is the number of
bytes in front of the offending token. This is the place of the token only if every character
in front of it is of one byte, as on a source of ASCII characters. -/
theorem report_takes_bytes_for_characters {source : String} {error : SyntaxError}
    (refused : parseTheme source = .error error) (filename : String) :
    ∃ before after, source.toList = before ++ after ∧ byteCount before = error.span.start ∧
      (∀ spot, NamesPlace (error.report source filename) error.message filename spot ↔
        (byteCount before ≤ source.toList.length ∧
          error.span.stop ≤ source.toList.length + 1) ∧
          spot = ofIndex (byteCount before) source.toList) ∧
      (NamesPlace (error.report source filename) error.message filename
          (ofIndex before.length source.toList) ↔
        (∀ char ∈ before, char.utf8Size = 1) ∧ error.span.stop ≤ source.toList.length + 1) ∧
      ((∀ char ∈ source.toList, char.utf8Size = 1) →
        NamesPlace (error.report source filename) error.message filename
          (ofIndex before.length source.toList)) := by
  obtain ⟨before, after, whole, starts, _, inside⟩ := starts_at_character refused
  have named := namesPlace_iff refused filename
  rw [← starts] at named
  have short : before.length ≤ source.toList.length := by
    rw [whole, List.length_append]
    exact Nat.le_add_right _ _
  have right : NamesPlace (error.report source filename) error.message filename
      (ofIndex before.length source.toList) ↔
        (∀ char ∈ before, char.utf8Size = 1) ∧ error.span.stop ≤ source.toList.length + 1 := by
    rw [named, ← byteCount_eq_length_iff]
    constructor
    · rintro ⟨⟨start, stop⟩, same⟩
      exact ⟨(ofIndex_injective short start same).symm, stop⟩
    · rintro ⟨single, stop⟩
      rw [single]
      exact ⟨⟨short, stop⟩, rfl⟩
  refine ⟨before, after, whole, starts, named, right, ?_⟩
  intro single
  rw [right]
  constructor
  · intro char among
    refine single char ?_
    rw [whole]
    exact List.mem_append_left after among
  · rw [← (byteCount_eq_length_iff source.toList).2 single]
    exact Nat.le_succ_of_le inside

theorem brace_on_second_line_is_named :
    ∃ error, parseTheme "# e\n\x7d" = .error error ∧
      NamesPlace (error.report "# e\n\x7d" "theme.txt") "Unexpected '\x7d'" "theme.txt" ⟨2, 1⟩ := by
  have refused : parseTheme "# e\n\x7d" =
      .error ⟨some .braceClose, ⟨4, 5⟩, [.name, .plus, .endOfInput]⟩ := by rfl
  obtain ⟨before, after, _, starts, named, _⟩ :=
    report_takes_bytes_for_characters refused "theme.txt"
  refine ⟨_, refused, (named ⟨2, 1⟩).2 ?_⟩
  rw [starts]
  decide

/-- A character of two bytes in front of the brace, and the report names a column that the line
does not have. -/
theorem accent_moves_named_place :
    ∃ error, parseTheme "# é\n\x7d" = .error error ∧ error.span.start = byteCount "# é\n".toList ∧
      NamesPlace (error.report "# é\n\x7d" "theme.txt") error.message "theme.txt" ⟨2, 2⟩ ∧
      ofIndex "# é\n".toList.length "# é\n\x7d".toList = ⟨2, 1⟩ ∧
      ¬ NamesPlace (error.report "# é\n\x7d" "theme.txt") error.message "theme.txt" ⟨2, 1⟩ := by
  have refused : parseTheme "# é\n\x7d" =
      .error ⟨some .braceClose, ⟨5, 6⟩, [.name, .plus, .endOfInput]⟩ := by rfl
  have named := namesPlace_iff refused "theme.txt"
  refine ⟨_, refused, by decide, (named _).2 (by decide), by decide, fun other => ?_⟩
  exact absurd ((named _).1 other).2 (by decide)

end BootTheme
