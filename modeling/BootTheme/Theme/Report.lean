import BootTheme.Text.Columns
import BootTheme.Theme.Parser

/-!
# Reports of syntax errors

A report shows the lines of the source that hold the marked range, the range
in red, and below it an arrow to the message. Offsets of the range are counted
in characters of the source. A range beyond the end of the source is reported
by its message alone.
-/

namespace BootTheme

/-- A line of a source with its end, and the characters in front of it. -/
structure SourceLine where
  offset : Nat
  text : List Char
deriving DecidableEq, Repr

/-- What is to be reported about a source: the range, the message, and what was expected. -/
structure Fault where
  start : Nat
  stop : Nat
  message : String
  expected : List String
deriving Repr

/-- The fault of a syntax error. -/
def SyntaxError.fault (error : SyntaxError) : Fault :=
  ⟨error.span.start, error.span.stop, error.message, error.expected.map Expectation.text⟩

namespace Report

/-- The characters that end a line. -/
def endsLine (char : Char) : Bool :=
  char == '\n' || char == '\r' || char == '\x0b' || char == '\x0c' || char == '\u0085'
    || char == '\u2028' || char == '\u2029'

/-- A character in front of lines: on the first of them, or on one of its own. -/
def prepend (char : Char) : List (List Char) → List (List Char)
  | [] => [[char]]
  | line :: lines => (char :: line) :: lines

/-- The lines of a text, each with its end. A carriage return and a line feed end one line. -/
def splitLines : List Char → List (List Char)
  | [] => []
  | '\r' :: '\n' :: rest => ['\r', '\n'] :: splitLines rest
  | char :: rest =>
      if endsLine char then [char] :: splitLines rest else prepend char (splitLines rest)

/-- Lines with the characters in front of them. -/
def placeLines (offset : Nat) : List (List Char) → List SourceLine
  | [] => []
  | text :: rest => ⟨offset, text⟩ :: placeLines (offset + text.length) rest

/-- The index of the last line that starts at or before an offset. -/
def lineIndex (offset : Nat) (lines : List SourceLine) : Nat :=
  (lines.takeWhile fun line => decide (line.offset ≤ offset)).length - 1

/-- The line of an offset and its column there, both counted from zero. -/
def locateOffset (size offset : Nat) (lines : List SourceLine) : Option (Nat × Nat) :=
  if offset ≤ size then
    lines[lineIndex offset lines]?.map fun line =>
      (lineIndex offset lines, offset - line.offset)
  else none

/-- A text in a colour of the terminal. -/
def paint (color text : String) : String := "\x1b[" ++ color ++ "m" ++ text ++ "\x1b[0m"

/-- The colour of the marked range. -/
def red : String → String := paint "31"

/-- The colour of the margin. -/
def marginColor : String → String := paint "38;5;246"

/-- The colour of the margin beside arrows. -/
def fadedColor : String → String := paint "38;5;240"

/-- The colour of source outside the marked range. -/
def plainColor : String → String := paint "38;5;249"

/-- The columns that a character takes in a given column: a tab goes to the next multiple of
four. -/
def columns (char : Char) (column : Nat) : Nat :=
  if char = '\t' then 4 - column % 4
  else if isBlank char then 1
  else charColumns char

/-- A row under a line: for every column of the line its cell, and how the cell goes on below a
character of several columns. -/
def row (cell : Nat → String × String) : Nat → Nat → List Char → String
  | 0, _, _ => ""
  | count + 1, column, text =>
      let width := match text with
        | [] => 1
        | char :: _ => columns char column
      let (first, next) := cell column
      (if width = 0 then "" else first ++ repeated next (width - 1))
        ++ row cell count (column + 1) text.tail

/-- A line of the source, characters of the range in red. -/
def sourceText (start stop offset : Nat) : Nat → List Char → String
  | _, [] => ""
  | column, char :: rest =>
      let at_ := offset + column
      let color := if start ≤ at_ ∧ at_ < stop then red else plainColor
      (if isBlank char then repeated (color " ") (columns char column)
        else color (String.singleton char))
        ++ sourceText start stop offset (column + 1) rest

/-- The margin of a numbered line. -/
def numberedMargin (width number : Nat) : String :=
  let digits := toString number
  " " ++ marginColor (repeated " " (width - digits.length) ++ digits ++ " │") ++ " "

/-- The margin of a line without number. -/
def blankMargin (width : Nat) (bar : String) : String :=
  " " ++ fadedColor (repeated " " (width + 1) ++ bar) ++ " "

/-- A range within one line: the line, the range underlined, and the arrow to the message. -/
def inlineLines (width number : Nat) (line : SourceLine) (fault : Fault) (label : String) :
    String :=
  if fault.stop ≤ line.offset + line.text.length then
    let shown := trimEnd line.text
    let column := max ((fault.start + fault.stop) / 2) fault.start - line.offset
    let count := fault.stop - line.offset + 2
    let marked (at_ : Nat) := fault.start ≤ line.offset + at_ && line.offset + at_ < fault.stop
    let under (at_ : Nat) : String × String :=
      if at_ = column then
        if marked at_ then (red "┬", red "─") else (red "│", red " ")
      else if marked at_ then (red "─", red "─")
      else (" ", " ")
    let arrow (at_ : Nat) : String × String :=
      if at_ = column then (red "╰", red "─")
      else if column < at_ then (red "─", red "─")
      else (" ", " ")
    numberedMargin width number ++ sourceText fault.start fault.stop line.offset 0 shown ++ "\n"
      ++ blankMargin width "│" ++ row under count 0 shown ++ "\n"
      ++ blankMargin width "│" ++ row arrow count 0 shown ++ " " ++ label ++ "\n"
  else blankMargin width "│" ++ "\n"

/-- A line of a range over several lines. The first and the last are shown, with a bar beside
them that ends in the arrow to the message; all others become one gap. -/
def spanningLine (width number : Nat) (line : SourceLine) (fault : Fault) (label : String)
    (gap : Bool) : String × Bool :=
  let within (offset : Nat) : Bool :=
    line.offset ≤ offset && offset < line.offset + line.text.length
  let shown := trimEnd line.text
  let source := sourceText fault.start fault.stop line.offset 0 shown ++ "\n"
  if within fault.start then
    (numberedMargin width number ++ red "╭" ++ red "─" ++ red "▶" ++ red " " ++ source, false)
  else if within (max (fault.stop - 1) fault.start) then
    let count := line.text.length + 2
    (numberedMargin width number ++ red "├" ++ red "─" ++ red "▶" ++ red " " ++ source
      ++ blankMargin width "│" ++ red "│" ++ " " ++ "  "
      ++ row (fun _ => (" ", " ")) count 0 shown ++ "\n"
      ++ blankMargin width "│" ++ red "╰" ++ red "─" ++ red "─" ++ red "─"
      ++ row (fun _ => (red "─", red "─")) count 0 shown ++ " " ++ label ++ "\n", false)
  else if gap then ("", true)
  else
    (blankMargin width "┆" ++ red "┆" ++ " " ++ "  " ++ "\n", true)

/-- The lines of a range over several lines. -/
def spanningLines (width : Nat) (fault : Fault) (label : String) :
    Nat → Bool → List SourceLine → String
  | _, _, [] => ""
  | number, gap, line :: rest =>
      let (text, gap) := spanningLine width number line fault label gap
      text ++ spanningLines width fault label (number + 1) gap rest

/-- The lines that show the range, from line `first` to line `last`. -/
def body (lines : List SourceLine) (width first last : Nat) (fault : Fault) (label : String) :
    String :=
  match (lines.drop first).take (last + 1 - first) with
  | [line] => inlineLines width (first + 1) line fault label
  | several => spanningLines width fault label (first + 1) false several

/-- The message with what was expected. -/
def label (fault : Fault) : String :=
  if fault.expected.isEmpty then fault.message
  else fault.message ++ "\nExpected: " ++ String.intercalate ", " fault.expected

/-- The place of the range: line and column of its first character, and its last line. -/
def place (size : Nat) (lines : List SourceLine) (fault : Fault) : Option (Nat × Nat × Nat) :=
  match locateOffset size fault.start lines with
  | none => none
  | some (first, column) =>
      if fault.stop ≤ fault.start then some (first, column, first)
      else
        (locateOffset size (fault.stop - 1) lines).map fun (last, _) => (first, column, last)

end Report

/-- The report of a fault in a source of the given name. A range that runs backwards is turned. -/
def Fault.report (fault : Fault) (source filename : String) : String :=
  let text := source.toList
  let lines := Report.placeLines 0 (Report.splitLines text)
  let fault :=
    { fault with start := min fault.start fault.stop, stop := max fault.start fault.stop }
  let heading := Report.red "Error:" ++ " " ++ fault.message ++ "\n"
  match Report.place text.length lines fault with
  | none => heading
  | some (first, column, last) =>
      let width := (toString (last + 1)).length
      let indent := repeated " " (width + 2)
      heading ++ indent ++ Report.marginColor "╭" ++ Report.marginColor "─"
        ++ Report.marginColor "[" ++ filename ++ ":" ++ toString (first + 1) ++ ":"
        ++ toString (column + 1) ++ Report.marginColor "]" ++ "\n"
        ++ indent ++ Report.marginColor "│" ++ "\n"
        ++ Report.body lines width first last fault (Report.label fault)
        ++ Report.marginColor (repeated "─" (width + 2) ++ "╯") ++ "\n"

end BootTheme
