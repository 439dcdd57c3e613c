import BootTheme.Toml.Fault

/-!
# Readers of TOML

A reader takes the front of a text, or it stops at a place of the text. Another
reader may be tried after one that stopped, unless the stop is final. Readers that
are tried again and again end because a round that takes nothing is the last one.
-/

namespace BootTheme

/-- Where a reader stopped, and why. After a final stop nothing else is tried. -/
structure TomlStop where
  rest : List Char
  final : Bool
  fault : TomlFault
deriving Repr

/-- What a reader makes of the front of a text, and the rest of the text. -/
abbrev TomlReader (α : Type) := StateT (List Char) (Except TomlStop) α

namespace TomlReader

variable {α : Type}

/-- Stops. -/
def stop : TomlReader α := fun text => .error ⟨text, false, {}⟩

/-- Stops for a cause. -/
def refuse (cause : TomlCause) : TomlReader α := fun text =>
  .error ⟨text, false, { cause := some cause }⟩

/-- A reader with another account of its stops. -/
def told (read : TomlReader α) (tell : TomlStop → TomlStop) : TomlReader α := fun text =>
  (read text).mapError tell

/-- A reader whose stops are final. -/
def final (read : TomlReader α) : TomlReader α :=
  read.told fun stop => { stop with final := true }

/-- A reader that says what it reads. -/
def labelled (form : TomlForm) (read : TomlReader α) : TomlReader α :=
  read.told fun stop => { stop with fault := stop.fault.within form }

/-- A reader that says what else it could have read. -/
def expecting (expected : TomlExpected) (read : TomlReader α) : TomlReader α :=
  read.told fun stop => { stop with fault := stop.fault.expecting expected }

/-- A reader, or a second one after a stop of the first. -/
def either (first second : TomlReader α) : TomlReader α := fun text =>
  match first text with
  | .error stop => if stop.final then .error stop else second text
  | found => found

/-- What a reader reads, if it does not stop. -/
def optional (read : TomlReader α) : TomlReader (Option α) :=
  either (do return some (← read)) (pure none)

/-- Reads ahead and takes nothing. A stop ahead counts as one at this place. -/
def ahead (read : TomlReader α) : TomlReader Unit := fun text =>
  match read text with
  | .error stop => .error { stop with rest := text }
  | .ok _ => .ok ((), text)

/-- Goes on from each result to the next one, until that stops. -/
def iterate (read : α → TomlReader α) (found : α) (text : List Char) :
    Except TomlStop (α × List Char) :=
  match read found text with
  | .error stop => if stop.final then .error stop else .ok (found, text)
  | .ok (found, rest) =>
      if rest.length < text.length then iterate read found rest else .ok (found, rest)
termination_by text.length

/-- All that a reader reads, one after the other, until it stops. -/
def many (read : TomlReader α) : TomlReader (List α) := do
  let found ← iterate (fun found => do return (← read) :: found) []
  return found.reverse

/-- What a reader reads at least once. -/
def several (read : TomlReader α) : TomlReader (List α) := do
  let first ← read
  return first :: (← many read)

/-- What a reader reads at least once, with a separator between. -/
def separated (separator : TomlReader Unit) (read : TomlReader α) : TomlReader (List α) := do
  let first ← read
  return first :: (← many do separator; read)

/-- One character of a class. -/
def one (isPart : Char → Bool) : TomlReader Char := fun text =>
  match text with
  | char :: rest => if isPart char then .ok (char, rest) else stop text
  | [] => stop text

/-- All characters of a class at the front, which may be none. -/
def run (isPart : Char → Bool) : TomlReader (List Char) := fun text =>
  .ok (text.takeWhile isPart, text.dropWhile isPart)

/-- One or more characters of a class. -/
def span (isPart : Char → Bool) : TomlReader (List Char) := do
  let first ← one isPart
  return first :: (← run isPart)

/-- So many characters of a class. -/
def exactly (count : Nat) (isPart : Char → Bool) : TomlReader (List Char) := fun text =>
  let found := text.take count
  if found.length = count && found.all isPart then .ok (found, text.drop count) else stop text

/-- A given text. -/
def word (wanted : List Char) : TomlReader Unit := fun text =>
  if wanted.isPrefixOf text then .ok ((), text.drop wanted.length) else stop text

/-- A given character. -/
def char (wanted : Char) : TomlReader Unit := word [wanted]

/-- What a reader reads, and where it stands. -/
def ranged (read : TomlReader α) : TomlReader (Ranged α) := do
  let start ← get
  let item ← read
  return ⟨some (.between start (← get)), item⟩

/-- What comes of a check. A refusal stands at an earlier place. -/
def checked (start : List Char) : Except TomlCause α → TomlReader α
  | .ok value => return value
  | .error cause => do
      set start
      refuse cause

/-- Blanks within a line. -/
def isSpace (char : Char) : Bool := char == ' ' || char == '\t'

/-- Takes the blanks in front of something. -/
def skipSpaces : TomlReader Unit := do
  let _ ← run isSpace

/-- The end of a line. A return without a feed is none. -/
def newline : TomlReader Unit :=
  either (char '\n') do
    char '\r'
    char '\n'

/-- Characters that may stand in a comment or a string. -/
def isPlain (char : Char) : Bool :=
  char == '\t' || (decide (0x20 ≤ char.toNat) && char.toNat != 0x7f)

/-- A comment up to the end of its line. -/
def comment : TomlReader Unit := do
  char '#'
  let _ ← run isPlain

/-- The end of a line, which the end of the document is too. -/
def lineEnd : TomlReader Unit :=
  either newline fun text => if text.isEmpty then .ok ((), text) else stop text

/-- Blanks, a comment or none, and the end of the line. -/
def restOfLine : TomlReader Unit := do
  skipSpaces
  let _ ← optional comment
  lineEnd

/-- A comment or none, and a line end that must be there. -/
def blankLine : TomlReader Unit := do
  if (← get).head? == some '#' then comment
  newline

/-- Takes the blanks, comments and line ends in front of something. -/
def skipLines (text : List Char) : Except TomlStop (Unit × List Char) :=
  match text.dropWhile isSpace with
  | [] => .ok ((), [])
  | char :: rest =>
      if char == '#' || char == '\n' || char == '\r' then
        match blankLine (char :: rest) with
        | .error stop => .error stop
        | .ok (_, rest) =>
            if rest.length < text.length then skipLines rest else .ok ((), rest)
      else .ok ((), char :: rest)
termination_by text.length

end TomlReader

end BootTheme
