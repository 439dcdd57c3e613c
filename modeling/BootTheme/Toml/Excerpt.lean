import BootTheme.Text.Measure
import BootTheme.Toml.Fault

/-!
# Excerpts of a document

A message about a range of a document names line and column of its start and
shows the line with the range underlined, as far as it lies on the line.
-/

namespace BootTheme

namespace TomlRange

/-- The lines of a text, without their ends. -/
def splitLines : List Char → List (List Char)
  | [] => [[]]
  | '\n' :: rest => [] :: splitLines rest
  | char :: rest =>
      match splitLines rest with
      | [] => [[char]]
      | line :: lines => (char :: line) :: lines

/-- Line and column of a place, counted from zero. The column is counted in characters, but in
bytes at a character that is not ASCII. The end of a document is one column behind its last
character. -/
def locate (before after : List Char) : Nat × Nat :=
  let place (text : List Char) : Nat × List Char :=
    let lines := splitLines text
    (lines.length - 1, lines.getLast?.getD [])
  match after with
  | char :: _ =>
      let (line, left) := place before
      (line, if char.utf8Size = 1 then left.length else byteCount left)
  | [] =>
      let (line, left) := place before.dropLast
      (line, if before.isEmpty then 0 else left.length + 1)

/-- The head of a message about a range of a document. -/
def excerpt (range : TomlRange) (document : String) : String :=
  let text := document.toList
  let before := text.take (text.length - range.start)
  let after := text.drop (text.length - range.start)
  let (line, column) := locate before after
  let shown := ((splitLines text)[line]?).getD []
  let marked := after.take (range.start - range.stop)
  let underlined := max 1 (min (byteCount marked) (byteCount shown - column))
  let number := toString (line + 1)
  let gutter := repeated " " (number.length + 1)
  "TOML parse error at line " ++ number ++ ", column " ++ toString (column + 1) ++ "\n"
    ++ gutter ++ "|\n"
    ++ number ++ " | " ++ String.ofList shown ++ "\n"
    ++ gutter ++ "|" ++ repeated " " (column + 1) ++ repeated "^" underlined ++ "\n"

end TomlRange

/-- What is said about a document that cannot be read. -/
def TomlError.report (error : TomlError) (document : String) : String :=
  error.range.excerpt document ++ error.fault.message ++ "\n"

end BootTheme
