import BootTheme.Toml.Moment
import BootTheme.Toml.Number
import BootTheme.Toml.Strings
import BootTheme.Toml.Tables

/-!
# Reading TOML

A document has lines that are blank, headers of tables, or keys with values.
Arrays and tables in braces hold values of their own, up to a depth. What has
begun as one kind of line or value must go on as one.
-/

namespace BootTheme

namespace TomlReader

/-- How deep arrays and tables in braces may lie in each other, and how many parts a key may
have. -/
def depthLimit : Nat := 79

/-- One part of a key. -/
def keyPart : TomlReader (Ranged String) :=
  ranged do
    let chars ← match (← get).head? with
      | some '"' => basicString
      | some '\'' => literalString
      | _ => span TomlKey.isBare
    return String.ofList chars

/-- A key. -/
def key : TomlReader TomlPath := do
  let start ← get
  let spacedPart : TomlReader (Ranged String) := do
    skipSpaces
    let part ← keyPart
    skipSpaces
    return part
  let path ← labelled .key do
    let first ← spacedPart
    return TomlPath.ofParts first (← many do char '.'; spacedPart)
  checked start <| if path.before.length < depthLimit then .ok path else .error .tooDeep

/-- The sign between a key and its value. -/
def equalsSign : TomlReader Unit := expecting (.mark "=") (expecting (.mark ".") (char '='))

/-- A reader that could also have read a string in quotes. -/
def quotable {α : Type} (read : TomlReader α) : TomlReader α :=
  expecting (.mark "'") (expecting (.mark "\"") (labelled .string read))

/-- A value in front of which no bracket or brace stands. -/
def plainValue : TomlReader Toml := do
  match (← get).head? with
  | none => stop
  | some '"' | some '\'' => return .string (← string)
  | some '_' => expecting .leadingDigit integer
  | some '.' => expecting .leadingDigit float
  | some 't' => quotable do
      final (word "true".toList)
      return .bool true
  | some 'f' => quotable do
      final (word "false".toList)
      return .bool false
  | some char =>
      if char.isDigit || char == '+' || char == '-' then either datetime (either float integer)
      else quotable do return .float (← floatName)

/-- The values of an array, behind its bracket. A comma may stand behind the last one. -/
def items {α : Type} (item : TomlReader α) : TomlReader (List α) := do
  let found ← optional <| separated (char ',') do
    skipLines
    let found ← item
    skipLines
    return found
  if found.isSome then
    let _ ← optional (char ',')
  skipLines
  return found.getD []

/-- An array of values. -/
def array (item : TomlReader (Ranged Toml)) : TomlReader Toml := do
  char '['
  let found ← final (items item)
  expecting (.mark "]") (labelled .array (final (char ']')))
  return .array found

/-- A key and its value in braces. -/
def pair (item : TomlReader (Ranged Toml)) : TomlReader (TomlPath × Ranged Toml) := do
  let path ← key
  final do
    equalsSign
    skipSpaces
    let found ← item
    skipSpaces
    return (path, found)

/-- A table in braces. -/
def inlineTable (item : TomlReader (Ranged Toml)) : TomlReader Toml := do
  char '\x7b'
  let inner ← final do
    let start ← get
    let pairs ← optional (separated (char ',') (pair item))
    skipSpaces
    checked start (TomlNode.ofPairs (pairs.getD []) .start)
  expecting (.mark "\x7d") (labelled .inlineTable (final (char '\x7d')))
  return .table (TomlNode.entryValues inner.entries)

/-- A value and where it stands. Arrays and tables in braces lie in each other at most so deep. -/
def value : Nat → TomlReader (Ranged Toml)
  | 0 => ranged do
      match (← get).head? with
      | some '[' | some '\x7b' => final (refuse .tooDeep)
      | _ => plainValue
  | depth + 1 => ranged do
      match (← get).head? with
      | some '[' => array (value depth)
      | some '\x7b' => inlineTable (value depth)
      | _ => plainValue

/-- The end of a line that holds something, with a comment or none. -/
def lineBehind : TomlReader Unit := expecting (.mark "#") (expecting .newline restOfLine)

/-- A document up to a line: the header read last, and what was put together. -/
structure Lines where
  header : List (Ranged String) := []
  document : TomlNode.Open := .start

/-- A header in brackets of the given text. -/
def header (before behind : String)
    (change : TomlPath → TomlRange → TomlNode.Open → Except TomlCause TomlNode.Open)
    (lines : Lines) : TomlReader Lines := do
  let start ← get
  word before.toList
  let path ← final key
  expecting (.mark behind) (expecting (.mark ".") (final (word behind.toList)))
  let range := TomlRange.between start (← get)
  final lineBehind
  let document ← checked start (change path range lines.document)
  return ⟨path.parts, document⟩

/-- The header of a table, or of one more table of an array. A bracket that ends the document is
none. -/
def anyHeader (lines : Lines) : TomlReader Lines :=
  labelled .tableHeader do
    match ← get with
    | [] | [_] => stop
    | _ :: '[' :: _ => header "[[" "]]" TomlNode.openElement lines
    | _ => header "[" "]" TomlNode.openTable lines

/-- A line with a key and a value. -/
def keyLine (lines : Lines) : TomlReader Lines := do
  let start ← get
  let path ← key
  equalsSign
  skipSpaces
  let found ← value depthLimit
  lineBehind
  let document ← checked start (TomlNode.addBelow lines.header path found lines.document)
  return { lines with document }

/-- The next line, without the blanks in front of it. -/
def line (lines : Lines) : TomlReader Lines := do
  let lines ← match (← get).head? with
    | none => stop
    | some '#' => do
        final do
          comment
          lineEnd
        pure lines
    | some '[' => final (anyHeader lines)
    | some '\n' | some '\r' => do
        newline
        pure lines
    | _ => final (keyLine lines)
  skipSpaces
  return lines

/-- A document. -/
def document : TomlReader TomlNode.Open := do
  let _ ← optional (char '\ufeff')
  skipSpaces
  let lines ← iterate line {}
  if (← get).isEmpty then return lines.document else stop

end TomlReader

/-- What a reader that stopped says about the document. It is about one character, or about none
at the end. -/
def TomlStop.error (stop : TomlStop) : TomlError :=
  ⟨⟨stop.rest.length, stop.rest.length - 1⟩, stop.fault⟩

/-- The table of a document. -/
def parseToml (text : String) : Except TomlError (List (Ranged String × Ranged Toml)) :=
  match TomlReader.document text.toList with
  | .ok (document, _) => .ok (TomlNode.entryValues document.entries)
  | .error stop => .error stop.error

end BootTheme
