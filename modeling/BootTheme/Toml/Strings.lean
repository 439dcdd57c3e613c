import BootTheme.Toml.Reader

/-!
# Strings of TOML

Strings stand in double quotes, with escapes, or in single quotes, without them.
In three quotes a string may go over several lines. There one or two quotes are
part of the string, also directly in front of the three that close it.
-/

namespace BootTheme

namespace TomlReader

/-- The character of a number in hexadecimal digits. -/
def scalar (digits : List Char) : Except TomlCause Char :=
  let code := digits.foldl (fun total digit => 16 * total + (Color.hexValue? digit).getD 0) 0
  if h : code.isValidChar then .ok (Char.ofNatAux code h) else .error .outOfRange

/-- A character by its number, in so many hexadecimal digits. -/
def code (count : Nat) : TomlReader Char := do
  let start ← get
  let digits ← exactly count fun char => (Color.hexValue? char).isSome
  checked start (scalar digits)

/-- The letters and marks that may follow a backslash. -/
def escapeMarks : List String := ["b", "f", "n", "r", "t", "u", "U", "\\", "\""]

/-- Stops for a character that cannot follow a backslash. The place is behind one of ASCII and
at any other. -/
def unknownEscape (char : Char) (rest : List Char) : TomlReader Char :=
  escapeMarks.foldl (fun read mark => expecting (.mark mark) read) <|
    labelled .escape <| final fun _ =>
      stop (if char.utf8Size = 1 then rest else char :: rest)

/-- A character behind a backslash. -/
def escape : TomlReader Char := do
  let char ← one fun _ => true
  match char with
  | 'b' => return '\x08'
  | 'f' => return '\x0c'
  | 'n' => return '\n'
  | 'r' => return '\r'
  | 't' => return '\t'
  | 'u' => labelled .shortCode (final (code 4))
  | 'U' => labelled .longCode (final (code 8))
  | '\\' => return '\\'
  | '"' => return '"'
  | _ => unknownEscape char (← get)

/-- A backslash and what it stands for. -/
def escaped : TomlReader (List Char) := do
  char '\\'
  return [← escape]

/-- Characters that stand for themselves between double quotes. -/
def isBasic (char : Char) : Bool := isPlain char && char != '"' && char != '\\'

/-- Characters that stand for themselves between single quotes. -/
def isLiteral (char : Char) : Bool := isPlain char && char != '\''

/-- A string with escapes. -/
def basicString : TomlReader (List Char) := do
  char '"'
  let parts ← many (either (span isBasic) escaped)
  labelled .basicString (final (char '"'))
  return parts.flatten

/-- A string without escapes. -/
def literalString : TomlReader (List Char) :=
  labelled .literalString do
    char '\''
    final do
      let chars ← run isLiteral
      char '\''
      return chars

/-- A line end, as a part of a string. -/
def lineBreak : TomlReader (List Char) := do
  newline
  return ['\n']

/-- The blanks and line ends at the front, behind a text that was left. -/
def skipFold : List Char → List Char
  | '\r' :: '\n' :: rest => skipFold rest
  | char :: rest => if isSpace char || char == '\n' then skipFold rest else char :: rest
  | [] => []

/-- A backslash at the end of a line, with all blanks and line ends that follow. -/
def fold : TomlReader (List Char) := do
  char '\\'
  skipSpaces
  newline
  modify skipFold
  return []

/-- One or two quotes in front of something that is only looked at. -/
def looseQuotes {α : Type} (quote : Char) (next : TomlReader α) : TomlReader (List Char) :=
  let quotes (count : Nat) : TomlReader (List Char) := do
    let found ← exactly count (· == quote)
    ahead next
    return found
  either (quotes 2) (quotes 1)

/-- The three quotes around a string over several lines. -/
def threeQuotes (quote : Char) : TomlReader Unit := word [quote, quote, quote]

/-- The characters of a string over several lines. -/
def longBody (quote : Char) (part : TomlReader (List Char)) : TomlReader (List Char) := do
  let front ← many part
  let others ← many do
    let quotes ← looseQuotes quote part
    return quotes ++ (← several part).flatten
  let last ← optional (looseQuotes quote (threeQuotes quote))
  return front.flatten ++ others.flatten ++ last.getD []

/-- A string over several lines. A line end directly behind the first quotes is no part of it. -/
def longString (form : TomlForm) (quote : Char) (part : TomlReader (List Char)) :
    TomlReader (List Char) :=
  labelled form do
    threeQuotes quote
    let _ ← optional newline
    final do
      let chars ← longBody quote part
      threeQuotes quote
      return chars

/-- A string. -/
def string : TomlReader String := do
  let basicPart := either (span isBasic) (either fold (either escaped lineBreak))
  let literalPart := either (span isLiteral) lineBreak
  let chars ← either (longString .longString '"' basicPart) <| either basicString <|
    either (longString .longLiteral '\'' literalPart) literalString
  return String.ofList chars

end TomlReader

end BootTheme
