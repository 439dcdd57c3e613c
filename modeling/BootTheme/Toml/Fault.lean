import BootTheme.Toml.Key

/-!
# What is amiss in a document

A reader that stops may say what it was reading, what it could have read at the
place where it stopped, and why it refuses what it has read. The message has a
line for each of these, as far as they are said.
-/

namespace BootTheme

/-- What a reader was reading. -/
inductive TomlForm where
  | key
  | tableHeader
  | string
  | basicString
  | literalString
  | longString
  | longLiteral
  | escape
  | shortCode
  | longCode
  | integer
  | hexadecimal
  | octal
  | binary
  | float
  | datetime
  | time
  | offset
  | array
  | inlineTable
deriving DecidableEq, Repr

/-- What a reader could have read. -/
inductive TomlExpected where
  | mark (text : String)
  | newline
  | digit
  | leadingDigit
deriving DecidableEq, Repr

/-- Why a reader refuses what it has read. -/
inductive TomlCause where
  /-- A key that is there already, in the table of a header if that is told; the header of the
  document itself has no parts. -/
  | repeatedKey (key : String) (header : Option (List String))
  /-- A header of what is there already: its parts, the last one apart. -/
  | repeatedHeader (before : List String) (last : String)
  /-- A key that leads through a value which is no table. -/
  | noTable (path : List String) (found : Toml)
  | outOfRange
  | tooDeep
  | tooLarge
  | tooSmall
deriving Repr

/-- What is amiss. -/
structure TomlFault where
  form : Option TomlForm := none
  /-- In the order in which it is told. -/
  expected : List TomlExpected := []
  cause : Option TomlCause := none
deriving Repr

/-- What is amiss in a document, and where. -/
structure TomlError where
  range : TomlRange
  fault : TomlFault
deriving Repr

/-- How a message calls what was read. -/
def TomlForm.name : TomlForm → String
  | key => "key"
  | tableHeader => "table header"
  | string => "string"
  | basicString => "basic string"
  | literalString => "literal string"
  | longString => "multiline basic string"
  | longLiteral => "multiline literal string"
  | escape => "escape sequence"
  | shortCode => "unicode 4-digit hex code"
  | longCode => "unicode 8-digit hex code"
  | integer => "integer"
  | hexadecimal => "hexadecimal integer"
  | octal => "octal integer"
  | binary => "binary integer"
  | float => "floating-point number"
  | datetime => "date-time"
  | time => "time"
  | offset => "time offset"
  | array => "array"
  | inlineTable => "inline table"

/-- How a message calls what could have been read. -/
def TomlExpected.text : TomlExpected → String
  | mark text => "`" ++ text ++ "`"
  | newline => "newline"
  | digit => "digit"
  | leadingDigit => "leading digit"

/-- How a message calls a value. -/
def Toml.kind : Toml → String
  | string _ => "string"
  | integer _ => "integer"
  | float _ => "float"
  | bool _ => "boolean"
  | datetime _ => "datetime"
  | array _ => "array"
  | table _ => "inline table"

namespace TomlCause

/-- The parts of a key with points between them, as they are and without quotes. -/
def pointed (parts : List String) : String := String.intercalate "." parts

/-- What is said about a key that is there already. -/
def repeated (key : String) : Option (List String) → String
  | none => "duplicate key `" ++ key ++ "`"
  | some [] => "duplicate key `" ++ key ++ "` in document root"
  | some header => "duplicate key `" ++ key ++ "` in table `" ++ pointed header ++ "`"

/-- What is said about a cause. -/
def message : TomlCause → String
  | repeatedKey key header => repeated key header
  | repeatedHeader before last => repeated (TomlKey.written last) (some before)
  | noTable path found =>
      "dotted key `" ++ pointed path ++ "` attempted to extend non-table type ("
        ++ found.kind ++ ")"
  | outOfRange => "value is out of range"
  | tooDeep => "recursion limit exceeded"
  | tooLarge => "number too large to fit in target type"
  | tooSmall => "number too small to fit in target type"

end TomlCause

namespace TomlFault

/-- The fault, with what was read unless a smaller part of it is known. -/
def within (fault : TomlFault) (form : TomlForm) : TomlFault :=
  { fault with form := fault.form.or (some form) }

/-- The fault, with one more thing that could have been read. -/
def expecting (fault : TomlFault) (expected : TomlExpected) : TomlFault :=
  { fault with expected := fault.expected ++ [expected] }

/-- The lines of the message. -/
def lines (fault : TomlFault) : List String :=
  (fault.form.map fun form => "invalid " ++ form.name).toList
    ++ (if fault.expected.isEmpty then []
        else ["expected " ++ String.intercalate ", " (fault.expected.map TomlExpected.text)])
    ++ (fault.cause.map TomlCause.message).toList

/-- What is said about the fault. -/
def message (fault : TomlFault) : String := String.intercalate "\n" fault.lines

end TomlFault

end BootTheme
