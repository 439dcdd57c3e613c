import BootTheme.Color
import BootTheme.Toml.Value

/-!
# Keys

A key has one or more parts with points between them. A part of letters, digits,
underscores and hyphens is written as it is; any other part stands in quotes.
-/

namespace BootTheme

/-- The parts of a key: those in front, and the last one. -/
structure TomlPath where
  before : List (Ranged String)
  last : Ranged String
deriving Repr

namespace TomlPath

/-- The key of a first part and the parts that follow it. -/
def ofParts (first : Ranged String) : List (Ranged String) → TomlPath
  | [] => ⟨[], first⟩
  | second :: rest =>
      let path := ofParts second rest
      ⟨first :: path.before, path.last⟩

/-- The parts of a key. -/
def parts (path : TomlPath) : List (Ranged String) := path.before ++ [path.last]

end TomlPath

namespace TomlKey

/-- Characters of a part without quotes. -/
def isBare (char : Char) : Bool := char.isAlphanum || char == '_' || char == '-'

/-- Characters that have to be written by their numbers, or have names of their own. -/
def isControl (char : Char) : Bool := decide (char.toNat < 0x20) || char.toNat == 0x7f

/-- A character between double quotes. -/
def escaped (char : Char) : List Char :=
  match char with
  | '\x08' => ['\\', 'b']
  | '\t' => ['\\', 't']
  | '\n' => ['\\', 'n']
  | '\x0c' => ['\\', 'f']
  | '\r' => ['\\', 'r']
  | '"' => ['\\', '"']
  | '\\' => ['\\', '\\']
  | _ =>
      if isControl char then
        "\\u00".toList ++ (Color.hexPair (UInt8.ofNat char.toNat)).map Char.toUpper
      else [char]

/-- A part as it is written: without quotes if that is possible, then in single quotes if these
save a backslash, or else in double quotes. -/
def written (part : String) : String :=
  let chars := part.toList
  let control := chars.any fun char => isControl char && char != '\t'
  let slashed := chars.any fun char => char == '"' || char == '\\'
  if !chars.isEmpty && chars.all isBare then part
  else if slashed && !control && !chars.contains '\'' then "'" ++ part ++ "'"
  else "\"" ++ String.ofList (chars.flatMap escaped) ++ "\""

end TomlKey

end BootTheme
