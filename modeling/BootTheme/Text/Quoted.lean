import BootTheme.Text.Hidden

/-!
# Quoted text

A text is shown between double quotes. Quotes and backslashes are escaped by a
backslash, the usual control characters by their letters, and every other
character that cannot be shown by its number.
-/

namespace BootTheme

/-- The number of a character in hexadecimal digits. -/
def hexDigits (code : Nat) : List Char := Nat.toDigits 16 code

/-- How a character stands in a quoted text. -/
def quoteChar (char : Char) : List Char :=
  if char = '\x00' then ['\\', '0']
  else if char = '\t' then ['\\', 't']
  else if char = '\r' then ['\\', 'r']
  else if char = '\n' then ['\\', 'n']
  else if char = '"' then ['\\', '"']
  else if char = '\\' then ['\\', '\\']
  else if isHidden char then '\\' :: 'u' :: '\x7b' :: hexDigits char.toNat ++ ['\x7d']
  else [char]

/-- The characters of a quoted text between its quotes. -/
def quoteChars (text : List Char) : List Char := text.flatMap quoteChar

/-- A text between double quotes. -/
def quoted (text : String) : String :=
  String.ofList ('"' :: quoteChars text.toList ++ ['"'])

end BootTheme
