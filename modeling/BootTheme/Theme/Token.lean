import BootTheme.Number.Shortest

/-!
# Tokens of a theme
-/

namespace BootTheme

/-- A range of bytes of the source. -/
structure Span where
  start : Nat
  stop : Nat
deriving DecidableEq, Repr

/-- A word, number or mark of a theme. The text of a string keeps its backslashes. -/
inductive Token where
  | bool (value : Bool)
  | plus
  | minus
  | percent
  | braceOpen
  | braceClose
  | colon
  | equals
  | ident (name : String)
  | string (text : String)
  | number (value : Float)
deriving DecidableEq, Repr

/-- A token and where it stands. -/
structure Located where
  token : Token
  span : Span
deriving DecidableEq, Repr

/-- How a message names a token. -/
def Token.describe : Token → String
  | bool true => "'true'"
  | bool false => "'false'"
  | plus => "'+'"
  | minus => "'-'"
  | percent => "'%'"
  | braceOpen => "'\x7b'"
  | braceClose => "'\x7d'"
  | colon => "':'"
  | equals => "'='"
  | ident name => "identifier '" ++ name ++ "'"
  | string text => "string \"" ++ text ++ "\""
  | number value => "number " ++ decimalText value

/-- How a message names a range of bytes. -/
def Span.text (span : Span) : String := toString span.start ++ ".." ++ toString span.stop

end BootTheme
