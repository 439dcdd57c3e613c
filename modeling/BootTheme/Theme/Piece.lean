import BootTheme.Number.Reading
import BootTheme.Text.Measure
import BootTheme.Theme.Token

/-!
# Cutting a theme into pieces

A source is cut from front to back into pieces: runs of blanks, comments,
tokens, and characters that form none of these. Every character lies in exactly
one piece. A string that is not closed is a piece of its own up to the place
where it can go on no more.
-/

namespace BootTheme

/-- What a piece of source is. -/
inductive PieceKind where
  | blank
  | comment
  | token (token : Token)
  | unexpected
deriving DecidableEq, Repr

/-- A piece of source. -/
structure Piece where
  kind : PieceKind
  text : List Char
deriving DecidableEq, Repr

namespace Piece

/-- Blanks between tokens. -/
def isSpace (char : Char) : Bool :=
  char == ' ' || char == '\t' || char == '\n' || char == '\r'

/-- How an identifier starts. -/
def startsIdent (char : Char) : Bool := char.isAlpha || char == '_'

/-- How an identifier goes on. -/
def continuesIdent (char : Char) : Bool :=
  char.isAlphanum || char == '_' || char == '-' || char == '.'

/-- The token of a maximal run of identifier characters. -/
def word (name : List Char) : Token :=
  if name = ['t', 'r', 'u', 'e'] then .bool true
  else if name = ['f', 'a', 'l', 's', 'e'] then .bool false
  else .ident (String.ofList name)

/-- The fraction at the front of a text: a point with digits after it. -/
def fraction : List Char → List Char
  | '.' :: rest => rest.takeWhile Char.isDigit
  | _ => []

/-- A number with the characters it takes. -/
def number (text : List Char) : Piece :=
  let whole := text.takeWhile Char.isDigit
  let places := fraction (text.dropWhile Char.isDigit)
  ⟨.token (.number (readFraction whole places)),
    if places.isEmpty then whole else whole ++ '.' :: places⟩

/-- How far a string goes after its opening quote, and whether a closing quote follows. A
backslash takes the next character with it, unless that is a line end. -/
def stringBody : List Char → List Char × Bool
  | [] => ([], false)
  | '"' :: _ => ([], true)
  | ['\\'] => ([], false)
  | '\\' :: '\n' :: _ => ([], false)
  | '\\' :: char :: rest =>
      let (body, closed) := stringBody rest
      ('\\' :: char :: body, closed)
  | char :: rest =>
      let (body, closed) := stringBody rest
      (char :: body, closed)

/-- A string with its quotes, or the part of one that is not closed. -/
def string (afterQuote : List Char) : Piece :=
  match stringBody afterQuote with
  | (body, true) => ⟨.token (.string (String.ofList body)), '"' :: body ++ ['"']⟩
  | (body, false) => ⟨.unexpected, '"' :: body⟩

/-- The token of a single mark. -/
def mark? : Char → Option Token
  | '+' => some .plus
  | '-' => some .minus
  | '%' => some .percent
  | '{' => some .braceOpen
  | '}' => some .braceClose
  | ':' => some .colon
  | '=' => some .equals
  | _ => none

/-- The piece at the front of a text that starts with the given character. -/
def front (first : Char) (rest : List Char) : Piece :=
  if isSpace first then ⟨.blank, first :: rest.takeWhile isSpace⟩
  else if first = '#' then ⟨.comment, first :: rest.takeWhile (· != '\n')⟩
  else if startsIdent first then
    let name := first :: rest.takeWhile continuesIdent
    ⟨.token (word name), name⟩
  else if first.isDigit then number (first :: rest)
  else if first = '"' then string rest
  else
    match mark? first with
    | some token => ⟨.token token, [first]⟩
    | none => ⟨.unexpected, [first]⟩

/-- The pieces of a text; every piece takes at least one character. -/
def cut : Nat → List Char → List Piece
  | 0, _ => []
  | _ + 1, [] => []
  | fuel + 1, first :: rest =>
      let piece := front first rest
      piece :: cut fuel ((first :: rest).drop piece.text.length)

end Piece

/-- The pieces of a source, from front to back. -/
def pieces (source : String) : List Piece := Piece.cut source.length source.toList

/-- Pieces with the bytes they stand at. -/
def locate (start : Nat) : List Piece → List (Piece × Span)
  | [] => []
  | piece :: rest =>
      let stop := start + byteCount piece.text
      (piece, ⟨start, stop⟩) :: locate stop rest

/-- What the tokens of a source are, and what of it was skipped. -/
structure Lexed where
  tokens : List Located
  skipped : List (List Char × Span)
deriving Repr

/-- The tokens among located pieces. -/
def tokensOf (located : List (Piece × Span)) : List Located :=
  located.filterMap fun (piece, span) =>
    match piece.kind with
    | .token token => some ⟨token, span⟩
    | _ => none

/-- The pieces that form no token. -/
def skippedOf (located : List (Piece × Span)) : List (List Char × Span) :=
  located.filterMap fun (piece, span) =>
    match piece.kind with
    | .unexpected => some (piece.text, span)
    | _ => none

/-- The tokens of a source with what was skipped between them. -/
def lex (source : String) : Lexed :=
  let located := locate 0 (pieces source)
  ⟨tokensOf located, skippedOf located⟩

end BootTheme
