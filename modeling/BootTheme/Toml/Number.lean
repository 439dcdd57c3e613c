import BootTheme.Number.Reading
import BootTheme.Toml.Reader

/-!
# Numbers of TOML

Digits may have single underscores between them. A decimal number has no zero in
front. An integer has 64 bits; a number with a fraction or an exponent is the
nearest double, which must not be positive infinity.
-/

namespace BootTheme

namespace TomlReader

/-- A digit, with an underscore in front of it or none. Behind an underscore there must be one. -/
def nextDigit (isDigit : Char → Bool) : TomlReader Char :=
  either (one isDigit) do
    char '_'
    expecting .digit (final (one isDigit))

/-- Digits without the underscores between them. -/
def digitRun (isDigit : Char → Bool) : TomlReader (List Char) := do
  let first ← one isDigit
  return first :: (← many (nextDigit isDigit))

/-- A sign or none; whether it is a minus sign. -/
def sign : TomlReader Bool := do
  return (← optional (one fun char => char == '+' || char == '-')) == some '-'

/-- A decimal integer: whether it is negative, and its digits. Behind a zero in front the reader
takes nothing more. -/
def decimal : TomlReader (Bool × List Char) :=
  labelled .integer do
    let negative ← sign
    let digits ← either
      (do
        let first ← one fun char => char.isDigit && char != '0'
        return first :: (← many (nextDigit Char.isDigit)))
      (exactly 1 Char.isDigit)
    return (negative, digits)

/-- The value of digits to a base. -/
def baseValue (base : Nat) (digits : List Char) : Nat :=
  digits.foldl (fun total digit => base * total + (Color.hexValue? digit).getD 0) 0

/-- An integer of 64 bits with sign. -/
def within (value : Int) : Except TomlCause Toml :=
  if value < -9223372036854775808 then .error .tooSmall
  else if 9223372036854775807 < value then .error .tooLarge
  else .ok (.integer value)

/-- An integer to a base, behind a zero and a letter. -/
def based (form : TomlForm) (base : Nat) (isDigit : Char → Bool) : TomlReader Toml :=
  final do
    let start ← get
    let digits ← labelled form do
      let _ ← exactly 2 fun _ => true
      digitRun isDigit
    checked start (within (baseValue base digits))

/-- An integer. -/
def integer : TomlReader Toml := do
  let start ← get
  match start with
  | '0' :: 'x' :: _ => based .hexadecimal 16 fun char => (Color.hexValue? char).isSome
  | '0' :: 'o' :: _ => based .octal 8 fun char => '0' ≤ char && char ≤ '7'
  | '0' :: 'b' :: _ => based .binary 2 fun char => char == '0' || char == '1'
  | _ =>
      let (negative, digits) ← decimal
      let size : Int := digitsValue digits
      final (checked start (within (if negative then -size else size)))

/-- A point and the digits behind it. -/
def fraction : TomlReader (List Char) := do
  char '.'
  return '.' :: (← expecting .digit (final (digitRun Char.isDigit)))

/-- An exponent behind its mark. -/
def exponent : TomlReader (List Char) := do
  let _ ← one fun char => char == 'e' || char == 'E'
  let negative ← sign
  let digits ← final (digitRun Char.isDigit)
  return 'e' :: ((if negative then ['-'] else []) ++ digits)

/-- A number with a fraction or an exponent. -/
def realNumber : TomlReader Toml := do
  let start ← get
  let (negative, whole) ← decimal
  let behind ← either exponent do
    let places ← fraction
    return places ++ ((← optional exponent).getD [])
  match readUnsigned (whole ++ behind) with
  | none => stop
  | some size =>
      if size.isInf && !negative then do
        set start
        final stop
      else return .float (if negative then -size else size)

/-- The name of infinity or of the undefined number. -/
def floatName : TomlReader Float :=
  either (do word "inf".toList; return 1 / 0) (do word "nan".toList; return 0 / 0)

/-- A floating-point number. -/
def float : TomlReader Toml :=
  labelled .float <| either realNumber do
    let negative ← sign
    let size ← floatName
    return .float (if negative then -size else size)

end TomlReader

end BootTheme
