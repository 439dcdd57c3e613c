import BootTheme.Number.Binary

/-!
# Reading decimal text

A decimal is read as the nearest double. Two grammars are read: digits with an
optional fraction, as themes write numbers, and the wider one of settings and
font names with sign, exponent and the names of infinity and the undefined
number.
-/

namespace BootTheme

/-- The value of a run of decimal digits. -/
def digitsValue (digits : List Char) : Nat :=
  digits.foldl (fun total digit => 10 * total + (digit.toNat - '0'.toNat)) 0

/-- The double nearest to `digits * 10 ^ exponent`. Outside four hundred places it is
infinite or zero, so no larger power is ever formed. -/
def nearestDouble (digits : Nat) (exponent : Int) : Float :=
  let places : Int := (Nat.log2 digits : Int) * 30103 / 100000 + exponent
  if digits = 0 then 0
  else if 400 < places then 1 / 0
  else if places < -400 then 0
  else Float.ofScientific digits (decide (exponent < 0)) exponent.natAbs

/-- The double of an integer part and a fraction. -/
def readFraction (whole fraction : List Char) : Float :=
  nearestDouble (digitsValue (whole ++ fraction)) (-(fraction.length : Int))

/-- An exponent: a sign or none, then at least one digit. -/
def readExponent (text : List Char) : Option Int :=
  let (negative, digits) :=
    match text with
    | '-' :: rest => (true, rest)
    | '+' :: rest => (false, rest)
    | rest => (false, rest)
  if digits.isEmpty || !digits.all Char.isDigit then none
  else some (if negative then -(digitsValue digits : Int) else digitsValue digits)

/-- A decimal without sign: digits, a point or none, and an exponent or none. -/
def readUnsigned (text : List Char) : Option Float :=
  let whole := text.takeWhile Char.isDigit
  let afterWhole := text.dropWhile Char.isDigit
  let (fraction, afterFraction) :=
    match afterWhole with
    | '.' :: rest => (rest.takeWhile Char.isDigit, rest.dropWhile Char.isDigit)
    | rest => ([], rest)
  if whole.isEmpty && fraction.isEmpty then none
  else
    let value (exponent : Int) :=
      nearestDouble (digitsValue (whole ++ fraction)) (exponent - fraction.length)
    match afterFraction with
    | [] => some (value 0)
    | mark :: rest => if mark = 'e' ∨ mark = 'E' then (readExponent rest).map value else none

/-- A decimal with sign, or a name of infinity or of the undefined number, in any case of
letters. -/
def readDouble (text : String) : Option Float :=
  let (negative, rest) :=
    match text.toList with
    | '-' :: rest => (true, rest)
    | '+' :: rest => (false, rest)
    | rest => (false, rest)
  let size :=
    if rest.map Char.toLower ∈ ["inf".toList, "infinity".toList] then some (1 / 0)
    else if rest.map Char.toLower = "nan".toList then some (0 / 0)
    else readUnsigned rest
  size.map fun value => if negative then -value else value

end BootTheme
