import BootTheme.Number.Binary

/-!
# The shortest decimal text of a number

A number is written with the fewest significant digits that read back as the
same number; of two such decimals the nearer one is taken, and the greater one
when both are equally near. The text is always positional, never with an
exponent, and whole numbers carry no point.
-/

namespace BootTheme

/-- A magnitude and the interval of reals that round to it, over one denominator. -/
structure Rounding where
  low : Nat
  value : Nat
  high : Nat
  denominator : Nat
  closed : Bool
deriving Repr

/-- The reals nearest to `mantissa * 2 ^ exponent`. Below a power of two the gap is halved;
the ends belong to even mantissas. -/
def Rounding.of (fractionBits : Nat) (mantissa : Nat) (exponent : Int) : Rounding :=
  let below := if mantissa = 1 <<< fractionBits then 1 else 2
  let (scale, denominator) : Nat × Nat :=
    match exponent - 2 with
    | .ofNat up => (1 <<< up, 1)
    | .negSucc down => (1, 1 <<< (down + 1))
  { low := (4 * mantissa - below) * scale
    value := 4 * mantissa * scale
    high := (4 * mantissa + 2) * scale
    denominator
    closed := mantissa % 2 == 0 }

namespace Rounding

/-- `10 ^ place` as a numerator and a denominator. -/
def powerOfTen : Int → Nat × Nat
  | .ofNat up => (Nat.pow 10 up, 1)
  | .negSucc down => (1, Nat.pow 10 (down + 1))

/-- Whether `digits * 10 ^ place` rounds to the number. -/
def holds (range : Rounding) (digits : Nat) (place : Int) : Bool :=
  let (up, down) := powerOfTen place
  let point := digits * up * range.denominator
  if range.closed then
    decide (range.low * down ≤ point) && decide (point ≤ range.high * down)
  else
    decide (range.low * down < point) && decide (point < range.high * down)

/-- The multiple of `10 ^ place` to write for the number, if one rounds to it. -/
def onGrid (range : Rounding) (place : Int) : Option Nat :=
  let (up, down) := powerOfTen place
  let unit := up * range.denominator
  let digits := range.value * down / unit
  let rest := range.value * down % unit
  match range.holds digits place, range.holds (digits + 1) place with
  | true, true => some (if unit ≤ 2 * rest then digits + 1 else digits)
  | true, false => some digits
  | false, true => some (digits + 1)
  | false, false => none

/-- The first grid with a decimal that rounds to the number, from `place` downwards. -/
def search (range : Rounding) : Nat → Int → Nat × Int
  | 0, place => ((range.onGrid place).getD 0, place)
  | fuel + 1, place =>
      match range.onGrid place with
      | some digits => (digits, place)
      | none => range.search fuel (place - 1)

/-- The place of the leading digit, at or below the start. -/
def leading (range : Rounding) : Nat → Int → Int
  | 0, place => place
  | fuel + 1, place =>
      let (up, down) := powerOfTen place
      if up * range.denominator ≤ range.value * down then place
      else range.leading fuel (place - 1)

/-- A place at or above that of the leading digit: `2 ^ 10` exceeds `10 ^ 3`, so three tenths of
the binary length, and some, are enough. -/
def above (range : Rounding) : Int :=
  let bits : Int := Nat.log2 range.value + 1 - Nat.log2 range.denominator
  bits * 30103 / 100000 + 2

/-- Seventeen digits always tell two doubles apart. -/
def shortest (range : Rounding) : Nat × Int :=
  range.search 17 (range.leading 700 range.above)

end Rounding

/-- Decimal digits of a count. -/
def digitsOf (count : Nat) : List Char := Nat.toDigits 10 count

/-- The digits after the point, without zeros at the end. -/
def trimZeros (digits : List Char) : List Char :=
  (digits.reverse.dropWhile (· == '0')).reverse

/-- `digits * 10 ^ place`, written out. -/
def positional (digits : Nat) : Int → List Char
  | .ofNat up => digitsOf (digits * Nat.pow 10 up)
  | .negSucc down =>
      let unit := Nat.pow 10 (down + 1)
      let rest := digitsOf (digits % unit)
      let padded := List.replicate (down + 1 - rest.length) '0' ++ rest
      match trimZeros padded with
      | [] => digitsOf (digits / unit)
      | fraction => digitsOf (digits / unit) ++ '.' :: fraction

/-- The text of a size. -/
def Magnitude.text : Magnitude → String
  | .undefined => "NaN"
  | .infinite => "inf"
  | .finite mantissa exponent =>
      if mantissa = 0 then "0"
      else
        let (digits, place) := (Rounding.of 52 mantissa exponent).shortest
        String.ofList (positional digits place)

/-- The text of a number. -/
def decimalText (value : Float) : String :=
  let parts := doubleParts value
  match parts.magnitude with
  | .undefined => "NaN"
  | size => if parts.negative then "-" ++ size.text else size.text

end BootTheme
