import BootTheme.Number.Shortest

/-!
# Numbers with one decimal place

The exact value is rounded to tenths; a tie goes to the even digit.
-/

namespace BootTheme

/-- The tenths nearest to `mantissa * 2 ^ exponent`. -/
def tenths (mantissa : Nat) : Int → Nat
  | .ofNat up => (10 * mantissa) <<< up
  | .negSucc down => roundEven (10 * mantissa) (1 <<< (down + 1))

/-- The text of a number with one decimal place. -/
def tenthsText (value : Float) : String :=
  let parts := doubleParts value
  let sign := if parts.negative then "-" else ""
  match parts.magnitude with
  | .undefined => "NaN"
  | .infinite => sign ++ "inf"
  | .finite mantissa exponent =>
      let count := tenths mantissa exponent
      sign ++ String.ofList (digitsOf (count / 10) ++ '.' :: digitsOf (count % 10))

end BootTheme
