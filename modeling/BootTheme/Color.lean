import BootTheme.Dictionary
import BootTheme.Number.Reading
import BootTheme.Text.Blank

/-!
# Colors

A theme writes a color as `#rgb` or `#rrggbb`, as three components, or by a name
of the palette. Names are the same in either case of ASCII letters.
-/

namespace BootTheme

/-- A color with its opacity. -/
structure Color where
  red : UInt8
  green : UInt8
  blue : UInt8
  alpha : UInt8
deriving DecidableEq, Repr

namespace Color

/-- An opaque color. -/
def rgb (red green blue : UInt8) : Color := ⟨red, green, blue, 255⟩

/-- The color without light. -/
def black : Color := rgb 0 0 0

/-- The value of a hexadecimal digit. -/
def hexValue? (char : Char) : Option Nat :=
  if '0' ≤ char ∧ char ≤ '9' then some (char.toNat - '0'.toNat)
  else if 'a' ≤ char ∧ char ≤ 'f' then some (char.toNat - 'a'.toNat + 10)
  else if 'A' ≤ char ∧ char ≤ 'F' then some (char.toNat - 'A'.toNat + 10)
  else none

/-- The color of three single or three double digits. -/
def ofDigits? : List Nat → Option Color
  | [r, g, b] => some (rgb (UInt8.ofNat (17 * r)) (UInt8.ofNat (17 * g)) (UInt8.ofNat (17 * b)))
  | [r, s, g, h, b, c] =>
      some (rgb (UInt8.ofNat (16 * r + s)) (UInt8.ofNat (16 * g + h)) (UInt8.ofNat (16 * b + c)))
  | _ => none

/-- The color of `#rgb` or `#rrggbb`. -/
def ofHex? : List Char → Option Color
  | '#' :: digits => (digits.mapM hexValue?).bind ofDigits?
  | _ => none

/-- A number of at most 255, with a plus sign or none. -/
def component? (text : List Char) : Option UInt8 :=
  let digits := match trim text with
    | '+' :: rest => rest
    | rest => rest
  if digits.isEmpty || !digits.all Char.isDigit then none
  else if digitsValue digits ≤ 255 then some (UInt8.ofNat (digitsValue digits))
  else none

/-- The fields of a text between its commas. -/
def fields : List Char → List (List Char)
  | [] => [[]]
  | ',' :: rest => [] :: fields rest
  | char :: rest =>
      match fields rest with
      | [] => [[char]]
      | field :: others => (char :: field) :: others

/-- The color of three components. -/
def ofComponents? (text : List Char) : Option Color :=
  match (fields text).mapM component? with
  | some [red, green, blue] => some (rgb red green blue)
  | _ => none

/-- Two hexadecimal digits. -/
def hexPair (value : UInt8) : List Char :=
  [Nat.digitChar (value.toNat / 16), Nat.digitChar (value.toNat % 16)]

/-- The form `#rrggbb`, without the opacity. -/
def hex (color : Color) : String :=
  String.ofList ('#' :: hexPair color.red ++ hexPair color.green ++ hexPair color.blue)

end Color

/-- Colors by name: a name in lower case, and a text that should be of the form `#rrggbb`. -/
abbrev Palette := Dictionary String

namespace Palette

/-- The palette with a color added or replaced. -/
def add (palette : Palette) (name value : String) : Palette :=
  palette.set (lowerAscii name) value

/-- The palette with colors added or replaced, one after the other. -/
def extend (palette : Palette) (colors : List (String × String)) : Palette :=
  colors.foldl (fun palette (name, value) => palette.add name value) palette

/-- The colors that every theme knows. -/
def builtin : List (String × String) :=
  [("black", "#000000"), ("white", "#ffffff"), ("gray", "#808080"), ("grey", "#808080"),
    ("silver", "#c0c0c0"), ("lightgray", "#d3d3d3"), ("lightgrey", "#d3d3d3"),
    ("darkgray", "#a9a9a9"), ("darkgrey", "#a9a9a9"), ("dimgray", "#696969"),
    ("red", "#ff0000"), ("darkred", "#8b0000"), ("maroon", "#800000"), ("orange", "#ffa500"),
    ("yellow", "#ffff00"), ("gold", "#ffd700"), ("green", "#008000"), ("lime", "#00ff00"),
    ("darkgreen", "#006400"), ("olive", "#808000"), ("teal", "#008080"), ("cyan", "#00ffff"),
    ("aqua", "#00ffff"), ("blue", "#0000ff"), ("navy", "#000080"), ("darkblue", "#00008b"),
    ("steelblue", "#4682b4"), ("skyblue", "#87ceeb"), ("purple", "#800080"),
    ("magenta", "#ff00ff"), ("fuchsia", "#ff00ff"), ("pink", "#ffc0cb"), ("brown", "#a52a2a")]

/-- The palette without colors of a configuration. -/
def default : Palette := extend Dictionary.empty builtin

/-- The color that a theme writes. -/
def resolve (palette : Palette) (spec : String) : Option Color :=
  let text := trim spec.toList
  if text.head? = some '#' then Color.ofHex? text
  else if ',' ∈ text then Color.ofComponents? text
  else
    (palette.get? (lowerAscii (String.ofList text))).bind fun value =>
      Color.ofHex? (trim value.toList)

end Palette

end BootTheme
