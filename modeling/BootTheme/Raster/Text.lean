import BootTheme.Layout.Rect
import BootTheme.Picture.Font
import BootTheme.Text.Blank

/-!
# Lines of text

The characters of a line are set one after the other by a pen that starts where
the alignment says. Control characters are left out.
-/

namespace BootTheme

namespace TextLine

/-- The characters that are set. -/
def visible (text : String) : List Char := text.toList.filter fun char => !isControl char

variable {β : Type} [Scalar β]

/-- The pictures of the characters of a line. -/
def glyphs (font : FontSize β) (text : String) : List (Glyph β) :=
  (visible text).map (font.glyph (Scalar.ofNat 0))

/-- How far the pen moves in all. -/
def width (font : FontSize β) (text : String) : β :=
  (glyphs font text).foldl (fun total glyph => total + glyph.advance) (Scalar.ofNat 0)

/-- Where the pen starts in a box from `x` on. -/
def penStart (align : Align) (x boxWidth textWidth : β) : β :=
  match align with
  | .left => x
  | .center => x + (boxWidth - textWidth) / Scalar.ofNat 2
  | .right => x + boxWidth - textWidth

/-- Every picture with the place of the pen, and the place where the pen ends. -/
def set (pen : β) : List (Glyph β) → List (β × Glyph β) × β
  | [] => ([], pen)
  | glyph :: rest =>
      let (placed, last) := set (pen + glyph.advance) rest
      ((pen, glyph) :: placed, last)

/-- A place as an integer of 32 bits. -/
def place (position : β) : Int32 :=
  Int32.ofInt ((Scalar.nearest position).saturate (-2147483648) 2147483647)

/-- The left edge of a picture on the canvas. -/
def glyphLeft (pen : β) (glyph : Glyph β) : Int32 := place pen + Int32.ofInt glyph.left

/-- The top edge of a picture on the canvas. -/
def glyphTop (baseline : β) (glyph : Glyph β) : Int32 :=
  place baseline - Int32.ofInt glyph.bottom - Int32.ofInt glyph.height

end TextLine

end BootTheme
