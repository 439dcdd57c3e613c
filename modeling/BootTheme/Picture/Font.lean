/-!
# Fonts

A font is known by the pictures of its characters in certain sizes. A character
is a box of coverages, placed relative to the pen, and moves the pen on.
-/

namespace BootTheme

/-- The picture of a character. Coverage is listed row by row from the top. -/
structure Glyph (β : Type) where
  /-- How far the pen moves on. -/
  advance : β
  /-- From the pen to the left edge. -/
  left : Int
  /-- From the baseline up to the bottom edge. -/
  bottom : Int
  width : Nat
  height : Nat
  coverage : Array UInt8
deriving Repr

/-- A font in one size: the height above the baseline, and the characters. -/
structure FontSize (β : Type) where
  ascent : β
  glyphs : List (Char × Glyph β)
deriving Repr

/-- A font in several sizes. -/
structure Font (β : Type) where
  sizes : List (β × FontSize β)
deriving Repr

namespace FontSize

variable {β : Type}

/-- The picture of a character; one that the font lacks has none and moves nothing. -/
def glyph (font : FontSize β) (zero : β) (char : Char) : Glyph β :=
  (font.glyphs.lookup char).getD ⟨zero, 0, 0, 0, 0, #[]⟩

end FontSize

/-- The font in a size; a size that is not known has no characters. -/
def Font.inSize {β : Type} (font : Font β) (same : β → β → Bool) (size : β) : FontSize β :=
  match font.sizes.find? fun (known, _) => same known size with
  | some (_, found) => found
  | none => ⟨size, []⟩

end BootTheme
