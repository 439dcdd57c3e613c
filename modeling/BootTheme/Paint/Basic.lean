import BootTheme.Color
import BootTheme.Layout.Rect

/-!
# What a box shows
-/

namespace BootTheme

/-- The contents of a box, drawn once its rectangle is known. -/
inductive Paint (α : Type) where
  /-- One color over the whole box. -/
  | fill (color : Color)
  /-- An image stretched to the box. -/
  | pixmap (file : String)
  /-- Nine images in and around the box; the pattern names them with a star for the part. -/
  | styleBox (pattern : String)
  /-- One line of text at the top edge of the box. -/
  | text (text : String) (color : Color) (size : α) (align : Align)
deriving DecidableEq, Repr

end BootTheme
