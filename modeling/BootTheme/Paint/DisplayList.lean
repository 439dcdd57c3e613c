import BootTheme.Color
import BootTheme.Layout.Rect

/-!
# Display lists

A display list is what a picture consists of, from back to front, without any
notion of boxes.
-/

namespace BootTheme

/-- One step of a drawing. -/
inductive DrawCommand (α : Type) where
  | fill (rect : Rect α) (color : Color)
  /-- An outline of one pixel. -/
  | stroke (rect : Rect α) (color : Color)
  /-- The image of a name, stretched to the rectangle. -/
  | image (name : String) (rect : Rect α)
  | text (text : String) (rect : Rect α) (size : α) (color : Color) (align : Align)
deriving DecidableEq, Repr

/-- A drawing and the size of its canvas. -/
structure DisplayList (α : Type) where
  width : Nat
  height : Nat
  commands : List (DrawCommand α)
deriving DecidableEq, Repr

/-- The image of a command. -/
def DrawCommand.imageName? {α : Type} : DrawCommand α → Option String
  | image name _ => some name
  | _ => none

/-- Whether the command draws text. -/
def DrawCommand.isText {α : Type} : DrawCommand α → Bool
  | text _ _ _ _ _ => true
  | _ => false

/-- Whether the command draws an outline. -/
def DrawCommand.isStroke {α : Type} : DrawCommand α → Bool
  | stroke _ _ => true
  | _ => false

/-- The names of the images, in drawing order. -/
def DisplayList.imageNames {α : Type} (list : DisplayList α) : List String :=
  list.commands.filterMap DrawCommand.imageName?

end BootTheme
