import BootTheme.Number.Scalar
import BootTheme.Text.Blank

/-!
# Rectangles and alignment
-/

namespace BootTheme

/-- A rectangle on the canvas. -/
structure Rect (α : Type) where
  x : α
  y : α
  width : α
  height : α
deriving DecidableEq, Repr

namespace Rect

variable {α : Type} [Scalar α]

/-- The empty rectangle at the origin. -/
def zero : Rect α := ⟨Scalar.ofNat 0, Scalar.ofNat 0, Scalar.ofNat 0, Scalar.ofNat 0⟩

/-- Where the right edge lies. -/
def right (rect : Rect α) : α := rect.x + rect.width

/-- Where the bottom edge lies. -/
def bottom (rect : Rect α) : α := rect.y + rect.height

/-- Whether a side is shorter than one pixel. -/
def isEmpty (rect : Rect α) : Bool :=
  Scalar.less rect.width (Scalar.ofNat 1) || Scalar.less rect.height (Scalar.ofNat 1)

/-- Whether two rectangles have equal numbers. -/
def sameAs [BEq α] (first second : Rect α) : Bool :=
  first.x == second.x && first.y == second.y && first.width == second.width
    && first.height == second.height

end Rect

/-- Where a line of text stands in its box. -/
inductive Align where
  | left
  | center
  | right
deriving DecidableEq, Repr

/-- The alignment that a keyword names. -/
def Align.ofKeyword? (keyword : String) : Option Align :=
  match String.ofList (trim keyword.toList) with
  | "left" => some left
  | "center" => some center
  | "right" => some right
  | _ => none

end BootTheme
