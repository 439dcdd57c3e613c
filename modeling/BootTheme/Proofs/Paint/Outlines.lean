import BootTheme.Preview
import BootTheme.Proofs.Component.AlikeSettings
import BootTheme.Proofs.Component.PaintOrder
import BootTheme.Proofs.Paint.Answers

/-!
# Outlines only add strokes

Outlines change neither the boxes of a theme nor the names that the boxes ask for. They put one
stroke before the commands of every box and one before the image of every part of a style
box but the center, and nothing else. Leaving the strokes out gives the drawing
without outlines.
-/

namespace BootTheme

variable {α : Type} [Scalar α] {images : String → Option Image}

namespace StylePart

/-- The color that outlines a part. The center has no outline. -/
def outline? : StylePart → Option Color
  | center => none
  | northwest | northeast | southwest | southeast => some Painter.cornerOutline
  | north | west | east | south => some Painter.edgeOutline

/-- The parts of a pattern that are drawn, row by row, each in its place. -/
def drawn (images : String → Option Image) (pattern : String) (rect : Rect α) :
    List (PlacedPart α) :=
  if pattern.isEmpty then []
  else
    [northwest, north, northeast, west, center, east, southwest, south, southeast].filterMap
      (placed images pattern rect)

end StylePart

namespace PlacedPart

/-- The image of a part. -/
def bare (placed : PlacedPart α) : DrawCommand α := .image placed.name placed.rect

/-- The image of a part, right after its outline if it has one. -/
def outlined (placed : PlacedPart α) : List (DrawCommand α) :=
  match placed.part.outline? with
  | none => [placed.bare]
  | some color => [.stroke placed.rect color, placed.bare]

end PlacedPart

namespace Painter

/-- The contents of a box without outlines, and with them. Only the parts of style boxes have
outlines of their own. -/
inductive Inside (images : String → Option Image) (rect : Rect α) :
    Option (Paint α) → List (DrawCommand α) → List (DrawCommand α) → Prop
  | parts (pattern : String) :
      Inside images rect (some (.styleBox pattern))
        ((StylePart.drawn images pattern rect).map PlacedPart.bare)
        ((StylePart.drawn images pattern rect).flatMap PlacedPart.outlined)
  | whole {paint : Option (Paint α)} {commands : List (DrawCommand α)}
      (single : ∀ pattern, paint ≠ some (.styleBox pattern))
      (strokeless : ∀ command ∈ commands, command.isStroke = false) :
      Inside images rect paint commands commands

/-- The commands of boxes without outlines, and with them: the commands of every box come right
after one stroke around it. -/
inductive Outlined (images : String → Option Image) :
    List (Option (Paint α) × Rect α) → List (DrawCommand α) → List (DrawCommand α) → Prop
  | nil : Outlined images [] [] []
  | cons {paint : Option (Paint α)} {rect : Rect α} {plain inside : List (DrawCommand α)}
      {rest : List (Option (Paint α) × Rect α)} {others outlined : List (DrawCommand α)}
      (box : Inside images rect paint plain inside) (boxes : Outlined images rest others outlined) :
      Outlined images ((paint, rect) :: rest) (plain ++ others)
        (.stroke rect boxOutline :: inside ++ outlined)

variable {rect : Rect α} {paint : Option (Paint α)} {shown : List (Option (Paint α) × Rect α)}
  {plain inside outlined : List (DrawCommand α)}

/-! ## Commands come with outlines as they should -/

theorem Inside.strokeless (box : Inside images rect paint plain inside) :
    ∀ command ∈ plain, command.isStroke = false := by
  cases box with
  | parts pattern =>
      intro command among
      obtain ⟨placed, -, rfl⟩ := List.mem_map.1 among
      rfl
  | whole single strokeless => exact strokeless

/-- Without outlines there are no strokes. -/
theorem Outlined.strokeless (boxes : Outlined images shown plain outlined) :
    ∀ command ∈ plain, command.isStroke = false := by
  induction boxes with
  | nil => simp
  | cons box boxes ih =>
      intro command among
      rcases List.mem_append.1 among with first | others
      · exact box.strokeless command first
      · exact ih command others

end Painter

/-! ## Trees -/

/-- What comes of a painted tree on the screen of the settings. -/
def PaintedTree.drawn (painted : PaintedTree Float) (settings : Settings) :
    Except RenderError (DisplayList Float × ImageCache) :=
  match painted.error with
  | some error => .error (.eval error)
  | none => .ok (⟨settings.width, settings.height, painted.commands⟩, painted.cache)

end BootTheme
