import BootTheme.Layout.Box
import BootTheme.Paint.DisplayList
import BootTheme.Paint.StyleBox

/-!
# Painting boxes

A box with its rectangle becomes a few commands. Images that are not there are
left out. With outlines, every box is outlined before its own contents, and
every part of a style box but the center before its image.
-/

namespace BootTheme

namespace Painter

/-- The outline of a box. -/
def boxOutline : Color := .rgb 0xff 0x00 0x00

/-- The outline of a corner. -/
def cornerOutline : Color := .rgb 0xf9 0xf8 0x06

/-- The outline of an edge. -/
def edgeOutline : Color := .rgb 0xf9 0x73 0x06

variable {α : Type} [Scalar α]

/-- The commands of a part of a style box. -/
def partCommands (outline : Bool) (placed : PlacedPart α) : List (DrawCommand α) :=
  let image := DrawCommand.image placed.name placed.rect
  if outline && !decide (placed.part = .center) then
    [.stroke placed.rect (if placed.part.isCorner then cornerOutline else edgeOutline), image]
  else [image]

/-- The commands of the contents of a box. -/
def contents (files : Files) (outline : Bool) (rect : Rect α) (cache : ImageCache) :
    Option (Paint α) → Noted (List (DrawCommand α) × ImageCache)
  | none => .plain ([], cache)
  | some (.fill color) => .plain ([.fill rect color], cache)
  | some (.pixmap file) =>
      if rect.isEmpty then .plain ([], cache)
      else do
        let (image, cache) ← cache.get files file
        return (if image.isSome then [.image file rect] else [], cache)
  | some (.styleBox pattern) => do
      let (placed, cache) ← StylePart.place files pattern rect cache
      return (placed.flatMap (partCommands outline), cache)
  | some (.text text color size align) => .plain ([.text text rect size color align], cache)

/-- The commands of a box: its outline, if outlines are drawn, then its contents. -/
def box (files : Files) (outline : Bool) (paint : Option (Paint α)) (rect : Rect α)
    (cache : ImageCache) : Noted (List (DrawCommand α) × ImageCache) := do
  let (commands, cache) ← contents files outline rect cache paint
  return (if outline then .stroke rect boxOutline :: commands else commands, cache)

/-- The commands of boxes, one after the other. -/
def boxes (files : Files) (outline : Bool) :
    List (Option (Paint α) × Rect α) → ImageCache → Noted (List (DrawCommand α) × ImageCache)
  | [], cache => .plain ([], cache)
  | (paint, rect) :: rest, cache => do
      let (first, cache) ← box files outline paint rect cache
      let (others, cache) ← boxes files outline rest cache
      return (first ++ others, cache)

end Painter

variable {α : Type} [Scalar α]

/-- What each visited box of a walk shows, with its rectangle. -/
def BoxTree.shown (tree : BoxTree α) (visited : List (Nat × Rect α)) :
    List (Option (Paint α) × Rect α) :=
  visited.map fun (id, rect) => ((tree.box? id).bind LayoutBox.paint, rect)

/-- A tree painted up to the first box without a rectangle. -/
structure PaintedTree (α : Type) where
  commands : List (DrawCommand α)
  cache : ImageCache
  error : Option (EvalError α)
deriving Repr

/-- Paints the boxes of a tree, parents before children. -/
def BoxTree.paint (tree : BoxTree α) (context : Context α) (files : Files) (outline : Bool)
    (cache : ImageCache) : Noted (PaintedTree α) := do
  let walk := tree.walk context
  let (commands, cache) ← Painter.boxes files outline (tree.shown walk.visited) cache
  return ⟨commands, cache, walk.error⟩

end BootTheme
