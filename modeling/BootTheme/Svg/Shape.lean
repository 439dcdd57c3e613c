import BootTheme.Paint.DisplayList
import BootTheme.Picture.Cache
import BootTheme.Settings.Basic

/-!
# Shapes of a vector drawing

A command becomes one shape. The outline of a rectangle is a line of width one
along the middle of its outermost pixels, and a line of text is anchored at the
left, middle or right of its box as its alignment says.
-/

namespace BootTheme

/-- Where the pixels of an image come from: a file, or the document itself. -/
inductive ImageSource where
  | link (path : String)
  | embedded (image : Image)
deriving DecidableEq, Repr

/-- Something to be drawn in a document. -/
inductive Shape (α : Type) where
  | filled (rect : Rect α) (color : Color)
  /-- The middle of the line, which is one pixel wide. -/
  | outlined (rect : Rect α) (color : Color)
  | picture (rect : Rect α) (source : ImageSource)
  /-- A line of text below `y`, anchored at `x`. -/
  | line (text : String) (x y size : α) (color : Color) (anchor : Align)
deriving DecidableEq, Repr

namespace Shape

variable {α : Type} [Scalar α]

/-- The middle of the outermost pixels. -/
def outlinePath (rect : Rect α) : Rect α :=
  { x := rect.x + Scalar.half
    y := rect.y + Scalar.half
    width := Scalar.larger (rect.width - Scalar.ofNat 1) (Scalar.ofNat 0)
    height := Scalar.larger (rect.height - Scalar.ofNat 1) (Scalar.ofNat 0) }

/-- Where a line of text is anchored. -/
def anchor (rect : Rect α) : Align → α
  | .left => rect.x
  | .center => rect.x + rect.width / Scalar.ofNat 2
  | .right => rect.right

/-- Where an image is taken from, if it is there and has pixels. -/
def imageSource (files : Files) (embed : Bool) (cache : ImageCache) (name : String) :
    Noted (Option ImageSource × ImageCache) :=
  if embed then do
    let (image, cache) ← cache.get files name
    match image with
    | none => return (none, cache)
    | some image =>
        if image.width == 0 || image.height == 0 then
          ⟨(none, cache), [.unembeddableImage name]⟩
        else return (some (.embedded image), cache)
  else .plain (some (.link (cache.path name)), cache)

/-- The shape of a command; an image that is not there has none. -/
def ofCommand (files : Files) (embed : Bool) (cache : ImageCache) :
    DrawCommand α → Noted (Option (Shape α) × ImageCache)
  | .fill rect color => .plain (some (.filled rect color), cache)
  | .stroke rect color => .plain (some (.outlined (outlinePath rect) color), cache)
  | .image name rect => do
      let (source, cache) ← imageSource files embed cache name
      return (source.map (.picture rect), cache)
  | .text text rect size color align =>
      .plain (some (.line text (anchor rect align) rect.y size color align), cache)

/-- The shapes of commands, in their order. -/
def ofCommands (files : Files) (embed : Bool) :
    List (DrawCommand α) → ImageCache → Noted (List (Shape α) × ImageCache)
  | [], cache => .plain ([], cache)
  | command :: rest, cache => do
      let (shape, cache) ← ofCommand files embed cache command
      let (shapes, cache) ← ofCommands files embed rest cache
      return (shape.toList ++ shapes, cache)

end Shape

/-- A vector drawing and the size of its canvas. -/
structure Drawing (α : Type) where
  width : Nat
  height : Nat
  shapes : List (Shape α)
deriving DecidableEq, Repr

/-- The vector drawing of a display list. -/
def DisplayList.vectorize {α : Type} [Scalar α] (list : DisplayList α) (files : Files)
    (embed : Bool) (cache : ImageCache) : Noted (Drawing α × ImageCache) := do
  let (shapes, cache) ← Shape.ofCommands files embed list.commands cache
  return (⟨list.width, list.height, shapes⟩, cache)

end BootTheme
