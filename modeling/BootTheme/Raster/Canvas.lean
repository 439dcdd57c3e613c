import BootTheme.Number.Binary
import BootTheme.Paint.DisplayList
import BootTheme.Picture.Blend
import BootTheme.Picture.Cache
import BootTheme.Picture.Resample
import BootTheme.Raster.Clip
import BootTheme.Raster.Text

/-!
# Drawing on pixels

The commands of a display list change the pixels of a canvas one after the
other. Nothing is drawn outside the canvas. The canvas starts black and opaque.
-/

namespace BootTheme

namespace Canvas

variable {α β : Type} [Scalar α] [Scalar β]

/-- An empty canvas. -/
def blank (width height : Nat) : Image := .plain width height .black

/-- A color over a pixel, as far as it covers the pixel. -/
def tint (color : Color) (coverage : UInt8) (under : Pixel) : Pixel :=
  let opacity := color.alpha.toNat * coverage.toNat / 255
  if opacity = 0 then under
  else layOver color.red color.green color.blue (UInt8.ofNat opacity) under

/-- A filled rectangle. -/
def fill (canvas : Image) (rect : Rect α) (color : Color) : Image :=
  match rect.clip canvas.width canvas.height with
  | none => canvas
  | some area =>
      canvas.updateRows (fun _ _ => tint color 255) area.left (area.right - area.left)
        (area.bottom - area.top) area.top

/-- An outline of one pixel, drawn as its four sides. -/
def stroke (canvas : Image) (rect : Rect α) (color : Color) : Image :=
  rect.sides.foldl (fun canvas side => fill canvas side color) canvas

/-- An image over the canvas, its top left corner in the given place. -/
def overlay (canvas image : Image) (left top : Nat) : Image :=
  canvas.updateRows (fun x y under => (image.pixel (x - left) (y - top)).atop under) left
    image.width image.height top

/-- The part of an image that lands on an area of the canvas, in the size of the area. -/
def visiblePart (image : Image) (rect : Rect α) (area : PixelArea) : Image :=
  let (left, right) := sourceSpan (Scalar.ofNat area.left - rect.x)
    (Scalar.ofNat area.right - rect.x) (Scalar.ofNat image.width / rect.width) image.width
  let (top, bottom) := sourceSpan (Scalar.ofNat area.top - rect.y)
    (Scalar.ofNat area.bottom - rect.y) (Scalar.ofNat image.height / rect.height) image.height
  let part := image.crop left top (right - left) (bottom - top)
  let width := area.right - area.left
  let height := area.bottom - area.top
  if part.width = width ∧ part.height = height then part else part.resize width height

/-- An image stretched to a rectangle. Only the part that lands on the canvas is scaled. -/
def drawImage (canvas image : Image) (rect : Rect α) : Image :=
  let rect := rect.rounded
  if rect.isEmpty || image.width == 0 || image.height == 0 then canvas
  else
    match rect.clip canvas.width canvas.height with
    | none => canvas
    | some area => overlay canvas (visiblePart image rect area) area.left area.top

/-- The color over one pixel of the canvas, if it lies there. -/
def dot (canvas : Image) (x y : Int32) (color : Color) (coverage : UInt8) : Image :=
  if 0 ≤ x.toInt ∧ 0 ≤ y.toInt ∧ x.toInt < canvas.width ∧ y.toInt < canvas.height then
    canvas.update x.toInt.toNat y.toInt.toNat (tint color coverage)
  else canvas

/-- The picture of a character with its top left corner in the given place. -/
def drawGlyph (canvas : Image) (left top : Int32) (glyph : Glyph β) (color : Color) : Image :=
  (List.range (glyph.width * glyph.height)).foldl (fun canvas place =>
    dot canvas (left + Int32.ofNat (place % glyph.width)) (top + Int32.ofNat (place / glyph.width))
      color (glyph.coverage[place]?.getD 0)) canvas

/-- A line of text. The pen works in numbers of its own, to which `convert` brings those of
the rectangle. -/
def drawText (convert : α → β) (font : FontSize β) (canvas : Image) (text : String)
    (rect : Rect α) (color : Color) (align : Align) : Image :=
  let start := TextLine.penStart align (convert rect.x) (convert rect.width)
    (TextLine.width font text)
  let baseline := convert rect.y + font.ascent
  (TextLine.set start (TextLine.glyphs font text)).1.foldl (fun canvas (pen, glyph) =>
    drawGlyph canvas (TextLine.glyphLeft pen glyph) (TextLine.glyphTop baseline glyph) glyph
      color) canvas

/-- Whether two singles are the same number. -/
def sameSize (first second : Float32) : Bool := first.toBits == second.toBits

/-- One command on the canvas. An image that is not there is noted and left out. -/
def draw (files : Files) (font : Option (Font Float32)) (canvas : Image) (cache : ImageCache) :
    DrawCommand Float → Noted (Image × ImageCache)
  | .fill rect color => .plain (fill canvas rect color, cache)
  | .stroke rect color => .plain (stroke canvas rect color, cache)
  | .image name rect => do
      let (image, cache) ← cache.get files name
      match image with
      | some image => return (drawImage canvas image rect, cache)
      | none => ⟨(canvas, cache), [.missingImage name]⟩
  | .text text rect size color align =>
      match font with
      | none => .plain (canvas, cache)
      | some font =>
          .plain (drawText narrow (font.inSize sameSize (narrow size)) canvas text rect color
            align, cache)

/-- Commands on the canvas, from back to front. -/
def drawAll (files : Files) (font : Option (Font Float32)) :
    List (DrawCommand Float) → Image → ImageCache → Noted (Image × ImageCache)
  | [], canvas, cache => .plain (canvas, cache)
  | command :: rest, canvas, cache => do
      let (canvas, cache) ← draw files font canvas cache command
      drawAll files font rest canvas cache

end Canvas

/-- The picture of a display list. -/
def DisplayList.rasterize (list : DisplayList Float) (files : Files)
    (font : Option (Font Float32)) (cache : ImageCache) : Noted (Image × ImageCache) :=
  Canvas.drawAll files font list.commands (Canvas.blank list.width list.height) cache

end BootTheme
