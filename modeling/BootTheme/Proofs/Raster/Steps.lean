import BootTheme.Proofs.Paint.Answers
import BootTheme.Proofs.Raster.Pixels

/-!
# Drawing step by step

Text is drawn point by point, and a point changes its pixel only. What the commands of a list
draw depends on the cache only through the images that it knows when all have been asked
for, so they are steps from canvas to canvas.
-/

namespace BootTheme

/-! ## Text in points -/

/-- A point of a picture of a character on the canvas. -/
structure Dot where
  x : Int32
  y : Int32
  coverage : UInt8

/-- The points of a picture of a character. -/
def Glyph.dots {β : Type} (glyph : Glyph β) (left top : Int32) : List Dot :=
  (List.range (glyph.width * glyph.height)).map fun place =>
    ⟨left + Int32.ofNat (place % glyph.width), top + Int32.ofNat (place / glyph.width),
      glyph.coverage[place]?.getD 0⟩

namespace Canvas

variable {α β : Type} [Scalar α] [Scalar β] {canvas : Image} {column row : Nat}

/-- The points of a line of text. -/
def textDots (convert : α → β) (font : FontSize β) (text : String) (rect : Rect α)
    (align : Align) : List Dot :=
  let start := TextLine.penStart align (convert rect.x) (convert rect.width)
    (TextLine.width font text)
  let baseline := convert rect.y + font.ascent
  (TextLine.set start (TextLine.glyphs font text)).1.flatMap fun (pen, glyph) =>
    glyph.dots (TextLine.glyphLeft pen glyph) (TextLine.glyphTop baseline glyph)

omit [Scalar α] in
/-- Text is drawn point by point. -/
theorem drawText_eq_dots (convert : α → β) (font : FontSize β) (canvas : Image) (text : String)
    (rect : Rect α) (color : Color) (align : Align) :
    drawText convert font canvas text rect color align =
      (textDots convert font text rect align).foldl
        (fun canvas point => dot canvas point.x point.y color point.coverage) canvas := by
  unfold drawText textDots
  dsimp only
  rw [List.foldl_flatMap]
  simp only [Glyph.dots, List.foldl_map]
  rfl

theorem pixel_dot (x y : Int32) (color : Color) (coverage : UInt8)
    (there : canvas.Holds column row) :
    (dot canvas x y color coverage).pixel column row =
      if x.toInt = column ∧ y.toInt = row then tint color coverage (canvas.pixel column row)
      else canvas.pixel column row := by
  obtain ⟨inWidth, inHeight⟩ := there
  unfold dot
  split
  · next inside =>
      rw [Image.pixel_update _ ⟨inWidth, inHeight⟩]
      exact if_congr (by omega) rfl rfl
  · next outside => rw [if_neg (by omega)]

/-! ## Commands with known images -/

/-- A command on the canvas, its image as it is known. -/
def drawKnown (images : String → Option Image) (font : Option (Font Float32)) (canvas : Image) :
    DrawCommand Float → Image
  | .fill rect color => fill canvas rect color
  | .stroke rect color => stroke canvas rect color
  | .image name rect =>
      match images name with
      | some image => drawImage canvas image rect
      | none => canvas
  | .text text rect size color align =>
      match font with
      | none => canvas
      | some font =>
          drawText narrow (font.inSize sameSize (narrow size)) canvas text rect color align

/-- The cache when the images of all commands have been asked for. -/
def lastCache (files : Files) (commands : List (DrawCommand Float)) (cache : ImageCache) :
    ImageCache :=
  (ImageCache.askAll files (commands.filterMap DrawCommand.imageName?) cache).value

/-- A command is drawn with the image that the cache knows when those of all later commands have
been asked for as well. -/
theorem value_draw (files : Files) (font : Option (Font Float32)) (canvas : Image)
    (cache : ImageCache) (command : DrawCommand Float) (rest : List (DrawCommand Float)) :
    ∃ next, lastCache files rest next = lastCache files (command :: rest) cache ∧
      (draw files font canvas cache command).value =
        (drawKnown (lastCache files (command :: rest) cache).answer font canvas command, next) := by
  cases command with
  | fill rect color => exact ⟨cache, rfl, rfl⟩
  | stroke rect color => exact ⟨cache, rfl, rfl⟩
  | text text rect size color align =>
      refine ⟨cache, rfl, ?_⟩
      cases font with
      | none => rfl
      | some font => rfl
  | image name rect =>
      have known : (lastCache files (.image name rect :: rest) cache).answer name =
          (cache.get files name).value.1 :=
        ImageCache.answer_askAll_get files (rest.filterMap DrawCommand.imageName?) cache name
      refine ⟨(cache.get files name).value.2, rfl, ?_⟩
      rw [draw, Noted.bind_value, drawKnown, known]
      obtain ⟨found, after⟩ := (cache.get files name).value
      cases found with
      | none => rfl
      | some image => rfl

/-- Commands are drawn with the images that the cache knows in the end. -/
theorem value_drawAll (files : Files) (font : Option (Font Float32))
    (commands : List (DrawCommand Float)) (canvas : Image) (cache : ImageCache) :
    (drawAll files font commands canvas cache).value =
      (commands.foldl (drawKnown (lastCache files commands cache).answer font) canvas,
        lastCache files commands cache) := by
  induction commands generalizing canvas cache with
  | nil => rfl
  | cons command rest ih =>
      obtain ⟨next, same, drawn⟩ := value_draw files font canvas cache command rest
      rw [drawAll, Noted.bind_value, drawn]
      dsimp only
      rw [ih, same]
      rfl

end Canvas

end BootTheme
