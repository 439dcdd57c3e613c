import Mathlib.Tactic.Ring
import BootTheme.Raster.Canvas
import BootTheme.Svg.Shape

/-!
# How far the pen travels

A line of text is the run of a pen: every character that is not a control character is drawn
where the pen stands and moves it on. In exact arithmetic the pen travels just as far as the line
was measured to be wide, so it starts, stops or has its middle where the alignment says, and this
is where the line is anchored in a drawing.
-/

namespace BootTheme

/-! ## The run of a pen -/

/-- A canvas, and where the pen that writes on it stands. -/
structure Writing (β : Type) where
  canvas : Image
  pen : β

namespace Writing

variable {β : Type} [Scalar β]

/-- Writes a character with its picture on a baseline. A control character is passed over. -/
def write (font : FontSize β) (baseline : β) (color : Color) (state : Writing β) (char : Char) :
    Writing β :=
  if isControl char then state
  else
    let glyph := font.glyph (Scalar.ofNat 0) char
    { canvas := Canvas.drawGlyph state.canvas (TextLine.glyphLeft state.pen glyph)
        (TextLine.glyphTop baseline glyph) glyph color
      pen := state.pen + glyph.advance }

/-- Pictures that are set, drawn where they were set, and the place where the pen ended. -/
def ofSet (baseline : β) (color : Color) (canvas : Image) :
    List (β × Glyph β) × β → Writing β
  | (placed, last) =>
      { canvas := placed.foldl (fun canvas (pen, glyph) =>
          Canvas.drawGlyph canvas (TextLine.glyphLeft pen glyph) (TextLine.glyphTop baseline glyph)
            glyph color) canvas
        pen := last }

/-- Writing characters is setting those that are visible, and then drawing them. -/
theorem foldl_write (font : FontSize β) (baseline : β) (color : Color) (chars : List Char)
    (state : Writing β) :
    chars.foldl (write font baseline color) state =
      ofSet baseline color state.canvas (TextLine.set state.pen
        ((chars.filter fun char => !isControl char).map (font.glyph (Scalar.ofNat 0)))) := by
  induction chars generalizing state with
  | nil => rfl
  | cons char rest ih =>
      rw [List.foldl_cons, ih]
      cases control : isControl char with
      | true => simp [write, control]
      | false => simp [write, control, TextLine.set, ofSet]

/-- A line of text is what the pen has written when it has passed all characters. -/
theorem foldl_write_text {α : Type} (convert : α → β) (font : FontSize β) (canvas : Image)
    (text : String) (rect : Rect α) (color : Color) (align : Align) (start : β)
    (begins : start = TextLine.penStart align (convert rect.x) (convert rect.width)
      (TextLine.width font text)) :
    text.toList.foldl (write font (convert rect.y + font.ascent) color) ⟨canvas, start⟩ =
      { canvas := Canvas.drawText convert font canvas text rect color align
        pen := (TextLine.set start (TextLine.glyphs font text)).2 } := by
  rw [foldl_write, begins]
  rfl

end Writing

/-! ## Exact arithmetic -/

namespace TextLine

variable (glyphs : List (Glyph ℚ)) (start : ℚ)

theorem foldl_advance :
    glyphs.foldl (fun total glyph => total + glyph.advance) start =
      start + (glyphs.map Glyph.advance).sum := by
  induction glyphs generalizing start with
  | nil => simp
  | cons glyph rest ih => simp [ih, add_assoc]

theorem set_advance : (set start glyphs).2 = start + (glyphs.map Glyph.advance).sum := by
  induction glyphs generalizing start with
  | nil => simp [set]
  | cons glyph rest ih => simp [set, ih, add_assoc]

/-- A line is as wide as its visible characters move the pen. -/
theorem width_eq_sum (font : FontSize ℚ) (text : String) :
    width font text =
      ((visible text).map fun char => (font.glyph (Scalar.ofNat 0) char).advance).sum := by
  have total := foldl_advance (TextLine.glyphs font text) (Scalar.ofNat 0)
  rw [width, total, TextLine.glyphs, List.map_map]
  exact zero_add _

/-- From any start the pen travels the width of the line. -/
theorem set_glyphs (font : FontSize ℚ) (text : String) :
    (set start (TextLine.glyphs font text)).2 = start + width font text := by
  rw [set_advance, width_eq_sum, TextLine.glyphs, List.map_map]
  rfl

end TextLine

/-- Where a pen that travels from `start` to `stop` meets a rectangle with some alignment, and
the anchor of its line. -/
def Align.Meets (align : Align) (rect : Rect ℚ) (start stop anchor : ℚ) : Prop :=
  match align with
  | left => start = rect.x ∧ anchor = start
  | center => start - rect.x = rect.right - stop ∧ anchor = (start + stop) / 2
  | right => stop = rect.right ∧ anchor = stop

/-- A pen that starts for the width of its line meets the rectangle, and so does the anchor of a
drawing. The line may be wider than the rectangle. -/
theorem Align.meets_penStart (align : Align) (rect : Rect ℚ) (width : ℚ) :
    align.Meets rect (TextLine.penStart align rect.x rect.width width)
      (TextLine.penStart align rect.x rect.width width + width) (Shape.anchor rect align) := by
  have two : (Scalar.ofNat 2 : ℚ) = 2 := rfl
  cases align with
  | left => exact ⟨rfl, rfl⟩
  | center =>
      constructor
      · simp only [TextLine.penStart, Rect.right, two]
        ring
      · simp only [TextLine.penStart, Shape.anchor, two]
        ring
  | right =>
      constructor
      · simp only [TextLine.penStart, Rect.right]
        ring
      · simp only [TextLine.penStart, Shape.anchor, Rect.right]
        ring

/-- A line of text is written by a pen that passes all characters. When the last one is written,
the pen has travelled the measured width of the line, which is the sum of the advances of the
visible characters. So it starts at the left edge of the rectangle, stops at the right edge, or
leaves the same gap on both sides, and its start, its stop or the middle between them is where
the shape of the same command is anchored. -/
theorem pen_meets_alignment (font : FontSize ℚ) (canvas : Image) (text : String) (rect : Rect ℚ)
    (size : ℚ) (color : Color) (align : Align) (files : Files) (embed : Bool)
    (cache : ImageCache) :
    ∃ start stop anchor : ℚ,
      text.toList.foldl (Writing.write font (rect.y + font.ascent) color) ⟨canvas, start⟩ =
        ⟨Canvas.drawText id font canvas text rect color align, stop⟩ ∧
      stop - start = TextLine.width font text ∧
      TextLine.width font text =
        ((TextLine.visible text).map fun char => (font.glyph 0 char).advance).sum ∧
      Shape.ofCommand files embed cache (.text text rect size color align) =
        .plain (some (.line text anchor rect.y size color align), cache) ∧
      align.Meets rect start stop anchor := by
  let start := TextLine.penStart align rect.x rect.width (TextLine.width font text)
  refine ⟨start, start + TextLine.width font text, Shape.anchor rect align, ?_, ?_, ?_, rfl, ?_⟩
  · rw [← TextLine.set_glyphs]
    exact Writing.foldl_write_text id font canvas text rect color align start rfl
  · exact add_sub_cancel_left _ _
  · exact TextLine.width_eq_sum font text
  · exact align.meets_penStart rect _

end BootTheme
