import BootTheme.Proofs.Raster.Fills
import BootTheme.Svg.Shape

/-!
# Outlines on pixels and in drawings

On pixels an outline is filled as four strips, and in a drawing it is a line of width one along a
rectangle that is half a pixel smaller on all sides. In exact arithmetic both cover the same
pixels of a rectangle of whole numbers: its border of one pixel, also where opposite sides are one
or lie next to each other.
-/

namespace BootTheme

/-! ## Painting again and again -/

namespace Image.Painted

variable {first second third : Image} {area other : Nat → Nat → Prop} {pixel : Pixel}

theorem refl (image : Image) (pixel : Pixel) : image.Painted image (fun _ _ => False) pixel where
  width := rfl
  height := rfl
  inside _ _ _ := False.elim
  outside _ _ _ _ := rfl

/-- What is painted twice with a pixel has it where it was painted at all. -/
theorem trans (before : first.Painted second area pixel)
    (after : second.Painted third other pixel) :
    first.Painted third (fun column row => area column row ∨ other column row) pixel where
  width := after.width.trans before.width
  height := after.height.trans before.height
  inside column row there among := by
    have still : second.Holds column row := by rwa [Holds, before.width, before.height]
    -- The last of the two decides where both were painted.
    by_cases again : other column row
    · exact after.inside column row still again
    · rw [after.outside column row still again]
      exact before.inside column row there (among.resolve_right again)
  outside column row there neither := by
    have still : second.Holds column row := by rwa [Holds, before.width, before.height]
    rw [after.outside column row still fun later => neither (.inr later)]
    exact before.outside column row there fun sooner => neither (.inl sooner)

end Image.Painted

namespace Canvas

variable {α : Type} [Scalar α]

/-- Fills with one opaque color paint what any of their rectangles covers. -/
theorem painted_fills (rects : List (Rect α)) {color : Color} (solid : color.alpha = 255)
    (canvas : Image) :
    canvas.Painted (rects.foldl (fun canvas rect => fill canvas rect color) canvas)
      (fun column row => ∃ rect ∈ rects, rect.Covers column row) color.pixel := by
  induction rects generalizing canvas with
  | nil => exact (Image.Painted.refl canvas color.pixel).congr (by simp)
  | cons rect rects ih =>
      exact ((painted_fill rect solid).trans (ih (fill canvas rect color))).congr (by simp)

theorem painted_stroke (canvas : Image) (rect : Rect α) {color : Color}
    (solid : color.alpha = 255) :
    canvas.Painted (stroke canvas rect color)
      (fun column row => ∃ side ∈ rect.sides, side.Covers column row) color.pixel :=
  painted_fills rect.sides solid canvas

end Canvas

/-! ## Rectangles of whole numbers -/

theorem larger_intCast {first second : Int} (notLess : second ≤ first) :
    Scalar.larger (first : Rat) (second : Rat) = first :=
  if_neg (not_lt.2 (Int.cast_le.2 notLess))

/-- A rectangle of whole numbers that holds a pixel. -/
structure Frame where
  x : Int
  y : Int
  width : Int
  height : Int
  wide : 1 ≤ width
  high : 1 ≤ height

namespace Frame

variable (frame : Frame) {column row : Nat}

/-- The rectangle, in exact numbers. -/
def rect : Rect Rat := ⟨frame.x, frame.y, frame.width, frame.height⟩

/-- A pixel of the rectangle. -/
def Holds (column row : Nat) : Prop :=
  (frame.x ≤ column ∧ (column : Int) < frame.x + frame.width) ∧
    frame.y ≤ row ∧ (row : Int) < frame.y + frame.height

/-- A pixel of the rectangle with another pixel of it on every side. -/
def Encloses (column row : Nat) : Prop :=
  (frame.x + 1 ≤ column ∧ (column : Int) < frame.x + frame.width - 1) ∧
    frame.y + 1 ≤ row ∧ (row : Int) < frame.y + frame.height - 1

/-- A pixel of the inner border of the rectangle, one pixel wide. -/
def Border (column row : Nat) : Prop :=
  frame.Holds column row ∧ ¬ frame.Encloses column row

instance (column row : Nat) : Decidable (frame.Border column row) :=
  inferInstanceAs (Decidable (((_ ∧ _) ∧ _ ∧ _) ∧ ¬ ((_ ∧ _) ∧ _ ∧ _)))

/-- The strips of an outline. -/
theorem sides_rect :
    frame.rect.sides =
      [⟨frame.x, frame.y, frame.width, (1 : Int)⟩,
        ⟨frame.x, (frame.y + frame.height - 1 : Int), frame.width, (1 : Int)⟩,
        ⟨frame.x, frame.y, (1 : Int), frame.height⟩,
        ⟨(frame.x + frame.width - 1 : Int), frame.y, (1 : Int), frame.height⟩] := by
  have wide := frame.wide
  have high := frame.high
  have one : (Scalar.ofNat 1 : Rat) = (1 : Int) := rfl
  have round (edge : Int) : Scalar.round (edge : Rat) = edge :=
    congrArg Int.cast (nearestInt_intCast edge)
  have last (origin size : Int) :
      Scalar.round ((origin : Rat) + size) - (1 : Int) = ((origin + size - 1 : Int) : Rat) := by
    rw [← Int.cast_add, round, ← Int.cast_sub]
  have length (origin size : Int) :
      ((origin + size - 1 : Int) : Rat) - origin + (1 : Int) = size := by
    rw [← Int.cast_sub, ← Int.cast_add]
    congr 1
    omega
  unfold Rect.sides
  rw [one, Rect.right, Rect.bottom, rect]
  dsimp only
  rw [round, round, last, last, length, length, larger_intCast (by omega),
    larger_intCast (by omega), larger_intCast (by omega), larger_intCast (by omega)]

theorem exists_side_iff :
    (∃ side ∈ frame.rect.sides, side.Covers column row) ↔ frame.Border column row := by
  have wide := frame.wide
  have high := frame.high
  rw [sides_rect]
  simp only [List.mem_cons, List.not_mem_nil, or_false, exists_eq_or_imp, exists_eq_left,
    Rect.covers_whole_iff]
  unfold Border Holds Encloses
  omega

end Frame

/-! ## Lines of width one -/

/-- A point on the perimeter of a rectangle. A side without length leaves a segment or a point. -/
def Rect.OnPerimeter (rect : Rect Rat) (x y : ℝ) : Prop :=
  ((rect.x ≤ x ∧ x ≤ rect.x + rect.width) ∧ rect.y ≤ y ∧ y ≤ rect.y + rect.height) ∧
    ((x = rect.x ∨ x = rect.x + rect.width) ∨ y = rect.y ∨ y = rect.y + rect.height)

/-- A point of the line of width one along the perimeter, with square corners. -/
def Rect.OnLine (rect : Rect Rat) (x y : ℝ) : Prop :=
  ∃ nearX nearY, rect.OnPerimeter nearX nearY ∧ |x - nearX| ≤ 1 / 2 ∧ |y - nearY| ≤ 1 / 2

/-- A pixel whose interior lies on the line. -/
def Rect.LineCovers (rect : Rect Rat) (column row : Nat) : Prop :=
  ∀ x y : ℝ, column < x → x < column + 1 → row < y → y < row + 1 → rect.OnLine x y

/-- The line covers the pixels with their middle on the perimeter. -/
theorem Rect.lineCovers_of_middle {rect : Rect Rat} {column row : Nat}
    (middle : rect.OnPerimeter (column + 1 / 2) (row + 1 / 2)) : rect.LineCovers column row := by
  intro x y left right above below
  refine ⟨_, _, middle, ?_, ?_⟩
  · rw [abs_le]
    constructor <;> linarith
  · rw [abs_le]
    constructor <;> linarith

namespace Frame

variable (frame : Frame) {column row : Nat}

/-- The line of an outline runs along the middle of the outermost pixels. -/
theorem outlinePath_rect :
    Shape.outlinePath frame.rect =
      ⟨frame.x + 1 / 2, frame.y + 1 / 2, frame.width - 1, frame.height - 1⟩ := by
  have wide := frame.wide
  have high := frame.high
  have shrunk {size : Int} (positive : 1 ≤ size) :
      Scalar.larger ((size : Rat) - Scalar.ofNat 1) (Scalar.ofNat 0) = size - 1 := by
    have whole : (size : Rat) - Scalar.ofNat 1 = ((size - 1 : Int) : Rat) := by
      push_cast
      rfl
    have none : (Scalar.ofNat 0 : Rat) = (0 : Int) := rfl
    rw [whole, none, larger_intCast (by omega)]
    push_cast
    rfl
  have half : (Scalar.half : Rat) = 1 / 2 := by decide +kernel
  unfold Shape.outlinePath rect
  dsimp only
  rw [shrunk wide, shrunk high, half]

/-- The perimeter along which the line runs, from the middle of the first pixels to the middle of
the last ones. -/
theorem onPerimeter_iff (x y : ℝ) :
    (Shape.outlinePath frame.rect).OnPerimeter x y ↔
      ((frame.x + 1 / 2 ≤ x ∧ x ≤ (frame.x + frame.width - 1 : Int) + 1 / 2) ∧
        frame.y + 1 / 2 ≤ y ∧ y ≤ (frame.y + frame.height - 1 : Int) + 1 / 2) ∧
      ((x = frame.x + 1 / 2 ∨ x = (frame.x + frame.width - 1 : Int) + 1 / 2) ∨
        y = frame.y + 1 / 2 ∨ y = (frame.y + frame.height - 1 : Int) + 1 / 2) := by
  have first (edge : Int) : (((edge : Rat) + 1 / 2 : Rat) : ℝ) = edge + 1 / 2 := by push_cast; rfl
  have last (origin size : Int) : (origin + 1 / 2 : ℝ) + ((size - 1 : Rat) : ℝ) =
      (origin + size - 1 : Int) + 1 / 2 := by
    push_cast
    ring
  rw [outlinePath_rect, Rect.OnPerimeter]
  dsimp only
  rw [first, first, last, last]

theorem middle_onPerimeter_iff :
    (Shape.outlinePath frame.rect).OnPerimeter (column + 1 / 2) (row + 1 / 2) ↔
      frame.Border column row := by
  have wide := frame.wide
  have high := frame.high
  rw [onPerimeter_iff]
  simp only [add_le_add_iff_right, add_left_inj]
  norm_cast
  unfold Border Holds Encloses
  omega

/-- Half a pixel does not bring the middle of a pixel across the middle of another. -/
theorem middle_near {edge : Int} {place : Nat} {point : ℝ}
    (near : |(place + 1 / 2 : ℝ) - point| ≤ 1 / 2) :
    ((edge + 1 / 2 : ℝ) ≤ point → (edge + 1 / 2 : ℝ) ≤ place + 1 / 2) ∧
      (point ≤ edge + 1 / 2 → (place + 1 / 2 : ℝ) ≤ edge + 1 / 2) ∧
      (point = edge + 1 / 2 → (place + 1 / 2 : ℝ) = edge + 1 / 2) := by
  obtain ⟨low, high⟩ := abs_le.1 near
  have above (least : (edge + 1 / 2 : ℝ) ≤ point) : (edge + 1 / 2 : ℝ) ≤ place + 1 / 2 := by
    have less : (edge : ℝ) < place + 1 := by linarith
    have whole : edge ≤ place := by
      norm_cast at less
      omega
    rw [add_le_add_iff_right]
    exact_mod_cast whole
  have below (most : point ≤ edge + 1 / 2) : (place + 1 / 2 : ℝ) ≤ edge + 1 / 2 := by
    have less : (place : ℝ) < edge + 1 := by linarith
    have whole : (place : Int) ≤ edge := by
      norm_cast at less
      omega
    rw [add_le_add_iff_right]
    exact_mod_cast whole
  exact ⟨above, below, fun same => le_antisymm (below same.le) (above same.ge)⟩

/-- The line covers the pixels of the border. -/
theorem lineCovers_iff :
    (Shape.outlinePath frame.rect).LineCovers column row ↔ frame.Border column row := by
  rw [← middle_onPerimeter_iff]
  refine ⟨fun covers => ?_, Rect.lineCovers_of_middle⟩
  -- The middle of the pixel lies on the line, and then it lies on the perimeter itself.
  obtain ⟨x, y, onPerimeter, nearX, nearY⟩ := covers (column + 1 / 2) (row + 1 / 2)
    (by linarith) (by linarith) (by linarith) (by linarith)
  rw [onPerimeter_iff] at onPerimeter ⊢
  obtain ⟨⟨⟨left, right⟩, top, bottom⟩, side⟩ := onPerimeter
  refine ⟨⟨⟨(middle_near nearX).1 left, (middle_near nearX).2.1 right⟩,
    (middle_near nearY).1 top, (middle_near nearY).2.1 bottom⟩, ?_⟩
  exact side.imp (Or.imp (middle_near nearX).2.2 (middle_near nearX).2.2)
    (Or.imp (middle_near nearY).2.2 (middle_near nearY).2.2)

end Frame

/-- The outline of a rectangle of whole numbers paints on a canvas the pixels that the line of the
shape in a drawing covers. They are the border of the rectangle, one pixel wide. -/
theorem outlines_cover_same_pixels (canvas : Image) (frame : Frame) (color : Color)
    (solid : color.alpha = 255) (files : Files) (embed : Bool) (cache : ImageCache) :
    ∃ path : Rect Rat,
      Shape.ofCommand files embed cache (.stroke frame.rect color) =
        .plain (some (.outlined path color), cache) ∧
      canvas.Painted (Canvas.stroke canvas frame.rect color) path.LineCovers color.pixel ∧
      ∀ column row, path.LineCovers column row ↔ frame.Border column row := by
  refine ⟨Shape.outlinePath frame.rect, rfl, ?_, fun _ _ => frame.lineCovers_iff⟩
  refine (Canvas.painted_stroke canvas frame.rect solid).congr fun column row => ?_
  rw [frame.exists_side_iff, frame.lineCovers_iff]

/-- Three by two pixels, the first column outside the canvas. -/
def lowFrame : Frame where
  x := -1
  y := 1
  width := 3
  height := 2
  wide := by decide
  high := by decide

/-- Upper and lower side lie next to each other. -/
theorem lowFrame_is_outlined :
    (Color.rgb 1 2 3).alpha = 255 ∧
      (Canvas.stroke (Canvas.blank 4 4) lowFrame.rect (.rgb 1 2 3)).pixel 0 2 = ⟨1, 2, 3, 255⟩ ∧
      (Canvas.stroke (Canvas.blank 4 4) lowFrame.rect (.rgb 1 2 3)).pixel 2 1 = .black := by
  obtain ⟨path, -, painted, border⟩ := outlines_cover_same_pixels (Canvas.blank 4 4) lowFrame
    (.rgb 1 2 3) rfl Disk.empty.still false ⟨"", .empty⟩
  refine ⟨rfl, ?_, ?_⟩
  · exact painted.inside 0 2 ⟨by decide, by decide⟩ ((border 0 2).2 (by decide))
  · exact painted.outside 2 1 ⟨by decide, by decide⟩ ((border 2 1).not.2 (by decide))

end BootTheme
