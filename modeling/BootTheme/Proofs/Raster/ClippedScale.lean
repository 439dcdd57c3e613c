import BootTheme.Proofs.Raster.Coverage

/-!
# How an image is scaled at the border of the canvas

Of an image that lies partly outside the canvas only whole source pixels are taken, as few as
hold the visible part, and these are stretched over all visible pixels. So every visible pixel
shows a place of the source that is less than one source pixel away from the place it would show
on a canvas that holds the whole image. It is the same place if the visible part starts and ends
between two source pixels. All of this is exact arithmetic.
-/

namespace BootTheme

/-- Where the source holds the range, neither of its bounds cuts it. -/
theorem sourceSpan_of_within {start stop scale : Rat} {limit : Nat} (low : 0 ≤ start * scale)
    (less : start * scale < stop * scale) (high : stop * scale ≤ limit) :
    sourceSpan start stop scale limit =
      ((start * scale).floor.toNat, (stop * scale).ceil.toNat) := by
  have firstLow : 0 ≤ (start * scale).floor := Rat.le_floor_iff.2 (by exact_mod_cast low)
  have lastHigh : (stop * scale).ceil ≤ limit := Rat.ceil_le_iff.2 (by exact_mod_cast high)
  have ordered : (start * scale).floor < (stop * scale).ceil :=
    Rat.lt_ceil_iff.2 ((Rat.floor_le _).trans_lt less)
  change (((Whole.int (start * scale).floor).saturate 0 (limit - 1 : Nat)).toNat,
    max (((Whole.int (start * scale).floor).saturate 0 (limit - 1 : Nat)).toNat + 1)
      ((Whole.int (stop * scale).ceil).saturate 0 limit).toNat) = _
  rw [Whole.saturate, Whole.saturate, Prod.mk.injEq]
  omega

/-- Where the source holds the range, as few pixels are taken as cover it. -/
theorem sourceSpan_around {start stop scale : Rat} {limit : Nat} (low : 0 ≤ start * scale)
    (less : start * scale < stop * scale) (high : stop * scale ≤ limit) :
    (((sourceSpan start stop scale limit).1 : Rat) ≤ start * scale ∧
      start * scale < (sourceSpan start stop scale limit).1 + 1) ∧
    stop * scale ≤ (sourceSpan start stop scale limit).2 ∧
      ((sourceSpan start stop scale limit).2 : Rat) < stop * scale + 1 := by
  have first : ((start * scale).floor.toNat : Rat) = (start * scale).floor := by
    exact_mod_cast Int.toNat_of_nonneg (Rat.le_floor_iff.2 (by exact_mod_cast low))
  have last : ((stop * scale).ceil.toNat : Rat) = (stop * scale).ceil := by
    have positive : (0 : Int) < (stop * scale).ceil :=
      Rat.lt_ceil_iff.2 (by exact_mod_cast low.trans_lt less)
    exact_mod_cast Int.toNat_of_nonneg positive.le
  rw [sourceSpan_of_within low less high]
  dsimp only
  rw [first, last]
  exact ⟨⟨Rat.floor_le _, by exact_mod_cast Rat.lt_floor_add_one _⟩, Rat.le_ceil, Rat.ceil_lt⟩

/-- A side of an image that is drawn: the number of its pixels, the place of the canvas where it
starts, the length to which it is stretched, and its places on the canvas, from `first` on and
before `last`. -/
structure ImageAxis where
  pixels : Nat
  origin : Int
  length : Nat
  first : Nat
  last : Nat
  somePixels : 0 < pixels
  someLength : 0 < length
  visible : first < last
  starts : origin ≤ first
  stops : (last : Int) ≤ origin + length

namespace ImageAxis

variable (axis : ImageAxis)

/-- Where in the source a point of the whole image lies. -/
def source (point : Rat) : Rat := (point - axis.origin) * axis.pixels / axis.length

/-- The source pixels that are taken. -/
def span : Nat × Nat :=
  sourceSpan (axis.first - axis.origin : Rat) (axis.last - axis.origin)
    (axis.pixels / axis.length) axis.pixels

/-- The point of the source in the middle of a visible pixel, when the source pixels that are
taken are stretched over all visible pixels. -/
def shown (place : Nat) : Rat :=
  axis.span.1 + (place + 1 / 2 - axis.first) * (axis.span.2 - axis.span.1) /
    (axis.last - axis.first)

/-- The visible part starts and ends between two source pixels. -/
def Aligned : Prop :=
  (axis.length : Int) ∣ (axis.first - axis.origin) * axis.pixels ∧
    (axis.length : Int) ∣ (axis.last - axis.origin) * axis.pixels

theorem length_pos : (0 : Rat) < axis.length := by exact_mod_cast axis.someLength

theorem pixels_pos : (0 : Rat) < axis.pixels := by exact_mod_cast axis.somePixels

theorem visible_pos : (0 : Rat) < axis.last - axis.first := by
  rw [sub_pos]
  exact_mod_cast axis.visible

/-- The visible part of the source lies within the source. -/
theorem source_within :
    0 ≤ axis.source axis.first ∧ axis.source axis.first < axis.source axis.last ∧
      axis.source axis.last ≤ axis.pixels := by
  have positive := axis.length_pos
  have pixels := axis.pixels_pos
  have starts : (axis.origin : Rat) ≤ axis.first := by exact_mod_cast axis.starts
  have stops : (axis.last : Rat) ≤ axis.origin + axis.length := by exact_mod_cast axis.stops
  unfold source
  refine ⟨?_, ?_, ?_⟩
  · exact div_nonneg (mul_nonneg (sub_nonneg.2 starts) pixels.le) positive.le
  · gcongr
    exact axis.visible
  · rw [div_le_iff₀ positive, mul_comm (axis.pixels : Rat)]
    gcongr
    linarith

/-- A place of the canvas in the source, as the span computes it. -/
theorem offset_mul_scale (place : Nat) :
    ((place : Rat) - axis.origin) * (axis.pixels / axis.length) = axis.source place :=
  (mul_div_assoc _ _ _).symm

theorem span_eq :
    axis.span = ((axis.source axis.first).floor.toNat, (axis.source axis.last).ceil.toNat) := by
  obtain ⟨low, less, high⟩ := axis.source_within
  rw [← offset_mul_scale] at low high
  rw [← offset_mul_scale axis axis.first, ← offset_mul_scale axis axis.last] at less ⊢
  exact sourceSpan_of_within low less high

/-- The source pixels that are taken are the least range that holds the visible part. -/
theorem span_spec :
    ((axis.span.1 : Rat) ≤ axis.source axis.first ∧
      axis.source axis.first < axis.span.1 + 1) ∧
    (axis.source axis.last ≤ axis.span.2 ∧ (axis.span.2 : Rat) < axis.source axis.last + 1) := by
  obtain ⟨low, less, high⟩ := axis.source_within
  rw [← offset_mul_scale] at low high
  rw [← offset_mul_scale axis axis.first, ← offset_mul_scale axis axis.last] at less ⊢
  exact sourceSpan_around low less high

/-- How far between the ends of the visible part the middle of a pixel lies. -/
def share (place : Nat) : Rat := (place + 1 / 2 - axis.first) / (axis.last - axis.first)

theorem share_within {place : Nat} (low : axis.first ≤ place) (high : place < axis.last) :
    0 < axis.share place ∧ axis.share place < 1 := by
  have positive := axis.visible_pos
  have least : (axis.first : Rat) ≤ place := by exact_mod_cast low
  have most : (place : Rat) + 1 ≤ axis.last := by exact_mod_cast high
  unfold share
  constructor
  · apply div_pos _ positive
    linarith
  · rw [div_lt_one positive]
    linarith

/-- What is shown of the source is off by the two ends of the range, each by the share of the
other end. -/
theorem shown_sub_source (place : Nat) :
    axis.shown place - axis.source (place + 1 / 2) =
      (axis.span.1 - axis.source axis.first) * (1 - axis.share place) +
        (axis.span.2 - axis.source axis.last) * axis.share place := by
  have length := axis.length_pos.ne'
  have visible := axis.visible_pos.ne'
  unfold shown source share
  field_simp
  ring

/-- What is shown is less than a source pixel off. -/
theorem shown_near {place : Nat} (low : axis.first ≤ place) (high : place < axis.last) :
    |axis.shown place - axis.source (place + 1 / 2)| < 1 := by
  obtain ⟨⟨first, firstNear⟩, last, lastNear⟩ := axis.span_spec
  obtain ⟨positive, less⟩ := axis.share_within low high
  rw [shown_sub_source, abs_lt]
  constructor
  · nlinarith
  · nlinarith

/-- A place between two source pixels. -/
theorem dvd_iff_source (place : Nat) :
    (axis.length : Int) ∣ (place - axis.origin) * axis.pixels ↔
      ∃ whole : Int, axis.source place = whole := by
  have positive := axis.length_pos.ne'
  unfold source
  constructor
  · rintro ⟨whole, product⟩
    refine ⟨whole, ?_⟩
    rw [div_eq_iff positive, mul_comm (whole : Rat)]
    exact_mod_cast product
  · rintro ⟨whole, quotient⟩
    refine ⟨whole, ?_⟩
    rw [div_eq_iff positive, mul_comm (whole : Rat)] at quotient
    exact_mod_cast quotient

theorem aligned_iff :
    axis.Aligned ↔ axis.span.1 = axis.source axis.first ∧ axis.span.2 = axis.source axis.last := by
  obtain ⟨⟨first, firstNear⟩, last, lastNear⟩ := axis.span_spec
  rw [Aligned, dvd_iff_source, dvd_iff_source]
  constructor
  · rintro ⟨⟨low, lowEq⟩, high, highEq⟩
    rw [lowEq] at first firstNear ⊢
    rw [highEq] at last lastNear ⊢
    norm_cast at first firstNear last lastNear ⊢
    omega
  · rintro ⟨lowEq, highEq⟩
    exact ⟨⟨axis.span.1, by rw [← lowEq, Int.cast_natCast]⟩,
      axis.span.2, by rw [← highEq, Int.cast_natCast]⟩

/-- An image that is not cut along an axis ends where its source ends. -/
theorem aligned_of_whole (starts : axis.first = axis.origin)
    (stops : axis.last = axis.origin + axis.length) : axis.Aligned := by
  unfold Aligned
  rw [starts, stops, sub_self, zero_mul, add_sub_cancel_left]
  exact ⟨dvd_zero _, dvd_mul_right _ _⟩

/-- A visible part that starts and ends between two source pixels is shown as it is. -/
theorem shown_eq (aligned : axis.Aligned) (place : Nat) :
    axis.shown place = axis.source (place + 1 / 2) := by
  obtain ⟨first, last⟩ := axis.aligned_iff.1 aligned
  rw [← sub_eq_zero, shown_sub_source, first, last]
  ring

/-- No other visible part of two or more pixels is shown as it is. -/
theorem aligned_of_shown (several : axis.first + 2 ≤ axis.last)
    (same : ∀ place, axis.first ≤ place → place < axis.last →
      axis.shown place = axis.source (place + 1 / 2)) : axis.Aligned := by
  have positive := axis.visible_pos
  have balance (place : Nat) (low : axis.first ≤ place) (high : place < axis.last) :
      (axis.span.1 - axis.source axis.first) * (axis.last - place - 1 / 2) +
        (axis.span.2 - axis.source axis.last) * (place + 1 / 2 - axis.first) = 0 := by
    have equal := axis.shown_sub_source place
    rw [same place low high, sub_self] at equal
    unfold share at equal
    field_simp at equal
    linarith
  have atFirst := balance axis.first le_rfl axis.visible
  have atNext := balance (axis.first + 1) (Nat.le_succ _) (by omega)
  push_cast at atNext
  -- The two balances differ by the difference of the two ends, so both ends are off by as much.
  have equal : axis.span.1 - axis.source axis.first = axis.span.2 - axis.source axis.last := by
    linarith
  rw [← equal, ← mul_add] at atFirst
  have none : axis.span.1 - axis.source axis.first = 0 := by
    refine (mul_eq_zero.1 atFirst).resolve_right ?_
    linarith
  rw [none] at equal
  exact axis.aligned_iff.2 ⟨sub_eq_zero.1 none, sub_eq_zero.1 equal.symm⟩

/-- An axis that is not stretched takes the source pixels at its visible places. -/
theorem span_natural (natural : axis.length = axis.pixels) :
    axis.span = ((axis.first - axis.origin).toNat, (axis.last - axis.origin).toNat) := by
  have source (place : Nat) : axis.source place = ((place - axis.origin : Int) : Rat) := by
    have positive := axis.pixels_pos.ne'
    unfold ImageAxis.source
    rw [natural, mul_div_cancel_right₀ _ positive]
    push_cast
    rfl
  rw [span_eq, source, source, Rat.floor_intCast, Rat.ceil_intCast]

/-- What becomes of the scale of an axis: the least range of whole source pixels that holds the
visible part is stretched over it, so that the source is shown less than a pixel off. -/
structure KeepsScale : Prop where
  least : ((axis.span.1 : Rat) ≤ axis.source axis.first ∧
      axis.source axis.first < axis.span.1 + 1) ∧
    axis.source axis.last ≤ axis.span.2 ∧ (axis.span.2 : Rat) < axis.source axis.last + 1
  near : ∀ place, axis.first ≤ place → place < axis.last →
    |axis.shown place - axis.source (place + 1 / 2)| < 1
  aligned : axis.Aligned → ∀ place, axis.first ≤ place → place < axis.last →
    axis.shown place = axis.source (place + 1 / 2)
  uncut : axis.first = axis.origin → axis.last = axis.origin + axis.length → axis.Aligned
  only : axis.first + 2 ≤ axis.last →
    (∀ place, axis.first ≤ place → place < axis.last →
      axis.shown place = axis.source (place + 1 / 2)) → axis.Aligned

theorem keepsScale : axis.KeepsScale where
  least := axis.span_spec
  near _ := axis.shown_near
  aligned aligned place _ _ := axis.shown_eq aligned place
  uncut := axis.aligned_of_whole
  only := axis.aligned_of_shown

end ImageAxis

/-! ## Images on a canvas -/

/-- An image in a rectangle of whole numbers that meets a canvas in an area. -/
structure PlacedImage where
  canvas : Image
  image : Image
  x : Int
  y : Int
  width : Nat
  height : Nat
  area : PixelArea
  someColumns : 0 < image.width
  someRows : 0 < image.height
  wide : 0 < width
  high : 0 < height
  meets : (⟨x, y, width, height⟩ : Rect Rat).clip canvas.width canvas.height = some area

namespace PlacedImage

variable (placed : PlacedImage)

/-- The rectangle of the image. -/
def rect : Rect Rat := ⟨placed.x, placed.y, placed.width, placed.height⟩

theorem rounded_rect : placed.rect.rounded = placed.rect := by
  have whole (value : Int) : Scalar.round (value : Rat) = value := by
    change ((nearestInt value : Int) : Rat) = value
    rw [nearestInt_intCast]
  unfold rect Rect.rounded
  dsimp only
  rw [whole, whole]
  exact congrArg₂ (Rect.mk _ _) (whole placed.width) (whole placed.height)

theorem covers_iff (column row : Nat) :
    placed.rect.Covers column row ↔
      (placed.x ≤ column ∧ (column : Int) < placed.x + placed.width) ∧
        placed.y ≤ row ∧ (row : Int) < placed.y + placed.height := by
  have covers := Rect.covers_whole_iff placed.x placed.y placed.width placed.height column row
  rwa [Int.cast_natCast, Int.cast_natCast] at covers

/-- The area holds what the rectangle covers of the canvas. -/
theorem area_spec :
    (placed.area.left < placed.area.right ∧ placed.area.right ≤ placed.canvas.width) ∧
      (placed.area.top < placed.area.bottom ∧ placed.area.bottom ≤ placed.canvas.height) ∧
      ∀ column < placed.canvas.width, ∀ row < placed.canvas.height,
        placed.rect.Covers column row ↔ placed.area.Contains column row := by
  rcases placed.rect.clip_cases placed.canvas.width placed.canvas.height with
    ⟨clipEq, -⟩ | ⟨area, clipEq, columns, rows, covers⟩
  · rw [rect, placed.meets] at clipEq
    cases clipEq
  · rw [rect, placed.meets] at clipEq
    cases clipEq
    exact ⟨columns, rows, covers⟩

theorem area_within :
    (placed.area.left < placed.area.right ∧ placed.x ≤ placed.area.left ∧
        (placed.area.right : Int) ≤ placed.x + placed.width) ∧
      placed.area.top < placed.area.bottom ∧ placed.y ≤ placed.area.top ∧
        (placed.area.bottom : Int) ≤ placed.y + placed.height := by
  obtain ⟨⟨columns, fitsWidth⟩, ⟨rows, fitsHeight⟩, covers⟩ := placed.area_spec
  have first := (covers placed.area.left (by omega) placed.area.top (by omega)).2
    ⟨⟨le_rfl, columns⟩, le_rfl, rows⟩
  have last := (covers (placed.area.right - 1) (by omega) (placed.area.bottom - 1) (by omega)).2
    ⟨⟨by omega, by omega⟩, by omega, by omega⟩
  rw [covers_iff] at first last
  omega

/-- The columns of the image. -/
def columns : ImageAxis where
  pixels := placed.image.width
  origin := placed.x
  length := placed.width
  first := placed.area.left
  last := placed.area.right
  somePixels := placed.someColumns
  someLength := placed.wide
  visible := placed.area_within.1.1
  starts := placed.area_within.1.2.1
  stops := placed.area_within.1.2.2

/-- The rows of the image. -/
def rows : ImageAxis where
  pixels := placed.image.height
  origin := placed.y
  length := placed.height
  first := placed.area.top
  last := placed.area.bottom
  somePixels := placed.someRows
  someLength := placed.high
  visible := placed.area_within.2.1
  starts := placed.area_within.2.2.1
  stops := placed.area_within.2.2.2

/-- The source pixels that are taken of the image. -/
def part : Image :=
  placed.image.crop placed.columns.span.1 placed.rows.span.1
    (placed.columns.span.2 - placed.columns.span.1) (placed.rows.span.2 - placed.rows.span.1)

end PlacedImage

/-- An image in the given size. -/
def Image.fitted (image : Image) (width height : Nat) : Image :=
  if image.width = width ∧ image.height = height then image else image.resize width height

namespace PlacedImage

variable (placed : PlacedImage)

theorem drawImage_eq :
    Canvas.drawImage placed.canvas placed.image placed.rect =
      Canvas.overlay placed.canvas
        (placed.part.fitted (placed.area.right - placed.area.left)
          (placed.area.bottom - placed.area.top)) placed.area.left placed.area.top := by
  have wide : ¬ (placed.width : Rat) < (1 : Nat) := by
    exact_mod_cast Nat.not_lt.2 placed.wide
  have high : ¬ (placed.height : Rat) < (1 : Nat) := by
    exact_mod_cast Nat.not_lt.2 placed.high
  have notEmpty : placed.rect.isEmpty = false := by
    change (decide ((placed.width : Rat) < (1 : Nat)) ||
      decide ((placed.height : Rat) < (1 : Nat))) = false
    rw [decide_eq_false wide, decide_eq_false high]
    rfl
  have someColumns := placed.someColumns.ne'
  have someRows := placed.someRows.ne'
  have clipped : placed.rect.clip placed.canvas.width placed.canvas.height = some placed.area :=
    placed.meets
  unfold Canvas.drawImage
  dsimp only
  rw [rounded_rect, if_neg (by simp [notEmpty, someColumns, someRows]), clipped]
  rfl

end PlacedImage

/-- A clipped image is drawn from the least range of whole source pixels that holds its visible
part. So along either axis it is shown less than a source pixel off, and not off at all if the
visible part starts and ends between two source pixels; two or more visible pixels are not off
at all only then. -/
theorem clipped_image_keeps_scale (placed : PlacedImage) :
    Canvas.drawImage placed.canvas placed.image placed.rect =
      Canvas.overlay placed.canvas
        (placed.part.fitted (placed.area.right - placed.area.left)
          (placed.area.bottom - placed.area.top)) placed.area.left placed.area.top ∧
      placed.columns.KeepsScale ∧ placed.rows.KeepsScale :=
  ⟨placed.drawImage_eq, placed.columns.keepsScale, placed.rows.keepsScale⟩

/-- Two pixels, red and blue, stretched to three columns of which the first is left of the
canvas. -/
def redBlue : PlacedImage where
  canvas := .plain 2 1 .black
  image := .ofFn 2 1 fun x _ => if x = 0 then ⟨255, 0, 0, 255⟩ else ⟨0, 0, 255, 255⟩
  x := -1
  y := 0
  width := 3
  height := 1
  area := ⟨0, 0, 2, 1⟩
  someColumns := by decide
  someRows := by decide
  wide := by decide
  high := by decide
  meets := by decide +kernel

/-- The first visible column of the whole image shows the middle of the source, and that of the
clipped one the middle of the first source pixel. -/
theorem redBlue_is_shown_off :
    redBlue.columns.span = (0, 2) ∧ redBlue.columns.shown 0 = 1 / 2 ∧
      redBlue.columns.source (0 + 1 / 2) = 1 := by
  decide +kernel

theorem redBlue_is_shown_near :
    |redBlue.columns.shown 0 - redBlue.columns.source (0 + 1 / 2)| < 1 := by
  obtain ⟨-, columns, -⟩ := clipped_image_keeps_scale redBlue
  exact columns.near 0 (by decide) (by decide)

namespace PlacedImage

variable (placed : PlacedImage)

/-- An image of its natural size shows its own pixels wherever it is cut. -/
theorem pixel_of_natural_size (columns : placed.width = placed.image.width)
    (rows : placed.height = placed.image.height) {column row : Nat}
    (there : placed.canvas.Holds column row) :
    (Canvas.drawImage placed.canvas placed.image placed.rect).pixel column row =
      if placed.rect.Covers column row then
        (placed.image.pixel (column - placed.x).toNat (row - placed.y).toNat).atop
          (placed.canvas.pixel column row)
      else placed.canvas.pixel column row := by
  obtain ⟨⟨someColumns, left, right⟩, someRows, top, bottom⟩ := placed.area_within
  have across := placed.columns.span_natural columns
  have down := placed.rows.span_natural rows
  change _ = ((placed.area.left - placed.x).toNat, (placed.area.right - placed.x).toNat) at across
  change _ = ((placed.area.top - placed.y).toNat, (placed.area.bottom - placed.y).toNat) at down
  have width : placed.part.width = placed.area.right - placed.area.left := by
    change placed.columns.span.2 - placed.columns.span.1 = _
    rw [across]
    omega
  have height : placed.part.height = placed.area.bottom - placed.area.top := by
    change placed.rows.span.2 - placed.rows.span.1 = _
    rw [down]
    omega
  have covers := placed.area_spec.2.2 column there.1 row there.2
  rw [drawImage_eq, Image.fitted, if_pos ⟨width, height⟩, Canvas.pixel_overlay _ _ _ there, width,
    height]
  by_cases inside : placed.area.Contains column row
  · obtain ⟨⟨fromLeft, toRight⟩, fromTop, toBottom⟩ := inside
    rw [if_pos (by omega), if_pos (covers.2 ⟨⟨fromLeft, toRight⟩, fromTop, toBottom⟩)]
    have shown : placed.part.pixel (column - placed.area.left) (row - placed.area.top) =
        placed.image.pixel (column - placed.x).toNat (row - placed.y).toNat := by
      rw [part, Image.crop, across, down]
      dsimp only
      rw [Image.pixel_ofFn _ _ _ _ _ (by omega) (by omega)]
      congr 1
      · omega
      · omega
    rw [shown]
  · rw [if_neg (covers.not.2 inside), if_neg]
    unfold PixelArea.Contains at inside
    omega

end PlacedImage

end BootTheme
