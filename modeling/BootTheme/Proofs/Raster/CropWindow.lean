import BootTheme.Proofs.Raster.NaturalSize

/-!
# The window that is cut out of an image

Of a stretched image those source pixels are cut out that hold the visible part. They are brought
to the size of the area that is covered of the canvas and laid over it. The places on the way are
counts of 32 bits. A drawing that is lost as soon as a sum or a difference of counts is no count,
bounds are not in order, what is cut out is empty or not within the source, or a place outside
the canvas is visited, is never lost, whatever doubles the rectangle has. In exact arithmetic the
source pixels are the least range that holds the visible part.
-/

namespace BootTheme

/-! ## Counts of 32 bits -/

namespace Whole

/-- The count nearest to a whole number. An undefined one counts as zero. -/
def toCount (whole : Whole) : UInt32 := UInt32.ofNat (whole.saturate 0 (2 ^ 32 - 1)).toNat

theorem saturate_within (whole : Whole) {least greatest : Int} (ordered : least ≤ greatest) :
    least ≤ whole.saturate least greatest ∧ whole.saturate least greatest ≤ greatest := by
  cases whole <;> simp only [saturate] <;> omega

theorem toNat_toCount (whole : Whole) :
    whole.toCount.toNat = (whole.saturate 0 (2 ^ 32 - 1)).toNat := by
  have within := whole.saturate_within (by decide : (0 : Int) ≤ 2 ^ 32 - 1)
  exact UInt32.toNat_ofNat_of_lt' (by rw [UInt32.size]; omega)

theorem toNat_toCount_of_lt {number : Nat} (small : number < 2 ^ 32) :
    (int number).toCount.toNat = number := by
  rw [toNat_toCount, saturate]
  omega

end Whole

namespace Count

/-- The sum of counts, if it is a count. -/
def add? (first second : UInt32) : Option UInt32 :=
  if first.toNat + second.toNat < 2 ^ 32 then some (first + second) else none

/-- The difference of counts, if it is a count. -/
def sub? (first second : UInt32) : Option UInt32 :=
  if second ≤ first then some (first - second) else none

/-- The lesser of two counts. -/
def lesser (first second : UInt32) : UInt32 := if first ≤ second then first else second

/-- A count brought between two bounds, if these are in order. -/
def clamp? (count least greatest : UInt32) : Option UInt32 :=
  if least ≤ greatest then
    some (if count < least then least else if greatest < count then greatest else count)
  else none

variable {first second least greatest : UInt32}

theorem exists_add? (fits : first.toNat + second.toNat < 2 ^ 32) :
    ∃ sum, add? first second = some sum ∧ sum.toNat = first.toNat + second.toNat := by
  refine ⟨first + second, if_pos fits, ?_⟩
  rw [UInt32.toNat_add, Nat.mod_eq_of_lt fits]

theorem exists_sub? (ordered : second ≤ first) :
    ∃ difference, sub? first second = some difference ∧
      difference.toNat = first.toNat - second.toNat :=
  ⟨first - second, if_pos ordered, UInt32.toNat_sub_of_le first second ordered⟩

theorem toNat_lesser (first second : UInt32) :
    (lesser first second).toNat = min first.toNat second.toNat := by
  unfold lesser
  split
  · next ordered => exact (Nat.min_eq_left ordered).symm
  · next ordered => exact (Nat.min_eq_right (Nat.le_of_not_le ordered)).symm

theorem exists_clamp? (count : UInt32) (ordered : least ≤ greatest) :
    ∃ clamped, clamp? count least greatest = some clamped ∧
      clamped.toNat = min (max count.toNat least.toNat) greatest.toNat := by
  refine ⟨_, if_pos ordered, ?_⟩
  rw [UInt32.le_iff_toNat_le] at ordered
  simp only [UInt32.lt_iff_toNat_lt]
  split
  · next below => omega
  · next notBelow =>
      split
      · next above => omega
      · next notAbove => omega

end Count

/-! ## Source pixels along a side -/

section Side

variable {α : Type} [Scalar α] {limit : UInt32}

/-- The pixels of a side that cover a range of the target, in counts. -/
def sourceSpan? (start stop scale : α) (limit : UInt32) : Option (UInt32 × UInt32) := do
  let greatest ← Count.sub? limit 1
  let first := Count.lesser (Scalar.floor (start * scale)).atLeastZero.toCount greatest
  let least ← Count.add? first 1
  let last ← Count.clamp? (Scalar.ceiling (stop * scale)).toCount least limit
  return (first, last)

/-- What is taken along a side, in counts as in integers: some pixels of the side. -/
structure TakesSpan (start stop scale : α) (limit first last : UInt32) : Prop where
  counts : sourceSpan? start stop scale limit = some (first, last)
  integers : sourceSpan start stop scale limit.toNat = (first.toNat, last.toNat)
  less : first < last
  within : last ≤ limit

/-- The first pixel that is taken is a pixel of the side, also if the range begins at its end. -/
theorem exists_first (begin : Whole) (positive : 1 ≤ limit) :
    ∃ greatest first, Count.sub? limit 1 = some greatest ∧
      Count.lesser begin.atLeastZero.toCount greatest = first ∧
      first.toNat = (begin.saturate 0 (limit.toNat - 1 : Nat)).toNat ∧ first < limit := by
  obtain ⟨greatest, greatestEq, greatestValue⟩ := Count.exists_sub? positive
  refine ⟨greatest, _, greatestEq, rfl, ?_⟩
  rw [UInt32.toNat_one] at greatestValue
  rw [UInt32.le_iff_toNat_le, UInt32.toNat_one] at positive
  rw [UInt32.lt_iff_toNat_lt, Count.toNat_lesser, Whole.toNat_toCount, greatestValue]
  -- A number that is past all counts is past the last pixel, too.
  have small := limit.toNat_lt
  cases begin <;> simp only [Whole.atLeastZero, Whole.saturate] <;> omega

/-- Behind the first pixel there is a bound for the last one. -/
theorem exists_last (finish : Whole) {first : UInt32} (inside : first < limit) :
    ∃ least last, Count.add? first 1 = some least ∧
      Count.clamp? finish.toCount least limit = some last ∧
      last.toNat = max (first.toNat + 1) (finish.saturate 0 limit.toNat).toNat ∧
      first < last ∧ last ≤ limit := by
  have small := limit.toNat_lt
  have bounded := finish.saturate_within (Int.natCast_nonneg limit.toNat)
  rw [UInt32.lt_iff_toNat_lt] at inside
  have fits : first.toNat + (1 : UInt32).toNat < 2 ^ 32 := by
    rw [UInt32.toNat_one]
    omega
  obtain ⟨least, leastEq, leastValue⟩ := Count.exists_add? fits
  rw [UInt32.toNat_one] at leastValue
  have ordered : least ≤ limit := by
    rw [UInt32.le_iff_toNat_le]
    omega
  obtain ⟨last, lastEq, lastValue⟩ := Count.exists_clamp? finish.toCount ordered
  have value : last.toNat = max (first.toNat + 1) (finish.saturate 0 limit.toNat).toNat := by
    rw [lastValue, leastValue, Whole.toNat_toCount]
    cases finish <;> simp only [Whole.saturate] <;> omega
  refine ⟨least, last, leastEq, lastEq, value, ?_⟩
  rw [UInt32.lt_iff_toNat_lt, UInt32.le_iff_toNat_le]
  omega

/-- Along a side that has a pixel no count is lost, and a pixel is taken. -/
theorem exists_takesSpan (start stop scale : α) (positive : 1 ≤ limit) :
    ∃ first last, TakesSpan start stop scale limit first last := by
  obtain ⟨greatest, first, greatestEq, firstEq, firstValue, inside⟩ :=
    exists_first (Scalar.floor (start * scale)) positive
  obtain ⟨least, last, leastEq, lastEq, lastValue, less, within⟩ :=
    exists_last (Scalar.ceiling (stop * scale)) inside
  refine ⟨first, last, ?_, ?_, less, within⟩
  · simp [sourceSpan?, greatestEq, firstEq, leastEq, lastEq]
  · rw [sourceSpan, lastValue, firstValue]

end Side

/-! ## Areas of counts -/

/-- The pixels of an area: some of them, and none outside an image. -/
structure PixelArea.Within (area : PixelArea) (image : Image) : Prop where
  someColumns : area.left < area.right
  inWidth : area.right ≤ image.width
  someRows : area.top < area.bottom
  inHeight : area.bottom ≤ image.height

/-- An area whose places are counts. -/
structure CountedArea where
  left : UInt32
  top : UInt32
  right : UInt32
  bottom : UInt32

namespace CountedArea

/-- The area that is counted. -/
def pixels (area : CountedArea) : PixelArea :=
  ⟨area.left.toNat, area.top.toNat, area.right.toNat, area.bottom.toNat⟩

/-- How many columns and rows an area has. -/
def sides? (area : CountedArea) : Option (UInt32 × UInt32) := do
  let columns ← Count.sub? area.right area.left
  let rows ← Count.sub? area.bottom area.top
  return (columns, rows)

theorem exists_sides? {area : CountedArea} {image : Image} (within : area.pixels.Within image) :
    ∃ columns rows, area.sides? = some (columns, rows) ∧
      columns.toNat = area.pixels.right - area.pixels.left ∧
      rows.toNat = area.pixels.bottom - area.pixels.top := by
  obtain ⟨columns, columnsEq, columnsValue⟩ := Count.exists_sub? within.someColumns.le
  obtain ⟨rows, rowsEq, rowsValue⟩ := Count.exists_sub? within.someRows.le
  refine ⟨columns, rows, ?_, columnsValue, rowsValue⟩
  simp [sides?, columnsEq, rowsEq]

end CountedArea

/-- Whether an edge lies in front of another one. An undefined edge does not. -/
def Whole.less : Whole → Whole → Bool
  | int first, int second => first < second
  | below, int _ => true
  | below, above => true
  | int _, above => true
  | _, _ => false

/-- The pixels between two edges on a side of the canvas, in counts. -/
def clipCounts (start stop : Whole) (limit : UInt32) : Option (UInt32 × UInt32) :=
  if start.atLeastZero.less (stop.atMost limit.toNat) then
    some (start.atLeastZero.toCount, (stop.atMost limit.toNat).toCount)
  else none

/-- Counts hold all places of the canvas, so the pixels are the same in counts as in integers. -/
theorem clipCounts_cases (start stop : Whole) (limit : UInt32) :
    (clipSpan start stop limit.toNat = none ∧ clipCounts start stop limit = none) ∨
      ∃ first last, clipSpan start stop limit.toNat = some (first.toNat, last.toNat) ∧
        clipCounts start stop limit = some (first, last) ∧ first < last ∧ last ≤ limit := by
  have small := limit.toNat_lt
  unfold clipSpan clipCounts
  rcases start.atLeastZero_spec with ⟨startEq, -⟩ | ⟨first, startEq, -⟩
  · rw [startEq]
    exact .inl ⟨rfl, if_neg (by simp [Whole.less])⟩
  · rcases stop.atMost_spec limit.toNat with ⟨stopEq, -⟩ | ⟨last, bounded, stopEq, -⟩
    · rw [startEq, stopEq]
      exact .inl ⟨rfl, if_neg (by simp [Whole.less])⟩
    · rw [startEq, stopEq]
      by_cases empty : last ≤ first
      · exact .inl ⟨if_pos empty, if_neg (by simpa [Whole.less] using empty)⟩
      · have firstValue := Whole.toNat_toCount_of_lt (by omega : first < 2 ^ 32)
        have lastValue := Whole.toNat_toCount_of_lt (by omega : last.toNat < 2 ^ 32)
        rw [Int.toNat_of_nonneg (by omega)] at lastValue
        refine .inr ⟨(Whole.int first).toCount, (Whole.int last).toCount, ?_, ?_, ?_, ?_⟩
        · rw [firstValue, lastValue]
          exact if_neg empty
        · exact if_pos (by simpa [Whole.less] using empty)
        · rw [UInt32.lt_iff_toNat_lt]
          omega
        · rw [UInt32.le_iff_toNat_le]
          omega

namespace Image

variable {image : Image}

/-- How many columns an image has, as a count. -/
def countedWidth (image : Image) : UInt32 := UInt32.ofNat image.width

/-- How many rows an image has, as a count. -/
def countedHeight (image : Image) : UInt32 := UInt32.ofNat image.height

theorem Short.toNat_width (short : image.Short) : image.countedWidth.toNat = image.width :=
  UInt32.toNat_ofNat_of_lt' short.width

theorem Short.toNat_height (short : image.Short) : image.countedHeight.toNat = image.height :=
  UInt32.toNat_ofNat_of_lt' short.height

/-- A counted area is within an image if its last column and its last row are. -/
theorem Short.within {area : CountedArea} (short : image.Short)
    (someColumns : area.left < area.right) (inWidth : area.right ≤ image.countedWidth)
    (someRows : area.top < area.bottom) (inHeight : area.bottom ≤ image.countedHeight) :
    area.pixels.Within image where
  someColumns := someColumns
  inWidth := (UInt32.le_iff_toNat_le.1 inWidth).trans_eq short.toNat_width
  someRows := someRows
  inHeight := (UInt32.le_iff_toNat_le.1 inHeight).trans_eq short.toNat_height

end Image

section Window

variable {α : Type} [Scalar α] {canvas image : Image}

/-- The area of a rectangle on a canvas, in counts. -/
def Rect.clipCounted (rect : Rect α) (canvas : Image) : Option CountedArea := do
  let (left, right) ←
    clipCounts (Scalar.nearest rect.x) (Scalar.nearest rect.right) canvas.countedWidth
  let (top, bottom) ←
    clipCounts (Scalar.nearest rect.y) (Scalar.nearest rect.bottom) canvas.countedHeight
  return ⟨left, top, right, bottom⟩

theorem Rect.clipCounted_cases (rect : Rect α) (short : canvas.Short) :
    (rect.clip canvas.width canvas.height = none ∧ rect.clipCounted canvas = none) ∨
      ∃ area : CountedArea, rect.clip canvas.width canvas.height = some area.pixels ∧
        rect.clipCounted canvas = some area ∧ area.pixels.Within canvas := by
  unfold clip clipCounted
  rw [← short.toNat_width, ← short.toNat_height]
  rcases clipCounts_cases (Scalar.nearest rect.x) (Scalar.nearest rect.right)
      canvas.countedWidth with
    ⟨columns, lost⟩ | ⟨left, right, columns, across, someColumns, inWidth⟩
  · rw [columns, lost]
    exact .inl ⟨rfl, rfl⟩
  · rcases clipCounts_cases (Scalar.nearest rect.y) (Scalar.nearest rect.bottom)
        canvas.countedHeight with
      ⟨rows, lost⟩ | ⟨top, bottom, rows, down, someRows, inHeight⟩
    · rw [columns, across, rows, lost]
      exact .inl ⟨rfl, rfl⟩
    · rw [columns, across, rows, down]
      exact .inr ⟨⟨left, top, right, bottom⟩, rfl, rfl,
        short.within someColumns inWidth someRows inHeight⟩

/-- The source pixels that are taken of an image in a rectangle of which an area is visible. -/
def sourceWindow (image : Image) (rect : Rect α) (area : PixelArea) : PixelArea :=
  let columns := sourceSpan (Scalar.ofNat area.left - rect.x) (Scalar.ofNat area.right - rect.x)
    (Scalar.ofNat image.width / rect.width) image.width
  let rows := sourceSpan (Scalar.ofNat area.top - rect.y) (Scalar.ofNat area.bottom - rect.y)
    (Scalar.ofNat image.height / rect.height) image.height
  ⟨columns.1, rows.1, columns.2, rows.2⟩

/-- The source pixels that are taken, in counts. -/
def sourceWindow? (image : Image) (rect : Rect α) (area : CountedArea) : Option CountedArea := do
  let (left, right) ← sourceSpan? (Scalar.ofNat area.left.toNat - rect.x)
    (Scalar.ofNat area.right.toNat - rect.x) (Scalar.ofNat image.width / rect.width)
    image.countedWidth
  let (top, bottom) ← sourceSpan? (Scalar.ofNat area.top.toNat - rect.y)
    (Scalar.ofNat area.bottom.toNat - rect.y) (Scalar.ofNat image.height / rect.height)
    image.countedHeight
  return ⟨left, top, right, bottom⟩

/-- Of an image that has pixels some are taken, whatever the rectangle and the area. -/
theorem exists_sourceWindow? (short : image.Short) (someColumns : image.width ≠ 0)
    (someRows : image.height ≠ 0) (rect : Rect α) (area : CountedArea) :
    ∃ window, sourceWindow? image rect area = some window ∧
      window.pixels = sourceWindow image rect area.pixels ∧ window.pixels.Within image := by
  have wide : 1 ≤ image.countedWidth := by
    rw [UInt32.le_iff_toNat_le, short.toNat_width]
    exact Nat.one_le_iff_ne_zero.2 someColumns
  have high : 1 ≤ image.countedHeight := by
    rw [UInt32.le_iff_toNat_le, short.toNat_height]
    exact Nat.one_le_iff_ne_zero.2 someRows
  obtain ⟨left, right, columns⟩ := exists_takesSpan (Scalar.ofNat area.left.toNat - rect.x)
    (Scalar.ofNat area.right.toNat - rect.x) (Scalar.ofNat image.width / rect.width) wide
  obtain ⟨top, bottom, rows⟩ := exists_takesSpan (Scalar.ofNat area.top.toNat - rect.y)
    (Scalar.ofNat area.bottom.toNat - rect.y) (Scalar.ofNat image.height / rect.height) high
  refine ⟨⟨left, top, right, bottom⟩, ?_, ?_,
    short.within columns.less columns.within rows.less rows.within⟩
  · simp [sourceWindow?, columns.counts, rows.counts]
  · have across := columns.integers
    have down := rows.integers
    rw [short.toNat_width] at across
    rw [short.toNat_height] at down
    simp only [sourceWindow, CountedArea.pixels, across, down]

/-! ## Drawing through the window -/

namespace Image

/-- The pixels of a window. -/
def cutOut (image : Image) (window : PixelArea) : Image :=
  image.crop window.left window.top (window.right - window.left) (window.bottom - window.top)

/-- The part of an image from a column and a row on, if it has pixels and all of them lie within
the image. -/
def crop? (image : Image) (left top width height : Nat) : Option Image :=
  if (0 < width ∧ left + width ≤ image.width) ∧ 0 < height ∧ top + height ≤ image.height then
    some (image.crop left top width height)
  else none

/-- The image in the given size, if this is not empty. -/
def fitted? (image : Image) (width height : Nat) : Option Image :=
  if 0 < width ∧ 0 < height then some (image.fitted width height) else none

theorem crop?_window {window : PixelArea} (within : window.Within image) :
    image.crop? window.left window.top (window.right - window.left)
      (window.bottom - window.top) = some (image.cutOut window) := by
  obtain ⟨someColumns, inWidth, someRows, inHeight⟩ := within
  exact if_pos (by omega)

theorem fitted?_area {area : PixelArea} (within : area.Within canvas) :
    image.fitted? (area.right - area.left) (area.bottom - area.top) =
      some (image.fitted (area.right - area.left) (area.bottom - area.top)) :=
  if_pos ⟨Nat.sub_pos_of_lt within.someColumns, Nat.sub_pos_of_lt within.someRows⟩

end Image

namespace Canvas

/-- What is drawn of an image is its window in the size of the visible area. -/
theorem visiblePart_eq (image : Image) (rect : Rect α) (area : PixelArea) :
    visiblePart image rect area =
      (image.cutOut (sourceWindow image rect area)).fitted (area.right - area.left)
        (area.bottom - area.top) :=
  rfl

/-- An image over a canvas, which is lost when a place outside is visited. -/
def overlay? (canvas image : Image) (left top : Nat) : Option Image :=
  canvas.updateRows? (fun x y under => (image.pixel (x - left) (y - top)).atop under) left
    image.width image.height top

/-- The visible part of an image is as large as the area, so it is laid on this area alone. -/
theorem overlay?_visiblePart (image : Image) (rect : Rect α) {area : PixelArea}
    (within : area.Within canvas) :
    overlay? canvas (visiblePart image rect area) area.left area.top =
      some (overlay canvas (visiblePart image rect area) area.left area.top) := by
  obtain ⟨someColumns, inWidth, someRows, inHeight⟩ := within
  obtain ⟨width, height⟩ := size_visiblePart image rect area
  exact Image.updateRows?_eq _ (by omega) (by omega)

/-- What an area of the canvas shows of an image, on a canvas that is lost when a count is, when
nothing or something outside the source is cut out, when it is brought to no size, or when a place
outside the canvas is visited. -/
def drawVisible? (canvas image : Image) (rect : Rect α) (area : CountedArea) : Option Image := do
  let window ← sourceWindow? image rect area
  let (columns, rows) ← window.sides?
  let part ← image.crop? window.left.toNat window.top.toNat columns.toNat rows.toNat
  let (width, height) ← area.sides?
  let scaled ← part.fitted? width.toNat height.toNat
  overlay? canvas scaled area.left.toNat area.top.toNat

/-- A stretched image, on a canvas that is lost when anything fails. -/
def drawImage? (canvas image : Image) (rect : Rect α) : Option Image :=
  let rect := rect.rounded
  if rect.isEmpty || image.width == 0 || image.height == 0 then some canvas
  else
    match rect.clipCounted canvas with
    | none => some canvas
    | some area => drawVisible? canvas image rect area

/-- On an area of the canvas the drawing is not lost, whatever the rectangle. -/
theorem drawVisible?_eq (short : image.Short) (someColumns : image.width ≠ 0)
    (someRows : image.height ≠ 0) (rect : Rect α) {area : CountedArea}
    (onCanvas : area.pixels.Within canvas) :
    drawVisible? canvas image rect area =
      some (overlay canvas (visiblePart image rect area.pixels) area.pixels.left
        area.pixels.top) := by
  obtain ⟨window, windowEq, pixelsEq, inSource⟩ :=
    exists_sourceWindow? short someColumns someRows rect area
  obtain ⟨columns, rows, windowSides, columnsValue, rowsValue⟩ :=
    CountedArea.exists_sides? inSource
  obtain ⟨width, height, areaSides, widthValue, heightValue⟩ :=
    CountedArea.exists_sides? onCanvas
  have part : image.crop? window.left.toNat window.top.toNat columns.toNat rows.toNat =
      some (image.cutOut window.pixels) := by
    rw [columnsValue, rowsValue]
    exact Image.crop?_window inSource
  have scaled : (image.cutOut window.pixels).fitted? width.toNat height.toNat =
      some (visiblePart image rect area.pixels) := by
    rw [widthValue, heightValue, visiblePart_eq, ← pixelsEq]
    exact Image.fitted?_area onCanvas
  simp only [drawVisible?, windowEq, windowSides, part, areaSides, scaled, Option.bind_eq_bind,
    Option.bind_some]
  exact overlay?_visiblePart image rect onCanvas

/-- An image drawn through a window of its source: some pixels of the source, stretched to some
pixels of the canvas, are laid over these. -/
structure DrawnThrough (canvas image : Image) (window area : PixelArea) (after : Image) :
    Prop where
  inSource : window.Within image
  onCanvas : area.Within canvas
  drawn : after = overlay canvas
    ((image.cutOut window).fitted (area.right - area.left) (area.bottom - area.top))
    area.left area.top

theorem nothing_iff (image : Image) (rect : Rect α) :
    (rect.rounded.isEmpty || image.width == 0 || image.height == 0) = true ↔
      ¬ Draws image rect := by
  cases empty : rect.rounded.isEmpty <;> simp [Draws, empty, imp_iff_or_not, or_comm]

/-- An image of which nothing is to be seen leaves the canvas as it is. Any other one is drawn
through a window. -/
theorem drawImage_cases (shortCanvas : canvas.Short) (shortImage : image.Short) (rect : Rect α) :
    ((¬ Draws image rect ∨ rect.rounded.clip canvas.width canvas.height = none) ∧
        drawImage canvas image rect = canvas) ∨
      Draws image rect ∧ ∃ area, rect.rounded.clip canvas.width canvas.height = some area ∧
        DrawnThrough canvas image (sourceWindow image rect.rounded area) area
          (drawImage canvas image rect) := by
  by_cases draws : Draws image rect
  · have something := (nothing_iff image rect).not_left.2 draws
    rcases rect.rounded.clipCounted_cases shortCanvas with
      ⟨apart, -⟩ | ⟨area, meets, -, onCanvas⟩
    · refine .inl ⟨.inr apart, ?_⟩
      rw [drawImage, if_neg something, apart]
    · obtain ⟨window, -, pixelsEq, inSource⟩ :=
        exists_sourceWindow? shortImage draws.2.1 draws.2.2 rect.rounded area
      rw [pixelsEq] at inSource
      refine .inr ⟨draws, area.pixels, meets, inSource, onCanvas, ?_⟩
      rw [drawImage, if_neg something, meets]
      rfl
  · refine .inl ⟨.inl draws, ?_⟩
    rw [drawImage, if_pos ((nothing_iff image rect).2 draws)]

/-- Whatever the rectangle, the drawing is not lost. -/
theorem drawImage?_eq (shortCanvas : canvas.Short) (shortImage : image.Short) (rect : Rect α) :
    drawImage? canvas image rect = some (drawImage canvas image rect) := by
  unfold drawImage? drawImage
  dsimp only
  by_cases draws : Draws image rect
  · have something := (nothing_iff image rect).not_left.2 draws
    rw [if_neg something, if_neg something]
    rcases rect.rounded.clipCounted_cases shortCanvas with
      ⟨apart, lost⟩ | ⟨area, meets, counted, onCanvas⟩
    · rw [apart, lost]
    · rw [meets, counted]
      exact drawVisible?_eq shortImage draws.2.1 draws.2.2 rect.rounded onCanvas
  · have nothing := (nothing_iff image rect).2 draws
    rw [if_pos nothing, if_pos nothing]

end Canvas

end Window

/-- Whatever doubles come in, some pixels are taken along a side that has pixels, all of them of
the side, and no count is lost on the way. So an image in any rectangle, if anything of it is to
be seen, is drawn through a window of some of its pixels, which is stretched to some pixels of the
canvas. In exact arithmetic a range within the source is covered by as few pixels as can be. -/
theorem crop_window_is_valid :
    (∀ (start stop scale : Float) (limit : UInt32), 1 ≤ limit →
      ∃ first last, TakesSpan start stop scale limit first last) ∧
    (∀ (canvas image : Image) (rect : Rect Float), canvas.Short → image.Short →
      Canvas.drawImage? canvas image rect = some (Canvas.drawImage canvas image rect) ∧
      (((¬ Canvas.Draws image rect ∨ rect.rounded.clip canvas.width canvas.height = none) ∧
          Canvas.drawImage canvas image rect = canvas) ∨
        Canvas.Draws image rect ∧ ∃ area,
          rect.rounded.clip canvas.width canvas.height = some area ∧
          Canvas.DrawnThrough canvas image (sourceWindow image rect.rounded area) area
            (Canvas.drawImage canvas image rect))) ∧
    ∀ (start stop scale : Rat) (limit : UInt32), 0 ≤ start → start < stop → 0 < scale →
      stop * scale ≤ limit.toNat →
      ∃ first last, TakesSpan start stop scale limit first last ∧
        ((first.toNat : Rat) ≤ start * scale ∧ start * scale < first.toNat + 1) ∧
        (last.toNat : Rat) - 1 < stop * scale ∧ stop * scale ≤ last.toNat := by
  refine ⟨?_, ?_, ?_⟩
  · intro start stop scale limit positive
    exact exists_takesSpan start stop scale positive
  · intro canvas image rect shortCanvas shortImage
    exact ⟨Canvas.drawImage?_eq shortCanvas shortImage rect,
      Canvas.drawImage_cases shortCanvas shortImage rect⟩
  · intro start stop scale limit starts ordered growing stops
    have low : 0 ≤ start * scale := mul_nonneg starts growing.le
    have less : start * scale < stop * scale := mul_lt_mul_of_pos_right ordered growing
    have positive : 1 ≤ limit := by
      rw [UInt32.le_iff_toNat_le]
      exact_mod_cast (low.trans_lt less).trans_le stops
    obtain ⟨first, last, taken⟩ := exists_takesSpan start stop scale positive
    have around := sourceSpan_around low less stops
    rw [taken.integers] at around
    obtain ⟨begins, ends, near⟩ := around
    exact ⟨first, last, taken, begins, sub_lt_iff_lt_add.2 near, ends⟩

/-- A rectangle with no left edge and no end to the right. -/
def boundless : Rect Float := ⟨0 / 0, -1.5, 1 / 0, 4.5⟩

/-- Of two pixels in such a rectangle the first one is stretched over the canvas. -/
theorem boundless_window_is_valid :
    ((1 : UInt32) ≤ 1 ∧ (Canvas.blank 3 2).Short ∧ (Image.plain 2 1 .black).Short ∧
      Canvas.Draws (.plain 2 1 .black) boundless ∧
      boundless.rounded.clip 3 2 = some ⟨0, 0, 3, 2⟩ ∧
      (0 : Rat) ≤ 8 ∧ (8 : Rat) < 16 ∧ (0 : Rat) < 1 / 8 ∧
      (16 : Rat) * (1 / 8) ≤ (2 : UInt32).toNat) ∧
    TakesSpan (1 / 0 : Float) (0 / 0) (-1) 1 0 1 ∧
    Canvas.DrawnThrough (Canvas.blank 3 2) (.plain 2 1 .black) ⟨0, 0, 1, 1⟩ ⟨0, 0, 3, 2⟩
      (Canvas.drawImage (Canvas.blank 3 2) (.plain 2 1 .black) boundless) ∧
    TakesSpan (8 : Rat) 16 (1 / 8) 2 1 2 := by
  obtain ⟨spans, drawings, exactSpans⟩ := crop_window_is_valid
  have shortCanvas : (Canvas.blank 3 2).Short := ⟨by decide, by decide⟩
  have shortImage : (Image.plain 2 1 .black).Short := ⟨by decide, by decide⟩
  have draws : Canvas.Draws (.plain 2 1 .black) boundless := by decide +kernel
  have meets : boundless.rounded.clip 3 2 = some ⟨0, 0, 3, 2⟩ := by decide +kernel
  have growing : (0 : Rat) < 1 / 8 := by decide +kernel
  have covers : (16 : Rat) * (1 / 8) ≤ (2 : UInt32).toNat := by decide +kernel
  refine ⟨⟨by decide, shortCanvas, shortImage, draws, meets, by decide, by decide, growing,
    covers⟩, ?_, ?_, ?_⟩
  · obtain ⟨first, last, taken⟩ := spans (1 / 0) (0 / 0) (-1) 1 (by decide)
    have counts : sourceSpan? (1 / 0 : Float) (0 / 0) (-1) 1 = some (0, 1) := by decide +kernel
    obtain ⟨rfl, rfl⟩ := Prod.mk.inj (Option.some.inj (taken.counts.symm.trans counts))
    exact taken
  · have window : sourceWindow (.plain 2 1 .black) boundless.rounded ⟨0, 0, 3, 2⟩ =
        ⟨0, 0, 1, 1⟩ := by decide +kernel
    rw [← window]
    rcases (drawings _ _ boundless shortCanvas shortImage).2 with
      ⟨nothing, -⟩ | ⟨-, area, found, through⟩
    · have apart := nothing.resolve_left (not_not_intro draws)
      cases apart.symm.trans meets
    · obtain rfl : area = ⟨0, 0, 3, 2⟩ := Option.some.inj (found.symm.trans meets)
      exact through
  · obtain ⟨first, last, taken, -⟩ := exactSpans 8 16 (1 / 8) 2 (by decide) (by decide)
      growing covers
    have counts : sourceSpan? (8 : Rat) 16 (1 / 8) 2 = some (1, 2) := by decide +kernel
    obtain ⟨rfl, rfl⟩ := Prod.mk.inj (Option.some.inj (taken.counts.symm.trans counts))
    exact taken

end BootTheme
