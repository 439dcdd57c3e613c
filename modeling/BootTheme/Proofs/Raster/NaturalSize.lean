import BootTheme.Proofs.Raster.ClippedScale
import BootTheme.Proofs.Raster.Fills

/-!
# Images of their natural size

An image in a rectangle that is rounded to the size of the image is copied pixel by pixel, however
the canvas cuts it. All numbers that are computed on the way are whole and so small that doubles
hold them, unless the image lies so far away that none of it is drawn.
-/

namespace BootTheme

/-! ## One axis -/

section Axis

variable {origin length start stop scale : Float} {x : Int} {count limit : Nat}

theorem clipSpan_of_behind {edge : Int} (far : (limit : Int) ≤ edge) (other : Whole) :
    clipSpan (.int edge) other limit = none := by
  rcases clipSpan_cases (.int edge) other limit with
    ⟨none, -⟩ | ⟨first, last, -, less, within, spec⟩
  · exact none
  · have among := ((spec first (by omega)).2 ⟨le_rfl, less⟩).1
    change edge ≤ first at among
    omega

theorem clipSpan_of_not_behind {edge : Whole} (far : ∀ place, ¬ edge.Behind place)
    (other : Whole) : clipSpan other edge limit = none := by
  rcases clipSpan_cases other edge limit with
    ⟨none, -⟩ | ⟨first, last, -, less, within, spec⟩
  · exact none
  · exact absurd ((spec first (by omega)).2 ⟨le_rfl, less⟩).2 (far first)

/-- The places that a side of an image has on a canvas, computed in doubles. -/
theorem clipSpan_double (isOrigin : IsNumber origin x) (isLength : IsNumber length count)
    (short : count < 2 ^ 32) (small : limit < 2 ^ 32) :
    clipSpan (Scalar.nearest origin) (Scalar.nearest (origin + length)) limit =
      clipSpan (.int x) (.int (x + count)) limit := by
  rw [isOrigin.nearest, nearestInt_intCast]
  -- Far off the sum may be rounded, or infinite, but there no place of the canvas is covered.
  by_cases right : 2 ^ 32 ≤ x
  · rw [clipSpan_of_behind (by omega), clipSpan_of_behind (by omega)]
  · by_cases left : x < -2 ^ 32
    · have below : (x : Rat) + (count : Rat) < 0 := by exact_mod_cast (by omega : x + count < 0)
      rw [clipSpan_of_not_behind, clipSpan_of_not_behind]
      · intro place
        change ¬ (place : Int) < x + count
        omega
      · intro place
        rcases nearest_add_below isOrigin isLength below with nearest | ⟨whole, notAbove, nearest⟩
        · rw [nearest]
          exact id
        · rw [nearest]
          change ¬ (place : Int) < whole
          omega
    · have whole : (x : Rat) + (count : Rat) = ((x + count : Int) : Rat) := by push_cast; rfl
      have sum := isOrigin.add isLength (by rw [whole]; exact isDouble_intCast (by omega))
      rw [sum.nearest, whole, nearestInt_intCast]

/-- The source pixels that cover a range, computed in doubles. -/
theorem sourceSpan_double {first last factor : Rat} (isStart : IsNumber start first)
    (isStop : IsNumber stop last) (isScale : IsNumber scale factor)
    (begins : IsDouble (first * factor)) (ends : IsDouble (last * factor)) :
    sourceSpan start stop scale limit = sourceSpan first last factor limit := by
  unfold sourceSpan
  rw [(isStart.mul isScale begins).floor, (isStop.mul isScale ends).ceiling]
  rfl

/-- The source pixels at the visible places of a side that is not stretched. -/
theorem sourceSpan_natural (isOrigin : IsNumber origin x) (isLength : IsNumber length count)
    (some : 0 < count) {first last : Nat} (starts : x ≤ first) (stops : (last : Int) ≤ x + count)
    (visible : first < last) (short : count < 2 ^ 32) (small : last < 2 ^ 32) :
    sourceSpan (Scalar.ofNat first - origin) (Scalar.ofNat last - origin)
        (Scalar.ofNat count / length) count =
      sourceSpan ((first : Rat) - x) (last - x) (count / count) count := by
  have nonzero : (count : Rat) ≠ 0 := Nat.cast_ne_zero.2 some.ne'
  have whole (place : Nat) : (place : Rat) - x = ((place - x : Int) : Rat) := by push_cast; rfl
  have offset {place : Nat} (low : first ≤ place) (high : place ≤ last) :
      IsNumber (Scalar.ofNat place - origin) ((place : Rat) - x) ∧
        IsDouble (((place : Rat) - x) * (count / count)) := by
    have double : IsDouble ((place : Rat) - x) := by
      rw [whole]
      exact isDouble_intCast (by omega)
    -- The scale of a side that is not stretched is one, so it changes no offset.
    rw [div_self nonzero, mul_one]
    exact ⟨(isNumber_ofNat (by omega)).sub isOrigin double, double⟩
  have scaled : IsDouble ((count : Rat) / count) := by
    rw [div_self nonzero]
    exact_mod_cast @isDouble_intCast 1 (by decide)
  obtain ⟨isStart, begins⟩ := offset le_rfl visible.le
  obtain ⟨isStop, ends⟩ := offset visible.le le_rfl
  exact sourceSpan_double isStart isStop
    ((isNumber_ofNat (by omega)).div isLength nonzero scaled) begins ends

end Axis

/-! ## The whole image -/

namespace Pixel

variable {top : Pixel}

theorem atop_of_solid (solid : top.alpha = 255) (bottom : Pixel) : top.atop bottom = top := by
  unfold atop
  rw [solid, if_neg (by decide), if_pos rfl]

theorem atop_of_clear (clear : top.alpha = 0) (bottom : Pixel) : top.atop bottom = bottom := by
  unfold atop
  rw [if_pos clear]

end Pixel

/-- The sides of an image are counted in 32 bits. -/
structure Image.Short (image : Image) : Prop where
  width : image.width < 2 ^ 32
  height : image.height < 2 ^ 32

/-- An image in a rectangle of doubles that is rounded to the size of the image. -/
structure NaturalImage where
  canvas : Image
  image : Image
  rect : Rect Float
  x : Int
  y : Int
  shortCanvas : canvas.Short
  shortImage : image.Short
  someColumns : 0 < image.width
  someRows : 0 < image.height
  left : Scalar.nearest rect.x = .int x
  top : Scalar.nearest rect.y = .int y
  wide : Scalar.nearest rect.width = .int image.width
  high : Scalar.nearest rect.height = .int image.height

namespace NaturalImage

variable (natural : NaturalImage)

/-- The rounded rectangle. -/
def exact : Rect Rat :=
  ⟨natural.x, natural.y, natural.image.width, natural.image.height⟩

theorem amounts : natural.rect.rounded.Amounts natural.exact where
  x := isNumber_round natural.left
  y := isNumber_round natural.top
  width := isNumber_round natural.wide
  height := isNumber_round natural.high

theorem clip_rounded :
    natural.rect.rounded.clip natural.canvas.width natural.canvas.height =
      natural.exact.clip natural.canvas.width natural.canvas.height := by
  have columns := clipSpan_double natural.amounts.x natural.amounts.width natural.shortImage.width
    natural.shortCanvas.width
  have rows := clipSpan_double natural.amounts.y natural.amounts.height natural.shortImage.height
    natural.shortCanvas.height
  have whole (edge : Int) : Scalar.nearest (edge : Rat) = .int edge :=
    congrArg Whole.int (nearestInt_intCast edge)
  have sum (edge : Int) (count : Nat) :
      Scalar.nearest ((edge : Rat) + (count : Rat)) = .int (edge + count) := by
    rw [← whole (edge + count)]
    push_cast
    rfl
  rw [← whole natural.x, ← sum] at columns
  rw [← whole natural.y, ← sum] at rows
  change _ = clipSpan (Scalar.nearest natural.exact.x) (Scalar.nearest natural.exact.right) _
    at columns
  change _ = clipSpan (Scalar.nearest natural.exact.y) (Scalar.nearest natural.exact.bottom) _
    at rows
  unfold Rect.clip
  rw [← columns, ← rows]
  rfl

/-- A side of at least one pixel is not less than a pixel. -/
theorem isEmpty_rounded : natural.rect.rounded.isEmpty = false := by
  have notLess {length : Float} {count : Nat} (isLength : IsNumber length count)
      (some : 0 < count) : Scalar.less length (Scalar.ofNat 1) = false := by
    rw [isLength.less (isNumber_ofNat (by decide)), decide_eq_false_iff_not, not_lt]
    exact_mod_cast some
  rw [Rect.isEmpty, notLess natural.amounts.width natural.someColumns,
    notLess natural.amounts.height natural.someRows]
  rfl

/-- The image with the area of the canvas that it meets. -/
def placed (area : PixelArea)
    (meets : natural.exact.clip natural.canvas.width natural.canvas.height = some area) :
    PlacedImage where
  canvas := natural.canvas
  image := natural.image
  x := natural.x
  y := natural.y
  width := natural.image.width
  height := natural.image.height
  area := area
  someColumns := natural.someColumns
  someRows := natural.someRows
  wide := natural.someColumns
  high := natural.someRows
  meets := meets

theorem visiblePart_rounded {area : PixelArea}
    (meets : natural.exact.clip natural.canvas.width natural.canvas.height = some area) :
    Canvas.visiblePart natural.image natural.rect.rounded area =
      Canvas.visiblePart natural.image natural.exact area := by
  have within : (area.left < area.right ∧ natural.x ≤ area.left ∧
        (area.right : Int) ≤ natural.x + natural.image.width) ∧
      area.top < area.bottom ∧ natural.y ≤ area.top ∧
        (area.bottom : Int) ≤ natural.y + natural.image.height :=
    (natural.placed area meets).area_within
  have fits : (area.left < area.right ∧ area.right ≤ natural.canvas.width) ∧
      (area.top < area.bottom ∧ area.bottom ≤ natural.canvas.height) ∧ _ :=
    (natural.placed area meets).area_spec
  obtain ⟨⟨someColumns, left, right⟩, someRows, top, bottom⟩ := within
  obtain ⟨⟨-, fitsWidth⟩, ⟨-, fitsHeight⟩, -⟩ := fits
  have columns := sourceSpan_natural natural.amounts.x natural.amounts.width natural.someColumns
    left right someColumns natural.shortImage.width
    (fitsWidth.trans_lt natural.shortCanvas.width)
  have rows := sourceSpan_natural natural.amounts.y natural.amounts.height natural.someRows
    top bottom someRows natural.shortImage.height
    (fitsHeight.trans_lt natural.shortCanvas.height)
  unfold Canvas.visiblePart
  rw [columns, rows]
  rfl

/-- Nothing is drawn of an image that the canvas does not hold. -/
theorem drawImage_of_apart
    (apart : natural.exact.clip natural.canvas.width natural.canvas.height = none) :
    Canvas.drawImage natural.canvas natural.image natural.rect = natural.canvas := by
  unfold Canvas.drawImage
  dsimp only
  rw [clip_rounded, apart, ite_self]

/-- What doubles draw of an image is what exact numbers would. -/
theorem drawImage_of_meets {area : PixelArea}
    (meets : natural.exact.clip natural.canvas.width natural.canvas.height = some area) :
    Canvas.drawImage natural.canvas natural.image natural.rect =
      Canvas.drawImage natural.canvas natural.image natural.exact := by
  have someColumns := natural.someColumns.ne'
  have someRows := natural.someRows.ne'
  have exactly := (natural.placed area meets).drawImage_eq
  change Canvas.drawImage natural.canvas natural.image natural.exact = _ at exactly
  rw [exactly]
  unfold Canvas.drawImage
  dsimp only
  rw [if_neg (by simp [isEmpty_rounded, someColumns, someRows]), clip_rounded, meets]
  dsimp only
  rw [visiblePart_rounded natural meets]
  rfl

/-- A pixel of the canvas that the image covers. -/
def Covers (column row : Nat) : Prop :=
  (natural.x ≤ column ∧ (column : Int) < natural.x + natural.image.width) ∧
    natural.y ≤ row ∧ (row : Int) < natural.y + natural.image.height

/-- The pixel of the image that lies on a pixel of the canvas. -/
def source (column row : Nat) : Pixel :=
  natural.image.pixel (column - natural.x).toNat (row - natural.y).toNat

instance (column row : Nat) : Decidable (natural.Covers column row) :=
  inferInstanceAs (Decidable ((_ ∧ _) ∧ _ ∧ _))

theorem covers_iff (column row : Nat) :
    natural.exact.Covers column row ↔ natural.Covers column row := by
  have covers := Rect.covers_whole_iff natural.x natural.y natural.image.width
    natural.image.height column row
  rwa [Int.cast_natCast, Int.cast_natCast] at covers

theorem pixel_drawImage {column row : Nat} (there : natural.canvas.Holds column row) :
    (Canvas.drawImage natural.canvas natural.image natural.rect).pixel column row =
      if natural.Covers column row then
        (natural.source column row).atop (natural.canvas.pixel column row)
      else natural.canvas.pixel column row := by
  rcases natural.exact.clip_cases natural.canvas.width natural.canvas.height with
    ⟨apart, none⟩ | ⟨area, meets, -⟩
  · rw [drawImage_of_apart natural apart, if_neg]
    rw [← covers_iff]
    exact none column there.1 row there.2
  · rw [drawImage_of_meets natural meets]
    refine ((natural.placed area meets).pixel_of_natural_size rfl rfl there).trans ?_
    exact if_congr (natural.covers_iff column row) rfl rfl

/-- What becomes of a canvas when the image is laid over it pixel by pixel. -/
structure Copied (after : Image) : Prop where
  width : after.width = natural.canvas.width
  height : after.height = natural.canvas.height
  blended : ∀ column row, natural.canvas.Holds column row → natural.Covers column row →
    after.pixel column row = (natural.source column row).atop (natural.canvas.pixel column row)
  solid : ∀ column row, natural.canvas.Holds column row → natural.Covers column row →
    (natural.source column row).alpha = 255 →
      after.pixel column row = natural.source column row
  clear : ∀ column row, natural.canvas.Holds column row → natural.Covers column row →
    (natural.source column row).alpha = 0 →
      after.pixel column row = natural.canvas.pixel column row
  outside : ∀ column row, natural.canvas.Holds column row → ¬ natural.Covers column row →
    after.pixel column row = natural.canvas.pixel column row

end NaturalImage

/-- An image in a rectangle that is rounded to its own size is laid over the canvas pixel by
pixel, wherever the rounded rectangle lies. Opaque pixels are copied, and clear ones change
nothing. -/
theorem natural_size_is_copied (natural : NaturalImage) :
    natural.Copied (Canvas.drawImage natural.canvas natural.image natural.rect) where
  width := Canvas.width_drawImage natural.image natural.rect
  height := Canvas.height_drawImage natural.image natural.rect
  blended column row there covers := by rw [natural.pixel_drawImage there, if_pos covers]
  solid column row there covers solid := by
    rw [natural.pixel_drawImage there, if_pos covers, Pixel.atop_of_solid solid]
  clear column row there covers clear := by
    rw [natural.pixel_drawImage there, if_pos covers, Pixel.atop_of_clear clear]
  outside column row there apart := by rw [natural.pixel_drawImage there, if_neg apart]

/-- A red and a green pixel above a clear and a blue one, most of them outside the canvas. -/
def cornered : NaturalImage where
  canvas := .plain 2 2 .black
  image := .ofFn 2 2 fun x y =>
    if y = 0 then (if x = 0 then ⟨255, 0, 0, 255⟩ else ⟨0, 255, 0, 255⟩)
    else if x = 0 then .clear else ⟨0, 0, 255, 255⟩
  rect := ⟨-0.75, -1.25, 2.25, 1.5⟩
  x := -1
  y := -1
  shortCanvas := ⟨by decide, by decide⟩
  shortImage := ⟨by decide, by decide⟩
  someColumns := by decide
  someRows := by decide
  left := by decide +kernel
  top := by decide +kernel
  wide := by decide +kernel
  high := by decide +kernel

/-- The last pixel of the image is on the first one of the canvas. -/
theorem cornered_is_copied :
    (Canvas.drawImage cornered.canvas cornered.image cornered.rect).pixel 0 0 =
        ⟨0, 0, 255, 255⟩ ∧
      (Canvas.drawImage cornered.canvas cornered.image cornered.rect).pixel 1 0 = .black := by
  have copied := natural_size_is_copied cornered
  constructor
  · exact copied.solid 0 0 ⟨by decide, by decide⟩ (by decide) (by decide)
  · exact copied.outside 1 0 ⟨by decide, by decide⟩ (by decide)

end BootTheme
