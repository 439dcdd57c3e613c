import BootTheme.Proofs.Raster.Coverage

/-!
# A fill writes its rectangle

A fill with an opaque color gives the color to the pixels of the canvas between the rounded edges
of its rectangle, wherever the rectangle lies, and changes no other. It visits no place outside
the canvas.
-/

namespace BootTheme

/-! ## Places that are visited -/

namespace Image

/-- The image with one pixel changed, if it has this pixel. -/
def update? (image : Image) (x y : Nat) (change : Pixel → Pixel) : Option Image :=
  if x < image.width ∧ y < image.height then some (image.update x y change) else none

/-- So many pixels of a row changed, if the image has all of them. -/
def updateRow? (change : Nat → Pixel → Pixel) (y : Nat) : Nat → Nat → Image → Option Image
  | 0, _, image => some image
  | count + 1, x, image => (image.update? x y (change x)).bind (updateRow? change y count (x + 1))

/-- So many rows changed in the columns from `left` on, if the image has all of their pixels. -/
def updateRows? (change : Nat → Nat → Pixel → Pixel) (left columns : Nat) :
    Nat → Nat → Image → Option Image
  | 0, _, image => some image
  | count + 1, y, image =>
      (updateRow? (fun x => change x y) y columns left image).bind
        (updateRows? change left columns count (y + 1))

variable {image : Image} {x y left columns : Nat}

theorem updateRow?_eq (change : Nat → Pixel → Pixel) {count : Nat}
    (fits : x + count ≤ image.width) (inside : y < image.height) :
    updateRow? change y count x image = some (updateRow change y count x image) := by
  induction count generalizing x image with
  | zero => rfl
  | succ count ih =>
      have there : x < image.width ∧ y < image.height := ⟨by omega, inside⟩
      rw [updateRow?, update?, if_pos there, Option.bind_some]
      exact ih (by rw [width_update]; omega) (by rwa [height_update])

theorem updateRows?_eq (change : Nat → Nat → Pixel → Pixel) {count : Nat}
    (fits : left + columns ≤ image.width) (inside : y + count ≤ image.height) :
    updateRows? change left columns count y image =
      some (updateRows change left columns count y image) := by
  induction count generalizing y image with
  | zero => rfl
  | succ count ih =>
      rw [updateRows?, updateRow?_eq _ fits (by omega), Option.bind_some]
      exact ih (by rwa [width_updateRow]) (by rw [height_updateRow]; omega)

end Image

namespace Canvas

variable {α : Type} [Scalar α] {canvas : Image}

/-- A filled rectangle, on a canvas that is lost when a place outside is visited. -/
def fill? (canvas : Image) (rect : Rect α) (color : Color) : Option Image :=
  match rect.clip canvas.width canvas.height with
  | none => some canvas
  | some area =>
      canvas.updateRows? (fun _ _ => tint color 255) area.left (area.right - area.left)
        (area.bottom - area.top) area.top

/-- A fill visits no place outside the canvas. -/
theorem fill?_eq (rect : Rect α) (color : Color) :
    fill? canvas rect color = some (fill canvas rect color) := by
  unfold fill? fill
  rcases rect.clip_cases canvas.width canvas.height with
    ⟨clipEq, -⟩ | ⟨area, clipEq, ⟨columns, fitsWidth⟩, ⟨rows, fitsHeight⟩, -⟩
  · rw [clipEq]
  · rw [clipEq]
    exact Image.updateRows?_eq _ (by omega) (by omega)

end Canvas

/-! ## Rectangles of finite doubles -/

/-- A rectangle of doubles and the numbers that they are. -/
structure Rect.Amounts (rect : Rect Float) (exact : Rect Rat) : Prop where
  x : IsNumber rect.x exact.x
  y : IsNumber rect.y exact.y
  width : IsNumber rect.width exact.width
  height : IsNumber rect.height exact.height

/-- A rectangle of finite doubles. -/
structure Rect.IsFinite (rect : Rect Float) : Prop where
  x : isFinite rect.x = true
  y : isFinite rect.y = true
  width : isFinite rect.width = true
  height : isFinite rect.height = true

theorem Rect.IsFinite.exists_amounts {rect : Rect Float} (finite : rect.IsFinite) :
    ∃ exact, rect.Amounts exact := by
  obtain ⟨x, isX⟩ := exists_isNumber finite.x
  obtain ⟨y, isY⟩ := exists_isNumber finite.y
  obtain ⟨width, isWidth⟩ := exists_isNumber finite.width
  obtain ⟨height, isHeight⟩ := exists_isNumber finite.height
  exact ⟨⟨x, y, width, height⟩, isX, isY, isWidth, isHeight⟩

/-- A place in front of the whole number nearest to a double. All places are in front of
infinity. -/
def InFront (place : Nat) (edge : Float) : Prop :=
  (∃ number, IsNumber edge number ∧ (place : Int) < nearestInt number) ∨ edge = 1 / 0

variable {left right : Float} {place : Nat}

theorem atOrBefore_iff {number : Rat} (isNumber : IsNumber left number) :
    (Scalar.nearest left).AtOrBefore place ↔ nearestInt number ≤ place := by
  rw [isNumber.nearest]
  rfl

theorem behind_iff_of_number {edge : Float} {number : Rat} (isNumber : IsNumber edge number) :
    (Scalar.nearest edge).Behind place ↔ InFront place edge := by
  have apart : edge ≠ 1 / 0 := by
    rintro rfl
    have finite := isNumber.isFinite
    revert finite
    decide +kernel
  rw [InFront, or_iff_left apart, isNumber.nearest]
  constructor
  · intro less
    exact ⟨number, isNumber, less⟩
  · rintro ⟨other, isOther, less⟩
    have same := isNumber.nearest.symm.trans isOther.nearest
    rwa [Whole.int.inj same]

/-- An infinite edge is behind all places or none. -/
theorem behind_iff_of_infinite {edge : Float}
    (infinite : (doubleParts edge).magnitude = .infinite) :
    (Scalar.nearest edge).Behind place ↔ InFront place edge := by
  have none : ¬ ∃ number, IsNumber edge number ∧ (place : Int) < nearestInt number := by
    rintro ⟨number, isNumber, -⟩
    have finite := isNumber.isFinite
    rw [isFinite, infinite] at finite
    cases finite
  change ((doubleParts edge).nearest).Behind place ↔ _
  rw [InFront, or_iff_right none, eq_infinite_iff infinite, Parts.nearest, Parts.toWhole, infinite]
  cases (doubleParts edge).negative with
  | false => exact ⟨fun _ => rfl, fun _ => trivial⟩
  | true => exact ⟨False.elim, Bool.noConfusion⟩

/-- The sum of finite doubles may be infinite, but it is never undefined. -/
theorem behind_add_iff (first : isFinite left = true) (second : isFinite right = true) :
    (Scalar.nearest (left + right)).Behind place ↔ InFront place (left + right) := by
  have defined := magnitude_add first second
  cases size : (doubleParts (left + right)).magnitude with
  | undefined => exact absurd size defined
  | infinite => exact behind_iff_of_infinite size
  | finite mantissa exponent =>
      have finite : isFinite (left + right) = true := by
        rw [isFinite, size]
        rfl
      obtain ⟨number, isNumber⟩ := exists_isNumber finite
      exact behind_iff_of_number isNumber

/-! ## What is painted -/

/-- One image comes from another when the places of an area are given a pixel and all others
stay as they are. -/
structure Image.Painted (before after : Image) (area : Nat → Nat → Prop) (pixel : Pixel) :
    Prop where
  width : after.width = before.width
  height : after.height = before.height
  inside : ∀ column row, before.Holds column row → area column row →
    after.pixel column row = pixel
  outside : ∀ column row, before.Holds column row → ¬ area column row →
    after.pixel column row = before.pixel column row

theorem Image.Painted.congr {before after : Image} {area other : Nat → Nat → Prop} {pixel : Pixel}
    (painted : before.Painted after area pixel)
    (same : ∀ column row, area column row ↔ other column row) :
    before.Painted after other pixel := by
  have areas : area = other := funext₂ fun column row => propext (same column row)
  rwa [← areas]

namespace Canvas

variable {α : Type} [Scalar α] {canvas : Image}

/-- An opaque fill paints what its rectangle covers. -/
theorem painted_fill (rect : Rect α) {color : Color} (solid : color.alpha = 255) :
    canvas.Painted (fill canvas rect color) rect.Covers color.pixel where
  width := width_fill rect color
  height := height_fill rect color
  inside column row there covers := by
    rw [pixel_fill rect color there, if_pos covers, tint_solid solid]
  outside column row there apart := by
    rw [pixel_fill rect color there, if_neg apart]

/-- A fill with an opaque color paints the pixels of the canvas from the rounded origin of its
rectangle to the rounded edges, and visits no place outside the canvas. -/
theorem fill_paints_clipped_rectangle (canvas : Image) (rect : Rect Float) (color : Color)
    (finite : rect.IsFinite) (solid : color.alpha = 255) :
    ∃ exact, rect.Amounts exact ∧
      canvas.Painted (fill canvas rect color) (fun column row =>
        (nearestInt exact.x ≤ column ∧ InFront column rect.right) ∧
          nearestInt exact.y ≤ row ∧ InFront row rect.bottom) color.pixel ∧
      fill? canvas rect color = some (fill canvas rect color) := by
  obtain ⟨exact, amounts⟩ := finite.exists_amounts
  refine ⟨exact, amounts, ?_, fill?_eq rect color⟩
  refine (painted_fill rect solid).congr fun column row => ?_
  exact and_congr
    (and_congr (atOrBefore_iff amounts.x) (behind_add_iff finite.x finite.width))
    (and_congr (atOrBefore_iff amounts.y) (behind_add_iff finite.y finite.height))

/-- A rectangle that begins in front of the canvas and whose edges lie at halves. -/
def strip : Rect Float := ⟨-1.5, 0.5, 3, 1.25⟩

theorem strip_is_filled :
    (strip.IsFinite ∧ (Color.rgb 1 2 3).alpha = 255) ∧
      (fill (blank 3 3) strip (.rgb 1 2 3)).pixel 1 1 = ⟨1, 2, 3, 255⟩ ∧
      (fill (blank 3 3) strip (.rgb 1 2 3)).pixel 1 0 = .black := by
  have finite : strip.IsFinite := by
    constructor <;> decide +kernel
  obtain ⟨exact, amounts, painted, -⟩ :=
    fill_paints_clipped_rectangle (blank 3 3) strip (.rgb 1 2 3) finite rfl
  have left : nearestInt exact.x = -2 := by
    have edge : Scalar.nearest strip.x = .int (-2) := by decide +kernel
    rw [amounts.x.nearest] at edge
    exact Whole.int.inj edge
  have top : nearestInt exact.y = 1 := by
    have edge : Scalar.nearest strip.y = .int 1 := by decide +kernel
    rw [amounts.y.nearest] at edge
    exact Whole.int.inj edge
  have right : InFront 1 strip.right :=
    (behind_add_iff finite.x finite.width).1 (by decide +kernel)
  have bottom : InFront 1 strip.bottom :=
    (behind_add_iff finite.y finite.height).1 (by decide +kernel)
  refine ⟨⟨finite, rfl⟩, ?_, ?_⟩
  · exact painted.inside 1 1 ⟨by decide, by decide⟩ ⟨⟨by omega, right⟩, by omega, bottom⟩
  · exact painted.outside 1 0 ⟨by decide, by decide⟩ fun inside => by omega

end Canvas

end BootTheme
