import BootTheme.Proofs.Number.NearestWhole
import BootTheme.Proofs.Raster.Pixels

/-!
# Which pixels a rectangle covers

A fill covers the pixels between the rounded edges of its rectangle, so fills that share an
edge meet there. An image covers the pixels from the rounded origin on, as many as the rounded
size says. Where the sum of both is not the rounded edge, an image is a column or a row longer
or shorter than a fill of the same rectangle, and images that share an edge overlap there or
leave a gap.
-/

namespace BootTheme

/-! ## Rounded edges -/

namespace Whole

/-- An edge that pixels of a place lie behind. The edge of the canvas stands in for one that is
undefined. -/
def AtOrBefore (edge : Whole) (place : Nat) : Prop :=
  match edge with
  | undefined => True
  | below => True
  | above => False
  | int value => value ≤ place

/-- An edge that pixels of a place lie in front of. The edge of the canvas stands in for one
that is undefined. -/
def Behind (edge : Whole) (place : Nat) : Prop :=
  match edge with
  | undefined => True
  | below => False
  | above => True
  | int value => place < value

instance (edge : Whole) (place : Nat) : Decidable (edge.AtOrBefore place) :=
  match edge with
  | undefined => isTrue trivial
  | below => isTrue trivial
  | above => isFalse id
  | int value => inferInstanceAs (Decidable (value ≤ place))

instance (edge : Whole) (place : Nat) : Decidable (edge.Behind place) :=
  match edge with
  | undefined => isTrue trivial
  | below => isFalse id
  | above => isTrue trivial
  | int value => inferInstanceAs (Decidable (place < value))

/-- A place lies in front of an edge or behind it, never on both sides. -/
theorem behind_iff {edge : Whole} (defined : edge ≠ undefined) {place : Nat} :
    edge.Behind place ↔ ¬ edge.AtOrBefore place := by
  cases edge with
  | undefined => exact absurd rfl defined
  | below => exact ⟨False.elim, fun front => front trivial⟩
  | above => exact ⟨fun _ => id, fun _ => trivial⟩
  | int value => exact Int.not_le.symm

/-- The first pixel behind an edge, if any lies there. -/
theorem atLeastZero_spec (edge : Whole) :
    (edge.atLeastZero = above ∧ ∀ place, ¬ edge.AtOrBefore place) ∨
      ∃ first : Nat, edge.atLeastZero = int first ∧
        ∀ place, edge.AtOrBefore place ↔ first ≤ place := by
  cases edge with
  | undefined => exact .inr ⟨0, rfl, fun place => ⟨fun _ => Nat.zero_le place, fun _ => trivial⟩⟩
  | below => exact .inr ⟨0, rfl, fun place => ⟨fun _ => Nat.zero_le place, fun _ => trivial⟩⟩
  | above => exact .inl ⟨rfl, fun _ => id⟩
  | int value =>
      refine .inr ⟨value.toNat, by simp [atLeastZero], ?_⟩
      intro place
      simp only [AtOrBefore]
      omega

/-- The first pixel of the canvas that is not in front of an edge, if any lies there. -/
theorem atMost_spec (edge : Whole) (limit : Nat) :
    (edge.atMost limit = below ∧ ∀ place, ¬ edge.Behind place) ∨
      ∃ last ≤ (limit : Int), edge.atMost limit = int last ∧
        ∀ place < limit, edge.Behind place ↔ (place : Int) < last := by
  cases edge with
  | undefined =>
      refine .inr ⟨limit, le_rfl, rfl, ?_⟩
      intro place inside
      simp [Behind, inside]
  | below => exact .inl ⟨rfl, fun _ => id⟩
  | above =>
      refine .inr ⟨limit, le_rfl, rfl, ?_⟩
      intro place inside
      simp [Behind, inside]
  | int value =>
      refine .inr ⟨min value limit, min_le_right _ _, rfl, ?_⟩
      intro place inside
      simp only [Behind]
      omega

end Whole

/-- What lies between two edges on a side of the canvas. -/
theorem clipSpan_cases (start stop : Whole) (limit : Nat) :
    (clipSpan start stop limit = none ∧
      ∀ place < limit, ¬ (start.AtOrBefore place ∧ stop.Behind place)) ∨
    ∃ first last, clipSpan start stop limit = some (first, last) ∧ first < last ∧ last ≤ limit ∧
      ∀ place < limit,
        start.AtOrBefore place ∧ stop.Behind place ↔ first ≤ place ∧ place < last := by
  unfold clipSpan
  rcases start.atLeastZero_spec with ⟨startEq, none⟩ | ⟨first, startEq, starts⟩
  · rw [startEq]
    exact .inl ⟨rfl, fun place _ both => none place both.1⟩
  · rcases stop.atMost_spec limit with ⟨stopEq, none⟩ | ⟨last, bounded, stopEq, stops⟩
    · rw [startEq, stopEq]
      exact .inl ⟨rfl, fun place _ both => none place both.2⟩
    · rw [startEq, stopEq]
      dsimp only
      by_cases empty : last ≤ first
      · rw [if_pos empty]
        refine .inl ⟨rfl, ?_⟩
        intro place inside
        rw [starts place, stops place inside]
        omega
      · rw [if_neg empty]
        refine .inr ⟨first, last.toNat, rfl, by omega, by omega, ?_⟩
        intro place inside
        rw [starts place, stops place inside]
        omega

/-! ## The area of a rectangle -/

/-- A pixel of an area. -/
def PixelArea.Contains (area : PixelArea) (column row : Nat) : Prop :=
  (area.left ≤ column ∧ column < area.right) ∧ area.top ≤ row ∧ row < area.bottom

namespace Rect

variable {α : Type} [Scalar α]

/-- A column between the rounded left and right edges of a rectangle. -/
def CoversColumn (rect : Rect α) (column : Nat) : Prop :=
  (Scalar.nearest rect.x).AtOrBefore column ∧ (Scalar.nearest rect.right).Behind column

/-- A row between the rounded upper and lower edges of a rectangle. -/
def CoversRow (rect : Rect α) (row : Nat) : Prop :=
  (Scalar.nearest rect.y).AtOrBefore row ∧ (Scalar.nearest rect.bottom).Behind row

/-- A pixel between the rounded edges of a rectangle. -/
def Covers (rect : Rect α) (column row : Nat) : Prop :=
  rect.CoversColumn column ∧ rect.CoversRow row

instance (rect : Rect α) (column row : Nat) : Decidable (rect.Covers column row) :=
  inferInstanceAs (Decidable ((_ ∧ _) ∧ _ ∧ _))

/-- The area of a rectangle on a canvas holds the pixels that the rectangle covers there. -/
theorem clip_cases (rect : Rect α) (width height : Nat) :
    (rect.clip width height = none ∧
      ∀ column < width, ∀ row < height, ¬ rect.Covers column row) ∨
    ∃ area, rect.clip width height = some area ∧
      (area.left < area.right ∧ area.right ≤ width) ∧
      (area.top < area.bottom ∧ area.bottom ≤ height) ∧
      ∀ column < width, ∀ row < height, rect.Covers column row ↔ area.Contains column row := by
  unfold clip
  rcases clipSpan_cases (Scalar.nearest rect.x) (Scalar.nearest rect.right) width with
    ⟨columnsEq, none⟩ | ⟨left, right, columnsEq, someColumns, fitsWidth, columns⟩
  · rw [columnsEq]
    exact .inl ⟨rfl, fun column inside _ _ covers => none column inside covers.1⟩
  · rcases clipSpan_cases (Scalar.nearest rect.y) (Scalar.nearest rect.bottom) height with
      ⟨rowsEq, none⟩ | ⟨top, bottom, rowsEq, someRows, fitsHeight, rows⟩
    · rw [columnsEq, rowsEq]
      exact .inl ⟨rfl, fun _ _ row inside covers => none row inside covers.2⟩
    · rw [columnsEq, rowsEq]
      refine .inr ⟨⟨left, top, right, bottom⟩, rfl, ⟨someColumns, fitsWidth⟩,
        ⟨someRows, fitsHeight⟩, ?_⟩
      intro column insideColumn row insideRow
      exact and_congr (columns column insideColumn) (rows row insideRow)

end Rect

/-! ## Opaque colors -/

/-- A channel without places is a number of single precision. -/
theorem singleUnits_channel (channel : Fin 256) :
    singleUnits (channel * (1 <<< 32)) = channel * (1 <<< 32) := by
  revert channel
  decide +kernel

/-- An opaque color hides what is under it. -/
theorem blendChannel_solid (upper under : UInt8) : blendChannel upper under 255 = upper := by
  have share : opacityUnits (255 : UInt8).toNat = 1 <<< 32 := by decide +kernel
  have nothing : singleUnits 0 = 0 := rfl
  have whole := singleUnits_channel ⟨upper.toNat, UInt8.toNat_lt upper⟩
  have small := UInt8.toNat_lt upper
  unfold blendChannel
  dsimp only at whole ⊢
  rw [share, Nat.sub_self, nothing, Nat.mul_zero, nothing, Nat.add_zero, whole,
    Nat.shiftRight_eq_div_pow, Nat.one_shiftLeft, Nat.mul_div_cancel _ (Nat.two_pow_pos 32),
    Nat.min_eq_left (by omega), UInt8.ofNat_toNat]

/-- The pixel of a color. -/
def Color.pixel (color : Color) : Pixel := ⟨color.red, color.green, color.blue, 255⟩

theorem Canvas.tint_solid {color : Color} (solid : color.alpha = 255) (under : Pixel) :
    tint color 255 under = color.pixel := by
  have full : (255 : UInt8).toNat * (255 : UInt8).toNat / 255 = 255 := rfl
  unfold tint layOver
  rw [solid, full]
  dsimp only
  rw [if_neg (by decide)]
  change Pixel.mk (blendChannel color.red under.red 255) (blendChannel color.green under.green 255)
    (blendChannel color.blue under.blue 255) 255 = _
  rw [blendChannel_solid, blendChannel_solid, blendChannel_solid]
  rfl

/-! ## Fills and images -/

namespace Canvas

variable {α : Type} [Scalar α] {canvas : Image} {column row : Nat}

theorem pixel_fill (rect : Rect α) (color : Color) (there : canvas.Holds column row) :
    (fill canvas rect color).pixel column row =
      if rect.Covers column row then tint color 255 (canvas.pixel column row)
      else canvas.pixel column row := by
  unfold fill
  rcases rect.clip_cases canvas.width canvas.height with
    ⟨clipEq, none⟩ | ⟨area, clipEq, ⟨columns, -⟩, ⟨rows, -⟩, covers⟩
  · rw [clipEq, if_neg (none column there.1 row there.2)]
  · have inside := covers column there.1 row there.2
    rw [clipEq]
    dsimp only
    rw [Image.pixel_updateRows _ _ _ there]
    refine if_congr ?_ rfl rfl
    rw [inside, PixelArea.Contains]
    omega

/-- The part of an image that is drawn is as large as the area that it is drawn on. -/
theorem size_visiblePart (image : Image) (rect : Rect α) (area : PixelArea) :
    (visiblePart image rect area).width = area.right - area.left ∧
      (visiblePart image rect area).height = area.bottom - area.top := by
  unfold visiblePart
  dsimp only
  split
  · next same => exact same
  · exact ⟨rfl, rfl⟩

theorem pixel_overlay (image : Image) (left top : Nat) (there : canvas.Holds column row) :
    (overlay canvas image left top).pixel column row =
      if (left ≤ column ∧ column < left + image.width) ∧ top ≤ row ∧ row < top + image.height then
        (image.pixel (column - left) (row - top)).atop (canvas.pixel column row)
      else canvas.pixel column row :=
  Image.pixel_updateRows _ _ _ there

/-- Whether anything of an image is drawn: it has pixels, and both sides of the rounded
rectangle are at least a pixel long. -/
def Draws (image : Image) (rect : Rect α) : Prop :=
  rect.rounded.isEmpty = false ∧ image.width ≠ 0 ∧ image.height ≠ 0

instance (image : Image) (rect : Rect α) : Decidable (Draws image rect) :=
  inferInstanceAs (Decidable (_ ∧ _))

/-- The pixel of a stretched image that comes to lie on a pixel of the canvas. -/
def drawnPixel (canvas image : Image) (rect : Rect α) (column row : Nat) : Pixel :=
  match rect.rounded.clip canvas.width canvas.height with
  | none => .clear
  | some area =>
      (visiblePart image rect.rounded area).pixel (column - area.left) (row - area.top)

theorem pixel_drawImage (image : Image) (rect : Rect α) (there : canvas.Holds column row) :
    (drawImage canvas image rect).pixel column row =
      if Draws image rect ∧ rect.rounded.Covers column row then
        (drawnPixel canvas image rect column row).atop (canvas.pixel column row)
      else canvas.pixel column row := by
  unfold drawImage
  dsimp only
  by_cases draws : Draws image rect
  · obtain ⟨notEmpty, someColumns, someRows⟩ := draws
    rw [if_neg (by simp [notEmpty, someColumns, someRows])]
    unfold drawnPixel
    rcases rect.rounded.clip_cases canvas.width canvas.height with
      ⟨clipEq, none⟩ | ⟨area, clipEq, ⟨columns, -⟩, ⟨rows, -⟩, covers⟩
    · rw [clipEq, if_neg fun both => none column there.1 row there.2 both.2]
    · have inside := covers column there.1 row there.2
      obtain ⟨width, height⟩ := size_visiblePart image rect.rounded area
      rw [clipEq]
      dsimp only
      rw [pixel_overlay _ _ _ there, width, height]
      refine if_congr ?_ rfl rfl
      rw [inside, PixelArea.Contains]
      constructor
      · intro between
        exact ⟨⟨notEmpty, someColumns, someRows⟩, by omega⟩
      · rintro ⟨-, between⟩
        omega
  · rw [if_pos, if_neg fun both => draws both.1]
    cases empty : rect.rounded.isEmpty with
    | true => rfl
    | false =>
        have nothing : image.width = 0 ∨ image.height = 0 := by
          by_contra neither
          exact draws ⟨empty, not_or.1 neither⟩
        simpa using nothing

end Canvas

namespace Rect

variable {α : Type} [Scalar α]

/-- A pixel from the rounded origin of a rectangle on, up to the sum of the rounded origin and
the rounded size. -/
def CoversBySize (rect : Rect α) (column row : Nat) : Prop :=
  ((Scalar.nearest rect.x).AtOrBefore column ∧
    (Scalar.nearest rect.rounded.right).Behind column) ∧
  (Scalar.nearest rect.y).AtOrBefore row ∧ (Scalar.nearest rect.rounded.bottom).Behind row

instance (rect : Rect α) (column row : Nat) : Decidable (rect.CoversBySize column row) :=
  inferInstanceAs (Decidable ((_ ∧ _) ∧ _ ∧ _))

/-- The sum of the rounded origin and the rounded size is the rounded edge, on both axes. -/
structure ReachesEdges (rect : Rect α) : Prop where
  right : Scalar.nearest rect.rounded.right = Scalar.nearest rect.right
  bottom : Scalar.nearest rect.rounded.bottom = Scalar.nearest rect.bottom

theorem ReachesEdges.coversBySize_iff {rect : Rect α} (reaches : rect.ReachesEdges)
    (column row : Nat) : rect.CoversBySize column row ↔ rect.Covers column row := by
  rw [CoversBySize, reaches.right, reaches.bottom]
  rfl

theorem rounded_covers_iff {rect : Rect Float} (finiteX : isFinite rect.x = true)
    (finiteY : isFinite rect.y = true) (column row : Nat) :
    rect.rounded.Covers column row ↔ rect.CoversBySize column row := by
  have left : Scalar.nearest rect.rounded.x = Scalar.nearest rect.x := nearest_roundDouble finiteX
  have top : Scalar.nearest rect.rounded.y = Scalar.nearest rect.y := nearest_roundDouble finiteY
  rw [Covers, CoversColumn, CoversRow, left, top]
  rfl

end Rect

/-! ## Exact arithmetic -/

/-- The sum of rounded numbers is at most one from their rounded sum. -/
theorem nearestInt_add_near (first second : Rat) :
    nearestInt first + nearestInt second - 1 ≤ nearestInt (first + second) ∧
      nearestInt (first + second) ≤ nearestInt first + nearestInt second + 1 := by
  have ⟨firstLow, firstHigh⟩ := nearestInt_bounds first
  have ⟨secondLow, secondHigh⟩ := nearestInt_bounds second
  have ⟨sumLow, sumHigh⟩ := nearestInt_bounds (first + second)
  have least : (nearestInt first + nearestInt second : Rat) < nearestInt (first + second) + 2 := by
    linarith
  have most : (nearestInt (first + second) : Rat) < nearestInt first + nearestInt second + 2 := by
    linarith
  norm_cast at least most
  omega

namespace Rect

theorem coversColumn_iff (rect : Rect Rat) (column : Nat) :
    rect.CoversColumn column ↔
      nearestInt rect.x ≤ column ∧ (column : Int) < nearestInt rect.right := Iff.rfl

/-- In exact arithmetic an image covers as many columns as the rounded size says. -/
theorem rounded_coversColumn_iff (rect : Rect Rat) (column : Nat) :
    rect.rounded.CoversColumn column ↔
      nearestInt rect.x ≤ column ∧
        (column : Int) < nearestInt rect.x + nearestInt rect.width := by
  have sum : rect.rounded.right = ((nearestInt rect.x + nearestInt rect.width : Int) : Rat) := by
    push_cast
    rfl
  have left : nearestInt rect.rounded.x = nearestInt rect.x := nearestInt_intCast _
  rw [coversColumn_iff, left, sum, nearestInt_intCast]

/-- A rectangle of whole numbers covers the pixels from its origin on, as many as its size says. -/
theorem covers_whole_iff (x y width height : Int) (column row : Nat) :
    (⟨x, y, width, height⟩ : Rect Rat).Covers column row ↔
      (x ≤ column ∧ (column : Int) < x + width) ∧ y ≤ row ∧ (row : Int) < y + height := by
  have edge (origin size : Int) : nearestInt ((origin : Rat) + (size : Rat)) = origin + size := by
    exact_mod_cast nearestInt_intCast (origin + size)
  change (nearestInt x ≤ column ∧ (column : Int) < nearestInt (x + width : Rat)) ∧
    nearestInt y ≤ row ∧ (row : Int) < nearestInt (y + height : Rat) ↔ _
  rw [edge, edge, nearestInt_intCast, nearestInt_intCast]

end Rect

/-! ## Neighbours -/

namespace Rect

/-- The fills of two rectangles beside each other: no column is covered twice, and none from the
left edge of the first up to the right edge of the second is left out. -/
structure FillsMeet {α : Type} [Scalar α] (first second : Rect α) : Prop where
  apart : ∀ column, first.CoversColumn column → ¬ second.CoversColumn column
  together : ∀ column, (Scalar.nearest first.x).AtOrBefore column →
    (Scalar.nearest second.right).Behind column →
      first.CoversColumn column ∨ second.CoversColumn column

/-- Fills that share an edge meet there, whatever the arithmetic. -/
theorem fillsMeet {α : Type} [Scalar α] {first second : Rect α}
    (meet : Scalar.nearest first.right = Scalar.nearest second.x)
    (defined : Scalar.nearest second.x ≠ .undefined) : first.FillsMeet second where
  apart column one other := by
    have behind := one.2
    rw [meet, Whole.behind_iff defined] at behind
    exact behind other.1
  together column left right := by
    by_cases before : (Scalar.nearest second.x).AtOrBefore column
    · exact .inr ⟨before, right⟩
    · rw [← Whole.behind_iff defined, ← meet] at before
      exact .inl ⟨left, before⟩

/-- The images of two rectangles beside each other, in exact arithmetic: at most the first column
of the second is covered twice, and at most the column in front of it is left out. -/
structure ImagesNearlyMeet (first second : Rect Rat) : Prop where
  overlap : ∀ column, first.rounded.CoversColumn column → second.rounded.CoversColumn column →
    (column : Int) = nearestInt second.x
  gap : ∀ column : Nat, nearestInt first.x ≤ column → (column : Int) < nearestInt second.x →
    ¬ first.rounded.CoversColumn column → (column : Int) = nearestInt second.x - 1

theorem imagesNearlyMeet {first second : Rect Rat} (meet : first.right = second.x) :
    first.ImagesNearlyMeet second := by
  have near := nearestInt_add_near first.x first.width
  change _ ≤ nearestInt first.right ∧ nearestInt first.right ≤ _ at near
  rw [meet] at near
  constructor
  · intro column one other
    rw [rounded_coversColumn_iff] at one other
    omega
  · intro column left inside uncovered
    rw [rounded_coversColumn_iff] at uncovered
    omega

end Rect

namespace Canvas

/-- A fill writes the pixels between the rounded edges of its rectangle. An image writes those
from the rounded origin on, as many as the rounded size says. Both write the same pixels where
origin and size add up to the rounded edges. So the fills of rectangles that share an edge, or
whose edges are rounded to one, meet there; their images may miss each other by a column, and in
exact arithmetic by no more than one. -/
theorem pixels_of_fill_and_image (canvas image : Image) (rect : Rect Float) (color : Color)
    (solid : color.alpha = 255) (finiteX : isFinite rect.x = true)
    (finiteY : isFinite rect.y = true) :
    (∀ column row, canvas.Holds column row →
      (fill canvas rect color).pixel column row =
        if rect.Covers column row then color.pixel else canvas.pixel column row) ∧
    (∀ column row, canvas.Holds column row →
      (drawImage canvas image rect).pixel column row =
        if Draws image rect ∧ rect.CoversBySize column row then
          (drawnPixel canvas image rect column row).atop (canvas.pixel column row)
        else canvas.pixel column row) ∧
    (rect.ReachesEdges →
      ∀ column row, rect.CoversBySize column row ↔ rect.Covers column row) ∧
    (∀ next : Rect Float, Scalar.nearest rect.right = Scalar.nearest next.x →
      isFinite next.x = true → rect.FillsMeet next) ∧
    ∀ first second : Rect Rat, first.right = second.x → first.ImagesNearlyMeet second := by
  refine ⟨?_, ?_, ?_, ?_, fun _ _ => Rect.imagesNearlyMeet⟩
  · intro column row there
    rw [pixel_fill rect color there, tint_solid solid]
  · intro column row there
    rw [pixel_drawImage image rect there]
    exact if_congr (and_congr_right fun _ => Rect.rounded_covers_iff finiteX finiteY column row)
      rfl rfl
  · intro reaches
    exact reaches.coversBySize_iff
  · intro next meet finite
    obtain ⟨number, isNumber⟩ := exists_isNumber finite
    refine Rect.fillsMeet meet ?_
    rw [isNumber.nearest]
    exact Whole.noConfusion

/-- A white image of one pixel. -/
def speck : Image := .plain 1 1 ⟨255, 255, 255, 255⟩

/-- Both sums of this rectangle are rounded edges, so its image covers one pixel as its fill
does. A fill on the right goes on where it ends. -/
theorem pixels_of_speck :
    (isFinite 0.25 = true ∧ isFinite 0 = true) ∧
      (drawImage (blank 4 1) speck ⟨0.25, 0, 1, 1⟩).pixel 0 0 =
        (drawnPixel (blank 4 1) speck ⟨0.25, 0, 1, 1⟩ 0 0).atop .black ∧
      (fill (blank 4 1) (⟨0.25, 0, 1, 1⟩ : Rect Float) (.rgb 1 2 3)).pixel 1 0 = .black ∧
      Rect.FillsMeet (⟨0.25, 0, 1, 1⟩ : Rect Float) ⟨1.25, 0, 1, 1⟩ ∧
      Rect.ImagesNearlyMeet ⟨1 / 4, 0, 5 / 4, 1⟩ ⟨3 / 2, 0, 5 / 4, 1⟩ := by
  have finiteX : isFinite 0.25 = true := by decide +kernel
  have finiteY : isFinite 0 = true := by decide +kernel
  obtain ⟨filled, drawn, -, fills, images⟩ := pixels_of_fill_and_image (blank 4 1) speck
    ⟨0.25, 0, 1, 1⟩ (.rgb 1 2 3) rfl finiteX finiteY
  refine ⟨⟨finiteX, finiteY⟩, ?_, ?_, ?_, ?_⟩
  · rw [drawn 0 0 ⟨by decide, by decide⟩, if_pos (by decide +kernel)]
    rfl
  · rw [filled 1 0 ⟨by decide, by decide⟩, if_neg (by decide +kernel)]
    rfl
  · exact fills ⟨1.25, 0, 1, 1⟩ (by decide +kernel) (by decide +kernel)
  · exact images ⟨1 / 4, 0, 5 / 4, 1⟩ ⟨3 / 2, 0, 5 / 4, 1⟩ (by decide +kernel)

/-- Two rectangles that share an edge, the second beginning where the first ends. -/
def neighbours : Rect Float × Rect Float := (⟨0.25, 0, 1.25, 1⟩, ⟨1.5, 0, 1.25, 1⟩)

/-- Fills of neighbouring rectangles meet, and images of the same rectangles leave a column
between them. -/
theorem images_of_neighbours_leave_gap :
    (neighbours.1.right == neighbours.2.x) = true ∧
      (fill (fill (blank 4 1) neighbours.1 (.rgb 255 255 255)) neighbours.2
        (.rgb 255 255 255)).pixels.toList =
          [speck.pixel 0 0, speck.pixel 0 0, speck.pixel 0 0, .black] ∧
      (drawImage (drawImage (blank 4 1) speck neighbours.1) speck neighbours.2).pixels.toList =
        [speck.pixel 0 0, .black, speck.pixel 0 0, .black] := by
  decide +kernel

end Canvas

end BootTheme
