import Mathlib.Data.Real.Basic
import Mathlib.Tactic.Linarith
import BootTheme.Proofs.Paint.Answers

/-!
# The parts of a style box lie side by side

On each axis a part lies before the rectangle of its style box, along it or behind it, so the
parts make up three columns and three rows. Parts of different columns or rows never overlap,
however large their images are. Images that agree on the width of their column and the height of
their row leave no gap either: their parts fill the rectangle and the margins around it.
-/

namespace BootTheme

/-! ## Bands along an axis -/

/-- Where a part lies on an axis, seen from the rectangle. -/
inductive Band where
  | before
  | along
  | behind
deriving DecidableEq, Repr

namespace Band

/-- Where a band begins at a side of the rectangle, for an image of some size. -/
def start (origin length size : ℚ) : Band → ℚ
  | before => origin - size
  | along => origin
  | behind => origin + length

/-- How long a band is. A part along the rectangle is stretched to its side. -/
def extent (length size : ℚ) : Band → ℚ
  | before => size
  | along => length
  | behind => size

/-- The points between the ends of a band. -/
def Inside (band : Band) (origin length size : ℚ) (point : ℝ) : Prop :=
  band.start origin length size < point ∧
    point < band.start origin length size + band.extent length size

/-- The points of a band with its ends. -/
def Holds (band : Band) (origin length size : ℚ) (point : ℝ) : Prop :=
  band.start origin length size ≤ point ∧
    point ≤ band.start origin length size + band.extent length size

/-- The points on the side of a band, whatever its size. -/
def Zone (band : Band) (origin length : ℚ) (point : ℝ) : Prop :=
  match band with
  | before => point < origin
  | along => origin < point ∧ point < origin + length
  | behind => origin + length < point

variable {origin length size : ℚ} {point : ℝ}

theorem zone_of_inside {band : Band} (inside : band.Inside origin length size point) :
    band.Zone origin length point := by
  cases band with
  | before => simpa [start, extent, Zone] using inside.2
  | along => exact inside
  | behind => simpa [start, Zone] using inside.1

/-- A point lies on one side only. -/
theorem zone_unique {first second : Band} (straight : 0 ≤ length)
    (left : first.Zone origin length point) (right : second.Zone origin length point) :
    first = second := by
  have nonnegative : (0 : ℝ) ≤ length := Rat.cast_nonneg.2 straight
  cases first with
  | before =>
      cases second with
      | before => rfl
      | along => exact absurd (left.trans right.1) (lt_irrefl _)
      | behind => linarith [show point < origin from left, show origin + length < point from right]
  | along =>
      cases second with
      | before => exact absurd (left.1.trans right) (lt_irrefl _)
      | along => rfl
      | behind => exact absurd (left.2.trans right) (lt_irrefl _)
  | behind =>
      cases second with
      | before => linarith [show origin + length < point from left, show point < origin from right]
      | along => exact absurd (right.2.trans left) (lt_irrefl _)
      | behind => rfl

/-- The size of a band between margins; the one along the rectangle has none of its own. -/
def margin (first last : Nat) : Band → ℚ
  | before => first
  | along => 0
  | behind => last

/-- An image of the size that its band has between margins. -/
def Fits (band : Band) (first last image : Nat) : Prop :=
  match band with
  | before => image = first
  | along => True
  | behind => image = last

theorem holds_of_fits {band : Band} {first last image : Nat} (fits : band.Fits first last image) :
    band.Holds origin length image point ↔ band.Holds origin length (band.margin first last) point := by
  cases band with
  | before => rw [show image = first from fits, margin]
  | along => rfl
  | behind => rw [show image = last from fits, margin]

/-- The bands between margins follow each other without a gap. -/
theorem exists_holds_iff (origin : ℚ) (point : ℝ) (straight : 0 ≤ length) (first last : Nat) :
    (∃ band : Band, band.Holds origin length (band.margin first last) point) ↔
      origin - first ≤ point ∧ point ≤ origin + length + last := by
  have nonnegative : (0 : ℝ) ≤ length := Rat.cast_nonneg.2 straight
  have some : (0 : ℝ) ≤ first := Nat.cast_nonneg first
  have more : (0 : ℝ) ≤ last := Nat.cast_nonneg last
  constructor
  · rintro ⟨band, low, high⟩
    cases band with
    | before =>
        simp only [start, extent, margin] at low high
        push_cast at low high
        exact ⟨low, by linarith⟩
    | along =>
        simp only [start, extent] at low high
        exact ⟨by linarith, by linarith⟩
    | behind =>
        simp only [start, extent, margin] at low high
        push_cast at low high
        exact ⟨by linarith, high⟩
  · rintro ⟨low, high⟩
    rcases le_total point origin with front | rest
    · exact ⟨before, by simpa [start, margin] using low, by simpa [start, extent] using front⟩
    · rcases le_total point (origin + length) with inner | rear
      · exact ⟨along, rest, inner⟩
      · exact ⟨behind, by simpa [start] using rear, by simpa [start, extent, margin] using high⟩

end Band

/-! ## Columns and rows of parts -/

namespace StylePart

/-- Where a part lies from left to right. -/
def column : StylePart → Band
  | northwest | west | southwest => .before
  | north | center | south => .along
  | northeast | east | southeast => .behind

/-- Where a part lies from top to bottom. -/
def row : StylePart → Band
  | northwest | north | northeast => .before
  | west | center | east => .along
  | southwest | south | southeast => .behind

/-- The part in a column and a row. -/
def ofBands : Band → Band → StylePart
  | .before, .before => northwest
  | .along, .before => north
  | .behind, .before => northeast
  | .before, .along => west
  | .along, .along => center
  | .behind, .along => east
  | .before, .behind => southwest
  | .along, .behind => south
  | .behind, .behind => southeast

theorem ofBands_column_row (part : StylePart) : ofBands part.column part.row = part := by
  cases part <;> rfl

theorem column_ofBands (across down : Band) : (ofBands across down).column = across := by
  cases across <;> cases down <;> rfl

theorem row_ofBands (across down : Band) : (ofBands across down).row = down := by
  cases across <;> cases down <;> rfl

/-- Every part is among all of them. -/
theorem mem_all (part : StylePart) : part ∈ all := by
  cases part <;> decide

theorem nodup_all : all.Nodup := by decide

/-- A part is placed by its column and its row. -/
theorem placement_eq (part : StylePart) (rect : Rect ℚ) (width height : ℚ) :
    part.placement rect width height =
      ⟨part.column.start rect.x rect.width width, part.row.start rect.y rect.height height,
        part.column.extent rect.width width, part.row.extent rect.height height⟩ := by
  cases part <;> rfl

end StylePart

/-! ## Points of a rectangle -/

namespace Rect

/-- A point between the edges of a rectangle. -/
def Interior (rect : Rect ℚ) (x y : ℝ) : Prop :=
  (rect.x < x ∧ x < rect.x + rect.width) ∧ rect.y < y ∧ y < rect.y + rect.height

/-- A point of a rectangle or of its edges. -/
def HasPoint (rect : Rect ℚ) (x y : ℝ) : Prop :=
  (rect.x ≤ x ∧ x ≤ rect.x + rect.width) ∧ rect.y ≤ y ∧ y ≤ rect.y + rect.height

end Rect

/-- How far the images of a style box reach beyond the rectangle on each side. -/
structure Margins where
  left : Nat
  top : Nat
  right : Nat
  bottom : Nat

/-- A rectangle with the margins around it. -/
def Margins.around (margins : Margins) (rect : Rect ℚ) : Rect ℚ :=
  ⟨rect.x - margins.left, rect.y - margins.top, margins.left + rect.width + margins.right,
    margins.top + rect.height + margins.bottom⟩

namespace StylePart

variable {rect : Rect ℚ} {x y : ℝ}

/-- Parts with a common point between their edges are one, whatever the sizes of their images. -/
theorem eq_of_interior {first second : StylePart} {width height width' height' : ℚ}
    (wide : 0 ≤ rect.width) (high : 0 ≤ rect.height)
    (left : (first.placement rect width height).Interior x y)
    (right : (second.placement rect width' height').Interior x y) : first = second := by
  rw [placement_eq] at left right
  have columns : first.column = second.column :=
    Band.zone_unique wide (Band.zone_of_inside left.1) (Band.zone_of_inside right.1)
  have rows : first.row = second.row :=
    Band.zone_unique high (Band.zone_of_inside left.2) (Band.zone_of_inside right.2)
  rw [← ofBands_column_row first, columns, rows, ofBands_column_row]

/-! ## Images that agree -/

/-- The images of all nine parts, which agree on the width of each outer column and the height of
each outer row. -/
structure Agree (images : String → Option Image) (pattern : String) (margins : Margins) :
    Prop where
  loads : ∀ part, (images (imageName pattern part)).isSome
  widths : ∀ part image, images (imageName pattern part) = some image →
    part.column.Fits margins.left margins.right image.width
  heights : ∀ part image, images (imageName pattern part) = some image →
    part.row.Fits margins.top margins.bottom image.height

/-- A part whose image agrees with the others lies where its column and its row meet. -/
theorem hasPoint_placement_iff (part : StylePart) {margins : Margins} {image : Image}
    (width : part.column.Fits margins.left margins.right image.width)
    (height : part.row.Fits margins.top margins.bottom image.height) :
    (part.placement rect (Scalar.ofNat image.width) (Scalar.ofNat image.height)).HasPoint x y ↔
      part.column.Holds rect.x rect.width (part.column.margin margins.left margins.right) x ∧
        part.row.Holds rect.y rect.height (part.row.margin margins.top margins.bottom) y := by
  rw [placement_eq]
  exact and_congr (Band.holds_of_fits width) (Band.holds_of_fits height)

theorem mem_placed_iff {images : String → Option Image} {pattern : String}
    {found : PlacedPart ℚ} :
    found ∈ all.filterMap (placed images pattern rect) ↔
      ∃ part image, images (imageName pattern part) = some image ∧
        ⟨part, imageName pattern part,
          part.placement rect (Scalar.ofNat image.width) (Scalar.ofNat image.height)⟩ = found := by
  simp [List.mem_filterMap, placed, mem_all]

/-- Parts of images that agree fill the rectangle and its margins. -/
theorem exists_placed_iff {images : String → Option Image} {pattern : String} {margins : Margins}
    (agree : Agree images pattern margins) (wide : 0 ≤ rect.width) (high : 0 ≤ rect.height) :
    (∃ found ∈ all.filterMap (placed images pattern rect), found.rect.HasPoint x y) ↔
      (margins.around rect).HasPoint x y := by
  have columns := Band.exists_holds_iff rect.x x wide margins.left margins.right
  have rows := Band.exists_holds_iff rect.y y high margins.top margins.bottom
  rw [Rect.HasPoint, Margins.around]
  push_cast
  constructor
  · rintro ⟨found, among, point⟩
    obtain ⟨part, image, has, rfl⟩ := mem_placed_iff.1 among
    obtain ⟨inColumn, inRow⟩ := (hasPoint_placement_iff part (agree.widths part image has)
      (agree.heights part image has)).1 point
    have across := columns.1 ⟨_, inColumn⟩
    have down := rows.1 ⟨_, inRow⟩
    exact ⟨⟨across.1, by linarith [across.2]⟩, down.1, by linarith [down.2]⟩
  · rintro ⟨⟨left, right⟩, top, bottom⟩
    obtain ⟨across, inColumn⟩ := columns.2 ⟨left, by linarith⟩
    obtain ⟨down, inRow⟩ := rows.2 ⟨top, by linarith⟩
    -- The point lies in the part where its column and its row meet.
    obtain ⟨image, has⟩ := Option.isSome_iff_exists.1 (agree.loads (ofBands across down))
    refine ⟨_, mem_placed_iff.2 ⟨ofBands across down, image, has, rfl⟩, ?_⟩
    rw [hasPoint_placement_iff _ (agree.widths _ image has) (agree.heights _ image has),
      column_ofBands, row_ofBands]
    exact ⟨inColumn, inRow⟩

/-- The parts that are placed are those with an image, in the order of all parts. -/
theorem map_part_placed (images : String → Option Image) (pattern : String)
    (parts : List StylePart) :
    (parts.filterMap (placed images pattern rect)).map PlacedPart.part =
      parts.filter fun part => (images (imageName pattern part)).isSome := by
  induction parts with
  | nil => rfl
  | cons part rest ih =>
      cases has : images (imageName pattern part) with
      | none => simp [placed, has, ih]
      | some image => simp [placed, has, ih]

theorem pairwise_placed (images : String → Option Image) (pattern : String)
    (wide : 0 ≤ rect.width) (high : 0 ≤ rect.height) :
    (all.filterMap (placed images pattern rect)).Pairwise fun first second =>
      ∀ x y : ℝ, ¬ (first.rect.Interior x y ∧ second.rect.Interior x y) := by
  refine List.Pairwise.filterMap _ ?_ nodup_all
  intro first second different left placedLeft right placedRight x y both
  obtain ⟨image, -, rfl⟩ := Option.map_eq_some_iff.1 placedLeft
  obtain ⟨other, -, rfl⟩ := Option.map_eq_some_iff.1 placedRight
  exact different (eq_of_interior wide high both.1 both.2)

end StylePart

open StylePart ImageCache

/-- A style box asks for the images of its nine parts and places those that are there, each once
and in order, in the place of its part. No two of them have a point between their edges in
common, whatever the sizes of the images. If all images are there and agree on the outer columns
and rows, the parts fill the rectangle with its margins and nothing else. A style box without a
pattern has no parts. -/
theorem style_box_is_tiled (files : Files) (pattern : String) (rect : Rect ℚ) (cache : ImageCache)
    (wide : 0 ≤ rect.width) (high : 0 ≤ rect.height) :
    ∃ parts after, (place files pattern rect cache).value = (parts, after) ∧
      (pattern = "" → parts = [] ∧ after = cache) ∧
      (pattern ≠ "" →
        (∃ loaded, Loads files cache after loaded) ∧
        (∀ part, (after.images.get? (imageName pattern part)).isSome) ∧
        parts.map PlacedPart.part =
          all.filter (fun part => (after.answer (imageName pattern part)).isSome) ∧
        (∀ found ∈ parts, ∃ image, found.name = imageName pattern found.part ∧
          after.answer found.name = some image ∧
          found.rect = found.part.placement rect image.width image.height) ∧
        ∀ margins, Agree after.answer pattern margins → ∀ x y : ℝ,
          (∃ found ∈ parts, found.rect.HasPoint x y) ↔ (margins.around rect).HasPoint x y) ∧
      parts.Pairwise fun first second =>
        ∀ x y : ℝ, ¬ (first.rect.Interior x y ∧ second.rect.Interior x y) := by
  by_cases empty : pattern = ""
  · refine ⟨[], cache, ?_, fun _ => ⟨rfl, rfl⟩, fun some => absurd empty some, .nil⟩
    rw [place, if_pos (String.isEmpty_iff.2 empty)]
    rfl
  · obtain ⟨loaded, asked⟩ := asked_askAll files (all.map (imageName pattern)) cache
    generalize run : askAll files (all.map (imageName pattern)) cache = done at asked
    refine ⟨all.filterMap (placed done.value.answer pattern rect), done.value, ?_,
      fun none => absurd none empty, fun _ => ⟨⟨loaded, asked.loads⟩, ?_, ?_, ?_, ?_⟩,
      pairwise_placed _ _ wide high⟩
    · rw [place, if_neg fun none => empty (String.isEmpty_iff.1 none), placeAmong_eq,
        Noted.bind_value, run]
      rfl
    · intro part
      rw [← run]
      exact isSome_askAll files (List.mem_map_of_mem (mem_all part))
    · exact map_part_placed _ _ _
    · intro found among
      obtain ⟨part, image, has, rfl⟩ := mem_placed_iff.1 among
      exact ⟨image, rfl, has, rfl⟩
    · intro margins agree x y
      exact exists_placed_iff agree wide high

/-- The image of a part, wider at the left and at the right and higher at the top and at the
bottom than in the middle. -/
def unevenImage (part : StylePart) : Image :=
  let size (first last : Nat) : Band → Nat
    | .before => first
    | .along => 1
    | .behind => last
  .plain (size 4 5 part.column) (size 3 2 part.row) .black

/-- A cache that holds all nine images. -/
def unevenBox : ImageCache :=
  all.foldl (fun cache part => cache.insert (imageName "box_*.png" part) (unevenImage part))
    { themeDir := "." }

/-- Nine images of six sizes fill the rectangle and the margins around it. -/
theorem unevenBox_is_tiled :
    ((0 : ℚ) ≤ 20 ∧ (0 : ℚ) ≤ 30) ∧
      ∃ parts after,
        (place Disk.empty.still "box_*.png" ⟨10, 10, 20, 30⟩ unevenBox).value = (parts, after) ∧
        parts.map PlacedPart.part = all ∧
        ∀ x y : ℝ, (∃ found ∈ parts, found.rect.HasPoint x y) ↔
          (Margins.around ⟨4, 3, 5, 2⟩ ⟨10, 10, 20, 30⟩).HasPoint x y := by
  have wide : (0 : ℚ) ≤ 20 := by norm_num
  have high : (0 : ℚ) ≤ 30 := by norm_num
  obtain ⟨parts, after, run, -, named, -⟩ :=
    style_box_is_tiled Disk.empty.still "box_*.png" ⟨10, 10, 20, 30⟩ unevenBox wide high
  obtain ⟨⟨loaded, loads⟩, -, order, -, tiled⟩ := named (by decide)
  have held (part : StylePart) :
      after.answer (imageName "box_*.png" part) = some (unevenImage part) := by
    have known : unevenBox.images.get? (imageName "box_*.png" part) =
        some (some (unevenImage part)) := by
      cases part <;> decide +kernel
    rw [answer, loads.get?_of_known known]
    rfl
  refine ⟨⟨wide, high⟩, parts, after, run, ?_, tiled _ ⟨?_, ?_, ?_⟩⟩
  · rw [order, List.filter_eq_self]
    intro part _
    rw [held, Option.isSome_some]
  · intro part
    rw [held, Option.isSome_some]
  · intro part image has
    rw [held, Option.some_inj] at has
    subst has
    cases part <;> trivial
  · intro part image has
    rw [held, Option.some_inj] at has
    subst has
    cases part <;> trivial

/-- A cache that holds an image without a name. -/
def namelessImage : ImageCache := ({ themeDir := "." } : ImageCache).insert "" (.plain 1 1 .black)

/-- Without a pattern the images of all parts are without a name, and none is placed even if such
an image is there. -/
theorem nothing_placed_without_pattern :
    (∀ part, (namelessImage.answer (imageName "" part)).isSome) ∧
      (place Disk.empty.still "" (⟨0, 0, 1, 1⟩ : Rect ℚ) namelessImage).value.1 = [] := by
  refine ⟨fun part => ?_, rfl⟩
  cases part <;> decide +kernel

end BootTheme
