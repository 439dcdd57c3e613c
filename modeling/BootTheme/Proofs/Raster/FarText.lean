import Mathlib.Algebra.Ring.Int.Defs
import Mathlib.Algebra.Ring.Nat
import BootTheme.Proofs.Raster.Steps

/-!
# Text far from the canvas

The places of text are sums of 32 bits, so text near the ends of their range wraps around when
it is drawn, and is lost where sums are checked. The wrapped places are far from a canvas of
any size that can be had, so text is drawn as if its places were integers without bounds.
-/

namespace BootTheme

/-! ## Sums of 32 bits -/

/-- The integers of 32 bits. -/
def IsWord (value : Int) : Prop := -2 ^ 31 ≤ value ∧ value < 2 ^ 31

instance (value : Int) : Decidable (IsWord value) :=
  inferInstanceAs (Decidable (-2 ^ 31 ≤ value ∧ value < 2 ^ 31))

/-- A sum, lost when it leaves the range of 32 bits. -/
def add? (first second : Int32) : Option Int32 :=
  if IsWord (first.toInt + second.toInt) then some (first + second) else none

/-- A difference, lost when it leaves the range of 32 bits. -/
def sub? (first second : Int32) : Option Int32 :=
  if IsWord (first.toInt - second.toInt) then some (first - second) else none

theorem add?_eq {first second : Int32} {left right : Int} (isLeft : first.toInt = left)
    (isRight : second.toInt = right) :
    add? first second = if IsWord (left + right) then some (first + second) else none := by
  rw [add?, isLeft, isRight]

theorem sub?_eq {first second : Int32} {left right : Int} (isLeft : first.toInt = left)
    (isRight : second.toInt = right) :
    sub? first second = if IsWord (left - right) then some (first - second) else none := by
  rw [sub?, isLeft, isRight]

theorem bmod_of_isWord {value : Int} (word : IsWord value) : value.bmod (2 ^ 32) = value :=
  Int.bmod_eq_of_le (by have := word.1; omega) (by have := word.2; omega)

theorem toInt_ofInt_of_isWord {value : Int} (word : IsWord value) :
    (Int32.ofInt value).toInt = value :=
  Int32.toInt_ofInt_of_le word.1 word.2

/-- An integer that wraps around misses all places but those at the far end of the range. -/
theorem bmod_eq_iff {value : Int} {place : Nat} (low : -2 ^ 31 - 2 ^ 17 ≤ value)
    (high : value < 2 ^ 31 + 2 ^ 17) (near : place < 2 ^ 31 - 2 ^ 17) :
    value.bmod (2 ^ 32) = place ↔ value = place := by
  by_cases word : IsWord value
  · rw [bmod_of_isWord word]
  · rw [IsWord] at word
    rw [Int.bmod_def]
    split <;> omega

namespace TextLine

variable {β : Type} [Scalar β]

/-- The column or row of a place, as near as 32 bits come. An undefined place is at zero. -/
def cell (position : β) : Int := (Scalar.nearest position).saturate (-2147483648) 2147483647

theorem isWord_cell (position : β) : IsWord (cell position) := by
  rw [IsWord, cell]
  cases Scalar.nearest position <;> simp only [Whole.saturate] <;> omega

@[simp] theorem toInt_place (position : β) : (place position).toInt = cell position :=
  toInt_ofInt_of_isWord (isWord_cell position)

end TextLine

/-! ## Pictures and their places -/

/-- A picture of a size and offset that fonts have. -/
structure Glyph.Small {β : Type} (glyph : Glyph β) : Prop where
  left : -65536 ≤ glyph.left ∧ glyph.left ≤ 65536
  bottom : -65536 ≤ glyph.bottom ∧ glyph.bottom ≤ 65536
  width : glyph.width ≤ 65536
  height : glyph.height ≤ 65536

/-- A point of a picture at a place without bounds. -/
structure Ink where
  column : Int
  row : Int
  coverage : UInt8

/-- How far a point covers a pixel, if it comes to lie there. -/
def Dot.at? (column row : Nat) (point : Dot) : Option UInt8 :=
  if point.x.toInt = column ∧ point.y.toInt = row then some point.coverage else none

/-- How far a point at a place without bounds covers a pixel, if it comes to lie there. -/
def Ink.at? (column row : Nat) (ink : Ink) : Option UInt8 :=
  if ink.column = column ∧ ink.row = row then some ink.coverage else none

namespace Glyph

variable {β : Type} (glyph : Glyph β)

/-- The points of a picture with its top left corner in the given place. -/
def inks (left top : Int) : List Ink :=
  (List.range (glyph.width * glyph.height)).map fun place =>
    ⟨left + (place % glyph.width : Nat), top + (place / glyph.width : Nat),
      glyph.coverage[place]?.getD 0⟩

variable {glyph} {place : Nat}

theorem mod_width_lt (inside : place < glyph.width * glyph.height) :
    place % glyph.width < glyph.width :=
  Nat.mod_lt _ (Nat.pos_of_mul_pos_right (Nat.lt_of_le_of_lt (Nat.zero_le place) inside))

theorem div_width_lt (inside : place < glyph.width * glyph.height) :
    place / glyph.width < glyph.height :=
  Nat.div_lt_of_lt_mul inside

namespace Small

variable (small : glyph.Small)
include small

theorem toInt_left : (Int32.ofInt glyph.left).toInt = glyph.left :=
  toInt_ofInt_of_isWord ⟨by have := small.left; omega, by have := small.left; omega⟩

theorem toInt_bottom : (Int32.ofInt glyph.bottom).toInt = glyph.bottom :=
  toInt_ofInt_of_isWord ⟨by have := small.bottom; omega, by have := small.bottom; omega⟩

theorem toInt_height : (Int32.ofInt glyph.height).toInt = glyph.height :=
  toInt_ofInt_of_isWord ⟨by have := small.height; omega, by have := small.height; omega⟩

theorem toInt_column (inside : place < glyph.width * glyph.height) :
    (Int32.ofNat (place % glyph.width)).toInt = (place % glyph.width : Nat) :=
  Int32.toInt_ofNat_of_lt (by have := mod_width_lt inside; have := small.width; omega)

theorem toInt_row (inside : place < glyph.width * glyph.height) :
    (Int32.ofNat (place / glyph.width)).toInt = (place / glyph.width : Nat) :=
  Int32.toInt_ofNat_of_lt (by have := div_width_lt inside; have := small.height; omega)

end Small

variable (glyph) [Scalar β]

/-- All sums for a picture stay within 32 bits: its edges do, and so does the last column of one
that has points. -/
structure Within (pen baseline : β) : Prop where
  left : IsWord (TextLine.cell pen + glyph.left)
  bottom : IsWord (TextLine.cell baseline - glyph.bottom)
  top : IsWord (TextLine.cell baseline - glyph.bottom - glyph.height)
  right : 0 < glyph.width * glyph.height →
    IsWord (TextLine.cell pen + glyph.left + glyph.width - 1)

instance (pen baseline : β) : Decidable (glyph.Within pen baseline) :=
  decidable_of_iff
    (IsWord (TextLine.cell pen + glyph.left) ∧ IsWord (TextLine.cell baseline - glyph.bottom) ∧
      IsWord (TextLine.cell baseline - glyph.bottom - glyph.height) ∧
      (0 < glyph.width * glyph.height →
        IsWord (TextLine.cell pen + glyph.left + glyph.width - 1)))
    ⟨fun ⟨left, bottom, top, right⟩ => ⟨left, bottom, top, right⟩,
      fun within => ⟨within.left, within.bottom, within.top, within.right⟩⟩

variable {glyph} {pen baseline : β}

/-- A picture that is set far enough from the ends of the range stays within it. -/
theorem Small.within (small : glyph.Small)
    (column : (TextLine.cell pen).natAbs ≤ 2 ^ 31 - 2 ^ 17)
    (row : (TextLine.cell baseline).natAbs ≤ 2 ^ 31 - 2 ^ 17) : glyph.Within pen baseline := by
  obtain ⟨left, bottom, width, height⟩ := small
  exact {
    left := ⟨by omega, by omega⟩
    bottom := ⟨by omega, by omega⟩
    top := ⟨by omega, by omega⟩
    right := fun _ => ⟨by omega, by omega⟩ }

end Glyph

/-! ## The pictures of a line -/

namespace TextLine

variable {α β : Type} [Scalar β]

/-- The pictures of a line with the places of the pen. -/
def pictures (convert : α → β) (font : FontSize β) (text : String) (rect : Rect α)
    (align : Align) : List (β × Glyph β) :=
  (set (penStart align (convert rect.x) (convert rect.width) (width font text))
    (glyphs font text)).1

/-- The points of a line at places without bounds. -/
def inks (convert : α → β) (font : FontSize β) (text : String) (rect : Rect α) (align : Align) :
    List Ink :=
  (pictures convert font text rect align).flatMap fun (pen, glyph) =>
    glyph.inks (cell pen + glyph.left)
      (cell (convert rect.y + font.ascent) - glyph.bottom - glyph.height)

theorem mem_glyphs_of_mem_set {pen : β} {glyphs : List (Glyph β)} {picture : β × Glyph β}
    (member : picture ∈ (set pen glyphs).1) : picture.2 ∈ glyphs := by
  induction glyphs generalizing pen with
  | nil => cases member
  | cons glyph rest ih =>
      rcases List.mem_cons.1 member with rfl | later
      · exact List.mem_cons_self
      · exact List.mem_cons_of_mem _ (ih later)

/-- A font of small pictures sets no others. -/
theorem small_of_mem_pictures {convert : α → β} {font : FontSize β} {text : String}
    {rect : Rect α} {align : Align} (small : ∀ entry ∈ font.glyphs, entry.2.Small)
    {picture : β × Glyph β} (member : picture ∈ pictures convert font text rect align) :
    picture.2.Small := by
  obtain ⟨char, -, same⟩ := List.mem_map.1 (mem_glyphs_of_mem_set member)
  rw [← same, FontSize.glyph]
  cases found : font.glyphs.lookup char with
  | none => constructor <;> simp
  | some glyph =>
      obtain ⟨before, after, known, -⟩ := List.lookup_eq_some_iff.1 found
      exact small (char, glyph) (by simp [known])

end TextLine

namespace Canvas

variable {α β : Type} [Scalar β] {canvas : Image} {column row : Nat}

/-! ## Points that wrap around -/

/-- What points of text make of a pixel: those that come to lie there are blended with it. -/
theorem pixel_foldl_dot (color : Color) (points : List Dot) (there : canvas.Holds column row) :
    (points.foldl (fun canvas point => dot canvas point.x point.y color point.coverage)
        canvas).pixel column row =
      (points.filterMap (Dot.at? column row)).foldl
        (fun under coverage => tint color coverage under) (canvas.pixel column row) := by
  induction points generalizing canvas with
  | nil => rfl
  | cons point rest ih =>
      have still : (dot canvas point.x point.y color point.coverage).Holds column row := by
        simpa [Image.Holds] using there
      rw [List.foldl_cons, ih still, pixel_dot _ _ _ _ there, List.filterMap_cons, Dot.at?]
      split <;> rfl

/-- The points of a picture come to lie where they would without bounds, as far as this is on
a canvas. -/
theorem dots_at_eq_inks_at {glyph : Glyph β} (small : glyph.Small) (pen baseline : β)
    (inWidth : column < 2 ^ 31 - 2 ^ 17) (inHeight : row < 2 ^ 31 - 2 ^ 17) :
    (glyph.dots (TextLine.glyphLeft pen glyph)
        (TextLine.glyphTop baseline glyph)).filterMap (Dot.at? column row) =
      (glyph.inks (TextLine.cell pen + glyph.left)
        (TextLine.cell baseline - glyph.bottom - glyph.height)).filterMap
          (Ink.at? column row) := by
  rw [Glyph.dots, Glyph.inks, List.filterMap_map, List.filterMap_map]
  apply List.filterMap_congr
  intro place member
  have inside : place < glyph.width * glyph.height := List.mem_range.1 member
  have across := Glyph.mod_width_lt inside
  have down := Glyph.div_width_lt inside
  have penWord := TextLine.isWord_cell pen
  have baselineWord := TextLine.isWord_cell baseline
  have columns : (TextLine.glyphLeft pen glyph + Int32.ofNat (place % glyph.width)).toInt =
      (TextLine.cell pen + glyph.left + (place % glyph.width : Nat)).bmod (2 ^ 32) := by
    rw [Int32.toInt_add, TextLine.glyphLeft, Int32.toInt_add, TextLine.toInt_place,
      small.toInt_left, small.toInt_column inside, Int.bmod_add_bmod]
  have rows : (TextLine.glyphTop baseline glyph + Int32.ofNat (place / glyph.width)).toInt =
      (TextLine.cell baseline - glyph.bottom - glyph.height + (place / glyph.width : Nat)).bmod
        (2 ^ 32) := by
    rw [Int32.toInt_add, TextLine.glyphTop, Int32.toInt_sub, Int32.toInt_sub, TextLine.toInt_place,
      small.toInt_bottom, small.toInt_height, small.toInt_row inside, Int.bmod_sub_bmod,
      Int.bmod_add_bmod]
  obtain ⟨left, bottom, width, height⟩ := small
  rw [IsWord] at penWord baselineWord
  simp only [Function.comp_apply, Dot.at?, Ink.at?, columns, rows]
  generalize place % glyph.width = x at across
  generalize place / glyph.width = y at down
  exact if_congr (and_congr (bmod_eq_iff (by omega) (by omega) inWidth)
    (bmod_eq_iff (by omega) (by omega) inHeight)) rfl rfl

/-- Text is drawn as if the places of its points had no bounds. -/
theorem pixel_drawText {convert : α → β} {font : FontSize β}
    (small : ∀ entry ∈ font.glyphs, entry.2.Small) (canvas : Image) (text : String)
    (rect : Rect α) (color : Color) (align : Align) (there : canvas.Holds column row)
    (inWidth : column < 2 ^ 31 - 2 ^ 17) (inHeight : row < 2 ^ 31 - 2 ^ 17) :
    (drawText convert font canvas text rect color align).pixel column row =
      ((TextLine.inks convert font text rect align).filterMap (Ink.at? column row)).foldl
        (fun under coverage => tint color coverage under) (canvas.pixel column row) := by
  have points : (textDots convert font text rect align).filterMap (Dot.at? column row) =
      (TextLine.inks convert font text rect align).filterMap (Ink.at? column row) := by
    rw [textDots, TextLine.inks, List.filterMap_flatMap, List.filterMap_flatMap]
    apply List.flatMap_congr
    intro picture member
    exact dots_at_eq_inks_at (TextLine.small_of_mem_pictures small member) _ _ inWidth inHeight
  rw [drawText_eq_dots, pixel_foldl_dot color _ there, points]

/-! ## Sums that are checked -/

/-- A picture of a character, its sums checked. -/
def drawGlyph? (canvas : Image) (pen baseline : β) (glyph : Glyph β) (color : Color) :
    Option Image := do
  let left ← add? (TextLine.place pen) (Int32.ofInt glyph.left)
  let bottom ← sub? (TextLine.place baseline) (Int32.ofInt glyph.bottom)
  let top ← sub? bottom (Int32.ofInt glyph.height)
  (List.range (glyph.width * glyph.height)).foldlM (fun canvas place => do
    let x ← add? left (Int32.ofNat (place % glyph.width))
    let y ← add? top (Int32.ofNat (place / glyph.width))
    return dot canvas x y color (glyph.coverage[place]?.getD 0)) canvas

/-- A line of text, its sums checked. -/
def drawText? (convert : α → β) (font : FontSize β) (canvas : Image) (text : String)
    (rect : Rect α) (color : Color) (align : Align) : Option Image :=
  (TextLine.pictures convert font text rect align).foldlM (fun canvas (pen, glyph) =>
    drawGlyph? canvas pen (convert rect.y + font.ascent) glyph color) canvas

/-- Two checks, one after the other, succeed when both do. -/
theorem guards_eq {γ δ ε : Type} (first second : Prop) [Decidable first] [Decidable second]
    (x : γ) (y : δ) (make : γ → δ → ε) :
    ((if first then some x else none).bind fun x =>
      (if second then some y else none).bind fun y => some (make x y)) =
      if first ∧ second then some (make x y) else none := by
  by_cases one : first <;> by_cases two : second <;> simp [one, two]

/-- Checked steps succeed as long as every one does. -/
theorem foldlM_guard {σ ι : Type} (good : ι → Prop) [DecidablePred good] (step : σ → ι → σ)
    (checked : σ → ι → Option σ) (items : List ι) (state : σ)
    (steps : ∀ state, ∀ item ∈ items,
      checked state item = if good item then some (step state item) else none) :
    items.foldlM checked state =
      if ∀ item ∈ items, good item then some (items.foldl step state) else none := by
  induction items generalizing state with
  | nil => simp
  | cons item rest ih =>
      have later := fun state => ih state fun state item member =>
        steps state item (List.mem_cons_of_mem _ member)
      rw [List.foldlM_cons, steps state item List.mem_cons_self]
      by_cases first : good item <;> simp [first, later]

variable {glyph : Glyph β} {pen baseline : β}

/-! ### One picture -/

theorem toInt_glyphLeft (small : glyph.Small) (left : IsWord (TextLine.cell pen + glyph.left)) :
    (TextLine.glyphLeft pen glyph).toInt = TextLine.cell pen + glyph.left := by
  rw [TextLine.glyphLeft, Int32.toInt_add, TextLine.toInt_place, small.toInt_left,
    bmod_of_isWord left]

theorem toInt_bottom (small : glyph.Small)
    (bottom : IsWord (TextLine.cell baseline - glyph.bottom)) :
    (TextLine.place baseline - Int32.ofInt glyph.bottom).toInt =
      TextLine.cell baseline - glyph.bottom := by
  rw [Int32.toInt_sub, TextLine.toInt_place, small.toInt_bottom, bmod_of_isWord bottom]

theorem toInt_glyphTop (small : glyph.Small)
    (bottom : IsWord (TextLine.cell baseline - glyph.bottom))
    (top : IsWord (TextLine.cell baseline - glyph.bottom - glyph.height)) :
    (TextLine.glyphTop baseline glyph).toInt =
      TextLine.cell baseline - glyph.bottom - glyph.height := by
  rw [TextLine.glyphTop, Int32.toInt_sub, toInt_bottom small bottom, small.toInt_height,
    bmod_of_isWord top]

/-- The sums for the points of a picture stay within 32 bits if those for its last column do. -/
theorem points_within_iff (left : IsWord (TextLine.cell pen + glyph.left))
    (bottom : IsWord (TextLine.cell baseline - glyph.bottom))
    (top : IsWord (TextLine.cell baseline - glyph.bottom - glyph.height)) :
    (∀ place ∈ List.range (glyph.width * glyph.height),
        IsWord (TextLine.cell pen + glyph.left + (place % glyph.width : Nat)) ∧
          IsWord (TextLine.cell baseline - glyph.bottom - glyph.height +
            (place / glyph.width : Nat))) ↔
      glyph.Within pen baseline := by
  rw [IsWord] at left bottom top
  constructor
  · intro points
    refine ⟨left, bottom, top, fun filled => ?_⟩
    have wide : 0 < glyph.width := Nat.pos_of_mul_pos_right filled
    have last : glyph.width - 1 < glyph.width * glyph.height := by
      have tall : 0 < glyph.height := Nat.pos_of_mul_pos_left filled
      have := Nat.le_mul_of_pos_right glyph.width tall
      omega
    have word := (points _ (List.mem_range.2 last)).1
    rw [Nat.mod_eq_of_lt (by omega), IsWord] at word
    rw [IsWord]
    omega
  · intro within place member
    have inside := List.mem_range.1 member
    have across := Glyph.mod_width_lt inside
    have down := Glyph.div_width_lt inside
    have right := within.right (Nat.lt_of_le_of_lt (Nat.zero_le place) inside)
    rw [IsWord] at right
    generalize place % glyph.width = column at across
    generalize place / glyph.width = row at down
    exact ⟨⟨by omega, by omega⟩, by omega, by omega⟩

/-- The checked sums for a point of a picture whose edges are within 32 bits. -/
theorem checked_dot_eq (small : glyph.Small) (canvas : Image) (color : Color)
    (left : IsWord (TextLine.cell pen + glyph.left))
    (bottom : IsWord (TextLine.cell baseline - glyph.bottom))
    (top : IsWord (TextLine.cell baseline - glyph.bottom - glyph.height)) {place : Nat}
    (inside : place < glyph.width * glyph.height) (coverage : UInt8) :
    (do
      let x ← add? (TextLine.glyphLeft pen glyph) (Int32.ofNat (place % glyph.width))
      let y ← add? (TextLine.glyphTop baseline glyph) (Int32.ofNat (place / glyph.width))
      return dot canvas x y color coverage) =
      if IsWord (TextLine.cell pen + glyph.left + (place % glyph.width : Nat)) ∧
          IsWord (TextLine.cell baseline - glyph.bottom - glyph.height +
            (place / glyph.width : Nat)) then
        some (dot canvas (TextLine.glyphLeft pen glyph + Int32.ofNat (place % glyph.width))
          (TextLine.glyphTop baseline glyph + Int32.ofNat (place / glyph.width)) color coverage)
      else none := by
  rw [add?, add?, toInt_glyphLeft small left, toInt_glyphTop small bottom top,
    small.toInt_column inside, small.toInt_row inside]
  exact guards_eq _ _ _ _ _

theorem drawGlyph?_eq (small : glyph.Small) (canvas : Image) (color : Color) :
    drawGlyph? canvas pen baseline glyph color =
      if glyph.Within pen baseline then
        some (drawGlyph canvas (TextLine.glyphLeft pen glyph) (TextLine.glyphTop baseline glyph)
          glyph color)
      else none := by
  rw [drawGlyph?, add?_eq (TextLine.toInt_place pen) small.toInt_left,
    sub?_eq (TextLine.toInt_place baseline) small.toInt_bottom]
  by_cases left : IsWord (TextLine.cell pen + glyph.left)
  case neg =>
    have outside : ¬ glyph.Within pen baseline := fun within => left within.left
    simp [left, outside]
  by_cases bottom : IsWord (TextLine.cell baseline - glyph.bottom)
  case neg =>
    have outside : ¬ glyph.Within pen baseline := fun within => bottom within.bottom
    simp [left, bottom, outside]
  have topEq := sub?_eq (toInt_bottom small bottom) small.toInt_height
  by_cases top : IsWord (TextLine.cell baseline - glyph.bottom - glyph.height)
  case neg =>
    have outside : ¬ glyph.Within pen baseline := fun within => top within.top
    simp [left, bottom, topEq, top, outside]
  simp only [if_pos left, if_pos bottom, topEq, if_pos top, Option.bind_eq_bind, Option.bind_some]
  have points := foldlM_guard _ _ _ (List.range (glyph.width * glyph.height)) canvas
    fun canvas place member =>
      checked_dot_eq small canvas color left bottom top (List.mem_range.1 member)
        (glyph.coverage[place]?.getD 0)
  exact points.trans (if_congr (points_within_iff left bottom top) rfl rfl)

/-- Text is drawn with checked sums if all pictures stay within 32 bits, and is lost if one does
not. -/
theorem drawText?_eq (convert : α → β) {font : FontSize β}
    (small : ∀ entry ∈ font.glyphs, entry.2.Small) (canvas : Image) (text : String)
    (rect : Rect α) (color : Color) (align : Align) :
    drawText? convert font canvas text rect color align =
      if ∀ picture ∈ TextLine.pictures convert font text rect align,
          picture.2.Within picture.1 (convert rect.y + font.ascent) then
        some (drawText convert font canvas text rect color align)
      else none :=
  foldlM_guard
    (fun picture : β × Glyph β => picture.2.Within picture.1 (convert rect.y + font.ascent))
    (fun canvas (pen, glyph) => drawGlyph canvas (TextLine.glyphLeft pen glyph)
      (TextLine.glyphTop (convert rect.y + font.ascent) glyph) glyph color)
    (fun canvas (pen, glyph) =>
      drawGlyph? canvas pen (convert rect.y + font.ascent) glyph color) _ canvas
    fun canvas _ member =>
      drawGlyph?_eq (TextLine.small_of_mem_pictures small member) canvas color

/-! ## Text anywhere -/

/-- Text in a font of small pictures, anywhere around a canvas that is not gigantic. Each pixel is
blended with just the points that lie there when places are integers without bounds, so the text
is clipped and never comes back at the other end. With checked sums the text is lost if and only
if a picture leaves the range of 32 bits, and none does when the pen and the baseline keep a
distance from its ends. -/
theorem far_text_is_clipped (convert : α → β) (font : FontSize β)
    (small : ∀ entry ∈ font.glyphs, entry.2.Small) (canvas : Image)
    (columns : canvas.width ≤ 2 ^ 31 - 2 ^ 17) (rows : canvas.height ≤ 2 ^ 31 - 2 ^ 17)
    (text : String) (rect : Rect α) (color : Color) (align : Align) :
    (∀ column row, canvas.Holds column row →
      (drawText convert font canvas text rect color align).pixel column row =
        ((TextLine.inks convert font text rect align).filterMap (Ink.at? column row)).foldl
          (fun under coverage => tint color coverage under) (canvas.pixel column row)) ∧
      (drawText? convert font canvas text rect color align =
        if ∀ picture ∈ TextLine.pictures convert font text rect align,
            picture.2.Within picture.1 (convert rect.y + font.ascent) then
          some (drawText convert font canvas text rect color align)
        else none) ∧
      ((∀ picture ∈ TextLine.pictures convert font text rect align,
          (TextLine.cell picture.1).natAbs ≤ 2 ^ 31 - 2 ^ 17) →
        (TextLine.cell (convert rect.y + font.ascent)).natAbs ≤ 2 ^ 31 - 2 ^ 17 →
        drawText? convert font canvas text rect color align =
          some (drawText convert font canvas text rect color align)) := by
  have checked := drawText?_eq convert small canvas text rect color align
  refine ⟨fun column row there => ?_, checked, fun pens baseline => ?_⟩
  · exact pixel_drawText small canvas text rect color align there
      (Nat.lt_of_lt_of_le there.1 columns) (Nat.lt_of_lt_of_le there.2 rows)
  · rw [checked, if_pos]
    intro picture member
    exact (TextLine.small_of_mem_pictures small member).within (pens picture member) baseline

/-- A font with one letter, of two pixels. -/
def tagFont : FontSize Float32 := ⟨1, [('A', ⟨2, 0, 0, 2, 1, #[255, 255]⟩)]⟩

theorem tagFont_small : ∀ entry ∈ tagFont.glyphs, entry.2.Small := by
  simp only [tagFont, List.forall_mem_singleton]
  exact ⟨by decide, by decide, by decide, by decide⟩

/-- Text that begins in front of the canvas is cut off there. -/
theorem cutTag_is_clipped :
    ((∀ entry ∈ tagFont.glyphs, entry.2.Small) ∧ (blank 2 1).width ≤ 2 ^ 31 - 2 ^ 17 ∧
      (blank 2 1).height ≤ 2 ^ 31 - 2 ^ 17) ∧
      (drawText narrow tagFont (blank 2 1) "A" ⟨-1, 0, 4, 4⟩ (.rgb 1 2 3) .left).pixel 0 0 =
        ⟨1, 2, 3, 255⟩ ∧
      (drawText narrow tagFont (blank 2 1) "A" ⟨-1, 0, 4, 4⟩ (.rgb 1 2 3) .left).pixel 1 0 =
        .black ∧
      drawText? narrow tagFont (blank 2 1) "A" ⟨-1, 0, 4, 4⟩ (.rgb 1 2 3) .left =
        some (drawText narrow tagFont (blank 2 1) "A" ⟨-1, 0, 4, 4⟩ (.rgb 1 2 3) .left) := by
  obtain ⟨pixels, -, inner⟩ := far_text_is_clipped narrow tagFont tagFont_small (blank 2 1)
    (by decide) (by decide) "A" ⟨-1, 0, 4, 4⟩ (.rgb 1 2 3) .left
  refine ⟨⟨tagFont_small, by decide, by decide⟩, ?_, ?_, ?_⟩
  · exact (pixels 0 0 ⟨by decide, by decide⟩).trans (by decide +kernel)
  · exact (pixels 1 0 ⟨by decide, by decide⟩).trans (by decide +kernel)
  · exact inner (by decide +kernel) (by decide +kernel)

/-- Text three thousand million pixels to the right leaves the range of 32 bits. Text that would
end where the canvas begins is drawn on it, since its pen is the difference of two infinities. -/
theorem farTag_leaves_range :
    (∀ entry ∈ tagFont.glyphs, entry.2.Small) ∧
      drawText? narrow tagFont (blank 2 1) "A" ⟨3e9, 0, 4, 4⟩ (.rgb 1 2 3) .left = none ∧
      (drawText narrow tagFont (blank 2 1) "A" ⟨-1e39, 0, 1e39, 4⟩ (.rgb 1 2 3) .right).pixel 0 0 =
        ⟨1, 2, 3, 255⟩ := by
  refine ⟨tagFont_small, ?_, by decide +kernel⟩
  exact Option.isNone_iff_eq_none.1 (by decide +kernel)

end Canvas

end BootTheme
