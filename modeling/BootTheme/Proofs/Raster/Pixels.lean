import BootTheme.Raster.Canvas

/-!
# What becomes of every pixel

Changing a pixel, a row or an area leaves all other pixels as they are. So a fill gives its
color to the pixels of its area, and an image is laid over the pixels of its own.
-/

namespace BootTheme

namespace Image

variable {image : Image} {x y left top column row : Nat}

/-- A place within the image. -/
def Holds (image : Image) (x y : Nat) : Prop := x < image.width ∧ y < image.height

@[simp] theorem width_update (change : Pixel → Pixel) :
    (image.update x y change).width = image.width := by
  unfold update
  split <;> rfl

@[simp] theorem height_update (change : Pixel → Pixel) :
    (image.update x y change).height = image.height := by
  unfold update
  split <;> rfl

/-- Two places within the columns of an image are one if they have the same number. -/
theorem place_injective {width : Nat} (inside : x < width) (there : column < width)
    (same : y * width + x = row * width + column) : x = column ∧ y = row := by
  have columns := congrArg (· % width) same
  simp only [Nat.mul_add_mod_self_right, Nat.mod_eq_of_lt inside, Nat.mod_eq_of_lt there] at columns
  subst columns
  refine ⟨rfl, ?_⟩
  have positive : 0 < width := Nat.lt_of_le_of_lt (Nat.zero_le x) inside
  exact Nat.eq_of_mul_eq_mul_right positive (Nat.add_right_cancel same)

theorem pixel_update (change : Pixel → Pixel) (there : image.Holds column row) :
    (image.update x y change).pixel column row =
      if x = column ∧ y = row then change (image.pixel column row)
      else image.pixel column row := by
  obtain ⟨inside, below⟩ := there
  have held := place_lt image.width image.height column row inside below
  rw [← image.filled] at held
  unfold update
  by_cases within : x < image.width
  · rw [if_pos within]
    simp only [pixel, if_pos inside, Array.getElem?_modify]
    by_cases same : x = column ∧ y = row
    · obtain ⟨rfl, rfl⟩ := same
      rw [if_pos rfl, if_pos ⟨rfl, rfl⟩, Array.getElem?_eq_getElem held]
      rfl
    · rw [if_neg same, if_neg fun equal => same (place_injective within inside equal)]
  · rw [if_neg within, if_neg]
    rintro ⟨rfl, _⟩
    exact within inside

@[simp] theorem width_updateRow (change : Nat → Pixel → Pixel) (count : Nat) :
    (updateRow change y count x image).width = image.width := by
  induction count generalizing x image with
  | zero => rfl
  | succ count ih => rw [updateRow, ih, width_update]

@[simp] theorem height_updateRow (change : Nat → Pixel → Pixel) (count : Nat) :
    (updateRow change y count x image).height = image.height := by
  induction count generalizing x image with
  | zero => rfl
  | succ count ih => rw [updateRow, ih, height_update]

/-- A change of a row from a column on changes each of its pixels once. -/
theorem pixel_updateRow (change : Nat → Pixel → Pixel) (count : Nat)
    (there : image.Holds column row) :
    (updateRow change y count x image).pixel column row =
      if (x ≤ column ∧ column < x + count) ∧ y = row then change column (image.pixel column row)
      else image.pixel column row := by
  induction count generalizing x image with
  | zero => rw [updateRow, if_neg (by omega)]
  | succ count ih =>
      have still : (image.update x y (change x)).Holds column row := by
        rw [Holds, width_update, height_update]
        exact there
      rw [updateRow, ih still, pixel_update (change x) there]
      by_cases first : x = column ∧ y = row
      · obtain ⟨rfl, rfl⟩ := first
        rw [if_neg (by omega), if_pos ⟨rfl, rfl⟩, if_pos (by omega)]
      · rw [if_neg first]
        by_cases later : (x + 1 ≤ column ∧ column < x + 1 + count) ∧ y = row
        · rw [if_pos later, if_pos (by omega)]
        · rw [if_neg later, if_neg (by omega)]

@[simp] theorem width_updateRows (change : Nat → Nat → Pixel → Pixel) (columns rows : Nat) :
    (updateRows change left columns rows top image).width = image.width := by
  induction rows generalizing top image with
  | zero => rfl
  | succ rows ih => rw [updateRows, ih, width_updateRow]

@[simp] theorem height_updateRows (change : Nat → Nat → Pixel → Pixel) (columns rows : Nat) :
    (updateRows change left columns rows top image).height = image.height := by
  induction rows generalizing top image with
  | zero => rfl
  | succ rows ih => rw [updateRows, ih, height_updateRow]

/-- A change of an area changes each of its pixels once and no other. -/
theorem pixel_updateRows (change : Nat → Nat → Pixel → Pixel) (columns rows : Nat)
    (there : image.Holds column row) :
    (updateRows change left columns rows top image).pixel column row =
      if (left ≤ column ∧ column < left + columns) ∧ (top ≤ row ∧ row < top + rows) then
        change column row (image.pixel column row)
      else image.pixel column row := by
  induction rows generalizing top image with
  | zero => rw [updateRows, if_neg (by omega)]
  | succ rows ih =>
      have still : (updateRow (fun x => change x top) top columns left image).Holds column row := by
        rw [Holds, width_updateRow, height_updateRow]
        exact there
      rw [updateRows, ih still, pixel_updateRow _ columns there]
      -- The rows that follow leave a pixel of the first row as it is.
      by_cases first : (left ≤ column ∧ column < left + columns) ∧ top = row
      · obtain ⟨columnIn, rfl⟩ := first
        rw [if_neg (by omega), if_pos ⟨columnIn, rfl⟩, if_pos (by omega)]
      · rw [if_neg first]
        by_cases later : (left ≤ column ∧ column < left + columns) ∧
            (top + 1 ≤ row ∧ row < top + 1 + rows)
        · rw [if_pos later, if_pos (by omega)]
        · rw [if_neg later, if_neg (by omega)]

end Image

namespace Canvas

variable {α : Type} [Scalar α] {canvas : Image}

@[simp] theorem width_fill (rect : Rect α) (color : Color) :
    (fill canvas rect color).width = canvas.width := by
  unfold fill
  split
  · rfl
  · exact Image.width_updateRows _ _ _

@[simp] theorem height_fill (rect : Rect α) (color : Color) :
    (fill canvas rect color).height = canvas.height := by
  unfold fill
  split
  · rfl
  · exact Image.height_updateRows _ _ _

@[simp] theorem width_dot (x y : Int32) (color : Color) (coverage : UInt8) :
    (dot canvas x y color coverage).width = canvas.width := by
  unfold dot
  split
  · exact Image.width_update _
  · rfl

@[simp] theorem height_dot (x y : Int32) (color : Color) (coverage : UInt8) :
    (dot canvas x y color coverage).height = canvas.height := by
  unfold dot
  split
  · exact Image.height_update _
  · rfl

@[simp] theorem width_drawImage (image : Image) (rect : Rect α) :
    (drawImage canvas image rect).width = canvas.width := by
  unfold drawImage
  dsimp only
  split
  · rfl
  · split
    · rfl
    · exact Image.width_updateRows _ _ _

@[simp] theorem height_drawImage (image : Image) (rect : Rect α) :
    (drawImage canvas image rect).height = canvas.height := by
  unfold drawImage
  dsimp only
  split
  · rfl
  · split
    · rfl
    · exact Image.height_updateRows _ _ _

end Canvas

end BootTheme
