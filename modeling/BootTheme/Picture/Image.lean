/-!
# Images

An image is a grid of pixels, row by row from the top. Every operation keeps the
number of pixels equal to the area.
-/

namespace BootTheme

/-- Color and opacity of a pixel. -/
structure Pixel where
  red : UInt8
  green : UInt8
  blue : UInt8
  alpha : UInt8
deriving DecidableEq, Repr

/-- A grid of pixels. -/
structure Image where
  width : Nat
  height : Nat
  pixels : Array Pixel
  filled : pixels.size = width * height
deriving DecidableEq, Repr

namespace Pixel

/-- Nothing. -/
def clear : Pixel := ⟨0, 0, 0, 0⟩

/-- The color of an empty canvas. -/
def black : Pixel := ⟨0, 0, 0, 255⟩

end Pixel

namespace Image

/-- The image with the given pixel at every place. -/
def ofFn (width height : Nat) (pixel : Nat → Nat → Pixel) : Image :=
  { width, height
    pixels := Array.ofFn fun (place : Fin (width * height)) =>
      pixel (place.val % width) (place.val / width)
    filled := by simp }

/-- The image with one pixel everywhere. -/
def plain (width height : Nat) (pixel : Pixel) : Image :=
  { width, height
    pixels := Array.replicate (width * height) pixel
    filled := by simp }

/-- The pixel in a column and a row; outside there is nothing. -/
def pixel (image : Image) (x y : Nat) : Pixel :=
  if x < image.width then image.pixels[y * image.width + x]?.getD .clear else .clear

/-- The image with one pixel changed; a place outside changes nothing. -/
def update (image : Image) (x y : Nat) (change : Pixel → Pixel) : Image :=
  if x < image.width then
    { image with
      pixels := image.pixels.modify (y * image.width + x) change
      filled := by simp [image.filled] }
  else image

/-- So many pixels of a row changed, from left to right. -/
def updateRow (change : Nat → Pixel → Pixel) (y : Nat) : Nat → Nat → Image → Image
  | 0, _, image => image
  | count + 1, x, image => updateRow change y count (x + 1) (image.update x y (change x))

/-- So many rows changed in the columns from `left` on, from top to bottom. -/
def updateRows (change : Nat → Nat → Pixel → Pixel) (left columns : Nat) :
    Nat → Nat → Image → Image
  | 0, _, image => image
  | count + 1, y, image =>
      updateRows change left columns count (y + 1)
        (updateRow (fun x => change x y) y columns left image)

/-- The part of an image from a column and a row on. -/
def crop (image : Image) (left top width height : Nat) : Image :=
  ofFn width height fun x y => image.pixel (left + x) (top + y)

/-- The place of a pixel lies within the image. -/
theorem place_lt (width height x y : Nat) (hx : x < width) (hy : y < height) :
    y * width + x < width * height := by
  have step : y * width + width ≤ width * height := by
    rw [← Nat.succ_mul, Nat.mul_comm width height]
    exact Nat.mul_le_mul_right width hy
  omega

theorem pixel_plain (width height x y : Nat) (pixel : Pixel) (hx : x < width) (hy : y < height) :
    (plain width height pixel).pixel x y = pixel := by
  have inside := place_lt width height x y hx hy
  simp [Image.pixel, plain, hx, inside]

theorem pixel_ofFn (width height x y : Nat) (pixel : Nat → Nat → Pixel) (hx : x < width)
    (hy : y < height) : (ofFn width height pixel).pixel x y = pixel x y := by
  have inside := place_lt width height x y hx hy
  have column : (y * width + x) % width = x := by
    rw [Nat.mul_comm, Nat.mul_add_mod, Nat.mod_eq_of_lt hx]
  have row : (y * width + x) / width = y := by
    rw [Nat.mul_comm, Nat.mul_add_div (by omega), Nat.div_eq_of_lt hx, Nat.add_zero]
  simp [Image.pixel, ofFn, hx, inside, column, row]

end Image

end BootTheme
