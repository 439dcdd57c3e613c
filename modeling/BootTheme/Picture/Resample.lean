import BootTheme.Number.Binary
import BootTheme.Picture.Image

/-!
# Images in another size

An image is brought to another size by a Lanczos filter of three lobes, first
down the columns and then along the rows. Every new pixel is a weighted mean of
the pixels around its place in the old image. The columns are kept in single
precision; only the rows are cut to the range of a channel and rounded.
-/

namespace BootTheme

namespace Resample

/-- The channels of a pixel in single precision. -/
structure Quad where
  red : Float32
  green : Float32
  blue : Float32
  alpha : Float32

/-- The ratio of a circle's circumference to its diameter. -/
def pi : Float32 := Float32.ofBits 0x40490fdb

/-- `sin (pi * x) / (pi * x)`, one at zero. -/
def sinc (x : Float32) : Float32 :=
  if x == 0 then 1
  else
    let angle := x * pi
    angle.sin / angle

/-- The weight of a pixel at a distance. -/
def lanczos (x : Float32) : Float32 := if x.abs < 3 then sinc x * sinc (x / 3) else 0

/-- The pixels that a new pixel is made from: the first one, and the weights from there on. -/
structure Window where
  first : Nat
  weights : Array Float32

/-- The weights of the pixels from `first` on around a center. -/
def weightsFrom (center scale : Float32) (first count : Nat) : Array Float32 :=
  Array.ofFn fun (place : Fin count) =>
    lanczos ((Scalar.ofNat (first + place.val) - center) / scale)

/-- The window of a new pixel on a side of `size` pixels that becomes one of `target`. -/
def window (size target place : Nat) : Window :=
  let ratio : Float32 := Scalar.ofNat size / Scalar.ofNat target
  let scale : Float32 := if ratio < 1 then 1 else ratio
  let reach := 3 * scale
  let middle := (Scalar.ofNat place + 0.5) * ratio
  let first := (Scalar.floor (middle - reach)).saturate 0 (size - 1 : Nat)
  let last := max (first + 1) ((Scalar.ceiling (middle + reach)).saturate 0 size)
  let weights := weightsFrom (middle - 0.5) scale first.toNat (last - first).toNat
  let total := weights.foldl (· + ·) 0
  ⟨first.toNat, weights.map (· / total)⟩

/-- The weighted sum of the pixels of a window. -/
def Window.mean (window : Window) (pixel : Nat → Quad) : Quad :=
  (window.weights.foldl (fun (place, sum) weight =>
      let at_ := pixel place
      (place + 1,
        { red := sum.red + at_.red * weight
          green := sum.green + at_.green * weight
          blue := sum.blue + at_.blue * weight
          alpha := sum.alpha + at_.alpha * weight }))
    (window.first, (⟨0, 0, 0, 0⟩ : Quad))).2

/-- The channels of a pixel. -/
def Quad.ofPixel (pixel : Pixel) : Quad :=
  ⟨pixel.red.toFloat32, pixel.green.toFloat32, pixel.blue.toFloat32, pixel.alpha.toFloat32⟩

/-- A channel cut to its range and rounded. -/
def toChannel (value : Float32) : UInt8 :=
  UInt8.ofNat ((Scalar.nearest value).saturate 0 255).toNat

/-- The pixel of channels. -/
def Quad.toPixel (quad : Quad) : Pixel :=
  ⟨toChannel quad.red, toChannel quad.green, toChannel quad.blue, toChannel quad.alpha⟩

end Resample

open Resample in
/-- The image in another size. -/
def Image.resize (image : Image) (width height : Nat) : Image :=
  let rows := Array.ofFn fun (place : Fin height) => window image.height height place.val
  let columns := Array.ofFn fun (place : Fin width) => window image.width width place.val
  let tall : Array Quad := Array.ofFn fun (place : Fin (image.width * height)) =>
    let x := place.val % image.width
    (rows[place.val / image.width]?.getD ⟨0, #[]⟩).mean fun y => .ofPixel (image.pixel x y)
  Image.ofFn width height fun x y =>
    ((columns[x]?.getD ⟨0, #[]⟩).mean fun column =>
      tall[y * image.width + column]?.getD ⟨0, 0, 0, 0⟩).toPixel

end BootTheme
