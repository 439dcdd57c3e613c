import BootTheme.Number.Binary
import BootTheme.Picture.Image

/-!
# Laying a color over a pixel

A plain color of some opacity is laid over a pixel in single precision, every
channel on its own; all numbers on the way are multiples of `2 ^ -32`, so they
are counted in this unit. A pixel that has an opacity of its own is laid over
another by the usual rule for two translucent layers.
-/

namespace BootTheme

/-- A count of units rounded to the 24 significant bits of single precision, a tie to even. -/
def singleUnits (count : Nat) : Nat :=
  if count < 1 <<< 24 then count
  else
    let unit := 1 <<< (Nat.log2 count - 23)
    roundEven count unit * unit

/-- `opacity / 255` in single precision, in units of `2 ^ -32`. -/
def opacityUnits (opacity : Nat) : Nat :=
  let unit := 1 <<< (Nat.log2 ((opacity <<< 32) / 255) - 23)
  roundEven (opacity <<< 32) (255 * unit) * unit

/-- A channel of a color over a channel of a pixel: `upper * a + under * (1 - a)`, where the
second product is rounded, then the sum, and the fraction is cut off. -/
def blendChannel (upper under opacity : UInt8) : UInt8 :=
  let share := opacityUnits opacity.toNat
  let rest := singleUnits (under.toNat * singleUnits ((1 <<< 32) - share))
  let sum := singleUnits (upper.toNat * share + rest)
  UInt8.ofNat (min (sum >>> 32) 255)

/-- A color of some opacity over a pixel. The result is opaque. -/
def layOver (red green blue opacity : UInt8) (under : Pixel) : Pixel :=
  { red := blendChannel red under.red opacity
    green := blendChannel green under.green opacity
    blue := blendChannel blue under.blue opacity
    alpha := 255 }

namespace Pixel

/-- A channel as a share of its greatest value. -/
def share (channel : UInt8) : Float32 := channel.toFloat32 / 255

/-- A share as a channel, the fraction cut off. -/
def channel (share : Float32) : UInt8 := (255 * share).toUInt8

/-- A channel of two translucent layers, weighted by their opacities. -/
def mixChannel (upper under : UInt8) (upperAlpha underAlpha alpha : Float32) : UInt8 :=
  channel ((share under * underAlpha * (1 - upperAlpha) + share upper * upperAlpha) / alpha)

/-- A pixel over another. A clear one changes nothing, and an opaque one hides what is under it. -/
def atop (top bottom : Pixel) : Pixel :=
  if top.alpha = 0 then bottom
  else if top.alpha = 255 then top
  else
    let upperAlpha := share top.alpha
    let underAlpha := share bottom.alpha
    let alpha := underAlpha + upperAlpha - underAlpha * upperAlpha
    if alpha == 0 then bottom
    else
      { red := mixChannel top.red bottom.red upperAlpha underAlpha alpha
        green := mixChannel top.green bottom.green upperAlpha underAlpha alpha
        blue := mixChannel top.blue bottom.blue upperAlpha underAlpha alpha
        alpha := channel alpha }

end Pixel

end BootTheme
