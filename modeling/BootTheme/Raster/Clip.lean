import BootTheme.Layout.Rect

/-!
# Rectangles in pixels

The edges of a rectangle are rounded, each on its own, and cut to the canvas.
-/

namespace BootTheme

/-- The pixels of the columns `left` to `right` and the rows `top` to `bottom`; the last ones
are not among them. -/
structure PixelArea where
  left : Nat
  top : Nat
  right : Nat
  bottom : Nat
deriving DecidableEq, Repr

/-- The pixels between two edges on a side of the canvas, if there are any. -/
def clipSpan (start stop : Whole) (limit : Nat) : Option (Nat × Nat) :=
  match start.atLeastZero, stop.atMost limit with
  | .int first, .int last => if last ≤ first then none else some (first.toNat, last.toNat)
  | _, _ => none

variable {α : Type} [Scalar α]

/-- The pixels of a rectangle on a canvas of the given size, if there are any. -/
def Rect.clip (rect : Rect α) (width height : Nat) : Option PixelArea :=
  match clipSpan (Scalar.nearest rect.x) (Scalar.nearest rect.right) width,
      clipSpan (Scalar.nearest rect.y) (Scalar.nearest rect.bottom) height with
  | some (left, right), some (top, bottom) => some ⟨left, top, right, bottom⟩
  | _, _ => none

/-- The rectangle with its origin and its size rounded. -/
def Rect.rounded (rect : Rect α) : Rect α :=
  ⟨Scalar.round rect.x, Scalar.round rect.y, Scalar.round rect.width, Scalar.round rect.height⟩

/-- The four sides of a rectangle as strips of one pixel: top, bottom, left, right. The sides
of a thin rectangle lie over each other. -/
def Rect.sides (rect : Rect α) : List (Rect α) :=
  let one : α := Scalar.ofNat 1
  let x := Scalar.round rect.x
  let y := Scalar.round rect.y
  let right := Scalar.round rect.right - one
  let bottom := Scalar.round rect.bottom - one
  let width := Scalar.larger (right - x + one) one
  let height := Scalar.larger (bottom - y + one) one
  [⟨x, y, width, one⟩, ⟨x, Scalar.larger bottom y, width, one⟩, ⟨x, y, one, height⟩,
    ⟨Scalar.larger right x, y, one, height⟩]

/-- The pixels of a side of `limit` source pixels that cover a range of the target: at least
one, cut to the source. -/
def sourceSpan (start stop scale : α) (limit : Nat) : Nat × Nat :=
  let first := ((Scalar.floor (start * scale)).saturate 0 (limit - 1 : Nat)).toNat
  let last := ((Scalar.ceiling (stop * scale)).saturate 0 limit).toNat
  (first, max (first + 1) last)

end BootTheme
