/-!
# Numbers of a layout

Lengths, rectangles and pixel positions are written once, over any type of
numbers with the operations of `Scalar`. Binary floating numbers draw the
picture; rational numbers have the same operations without rounding, so a
statement about exact arithmetic is a statement about the same definitions.
-/

namespace BootTheme

/-- The whole number near a given number, or the way in which there is none. -/
inductive Whole where
  | undefined
  | below
  | above
  | int (value : Int)
deriving DecidableEq, Repr

namespace Whole

/-- Negative numbers and undefined ones become zero. -/
def atLeastZero : Whole → Whole
  | undefined => int 0
  | below => int 0
  | above => above
  | int value => int (max value 0)

/-- Numbers past the limit and undefined ones become the limit. -/
def atMost (limit : Nat) : Whole → Whole
  | undefined => int limit
  | below => below
  | above => int limit
  | int value => int (min value limit)

/-- The nearest number between two bounds; an undefined number counts as zero. -/
def saturate (least greatest : Int) : Whole → Int
  | undefined => min (max 0 least) greatest
  | below => least
  | above => greatest
  | int value => min (max value least) greatest

end Whole

/-- Numbers with the operations that a layout uses. -/
class Scalar (α : Type) extends Add α, Sub α, Mul α, Div α, Neg α where
  /-- The number of a count. -/
  ofNat : Nat → α
  /-- The order, false on numbers that have none. -/
  less : α → α → Bool
  /-- Zero of either sign. -/
  isZero : α → Bool
  /-- The greater of two numbers; one that is undefined gives way to the other. -/
  larger : α → α → α
  /-- The nearest whole number, halves away from zero, as a number again. -/
  round : α → α
  /-- The nearest whole number, halves away from zero. -/
  nearest : α → Whole
  /-- The greatest whole number not above. -/
  floor : α → Whole
  /-- The least whole number not below. -/
  ceiling : α → Whole

namespace Scalar

variable {α : Type} [Scalar α]

/-- One half. -/
def half : α := ofNat 1 / ofNat 2

end Scalar

/-- The nearest whole number of a rational, halves away from zero. -/
def nearestInt (value : Rat) : Int :=
  if 0 ≤ value then (value + 1 / 2).floor else -((-value + 1 / 2).floor)

instance : Scalar Rat where
  ofNat count := count
  less first second := decide (first < second)
  isZero value := decide (value = 0)
  larger first second := if first < second then second else first
  round value := nearestInt value
  nearest value := .int (nearestInt value)
  floor value := .int value.floor
  ceiling value := .int value.ceil

end BootTheme
