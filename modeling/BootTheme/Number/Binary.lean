import BootTheme.Number.Scalar

/-!
# Binary floating numbers taken apart

A binary number is a sign and a magnitude `mantissa * 2 ^ exponent`. All
rounding to whole numbers, to single precision and to decimal digits is exact
arithmetic on these parts.
-/

namespace BootTheme

/-- The size of a binary number. -/
inductive Magnitude where
  | undefined
  | infinite
  | finite (mantissa : Nat) (exponent : Int)
deriving DecidableEq, Repr

/-- Sign and size of a binary number. -/
structure Parts where
  negative : Bool
  magnitude : Magnitude
deriving DecidableEq, Repr

namespace Parts

/-- The parts written in a bit pattern with so many fraction and exponent bits. -/
def ofBits (fractionBits exponentBits bits : Nat) : Parts :=
  let fraction := bits % (1 <<< fractionBits)
  let biased := (bits >>> fractionBits) % (1 <<< exponentBits)
  let negative := (bits >>> (fractionBits + exponentBits)) % 2 == 1
  let half : Nat := 1 <<< (exponentBits - 1)
  let least : Int := 2 - half - fractionBits
  if biased = (1 <<< exponentBits) - 1 then
    ⟨negative, if fraction = 0 then .infinite else .undefined⟩
  else if biased = 0 then
    ⟨negative, .finite fraction least⟩
  else
    ⟨negative, .finite ((1 <<< fractionBits) + fraction) (least + (biased - 1 : Nat))⟩

/-- The whole part of a magnitude and whether the rest is none, below, at or above one half. -/
def quotient (mantissa : Nat) (exponent : Int) : Nat × Nat × Nat :=
  match exponent with
  | .ofNat up => (mantissa <<< up, 0, 1)
  | .negSucc down =>
      let unit := 1 <<< (down + 1)
      (mantissa / unit, mantissa % unit, unit)

/-- The integer of a sign and a size. -/
def signed (negative : Bool) (size : Nat) : Int :=
  if negative then -(size : Int) else size

/-- Infinite and undefined parts have no whole number; finite ones get theirs from `whole`. -/
def toWhole (parts : Parts) (whole : Nat → Nat → Nat → Nat) : Whole :=
  match parts.magnitude with
  | .undefined => .undefined
  | .infinite => if parts.negative then .below else .above
  | .finite mantissa exponent =>
      let (size, rest, unit) := quotient mantissa exponent
      .int (signed parts.negative (whole size rest unit))

/-- Halves go away from zero. -/
def nearest (parts : Parts) : Whole :=
  parts.toWhole fun size rest unit => if unit ≤ 2 * rest then size + 1 else size

/-- Any rest goes down. -/
def floor (parts : Parts) : Whole :=
  parts.toWhole fun size rest _ =>
    if rest ≠ 0 ∧ parts.negative = true then size + 1 else size

/-- Any rest goes up. -/
def ceiling (parts : Parts) : Whole :=
  parts.toWhole fun size rest _ =>
    if rest ≠ 0 ∧ parts.negative = false then size + 1 else size

end Parts

/-- The parts of a double precision number. -/
def doubleParts (value : Float) : Parts := .ofBits 52 11 value.toBits.toNat

/-- The parts of a single precision number. -/
def singleParts (value : Float32) : Parts := .ofBits 23 8 value.toBits.toNat

/-- The nearest whole number of a double, halves away from zero. From `2 ^ 52` on all are whole. -/
def roundDouble (value : Float) : Float :=
  match (doubleParts value).magnitude, (doubleParts value).nearest with
  | .finite _ (.negSucc _), .int whole =>
      let size := (UInt64.ofNat whole.natAbs).toFloat
      if (doubleParts value).negative then -size else size
  | _, _ => value

instance : Scalar Float where
  ofNat count := (UInt64.ofNat count).toFloat
  less first second := first < second
  isZero value := value == 0
  larger first second :=
    if first.isNaN then second else if first < second then second else first
  round := roundDouble
  nearest value := (doubleParts value).nearest
  floor value := (doubleParts value).floor
  ceiling value := (doubleParts value).ceiling

/-- The nearest whole number of a single, halves away from zero. From `2 ^ 23` on all are whole. -/
def roundSingle (value : Float32) : Float32 :=
  match (singleParts value).magnitude, (singleParts value).nearest with
  | .finite _ (.negSucc _), .int whole =>
      let size := (UInt32.ofNat whole.natAbs).toFloat32
      if (singleParts value).negative then -size else size
  | _, _ => value

instance : Scalar Float32 where
  ofNat count := (UInt64.ofNat count).toFloat32
  less first second := first < second
  isZero value := value == 0
  larger first second :=
    if first.isNaN then second else if first < second then second else first
  round := roundSingle
  nearest value := (singleParts value).nearest
  floor value := (singleParts value).floor
  ceiling value := (singleParts value).ceiling

/-- A quotient of counts rounded to a whole number, a half to the even neighbour. -/
def roundEven (numerator denominator : Nat) : Nat :=
  let size := numerator / denominator
  let rest := numerator % denominator
  if 2 * rest < denominator then size
  else if denominator < 2 * rest then size + 1
  else if size % 2 = 0 then size else size + 1

/-- The bits of the single nearest to `mantissa * 2 ^ exponent`. A carry out of the fraction
lands in the exponent field, where it belongs. -/
def singleSizeBits (mantissa : Nat) (exponent : Int) : Nat :=
  if mantissa = 0 then 0
  else
    let unit := max (exponent + Nat.log2 mantissa - 23) (-149)
    let digits :=
      match unit - exponent with
      | .ofNat down => roundEven mantissa (1 <<< down)
      | .negSucc up => mantissa <<< (up + 1)
    let bits := ((unit + 149).toNat <<< 23) + digits
    min bits (255 <<< 23)

/-- The nearest single precision number, a tie to the even mantissa. -/
def narrow (value : Float) : Float32 :=
  let parts := doubleParts value
  let size :=
    match parts.magnitude with
    | .undefined => (255 <<< 23) + (1 <<< 22)
    | .infinite => 255 <<< 23
    | .finite mantissa exponent => singleSizeBits mantissa exponent
  Float32.ofBits (UInt32.ofNat (if parts.negative then (1 <<< 31) + size else size))

end BootTheme
