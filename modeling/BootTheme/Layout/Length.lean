import BootTheme.Layout.Expr

/-!
# Declared lengths

A length is a number of pixels, a percentage of a reference, or a percentage
with an offset in pixels. The reference may be a number or an expression; both
go through the same operations in the same order.
-/

namespace BootTheme

/-- How the offset of a length is applied. -/
inductive OffsetSign where
  | plus
  | minus
deriving DecidableEq, Repr

/-- A length as written in a theme: `50`, `50%` or `50%-10`. -/
inductive Length (α : Type) where
  | absolute (pixels : α)
  | relative (percent : α)
  | combined (percent : α) (sign : OffsetSign) (offset : α)
deriving DecidableEq, Repr

/-- A length in a place that takes only a number of pixels. -/
structure MalformedLength (α : Type) where
  property : String
  found : Length α
deriving DecidableEq, Repr

/-- How a sign is written. -/
def OffsetSign.symbol : OffsetSign → String
  | plus => "+"
  | minus => "-"

namespace Length

variable {α : Type}

/-- The text of a length, as a theme writes it. -/
def text (write : α → String) : Length α → String
  | absolute pixels => write pixels
  | relative percent => write percent ++ "%"
  | combined percent sign offset => write percent ++ "%" ++ sign.symbol ++ write offset

variable [Scalar α]

/-- No pixels. -/
def zero : Length α := absolute (Scalar.ofNat 0)

/-- A number with an offset. -/
def shift {β : Type} [Add β] [Sub β] (sign : OffsetSign) (value offset : β) : β :=
  match sign with
  | .plus => value + offset
  | .minus => value - offset

/-- The pixels of a length against a reference. -/
def resolve (length : Length α) (reference : α) : α :=
  match length with
  | absolute pixels => pixels
  | relative percent => reference * (percent / Scalar.ofNat 100)
  | combined percent sign offset =>
      shift sign (reference * (percent / Scalar.ofNat 100)) offset

/-- The pixels of a length against a reference that is still an expression. -/
def toExpr (length : Length α) (reference : Expr α) : Expr α :=
  let scaled (percent : α) := reference * (.constant percent / .constant (Scalar.ofNat 100))
  match length with
  | absolute pixels => .constant pixels
  | relative percent => scaled percent
  | combined percent sign offset => shift sign (scaled percent) (.constant offset)

/-- The pixels of a length that must not depend on a reference. -/
def pixels (length : Length α) (property : String) : Except (MalformedLength α) α :=
  match length with
  | absolute value => .ok value
  | found => .error ⟨property, found⟩

end Length

/-- What is said about a length in the wrong place. -/
def MalformedLength.message {α : Type} (write : α → String) (fault : MalformedLength α) : String :=
  "malformed length for '" ++ fault.property ++ "': expected an absolute length, found "
    ++ fault.found.text write

end BootTheme
