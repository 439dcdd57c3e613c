import BootTheme.Dictionary
import BootTheme.Number.Scalar

/-!
# Deferred arithmetic

The size of the screen is known only when a picture is drawn, so geometry is
kept as expressions over named unknowns. An expression has a value in a context
that knows its unknowns, unless it divides by zero; the operand on the left is
always evaluated first.
-/

namespace BootTheme

/-- The four operations. -/
inductive Operator where
  | add
  | sub
  | mul
  | div
deriving DecidableEq, Repr

/-- A computation that waits for its unknowns. -/
inductive Expr (α : Type) where
  | constant (value : α)
  | unknown (name : String)
  | binary (operator : Operator) (left right : Expr α)
deriving DecidableEq, Repr

/-- Values of unknowns. -/
abbrev Context (α : Type) := Dictionary α

/-- Why an expression has no value. -/
inductive EvalError (α : Type) where
  | unresolved (name : String)
  | divisionByZero (division : Expr α)
deriving DecidableEq, Repr

namespace Operator

/-- How an operation is written. -/
def symbol : Operator → String
  | add => "+"
  | sub => "-"
  | mul => "*"
  | div => "/"

end Operator

/-- The unknown that holds the width of the screen. -/
def screenWidth : String := "screen-width"

/-- The unknown that holds the height of the screen. -/
def screenHeight : String := "screen-height"

/-- The context of a screen of the given size. -/
def Context.forScreen {α : Type} [Scalar α] (width height : Nat) : Context α :=
  (Dictionary.empty.set screenWidth (Scalar.ofNat width)).set screenHeight (Scalar.ofNat height)

namespace Expr

variable {α : Type}

instance : Add (Expr α) := ⟨binary .add⟩
instance : Sub (Expr α) := ⟨binary .sub⟩
instance : Mul (Expr α) := ⟨binary .mul⟩
instance : Div (Expr α) := ⟨binary .div⟩

/-- The unknowns that occur. -/
def unknowns : Expr α → List String
  | constant _ => []
  | unknown name => [name]
  | binary _ left right => left.unknowns ++ right.unknowns

/-- Whether two expressions are built alike from equal numbers. -/
def sameAs [BEq α] : Expr α → Expr α → Bool
  | constant first, constant second => first == second
  | unknown first, unknown second => first == second
  | binary operator left right, binary other first second =>
      decide (operator = other) && left.sameAs first && right.sameAs second
  | _, _ => false

/-- The text of an expression: every operation in parentheses. -/
def text (write : α → String) : Expr α → String
  | constant value => write value
  | unknown name => name
  | binary operator left right =>
      "(" ++ left.text write ++ " " ++ operator.symbol ++ " " ++ right.text write ++ ")"

variable [Scalar α]

/-- The constant zero. -/
def zero : Expr α := constant (Scalar.ofNat 0)

/-- The value of an operation on values; only a division by zero, of either sign, has none. -/
def apply (operator : Operator) (left right : α) : Option α :=
  match operator with
  | .add => some (left + right)
  | .sub => some (left - right)
  | .mul => some (left * right)
  | .div => if Scalar.isZero right then none else some (left / right)

/-- The value of an expression. -/
def evaluate (context : Context α) : Expr α → Except (EvalError α) α
  | constant value => .ok value
  | unknown name =>
      match context.get? name with
      | some value => .ok value
      | none => .error (.unresolved name)
  | binary operator left right =>
      match left.evaluate context with
      | .error reason => .error reason
      | .ok first =>
          match right.evaluate context with
          | .error reason => .error reason
          | .ok second =>
              match apply operator first second with
              | some value => .ok value
              | none => .error (.divisionByZero (binary operator left right))

end Expr

/-- What is said about an expression without a value. -/
def EvalError.message {α : Type} (write : α → String) : EvalError α → String
  | unresolved name => "unresolved unknown '" ++ name ++ "'"
  | divisionByZero division => "division by zero in " ++ division.text write

end BootTheme
