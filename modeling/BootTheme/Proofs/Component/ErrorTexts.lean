import BootTheme.Proofs.Component.Building
import BootTheme.Proofs.Layout.ExpressionTexts
import BootTheme.Proofs.Number.ReadBack
import BootTheme.Proofs.Number.RoundingOrder

/-!
# What an error shows

Every double is read again from its text, so the texts of expressions over the size of the
screen tell these expressions apart, and the message of an error tells which division failed.
All sides of the boxes of a theme are such expressions.
-/

namespace BootTheme

/-! ## Numbers -/

theorem unpack_undefined {value : Float} (undefined : (doubleParts value).magnitude = .undefined) :
    value.toModel.unpack = .notANumber := by
  have infinite : isFinite value = false := by simp [isFinite, undefined, Magnitude.isFinite]
  rcases unpack_of_not_finite infinite with same | ⟨sign, same⟩
  · exact same
  · -- An infinity has parts of its own.
    have infinity := eq_of_unpack (same.trans (unpack_infinity sign).symm)
    rw [infinity] at undefined
    cases sign with
    | positive => exact absurd undefined (by decide +kernel)
    | negative => exact absurd undefined (by decide +kernel)

/-- Every double is read again from its text, the infinities and the undefined one too. -/
theorem readDouble_text_of_double (value : Float) :
    readDouble (decimalText value) = some value := by
  cases size : (doubleParts value).magnitude with
  | undefined =>
      have read : readDouble "NaN" = some (0 / 0) := by decide +kernel
      rw [decimalText_of_undefined size, read, Option.some_inj]
      apply eq_of_unpack
      rw [unpack_undefined size]
      rfl
  | infinite =>
      have unpacked := unpack_infinite size
      rw [decimalText_of_infinite size]
      split
      · next negative =>
          have read : readDouble "-inf" = some (-(1 / 0)) := by decide +kernel
          rw [if_pos negative] at unpacked
          rw [read, Option.some_inj]
          apply eq_of_unpack
          rw [unpacked]
          rfl
      · next positive =>
          have read : readDouble "inf" = some (1 / 0) := by decide +kernel
          rw [if_neg positive] at unpacked
          rw [read, Option.some_inj]
          apply eq_of_unpack
          rw [unpacked]
          rfl
  | finite mantissa exponent =>
      apply readDouble_decimalText
      simp [isFinite, size, Magnitude.isFinite]

theorem decimalText_injective : Function.Injective decimalText := by
  intro first second same
  have read := readDouble_text_of_double first
  rw [same, readDouble_text_of_double second] at read
  exact (Option.some.inj read).symm

theorem isAtom_decimalText (value : Float) : Expr.IsAtom (decimalText value) := by
  refine forall_mem_decimalText ?_ (by simp [Expr.inAtom]) value
  intro char digit
  simp only [Expr.inAtom, Bool.and_eq_true, bne_iff_ne]
  refine ⟨⟨?_, ?_⟩, ?_⟩
  all_goals
    rintro rfl
    cases digit

/-- The unknowns of a theme. -/
def screenNames : List String := [screenWidth, screenHeight]

/-- Doubles are told apart by their texts, and from the unknowns of a theme. -/
theorem legible_decimalText : Expr.Legible decimalText screenNames where
  number := isAtom_decimalText
  name := by simp [screenNames, screenWidth, screenHeight, Expr.IsAtom, Expr.inAtom]
  injective := decimalText_injective
  apart value among := by
    have unread : ∀ name ∈ screenNames, readDouble name = none := by decide +kernel
    have read := readDouble_text_of_double value
    rw [unread _ among] at read
    cases read

/-! ## Errors -/

namespace EvalError

variable {α : Type} {write : α → String} {names : List String} {first second : EvalError α}

/-- An error about the given unknowns only. -/
def Knows (names : List String) : EvalError α → Prop
  | unresolved name => name ∈ names
  | divisionByZero division => division.Knows names

theorem message_unresolved (name : String) :
    (unresolved name : EvalError α).message write = "unresolved unknown '" ++ name ++ "'" := rfl

theorem message_divisionByZero (division : Expr α) :
    (divisionByZero division).message write = "division by zero in " ++ division.text write := rfl

theorem message_unresolved_ne (name : String) (division : Expr α) :
    (unresolved name).message write ≠ (divisionByZero division).message write := by
  rw [message_unresolved, message_divisionByZero]
  intro same
  have initials := congrArg (fun text => text.toList.head?) same
  simp at initials

/-- The message of an error tells the error. -/
theorem eq_of_message_eq (legible : Expr.Legible write names) (knows : first.Knows names)
    (alsoKnows : second.Knows names) (same : first.message write = second.message write) :
    first = second := by
  cases first with
  | unresolved name =>
      cases second with
      | unresolved other =>
          rw [message_unresolved, message_unresolved, String.append_left_inj,
            String.append_right_inj] at same
          rw [same]
      | divisionByZero division => exact absurd same (message_unresolved_ne name division)
  | divisionByZero division =>
      cases second with
      | unresolved other => exact absurd same.symm (message_unresolved_ne other division)
      | divisionByZero other =>
          rw [message_divisionByZero, message_divisionByZero, String.append_right_inj] at same
          rw [Expr.eq_of_text_eq legible knows alsoKnows same]

end EvalError

namespace Expr

/-- The error of an expression is about its unknowns. -/
theorem Knows.of_error {α : Type} [Scalar α] {names : List String} {expr : Expr α}
    {context : Context α} {reason : EvalError α} (knows : expr.Knows names)
    (failed : expr.evaluate context = .error reason) : reason.Knows names := by
  obtain ⟨node, among, fails⟩ := exists_mem_of_error failed
  have known := knows.of_mem_postorder among
  cases fails with
  | unknown unset => exact knows_unknown.1 known
  | division divides zero => exact known

/-! ## Themes -/

theorem ScreenBound.knows {expr : Expr Float} (bound : expr.ScreenBound) :
    expr.Knows screenNames := by
  induction bound with
  | constant value => simp [Knows, unknowns]
  | screen axis =>
      rw [knows_unknown]
      cases axis with
      | horizontal => exact List.mem_cons_self
      | vertical => exact List.mem_cons_of_mem _ List.mem_cons_self
  | add _ _ first second => exact knows_binary.2 ⟨first, second⟩
  | sub _ _ first second => exact knows_binary.2 ⟨first, second⟩
  | mul _ _ first second => exact knows_binary.2 ⟨first, second⟩
  | div _ _ first => exact knows_binary.2 ⟨first, by simp [Knows, unknowns]⟩

end Expr

/-- Expressions over the size of the screen with one text are the same, with the same operations,
unknowns and constants. The message of an error tells the unknown or the division that it is of.
All sides of the boxes of a theme are expressions over the size of the screen. -/
theorem texts_tell_expressions :
    (∀ first second : Expr Float, first.Knows screenNames → second.Knows screenNames →
      first.text decimalText = second.text decimalText → first = second) ∧
    (∀ (here there : Context Float) (first second : Expr Float) (reason other : EvalError Float),
      first.Knows screenNames → second.Knows screenNames →
        first.evaluate here = .error reason → second.evaluate there = .error other →
          reason.message decimalText = other.message decimalText → reason = other) ∧
    ∀ (theme : Theme) (settings : Settings) (tree : BoxTree Float),
      (buildTree theme settings).value = .ok tree → ∀ id axis,
        (tree.derivedOffset id axis).Knows screenNames ∧
          (tree.derivedExtent id axis).Knows screenNames := by
  refine ⟨?_, ?_, ?_⟩
  · intro first second knows alsoKnows same
    exact Expr.eq_of_text_eq legible_decimalText knows alsoKnows same
  · intro here there first second reason other knows alsoKnows failed alsoFailed same
    exact EvalError.eq_of_message_eq legible_decimalText (knows.of_error failed)
      (alsoKnows.of_error alsoFailed) same
  · intro theme settings tree built id axis
    have bound := ((settles_buildTree theme settings).holds built).bound
    exact ⟨(bound.derivedOffset hundred_nonzero id axis).knows,
      (bound.derivedExtent hundred_nonzero id axis).knows⟩

/-- The width of the screen without a negative margin. -/
def widened : Expr Float := .unknown screenWidth - .constant (-5)

theorem widened_is_told_by_text :
    widened.text decimalText = "(screen-width - -5)" ∧
    ∀ other : Expr Float, other.Knows screenNames →
      other.text decimalText = "(screen-width - -5)" → other = widened := by
  have shown : widened.text decimalText = "(screen-width - -5)" := by decide +kernel
  have knows : widened.Knows screenNames := Expr.knows_binary.2
    ⟨(Expr.ScreenBound.screen .horizontal).knows, (Expr.ScreenBound.constant (-5)).knows⟩
  refine ⟨shown, ?_⟩
  intro other alsoKnows same
  exact texts_tell_expressions.1 other widened alsoKnows knows (same.trans shown.symm)

end BootTheme
