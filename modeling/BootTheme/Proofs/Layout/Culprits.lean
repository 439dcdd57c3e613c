import BootTheme.Number.Shortest
import BootTheme.Proofs.Layout.AxesApart
import BootTheme.Proofs.Number.Packing

/-!
# Expressions without a value

A node fails by itself if it is an unknown that has no value, or a division whose right side has
the value zero. An expression has a value exactly if none of its nodes fails by itself, and
otherwise the error is that of the first one that does, where the nodes of the left side come
before those of the right side, and both before the operation.
-/

namespace BootTheme

open Float.Model

namespace Expr

variable {α : Type}

/-- The nodes of an expression, each behind the nodes of its sides. -/
def postorder : Expr α → List (Expr α)
  | constant value => [constant value]
  | unknown name => [unknown name]
  | binary operator left right =>
      left.postorder ++ right.postorder ++ [binary operator left right]

theorem unknown_mem_postorder {name : String} {expr : Expr α} :
    unknown name ∈ expr.postorder ↔ name ∈ expr.unknowns := by
  induction expr with
  | constant value => simp [postorder, unknowns]
  | unknown other => simp [postorder, unknowns]
  | binary operator left right onLeft onRight => simp [postorder, unknowns, onLeft, onRight]

variable [Scalar α] {context : Context α} {node : Expr α} {reason : EvalError α}

/-- A node that fails by itself, and how. -/
inductive Fails (context : Context α) : Expr α → EvalError α → Prop where
  | unknown {name : String} (unset : context.get? name = none) :
      Fails context (.unknown name) (.unresolved name)
  | division {left right : Expr α} {divisor : α} (divides : right.evaluate context = .ok divisor)
      (zero : Scalar.isZero divisor = true) :
      Fails context (.binary .div left right) (.divisionByZero (.binary .div left right))

/-- How a node fails by itself, if it does. -/
def fault? (context : Context α) : Expr α → Option (EvalError α)
  | constant _ => none
  | unknown name => if (context.get? name).isNone then some (.unresolved name) else none
  | binary .div left right =>
      if (right.evaluate context).toOption.any Scalar.isZero then
        some (.divisionByZero (binary .div left right))
      else none
  | binary _ _ _ => none

theorem fault?_eq_some_iff : fault? context node = some reason ↔ Fails context node reason := by
  constructor
  · intro found
    cases node with
    | constant value => cases found
    | unknown name =>
        obtain ⟨unset, rfl⟩ : context.get? name = none ∧ .unresolved name = reason := by
          simpa [fault?] using found
        exact .unknown unset
    | binary operator left right =>
        cases operator with
        | div =>
            cases divides : right.evaluate context with
            | error fault => simp [fault?, divides, Except.toOption] at found
            | ok divisor =>
                obtain ⟨zero, rfl⟩ : Scalar.isZero divisor = true ∧
                    .divisionByZero (binary .div left right) = reason := by
                  simpa [fault?, divides, Except.toOption] using found
                exact .division divides zero
        | _ => cases found
  · intro fails
    cases fails with
    | unknown unset => simp [fault?, unset]
    | division divides zero => simp [fault?, divides, zero, Except.toOption]

theorem fault?_eq_none_iff :
    fault? context node = none ↔ ∀ reason, ¬ Fails context node reason := by
  simp only [Option.eq_none_iff_forall_ne_some, ne_eq, fault?_eq_some_iff]

/-- The error of an evaluation, if it ends with one. -/
def failure? (context : Context α) (expr : Expr α) : Option (EvalError α) :=
  match expr.evaluate context with
  | .ok _ => none
  | .error reason => some reason

theorem failure?_eq_some_iff {expr : Expr α} :
    expr.failure? context = some reason ↔ expr.evaluate context = .error reason := by
  unfold failure?
  cases expr.evaluate context <;> simp

theorem failure?_eq_none_iff {expr : Expr α} :
    expr.failure? context = none ↔ ∃ value, expr.evaluate context = .ok value := by
  unfold failure?
  cases expr.evaluate context <;> simp

/-- The evaluation ends with the first fault of the nodes, in their order. -/
theorem failure?_eq_findSome? (context : Context α) (expr : Expr α) :
    expr.failure? context = expr.postorder.findSome? (fault? context) := by
  induction expr with
  | constant value => rfl
  | unknown name =>
      rw [postorder, List.findSome?_singleton, failure?, evaluate, fault?]
      cases context.get? name <;> rfl
  | binary operator left right onLeft onRight =>
      rw [postorder, List.findSome?_append, List.findSome?_append, List.findSome?_singleton,
        ← onLeft, ← onRight]
      unfold failure?
      rw [evaluate]
      -- Only where both sides have a value does the operation itself count.
      cases left.evaluate context with
      | error reason => rfl
      | ok first =>
          cases divides : right.evaluate context with
          | error reason => rfl
          | ok second =>
              cases operator with
              | div =>
                  cases zero : Scalar.isZero second <;>
                    simp [apply, fault?, divides, zero, Except.toOption]
              | _ => rfl

/-- An expression has a value exactly if no node fails by itself. -/
theorem evaluates_iff {expr : Expr α} :
    (∃ value, expr.evaluate context = .ok value) ↔
      ∀ node ∈ expr.postorder, ∀ reason, ¬ Fails context node reason := by
  rw [← failure?_eq_none_iff, failure?_eq_findSome?, List.findSome?_eq_none_iff]
  simp only [fault?_eq_none_iff]

/-- The error of an expression is that of the first node that fails by itself. -/
theorem evaluate_eq_error_iff {expr : Expr α} :
    expr.evaluate context = .error reason ↔
      ∃ before node after, expr.postorder = before ++ node :: after ∧
        Fails context node reason ∧
        ∀ earlier ∈ before, ∀ other, ¬ Fails context earlier other := by
  rw [← failure?_eq_some_iff, failure?_eq_findSome?, List.findSome?_eq_some_iff]
  simp only [fault?_eq_some_iff, fault?_eq_none_iff]

/-- The node that an error is of stands in the expression. -/
theorem exists_mem_of_error {expr : Expr α} (failed : expr.evaluate context = .error reason) :
    ∃ node ∈ expr.postorder, Fails context node reason := by
  obtain ⟨before, node, after, split, fails, -⟩ := evaluate_eq_error_iff.1 failed
  exact ⟨node, by simp [split], fails⟩

/-- An unknown that does not occur may be given any value. -/
theorem evaluate_set {expr : Expr α} {name : String} (absent : name ∉ expr.unknowns) (value : α) :
    expr.evaluate (context.set name value) = expr.evaluate context := by
  apply evaluate_congr
  intro other among
  rw [Dictionary.get?_set, if_neg]
  rintro rfl
  exact absent among

/-- Not even a product with zero has a value where an unknown has none. -/
theorem evaluate_unset_mul {name : String} (unset : context.get? name = none) (factor : α) :
    (unknown name * constant factor).evaluate context = .error (.unresolved name) ∧
      (constant factor * unknown name).evaluate context = .error (.unresolved name) := by
  constructor
  · change (binary .mul (unknown name) (constant factor)).evaluate context = _
    simp [evaluate, unset]
  · change (binary .mul (constant factor) (unknown name)).evaluate context = _
    simp [evaluate, unset]

end Expr

/-! ## Doubles -/

/-- The doubles that nothing is divided by are the two zeros. -/
theorem isZero_double_iff {value : Float} :
    Scalar.isZero value = true ↔ value = 0 ∨ value = -0 := by
  constructor
  · intro zero
    change value.toModel.unpack.beq (.zero .positive) = true at zero
    cases size : value.toModel.unpack with
    | notANumber => rw [size] at zero; cases zero
    | infinity sign => rw [size] at zero; cases sign <;> cases zero
    | finite sign mantissa exponent positive => rw [size] at zero; cases sign <;> cases zero
    | zero sign =>
        cases sign with
        | positive => exact .inl (eq_of_unpack (by rw [size]; rfl))
        | negative => exact .inr (eq_of_unpack (by rw [size]; rfl))
  · rintro (rfl | rfl)
    · decide +kernel
    · decide +kernel

namespace Expr

variable {context : Context Float} {expr : Expr Float}

/-- No node fails by itself: every unknown has a value and no divisor is a zero. -/
theorem no_node_fails_iff :
    (∀ node ∈ expr.postorder, ∀ reason, ¬ Fails context node reason) ↔
      (∀ name ∈ expr.unknowns, ∃ value, context.get? name = some value) ∧
      ∀ left right, binary .div left right ∈ expr.postorder →
        right.evaluate context ≠ .ok 0 ∧ right.evaluate context ≠ .ok (-0) := by
  constructor
  · intro sound
    refine ⟨?_, ?_⟩
    · intro name among
      rw [← Option.ne_none_iff_exists']
      intro unset
      exact sound _ (unknown_mem_postorder.2 among) _ (.unknown unset)
    · intro left right among
      refine ⟨fun divides => ?_, fun divides => ?_⟩
      · exact sound _ among _ (.division divides (isZero_double_iff.2 (.inl rfl)))
      · exact sound _ among _ (.division divides (isZero_double_iff.2 (.inr rfl)))
  · rintro ⟨known, divisible⟩ node among reason fails
    cases fails with
    | unknown unset =>
        obtain ⟨value, found⟩ := known _ (unknown_mem_postorder.1 among)
        rw [unset] at found
        cases found
    | division divides zero =>
        obtain ⟨notPositive, notNegative⟩ := divisible _ _ among
        rcases isZero_double_iff.1 zero with rfl | rfl
        · exact notPositive divides
        · exact notNegative divides

/-- What is said about a node that fails by itself names the unknown or shows the division. -/
theorem Fails.message_eq {node : Expr Float} {reason : EvalError Float}
    (fails : Fails context node reason) :
    (∃ name, node = .unknown name ∧
      reason.message decimalText = "unresolved unknown '" ++ name ++ "'") ∨
      ∃ left right, node = binary .div left right ∧
        reason.message decimalText = "division by zero in " ++ node.text decimalText := by
  cases fails with
  | unknown unset => exact .inl ⟨_, rfl, rfl⟩
  | division divides zero => exact .inr ⟨_, _, rfl, rfl⟩

/-- An expression has a value exactly if every unknown in it has one and no divisor in it is a
zero of either sign. Otherwise the first node in order that fails by itself is blamed, with its
name or its text. Only the unknowns that occur count, and they count behind a factor of zero
too. -/
theorem evaluation_blames_first_culprit :
    (∀ (context : Context Float) (expr : Expr Float),
      (∃ value, expr.evaluate context = .ok value) ↔
        (∀ name ∈ expr.unknowns, ∃ value, context.get? name = some value) ∧
        ∀ left right, binary .div left right ∈ expr.postorder →
          right.evaluate context ≠ .ok 0 ∧ right.evaluate context ≠ .ok (-0)) ∧
    (∀ (context : Context Float) (expr : Expr Float) (reason : EvalError Float),
      expr.evaluate context = .error reason ↔
        ∃ before node after, expr.postorder = before ++ node :: after ∧
          Fails context node reason ∧
          ∀ earlier ∈ before, ∀ other, ¬ Fails context earlier other) ∧
    (∀ (context : Context Float) (node : Expr Float) (reason : EvalError Float),
      Fails context node reason →
        (∃ name, node = unknown name ∧
          reason.message decimalText = "unresolved unknown '" ++ name ++ "'") ∨
        ∃ left right, node = binary .div left right ∧
          reason.message decimalText = "division by zero in " ++ node.text decimalText) ∧
    (∀ (first second : Context Float) (expr : Expr Float),
      (∀ name ∈ expr.unknowns, first.get? name = second.get? name) →
        expr.evaluate first = expr.evaluate second) ∧
    (∀ (context : Context Float) (expr : Expr Float) (name : String) (value : Float),
      name ∉ expr.unknowns →
        expr.evaluate (context.set name value) = expr.evaluate context) ∧
    ∀ (context : Context Float) (name : String), context.get? name = none →
      (unknown name * zero).evaluate context = .error (.unresolved name) ∧
        (zero * unknown name).evaluate context = .error (.unresolved name) := by
  refine ⟨?_, ?_, ?_, ?_, ?_, ?_⟩
  · intro context expr
    exact evaluates_iff.trans no_node_fails_iff
  · intro context expr reason
    exact evaluate_eq_error_iff
  · intro context node reason fails
    exact fails.message_eq
  · intro first second expr same
    exact evaluate_congr same
  · intro context expr name value absent
    exact evaluate_set absent value
  · intro context name unset
    exact evaluate_unset_mul unset _

/-- A share of nothing, in front of an unknown without a value. -/
def lostShare : Expr Float := unknown "w" / (unknown "w" - unknown "w") * unknown "gone"

theorem lostShare_is_blamed_for_division :
    (∃ before node after, lostShare.postorder = before ++ node :: after ∧
      Fails (Dictionary.empty.set "w" 3) node
        (.divisionByZero (unknown "w" / (unknown "w" - unknown "w"))) ∧
      ∀ earlier ∈ before, ∀ other, ¬ Fails (Dictionary.empty.set "w" 3) earlier other) ∧
    lostShare.evaluate ((Dictionary.empty.set "w" 3).set "h" 5) =
      .error (.divisionByZero (unknown "w" / (unknown "w" - unknown "w"))) := by
  obtain ⟨_, blamed, _, _, further, _⟩ := evaluation_blames_first_culprit
  have failed : lostShare.evaluate (Dictionary.empty.set "w" 3) =
      .error (.divisionByZero (unknown "w" / (unknown "w" - unknown "w"))) := by
    decide +kernel
  exact ⟨(blamed _ _ _).1 failed, (further _ _ "h" 5 (by decide)).trans failed⟩

end Expr

end BootTheme
