import BootTheme.Proofs.Layout.OnePass
import BootTheme.Proofs.Layout.ScreenBound

/-!
# Axes that do not mix

An expression along an axis knows the size of the screen along this axis at most, so its value
does not depend on the size along the other one. In a tree whose boxes override their
sides along their own axis only, all sides are of this kind.
-/

namespace BootTheme

variable {α : Type}

namespace Expr

/-- An expression that knows nothing but the size of the screen along an axis. -/
def Along (axis : Axis) (expr : Expr α) : Prop := ∀ name ∈ expr.unknowns, name = axis.screen

variable {axis : Axis} {value : α} {left right : Expr α}

@[simp] theorem along_constant : (constant value : Expr α).Along axis := by
  simp [Along, unknowns]

@[simp] theorem along_screen : (unknown axis.screen : Expr α).Along axis := by
  simp [Along, unknowns]

@[simp] theorem along_binary {operator : Operator} :
    (binary operator left right).Along axis ↔ left.Along axis ∧ right.Along axis := by
  simp [Along, unknowns, or_imp, forall_and]

@[simp] theorem along_add : (left + right).Along axis ↔ left.Along axis ∧ right.Along axis :=
  along_binary

@[simp] theorem along_sub : (left - right).Along axis ↔ left.Along axis ∧ right.Along axis :=
  along_binary

@[simp] theorem along_mul : (left * right).Along axis ↔ left.Along axis ∧ right.Along axis :=
  along_binary

@[simp] theorem along_div : (left / right).Along axis ↔ left.Along axis ∧ right.Along axis :=
  along_binary

variable [Scalar α]

/-- The value of an expression depends on the values of its unknowns only. -/
theorem evaluate_congr {first second : Context α} {expr : Expr α}
    (same : ∀ name ∈ expr.unknowns, first.get? name = second.get? name) :
    expr.evaluate first = expr.evaluate second := by
  induction expr with
  | constant value => rfl
  | unknown name => rw [evaluate, evaluate, same name (by simp [unknowns])]
  | binary operator left right onLeft onRight =>
      have here := onLeft fun name among => same name (by simp [unknowns, among])
      have there := onRight fun name among => same name (by simp [unknowns, among])
      rw [evaluate, evaluate, here, there]

/-- Along an axis only the size of the screen along this axis counts. -/
theorem Along.evaluate_eq {expr : Expr α} (along : expr.Along axis) {first second : Context α}
    (same : first.get? axis.screen = second.get? axis.screen) :
    expr.evaluate first = expr.evaluate second :=
  evaluate_congr fun name among => by rw [along name among, same]

end Expr

theorem Length.along_toExpr [Scalar α] {axis : Axis} (length : Length α) {reference : Expr α}
    (along : reference.Along axis) : (length.toExpr reference).Along axis := by
  cases length with
  | absolute pixels => exact Expr.along_constant
  | relative percent => simp [toExpr, along]
  | combined percent sign offset => cases sign <;> simp [toExpr, shift, along]

/-- Screens of one width know the same width, whatever their height. -/
theorem get?_screenWidth [Scalar α] (width first second : Nat) :
    (Context.forScreen width first : Context α).get? screenWidth =
      (Context.forScreen width second).get? screenWidth := by
  have apart : screenWidth ≠ screenHeight := by decide
  simp [Context.forScreen, Dictionary.get?_set, apart]

/-- Screens of one height know the same height, whatever their width. -/
theorem get?_screenHeight [Scalar α] (height first second : Nat) :
    (Context.forScreen first height : Context α).get? screenHeight =
      (Context.forScreen second height).get? screenHeight := by
  simp [Context.forScreen, Dictionary.get?_set]

/-! ## Boxes and trees -/

/-- A box whose overrides of sides along an axis are expressions along this axis. -/
structure LayoutBox.Aligned (box : LayoutBox α) : Prop where
  left : ∀ expr ∈ box.leftExpr, expr.Along .horizontal
  top : ∀ expr ∈ box.topExpr, expr.Along .vertical
  width : ∀ expr ∈ box.widthExpr, expr.Along .horizontal
  height : ∀ expr ∈ box.heightExpr, expr.Along .vertical

/-- A tree of such boxes. -/
def BoxTree.Aligned (tree : BoxTree α) : Prop :=
  ∀ id box, tree.box? id = some box → box.Aligned

namespace LayoutBox.Aligned

variable {box : LayoutBox α}

theorem offset (aligned : box.Aligned) (axis : Axis) :
    ∀ expr ∈ box.offsetExpr? axis, expr.Along axis := by
  cases axis with
  | horizontal => exact aligned.left
  | vertical => exact aligned.top

theorem extent (aligned : box.Aligned) (axis : Axis) :
    ∀ expr ∈ box.extentExpr? axis, expr.Along axis := by
  cases axis with
  | horizontal => exact aligned.width
  | vertical => exact aligned.height

/-- A box that overrides nothing. -/
theorem of_declared (left : box.leftExpr = none) (top : box.topExpr = none)
    (width : box.widthExpr = none) (height : box.heightExpr = none) : box.Aligned where
  left := by simp [left]
  top := by simp [top]
  width := by simp [width]
  height := by simp [height]

/-- The size of a box along an axis is taken from the size of the box around along this axis. -/
theorem extentAgainst [Scalar α] (aligned : box.Aligned) {axis : Axis} {around : Expr α}
    (along : around.Along axis) : (box.extentAgainst axis around).Along axis := by
  unfold LayoutBox.extentAgainst sideExpr
  cases override : box.extentExpr? axis with
  | none => exact Length.along_toExpr _ along
  | some expr => exact aligned.extent axis expr override

end LayoutBox.Aligned

theorem Lineage.passes_along [Scalar α] (axis : Axis) :
    Passes axis (Expr.Along axis : Expr α → Prop) where
  screen := Expr.along_screen
  zero := Expr.along_constant
  add first second := Expr.along_add.2 ⟨first, second⟩
  length length _ along := Length.along_toExpr length along

namespace BoxTree.Aligned

variable {tree : BoxTree α} {id : Nat} {one other : Rect α}

theorem lineage (aligned : tree.Aligned) (id : Nat) : ∀ box ∈ tree.lineage id, box.Aligned := by
  intro box among
  obtain ⟨inner, found⟩ := mem_outwards among
  exact aligned inner box found

variable [Scalar α]

theorem derivedExtent (aligned : tree.Aligned) (id : Nat) (axis : Axis) :
    (tree.derivedExtent id axis).Along axis :=
  (Lineage.passes_along axis).extent fun box among => (aligned.lineage id box among).extent axis

theorem derivedOffset (aligned : tree.Aligned) (id : Nat) (axis : Axis) :
    (tree.derivedOffset id axis).Along axis :=
  (Lineage.passes_along axis).offset (fun box among => (aligned.lineage id box among).offset axis)
    fun box among => (aligned.lineage id box among).extent axis

variable {first second : Context α}

/-- Contexts that know one width of the screen place a box alike from left to right. -/
theorem horizontal (aligned : tree.Aligned)
    (same : first.get? screenWidth = second.get? screenWidth)
    (here : tree.resolve first id = .ok one) (there : tree.resolve second id = .ok other) :
    one.x = other.x ∧ one.width = other.width := by
  obtain ⟨x, -, width, -⟩ := evaluate_of_resolve here
  obtain ⟨otherX, -, otherWidth, -⟩ := evaluate_of_resolve there
  rw [(aligned.derivedOffset id .horizontal).evaluate_eq same, otherX] at x
  rw [(aligned.derivedExtent id .horizontal).evaluate_eq same, otherWidth] at width
  exact ⟨(Except.ok.inj x).symm, (Except.ok.inj width).symm⟩

/-- Contexts that know one height of the screen place a box alike from top to bottom. -/
theorem vertical (aligned : tree.Aligned)
    (same : first.get? screenHeight = second.get? screenHeight)
    (here : tree.resolve first id = .ok one) (there : tree.resolve second id = .ok other) :
    one.y = other.y ∧ one.height = other.height := by
  obtain ⟨-, y, -, height⟩ := evaluate_of_resolve here
  obtain ⟨-, otherY, -, otherHeight⟩ := evaluate_of_resolve there
  rw [(aligned.derivedOffset id .vertical).evaluate_eq same, otherY] at y
  rw [(aligned.derivedExtent id .vertical).evaluate_eq same, otherHeight] at height
  exact ⟨(Except.ok.inj y).symm, (Except.ok.inj height).symm⟩

end BoxTree.Aligned

end BootTheme
