import BootTheme.Proofs.Layout.Walk

/-!
# Layouts that cannot fail

An expression that knows only the size of the screen and divides only by constants other
than zero has a value on every screen. Sides taken from such expressions are such
expressions again, so a tree whose boxes override their sides with nothing else has a
rectangle for every box on every screen.
-/

namespace BootTheme

variable {α : Type} [Scalar α]

/-- Expressions over the size of the screen that divide by constants other than zero only. -/
inductive Expr.ScreenBound : Expr α → Prop where
  | constant (value : α) : ScreenBound (.constant value)
  | screen (axis : Axis) : ScreenBound (.unknown axis.screen)
  | add {left right : Expr α} (first : ScreenBound left) (second : ScreenBound right) :
      ScreenBound (.binary .add left right)
  | sub {left right : Expr α} (first : ScreenBound left) (second : ScreenBound right) :
      ScreenBound (.binary .sub left right)
  | mul {left right : Expr α} (first : ScreenBound left) (second : ScreenBound right) :
      ScreenBound (.binary .mul left right)
  | div {left : Expr α} {value : α} (first : ScreenBound left)
      (nonzero : Scalar.isZero value = false) : ScreenBound (.binary .div left (.constant value))

/-- A box that overrides its sides with such expressions only. -/
structure LayoutBox.ScreenBound (box : LayoutBox α) : Prop where
  left : ∀ expr ∈ box.leftExpr, expr.ScreenBound
  top : ∀ expr ∈ box.topExpr, expr.ScreenBound
  width : ∀ expr ∈ box.widthExpr, expr.ScreenBound
  height : ∀ expr ∈ box.heightExpr, expr.ScreenBound

/-- A tree of such boxes. -/
def BoxTree.ScreenBound (tree : BoxTree α) : Prop :=
  ∀ id box, tree.box? id = some box → box.ScreenBound

/-! ## Expressions -/

theorem get?_forScreen (width height : Nat) (axis : Axis) :
    ∃ value, (Context.forScreen width height : Context α).get? axis.screen = some value := by
  unfold Context.forScreen
  cases axis with
  | horizontal =>
      refine ⟨Scalar.ofNat width, ?_⟩
      rw [Dictionary.get?_set, if_neg (by decide), Dictionary.get?_set]
      exact if_pos rfl
  | vertical =>
      refine ⟨Scalar.ofNat height, ?_⟩
      rw [Dictionary.get?_set]
      exact if_pos rfl

/-- An operation has a value where both sides have one and it is defined on these. -/
theorem evaluates_binary {context : Context α} {operator : Operator} {left right : Expr α}
    (onLeft : ∃ value, left.evaluate context = .ok value)
    (onRight : ∃ value, right.evaluate context = .ok value)
    (defined : ∀ first second, right.evaluate context = .ok second →
      ∃ value, Expr.apply operator first second = some value) :
    ∃ value, (Expr.binary operator left right).evaluate context = .ok value := by
  obtain ⟨first, onLeft⟩ := onLeft
  obtain ⟨second, onRight⟩ := onRight
  obtain ⟨value, applied⟩ := defined first second onRight
  exact ⟨value, by simp only [Expr.evaluate, onLeft, onRight, applied]⟩

/-- On every screen such an expression has a value. -/
theorem Expr.ScreenBound.evaluates {expr : Expr α} (bound : expr.ScreenBound)
    (width height : Nat) : ∃ value, expr.evaluate (.forScreen width height) = .ok value := by
  induction bound with
  | constant value => exact ⟨value, rfl⟩
  | screen axis =>
      obtain ⟨value, found⟩ := get?_forScreen (α := α) width height axis
      exact ⟨value, by simp only [Expr.evaluate, found]⟩
  | add _ _ onLeft onRight => exact evaluates_binary onLeft onRight fun _ _ _ => ⟨_, rfl⟩
  | sub _ _ onLeft onRight => exact evaluates_binary onLeft onRight fun _ _ _ => ⟨_, rfl⟩
  | mul _ _ onLeft onRight => exact evaluates_binary onLeft onRight fun _ _ _ => ⟨_, rfl⟩
  | @div left divisor _ nonzero onLeft =>
      refine evaluates_binary onLeft ⟨divisor, rfl⟩ ?_
      rintro first second same
      cases same
      exact ⟨first / divisor, by simp [Expr.apply, nonzero]⟩

theorem Length.screenBound_toExpr (hundred : Scalar.isZero (Scalar.ofNat 100 : α) = false)
    (length : Length α) {reference : Expr α} (bound : reference.ScreenBound) :
    (length.toExpr reference).ScreenBound := by
  have scaled (percent : α) :
      (Expr.binary .mul reference
        (.binary .div (.constant percent) (.constant (Scalar.ofNat 100)))).ScreenBound :=
    .mul bound (.div (.constant percent) hundred)
  cases length with
  | absolute pixels => exact .constant pixels
  | relative percent => exact scaled percent
  | combined percent sign offset =>
      cases sign with
      | plus => exact .add (scaled percent) (.constant offset)
      | minus => exact .sub (scaled percent) (.constant offset)

/-! ## Lineages -/

namespace LayoutBox.ScreenBound

variable {box : LayoutBox α}

theorem offset (bound : box.ScreenBound) (axis : Axis) :
    ∀ expr ∈ box.offsetExpr? axis, expr.ScreenBound := by
  cases axis with
  | horizontal => exact bound.left
  | vertical => exact bound.top

theorem extent (bound : box.ScreenBound) (axis : Axis) :
    ∀ expr ∈ box.extentExpr? axis, expr.ScreenBound := by
  cases axis with
  | horizontal => exact bound.width
  | vertical => exact bound.height

/-- A box without overrides. -/
theorem of_declared (left : box.leftExpr = none) (top : box.topExpr = none)
    (width : box.widthExpr = none) (height : box.heightExpr = none) : box.ScreenBound where
  left expr override := by rw [left] at override; cases override
  top expr override := by rw [top] at override; cases override
  width expr override := by rw [width] at override; cases override
  height expr override := by rw [height] at override; cases override

end LayoutBox.ScreenBound

namespace Lineage

variable {boxes : List (LayoutBox α)}

theorem passes_screenBound (hundred : Scalar.isZero (Scalar.ofNat 100 : α) = false)
    (axis : Axis) : Passes axis (Expr.ScreenBound : Expr α → Prop) where
  screen := .screen axis
  zero := .constant _
  add first second := .add first second
  length length _ bound := Length.screenBound_toExpr hundred length bound

theorem screenBound_extent (hundred : Scalar.isZero (Scalar.ofNat 100 : α) = false) (axis : Axis)
    (bound : ∀ box ∈ boxes, box.ScreenBound) : (extent axis boxes).ScreenBound :=
  (passes_screenBound hundred axis).extent fun box among => (bound box among).extent axis

theorem screenBound_offset (hundred : Scalar.isZero (Scalar.ofNat 100 : α) = false) (axis : Axis)
    (bound : ∀ box ∈ boxes, box.ScreenBound) : (offset axis boxes).ScreenBound :=
  (passes_screenBound hundred axis).offset (fun box among => (bound box among).offset axis)
    fun box among => (bound box among).extent axis

end Lineage

/-! ## Trees -/

namespace BoxTree

variable {tree : BoxTree α}

omit [Scalar α] in
theorem mem_outwards {fuel id : Nat} {box : LayoutBox α} (among : box ∈ tree.outwards fuel id) :
    ∃ other, tree.box? other = some box := by
  induction fuel generalizing id with
  | zero =>
      unfold outwards at among
      cases found : tree.box? id with
      | none =>
          rw [found] at among
          cases among
      | some own =>
          rw [found] at among
          cases List.mem_singleton.1 among
          exact ⟨id, found⟩
  | succ fuel ih =>
      unfold outwards at among
      cases found : tree.box? id with
      | none =>
          rw [found] at among
          cases among
      | some own =>
          rw [found] at among
          cases link : own.parent with
          | none =>
              simp only [link] at among
              cases List.mem_singleton.1 among
              exact ⟨id, found⟩
          | some parent =>
              simp only [link] at among
              rcases List.mem_cons.1 among with rfl | outer
              · exact ⟨id, found⟩
              · exact ih outer

namespace ScreenBound

variable (bound : tree.ScreenBound) (hundred : Scalar.isZero (Scalar.ofNat 100 : α) = false)

include bound

theorem lineage (id : Nat) : ∀ box ∈ tree.lineage id, box.ScreenBound := by
  intro box among
  obtain ⟨other, found⟩ := mem_outwards among
  exact bound other box found

include hundred

theorem derivedExtent (id : Nat) (axis : Axis) : (tree.derivedExtent id axis).ScreenBound :=
  Lineage.screenBound_extent hundred axis (bound.lineage id)

theorem derivedOffset (id : Nat) (axis : Axis) : (tree.derivedOffset id axis).ScreenBound :=
  Lineage.screenBound_offset hundred axis (bound.lineage id)

theorem resolves (width height id : Nat) :
    ∃ rect, tree.resolve (.forScreen width height) id = .ok rect := by
  obtain ⟨x, atX⟩ := (bound.derivedOffset hundred id .horizontal).evaluates width height
  obtain ⟨y, atY⟩ := (bound.derivedOffset hundred id .vertical).evaluates width height
  obtain ⟨across, wide⟩ := (bound.derivedExtent hundred id .horizontal).evaluates width height
  obtain ⟨down, high⟩ := (bound.derivedExtent hundred id .vertical).evaluates width height
  refine ⟨⟨x, y, across, down⟩, ?_⟩
  unfold resolve
  rw [atX, atY, wide, high]
  rfl

/-- On every screen the walk over such a tree ends without an error. -/
theorem walk_error (width height : Nat) :
    (tree.walk (.forScreen width height)).error = none := by
  rcases visit_cases tree (.forScreen width height) tree.preorder with
    ⟨fine, _⟩ | ⟨_, id, _, reason, _, _, _, _, failed⟩
  · exact fine
  · obtain ⟨rect, resolved⟩ := bound.resolves hundred width height id
    rw [resolved] at failed
    cases failed

/-- On every screen every box of such a tree has a rectangle. -/
theorem resolveAll (width height : Nat) :
    ∃ rects, tree.resolveAll (.forScreen width height) = .ok rects ∧
      rects.map Prod.fst = tree.preorder := by
  have fine := bound.walk_error hundred width height
  exact ⟨_, resolveAll_of_error_eq_none fine, visited_of_error_eq_none _ fine⟩

end ScreenBound

/-! ## Building such trees -/

theorem screenBound_screen : (screen : BoxTree α).ScreenBound := by
  intro id box found
  cases id with
  | zero =>
      cases found
      exact .of_declared rfl rfl rfl rfl
  | succ id => cases found

/-- A new child keeps its overrides, and so do the boxes that were there. -/
theorem ScreenBound.addChild (bound : tree.ScreenBound) {parent : Nat} {box : LayoutBox α}
    (old : parent < tree.size) (own : box.ScreenBound) :
    (tree.addChild parent box).ScreenBound := by
  intro id other found
  have below := lt_size_of_box? found
  rw [size_addChild] at below
  rcases Nat.lt_or_eq_of_le (Nat.le_of_lt_succ below) with earlier | rfl
  · rw [box?_addChild tree parent id box earlier] at found
    obtain ⟨before, known, same⟩ := Option.map_eq_some_iff.1 found
    have kept := bound id before known
    split at same <;> cases same
    · exact ⟨kept.left, kept.top, kept.width, kept.height⟩
    · exact kept
  · rw [box?_addChild_last tree parent box old] at found
    cases found
    exact ⟨own.left, own.top, own.width, own.height⟩

/-- What a box shows has no part in this. -/
theorem ScreenBound.edit_paint (bound : tree.ScreenBound) (id : Nat) (paint : Option (Paint α)) :
    (tree.edit id fun box => { box with paint }).ScreenBound := by
  intro other box found
  rw [box?_edit] at found
  obtain ⟨before, known, same⟩ := Option.map_eq_some_iff.1 found
  have kept := bound other before known
  split at same <;> cases same
  · exact ⟨kept.left, kept.top, kept.width, kept.height⟩
  · exact kept

end BoxTree

end BootTheme
