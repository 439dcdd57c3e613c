import BootTheme.Layout.Length
import BootTheme.Paint.Basic

/-!
# The tree of boxes

Boxes stand in a tree below the box of the screen and are numbered in the order
in which they were added. A box has a declared length for each side, or an
expression that stands in for it. Position and size of a box are expressions
over its lineage: the box itself and the boxes around it, outwards to the screen.
-/

namespace BootTheme

/-- The two directions of a layout. -/
inductive Axis where
  | horizontal
  | vertical
deriving DecidableEq, Repr

/-- One rectangular region of the picture. -/
structure LayoutBox (α : Type) where
  name : String
  left : Option (Length α) := none
  top : Option (Length α) := none
  width : Option (Length α) := none
  height : Option (Length α) := none
  /-- Stands in for `left`. -/
  leftExpr : Option (Expr α) := none
  /-- Stands in for `top`. -/
  topExpr : Option (Expr α) := none
  /-- Stands in for `width`. -/
  widthExpr : Option (Expr α) := none
  /-- Stands in for `height`. -/
  heightExpr : Option (Expr α) := none
  paint : Option (Paint α) := none
  parent : Option Nat := none
  children : List Nat := []
deriving DecidableEq, Repr

/-- Boxes by number; the first one is the screen. -/
structure BoxTree (α : Type) where
  boxes : Array (LayoutBox α)
deriving Repr

namespace LayoutBox

variable {α : Type}

/-- The declared distance from the parent's origin. -/
def offset? (box : LayoutBox α) : Axis → Option (Length α)
  | .horizontal => box.left
  | .vertical => box.top

/-- The declared size. -/
def extent? (box : LayoutBox α) : Axis → Option (Length α)
  | .horizontal => box.width
  | .vertical => box.height

/-- The expression in place of the declared distance. -/
def offsetExpr? (box : LayoutBox α) : Axis → Option (Expr α)
  | .horizontal => box.leftExpr
  | .vertical => box.topExpr

/-- The expression in place of the declared size. -/
def extentExpr? (box : LayoutBox α) : Axis → Option (Expr α)
  | .horizontal => box.widthExpr
  | .vertical => box.heightExpr

/-- The box as a new last child of a parent. -/
def below (box : LayoutBox α) (parent : Nat) : LayoutBox α :=
  { box with parent := some parent, children := [] }

/-- The box with one more child. -/
def addChild (box : LayoutBox α) (child : Nat) : LayoutBox α :=
  { box with children := box.children ++ [child] }

end LayoutBox

/-- The unknown that holds the size of the screen. -/
def Axis.screen : Axis → String
  | horizontal => screenWidth
  | vertical => screenHeight

namespace Lineage

variable {α : Type} [Scalar α]

/-- The size of the first box of a lineage. -/
def extent (axis : Axis) : List (LayoutBox α) → Expr α
  | [] => .unknown axis.screen
  | [screen] => (screen.extentExpr? axis).getD (.unknown axis.screen)
  | box :: around =>
      match box.extentExpr? axis with
      | some expr => expr
      | none => ((box.extent? axis).getD .zero).toExpr (extent axis around)

/-- The position of the first box of a lineage. -/
def offset (axis : Axis) : List (LayoutBox α) → Expr α
  | [] => .zero
  | [_] => .zero
  | box :: around =>
      offset axis around +
        match box.offsetExpr? axis with
        | some expr => expr
        | none => ((box.offset? axis).getD .zero).toExpr (extent axis around)

end Lineage

namespace BoxTree

variable {α : Type}

/-- A tree of the screen alone. -/
def screen : BoxTree α := ⟨#[{ name := "screen" }]⟩

/-- The number of boxes. -/
def size (tree : BoxTree α) : Nat := tree.boxes.size

/-- The box of a number. -/
def box? (tree : BoxTree α) (id : Nat) : Option (LayoutBox α) := tree.boxes[id]?

/-- The tree with a box as the last child of a parent. The box gets the next number. -/
def addChild (tree : BoxTree α) (parent : Nat) (box : LayoutBox α) : BoxTree α :=
  ⟨(tree.boxes.push (box.below parent)).modify parent fun around => around.addChild tree.size⟩

/-- The tree with the contents of a box replaced; its place in the tree is kept. -/
def edit (tree : BoxTree α) (id : Nat) (change : LayoutBox α → LayoutBox α) : BoxTree α :=
  ⟨tree.boxes.modify id fun box =>
    { change box with parent := box.parent, children := box.children }⟩

theorem size_addChild (tree : BoxTree α) (parent : Nat) (box : LayoutBox α) :
    (tree.addChild parent box).size = tree.size + 1 := by
  simp [size, addChild]

theorem size_edit (tree : BoxTree α) (id : Nat) (change : LayoutBox α → LayoutBox α) :
    (tree.edit id change).size = tree.size := by
  simp [size, edit]

theorem box?_addChild (tree : BoxTree α) (parent id : Nat) (box : LayoutBox α)
    (old : id < tree.size) :
    (tree.addChild parent box).box? id =
      (tree.box? id).map fun other =>
        if parent = id then other.addChild tree.size else other := by
  have kept : (tree.boxes.push (box.below parent))[id]? = tree.boxes[id]? := by
    rw [Array.getElem?_push]
    exact if_neg (Nat.ne_of_lt old)
  unfold box? addChild
  rw [Array.getElem?_modify, kept]
  split
  · rfl
  · exact Option.map_id'.symm

theorem box?_addChild_last (tree : BoxTree α) (parent : Nat) (box : LayoutBox α)
    (old : parent < tree.size) :
    (tree.addChild parent box).box? tree.size = some (box.below parent) := by
  unfold box? addChild
  rw [Array.getElem?_modify, if_neg (Nat.ne_of_lt old)]
  exact Array.getElem?_push_size

/-- The boxes from one outwards. A parent has a smaller number than its child, so as many
steps as the number suffice. -/
def outwards (tree : BoxTree α) : Nat → Nat → List (LayoutBox α)
  | fuel, id =>
      match tree.box? id with
      | none => []
      | some box =>
          match fuel, box.parent with
          | fuel + 1, some parent => box :: tree.outwards fuel parent
          | _, _ => [box]

/-- A box and the boxes around it. -/
def lineage (tree : BoxTree α) (id : Nat) : List (LayoutBox α) := tree.outwards id id

/-- The number of boxes around a box. -/
def depth (tree : BoxTree α) (id : Nat) : Nat := (tree.lineage id).length - 1

/-- The children of a box, oldest first. -/
def childrenOf (tree : BoxTree α) (id : Nat) : List Nat :=
  match tree.box? id with
  | some box => box.children
  | none => []

/-- The numbers of a box and all below it, parents before children, siblings by age. -/
def preorderFrom (tree : BoxTree α) : Nat → Nat → List Nat
  | 0, _ => []
  | fuel + 1, id => id :: (tree.childrenOf id).flatMap (tree.preorderFrom fuel)

/-- The numbers of all boxes, parents before children, siblings by age. -/
def preorder (tree : BoxTree α) : List Nat := tree.preorderFrom tree.size 0

variable [Scalar α]

/-- The position of a box. -/
def derivedOffset (tree : BoxTree α) (id : Nat) (axis : Axis) : Expr α :=
  Lineage.offset axis (tree.lineage id)

/-- The size of a box. -/
def derivedExtent (tree : BoxTree α) (id : Nat) (axis : Axis) : Expr α :=
  Lineage.extent axis (tree.lineage id)

/-- The rectangle of a box. Left, top, width and height are evaluated in this order. -/
def resolve (tree : BoxTree α) (context : Context α) (id : Nat) :
    Except (EvalError α) (Rect α) := do
  let x ← (tree.derivedOffset id .horizontal).evaluate context
  let y ← (tree.derivedOffset id .vertical).evaluate context
  let width ← (tree.derivedExtent id .horizontal).evaluate context
  let height ← (tree.derivedExtent id .vertical).evaluate context
  return ⟨x, y, width, height⟩

/-- The boxes that were resolved, and the error that ended the walk. -/
structure Walk (α : Type) where
  visited : List (Nat × Rect α)
  error : Option (EvalError α)
deriving Repr

/-- Resolves boxes in order up to the first error. -/
def visit (tree : BoxTree α) (context : Context α) : List Nat → Walk α
  | [] => ⟨[], none⟩
  | id :: rest =>
      match tree.resolve context id with
      | .error reason => ⟨[], some reason⟩
      | .ok rect =>
          let walk := tree.visit context rest
          { walk with visited := (id, rect) :: walk.visited }

/-- Resolves all boxes, parents before children, up to the first error. -/
def walk (tree : BoxTree α) (context : Context α) : Walk α :=
  tree.visit context tree.preorder

/-- The rectangles of all boxes, parents before children. -/
def resolveAll (tree : BoxTree α) (context : Context α) :
    Except (EvalError α) (List (Nat × Rect α)) :=
  match tree.walk context with
  | ⟨_, some reason⟩ => .error reason
  | ⟨visited, none⟩ => .ok visited

end BoxTree

end BootTheme
