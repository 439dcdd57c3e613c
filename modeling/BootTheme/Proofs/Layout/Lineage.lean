import BootTheme.Proofs.Layout.Arena

/-!
# Lineages

In a grown tree the way outwards from a box ends at the screen, so the bound on its
length is never felt: the lineage of a box is the box before the lineage of its
parent. Depth, position and size of a box follow the same recursion.
-/

namespace BootTheme

namespace LayoutBox

variable {α : Type} [Scalar α]

/-- What stands for a side of a box: its override, or else its length against a reference. -/
def sideExpr (override : Option (Expr α)) (length : Option (Length α)) (around : Expr α) :
    Expr α :=
  match override with
  | some expr => expr
  | none => (length.getD .zero).toExpr around

/-- What stands for the distance of a box from the origin of a box of the given size. -/
def offsetAgainst (box : LayoutBox α) (axis : Axis) (around : Expr α) : Expr α :=
  sideExpr (box.offsetExpr? axis) (box.offset? axis) around

/-- What stands for the size of a box inside a box of the given size. -/
def extentAgainst (box : LayoutBox α) (axis : Axis) (around : Expr α) : Expr α :=
  sideExpr (box.extentExpr? axis) (box.extent? axis) around

end LayoutBox

namespace Lineage

variable {α : Type} [Scalar α]

/-- A property of expressions along an axis that a lineage takes over from its overrides: what is
made from a length or by addition has it as well. -/
structure Passes (axis : Axis) (holds : Expr α → Prop) : Prop where
  screen : holds (.unknown axis.screen)
  zero : holds .zero
  add : ∀ {left right}, holds left → holds right → holds (left + right)
  length : ∀ (length : Length α) {reference}, holds reference → holds (length.toExpr reference)

namespace Passes

variable {axis : Axis} {holds : Expr α → Prop} {boxes : List (LayoutBox α)}

theorem extent (passes : Passes axis holds)
    (own : ∀ box ∈ boxes, ∀ expr ∈ box.extentExpr? axis, holds expr) :
    holds (extent axis boxes) := by
  induction boxes with
  | nil => exact passes.screen
  | cons box around ih =>
      have here := own box List.mem_cons_self
      have outer := ih fun other later => own other (List.mem_cons_of_mem box later)
      cases around with
      | nil =>
          rw [Lineage.extent]
          cases override : box.extentExpr? axis with
          | none => exact passes.screen
          | some expr => exact here expr override
      | cons next rest =>
          rw [Lineage.extent]
          · cases override : box.extentExpr? axis with
            | none => exact passes.length _ outer
            | some expr => exact here expr override
          · exact List.cons_ne_nil next rest

theorem offset (passes : Passes axis holds)
    (own : ∀ box ∈ boxes, ∀ expr ∈ box.offsetExpr? axis, holds expr)
    (sizes : ∀ box ∈ boxes, ∀ expr ∈ box.extentExpr? axis, holds expr) :
    holds (offset axis boxes) := by
  induction boxes with
  | nil => exact passes.zero
  | cons box around ih =>
      have here := own box List.mem_cons_self
      have inner := fun other later => sizes other (List.mem_cons_of_mem box later)
      have outer := ih (fun other later => own other (List.mem_cons_of_mem box later)) inner
      cases around with
      | nil => exact passes.zero
      | cons next rest =>
          rw [Lineage.offset]
          · refine passes.add outer ?_
            cases override : box.offsetExpr? axis with
            | none => exact passes.length _ (passes.extent inner)
            | some expr => exact here expr override
          · exact List.cons_ne_nil next rest

end Passes

end Lineage

namespace BoxTree

variable {α : Type} {tree : BoxTree α}

/-- A parent is smaller than its child, so following parents ends. -/
theorem Arena.wellFounded (arena : tree.Arena) :
    WellFounded fun parent id => tree.parent? id = some parent :=
  Subrelation.wf (fun link => arena.parent_lt _ _ link) Nat.lt_wfRel.wf

theorem outwards_of_none {fuel id : Nat} (missing : tree.box? id = none) :
    tree.outwards fuel id = [] := by
  unfold outwards
  rw [missing]

theorem outwards_of_orphan {fuel id : Nat} {box : LayoutBox α}
    (found : tree.box? id = some box) (orphan : box.parent = none) :
    tree.outwards fuel id = [box] := by
  unfold outwards
  rw [found]
  simp [orphan]

theorem outwards_of_child {fuel id parent : Nat} {box : LayoutBox α}
    (found : tree.box? id = some box) (link : box.parent = some parent) :
    tree.outwards (fuel + 1) id = box :: tree.outwards fuel parent := by
  rw [outwards, found]
  simp [link]

/-- As many steps as the number of the box suffice; more change nothing. -/
theorem Arena.outwards_eq_lineage (arena : tree.Arena) (id : Nat) :
    ∀ fuel, id ≤ fuel → tree.outwards fuel id = tree.lineage id := by
  induction id using Nat.strongRecOn with
  | ind id ih =>
      intro fuel enough
      unfold lineage
      cases found : tree.box? id with
      | none => rw [outwards_of_none found, outwards_of_none found]
      | some box =>
          cases link : box.parent with
          | none => rw [outwards_of_orphan found link, outwards_of_orphan found link]
          | some parent =>
              have older := arena.parent_lt id parent ((parent?_of_box? found).trans link)
              obtain ⟨steps, rfl⟩ : ∃ steps, id = steps + 1 := ⟨id - 1, by omega⟩
              obtain ⟨more, rfl⟩ : ∃ more, fuel = more + 1 := ⟨fuel - 1, by omega⟩
              rw [outwards_of_child found link, outwards_of_child found link,
                ih parent older more (by omega), ih parent older steps (by omega)]

theorem lineage_of_orphan {id : Nat} {box : LayoutBox α} (found : tree.box? id = some box)
    (orphan : box.parent = none) : tree.lineage id = [box] :=
  outwards_of_orphan found orphan

/-- The lineage of a box is the box before the lineage of its parent. -/
theorem Arena.lineage_of_child (arena : tree.Arena) {id parent : Nat} {box : LayoutBox α}
    (found : tree.box? id = some box) (link : box.parent = some parent) :
    tree.lineage id = box :: tree.lineage parent := by
  have older := arena.parent_lt id parent ((parent?_of_box? found).trans link)
  rw [← arena.outwards_eq_lineage id (id + 1) (Nat.le_succ id), outwards_of_child found link,
    arena.outwards_eq_lineage parent id (Nat.le_of_lt older)]

/-- A lineage holds at least the box itself. -/
theorem lineage_eq_cons {id : Nat} {box : LayoutBox α} (found : tree.box? id = some box) :
    ∃ around, tree.lineage id = box :: around := by
  unfold lineage outwards
  rw [found]
  dsimp only
  split
  · exact ⟨_, rfl⟩
  · exact ⟨[], rfl⟩

/-- The parent of a box of the tree is a box of the tree. -/
theorem Arena.exists_parent (arena : tree.Arena) {id parent : Nat}
    (link : tree.parent? id = some parent) : ∃ box, tree.box? parent = some box :=
  tree.box?_isSome (Nat.lt_trans (arena.parent_lt id parent link) (lt_size_of_parent? link))

theorem depth_of_orphan {id : Nat} {box : LayoutBox α} (found : tree.box? id = some box)
    (orphan : box.parent = none) : tree.depth id = 0 := by
  unfold depth
  rw [lineage_of_orphan found orphan]
  rfl

/-- A box is one deeper than its parent. -/
theorem Arena.depth_of_child (arena : tree.Arena) {id parent : Nat} {box : LayoutBox α}
    (found : tree.box? id = some box) (link : box.parent = some parent) :
    tree.depth id = tree.depth parent + 1 := by
  obtain ⟨outer, present⟩ := arena.exists_parent ((parent?_of_box? found).trans link)
  obtain ⟨around, shape⟩ := lineage_eq_cons present
  unfold depth
  rw [arena.lineage_of_child found link, shape]
  rfl

variable [Scalar α]

theorem derivedOffset_of_orphan {id : Nat} {box : LayoutBox α} (axis : Axis)
    (found : tree.box? id = some box) (orphan : box.parent = none) :
    tree.derivedOffset id axis = .zero := by
  unfold derivedOffset
  rw [lineage_of_orphan found orphan]
  rfl

theorem derivedExtent_of_orphan {id : Nat} {box : LayoutBox α} (axis : Axis)
    (found : tree.box? id = some box) (orphan : box.parent = none) :
    tree.derivedExtent id axis = (box.extentExpr? axis).getD (.unknown axis.screen) := by
  unfold derivedExtent
  rw [lineage_of_orphan found orphan]
  rfl

/-- A box lies at its parent's origin, moved by its own offset. -/
theorem Arena.derivedOffset_of_child (arena : tree.Arena) {id parent : Nat} {box : LayoutBox α}
    (axis : Axis) (found : tree.box? id = some box) (link : box.parent = some parent) :
    tree.derivedOffset id axis =
      tree.derivedOffset parent axis + box.offsetAgainst axis (tree.derivedExtent parent axis) := by
  obtain ⟨outer, present⟩ := arena.exists_parent ((parent?_of_box? found).trans link)
  obtain ⟨around, shape⟩ := lineage_eq_cons present
  unfold derivedOffset derivedExtent
  rw [arena.lineage_of_child found link, shape]
  rfl

/-- A box has its own size, or one taken from its parent's. -/
theorem Arena.derivedExtent_of_child (arena : tree.Arena) {id parent : Nat} {box : LayoutBox α}
    (axis : Axis) (found : tree.box? id = some box) (link : box.parent = some parent) :
    tree.derivedExtent id axis = box.extentAgainst axis (tree.derivedExtent parent axis) := by
  obtain ⟨outer, present⟩ := arena.exists_parent ((parent?_of_box? found).trans link)
  obtain ⟨around, shape⟩ := lineage_eq_cons present
  unfold derivedExtent
  rw [arena.lineage_of_child found link, shape]
  rfl

end BoxTree

end BootTheme
