import BootTheme.Proofs.Layout.Walk

/-!
# Trees whose boxes are numbered in the order of the walk

While a theme is built, every box is put below the last one or below a box around the last one.
So a subtree is complete before anything is added beside it: the numbers of the boxes
of a subtree follow each other, and a walk visits all boxes by number.
-/

namespace BootTheme

namespace BoxTree

variable {α : Type} {tree : BoxTree α}

/-- Every box but the screen lies below the box before it, or below one around that. -/
def Stacked (tree : BoxTree α) : Prop :=
  ∀ id parent, tree.parent? (id + 1) = some parent → tree.Within parent id

theorem stacked_screen : (screen : BoxTree α).Stacked := by
  intro id parent link
  have young := lt_size_of_parent? link
  exact absurd young (Nat.not_lt.mpr (Nat.le_add_left 1 id))

/-! ## The order of a stacked tree -/

/-- The boxes between a box and one inside it lie inside it too. -/
theorem Stacked.within_between (stacked : tree.Stacked) {outer inner middle : Nat}
    (within : tree.Within outer inner) (above : outer ≤ middle) (below : middle ≤ inner) :
    tree.Within outer middle := by
  -- Downwards from the inner box: the box before one that lies inside does so as well.
  induction gap : inner - middle generalizing middle with
  | zero =>
      obtain rfl : middle = inner := by omega
      exact within
  | succ gap ih =>
      have next : tree.Within outer (middle + 1) := ih (by omega) (by omega) (by omega)
      cases next with
      | self => exact absurd above (Nat.not_succ_le_self middle)
      | step link inside => exact inside.trans (stacked middle _ link)

/-- Of two boxes inside siblings, the one inside the older sibling has the smaller number. -/
theorem Stacked.siblings_lt (stacked : tree.Stacked) (arena : tree.Arena)
    {id older younger first second : Nat} (left : older ∈ tree.offspring id)
    (right : younger ∈ tree.offspring id) (age : older < younger)
    (inOlder : tree.Within older first) (inYounger : tree.Within younger second) :
    first < second := by
  refine Nat.lt_of_lt_of_le ?_ (inYounger.le arena)
  by_contra late
  have inside := stacked.within_between inOlder (Nat.le_of_lt age) (Nat.not_lt.mp late)
  exact absurd (arena.siblings_apart left right inside) (Nat.ne_of_lt age)

theorem Stacked.subtree_sorted (stacked : tree.Stacked) (arena : tree.Arena) {id : Nat}
    (old : id < tree.size) : (tree.subtree id).Pairwise (· < ·) := by
  refine arena.inward (motive := fun id => (tree.subtree id).Pairwise (· < ·))
    (fun id old ih => ?_) id old
  have within {child other : Nat} (listed : child ∈ tree.offspring id)
      (member : other ∈ tree.subtree child) : tree.Within child other :=
    (arena.mem_subtree (lt_size_of_parent? (mem_offspring.mp listed))).mp member
  rw [arena.subtree_eq old, List.pairwise_cons, List.pairwise_flatMap]
  refine ⟨fun other member => ?_, ih, ?_⟩
  · obtain ⟨child, listed, member⟩ := List.mem_flatMap.mp member
    exact Nat.lt_of_lt_of_le (arena.parent_lt child id (mem_offspring.mp listed))
      ((within listed member).le arena)
  · have ordered : (tree.offspring id).Pairwise (· < ·) := List.pairwise_lt_range.filter _
    refine ordered.imp_of_mem fun {older younger} left right age => ?_
    intro first inOlder second inYounger
    exact stacked.siblings_lt arena left right age (within left inOlder) (within right inYounger)

/-- A walk visits the boxes of a stacked tree by number. -/
theorem Stacked.preorder_eq_range (stacked : tree.Stacked) (arena : tree.Arena) :
    tree.preorder = List.range tree.size := by
  have sorted : tree.preorder.Pairwise (· < ·) := stacked.subtree_sorted arena arena.nonempty
  refine arena.preorder_perm.eq_of_pairwise (fun _ _ _ _ less more => ?_) sorted
    List.pairwise_lt_range
  exact absurd less (Nat.lt_asymm more)

/-! ## What a new box keeps -/

theorem Within.addChild {outer inner : Nat} (within : tree.Within outer inner) (parent : Nat)
    (box : LayoutBox α) : (tree.addChild parent box).Within outer inner := by
  induction within with
  | self => exact .self
  | step link _ ih =>
      refine .step ?_ ih
      rw [parent?_addChild tree parent box (lt_size_of_parent? link)]
      exact link

/-- A box below the last one or below one around it keeps the numbers in order. -/
theorem Stacked.addChild (stacked : tree.Stacked) {parent : Nat} (old : parent < tree.size)
    (around : tree.Within parent (tree.size - 1)) (box : LayoutBox α) :
    (tree.addChild parent box).Stacked := by
  intro id other link
  have young := lt_size_of_parent? link
  rw [size_addChild] at young
  by_cases earlier : id + 1 < tree.size
  · rw [parent?_addChild tree parent box earlier] at link
    exact (stacked id other link).addChild parent box
  · obtain rfl : id = tree.size - 1 := by omega
    have last : tree.size - 1 + 1 = tree.size := by omega
    rw [last, parent?_addChild_last tree box old] at link
    cases link
    exact around.addChild parent box

theorem Stacked.edit (stacked : tree.Stacked) (id : Nat) (change : LayoutBox α → LayoutBox α) :
    (tree.edit id change).Stacked := by
  have kept {outer inner : Nat} (within : tree.Within outer inner) :
      (tree.edit id change).Within outer inner := by
    induction within with
    | self => exact .self
    | step link _ ih => exact .step ((parent?_edit tree id _ change).trans link) ih
  intro other parent link
  rw [parent?_edit] at link
  exact kept (stacked other parent link)

end BoxTree

/-- The box without its children. -/
def LayoutBox.alone {α : Type} (box : LayoutBox α) : LayoutBox α := { box with children := [] }

/-- Children have no part in the size of a box. -/
theorem Lineage.extent_alone {α : Type} [Scalar α] (axis : Axis) (boxes : List (LayoutBox α)) :
    extent axis (boxes.map LayoutBox.alone) = extent axis boxes := by
  induction boxes with
  | nil => rfl
  | cons box around ih =>
      cases around with
      | nil =>
          cases axis with
          | horizontal => rfl
          | vertical => rfl
      | cons outer rest =>
          have whole : extent axis (box :: outer :: rest) =
              box.extentAgainst axis (extent axis (outer :: rest)) := rfl
          rw [whole, ← ih]
          cases axis with
          | horizontal => rfl
          | vertical => rfl

namespace BoxTree

variable {α : Type} {tree : BoxTree α}

/-- A box that was there is found again, but for its children. -/
theorem exists_box?_addChild (parent : Nat) (box : LayoutBox α) {id : Nat} {other : LayoutBox α}
    (found : tree.box? id = some other) :
    ∃ children, (tree.addChild parent box).box? id = some { other with children } := by
  rw [box?_addChild tree parent id box (lt_size_of_box? found), found, Option.map_some]
  by_cases same : parent = id
  · rw [if_pos same]
    exact ⟨_, rfl⟩
  · rw [if_neg same]
    exact ⟨_, rfl⟩

/-- The boxes around one that was there stay the same, but for their children. -/
theorem Arena.lineage_addChild (arena : tree.Arena) {parent : Nat} (old : parent < tree.size)
    (box : LayoutBox α) {id : Nat} (earlier : id < tree.size) :
    ((tree.addChild parent box).lineage id).map LayoutBox.alone =
      (tree.lineage id).map LayoutBox.alone := by
  have next := arena.addChild old box
  induction id using Nat.strongRecOn with
  | ind id ih =>
      obtain ⟨own, found⟩ := tree.box?_isSome earlier
      obtain ⟨children, kept⟩ := exists_box?_addChild parent box found
      cases link : own.parent with
      | none =>
          rw [lineage_of_orphan found link, lineage_of_orphan kept link]
          rfl
      | some around =>
          have older := arena.parent_lt id around ((parent?_of_box? found).trans link)
          rw [arena.lineage_of_child found link, next.lineage_of_child kept link, List.map_cons,
            List.map_cons, ih around older (Nat.lt_trans older earlier)]
          rfl

theorem Arena.depth_addChild (arena : tree.Arena) {parent : Nat} (old : parent < tree.size)
    (box : LayoutBox α) {id : Nat} (earlier : id < tree.size) :
    (tree.addChild parent box).depth id = tree.depth id := by
  have same := congrArg List.length (arena.lineage_addChild old box earlier)
  rw [List.length_map, List.length_map] at same
  rw [depth, depth, same]

theorem Arena.derivedExtent_addChild [Scalar α] (arena : tree.Arena) {parent : Nat}
    (old : parent < tree.size) (box : LayoutBox α) {id : Nat} (earlier : id < tree.size)
    (axis : Axis) : (tree.addChild parent box).derivedExtent id axis =
      tree.derivedExtent id axis := by
  have same := congrArg (Lineage.extent axis) (arena.lineage_addChild old box earlier)
  rwa [Lineage.extent_alone, Lineage.extent_alone] at same

end BoxTree

end BootTheme
