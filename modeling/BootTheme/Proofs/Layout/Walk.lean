import BootTheme.Proofs.Layout.Preorder

/-!
# What a walk visits

A walk resolves the boxes of a grown tree in order and stops at the first box
without a rectangle: what it visited is the part of the order before that box. A
walk without error visits every box once.
-/

namespace BootTheme

namespace BoxTree

variable {α : Type} {tree : BoxTree α}

/-- The order of a walk that reaches every box. -/
structure WalkOrder (tree : BoxTree α) (ids : List Nat) : Prop where
  once : ids.Perm (List.range tree.size)
  parent_first : ∀ id parent, tree.parent? id = some parent → [parent, id].Sublist ids
  older_first : ∀ older younger parent, older < younger → tree.parent? older = some parent →
    tree.parent? younger = some parent → [older, younger].Sublist ids
  contiguous : ∀ id, id < tree.size → ∃ before inside after, ids = before ++ inside ++ after ∧
    ∀ other, other ∈ inside ↔ tree.Within id other

theorem Arena.walkOrder_preorder (arena : tree.Arena) : tree.WalkOrder tree.preorder where
  once := arena.preorder_perm
  parent_first _ _ link := arena.parent_before_child link
  older_first _ _ _ age first second := arena.older_before_younger age first second
  contiguous id old := by
    obtain ⟨before, after, split⟩ := arena.subtree_infix_preorder old
    exact ⟨before, tree.subtree id, after, split.symm, fun _ => arena.mem_subtree old⟩

/-- The numbers of the boxes with the level at which the walk reaches them. -/
def levels (tree : BoxTree α) : List (Nat × Nat) := tree.levelsFrom tree.size 0 0

theorem Arena.levels_eq (arena : tree.Arena) :
    tree.levels = tree.preorder.map fun id => (id, tree.depth id) := by
  obtain ⟨screen, found⟩ := tree.box?_isSome arena.nonempty
  have orphan : screen.parent = none := by
    rw [← parent?_of_box? found]
    exact (arena.orphan_iff 0 arena.nonempty).mpr rfl
  have level := arena.levelsFrom_eq tree.size 0
  rw [depth_of_orphan found orphan] at level
  exact level

variable [Scalar α]

/-- Depth, position and size of boxes are computed by a recursion over parents that ends. -/
structure Recurs (tree : BoxTree α) : Prop where
  ends : WellFounded fun parent id => tree.parent? id = some parent
  outside : ∀ id box, tree.box? id = some box → box.parent = none →
    tree.depth id = 0 ∧ ∀ axis, tree.derivedOffset id axis = .zero ∧
      tree.derivedExtent id axis = (box.extentExpr? axis).getD (.unknown axis.screen)
  inside : ∀ id box parent, tree.box? id = some box → box.parent = some parent →
    tree.depth id = tree.depth parent + 1 ∧ ∀ axis,
      tree.derivedOffset id axis = tree.derivedOffset parent axis +
          box.offsetAgainst axis (tree.derivedExtent parent axis) ∧
        tree.derivedExtent id axis = box.extentAgainst axis (tree.derivedExtent parent axis)

theorem Arena.recurs (arena : tree.Arena) : tree.Recurs where
  ends := arena.wellFounded
  outside _ _ found orphan :=
    ⟨depth_of_orphan found orphan, fun axis =>
      ⟨derivedOffset_of_orphan axis found orphan, derivedExtent_of_orphan axis found orphan⟩⟩
  inside _ _ _ found link :=
    ⟨arena.depth_of_child found link, fun axis =>
      ⟨arena.derivedOffset_of_child axis found link, arena.derivedExtent_of_child axis found link⟩⟩

/-- Boxes are visited in order up to the first one that has no rectangle. -/
theorem visit_cases (tree : BoxTree α) (context : Context α) (ids : List Nat) :
    ((tree.visit context ids).error = none ∧
        (tree.visit context ids).visited.map Prod.fst = ids) ∨
      ∃ before id after reason, ids = before ++ id :: after ∧
        (tree.visit context ids).visited.map Prod.fst = before ∧
        (∀ other, other ∈ before → ∃ rect, tree.resolve context other = .ok rect) ∧
        (tree.visit context ids).error = some reason ∧
        tree.resolve context id = .error reason := by
  induction ids with
  | nil => exact Or.inl ⟨rfl, rfl⟩
  | cons id rest ih =>
      cases resolved : tree.resolve context id with
      | error reason =>
          have stopped : tree.visit context (id :: rest) = ⟨[], some reason⟩ := by
            rw [visit, resolved]
          refine Or.inr ⟨[], id, rest, reason, rfl, ?_, ?_, ?_, resolved⟩
          · rw [stopped]
            rfl
          · intro other member
            cases member
          · rw [stopped]
      | ok rect =>
          have went : tree.visit context (id :: rest) =
              { tree.visit context rest with
                visited := (id, rect) :: (tree.visit context rest).visited } := by
            rw [visit, resolved]
          rw [went]
          rcases ih with ⟨fine, all⟩ |
            ⟨before, failing, after, reason, split, seen, fine, failed, why⟩
          · exact Or.inl ⟨fine, congrArg (id :: ·) all⟩
          · refine Or.inr ⟨id :: before, failing, after, reason, congrArg (id :: ·) split,
              congrArg (id :: ·) seen, ?_, failed, why⟩
            intro other member
            rcases List.mem_cons.mp member with same | member
            · rw [same]
              exact ⟨rect, resolved⟩
            · exact fine other member

theorem visited_of_error_eq_none (context : Context α)
    (fine : (tree.walk context).error = none) :
    (tree.walk context).visited.map Prod.fst = tree.preorder := by
  rcases visit_cases tree context tree.preorder with ⟨_, all⟩ | ⟨_, _, _, _, _, _, _, failed, _⟩
  · exact all
  · have impossible : (tree.walk context).error = some _ := failed
    rw [fine] at impossible
    cases impossible

theorem resolveAll_of_error_eq_none {context : Context α}
    (fine : (tree.walk context).error = none) :
    tree.resolveAll context = .ok (tree.walk context).visited := by
  unfold resolveAll
  generalize tree.walk context = walk at fine ⊢
  obtain ⟨visited, error⟩ := walk
  cases fine
  rfl

/-- Whatever was added and edited: the links agree, the recursions over parents end, and a walk
without error visits every box once, parents before children, siblings by age, every subtree in
one stretch, and every box at its depth. -/
theorem Grown.arena_and_walk {tree : BoxTree α} (grown : tree.Grown) :
    tree.Arena ∧ tree.Recurs ∧ ∀ context : Context α, (tree.walk context).error = none →
      tree.WalkOrder ((tree.walk context).visited.map Prod.fst) ∧
        tree.levels = ((tree.walk context).visited.map Prod.fst).map
          fun id => (id, tree.depth id) := by
  have arena := grown.arena
  refine ⟨arena, arena.recurs, fun context fine => ?_⟩
  rw [visited_of_error_eq_none context fine]
  exact ⟨arena.walkOrder_preorder, arena.levels_eq⟩

/-- A box with a child, beside another box. -/
def besideTree : BoxTree Rat :=
  (((screen : BoxTree Rat).addChild 0 { name := "outer", width := some (.relative 50) }).addChild 1
    { name := "inner", left := some (.absolute 3) }).addChild 0 { name := "beside" }

/-- A copy of the box, links included, was put below the other box; the child was edited. -/
def copiedTree : BoxTree Rat :=
  (besideTree.addChild 3 ((besideTree.box? 1).getD { name := "none" })).edit 2
    fun box => { box with top := some (.combined 10 .minus 2) }

theorem grown_copiedTree : copiedTree.Grown := by
  have beside : besideTree.Grown :=
    .addChild (.addChild (.addChild .screen (by decide) _) (by decide) _) (by decide) _
  exact .edit (.addChild beside (by decide) _) 2 _

theorem copiedTree_walks_every_box :
    copiedTree.Grown ∧ copiedTree.Arena ∧ copiedTree.Recurs ∧
      (copiedTree.walk (.forScreen 800 600)).error = none ∧
      copiedTree.WalkOrder
        ((copiedTree.walk (.forScreen 800 600)).visited.map Prod.fst) := by
  have fine : (copiedTree.walk (.forScreen 800 600)).error = none := by decide +kernel
  obtain ⟨arena, recurs, order⟩ := Grown.arena_and_walk grown_copiedTree
  exact ⟨grown_copiedTree, arena, recurs, fine, (order _ fine).1⟩

end BoxTree

end BootTheme
