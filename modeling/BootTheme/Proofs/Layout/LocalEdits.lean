import BootTheme.Proofs.Layout.OnePass
import BootTheme.Proofs.Layout.Stacked

/-!
# Changes of a tree stay local

Nothing is stored with a box but its own sides; where it stands is derived from its lineage. So a
new box changes no box that was there, an edit of a box changes none outside its subtree, an edit of
offsets changes no size, and a box that is moved takes its subtree along.
-/

namespace BootTheme

namespace LayoutBox

variable {α : Type}

/-- A change that keeps what the sizes of a box are taken from. -/
structure KeepsExtents (change : LayoutBox α → LayoutBox α) : Prop where
  length : ∀ box axis, (change box).extent? axis = box.extent? axis
  override : ∀ box axis, (change box).extentExpr? axis = box.extentExpr? axis

/-- A change that keeps what the distance of a box along an axis is taken from. -/
structure KeepsOffset (axis : Axis) (change : LayoutBox α → LayoutBox α) : Prop where
  length : ∀ box, (change box).offset? axis = box.offset? axis
  override : ∀ box, (change box).offsetExpr? axis = box.offsetExpr? axis

/-- The box with another distance along an axis. -/
def withOffset (axis : Axis) (length : Option (Length α)) (override : Option (Expr α))
    (box : LayoutBox α) : LayoutBox α :=
  match axis with
  | .horizontal => { box with left := length, leftExpr := override }
  | .vertical => { box with top := length, topExpr := override }

theorem keepsExtents_withOffset (axis : Axis) (length : Option (Length α))
    (override : Option (Expr α)) : KeepsExtents (withOffset axis length override) where
  length box other := by cases axis <;> cases other <;> rfl
  override box other := by cases axis <;> cases other <;> rfl

theorem keepsOffset_withOffset {axis other : Axis} (apart : axis ≠ other)
    (length : Option (Length α)) (override : Option (Expr α)) :
    KeepsOffset other (withOffset axis length override) where
  length box := by
    cases axis <;> cases other
    · exact absurd rfl apart
    · rfl
    · rfl
    · exact absurd rfl apart
  override box := by
    cases axis <;> cases other
    · exact absurd rfl apart
    · rfl
    · rfl
    · exact absurd rfl apart

variable [Scalar α]

/-- Where a box stands in the tree has no part in its sides. -/
theorem extentAgainst_linked (box : LayoutBox α) (parent : Option Nat) (children : List Nat)
    (axis : Axis) (around : Expr α) :
    LayoutBox.extentAgainst { box with parent, children } axis around =
      box.extentAgainst axis around := by
  cases axis <;> rfl

theorem offsetAgainst_linked (box : LayoutBox α) (parent : Option Nat) (children : List Nat)
    (axis : Axis) (around : Expr α) :
    LayoutBox.offsetAgainst { box with parent, children } axis around =
      box.offsetAgainst axis around := by
  cases axis <;> rfl

end LayoutBox

namespace Rect

variable {α : Type} [Add α]

/-- The rectangle further along an axis. -/
def moved (axis : Axis) (distance : α) (rect : Rect α) : Rect α :=
  match axis with
  | .horizontal => { rect with x := rect.x + distance }
  | .vertical => { rect with y := rect.y + distance }

end Rect

namespace BoxTree

variable {α : Type} {tree : BoxTree α} {id inner : Nat} {axis : Axis}
  {change : LayoutBox α → LayoutBox α}

/-- The tree after edits of its boxes, one after the other. -/
def editAll (tree : BoxTree α) (edits : List (Nat × (LayoutBox α → LayoutBox α))) : BoxTree α :=
  edits.foldl (fun tree (id, change) => tree.edit id change) tree

/-- A box other than the edited one stays as it is. -/
theorem box?_edit_of_ne {other : Nat} (apart : id ≠ other) :
    (tree.edit id change).box? other = tree.box? other := by
  rw [box?_edit]
  simp only [if_neg apart]
  exact Option.map_id'

/-- An edit changes no lineage but those through the edited box. -/
theorem Arena.lineage_edit (arena : tree.Arena) (change : LayoutBox α → LayoutBox α) :
    ∀ other, ¬ tree.Within id other → (tree.edit id change).lineage other = tree.lineage other := by
  intro other
  induction other using Nat.strongRecOn with
  | ind other ih =>
      intro outside
      have apart : id ≠ other := by
        rintro rfl
        exact outside .self
      have same : (tree.edit id change).box? other = tree.box? other := box?_edit_of_ne apart
      cases found : tree.box? other with
      | none => rw [lineage, outwards_of_none (same.trans found), lineage, outwards_of_none found]
      | some box =>
          cases link : box.parent with
          | none => rw [lineage_of_orphan (same.trans found) link, lineage_of_orphan found link]
          | some parent =>
              have up := (parent?_of_box? found).trans link
              have around := ih parent (arena.parent_lt other parent up)
                fun within => outside (.step up within)
              rw [(arena.edit id change).lineage_of_child (same.trans found) link,
                arena.lineage_of_child found link, around]

variable [Scalar α]

/-- A box has the same position and size in both trees, as expressions. -/
def Alike (first second : BoxTree α) (id : Nat) : Prop :=
  ∀ axis, second.derivedOffset id axis = first.derivedOffset id axis ∧
    second.derivedExtent id axis = first.derivedExtent id axis

theorem Arena.derivedOffset_addChild (arena : tree.Arena) {parent : Nat} (old : parent < tree.size)
    (box : LayoutBox α) (axis : Axis) : ∀ id < tree.size,
      (tree.addChild parent box).derivedOffset id axis = tree.derivedOffset id axis := by
  have next := arena.addChild old box
  intro id
  induction id using Nat.strongRecOn with
  | ind id ih =>
      intro earlier
      obtain ⟨own, found⟩ := tree.box?_isSome earlier
      obtain ⟨children, kept⟩ := exists_box?_addChild parent box found
      cases link : own.parent with
      | none =>
          rw [derivedOffset_of_orphan axis found link, derivedOffset_of_orphan axis kept link]
      | some around =>
          have older := arena.parent_lt id around ((parent?_of_box? found).trans link)
          have outer := Nat.lt_trans older earlier
          rw [next.derivedOffset_of_child axis kept link,
            arena.derivedOffset_of_child axis found link, ih around older outer,
            arena.derivedExtent_addChild old box outer]
          exact congrArg _ (own.offsetAgainst_linked own.parent children axis _)

/-- A new box changes no box that was there. -/
theorem Arena.alike_addChild (arena : tree.Arena) {parent : Nat} (old : parent < tree.size)
    (box : LayoutBox α) (earlier : id < tree.size) :
    tree.Alike (tree.addChild parent box) id := fun axis =>
  ⟨arena.derivedOffset_addChild old box axis id earlier,
    arena.derivedExtent_addChild old box earlier axis⟩

/-- An edit changes no box outside the subtree of the edited one. -/
theorem Arena.alike_edit (arena : tree.Arena) (change : LayoutBox α → LayoutBox α)
    (outside : ¬ tree.Within id inner) : tree.Alike (tree.edit id change) inner := by
  intro axis
  unfold derivedOffset derivedExtent
  rw [arena.lineage_edit change inner outside]
  exact ⟨rfl, rfl⟩

/-! ## Edits of offsets -/

/-- An edited box keeps its place in the tree, and its size if the edit is one of offsets. -/
theorem exists_box?_edit (id : Nat) (keeps : LayoutBox.KeepsExtents change) {other : Nat}
    {box : LayoutBox α} (found : tree.box? other = some box) :
    ∃ edited, (tree.edit id change).box? other = some edited ∧ edited.parent = box.parent ∧
      (∀ axis, edited.extentExpr? axis = box.extentExpr? axis) ∧
      (∀ axis around, edited.extentAgainst axis around = box.extentAgainst axis around) ∧
      ∀ axis, LayoutBox.KeepsOffset axis change →
        ∀ around, edited.offsetAgainst axis around = box.offsetAgainst axis around := by
  rw [box?_edit, found, Option.map_some]
  by_cases same : id = other
  · rw [if_pos same]
    refine ⟨_, rfl, rfl, ?_, ?_, ?_⟩
    · intro axis
      have override := keeps.override box axis
      cases axis <;> exact override
    · intro axis around
      rw [LayoutBox.extentAgainst_linked, LayoutBox.extentAgainst, keeps.override, keeps.length,
        ← LayoutBox.extentAgainst]
    · intro axis offsets around
      rw [LayoutBox.offsetAgainst_linked, LayoutBox.offsetAgainst, offsets.override,
        offsets.length, ← LayoutBox.offsetAgainst]
  · rw [if_neg same]
    exact ⟨box, rfl, rfl, fun _ => rfl, fun _ _ => rfl, fun _ _ _ => rfl⟩

/-- An edit of offsets changes no size. -/
theorem Arena.derivedExtent_edit (arena : tree.Arena) (keeps : LayoutBox.KeepsExtents change)
    (id : Nat) (axis : Axis) : ∀ other,
      (tree.edit id change).derivedExtent other axis = tree.derivedExtent other axis := by
  intro other
  induction other using Nat.strongRecOn with
  | ind other ih =>
      cases found : tree.box? other with
      | none =>
          have missing : (tree.edit id change).box? other = none := by rw [box?_edit, found]; rfl
          unfold derivedExtent lineage
          rw [outwards_of_none found, outwards_of_none missing]
      | some box =>
          obtain ⟨edited, changed, linked, override, size, -⟩ :=
            exists_box?_edit id keeps found
          cases link : box.parent with
          | none =>
              rw [derivedExtent_of_orphan axis found link,
                derivedExtent_of_orphan axis changed (linked.trans link), override]
          | some parent =>
              have older := arena.parent_lt other parent ((parent?_of_box? found).trans link)
              rw [(arena.edit id change).derivedExtent_of_child axis changed (linked.trans link),
                arena.derivedExtent_of_child axis found link, ih parent older, size]

/-- Edits of offsets change no size. -/
theorem Arena.derivedExtent_editAll {tree : BoxTree α} (arena : tree.Arena)
    (edits : List (Nat × (LayoutBox α → LayoutBox α)))
    (keep : ∀ edit ∈ edits, LayoutBox.KeepsExtents edit.2) (other : Nat) (axis : Axis) :
    (tree.editAll edits).derivedExtent other axis = tree.derivedExtent other axis := by
  induction edits generalizing tree with
  | nil => rfl
  | cons first rest ih =>
      obtain ⟨id, change⟩ := first
      have later := ih (arena.edit id change) fun edit among =>
        keep edit (List.mem_cons_of_mem _ among)
      have now := arena.derivedExtent_edit (keep _ List.mem_cons_self) id axis other
      exact later.trans now

/-- An edit of offsets along one axis moves no box along the other. -/
theorem Arena.derivedOffset_edit (arena : tree.Arena) (keeps : LayoutBox.KeepsExtents change)
    (offsets : LayoutBox.KeepsOffset axis change) (id : Nat) : ∀ other,
      (tree.edit id change).derivedOffset other axis = tree.derivedOffset other axis := by
  intro other
  induction other using Nat.strongRecOn with
  | ind other ih =>
      cases found : tree.box? other with
      | none =>
          have missing : (tree.edit id change).box? other = none := by rw [box?_edit, found]; rfl
          unfold derivedOffset lineage
          rw [outwards_of_none found, outwards_of_none missing]
      | some box =>
          obtain ⟨edited, changed, linked, -, -, offset⟩ :=
            exists_box?_edit id keeps found
          cases link : box.parent with
          | none =>
              rw [derivedOffset_of_orphan axis found link,
                derivedOffset_of_orphan axis changed (linked.trans link)]
          | some parent =>
              have older := arena.parent_lt other parent ((parent?_of_box? found).trans link)
              rw [(arena.edit id change).derivedOffset_of_child axis changed (linked.trans link),
                arena.derivedOffset_of_child axis found link, ih parent older,
                arena.derivedExtent_edit keeps id axis parent, offset axis offsets]

/-! ## Boxes that are moved -/

variable {context : Context α} {place distance : α}

/-- What is added last can be added first. -/
theorem evaluate_add_moved (exact : ∀ first second third : α,
      first + second + third = first + third + second) {origin before : Expr α} (own : Expr α)
    (moved : origin.evaluate context = (before.evaluate context).map (· + distance)) :
    (origin + own).evaluate context = ((before + own).evaluate context).map (· + distance) := by
  rw [evaluate_add, evaluate_add, moved]
  cases before.evaluate context with
  | error reason => rfl
  | ok first =>
      cases own.evaluate context with
      | error reason => rfl
      | ok second => exact congrArg Except.ok (exact first distance second)

/-- A box that is moved takes the boxes inside along. -/
theorem Arena.evaluate_moved (arena : tree.Arena)
    (exact : ∀ first second third : α, first + second + third = first + third + second)
    (keeps : LayoutBox.KeepsExtents change)
    (here : (tree.derivedOffset id axis).evaluate context = .ok place)
    (there : ((tree.edit id change).derivedOffset id axis).evaluate context =
      .ok (place + distance)) (within : tree.Within id inner) :
    ((tree.edit id change).derivedOffset inner axis).evaluate context =
      ((tree.derivedOffset inner axis).evaluate context).map (· + distance) := by
  induction within with
  | self => rw [here, there]; rfl
  | @step inner parent link within ih =>
      -- The box itself is not edited: it is younger than the edited one.
      have apart : id ≠ inner := by
        have above := within.le arena
        have older := arena.parent_lt inner parent link
        omega
      obtain ⟨box, found⟩ := tree.box?_isSome (lt_size_of_parent? link)
      have up : box.parent = some parent := (parent?_of_box? found).symm.trans link
      rw [(arena.edit id change).derivedOffset_of_child axis
          ((box?_edit_of_ne apart).trans found) up,
        arena.derivedOffset_of_child axis found up, arena.derivedExtent_edit keeps id axis parent]
      exact evaluate_add_moved exact _ ih

/-- The rectangle of a box whose offset along an axis is moved and that is otherwise the same. -/
theorem resolve_moved {next : BoxTree α} {id : Nat}
    (along : (next.derivedOffset id axis).evaluate context =
      ((tree.derivedOffset id axis).evaluate context).map (· + distance))
    (across : ∀ other, axis ≠ other → next.derivedOffset id other = tree.derivedOffset id other)
    (sizes : ∀ other, next.derivedExtent id other = tree.derivedExtent id other) :
    next.resolve context id = (tree.resolve context id).map (Rect.moved axis distance) := by
  unfold resolve
  rw [sizes, sizes]
  -- Each side fails in both trees with the same error or has a value in both.
  cases axis with
  | horizontal =>
      rw [along, across .vertical (by decide)]
      cases (tree.derivedOffset id .horizontal).evaluate context <;>
        cases (tree.derivedOffset id .vertical).evaluate context <;>
        cases (tree.derivedExtent id .horizontal).evaluate context <;>
        cases (tree.derivedExtent id .vertical).evaluate context <;> rfl
  | vertical =>
      rw [along, across .horizontal (by decide)]
      cases (tree.derivedOffset id .horizontal).evaluate context <;>
        cases (tree.derivedOffset id .vertical).evaluate context <;>
        cases (tree.derivedExtent id .horizontal).evaluate context <;>
        cases (tree.derivedExtent id .vertical).evaluate context <;> rfl

/-- In every grown tree a new box leaves the position and size of all boxes as they are, an edit
of a box those of all boxes outside its subtree, and edits of offsets all sizes. Where sums do not
depend on the order of their parts, a box that is moved along an axis takes all boxes inside along
by the same distance, and changes nothing else of them. -/
theorem Grown.changes_stay_local {tree : BoxTree α} (grown : tree.Grown) :
    (∀ parent < tree.size, ∀ box, ∀ id < tree.size, tree.Alike (tree.addChild parent box) id) ∧
    (∀ id change inner, ¬ tree.Within id inner → tree.Alike (tree.edit id change) inner) ∧
    (∀ edits : List (Nat × (LayoutBox α → LayoutBox α)),
      (∀ edit ∈ edits, LayoutBox.KeepsExtents edit.2) → ∀ id axis,
        (tree.editAll edits).derivedExtent id axis = tree.derivedExtent id axis) ∧
    ((∀ first second third : α, first + second + third = first + third + second) →
      ∀ id axis length override (context : Context α) place distance,
        let next := tree.edit id (LayoutBox.withOffset axis length override)
        (tree.derivedOffset id axis).evaluate context = .ok place →
        (next.derivedOffset id axis).evaluate context = .ok (place + distance) →
          ∀ inner, tree.Within id inner →
            (next.derivedOffset inner axis).evaluate context =
                ((tree.derivedOffset inner axis).evaluate context).map (· + distance) ∧
              next.resolve context inner =
                (tree.resolve context inner).map (Rect.moved axis distance)) := by
  have arena := grown.arena
  refine ⟨fun parent old box id earlier => arena.alike_addChild old box earlier,
    fun id change inner outside => arena.alike_edit change outside,
    fun edits keep id axis => arena.derivedExtent_editAll edits keep id axis, ?_⟩
  intro exact id axis length override context place distance next here there inner within
  have keeps := LayoutBox.keepsExtents_withOffset axis length override
  have along := arena.evaluate_moved exact keeps here there within
  refine ⟨along, resolve_moved along ?_ ?_⟩
  · intro other apart
    exact arena.derivedOffset_edit keeps (LayoutBox.keepsOffset_withOffset apart length override)
      id inner
  · exact fun other => arena.derivedExtent_edit keeps id other inner

/-- A box of the tree with a copy is moved by a tenth of the screen: the box inside it goes along,
and the box beside it stays. -/
theorem copiedTree_moves_along :
    let next := copiedTree.edit 1 (LayoutBox.withOffset .horizontal (some (.relative 10)) none)
    copiedTree.Grown ∧ copiedTree.Within 1 2 ∧ ¬ copiedTree.Within 1 3 ∧
      copiedTree.resolve (.forScreen 800 600) 2 = .ok ⟨3, -2, 0, 0⟩ ∧
      next.resolve (.forScreen 800 600) 2 = .ok ⟨83, -2, 0, 0⟩ ∧ copiedTree.Alike next 3 ∧
      copiedTree.Alike (copiedTree.addChild 2 { name := "last" }) 2 ∧
      next.derivedExtent 2 .vertical = copiedTree.derivedExtent 2 .vertical := by
  intro next
  have grown := grown_copiedTree
  obtain ⟨added, edited, sizes, moved⟩ := grown.changes_stay_local
  have inside : copiedTree.Within 1 2 := .step (by decide +kernel) .self
  have beside : ¬ copiedTree.Within 1 3 := by
    rw [← grown.arena.mem_subtree (by decide +kernel)]
    decide +kernel
  have before : copiedTree.resolve (.forScreen 800 600) 2 = .ok ⟨3, -2, 0, 0⟩ := by
    decide +kernel
  have exact : ∀ first second third : Rat, first + second + third = first + third + second := by
    intro first second third
    rw [Rat.add_assoc, Rat.add_comm second, ← Rat.add_assoc]
  have along := moved exact 1 .horizontal (some (.relative 10)) none (.forScreen 800 600) 0 80
    (by decide +kernel) (by decide +kernel) 2 inside
  have keeps := LayoutBox.keepsExtents_withOffset .horizontal (some (.relative (10 : Rat))) none
  have size := sizes [(1, _)] (fun edit among => List.mem_singleton.1 among ▸ keeps) 2 .vertical
  refine ⟨grown, inside, beside, before, ?_, edited 1 _ 3 beside,
    added 2 (by decide +kernel) _ 2 (by decide +kernel), size⟩
  rw [along.2, before]
  decide +kernel

end BoxTree

end BootTheme
