import BootTheme.Proofs.Layout.Lineage
import Mathlib.Data.List.Flatten
import Mathlib.Data.List.Nodup

/-!
# The order of the boxes

The order of a grown tree lists every box once: a box, then the subtrees of its
children, oldest first. Every subtree is one stretch of the whole order.
-/

namespace BootTheme

namespace BoxTree

variable {α : Type} {tree : BoxTree α}

/-- The second box is the first one or lies somewhere below it. -/
inductive Within (tree : BoxTree α) (id : Nat) : Nat → Prop where
  | self : Within tree id id
  | step {inner parent : Nat} (link : tree.parent? inner = some parent)
      (within : Within tree id parent) : Within tree id inner

namespace Within

theorem trans {outer middle inner : Nat} (first : tree.Within outer middle)
    (second : tree.Within middle inner) : tree.Within outer inner := by
  induction second with
  | self => exact first
  | step link _ ih => exact .step link ih

theorem child {id child : Nat} (link : tree.parent? child = some id) : tree.Within id child :=
  .step link .self

/-- Of two boxes around one box, one lies within the other. -/
theorem comparable {first second inner : Nat} (left : tree.Within first inner)
    (right : tree.Within second inner) :
    tree.Within first second ∨ tree.Within second first := by
  induction left with
  | self => exact Or.inr right
  | step link within ih =>
      cases right with
      | self => exact Or.inl (.step link within)
      | step other right =>
          rw [link] at other
          cases other
          exact ih right

theorem le (arena : tree.Arena) {id inner : Nat} (within : tree.Within id inner) : id ≤ inner := by
  induction within with
  | self => exact Nat.le_refl _
  | step link _ ih => exact Nat.le_trans ih (Nat.le_of_lt (arena.parent_lt _ _ link))

end Within

/-- What holds of a box once it holds of its children holds of every box. -/
theorem Arena.inward {motive : Nat → Prop} (arena : tree.Arena)
    (step : ∀ id, id < tree.size → (∀ child, child ∈ tree.offspring id → motive child) → motive id)
    (id : Nat) (old : id < tree.size) : motive id := by
  induction gap : tree.size - id using Nat.strongRecOn generalizing id with
  | ind gap ih =>
      refine step id old fun child member => ?_
      have link := mem_offspring.mp member
      have older := arena.parent_lt child id link
      have young := lt_size_of_parent? link
      exact ih (tree.size - child) (by omega) child young rfl

/-- Children of one box do not lie within each other. -/
theorem Arena.siblings_apart (arena : tree.Arena) {id first second : Nat}
    (left : first ∈ tree.offspring id) (right : second ∈ tree.offspring id)
    (within : tree.Within first second) : first = second := by
  cases within with
  | self => rfl
  | step link within =>
      rw [mem_offspring.mp right] at link
      cases link
      have above := within.le arena
      have older := arena.parent_lt first id (mem_offspring.mp left)
      omega

theorem offspring_nodup (tree : BoxTree α) (id : Nat) : (tree.offspring id).Nodup :=
  List.nodup_range.filter _

/-- Children are listed by age. -/
theorem offspring_sublist {older younger parent : Nat} (age : older < younger)
    (first : tree.parent? older = some parent) (second : tree.parent? younger = some parent) :
    [older, younger].Sublist (tree.offspring parent) := by
  have ordered : (tree.offspring parent).Pairwise (· < ·) := List.pairwise_lt_range.filter _
  obtain ⟨before, after, split⟩ := List.append_of_mem (mem_offspring.mpr first)
  have listed := mem_offspring.mpr second
  rw [split] at ordered listed ⊢
  have behind : younger ∈ after := by
    rcases List.mem_append.mp listed with early | late
    · have less := (List.pairwise_append.mp ordered).2.2 younger early older List.mem_cons_self
      omega
    · rcases List.mem_cons.mp late with same | behind
      · omega
      · exact behind
  exact (List.Sublist.cons_cons older (List.singleton_sublist.mpr behind)).trans
    (List.sublist_append_right before _)

/-- The numbers of a box and all below it, in order. -/
def subtree (tree : BoxTree α) (id : Nat) : List Nat := tree.preorderFrom tree.size id

/-- As many levels as there are boxes from one on suffice; more change nothing. -/
theorem Arena.preorderFrom_congr (arena : tree.Arena) {id : Nat} (old : id < tree.size) :
    ∀ fuel more, tree.size - id ≤ fuel → tree.size - id ≤ more →
      tree.preorderFrom fuel id = tree.preorderFrom more id := by
  refine arena.inward (motive := fun id => ∀ fuel more, tree.size - id ≤ fuel →
    tree.size - id ≤ more → tree.preorderFrom fuel id = tree.preorderFrom more id)
    (fun id old ih => ?_) id old
  intro fuel more enough plenty
  obtain ⟨fuel, rfl⟩ : ∃ rest, fuel = rest + 1 := ⟨fuel - 1, by omega⟩
  obtain ⟨more, rfl⟩ : ∃ rest, more = rest + 1 := ⟨more - 1, by omega⟩
  rw [preorderFrom, preorderFrom, arena.childrenOf_eq]
  refine congrArg (id :: ·) (List.flatMap_congr fun child member => ?_)
  have older := arena.parent_lt child id (mem_offspring.mp member)
  exact ih child member fuel more (by omega) (by omega)

theorem Arena.preorderFrom_eq_subtree (arena : tree.Arena) {id fuel : Nat} (old : id < tree.size)
    (enough : tree.size - id ≤ fuel) : tree.preorderFrom fuel id = tree.subtree id :=
  arena.preorderFrom_congr old fuel tree.size enough (Nat.sub_le _ _)

/-- A subtree is its box and then the subtrees of the children. -/
theorem Arena.subtree_eq (arena : tree.Arena) {id : Nat} (old : id < tree.size) :
    tree.subtree id = id :: (tree.offspring id).flatMap tree.subtree := by
  obtain ⟨fuel, more⟩ : ∃ fuel, tree.size = fuel + 1 := ⟨tree.size - 1, by omega⟩
  have unfolded : tree.subtree id =
      id :: (tree.offspring id).flatMap (tree.preorderFrom fuel) := by
    unfold subtree
    rw [more, preorderFrom, arena.childrenOf_eq]
  rw [unfolded]
  refine congrArg (id :: ·) (List.flatMap_congr fun child member => ?_)
  have link := mem_offspring.mp member
  have older := arena.parent_lt child id link
  exact arena.preorderFrom_eq_subtree (lt_size_of_parent? link) (by omega)

/-- The subtree of a child is a stretch of the subtree of its parent. -/
theorem Arena.subtree_infix_parent (arena : tree.Arena) {id parent : Nat}
    (link : tree.parent? id = some parent) : tree.subtree id <:+: tree.subtree parent := by
  obtain ⟨outer, present⟩ := arena.exists_parent link
  obtain ⟨before, after, split⟩ := List.append_of_mem (mem_offspring.mpr link)
  refine ⟨parent :: before.flatMap tree.subtree, after.flatMap tree.subtree, ?_⟩
  rw [arena.subtree_eq (lt_size_of_box? present), split]
  simp

/-- The subtree of a box is a stretch of every subtree that it lies in. -/
theorem Arena.subtree_infix (arena : tree.Arena) {id inner : Nat}
    (within : tree.Within id inner) : tree.subtree inner <:+: tree.subtree id := by
  induction within with
  | self => exact List.infix_rfl
  | step link _ ih => exact (arena.subtree_infix_parent link).trans ih

theorem Arena.mem_subtree_self (arena : tree.Arena) {id : Nat} (old : id < tree.size) :
    id ∈ tree.subtree id := by
  rw [arena.subtree_eq old]
  exact List.mem_cons_self

/-- A subtree holds exactly the boxes that lie within its box. -/
theorem Arena.mem_subtree (arena : tree.Arena) {id : Nat} (old : id < tree.size) {other : Nat} :
    other ∈ tree.subtree id ↔ tree.Within id other := by
  constructor
  · refine arena.inward (motive := fun id => other ∈ tree.subtree id → tree.Within id other)
      (fun id old ih member => ?_) id old
    rw [arena.subtree_eq old] at member
    rcases List.mem_cons.mp member with same | deeper
    · rw [same]
      exact .self
    · obtain ⟨child, listed, member⟩ := List.mem_flatMap.mp deeper
      exact (Within.child (mem_offspring.mp listed)).trans (ih child listed member)
  · intro within
    have present : other < tree.size := by
      cases within with
      | self => exact old
      | step link _ => exact lt_size_of_parent? link
    exact (arena.subtree_infix within).subset (arena.mem_subtree_self present)

/-- No box stands twice in a subtree. -/
theorem Arena.subtree_nodup (arena : tree.Arena) {id : Nat} (old : id < tree.size) :
    (tree.subtree id).Nodup := by
  refine arena.inward (motive := fun id => (tree.subtree id).Nodup) (fun id old ih => ?_) id old
  have within {child other : Nat} (listed : child ∈ tree.offspring id)
      (member : other ∈ tree.subtree child) : tree.Within child other :=
    (arena.mem_subtree (lt_size_of_parent? (mem_offspring.mp listed))).mp member
  rw [arena.subtree_eq old]
  refine List.nodup_cons.mpr ⟨fun member => ?_, List.nodup_flatMap.mpr ⟨ih, ?_⟩⟩
  · obtain ⟨child, listed, member⟩ := List.mem_flatMap.mp member
    have above := (within listed member).le arena
    have older := arena.parent_lt child id (mem_offspring.mp listed)
    omega
  · refine (tree.offspring_nodup id).imp_of_mem fun {first second} left right apart => ?_
    intro other here there
    rcases (within left here).comparable (within right there) with inside | inside
    · exact apart (arena.siblings_apart left right inside)
    · exact apart (arena.siblings_apart right left inside).symm

/-- Every box lies within the screen. -/
theorem Arena.within_screen (arena : tree.Arena) (id : Nat) (old : id < tree.size) :
    tree.Within 0 id := by
  induction id using Nat.strongRecOn with
  | ind id ih =>
      cases link : tree.parent? id with
      | none =>
          rw [(arena.orphan_iff id old).mp link]
          exact .self
      | some parent =>
          have older := arena.parent_lt id parent link
          exact .step link (ih parent older (Nat.lt_trans older old))

/-- The order lists every box once. -/
theorem Arena.preorder_perm (arena : tree.Arena) : tree.preorder.Perm (List.range tree.size) := by
  refine (List.perm_ext_iff_of_nodup (arena.subtree_nodup arena.nonempty) List.nodup_range).mpr
    fun id => ?_
  rw [arena.mem_subtree arena.nonempty, List.mem_range]
  constructor
  · intro within
    cases within with
    | self => exact arena.nonempty
    | step link _ => exact lt_size_of_parent? link
  · exact arena.within_screen id

/-- Every subtree is one stretch of the order. -/
theorem Arena.subtree_infix_preorder (arena : tree.Arena) {id : Nat} (old : id < tree.size) :
    tree.subtree id <:+: tree.preorder :=
  arena.subtree_infix (arena.within_screen id old)

/-- A parent comes before its child. -/
theorem Arena.parent_before_child (arena : tree.Arena) {id parent : Nat}
    (link : tree.parent? id = some parent) : [parent, id].Sublist tree.preorder := by
  obtain ⟨outer, present⟩ := arena.exists_parent link
  have old := lt_size_of_box? present
  refine List.Sublist.trans ?_ (arena.subtree_infix_preorder old).sublist
  rw [arena.subtree_eq old]
  refine List.Sublist.cons_cons parent (List.singleton_sublist.mpr ?_)
  exact List.mem_flatMap.mpr
    ⟨id, mem_offspring.mpr link, arena.mem_subtree_self (lt_size_of_parent? link)⟩

/-- Of two children of one box the older comes first. -/
theorem Arena.older_before_younger (arena : tree.Arena) {older younger parent : Nat}
    (age : older < younger) (first : tree.parent? older = some parent)
    (second : tree.parent? younger = some parent) :
    [older, younger].Sublist tree.preorder := by
  obtain ⟨outer, present⟩ := arena.exists_parent first
  have old := lt_size_of_box? present
  have oldFirst := lt_size_of_parent? first
  have oldSecond := lt_size_of_parent? second
  refine List.Sublist.trans ?_ (arena.subtree_infix_preorder old).sublist
  rw [arena.subtree_eq old]
  refine List.Sublist.cons parent
    (List.Sublist.trans ?_ ((offspring_sublist age first second).flatMap tree.subtree))
  rw [List.flatMap_cons, List.flatMap_singleton, arena.subtree_eq oldFirst,
    arena.subtree_eq oldSecond]
  exact List.Sublist.cons_cons older
    ((List.Sublist.cons_cons younger (List.nil_sublist _)).trans (List.sublist_append_right _ _))

/-- The order with the level at which the recursion reaches each box. -/
def levelsFrom (tree : BoxTree α) : Nat → Nat → Nat → List (Nat × Nat)
  | 0, _, _ => []
  | fuel + 1, level, id =>
      (id, level) :: (tree.childrenOf id).flatMap (tree.levelsFrom fuel (level + 1))

/-- The depth of a child is one more than that of its parent. -/
theorem Arena.depth_eq_succ (arena : tree.Arena) {id parent : Nat}
    (link : tree.parent? id = some parent) : tree.depth id = tree.depth parent + 1 := by
  obtain ⟨box, found⟩ := tree.box?_isSome (lt_size_of_parent? link)
  exact arena.depth_of_child found ((parent?_of_box? found).symm.trans link)

/-- The recursion reaches a box at its depth. -/
theorem Arena.levelsFrom_eq (arena : tree.Arena) (fuel : Nat) :
    ∀ id, tree.levelsFrom fuel (tree.depth id) id =
      (tree.preorderFrom fuel id).map fun id => (id, tree.depth id) := by
  induction fuel with
  | zero => exact fun _ => rfl
  | succ fuel ih =>
      intro id
      rw [levelsFrom, preorderFrom, List.map_cons, List.map_flatMap]
      refine congrArg _ (List.flatMap_congr fun child member => ?_)
      rw [arena.childrenOf_eq] at member
      rw [← arena.depth_eq_succ (mem_offspring.mp member), ih child]

end BoxTree

end BootTheme
