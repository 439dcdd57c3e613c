import BootTheme.Layout.Box

/-!
# Trees of boxes as they grow

A tree is grown from the screen alone by adding boxes and by editing what boxes
show. Every link is kept twice, at the parent and at the child. In a grown tree the
two sides agree, the screen is the only box without a parent, and a parent is always
older than its children; each operation keeps this.
-/

namespace BootTheme

namespace BoxTree

variable {α : Type}

/-- The trees that adding and editing make from the screen. The added box may be any value, also
a copy of a box of the tree that still has a parent and children. -/
inductive Grown : BoxTree α → Prop where
  | screen : Grown .screen
  | addChild {tree : BoxTree α} {parent : Nat} (grown : Grown tree) (old : parent < tree.size)
      (box : LayoutBox α) : Grown (tree.addChild parent box)
  | edit {tree : BoxTree α} (grown : Grown tree) (id : Nat)
      (change : LayoutBox α → LayoutBox α) : Grown (tree.edit id change)

/-- The number of the box around a box. -/
def parent? (tree : BoxTree α) (id : Nat) : Option Nat := (tree.box? id).bind LayoutBox.parent

/-- The numbers of the boxes whose parent is the given one, oldest first. -/
def offspring (tree : BoxTree α) (id : Nat) : List Nat :=
  (List.range tree.size).filter fun child => decide (tree.parent? child = some id)

/-- The links of a tree agree with each other, and every parent is older than its children. -/
structure Arena (tree : BoxTree α) : Prop where
  nonempty : 0 < tree.size
  orphan_iff : ∀ id, id < tree.size → (tree.parent? id = none ↔ id = 0)
  parent_lt : ∀ id parent, tree.parent? id = some parent → parent < id
  childrenOf_eq : ∀ id, tree.childrenOf id = tree.offspring id

theorem box?_isSome (tree : BoxTree α) {id : Nat} (old : id < tree.size) :
    ∃ box, tree.box? id = some box :=
  ⟨_, Array.getElem?_eq_getElem old⟩

theorem lt_size_of_box? {tree : BoxTree α} {id : Nat} {box : LayoutBox α}
    (found : tree.box? id = some box) : id < tree.size :=
  (Array.getElem?_eq_some_iff.mp found).1

theorem box?_eq_none {tree : BoxTree α} {id : Nat} (new : tree.size ≤ id) :
    tree.box? id = none :=
  Array.getElem?_eq_none new

theorem lt_size_of_parent? {tree : BoxTree α} {id parent : Nat}
    (link : tree.parent? id = some parent) : id < tree.size := by
  unfold parent? at link
  cases found : tree.box? id with
  | none => rw [found] at link; cases link
  | some box => exact lt_size_of_box? found

theorem parent?_of_box? {tree : BoxTree α} {id : Nat} {box : LayoutBox α}
    (found : tree.box? id = some box) : tree.parent? id = box.parent := by
  unfold parent?
  rw [found]
  rfl

theorem childrenOf_of_box? {tree : BoxTree α} {id : Nat} {box : LayoutBox α}
    (found : tree.box? id = some box) : tree.childrenOf id = box.children := by
  unfold childrenOf
  rw [found]

theorem mem_offspring {tree : BoxTree α} {id child : Nat} :
    child ∈ tree.offspring id ↔ tree.parent? child = some id := by
  unfold offspring
  rw [List.mem_filter, List.mem_range, decide_eq_true_iff]
  exact ⟨fun found => found.2, fun link => ⟨lt_size_of_parent? link, link⟩⟩

/-! ## What each operation does to the links -/

theorem parent?_addChild (tree : BoxTree α) (parent : Nat) (box : LayoutBox α) {id : Nat}
    (old : id < tree.size) : (tree.addChild parent box).parent? id = tree.parent? id := by
  unfold parent?
  rw [box?_addChild tree parent id box old]
  cases tree.box? id with
  | none => rfl
  | some other =>
      by_cases around : parent = id
      · simp [around, LayoutBox.addChild]
      · simp [around]

theorem parent?_addChild_last (tree : BoxTree α) {parent : Nat} (box : LayoutBox α)
    (old : parent < tree.size) : (tree.addChild parent box).parent? tree.size = some parent := by
  rw [parent?_of_box? (box?_addChild_last tree parent box old)]
  rfl

theorem childrenOf_addChild (tree : BoxTree α) (parent : Nat) (box : LayoutBox α) {id : Nat}
    (old : id < tree.size) :
    (tree.addChild parent box).childrenOf id =
      if parent = id then tree.childrenOf id ++ [tree.size] else tree.childrenOf id := by
  obtain ⟨other, found⟩ := tree.box?_isSome old
  have kept := box?_addChild tree parent id box old
  rw [found, Option.map_some] at kept
  rw [childrenOf_of_box? kept, childrenOf_of_box? found]
  by_cases around : parent = id
  · rw [if_pos around, if_pos around]
    rfl
  · rw [if_neg around, if_neg around]

theorem childrenOf_addChild_last (tree : BoxTree α) {parent : Nat} (box : LayoutBox α)
    (old : parent < tree.size) : (tree.addChild parent box).childrenOf tree.size = [] := by
  rw [childrenOf_of_box? (box?_addChild_last tree parent box old)]
  rfl

theorem box?_edit (tree : BoxTree α) (id other : Nat) (change : LayoutBox α → LayoutBox α) :
    (tree.edit id change).box? other =
      (tree.box? other).map fun box =>
        if id = other then { change box with parent := box.parent, children := box.children }
        else box := by
  unfold box? edit
  rw [Array.getElem?_modify]
  split
  · rfl
  · exact Option.map_id'.symm

theorem parent?_edit (tree : BoxTree α) (id other : Nat) (change : LayoutBox α → LayoutBox α) :
    (tree.edit id change).parent? other = tree.parent? other := by
  unfold parent?
  rw [box?_edit]
  cases tree.box? other with
  | none => rfl
  | some box => by_cases same : id = other <;> simp [same]

theorem childrenOf_edit (tree : BoxTree α) (id other : Nat)
    (change : LayoutBox α → LayoutBox α) :
    (tree.edit id change).childrenOf other = tree.childrenOf other := by
  unfold childrenOf
  rw [box?_edit]
  cases tree.box? other with
  | none => rfl
  | some box => by_cases same : id = other <;> simp [same]

/-! ## Every operation keeps the links in agreement -/

theorem arena_screen : (screen : BoxTree α).Arena where
  nonempty := Nat.zero_lt_one
  orphan_iff id old := by
    have first : id = 0 := Nat.lt_one_iff.mp old
    rw [first]
    exact ⟨fun _ => rfl, fun _ => rfl⟩
  parent_lt id parent link := by
    have first : id = 0 := Nat.lt_one_iff.mp (lt_size_of_parent? link)
    rw [first] at link
    cases link
  childrenOf_eq id := by
    cases id with
    | zero => rfl
    | succ id => rfl

/-- The added box joins the offspring of its parent, as the youngest. -/
theorem offspring_addChild (tree : BoxTree α) {parent : Nat} (box : LayoutBox α)
    (old : parent < tree.size) (id : Nat) :
    (tree.addChild parent box).offspring id =
      tree.offspring id ++ if parent = id then [tree.size] else [] := by
  have before : (List.range tree.size).filter
      (fun child => decide ((tree.addChild parent box).parent? child = some id)) =
        tree.offspring id :=
    List.filter_congr fun child member => by
      rw [parent?_addChild tree parent box (List.mem_range.mp member)]
  have last : [tree.size].filter
      (fun child => decide ((tree.addChild parent box).parent? child = some id)) =
        if parent = id then [tree.size] else [] := by
    have link := parent?_addChild_last tree box old
    by_cases around : parent = id
    · rw [if_pos around, List.filter_cons_of_pos (by rw [link, around]; exact decide_eq_true rfl)]
      rfl
    · rw [if_neg around, List.filter_cons_of_neg (by rw [link]; simpa using around)]
      rfl
  unfold offspring
  rw [size_addChild, List.range_succ, List.filter_append, before, last]
  rfl

/-- A number that no box has yet is no parent. -/
theorem Arena.offspring_eq_nil {tree : BoxTree α} (arena : tree.Arena) {id : Nat}
    (new : tree.size ≤ id) : tree.offspring id = [] := by
  refine List.eq_nil_iff_forall_not_mem.mpr fun child member => ?_
  have link := mem_offspring.mp member
  have older := arena.parent_lt child id link
  have young := lt_size_of_parent? link
  omega

/-- A box added below an existing one is the youngest child of its parent, has no children, and
changes no other link. -/
theorem Arena.addChild {tree : BoxTree α} (arena : tree.Arena) {parent : Nat}
    (old : parent < tree.size) (box : LayoutBox α) : (tree.addChild parent box).Arena where
  nonempty := by
    rw [size_addChild]
    exact Nat.succ_pos _
  orphan_iff id below := by
    rw [size_addChild] at below
    rcases Nat.lt_or_eq_of_le (Nat.le_of_lt_succ below) with earlier | last
    · rw [parent?_addChild tree parent box earlier]
      exact arena.orphan_iff id earlier
    · rw [last, parent?_addChild_last tree box old]
      have positive := arena.nonempty
      constructor
      · intro absent
        cases absent
      · intro zero
        omega
  parent_lt id around link := by
    have below := lt_size_of_parent? link
    rw [size_addChild] at below
    rcases Nat.lt_or_eq_of_le (Nat.le_of_lt_succ below) with earlier | last
    · rw [parent?_addChild tree parent box earlier] at link
      exact arena.parent_lt id around link
    · rw [last, parent?_addChild_last tree box old] at link
      cases link
      rw [last]
      exact old
  childrenOf_eq id := by
    rw [offspring_addChild tree box old]
    rcases Nat.lt_trichotomy id tree.size with earlier | last | later
    · rw [childrenOf_addChild tree parent box earlier, arena.childrenOf_eq id]
      split
      · rfl
      · exact (List.append_nil _).symm
    · have apart : parent ≠ id := by omega
      rw [last, childrenOf_addChild_last tree box old, ← last, arena.offspring_eq_nil (by omega),
        if_neg apart]
      rfl
    · have apart : parent ≠ id := by omega
      have missing : (tree.addChild parent box).childrenOf id = [] := by
        unfold childrenOf
        rw [box?_eq_none (by rw [size_addChild]; omega)]
      rw [missing, arena.offspring_eq_nil (by omega), if_neg apart]
      rfl

/-- An edit of what a box shows changes no link. -/
theorem Arena.edit {tree : BoxTree α} (arena : tree.Arena) (id : Nat)
    (change : LayoutBox α → LayoutBox α) : (tree.edit id change).Arena where
  nonempty := by
    rw [size_edit]
    exact arena.nonempty
  orphan_iff other old := by
    rw [size_edit] at old
    rw [parent?_edit]
    exact arena.orphan_iff other old
  parent_lt other parent link := by
    rw [parent?_edit] at link
    exact arena.parent_lt other parent link
  childrenOf_eq other := by
    unfold offspring
    rw [childrenOf_edit, size_edit, arena.childrenOf_eq other]
    simp only [parent?_edit]
    rfl

/-- The links of every grown tree agree. -/
theorem Grown.arena {tree : BoxTree α} (grown : tree.Grown) : tree.Arena := by
  induction grown with
  | screen => exact arena_screen
  | addChild grown old box ih => exact ih.addChild old box
  | edit grown id change ih => exact ih.edit id change

end BoxTree

end BootTheme
