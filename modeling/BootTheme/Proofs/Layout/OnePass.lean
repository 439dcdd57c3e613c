import BootTheme.Proofs.Layout.Walk

/-!
# Layout in one pass over numbers

Positions and sizes are expressions over all boxes around a box. Resolving them is
the same as one pass from the screen inwards that knows of the boxes around only the
rectangle of the parent, and computes with numbers alone.
-/

namespace BootTheme

/-- The first expression of a list that has no value, and why. -/
inductive FirstFailure {α : Type} [Scalar α] (context : Context α) :
    List (Expr α) → EvalError α → Prop where
  | here {expr : Expr α} {rest : List (Expr α)} {reason : EvalError α}
      (failed : expr.evaluate context = .error reason) : FirstFailure context (expr :: rest) reason
  | later {expr : Expr α} {rest : List (Expr α)} {reason : EvalError α} {value : α}
      (fine : expr.evaluate context = .ok value) (failure : FirstFailure context rest reason) :
      FirstFailure context (expr :: rest) reason

namespace LayoutBox

variable {α : Type} [Scalar α]

/-- The value of an override, or else the pixels of a length against the parent's side. A missing
length is no pixels. -/
def side (context : Context α) (override : Option (Expr α)) (length : Option (Length α))
    (around : α) : Except (EvalError α) α :=
  match override with
  | some expr => expr.evaluate context
  | none => .ok ((length.getD (.absolute (Scalar.ofNat 0))).resolve around)

/-- The rectangle of the screen. -/
def placeScreen (box : LayoutBox α) (context : Context α) : Except (EvalError α) (Rect α) := do
  let width ← (box.widthExpr.getD (.unknown screenWidth)).evaluate context
  let height ← (box.heightExpr.getD (.unknown screenHeight)).evaluate context
  return ⟨Scalar.ofNat 0, Scalar.ofNat 0, width, height⟩

/-- The rectangle of a box inside its parent's rectangle. -/
def placeInside (box : LayoutBox α) (context : Context α) (around : Rect α) :
    Except (EvalError α) (Rect α) := do
  let left ← side context box.leftExpr box.left around.width
  let top ← side context box.topExpr box.top around.height
  let width ← side context box.widthExpr box.width around.width
  let height ← side context box.heightExpr box.height around.height
  return ⟨around.x + left, around.y + top, width, height⟩

/-- The rectangle of a box; only the screen has no rectangle around it. -/
def place (box : LayoutBox α) (context : Context α) :
    Option (Rect α) → Except (EvalError α) (Rect α)
  | none => box.placeScreen context
  | some around => box.placeInside context around

/-- The expressions that give a box its rectangle: for the screen its size, for any other box its
overrides from left to height. -/
def demands (box : LayoutBox α) : Option (Rect α) → List (Expr α)
  | none => [box.widthExpr.getD (.unknown screenWidth), box.heightExpr.getD (.unknown screenHeight)]
  | some _ =>
      box.leftExpr.toList ++
        (box.topExpr.toList ++ (box.widthExpr.toList ++ (box.heightExpr.toList ++ [])))

/-- A side fails with its override; behind it, the rest of the sides decides. -/
theorem firstFailure_of_side {β : Type} {context : Context α} {override : Option (Expr α)}
    {length : Option (Length α)} {around : α} {rest : List (Expr α)} {reason : EvalError α}
    {next : α → Except (EvalError α) β}
    (failed : (side context override length around >>= next) = .error reason)
    (behind : ∀ value, next value = .error reason → FirstFailure context rest reason) :
    FirstFailure context (override.toList ++ rest) reason := by
  cases override with
  | none => exact behind _ failed
  | some expr =>
      cases evaluated : expr.evaluate context with
      | error other =>
          have same : side context (some expr) length around = .error other := evaluated
          rw [same] at failed
          cases failed
          exact .here evaluated
      | ok value =>
          have same : side context (some expr) length around = .ok value := evaluated
          rw [same] at failed
          exact .later evaluated (behind value failed)

/-- A box without a rectangle fails with the first of its expressions that has no value. -/
theorem firstFailure_of_place {box : LayoutBox α} {context : Context α}
    {around : Option (Rect α)} {reason : EvalError α}
    (failed : box.place context around = .error reason) :
    FirstFailure context (box.demands around) reason := by
  cases around with
  | none =>
      unfold place placeScreen at failed
      unfold demands
      cases width : (box.widthExpr.getD (.unknown screenWidth)).evaluate context with
      | error other =>
          rw [width] at failed
          cases failed
          exact .here width
      | ok value =>
          rw [width] at failed
          cases height : (box.heightExpr.getD (.unknown screenHeight)).evaluate context with
          | error other =>
              rw [height] at failed
              cases failed
              exact .later width (.here height)
          | ok value =>
              rw [height] at failed
              cases failed
  | some rect =>
      refine firstFailure_of_side failed fun left failed => ?_
      refine firstFailure_of_side failed fun top failed => ?_
      refine firstFailure_of_side failed fun width failed => ?_
      refine firstFailure_of_side failed fun height failed => ?_
      cases failed

end LayoutBox

namespace BoxTree

variable {α : Type}

namespace Walk

/-- A walk and, unless it ended with an error, another one behind it. -/
def followedBy (first next : Walk α) : Walk α :=
  match first.error with
  | some _ => first
  | none => ⟨first.visited ++ next.visited, next.error⟩

/-- Walks one behind the other, up to the first error. -/
def inTurn (walk : Nat → Walk α) : List Nat → Walk α
  | [] => ⟨[], none⟩
  | id :: rest => (walk id).followedBy (inTurn walk rest)

theorem inTurn_congr {first second : Nat → Walk α} {ids : List Nat}
    (same : ∀ id, id ∈ ids → first id = second id) : inTurn first ids = inTurn second ids := by
  induction ids with
  | nil => rfl
  | cons id rest ih =>
      rw [inTurn, inTurn, same id List.mem_cons_self,
        ih fun other member => same other (List.mem_cons_of_mem id member)]

end Walk

variable [Scalar α] {tree : BoxTree α} {context : Context α}

/-- The pass from a box inwards, given the rectangle around the box. -/
def passFrom (tree : BoxTree α) (context : Context α) : Nat → Option (Rect α) → Nat → Walk α
  | 0, _, _ => ⟨[], none⟩
  | fuel + 1, around, id =>
      match tree.box? id with
      | none => ⟨[], none⟩
      | some box =>
          match box.place context around with
          | .error reason => ⟨[], some reason⟩
          | .ok rect =>
              Walk.followedBy ⟨[(id, rect)], none⟩
                (Walk.inTurn (tree.passFrom context fuel (some rect)) box.children)

/-- The pass over a tree, deep enough for all its boxes. -/
def onePass (tree : BoxTree α) (context : Context α) : Walk α :=
  tree.passFrom context tree.size none 0

/-! ## A resolved parent gives every inherited expression its value -/

theorem evaluate_add (left right : Expr α) (context : Context α) :
    (left + right).evaluate context = do
      let first ← left.evaluate context
      let second ← right.evaluate context
      return first + second := by
  change (Expr.binary .add left right).evaluate context = _
  rw [Expr.evaluate]
  cases left.evaluate context with
  | error reason => rfl
  | ok first =>
      cases right.evaluate context with
      | error reason => rfl
      | ok second => rfl

/-- A length against an expression has the pixels of the length against its value. -/
theorem evaluate_toExpr (hundred : Scalar.isZero (Scalar.ofNat 100 : α) = false)
    (length : Length α) {reference : Expr α} {value : α}
    (known : reference.evaluate context = .ok value) :
    (length.toExpr reference).evaluate context = .ok (length.resolve value) := by
  have scaled (percent : α) :
      (reference * (.constant percent / .constant (Scalar.ofNat 100))).evaluate context =
        .ok (value * (percent / Scalar.ofNat 100)) := by
    change (Expr.binary .mul reference
      (.binary .div (.constant percent) (.constant (Scalar.ofNat 100)))).evaluate context = _
    simp [Expr.evaluate, Expr.apply, known, hundred]
  cases length with
  | absolute pixels => rfl
  | relative percent => exact scaled percent
  | combined percent sign offset =>
      cases sign with
      | plus =>
          refine (evaluate_add _ _ context).trans ?_
          rw [scaled]
          rfl
      | minus =>
          change (Expr.binary .sub _ _).evaluate context = _
          rw [Expr.evaluate, scaled]
          rfl

/-- What stands for a side of a box has the value of that side against a number. -/
theorem evaluate_side (hundred : Scalar.isZero (Scalar.ofNat 100 : α) = false)
    (override : Option (Expr α)) (length : Option (Length α)) {reference : Expr α} {value : α}
    (known : reference.evaluate context = .ok value) :
    (LayoutBox.sideExpr override length reference).evaluate context =
      LayoutBox.side context override length value := by
  cases override with
  | some expr => rfl
  | none => exact evaluate_toExpr hundred (length.getD .zero) known

/-- The sides of a resolved box are the values of its expressions. -/
theorem evaluate_of_resolve {id : Nat} {rect : Rect α}
    (resolved : tree.resolve context id = .ok rect) :
    (tree.derivedOffset id .horizontal).evaluate context = .ok rect.x ∧
      (tree.derivedOffset id .vertical).evaluate context = .ok rect.y ∧
      (tree.derivedExtent id .horizontal).evaluate context = .ok rect.width ∧
      (tree.derivedExtent id .vertical).evaluate context = .ok rect.height := by
  unfold resolve at resolved
  cases x : (tree.derivedOffset id .horizontal).evaluate context with
  | error reason => rw [x] at resolved; cases resolved
  | ok x' =>
      cases y : (tree.derivedOffset id .vertical).evaluate context with
      | error reason => rw [x, y] at resolved; cases resolved
      | ok y' =>
          cases width : (tree.derivedExtent id .horizontal).evaluate context with
          | error reason => rw [x, y, width] at resolved; cases resolved
          | ok width' =>
              cases height : (tree.derivedExtent id .vertical).evaluate context with
              | error reason => rw [x, y, width, height] at resolved; cases resolved
              | ok height' =>
                  rw [x, y, width, height] at resolved
                  cases resolved
                  exact ⟨rfl, rfl, rfl, rfl⟩

/-- The rectangle around a box: none around the screen, else that of the parent. -/
def Around (tree : BoxTree α) (context : Context α) (id : Nat) (around : Option (Rect α)) : Prop :=
  match tree.parent? id with
  | none => around = none
  | some parent => ∃ rect, around = some rect ∧ tree.resolve context parent = .ok rect

theorem around_child {id child : Nat} {rect : Rect α} (link : tree.parent? child = some id)
    (resolved : tree.resolve context id = .ok rect) : tree.Around context child (some rect) := by
  unfold Around
  rw [link]
  exact ⟨rect, rfl, resolved⟩

theorem resolve_of_orphan {id : Nat} {box : LayoutBox α} (found : tree.box? id = some box)
    (orphan : box.parent = none) : tree.resolve context id = box.placeScreen context := by
  unfold resolve
  rw [derivedOffset_of_orphan _ found orphan, derivedOffset_of_orphan _ found orphan,
    derivedExtent_of_orphan _ found orphan, derivedExtent_of_orphan _ found orphan]
  rfl

theorem Arena.resolve_of_child (arena : tree.Arena)
    (hundred : Scalar.isZero (Scalar.ofNat 100 : α) = false) {id parent : Nat}
    {box : LayoutBox α} {rect : Rect α} (found : tree.box? id = some box)
    (link : box.parent = some parent) (resolved : tree.resolve context parent = .ok rect) :
    tree.resolve context id = box.placeInside context rect := by
  obtain ⟨x, y, width, height⟩ := evaluate_of_resolve resolved
  unfold resolve LayoutBox.placeInside
  rw [arena.derivedOffset_of_child _ found link, arena.derivedOffset_of_child _ found link,
    arena.derivedExtent_of_child _ found link, arena.derivedExtent_of_child _ found link,
    evaluate_add, evaluate_add, x, y]
  unfold LayoutBox.offsetAgainst LayoutBox.extentAgainst
  rw [evaluate_side hundred _ _ width, evaluate_side hundred _ _ height,
    evaluate_side hundred _ _ width, evaluate_side hundred _ _ height]
  -- Both sides evaluate the same four sides in the same order; only the sums stand elsewhere.
  change (do
      let x ← LayoutBox.side context box.leftExpr box.left rect.width >>= fun left =>
        pure (rect.x + left)
      let y ← LayoutBox.side context box.topExpr box.top rect.height >>= fun top =>
        pure (rect.y + top)
      let width ← LayoutBox.side context box.widthExpr box.width rect.width
      let height ← LayoutBox.side context box.heightExpr box.height rect.height
      return (⟨x, y, width, height⟩ : Rect α)) = _
  simp only [bind_assoc, pure_bind]

/-- A box resolves to its place inside the rectangle around it. -/
theorem Arena.resolve_eq_place (arena : tree.Arena)
    (hundred : Scalar.isZero (Scalar.ofNat 100 : α) = false) {id : Nat} {box : LayoutBox α}
    {around : Option (Rect α)} (found : tree.box? id = some box)
    (known : tree.Around context id around) :
    tree.resolve context id = box.place context around := by
  unfold Around at known
  rw [parent?_of_box? found] at known
  cases link : box.parent with
  | none =>
      rw [link] at known
      rw [known]
      exact resolve_of_orphan found link
  | some parent =>
      rw [link] at known
      obtain ⟨rect, same, resolved⟩ := known
      rw [same]
      exact arena.resolve_of_child hundred found link resolved

/-! ## The pass is the walk -/

theorem visit_append (first second : List Nat) :
    tree.visit context (first ++ second) =
      (tree.visit context first).followedBy (tree.visit context second) := by
  induction first with
  | nil => rfl
  | cons id rest ih =>
      rw [List.cons_append, visit, visit]
      cases tree.resolve context id with
      | error reason => rfl
      | ok rect =>
          dsimp only
          rw [ih]
          obtain ⟨visited, error⟩ := tree.visit context rest
          cases error with
          | none => rfl
          | some reason => rfl

theorem visit_flatMap (order : Nat → List Nat) (ids : List Nat) :
    tree.visit context (ids.flatMap order) =
      Walk.inTurn (fun id => tree.visit context (order id)) ids := by
  induction ids with
  | nil => rfl
  | cons id rest ih => rw [List.flatMap_cons, visit_append, ih, Walk.inTurn]

/-- From any box inwards, the pass with the rectangle around the box visits what resolving the
boxes in order visits. -/
theorem Arena.passFrom_eq_visit (arena : tree.Arena)
    (hundred : Scalar.isZero (Scalar.ofNat 100 : α) = false) (fuel : Nat) :
    ∀ id around, id < tree.size → tree.Around context id around →
      tree.passFrom context fuel around id = tree.visit context (tree.preorderFrom fuel id) := by
  induction fuel with
  | zero => exact fun _ _ _ _ => rfl
  | succ fuel ih =>
      intro id around old known
      obtain ⟨box, found⟩ := tree.box?_isSome old
      have placed := arena.resolve_eq_place hundred found known
      have children : box.children = tree.offspring id := by
        rw [← childrenOf_of_box? found, arena.childrenOf_eq]
      rw [passFrom, found, preorderFrom, visit, placed, arena.childrenOf_eq, visit_flatMap]
      dsimp only
      rw [children]
      cases result : box.place context around with
      | error reason => rfl
      | ok rect =>
          have inner : Walk.inTurn (tree.passFrom context fuel (some rect)) (tree.offspring id) =
              Walk.inTurn (fun child => tree.visit context (tree.preorderFrom fuel child))
                (tree.offspring id) :=
            Walk.inTurn_congr fun child member =>
              have link := mem_offspring.mp member
              ih child (some rect) (lt_size_of_parent? link)
                (around_child link (placed.trans result))
          dsimp only
          rw [inner]
          rfl

/-- A walk ended at a box: the boxes before it were visited, and the first expression of this box
without a value gives the reason. -/
def EndsAt (tree : BoxTree α) (context : Context α) (reason : EvalError α) : Prop :=
  ∃ before id after box around, tree.preorder = before ++ id :: after ∧
    (tree.walk context).visited.map Prod.fst = before ∧ tree.box? id = some box ∧
    tree.Around context id around ∧ box.place context around = .error reason ∧
    FirstFailure context (box.demands around) reason

/-- In an order without repetition, what comes before an element lies in front of it. -/
theorem mem_before_of_sublist {before after : List Nat} {id earlier : Nat}
    (distinct : (before ++ id :: after).Nodup)
    (order : [earlier, id].Sublist (before ++ id :: after)) : earlier ∈ before := by
  obtain ⟨_, behind, apart⟩ := List.nodup_append.mp distinct
  obtain ⟨front, back, split, inFront, inBack⟩ := List.sublist_append_iff.mp order
  cases front with
  | nil =>
      have whole : [earlier, id] = back := split
      rw [← whole] at inBack
      have late : [id].Sublist after := inBack.of_cons_cons
      exact absurd (List.singleton_sublist.mp late) (List.nodup_cons.mp behind).1
  | cons head rest =>
      have same : earlier = head := (List.cons.inj split).1
      rw [same]
      exact inFront.subset List.mem_cons_self

theorem Arena.endsAt_of_error (arena : tree.Arena)
    (hundred : Scalar.isZero (Scalar.ofNat 100 : α) = false) {reason : EvalError α}
    (failed : (tree.walk context).error = some reason) : tree.EndsAt context reason := by
  rcases visit_cases tree context tree.preorder with
    ⟨fine, _⟩ | ⟨before, id, after, other, split, seen, resolved, why, unresolved⟩
  · rw [walk, fine] at failed
    cases failed
  · rw [walk, why] at failed
    cases failed
    have listed : id ∈ tree.preorder := by
      rw [split]
      exact List.mem_append_right before List.mem_cons_self
    have old : id < tree.size := List.mem_range.mp (arena.preorder_perm.subset listed)
    obtain ⟨box, found⟩ := tree.box?_isSome old
    have known : ∃ around, tree.Around context id around := by
      unfold Around
      cases link : tree.parent? id with
      | none => exact ⟨none, rfl⟩
      | some parent =>
          have order := arena.parent_before_child link
          have distinct := arena.subtree_nodup arena.nonempty
          change tree.preorder.Nodup at distinct
          rw [split] at order distinct
          obtain ⟨rect, done⟩ := resolved parent (mem_before_of_sublist distinct order)
          exact ⟨some rect, rect, rfl, done⟩
    obtain ⟨around, known⟩ := known
    have place := (arena.resolve_eq_place hundred found known).symm.trans unresolved
    exact ⟨before, id, after, box, around, split, seen, found, known, place,
      LayoutBox.firstFailure_of_place place⟩

/-- Resolving every box over its whole lineage is one pass over numbers from the screen inwards,
however deep the pass may go, and both end at the same box for the same reason. -/
theorem Grown.walk_eq_onePass {tree : BoxTree Float} (grown : tree.Grown)
    (context : Context Float) :
    tree.walk context = tree.onePass context ∧
      (∀ fuel, tree.size ≤ fuel → tree.passFrom context fuel none 0 = tree.onePass context) ∧
      ∀ reason, (tree.walk context).error = some reason → tree.EndsAt context reason := by
  have arena := grown.arena
  have hundred : Scalar.isZero (Scalar.ofNat 100 : Float) = false := by decide
  have outermost : tree.Around context 0 none := by
    unfold Around
    rw [(arena.orphan_iff 0 arena.nonempty).mpr rfl]
  have deep (fuel : Nat) (enough : tree.size ≤ fuel) :
      tree.passFrom context fuel none 0 = tree.walk context := by
    rw [arena.passFrom_eq_visit hundred fuel 0 none arena.nonempty outermost,
      arena.preorderFrom_eq_subtree arena.nonempty enough]
    rfl
  have whole : tree.walk context = tree.onePass context := (deep tree.size (Nat.le_refl _)).symm
  refine ⟨whole, fun fuel enough => (deep fuel enough).trans whole, fun reason failed => ?_⟩
  exact arena.endsAt_of_error hundred failed

/-- A box of half the screen with a child whose top divides by zero, before another box. -/
def dividedTree : BoxTree Float :=
  (((screen : BoxTree Float).addChild 0
    { name := "half", width := some (.relative 50) }).addChild 1
      { name := "divided", left := some (.combined 50 .plus 3)
        topExpr := some (.constant 1 / .constant 0)
        widthExpr := some (.unknown "scale") }).addChild 0
          { name := "after" }

theorem dividedTree_ends_at_division :
    dividedTree.Grown ∧
      dividedTree.walk (.forScreen 800 600) = dividedTree.onePass (.forScreen 800 600) ∧
      (dividedTree.walk (.forScreen 800 600)).error =
        some (.divisionByZero (.constant 1 / .constant 0)) ∧
      dividedTree.EndsAt (.forScreen 800 600) (.divisionByZero (.constant 1 / .constant 0)) := by
  have grown : dividedTree.Grown :=
    .addChild (.addChild (.addChild .screen (by decide) _) (by decide) _) (by decide) _
  have failed : (dividedTree.walk (.forScreen 800 600)).error =
      some (.divisionByZero (.constant 1 / .constant 0)) := by decide +kernel
  obtain ⟨whole, _, ends⟩ := Grown.walk_eq_onePass grown (.forScreen 800 600)
  exact ⟨grown, whole, failed, ends _ failed⟩

end BoxTree

end BootTheme
