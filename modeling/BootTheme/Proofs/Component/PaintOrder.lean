import BootTheme.Proofs.Component.Boxes
import BootTheme.Proofs.Component.Building
import BootTheme.Proofs.Layout.Stacked
import BootTheme.Proofs.Outcomes

/-!
# Boxes are numbered in the order in which they are painted

Every step of the building puts its boxes below the last box or below a box around the
last one, in the order of the listing of the theme. So the boxes of a tree are those of the
listing, by number, and a walk visits them by number.
-/

namespace BootTheme

namespace BoxTree

/-- The boxes of a tree are those of a listing, by number, each at its level. -/
structure Lists (tree : BoxTree Float) (listing : List BoxAt) : Prop where
  size : tree.size = listing.length
  listed : ∀ id entry, listing[id]? = some entry → tree.depth id = entry.level ∧
    ∃ parent children, tree.box? id = some { entry.box with parent, children }

/-- A place for the next box: a box at a level, of a width, that is the last one or lies around
it, in a tree that has been built up in order. -/
structure Place (tree : BoxTree Float) (id level : Nat) (width : Expr Float) : Prop where
  arena : tree.Arena
  stacked : tree.Stacked
  aroundLast : tree.Within id (tree.size - 1)
  depth : tree.depth id = level
  width : tree.derivedExtent id .horizontal = width

/-- Boxes were added below a box: a listing goes on with them, and a place at the box or around
it stays one. -/
structure Adds (tree : BoxTree Float) (parent : Nat) (added : List BoxAt)
    (next : BoxTree Float) : Prop where
  lists : ∀ {listing}, tree.Lists listing → next.Lists (listing ++ added)
  within : ∀ {outer inner}, tree.Within outer inner → next.Within outer inner
  place : ∀ {id level width}, tree.Place id level width → tree.Within id parent →
    next.Place id level width

variable {tree middle next : BoxTree Float} {parent level : Nat} {width : Expr Float}
  {added more : List BoxAt}

theorem Place.old (place : tree.Place parent level width) : parent < tree.size := by
  have above := place.aroundLast.le place.arena
  have some := place.arena.nonempty
  omega

namespace Adds

theorem none (tree : BoxTree Float) (parent : Nat) : tree.Adds parent [] tree where
  lists lists := by simpa using lists
  within within := within
  place place _ := place

theorem trans (first : tree.Adds parent added middle) (second : middle.Adds parent more next) :
    tree.Adds parent (added ++ more) next where
  lists lists := by simpa using second.lists (first.lists lists)
  within within := second.within (first.within within)
  place place inside := second.place (first.place place inside) (first.within inside)

end Adds

/-- The next box goes behind the listing. -/
theorem Lists.addChild {listing : List BoxAt} (lists : tree.Lists listing)
    (place : tree.Place parent level width) (box : LayoutBox Float) :
    (tree.addChild parent box).Lists (listing ++ [⟨level + 1, box⟩]) where
  size := by rw [size_addChild, lists.size, List.length_append, List.length_singleton]
  listed id entry found := by
    rcases Nat.lt_or_ge id listing.length with earlier | late
    · rw [List.getElem?_append_left earlier] at found
      obtain ⟨depth, outer, children, known⟩ := lists.listed id entry found
      obtain ⟨children, kept⟩ := exists_box?_addChild parent box known
      rw [place.arena.depth_addChild place.old box (lt_size_of_box? known)]
      exact ⟨depth, outer, children, kept⟩
    · rw [List.getElem?_append_right late, List.getElem?_singleton] at found
      split at found
      · next last =>
          obtain rfl : id = tree.size := by
            have size := lists.size
            omega
          cases found
          have new := box?_addChild_last tree parent box place.old
          refine ⟨?_, parent, [], new⟩
          rw [(place.arena.addChild place.old box).depth_of_child new rfl,
            place.arena.depth_addChild place.old box place.old, place.depth]
      · cases found

namespace Place

/-- The new box is the next place. -/
theorem below (place : tree.Place parent level width) (box : LayoutBox Float) :
    (tree.addChild parent box).Place tree.size (level + 1)
      (box.extentAgainst .horizontal width) where
  arena := place.arena.addChild place.old box
  stacked := place.stacked.addChild place.old place.aroundLast box
  aroundLast := by
    rw [size_addChild, Nat.add_sub_cancel]
    exact .self
  depth := by
    have new := box?_addChild_last tree parent box place.old
    rw [(place.arena.addChild place.old box).depth_of_child new rfl,
      place.arena.depth_addChild place.old box place.old, place.depth]
  width := by
    have new := box?_addChild_last tree parent box place.old
    rw [(place.arena.addChild place.old box).derivedExtent_of_child .horizontal new rfl,
      place.arena.derivedExtent_addChild place.old box place.old, place.width]
    rfl

/-- A box is added to the listing and keeps the places around it. -/
theorem adds (place : tree.Place parent level width) (box : LayoutBox Float) :
    tree.Adds parent [⟨level + 1, box⟩] (tree.addChild parent box) where
  lists lists := lists.addChild place box
  within within := within.addChild parent box
  place {id outer size} other inside := by
    have last := (place.below box)
    refine ⟨last.arena, last.stacked, ?_, ?_, ?_⟩
    · have link := parent?_addChild_last tree box place.old
      rw [size_addChild, Nat.add_sub_cancel]
      exact .step link (inside.addChild parent box)
    · rw [place.arena.depth_addChild place.old box other.old, other.depth]
    · rw [place.arena.derivedExtent_addChild place.old box other.old, other.width]

/-- A box with more boxes inside. -/
theorem nest (place : tree.Place parent level width) {box : LayoutBox Float}
    (inner : (tree.addChild parent box).Adds tree.size added next) :
    tree.Adds parent (⟨level + 1, box⟩ :: added) next := by
  have inside : (tree.addChild parent box).Within parent tree.size :=
    .child (parent?_addChild_last tree box place.old)
  have outer : (tree.addChild parent box).Adds parent added next :=
    { inner with place := fun other around => inner.place other (around.trans inside) }
  exact (place.adds box).trans outer

end Place

end BoxTree

open BoxTree

variable {tree next : BoxTree Float} {parent level : Nat} {around : Expr Float}

/-! ## Menus -/

namespace Menu

theorem adds_addEntry (menu : Menu) (sizes : ItemSizes) (settings : Settings) (width : Expr Float)
    (entry : MenuEntry) (index : Nat) (place : tree.Place parent level around) :
    tree.Adds parent (menu.entryBoxes sizes settings (level + 1) width entry index)
      (menu.addEntry sizes settings parent width (itemTop sizes index) index entry tree).value := by
  have item := place.below
    (menu.itemBox sizes width (itemTop sizes index) index (index == settings.selected))
  refine place.nest ?_
  cases icon : entry.icon with
  | none =>
      simp only [addEntry, icon]
      exact item.adds _
  | some name =>
      simp only [addEntry, icon]
      have first := item.adds (iconBox sizes name)
      exact first.trans ((first.place item .self).adds _)

theorem adds_addEntries (menu : Menu) (sizes : ItemSizes) (settings : Settings)
    (width : Expr Float) (entries : List MenuEntry) (index : Nat)
    (place : tree.Place parent level around) :
    tree.Adds parent
      ((entries.zipIdx index).flatMap fun (entry, index) =>
        menu.entryBoxes sizes settings (level + 1) width entry index)
      (menu.addEntries sizes settings parent width index (itemTop sizes index) entries
        tree).value := by
  induction entries generalizing tree index with
  | nil => exact .none tree parent
  | cons entry rest ih =>
      have first := menu.adds_addEntry sizes settings width entry index place
      rw [List.zipIdx_cons, List.flatMap_cons]
      exact first.trans (ih (index + 1) (first.place place .self))

theorem adds_addScrollbar (properties : Properties) (place : tree.Place parent level around)
    (built : properties.menu.value.addScrollbar parent tree = .ok next) :
    tree.Adds parent (scrollbarBoxes properties (level + 1) around) next := by
  rw [addScrollbar] at built
  rcases scrollbar_cases properties with ⟨has, on, frame, framed⟩ | ⟨hasNot, off | unframed⟩
  · rw [if_pos on, framed] at built
    obtain ⟨pixels, absolute, done⟩ := exists_of_bind_eq_ok built
    cases done
    have found : properties.menu.value.scrollbarWidth = .absolute pixels := by
      cases length : properties.menu.value.scrollbarWidth with
      | absolute value =>
          rw [length] at absolute
          cases absolute
          rfl
      | relative percent => rw [length] at absolute; cases absolute
      | combined percent sign offset => rw [length] at absolute; cases absolute
    rw [scrollbarBoxes, if_pos has, framed, found, place.width]
    exact place.nest ((place.below _).adds _)
  · rw [off] at built
    cases built
    rw [scrollbarBoxes, hasNot]
    exact .none tree parent
  · rw [unframed, ite_self] at built
    cases built
    rw [scrollbarBoxes, hasNot]
    exact .none tree parent

end Menu

theorem adds_addMenu (settings : Settings) (properties : Properties)
    (place : tree.Place parent level around)
    (built : (addMenu settings parent properties tree).value = .ok next) :
    tree.Adds parent (Menu.boxes settings (level + 1) around properties) next := by
  rw [addMenu, Noted.bind_value] at built
  rw [Menu.boxes]
  cases fits : properties.menu.value.sizes with
  | error fault =>
      rw [fits] at built
      cases built
  | ok sizes =>
      rw [fits] at built
      have own := place.below (Menu.ownBox properties)
      refine place.nest ?_
      have entries := properties.menu.value.adds_addEntries sizes settings
        (Menu.itemWidth sizes ((Menu.ownBox properties).extentAgainst .horizontal around))
        settings.entries 0 own
      refine entries.trans (Menu.adds_addScrollbar properties (entries.place own .self) ?_)
      rw [← own.width]
      exact built

/-! ## Components -/

mutual

/-- A component adds its boxes. -/
theorem adds_addComponent (settings : Settings) : ∀ (component : Component)
    {tree next : BoxTree Float} {parent level : Nat} {around : Expr Float},
    tree.Place parent level around →
      (addComponent settings parent tree component).value = .ok next →
        tree.Adds parent (component.boxes settings (level + 1) around) next
  | .mk kind properties children span, tree, next, parent, level, around, place, built => by
      unfold addComponent at built
      rw [Noted.bind_value, visible_value] at built
      cases visible : isSet properties "visible" with
      | false =>
          rw [visible] at built
          cases built
          unfold Component.boxes
          rw [visible]
          exact .none tree parent
      | true =>
          rw [visible, if_pos rfl] at built
          -- The kinds of the listing are told apart after those of the builder.
          split at built
          all_goals
            unfold Component.boxes
            rw [visible, if_pos rfl]
          · exact adds_addMenu settings _ place built
          · cases built
            exact place.adds _
          · cases built
            exact place.adds _
          · exact place.nest (adds_addComponents settings children (place.below _) built)
          · next notMenu notLabel notImage notCanvas =>
              cases built
              split
              · exact absurd rfl notMenu
              · exact absurd rfl notLabel
              · exact absurd rfl notImage
              · exact absurd rfl notCanvas
              · exact .none tree parent

/-- Components add their boxes one after the other. -/
theorem adds_addComponents (settings : Settings) : ∀ (components : List Component)
    {tree next : BoxTree Float} {parent level : Nat} {around : Expr Float},
    tree.Place parent level around →
      (addComponents settings parent tree components).value = .ok next →
        tree.Adds parent (Component.boxesOf settings (level + 1) around components) next
  | [], tree, next, parent, level, around, place, built => by
      rw [addComponents] at built
      cases built
      exact .none tree parent
  | component :: rest, tree, next, parent, level, around, place, built => by
      rw [addComponents, next_value] at built
      obtain ⟨middle, first, others⟩ := exists_of_bind_eq_ok built
      have added := adds_addComponent settings component place first
      exact added.trans (adds_addComponents settings rest (added.place place .self) others)

end

/-! ## Themes -/

theorem size_paintScreen (theme : Theme) (settings : Settings) :
    (paintScreen theme settings .screen).value.size = 1 := by
  unfold paintScreen
  rw [Noted.bind_value]
  split
  · rfl
  · exact size_edit .screen 0 _

theorem stacked_paintScreen (theme : Theme) (settings : Settings) :
    (paintScreen theme settings .screen).value.Stacked := by
  unfold paintScreen
  rw [Noted.bind_value]
  split
  · exact stacked_screen
  · exact stacked_screen.edit 0 _

theorem box?_paintScreen (theme : Theme) (settings : Settings) :
    (paintScreen theme settings .screen).value.box? 0 = some (theme.screenBox settings) := by
  unfold paintScreen Theme.screenBox
  rw [Noted.bind_value, Properties.string?, typed_value, Theme.own]
  dsimp only
  cases first? theme.properties "desktop-color" with
  | none => rfl
  | some value =>
      cases value with
      | string spec => exact box?_edit .screen 0 0 _
      | length size => rfl
      | bool value => rfl

/-- The screen alone is a place for the boxes of a theme. -/
theorem place_paintScreen (theme : Theme) (settings : Settings) :
    (paintScreen theme settings .screen).value.Place 0 0 (.unknown screenWidth) where
  arena := (sound_paintScreen theme settings).grown.arena
  stacked := stacked_paintScreen theme settings
  aroundLast := by
    rw [size_paintScreen]
    exact .self
  depth := depth_of_orphan (box?_paintScreen theme settings) rfl
  width := derivedExtent_of_orphan .horizontal (box?_paintScreen theme settings) rfl

theorem lists_paintScreen (theme : Theme) (settings : Settings) :
    (paintScreen theme settings .screen).value.Lists [⟨0, theme.screenBox settings⟩] where
  size := size_paintScreen theme settings
  listed id entry found := by
    rw [List.getElem?_singleton] at found
    split at found
    · next first =>
        cases found
        rw [first]
        exact ⟨(place_paintScreen theme settings).depth, none, [], box?_paintScreen theme settings⟩
    · cases found

theorem adds_addBackground (theme : Theme) (place : tree.Place 0 0 around) :
    tree.Adds 0 theme.backgroundBoxes (addBackground theme tree).value := by
  unfold addBackground Theme.backgroundBoxes
  rw [Noted.bind_value, Properties.string?, typed_value, Theme.own]
  dsimp only
  cases first? theme.properties "desktop-image" with
  | none => exact .none tree 0
  | some value =>
      cases value with
      | string file => exact place.adds (backgroundBox file)
      | length size => exact .none tree 0
      | bool value => exact .none tree 0

/-- The boxes of a theme go behind the screen, in a tree that stays in order. -/
theorem lists_buildTree (theme : Theme) (settings : Settings)
    (built : (buildTree theme settings).value = .ok tree) :
    tree.Lists (theme.boxes settings) ∧ tree.Stacked ∧ tree.Arena := by
  have screen := place_paintScreen theme settings
  have background := adds_addBackground theme screen
  have components := adds_addComponents settings theme.components
    (background.place screen .self) built
  have all := background.trans components
  have last := all.place screen .self
  exact ⟨all.lists (lists_paintScreen theme settings), last.stacked, last.arena⟩

/-- On every screen the walk over the boxes of a theme visits all of them, by number. -/
theorem walk_buildTree (theme : Theme) (settings : Settings)
    (built : (buildTree theme settings).value = .ok tree) (width height : Nat) :
    (tree.walk (.forScreen width height)).error = none ∧
      (tree.walk (.forScreen width height)).visited.map Prod.fst = List.range tree.size := by
  have sound := (settles_buildTree theme settings).holds built
  have fine := sound.bound.walk_error hundred_nonzero width height
  obtain ⟨-, stacked, arena⟩ := lists_buildTree theme settings built
  exact ⟨fine, (visited_of_error_eq_none _ fine).trans (stacked.preorder_eq_range arena)⟩

/-- The boxes of a theme that can be built are those of its listing, by number: the screen, the
image behind all components, and for every component that is shown its own box before those
inside it, each as deep as listed. On every screen the walk visits them in this order. -/
theorem boxes_in_paint_order (theme : Theme) (settings : Settings) {tree : BoxTree Float}
    (built : (buildTree theme settings).value = .ok tree) :
    tree.Lists (theme.boxes settings) ∧
      ∀ width height, ∃ rects, tree.resolveAll (.forScreen width height) = .ok rects ∧
        rects.map Prod.fst = List.range tree.size := by
  refine ⟨(lists_buildTree theme settings built).1, fun width height => ?_⟩
  obtain ⟨fine, order⟩ := walk_buildTree theme settings built width height
  exact ⟨_, resolveAll_of_error_eq_none fine, order⟩

/-- A menu inside a canvas, between an image behind everything and a label, and a label that is
not shown. -/
def menuInCanvas : Theme :=
  ⟨[⟨"desktop-image", .string "sky.png", ⟨0, 0⟩⟩], [
    .mk "canvas" [] [
      .mk "label" [⟨"visible", .bool false, ⟨0, 0⟩⟩] [] ⟨0, 0⟩,
      .mk "boot_menu" [⟨"scrollbar_frame", .string "bar_*.png", ⟨0, 0⟩⟩] [] ⟨0, 0⟩] ⟨0, 0⟩,
    .mk "label" [⟨"id", .string "hint", ⟨0, 0⟩⟩] [] ⟨0, 0⟩]⟩

/-- Two entries, of which the first has an icon. -/
def twoEntries : Settings := { entries := [⟨"one", some "disk"⟩, ⟨"two", none⟩] }

theorem menuInCanvas_boxes :
    (menuInCanvas.boxes twoEntries).map (fun entry => (entry.level, entry.box.name)) =
      [(0, "screen"), (1, "desktop-image"), (1, "canvas"), (2, "boot_menu"), (3, "item[0]"),
        (4, "icon:disk"), (4, "item[0].text"), (3, "item[1]"), (4, "item[1].text"),
        (3, "scrollbar"), (4, "scrollbar.thumb"), (1, "label#hint")] := by
  decide +kernel

theorem menuInCanvas_built : ∃ tree, (buildTree menuInCanvas twoEntries).value = .ok tree :=
  (settles_buildTree _ _).ok_iff.2 (List.head?_eq_none_iff.1 (by decide +kernel))

theorem menuInCanvas_in_paint_order :
    ∃ tree, (buildTree menuInCanvas twoEntries).value = .ok tree ∧ tree.size = 12 ∧
      tree.depth 9 = 3 ∧ ∃ rects, tree.resolveAll (.forScreen 640 480) = .ok rects ∧
        rects.map Prod.fst = [0, 1, 2, 3, 4, 5, 6, 7, 8, 9, 10, 11] := by
  obtain ⟨tree, built⟩ := menuInCanvas_built
  obtain ⟨lists, walked⟩ := boxes_in_paint_order menuInCanvas twoEntries built
  have twelve : tree.size = 12 := by
    have names := congrArg List.length menuInCanvas_boxes
    rw [List.length_map] at names
    exact lists.size.trans names
  obtain ⟨rects, resolved, order⟩ := walked 640 480
  rw [twelve] at order
  refine ⟨tree, built, twelve, ?_, rects, resolved, order⟩
  exact (lists.listed 9 _ rfl).1

end BootTheme
