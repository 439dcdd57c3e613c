import BootTheme.Proofs.Component.FontSizes
import BootTheme.Proofs.Layout.LocalEdits

/-!
# Where the entries of a menu stand

A menu is laid out in one run over its entries, below any box of any tree. Each entry puts an item
below the menu, one row under the item before, and an icon and a text inside it. Whatever comes
after leaves these boxes as they are, so their rectangles follow from the rectangle of the menu.
-/

namespace BootTheme

/-- A box stands in its parent's rectangle where its sides have their values. -/
theorem LayoutBox.placeInside_of_sides {box : LayoutBox Float} {context : Context Float}
    {around : Rect Float} {left top width height : Float}
    (x : side context box.leftExpr box.left around.width = .ok left)
    (y : side context box.topExpr box.top around.height = .ok top)
    (wide : side context box.widthExpr box.width around.width = .ok width)
    (high : side context box.heightExpr box.height around.height = .ok height) :
    box.placeInside context around = .ok ⟨around.x + left, around.y + top, width, height⟩ := by
  rw [placeInside, x, y, wide, high]
  rfl

namespace BoxTree

/-- What a box shows. -/
def shown? (tree : BoxTree Float) (id : Nat) : Option (Paint Float) :=
  (tree.box? id).bind LayoutBox.paint

theorem shown?_of_box? {tree : BoxTree Float} {id : Nat} {box : LayoutBox Float}
    (found : tree.box? id = some box) : tree.shown? id = box.paint := by
  rw [shown?, found, Option.bind_some]

/-- A tree after boxes were added to it: those directly below one box are known, and the others
stand inside them. What was there has not changed otherwise. -/
structure Gains (tree : BoxTree Float) (parent : Nat) (children : List Nat)
    (next : BoxTree Float) : Prop where
  grown : next.Grown
  kept : ∀ {id box}, tree.box? id = some box →
    next.box? id =
      some { box with children := box.children ++ if id = parent then children else [] }
  alike : ∀ {id}, id < tree.size → tree.Alike next id

namespace Gains

variable {tree middle next : BoxTree Float} {parent id : Nat} {first second children : List Nat}
  {box : LayoutBox Float}

theorem none (grown : tree.Grown) (parent : Nat) : tree.Gains parent [] tree where
  grown := grown
  kept found := by rw [ite_self, List.append_nil, found]
  alike _ _ := ⟨rfl, rfl⟩

theorem old (gains : tree.Gains parent children next) (earlier : id < tree.size) :
    id < next.size := by
  obtain ⟨box, found⟩ := tree.box?_isSome earlier
  exact lt_size_of_box? (gains.kept found)

theorem trans (here : tree.Gains parent first middle) (there : middle.Gains parent second next) :
    tree.Gains parent (first ++ second) next where
  grown := there.grown
  kept {id box} found := by
    rw [there.kept (here.kept found), List.append_assoc]
    split <;> rfl
  alike earlier axis := by
    obtain ⟨offset, extent⟩ := here.alike earlier axis
    obtain ⟨offsetToo, extentToo⟩ := there.alike (here.old earlier) axis
    exact ⟨offsetToo.trans offset, extentToo.trans extent⟩

/-- A box other than the one that gains children stays as it is. -/
theorem other (gains : tree.Gains parent children next) (apart : id ≠ parent)
    (found : tree.box? id = some box) : next.box? id = some box := by
  rw [gains.kept found, if_neg apart, List.append_nil]

/-- A box with more boxes inside is one child. -/
theorem nest (grown : tree.Grown) (old : parent < tree.size)
    (inner : (tree.addChild parent box).Gains tree.size children next) :
    tree.Gains parent [tree.size] next ∧
      next.box? tree.size = some { box with parent := some parent, children } := by
  constructor
  · refine ⟨inner.grown, ?_, ?_⟩
    · intro id other found
      have earlier := lt_size_of_box? found
      have added := box?_addChild tree parent id box earlier
      rw [found, Option.map_some] at added
      rw [inner.kept added, if_neg (Nat.ne_of_lt earlier), List.append_nil]
      by_cases same : parent = id
      · rw [if_pos same, if_pos same.symm]
        rfl
      · rw [if_neg same, if_neg (Ne.symm same), List.append_nil]
    · intro id earlier axis
      obtain ⟨offset, extent⟩ := grown.arena.alike_addChild old box earlier axis
      have new : id < (tree.addChild parent box).size := by
        rw [size_addChild]
        exact Nat.lt_succ_of_lt earlier
      obtain ⟨offsetToo, extentToo⟩ := inner.alike new axis
      exact ⟨offsetToo.trans offset, extentToo.trans extent⟩
  · rw [inner.kept (box?_addChild_last tree parent box old), if_pos rfl]
    rfl

/-- A box alone is one child without children. -/
theorem addChild (grown : tree.Grown) (old : parent < tree.size) (box : LayoutBox Float) :
    tree.Gains parent [tree.size] (tree.addChild parent box) ∧
      (tree.addChild parent box).box? tree.size =
        some { box with parent := some parent, children := [] } :=
  nest grown old (.none (.addChild grown old box) tree.size)

end Gains

end BoxTree

open BoxTree

namespace Menu

/-! ## The numbers of a menu -/

/-- The pixels in a place that takes pixels only, or a default. -/
def pixelsOr (properties : List Property) (name : String) (default : Float) : Float :=
  match first? properties name with
  | some (.length (.absolute pixels)) => pixels
  | _ => default

/-- The pixels of the places of the items, as the properties of a menu say. -/
def ownSizes (properties : List Property) : ItemSizes where
  height := pixelsOr properties "item_height" 42
  padding := pixelsOr properties "item_padding" 14
  spacing := pixelsOr properties "item_spacing" 16
  iconWidth := pixelsOr properties "icon_width" 32
  iconHeight := pixelsOr properties "icon_height" 32
  iconSpace := pixelsOr properties "item_icon_space" 4

/-- The style of an entry. The selected entry has one of its own, or none. -/
def styleOf (properties : List Property) (selected : Bool) : Option String :=
  if selected then stringOf? properties "selected_item_pixmap_style"
  else stringOf? properties "item_pixmap_style"

/-- The color of an entry. The selected entry is written like the others if it has none of its
own. -/
def colorOf (properties : List Property) (selected : Bool) : String :=
  let others := (stringOf? properties "item_color").getD "black"
  if selected then (stringOf? properties "selected_item_color").getD others else others

/-- How far an item stands below the top of its menu. -/
def rowTop (sizes : ItemSizes) : Nat → Float
  | 0 => sizes.padding
  | index + 1 => rowTop sizes index + (sizes.height + sizes.spacing)

/-- The rectangle of an item in that of its menu. -/
def itemRect (sizes : ItemSizes) (menu : Rect Float) (index : Nat) : Rect Float :=
  ⟨menu.x + sizes.padding, menu.y + rowTop sizes index, menu.width - 2 * sizes.padding - 2,
    sizes.height⟩

/-- The rectangle of an icon in that of its item. -/
def iconRect (sizes : ItemSizes) (item : Rect Float) : Rect Float :=
  ⟨item.x + 0, item.y + (sizes.height - sizes.iconHeight) / 2, sizes.iconWidth, sizes.iconHeight⟩

/-- The rectangle of a text of a size in that of its item. -/
def textRect (sizes : ItemSizes) (item : Rect Float) (size : Float) : Rect Float :=
  ⟨item.x + (sizes.iconWidth + sizes.iconSpace), item.y + (sizes.height - size) / 2,
    item.width - sizes.iconWidth - sizes.iconSpace, size⟩

/-- The pixels of a place that has no misfit. -/
theorem pixels_lengthOr (properties : Properties) {name : String} (default : Float)
    (fits : misfit? properties.items name = none) :
    (properties.lengthOr name default).value.pixels name =
      .ok (pixelsOr properties.items name default) := by
  change ((properties.length? name).value.getD (.absolute default)).pixels name = _
  rw [Properties.length?, typed_value, pixelsOr]
  unfold misfit? at fits
  cases found : first? properties.items name with
  | none => rfl
  | some value =>
      rw [found] at fits
      cases value with
      | string text => rfl
      | bool value => rfl
      | length size =>
          cases size with
          | absolute pixels => rfl
          | relative percent => cases fits
          | combined percent sign offset => cases fits

/-- A menu whose places have no misfit has the sizes that its properties say. -/
theorem sizes_of_fits (properties : Properties)
    (fits : ∀ name ∈ itemSlots, misfit? properties.items name = none) :
    properties.menu.value.sizes = .ok (ownSizes properties.items) := by
  have slot (name : String) (default : Float) (among : name ∈ itemSlots) :=
    pixels_lengthOr properties default (fits name among)
  change (do
    let height ← (properties.lengthOr "item_height" 42).value.pixels "item_height"
    let padding ← (properties.lengthOr "item_padding" 14).value.pixels "item_padding"
    let spacing ← (properties.lengthOr "item_spacing" 16).value.pixels "item_spacing"
    let iconWidth ← (properties.lengthOr "icon_width" 32).value.pixels "icon_width"
    let iconHeight ← (properties.lengthOr "icon_height" 32).value.pixels "icon_height"
    let iconSpace ← (properties.lengthOr "item_icon_space" 4).value.pixels "item_icon_space"
    return (⟨height, padding, spacing, iconWidth, iconHeight, iconSpace⟩ : ItemSizes)) = _
  rw [slot "item_height" 42 (by decide), slot "item_padding" 14 (by decide),
    slot "item_spacing" 16 (by decide), slot "icon_width" 32 (by decide),
    slot "icon_height" 32 (by decide), slot "item_icon_space" 4 (by decide)]
  rfl

/-- A menu has the styles that its properties say. -/
theorem menu_style (properties : Properties) (selected : Bool) :
    (if selected then properties.menu.value.selectedStyle else properties.menu.value.itemStyle) =
      styleOf properties.items selected := by
  rw [styleOf, ← string?_value, ← string?_value]
  rfl

/-- A menu has the colors that its properties say. -/
theorem menu_color (properties : Properties) (selected : Bool) :
    (if selected then properties.menu.value.selectedColor else properties.menu.value.itemColor) =
      colorOf properties.items selected := by
  rw [colorOf, ← string?_value, ← string?_value]
  rfl

/-! ## The boxes of the entries -/

/-- The numbers of the boxes of an entry. -/
structure EntryIds where
  item : Nat
  icon : Option Nat
  text : Nat

/-- The boxes inside the item. -/
def EntryIds.inside (ids : EntryIds) : List Nat := ids.icon.toList ++ [ids.text]

/-- The item of an entry. -/
def entryItem (menu : Menu) (sizes : ItemSizes) (settings : Settings) (width : Expr Float)
    (index : Nat) : LayoutBox Float :=
  menu.itemBox sizes width (itemTop sizes index) index (index == settings.selected)

/-- The text of an entry. -/
def entryText (menu : Menu) (sizes : ItemSizes) (settings : Settings) (width : Expr Float)
    (index : Nat) (entry : MenuEntry) : LayoutBox Float :=
  let selected := index == settings.selected
  let color := (settings.palette.resolveOr
    (if selected then menu.selectedColor else menu.itemColor) .black).value
  menu.textBox sizes width index selected entry.text color

/-- The boxes of an entry are in a tree, the item below the menu, the icon and the text inside
the item. -/
structure Entered (menu : Menu) (sizes : ItemSizes) (settings : Settings) (menuId : Nat)
    (width : Expr Float) (tree : BoxTree Float) (entry : MenuEntry) (index : Nat)
    (ids : EntryIds) : Prop where
  item : tree.box? ids.item = some { menu.entryItem sizes settings width index with
    parent := some menuId, children := ids.inside }
  icon : Option.Rel (fun icon id => tree.box? id = some { iconBox sizes icon with
    parent := some ids.item, children := [] }) entry.icon ids.icon
  text : tree.box? ids.text = some { menu.entryText sizes settings width index entry with
    parent := some ids.item, children := [] }

variable {tree next : BoxTree Float} {parent menuId index : Nat} {width : Expr Float}
  {entry : MenuEntry} {ids : EntryIds} {more : List Nat} {menu : Menu} {sizes : ItemSizes}
  {settings : Settings}

/-- What is added below the menu leaves the boxes of an entry as they are. -/
theorem Entered.kept
    (entered : menu.Entered sizes settings menuId width tree entry index ids) (arena : tree.Arena)
    (gains : tree.Gains menuId more next) :
    menu.Entered sizes settings menuId width next entry index ids := by
  -- All of them are younger than the menu.
  have below : menuId < ids.item := arena.parent_lt _ _ (parent?_of_box? entered.item)
  have inside {id : Nat} {box : LayoutBox Float} (found : tree.box? id = some box)
      (link : box.parent = some ids.item) : next.box? id = some box := by
    have younger := arena.parent_lt _ _ ((parent?_of_box? found).trans link)
    exact gains.other (by omega) found
  refine ⟨gains.other (by omega) entered.item, ?_, inside entered.text rfl⟩
  have icon := entered.icon
  generalize entry.icon = wanted, ids.icon = given at icon ⊢
  cases icon with
  | none => exact .none
  | some found => exact .some (inside found rfl)

/-- An entry adds one item below the menu, with what belongs inside. -/
theorem gains_addEntry (menu : Menu) (sizes : ItemSizes) (settings : Settings)
    (width : Expr Float) (entry : MenuEntry) (index : Nat) (grown : tree.Grown)
    (old : menuId < tree.size) :
    ∃ ids : EntryIds,
      let next := (menu.addEntry sizes settings menuId width (itemTop sizes index) index entry
        tree).value
      tree.Gains menuId [ids.item] next ∧
        menu.Entered sizes settings menuId width next entry index ids := by
  let item := menu.entryItem sizes settings width index
  let text := menu.entryText sizes settings width index entry
  have below : (tree.addChild menuId item).Grown := .addChild grown old item
  have inItem : tree.size < (tree.addChild menuId item).size := by
    rw [size_addChild]
    exact Nat.lt_succ_self _
  cases icon : entry.icon with
  | none =>
      obtain ⟨texts, shown⟩ := Gains.addChild below inItem text
      obtain ⟨gains, found⟩ := Gains.nest grown old texts
      refine ⟨⟨tree.size, Option.none, (tree.addChild menuId item).size⟩, ?_⟩
      simp only [addEntry, icon]
      exact ⟨gains, found, icon ▸ .none, shown⟩
  | some name =>
      obtain ⟨icons, drawn⟩ := Gains.addChild below inItem (iconBox sizes name)
      obtain ⟨texts, shown⟩ := Gains.addChild icons.grown (icons.old inItem) text
      obtain ⟨gains, found⟩ := Gains.nest grown old (icons.trans texts)
      refine ⟨⟨tree.size, (tree.addChild menuId item).size,
        ((tree.addChild menuId item).addChild tree.size (iconBox sizes name)).size⟩, ?_⟩
      simp only [addEntry, icon]
      exact ⟨gains, found, icon ▸ .some (texts.other (Nat.ne_of_gt inItem) drawn), shown⟩

/-- Entries add their items below the menu, in order. -/
theorem gains_addEntries (menu : Menu) (sizes : ItemSizes) (settings : Settings)
    (width : Expr Float) (entries : List MenuEntry) (index : Nat) (grown : tree.Grown)
    (old : menuId < tree.size) :
    ∃ all : List EntryIds,
      let next := (menu.addEntries sizes settings menuId width index (itemTop sizes index) entries
        tree).value
      tree.Gains menuId (all.map EntryIds.item) next ∧
        List.Forall₂ (fun (entry, index) ids =>
          menu.Entered sizes settings menuId width next entry index ids)
          (entries.zipIdx index) all := by
  induction entries generalizing tree index with
  | nil => exact ⟨[], .none grown menuId, .nil⟩
  | cons entry rest ih =>
      obtain ⟨ids, first, entered⟩ :=
        menu.gains_addEntry sizes settings width entry index grown old
      obtain ⟨all, others, follow⟩ := ih (index + 1) first.grown (first.old old)
      refine ⟨ids :: all, first.trans others, ?_⟩
      rw [List.zipIdx_cons]
      exact .cons (entered.kept first.grown.arena others) follow

/-- The scroll bar adds one box below the menu, or none. -/
theorem gains_addScrollbar (properties : Properties) (grown : tree.Grown)
    (old : menuId < tree.size)
    (built : properties.menu.value.addScrollbar menuId tree = .ok next) :
    tree.Gains menuId (if hasScrollbar properties.items then [tree.size] else []) next := by
  rw [addScrollbar] at built
  rcases scrollbar_cases properties with ⟨has, on, frame, framed⟩ | ⟨hasNot, off | unframed⟩
  · rw [if_pos on, framed] at built
    obtain ⟨pixels, -, done⟩ := exists_of_bind_eq_ok built
    cases done
    rw [if_pos has]
    refine (Gains.nest grown old (Gains.addChild (.addChild grown old _) ?_ _).1).1
    rw [size_addChild]
    exact Nat.lt_succ_self _
  · rw [off] at built
    cases built
    rw [hasNot]
    exact .none grown menuId
  · rw [unframed, ite_self] at built
    cases built
    rw [hasNot]
    exact .none grown menuId

/-- The scroll bar fails only for its width. -/
theorem addScrollbar_ok_iff (properties : Properties) (menuId : Nat) (tree : BoxTree Float) :
    (∃ next, properties.menu.value.addScrollbar menuId tree = .ok next) ↔
      (hasScrollbar properties.items = true →
        misfit? properties.items "scrollbar_width" = none) := by
  rw [addScrollbar]
  rcases scrollbar_cases properties with ⟨has, on, frame, framed⟩ | ⟨hasNot, off | unframed⟩
  · have settles := (settles_pixels properties "scrollbar_width" 16).ok_iff
    rw [Option.toList_eq_nil_iff] at settles
    rw [if_pos on, framed]
    constructor
    · rintro ⟨next, built⟩ -
      obtain ⟨pixels, absolute, -⟩ := exists_of_bind_eq_ok built
      exact settles.1 ⟨pixels, absolute⟩
    · intro fits
      obtain ⟨pixels, absolute⟩ := settles.2 (fits has)
      change properties.menu.value.scrollbarWidth.pixels "scrollbar_width" = _ at absolute
      dsimp only
      rw [absolute]
      exact ⟨_, rfl⟩
  · rw [off, hasNot]
    exact iff_of_true ⟨tree, rfl⟩ fun impossible => Bool.noConfusion impossible
  · rw [unframed, ite_self, hasNot]
    exact iff_of_true ⟨tree, rfl⟩ fun impossible => Bool.noConfusion impossible

/-! ## The rectangles of the entries -/

variable {context : Context Float} {rect item : Rect Float}

theorem evaluate_itemTop (sizes : ItemSizes) (index : Nat) :
    (itemTop sizes index).evaluate context = .ok (rowTop sizes index) := by
  induction index with
  | zero => rfl
  | succ index ih =>
      rw [itemTop, evaluate_add, ih]
      rfl

theorem evaluate_itemWidth (sizes : ItemSizes) {menuWidth : Expr Float} {pixels : Float}
    (known : menuWidth.evaluate context = .ok pixels) :
    (itemWidth sizes menuWidth).evaluate context = .ok (pixels - 2 * sizes.padding - 2) := by
  change (Expr.binary .sub (.binary .sub menuWidth
    (.binary .mul (.constant 2) (.constant sizes.padding))) (.constant 2)).evaluate context = _
  simp only [Expr.evaluate, known, Expr.apply]

theorem evaluate_centered (sizes : ItemSizes) (height : Float) :
    (centered sizes height).evaluate context = .ok ((sizes.height - height) / 2) := by
  have two : Scalar.isZero (2 : Float) = false := by decide
  change (Expr.binary .div (.binary .sub (.constant sizes.height) (.constant height))
    (.constant 2)).evaluate context = _
  simp [Expr.evaluate, Expr.apply, two]

theorem evaluate_less {first : Expr Float} {value : Float} (pixels : Float)
    (known : first.evaluate context = .ok value) :
    (first - .constant pixels).evaluate context = .ok (value - pixels) := by
  change (Expr.binary .sub first (.constant pixels)).evaluate context = _
  simp only [Expr.evaluate, known, Expr.apply]

theorem placeInside_entryItem (parent : Option Nat) (children : List Nat)
    (wide : width.evaluate context = .ok (rect.width - 2 * sizes.padding - 2)) :
    LayoutBox.placeInside { menu.entryItem sizes settings width index with parent, children }
      context rect = .ok (itemRect sizes rect index) :=
  LayoutBox.placeInside_of_sides rfl (evaluate_itemTop sizes index) wide rfl

theorem placeInside_iconBox (icon : String) (parent : Option Nat) (children : List Nat) :
    LayoutBox.placeInside { iconBox sizes icon with parent, children } context item =
      .ok (iconRect sizes item) := by
  have top : (centered sizes sizes.iconHeight).evaluate context = _ := evaluate_centered sizes _
  exact LayoutBox.placeInside_of_sides rfl top rfl rfl

theorem placeInside_entryText (parent : Option Nat) (children : List Nat)
    (wide : width.evaluate context = .ok item.width) :
    LayoutBox.placeInside { menu.entryText sizes settings width index entry with parent, children }
      context item = .ok (textRect sizes item
        (fontSize (if index == settings.selected then menu.selectedFont else menu.itemFont))) := by
  unfold entryText textBox
  dsimp only
  generalize fontSize (if index == settings.selected then menu.selectedFont else menu.itemFont) =
    size
  have top : (centered sizes size).evaluate context = _ := evaluate_centered sizes _
  have inner := evaluate_less sizes.iconSpace (evaluate_less sizes.iconWidth wide)
  exact LayoutBox.placeInside_of_sides rfl top inner rfl

/-- An entry of a menu is in a tree, looks as the properties say of an entry that is selected or
not, and stands where it belongs in every rectangle of the menu. -/
structure ShownIn (properties : List Property) (settings : Settings) (menuId : Nat)
    (tree : BoxTree Float) (entry : MenuEntry) (index : Nat) (ids : EntryIds) : Prop where
  item : tree.shown? ids.item = stylePaint (styleOf properties (index == settings.selected))
  inside : tree.childrenOf ids.item = ids.inside
  icon : Option.Rel (fun icon id =>
    tree.shown? id = some (.pixmap ("icons/" ++ icon ++ ".png"))) entry.icon ids.icon
  text : tree.shown? ids.text = some (.text entry.text
    (settings.palette.resolveOr (colorOf properties (index == settings.selected)) .black).value
    (fontSize (font properties (index == settings.selected))) .left)
  rects : ∀ context menu, tree.resolve context menuId = .ok menu →
    let sizes := ownSizes properties
    let item := itemRect sizes menu index
    tree.resolve context ids.item = .ok item ∧
      (∀ id ∈ ids.icon, tree.resolve context id = .ok (iconRect sizes item)) ∧
      tree.resolve context ids.text =
        .ok (textRect sizes item (fontSize (font properties (index == settings.selected))))

/-- A menu stands below a box. Inside are the items of the entries, in order, and the frame of a
scroll bar or nothing. -/
structure LaidOut (properties : List Property) (settings : Settings) (parent menuId : Nat)
    (bar : List Nat) (tree : BoxTree Float) : Prop where
  link : tree.parent? menuId = some parent
  entries : ∃ all : List EntryIds, tree.childrenOf menuId = all.map EntryIds.item ++ bar ∧
    List.Forall₂ (fun (entry, index) ids =>
      ShownIn properties settings menuId tree entry index ids) settings.entries.zipIdx all

/-- The boxes of an entry have their rectangles if the items know the width of the menu. -/
theorem Entered.shownIn {properties : Properties}
    (entered : properties.menu.value.Entered (ownSizes properties.items) settings menuId
      (itemWidth (ownSizes properties.items) (tree.derivedExtent menuId .horizontal)) tree entry
      index ids) (arena : tree.Arena) :
    ShownIn properties.items settings menuId tree entry index ids where
  item := by
    rw [shown?_of_box? entered.item, ← menu_style]
    rfl
  inside := childrenOf_of_box? entered.item
  icon := by
    have icon := entered.icon
    generalize entry.icon = wanted, ids.icon = given at icon ⊢
    cases icon with
    | none => exact .none
    | some found => exact .some (shown?_of_box? found)
  text := by
    rw [shown?_of_box? entered.text, ← menu_color, ← menu_font]
    rfl
  rects context menu resolved := by
    obtain ⟨-, -, wide, -⟩ := evaluate_of_resolve resolved
    have width := evaluate_itemWidth (ownSizes properties.items) wide
    have item := (arena.resolve_of_child hundred_nonzero entered.item rfl resolved).trans
      (placeInside_entryItem _ _ width)
    refine ⟨item, ?_, ?_⟩
    · intro id given
      have icon := entered.icon
      rw [given] at icon
      generalize entry.icon = wanted at icon
      cases icon with
      | some found =>
          exact (arena.resolve_of_child hundred_nonzero found rfl item).trans
            (placeInside_iconBox _ _ _)
    · rw [← menu_font]
      exact (arena.resolve_of_child hundred_nonzero entered.text rfl item).trans
        (placeInside_entryText _ _ width)

/-- A menu is laid out if its entries are in the tree and know the width that it had when it was
alone. -/
theorem laidOut_of_entered {below : BoxTree Float} {properties : Properties}
    {own : LayoutBox Float} {all : List EntryIds} {bar : List Nat}
    (alone : below.box? menuId = some { own with parent := some parent, children := [] })
    (gains : below.Gains menuId (all.map EntryIds.item ++ bar) next)
    (entered : List.Forall₂ (fun (entry, index) ids =>
      properties.menu.value.Entered (ownSizes properties.items) settings menuId
        (itemWidth (ownSizes properties.items) (below.derivedExtent menuId .horizontal)) next
        entry index ids) settings.entries.zipIdx all) :
    LaidOut properties.items settings parent menuId bar next := by
  have found := gains.kept alone
  rw [if_pos rfl] at found
  refine ⟨parent?_of_box? found, all, childrenOf_of_box? found, ?_⟩
  rw [← (gains.alike (lt_size_of_box? alone) .horizontal).2] at entered
  exact entered.imp fun entry ids here => here.shownIn gains.grown.arena

/-- The tree with a menu and its entries, before the scroll bar. -/
def laid (settings : Settings) (parent : Nat) (properties : Properties) (tree : BoxTree Float) :
    BoxTree Float :=
  let sizes := ownSizes properties.items
  let below := tree.addChild parent (ownBox properties)
  let width := itemWidth sizes (below.derivedExtent tree.size .horizontal)
  (properties.menu.value.addEntries sizes settings tree.size width 0 (itemTop sizes 0)
    settings.entries below).value

/-- A menu whose places have no misfit is laid out before it gets its scroll bar. -/
theorem addMenu_value (settings : Settings) (parent : Nat) (properties : Properties)
    (tree : BoxTree Float) (fits : ∀ name ∈ itemSlots, misfit? properties.items name = none) :
    (addMenu settings parent properties tree).value =
      properties.menu.value.addScrollbar tree.size (laid settings parent properties tree) := by
  rw [addMenu, Noted.bind_value, sizes_of_fits properties fits]
  rfl

end Menu

/-- A menu below any box of any tree, if the places of its items take pixels, gets the boxes of all
its entries, one item for each, in order. In every rectangle of the menu an item stands a row below
the one before, with the icon, if the entry has one, and the text at their places inside. Font,
color and style are those of the selected entry for the entry that is selected and no other. What
the scroll bar adds comes after, and only its width can fail. -/
theorem menu_entries_stand_in_rows (settings : Settings) (properties : Properties)
    {tree : BoxTree Float} (grown : tree.Grown) {parent : Nat} (old : parent < tree.size)
    (fits : ∀ name ∈ Menu.itemSlots, Menu.misfit? properties.items name = none) :
    let laid := Menu.laid settings parent properties tree
    let built := (addMenu settings parent properties tree).value
    built = properties.menu.value.addScrollbar tree.size laid ∧
      Menu.LaidOut properties.items settings parent tree.size [] laid ∧
      ((∃ next, built = .ok next) ↔ (Menu.hasScrollbar properties.items = true →
        Menu.misfit? properties.items "scrollbar_width" = none)) ∧
      ∀ next, built = .ok next →
        Menu.LaidOut properties.items settings parent tree.size
          (if Menu.hasScrollbar properties.items then [laid.size] else []) next := by
  intro laid built
  obtain ⟨-, alone⟩ := Gains.addChild grown old (Menu.ownBox properties)
  have inBelow := lt_size_of_box? alone
  obtain ⟨all, entries, entered⟩ := properties.menu.value.gains_addEntries
    (Menu.ownSizes properties.items) settings (Menu.itemWidth (Menu.ownSizes properties.items) _)
    settings.entries 0 (.addChild grown old (Menu.ownBox properties)) inBelow
  have value : built = _ := Menu.addMenu_value settings parent properties tree fits
  refine ⟨value, ?_, ?_, ?_⟩
  · refine Menu.laidOut_of_entered alone ?_ entered
    rw [List.append_nil]
    exact entries
  · rw [value]
    exact Menu.addScrollbar_ok_iff properties tree.size laid
  · intro next done
    have bar := Menu.gains_addScrollbar properties entries.grown (entries.old inBelow)
      (value.symm.trans done)
    refine Menu.laidOut_of_entered alone (entries.trans bar) ?_
    exact entered.imp fun entry ids here => here.kept entries.grown.arena bar

/-- A canvas that covers the screen. -/
def canvasAlone : BoxTree Float :=
  (screen : BoxTree Float).addChild 0
    { name := "canvas", width := some (.relative 100), height := some (.relative 100) }

/-- A menu over half of the canvas, with a scroll bar and a larger font for the selected entry. -/
def halfMenu : Properties :=
  ⟨"boot_menu", [
    ⟨"left", .length (.relative 10), ⟨0, 0⟩⟩, ⟨"top", .length (.relative 20), ⟨0, 0⟩⟩,
    ⟨"width", .length (.relative 50), ⟨0, 0⟩⟩, ⟨"height", .length (.relative 50), ⟨0, 0⟩⟩,
    ⟨"selected_item_font", .string "Sans 20", ⟨0, 0⟩⟩,
    ⟨"scrollbar_frame", .string "bar_*.png", ⟨0, 0⟩⟩]⟩

/-- The second entry, which is selected and has no icon, stands a row below the first one. -/
theorem halfMenu_rows :
    ∃ next, (addMenu { twoEntries with selected := 1 } 1 halfMenu canvasAlone).value = .ok next ∧
      next.resolve (.forScreen 1000 800) 2 = .ok ⟨100, 160, 500, 400⟩ ∧
      ∃ item icon text second secondText bar : Nat,
        next.childrenOf 2 = [item, second, bar] ∧ next.childrenOf item = [icon, text] ∧
        next.childrenOf second = [secondText] ∧
        next.resolve (.forScreen 1000 800) icon = .ok ⟨114, 179, 32, 32⟩ ∧
        next.resolve (.forScreen 1000 800) second = .ok ⟨114, 232, 470, 42⟩ ∧
        next.resolve (.forScreen 1000 800) secondText = .ok ⟨150, 243, 434, 20⟩ := by
  have grown : canvasAlone.Grown := .addChild .screen (by decide) _
  obtain ⟨-, -, -, rows⟩ := menu_entries_stand_in_rows { twoEntries with selected := 1 } halfMenu
    grown (show 1 < canvasAlone.size by decide) (by decide +kernel)
  obtain ⟨next, built, here⟩ := exists_of_map_toOption (show
    (addMenu { twoEntries with selected := 1 } 1 halfMenu canvasAlone).value.toOption.map
      (fun next => next.resolve (.forScreen 1000 800) 2) = some (.ok ⟨100, 160, 500, 400⟩) by
        decide +kernel)
  obtain ⟨-, all, children, shown⟩ := rows next built
  match all, shown with
  | [⟨item, _, text⟩, ⟨second, _, secondText⟩], .cons one (.cons two .nil) =>
      cases one.icon with
      | @some _ icon =>
          cases two.icon with
          | none =>
              obtain ⟨-, icons, -⟩ := one.rects _ _ here
              obtain ⟨seconds, -, texts⟩ := two.rects _ _ here
              refine ⟨next, built, here, item, icon, text, second, secondText, _, children,
                one.inside, two.inside, (icons icon rfl).trans ?_, seconds.trans ?_,
                texts.trans ?_⟩
              all_goals decide +kernel

end BootTheme
