import BootTheme.Component.Geometry
import BootTheme.Settings.Basic

/-!
# The boot menu

The entries of the menu are stacked from its top. Each one is a box over the
width of the menu less its padding, with an icon at its left edge and a text
beside the icon, both centered vertically. A scroll bar, if there is one, stands
inside the right edge of the menu.
-/

namespace BootTheme

/-- The settings of a boot menu, defaults filled in. -/
structure Menu where
  geometry : Geometry
  style : Option String
  itemFont : String
  itemColor : String
  itemStyle : Option String
  selectedFont : String
  selectedColor : String
  selectedStyle : Option String
  itemHeight : Length Float
  itemPadding : Length Float
  itemSpacing : Length Float
  iconWidth : Length Float
  iconHeight : Length Float
  iconSpace : Length Float
  scrollbar : Bool
  scrollbarWidth : Length Float
  scrollbarFrame : Option String
  scrollbarThumb : Option String
deriving Repr

/-- The pixels of the places inside a menu. -/
structure ItemSizes where
  height : Float
  padding : Float
  spacing : Float
  iconWidth : Float
  iconHeight : Float
  iconSpace : Float
deriving Repr

namespace Properties

/-- A length with a default in pixels. -/
def lengthOr (properties : Properties) (name : String) (pixels : Float) :
    Noted (Length Float) := do
  let found ← properties.length? name
  return found.getD (.absolute pixels)

/-- A string with a default. -/
def stringOr (properties : Properties) (name default : String) : Noted String := do
  let found ← properties.string? name
  return found.getD default

/-- The settings of a boot menu. What is not set for the selected entry is taken from the others. -/
def menu (properties : Properties) : Noted Menu := do
  let itemFont ← properties.stringOr "item_font" "Unknown Regular 16"
  let itemColor ← properties.stringOr "item_color" "black"
  let geometry ← properties.geometry
  let style ← properties.string? "menu_pixmap_style"
  let selectedFont ← properties.stringOr "selected_item_font" itemFont
  let selectedColor ← properties.stringOr "selected_item_color" itemColor
  let itemStyle ← properties.string? "item_pixmap_style"
  let selectedStyle ← properties.string? "selected_item_pixmap_style"
  let itemHeight ← properties.lengthOr "item_height" 42
  let itemPadding ← properties.lengthOr "item_padding" 14
  let itemSpacing ← properties.lengthOr "item_spacing" 16
  let iconWidth ← properties.lengthOr "icon_width" 32
  let iconHeight ← properties.lengthOr "icon_height" 32
  let iconSpace ← properties.lengthOr "item_icon_space" 4
  let scrollbar ← properties.bool? "scrollbar"
  let scrollbarWidth ← properties.lengthOr "scrollbar_width" 16
  let scrollbarFrame ← properties.string? "scrollbar_frame"
  let scrollbarThumb ← properties.string? "scrollbar_thumb"
  return { geometry, style, itemFont, itemColor, itemStyle, selectedFont, selectedColor,
           selectedStyle, itemHeight, itemPadding, itemSpacing, iconWidth, iconHeight, iconSpace,
           scrollbar := scrollbar.getD true, scrollbarWidth, scrollbarFrame, scrollbarThumb }

end Properties

namespace Menu

/-- The pixels of the places inside a menu, which must not depend on a reference. -/
def sizes (menu : Menu) : Except (MalformedLength Float) ItemSizes := do
  let height ← menu.itemHeight.pixels "item_height"
  let padding ← menu.itemPadding.pixels "item_padding"
  let spacing ← menu.itemSpacing.pixels "item_spacing"
  let iconWidth ← menu.iconWidth.pixels "icon_width"
  let iconHeight ← menu.iconHeight.pixels "icon_height"
  let iconSpace ← menu.iconSpace.pixels "item_icon_space"
  return { height, padding, spacing, iconWidth, iconHeight, iconSpace }

/-- The style box of a pattern; an empty pattern is none. -/
def stylePaint (pattern : Option String) : Option (Paint Float) :=
  match pattern with
  | some pattern => if pattern.isEmpty then none else some (.styleBox pattern)
  | none => none

/-- The width of every item, from the width of the menu. -/
def itemWidth (sizes : ItemSizes) (menuWidth : Expr Float) : Expr Float :=
  menuWidth - (.constant 2 * .constant sizes.padding) - .constant 2

/-- Half of what a height leaves of the item. -/
def centered (sizes : ItemSizes) (height : Float) : Expr Float :=
  (.constant sizes.height - .constant height) / .constant 2

/-- The box of an entry. -/
def itemBox (menu : Menu) (sizes : ItemSizes) (width top : Expr Float) (index : Nat)
    (selected : Bool) : LayoutBox Float :=
  { name := "item[" ++ toString index ++ "]"
    left := some (.absolute sizes.padding)
    topExpr := some top
    widthExpr := some width
    height := some (.absolute sizes.height)
    paint := stylePaint (if selected then menu.selectedStyle else menu.itemStyle) }

/-- The box of an icon. -/
def iconBox (sizes : ItemSizes) (icon : String) : LayoutBox Float :=
  { name := "icon:" ++ icon
    left := some (.absolute 0)
    topExpr := some (centered sizes sizes.iconHeight)
    width := some (.absolute sizes.iconWidth)
    height := some (.absolute sizes.iconHeight)
    paint := some (.pixmap ("icons/" ++ icon ++ ".png")) }

/-- The box of an entry's text. -/
def textBox (menu : Menu) (sizes : ItemSizes) (width : Expr Float) (index : Nat)
    (selected : Bool) (text : String) (color : Color) : LayoutBox Float :=
  let size := fontSize (if selected then menu.selectedFont else menu.itemFont)
  { name := "item[" ++ toString index ++ "].text"
    leftExpr := some (.constant sizes.iconWidth + .constant sizes.iconSpace)
    topExpr := some (centered sizes size)
    widthExpr := some (width - .constant sizes.iconWidth - .constant sizes.iconSpace)
    height := some (.absolute size)
    paint := some (.text text color size .left) }

/-- The tree with an entry below the menu. -/
def addEntry (menu : Menu) (sizes : ItemSizes) (settings : Settings) (menuId : Nat)
    (width top : Expr Float) (index : Nat) (entry : MenuEntry) (tree : BoxTree Float) :
    Noted (BoxTree Float) := do
  let selected := index == settings.selected
  let item := tree.size
  let tree := tree.addChild menuId (menu.itemBox sizes width top index selected)
  let tree := match entry.icon with
    | some icon => tree.addChild item (iconBox sizes icon)
    | none => tree
  let color ← settings.palette.resolveOr
    (if selected then menu.selectedColor else menu.itemColor) .black
  return tree.addChild item (menu.textBox sizes width index selected entry.text color)

/-- The tree with entries below the menu, from a number and a distance from its top on. -/
def addEntries (menu : Menu) (sizes : ItemSizes) (settings : Settings) (menuId : Nat)
    (width : Expr Float) : Nat → Expr Float → List MenuEntry → BoxTree Float →
    Noted (BoxTree Float)
  | _, _, [], tree => .plain tree
  | index, top, entry :: rest, tree => do
      let tree ← menu.addEntry sizes settings menuId width top index entry tree
      let next := top + (.constant sizes.height + .constant sizes.spacing)
      menu.addEntries sizes settings menuId width (index + 1) next rest tree

/-- The frame of the scroll bar. -/
def frameBox (menuWidth : Expr Float) (width : Float) (frame : Paint Float) : LayoutBox Float :=
  { name := "scrollbar"
    leftExpr := some (menuWidth - .constant width)
    top := some (.absolute 0)
    width := some (.absolute width)
    height := some (.relative 100)
    paint := some frame }

/-- The thumb of the scroll bar. -/
def thumbBox (pattern : Option String) : LayoutBox Float :=
  { name := "scrollbar.thumb"
    width := some (.relative 100)
    height := some (.relative 100)
    paint := stylePaint pattern }

/-- The tree with the scroll bar below the menu, if it has one. -/
def addScrollbar (menu : Menu) (menuId : Nat) (tree : BoxTree Float) :
    Except (MalformedLength Float) (BoxTree Float) :=
  if menu.scrollbar then
    match stylePaint menu.scrollbarFrame with
    | none => .ok tree
    | some frame => do
        let width ← menu.scrollbarWidth.pixels "scrollbar_width"
        let frameId := tree.size
        let menuWidth := tree.derivedExtent menuId .horizontal
        let tree := tree.addChild menuId (frameBox menuWidth width frame)
        return tree.addChild frameId (thumbBox menu.scrollbarThumb)
  else .ok tree

end Menu

/-- The tree with a boot menu below a box. -/
def addMenu (settings : Settings) (parent : Nat) (properties : Properties)
    (tree : BoxTree Float) : Noted (Except (MalformedLength Float) (BoxTree Float)) := do
  let menu ← properties.menu
  match menu.sizes with
  | .error fault => return .error fault
  | .ok sizes =>
      let name ← properties.boxName "boot_menu"
      let menuId := tree.size
      let box := { menu.geometry.box name with paint := Menu.stylePaint menu.style }
      let tree := tree.addChild parent box
      let width := Menu.itemWidth sizes (tree.derivedExtent menuId .horizontal)
      let tree ← menu.addEntries sizes settings menuId width 0 (.constant sizes.padding)
        settings.entries tree
      return menu.addScrollbar menuId tree

end BootTheme
