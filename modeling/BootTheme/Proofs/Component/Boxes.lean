import BootTheme.Component.Tree
import BootTheme.Proofs.Component.Misfits
import BootTheme.Proofs.Layout.Lineage

/-!
# The boxes of a theme

Which boxes a theme has, read off the theme without building a tree: the screen, the image
behind all components, and the boxes of every component that is shown, those around before
those inside. Each box stands with its level, the number of boxes around it.
-/

namespace BootTheme

/-- A box and the number of boxes around it. -/
structure BoxAt where
  level : Nat
  box : LayoutBox Float

namespace Menu

/-- How far an item stands below the top of the menu. -/
def itemTop (sizes : ItemSizes) : Nat → Expr Float
  | 0 => .constant sizes.padding
  | index + 1 => itemTop sizes index + (.constant sizes.height + .constant sizes.spacing)

/-- The boxes of an entry: the item, and inside it the icon, if it has one, and the text. -/
def entryBoxes (menu : Menu) (sizes : ItemSizes) (settings : Settings) (level : Nat)
    (width : Expr Float) (entry : MenuEntry) (index : Nat) : List BoxAt :=
  let selected := index == settings.selected
  let color := (settings.palette.resolveOr
    (if selected then menu.selectedColor else menu.itemColor) .black).value
  ⟨level, menu.itemBox sizes width (itemTop sizes index) index selected⟩ ::
    (entry.icon.toList.map fun icon => ⟨level + 1, iconBox sizes icon⟩) ++
    [⟨level + 1, menu.textBox sizes width index selected entry.text color⟩]

/-- The boxes of the scroll bar: its frame, and the thumb inside. -/
def scrollbarBoxes (properties : Properties) (level : Nat) (width : Expr Float) : List BoxAt :=
  let menu := properties.menu.value
  if hasScrollbar properties.items then
    match stylePaint menu.scrollbarFrame, menu.scrollbarWidth with
    | some frame, .absolute pixels =>
        [⟨level, frameBox width pixels frame⟩, ⟨level + 1, thumbBox menu.scrollbarThumb⟩]
    | _, _ => []
  else []

/-- The box of the menu itself. -/
def ownBox (properties : Properties) : LayoutBox Float :=
  let menu := properties.menu.value
  { menu.geometry.box (properties.boxName "boot_menu").value with paint := stylePaint menu.style }

/-- The boxes of a menu: the menu, the boxes of each entry, the scroll bar. A menu with a length
that does not fit has none. -/
def boxes (settings : Settings) (level : Nat) (around : Expr Float) (properties : Properties) :
    List BoxAt :=
  let menu := properties.menu.value
  match menu.sizes with
  | .error _ => []
  | .ok sizes =>
      let width := (ownBox properties).extentAgainst .horizontal around
      ⟨level, ownBox properties⟩ ::
        settings.entries.zipIdx.flatMap (fun (entry, index) =>
          menu.entryBoxes sizes settings (level + 1) (itemWidth sizes width) entry index) ++
        scrollbarBoxes properties (level + 1) width

end Menu

mutual

/-- The boxes of a component inside a box of the given width: its own box, and then those
inside. -/
def Component.boxes (settings : Settings) (level : Nat) (around : Expr Float) :
    Component → List BoxAt
  | .mk kind properties children _ =>
      let own : Properties := ⟨kind, properties⟩
      if isSet properties "visible" then
        match kind with
        | "boot_menu" => Menu.boxes settings level around own
        | "label" => [⟨level, (own.labelBox settings).value⟩]
        | "image" => [⟨level, own.imageBox.value⟩]
        | "canvas" =>
            let canvas := own.canvasBox.value
            ⟨level, canvas⟩ :: Component.boxesOf settings (level + 1)
              (canvas.extentAgainst .horizontal around) children
        | _ => []
      else []

/-- The boxes of components, from back to front. -/
def Component.boxesOf (settings : Settings) (level : Nat) (around : Expr Float) :
    List Component → List BoxAt
  | [] => []
  | component :: rest =>
      component.boxes settings level around ++ Component.boxesOf settings level around rest

end

namespace Theme

/-- The box of the screen, filled with the color of the desktop if the theme has one. -/
def screenBox (theme : Theme) (settings : Settings) : LayoutBox Float :=
  { name := "screen"
    paint :=
      match first? theme.properties "desktop-color" with
      | some (.string spec) => some (.fill (settings.palette.resolveOr spec .black).value)
      | _ => none }

/-- The box of the image behind all components, if the theme has one. -/
def backgroundBoxes (theme : Theme) : List BoxAt :=
  match first? theme.properties "desktop-image" with
  | some (.string file) => [⟨1, backgroundBox file⟩]
  | _ => []

/-- All boxes of a theme, from back to front. -/
def boxes (theme : Theme) (settings : Settings) : List BoxAt :=
  ⟨0, theme.screenBox settings⟩ :: theme.backgroundBoxes ++
    Component.boxesOf settings 1 (.unknown screenWidth) theme.components

end Theme

end BootTheme
