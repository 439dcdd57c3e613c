import BootTheme.Component.Label
import BootTheme.Component.Menu

/-!
# From a theme to its boxes

The theme itself styles the screen. Every visible component of a known kind
becomes a box, or several, below the box of the component around it. A menu with
a relative length in a place that takes pixels only ends the building.
-/

namespace BootTheme

/-- The result of a step that adds boxes. -/
abbrev Built := Noted (Except (MalformedLength Float) (BoxTree Float))

/-- The next step, unless the building has ended. -/
def Built.next (built : Built) (step : BoxTree Float → Built) : Built := do
  match ← built with
  | .error fault => return .error fault
  | .ok tree => step tree

mutual

/-- The tree with a component below a box. -/
def addComponent (settings : Settings) (parent : Nat) (tree : BoxTree Float) :
    Component → Built
  | .mk kind properties children _ => do
      let own : Properties := ⟨kind, properties⟩
      if ← own.visible then
        match kind with
        | "boot_menu" => addMenu settings parent own tree
        | "label" => return .ok (tree.addChild parent (← own.labelBox settings))
        | "image" => return .ok (tree.addChild parent (← own.imageBox))
        | "canvas" =>
            let canvas ← own.canvasBox
            addComponents settings tree.size (tree.addChild parent canvas) children
        | _ => ⟨.ok tree, [.unsupportedComponent kind]⟩
      else return .ok tree

/-- The tree with components below a box, one after the other. -/
def addComponents (settings : Settings) (parent : Nat) (tree : BoxTree Float) :
    List Component → Built
  | [] => return .ok tree
  | component :: rest =>
      (addComponent settings parent tree component).next fun tree =>
        addComponents settings parent tree rest

end

/-- The tree with the color of the screen. -/
def paintScreen (theme : Theme) (settings : Settings) (tree : BoxTree Float) :
    Noted (BoxTree Float) := do
  match ← theme.own.string? "desktop-color" with
  | none => return tree
  | some spec =>
      let color ← settings.palette.resolveOr spec .black
      return tree.edit 0 fun screen => { screen with paint := some (.fill color) }

/-- The box of an image over the whole screen. -/
def backgroundBox (file : String) : LayoutBox Float :=
  { name := "desktop-image"
    width := some (.relative 100)
    height := some (.relative 100)
    paint := some (.pixmap file) }

/-- The tree with the image behind all components. -/
def addBackground (theme : Theme) (tree : BoxTree Float) : Noted (BoxTree Float) := do
  match ← theme.own.string? "desktop-image" with
  | none => return tree
  | some file => return tree.addChild 0 (backgroundBox file)

/-- The boxes of a theme. -/
def buildTree (theme : Theme) (settings : Settings) : Built := do
  let tree ← paintScreen theme settings .screen
  let tree ← addBackground theme tree
  addComponents settings 0 tree theme.components

end BootTheme
