import BootTheme.Layout.Box
import BootTheme.Theme.Properties

/-!
# Properties that all components share
-/

namespace BootTheme

/-- The declared place of a component. -/
structure Geometry where
  left : Length Float
  top : Length Float
  width : Length Float
  height : Length Float
deriving DecidableEq, Repr

namespace Properties

/-- A length, zero pixels if absent. -/
def side (properties : Properties) (name : String) : Noted (Length Float) := do
  let found ← properties.length? name
  return found.getD .zero

/-- The declared place. -/
def geometry (properties : Properties) : Noted Geometry := do
  let left ← properties.side "left"
  let top ← properties.side "top"
  let width ← properties.side "width"
  let height ← properties.side "height"
  return ⟨left, top, width, height⟩

/-- Whether the component is shown; it is unless it says otherwise. -/
def visible (properties : Properties) : Noted Bool := do
  let found ← properties.bool? "visible"
  return found.getD true

/-- The name of the component's box: its kind, with the id if it has one. -/
def boxName (properties : Properties) (kind : String) : Noted String := do
  let id ← properties.string? "id"
  return match id with
    | some id => kind ++ "#" ++ id
    | none => kind

end Properties

/-- A box in the declared place. -/
def Geometry.box (geometry : Geometry) (name : String) : LayoutBox Float :=
  { name
    left := some geometry.left
    top := some geometry.top
    width := some geometry.width
    height := some geometry.height }

/-- The size of a font whose name does not end in one. -/
def defaultFontSize : Float := 16

/-- The size of a font: the last word of its name, if that is a number above zero. -/
def fontSize (font : String) : Float :=
  match readDouble (String.ofList (lastWord font.toList)) with
  | some size => if 0 < size then size else defaultFontSize
  | none => defaultFontSize

end BootTheme
