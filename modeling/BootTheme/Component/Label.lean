import BootTheme.Component.Geometry
import BootTheme.Settings.Basic

/-!
# Labels and images
-/

namespace BootTheme

/-- The id of the label that shows the seconds left. -/
def timeoutId : String := "__timeout__"

/-- A text with every `%d` replaced. -/
def fillCount (count : List Char) : List Char → List Char
  | [] => []
  | '%' :: 'd' :: rest => count ++ fillCount count rest
  | char :: rest => char :: fillCount count rest

/-- The text of a label. The timeout label shows the seconds for `%d`. -/
def labelText (settings : Settings) (text : String) (id : Option String) : String :=
  if id = some timeoutId then
    String.ofList (fillCount (toString settings.timeout).toList text.toList)
  else text

namespace Properties

/-- A color, black if absent or unknown. -/
def color (properties : Properties) (palette : Palette) (name : String) : Noted Color := do
  match ← properties.string? name with
  | some spec => palette.resolveOr spec .black
  | none => return .black

/-- An alignment, left if absent or unknown. -/
def align (properties : Properties) : Noted Align := do
  match ← properties.string? "align" with
  | none => return .left
  | some keyword =>
      match Align.ofKeyword? keyword with
      | some align => return align
      | none => ⟨.left, [.unknownAlign keyword]⟩

/-- The box of a label. -/
def labelBox (properties : Properties) (settings : Settings) : Noted (LayoutBox Float) := do
  let text ← properties.string? "text"
  let id ← properties.string? "id"
  let color ← properties.color settings.palette "color"
  let font ← properties.string? "font"
  let align ← properties.align
  let geometry ← properties.geometry
  let name ← properties.boxName "label"
  let size := (font.map fontSize).getD defaultFontSize
  return { geometry.box name with
    paint := some (.text (labelText settings (text.getD "") id) color size align) }

/-- The box of an image. -/
def imageBox (properties : Properties) : Noted (LayoutBox Float) := do
  let geometry ← properties.geometry
  let name ← properties.boxName "image"
  match ← properties.string? "file" with
  | some file => return { geometry.box name with paint := some (.pixmap file) }
  | none => ⟨geometry.box name, [.noFile name]⟩

/-- The box of a canvas. -/
def canvasBox (properties : Properties) : Noted (LayoutBox Float) := do
  let geometry ← properties.geometry
  let name ← properties.boxName "canvas"
  return geometry.box name

end Properties

end BootTheme
