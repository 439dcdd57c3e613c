import BootTheme.Number.Shortest
import BootTheme.Svg.Escape
import BootTheme.Svg.Shape

/-!
# SVG documents

A document has a black background and one element for every shape. The text of
an embedded image, which stands after the head of a data URI, is a parameter.
-/

namespace BootTheme

namespace SvgText

/-- An attribute, with a blank in front of it. -/
def attr (name value : String) : String := " " ++ name ++ "=\"" ++ value ++ "\""

/-- An attribute with a number. -/
def numeric (name : String) (value : Float) : String := attr name (decimalText value)

/-- The attributes of a rectangle. -/
def place (rect : Rect Float) : String :=
  numeric "x" rect.x ++ numeric "y" rect.y ++ numeric "width" rect.width
    ++ numeric "height" rect.height

/-- The attributes of a color. An opaque one needs no opacity. -/
def fill (color : Color) : String :=
  attr "fill" color.hex ++
    if color.alpha = 255 then ""
    else numeric "fill-opacity" (color.alpha.toNat.toUInt64.toFloat / 255)

/-- How an anchor is called. -/
def anchorName : Align → String
  | .left => "start"
  | .center => "middle"
  | .right => "end"

/-- The reference to an image. -/
def href (payload : Image → String) : ImageSource → String
  | .link path => path
  | .embedded image => "data:image/png;base64," ++ payload image

/-- The element of a shape. -/
def element (settings : SvgSettings) (payload : Image → String) : Shape Float → String
  | .filled rect color =>
      "<rect" ++ attr "class" (settings.className "fill") ++ place rect ++ fill color ++ "/>"
  | .outlined rect color =>
      "<rect" ++ attr "class" (settings.className "outline") ++ place rect
        ++ attr "fill" "none" ++ attr "stroke" color.hex
        ++ attr "stroke-width" "1" ++ "/>"
  | .picture rect source =>
      let reference := escapeMarkup (href payload source)
      "<image" ++ attr "class" (settings.className "image") ++ place rect
        ++ attr "preserveAspectRatio" "none" ++ attr "href" reference
        ++ attr "xlink:href" reference ++ "/>"
  | .line text x y size color anchor =>
      "<text" ++ attr "class" (settings.className "text") ++ numeric "x" x ++ numeric "y" y
        ++ numeric "font-size" size ++ attr "text-anchor" (anchorName anchor)
        ++ attr "dominant-baseline" "text-before-edge" ++ fill color ++ ">"
        ++ escapeMarkup text ++ "</text>"

/-- The opening tag of a document. -/
def opening (width height : Nat) : String :=
  let size := toString width ++ " " ++ toString height
  "<svg" ++ attr "xmlns" "http://www.w3.org/2000/svg"
    ++ attr "xmlns:xlink" "http://www.w3.org/1999/xlink"
    ++ attr "width" (toString width) ++ attr "height" (toString height)
    ++ attr "viewBox" ("0 0 " ++ size) ++ ">"

/-- The background. -/
def background (width height : Nat) : String :=
  "<rect" ++ attr "width" (toString width) ++ attr "height" (toString height)
    ++ attr "fill" "#000000" ++ "/>"

end SvgText

/-- The text of a drawing. -/
def Drawing.text (drawing : Drawing Float) (settings : SvgSettings) (payload : Image → String) :
    String :=
  let newline := if settings.pretty then "\n" else ""
  let indent := if settings.pretty then "  " else ""
  let line (element : String) := indent ++ element ++ newline
  (if settings.standalone then "<?xml version=\"1.0\" encoding=\"UTF-8\"?>" ++ newline else "")
    ++ SvgText.opening drawing.width drawing.height ++ newline
    ++ line (SvgText.background drawing.width drawing.height)
    ++ String.join (drawing.shapes.map fun shape => line (SvgText.element settings payload shape))
    ++ "</svg>"

end BootTheme
