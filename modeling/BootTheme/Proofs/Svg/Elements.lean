import BootTheme.Proofs.Svg.Drawn
import BootTheme.Proofs.Svg.Values

/-!
# Drawings are written as well-formed documents

The text of a drawing spells one element for every shape, within the element of the document
and behind its background. Texts and references are escaped, numbers and colors need no
escaping. The prefix of the classes is written as it is, so it has to be the spelling of a value
itself.
-/

namespace BootTheme

open Xml

namespace SvgText

/-! ## Attributes -/

theorem attributes_attr (name : String) {value raw : String} (named : IsName name)
    (spelled : SpelledValue value raw) : Attributes [(name, value)] (attr name raw) := by
  have single := Attributes.cons named spelled .nil
  rw [String.append_empty] at single
  exact single

theorem attributes_plain (name value : String) (named : IsName name)
    (plain : IsPlainText value) : Attributes [(name, value)] (attr name value) :=
  attributes_attr name named plain.value

theorem attributes_numeric (name : String) (value : Float) (named : IsName name) :
    Attributes [(name, decimalText value)] (numeric name value) :=
  attributes_plain name _ named (isPlain_decimalText value)

/-- The attributes of a rectangle. -/
def placeAttributes (rect : Rect Float) : List (String × String) :=
  [("x", decimalText rect.x), ("y", decimalText rect.y), ("width", decimalText rect.width),
    ("height", decimalText rect.height)]

theorem attributes_place (rect : Rect Float) : Attributes (placeAttributes rect) (place rect) :=
  (((attributes_numeric "x" rect.x (by decide)).append
    (attributes_numeric "y" rect.y (by decide))).append
    (attributes_numeric "width" rect.width (by decide))).append
    (attributes_numeric "height" rect.height (by decide))

/-- The attributes of a color. -/
def fillAttributes (color : Color) : List (String × String) :=
  [("fill", color.hex)] ++
    if color.alpha = 255 then []
    else [("fill-opacity", decimalText (color.alpha.toNat.toUInt64.toFloat / 255))]

theorem attributes_fill (color : Color) : Attributes (fillAttributes color) (fill color) := by
  unfold fillAttributes fill
  refine (attributes_plain "fill" _ (by decide) (isPlain_hex color)).append ?_
  split
  · exact .nil
  · exact attributes_numeric "fill-opacity" _ (by decide)

/-! ## Elements -/

section

variable (settings : SvgSettings) (payload : Image → String) (group : String)

/-- The attributes of a shape. The prefix of the classes spells `group`. -/
def shapeAttributes : Shape Float → List (String × String)
  | .filled rect color =>
      [("class", group ++ "fill")] ++ placeAttributes rect ++ fillAttributes color
  | .outlined rect color =>
      [("class", group ++ "outline")] ++ placeAttributes rect ++ [("fill", "none")]
        ++ [("stroke", color.hex)] ++ [("stroke-width", "1")]
  | .picture rect source =>
      [("class", group ++ "image")] ++ placeAttributes rect ++ [("preserveAspectRatio", "none")]
        ++ [("href", href payload source)] ++ [("xlink:href", href payload source)]
  | .line _ x y size color anchor =>
      [("class", group ++ "text")] ++ [("x", decimalText x)] ++ [("y", decimalText y)]
        ++ [("font-size", decimalText size)] ++ [("text-anchor", anchorName anchor)]
        ++ [("dominant-baseline", "text-before-edge")] ++ fillAttributes color

/-- The element of a shape. -/
def node : Shape Float → Node
  | .filled rect color => .element "rect" (shapeAttributes payload group (.filled rect color)) []
  | .outlined rect color =>
      .element "rect" (shapeAttributes payload group (.outlined rect color)) []
  | .picture rect source =>
      .element "image" (shapeAttributes payload group (.picture rect source)) []
  | .line text x y size color anchor =>
      .element "text" (shapeAttributes payload group (.line text x y size color anchor))
        [.text text]

/-- What is escaped of a shape holds no character that a document may not hold. -/
def Writable : Shape Float → Prop
  | .filled _ _ => True
  | .outlined _ _ => True
  | .picture _ source => IsText (href payload source)
  | .line text _ _ _ _ _ => IsText text

theorem nodup_shapeAttributes (shape : Shape Float) :
    ((shapeAttributes payload group shape).map Prod.fst).Nodup := by
  cases shape with
  | filled rect color =>
      rw [shapeAttributes, fillAttributes]
      split
      · simp [placeAttributes]
      · simp [placeAttributes]
  | outlined rect color => simp [shapeAttributes, placeAttributes]
  | picture rect source => simp [shapeAttributes, placeAttributes]
  | line text x y size color anchor =>
      rw [shapeAttributes, fillAttributes]
      split
      · simp
      · simp

variable {settings payload group}

theorem attributes_class (name : String) (plain : IsPlainText name)
    (spelled : SpelledValue group (settings.classPrefix.getD "")) :
    Attributes [("class", group ++ name)] (attr "class" (settings.className name)) := by
  refine attributes_attr "class" (by decide) ?_
  unfold SpelledValue SvgSettings.className
  rw [String.toList_append, String.toList_append]
  exact Spelled.append spelled plain.value

/-- An element without children. -/
theorem content_alone {name raw : String} {attributes : List (String × String)}
    (named : IsName name) (once : (attributes.map Prod.fst).Nodup)
    (spelled : Attributes attributes raw) :
    Content [.element name attributes []] ("<" ++ name ++ (raw ++ "/>")) := by
  have content := Content.empty named once spelled .nil
  rw [String.append_empty, String.append_assoc] at content
  exact content

/-- The text of a shape is its element. -/
theorem content_element (spelled : SpelledValue group (settings.classPrefix.getD ""))
    {shape : Shape Float} (writable : Writable payload shape) :
    Content [node payload group shape] (element settings payload shape) := by
  have once := nodup_shapeAttributes payload group shape
  cases shape with
  | filled rect color =>
      have attributes := ((attributes_class "fill" (by decide) spelled).append
        (attributes_place rect)).append (attributes_fill color)
      have content := content_alone (by decide : IsName "rect") once attributes
      have tag : "<" ++ "rect" = "<rect" := rfl
      unfold element
      simpa only [node, tag, String.append_assoc] using content
  | outlined rect color =>
      have attributes := ((((attributes_class "outline" (by decide) spelled).append
        (attributes_place rect)).append
        (attributes_plain "fill" "none" (by decide) (by decide))).append
        (attributes_plain "stroke" _ (by decide) (isPlain_hex color))).append
        (attributes_plain "stroke-width" "1" (by decide) (by decide))
      have content := content_alone (by decide : IsName "rect") once attributes
      have tag : "<" ++ "rect" = "<rect" := rfl
      unfold element
      simpa only [node, tag, String.append_assoc] using content
  | picture rect source =>
      have reference := value_escapeMarkup writable
      have attributes := ((((attributes_class "image" (by decide) spelled).append
        (attributes_place rect)).append
        (attributes_plain "preserveAspectRatio" "none" (by decide) (by decide))).append
        (attributes_attr "href" (by decide) reference)).append
        (attributes_attr "xlink:href" (by decide) reference)
      have content := content_alone (by decide : IsName "image") once attributes
      have tag : "<" ++ "image" = "<image" := rfl
      unfold element
      simpa only [node, tag, String.append_assoc] using content
  | line text x y size color anchor =>
      have named : IsPlainText (anchorName anchor) := by cases anchor <;> decide
      have attributes := ((((((attributes_class "text" (by decide) spelled).append
        (attributes_numeric "x" x (by decide))).append
        (attributes_numeric "y" y (by decide))).append
        (attributes_numeric "font-size" size (by decide))).append
        (attributes_plain "text-anchor" _ (by decide) named)).append
        (attributes_plain "dominant-baseline" "text-before-edge" (by decide) (by decide))).append
        (attributes_fill color)
      have within := Content.text (text_escapeMarkup writable) .nil
      have content := Content.element (by decide : IsName "text") once attributes within .nil
      have opening : "<" ++ "text" = "<text" := rfl
      have closing : "</" ++ ("text" ++ ">") = "</text>" := rfl
      unfold element
      simpa only [node, opening, closing, String.append_assoc, String.append_empty] using content

/-! ## Documents -/

/-- What is put around an element on a line of its own. -/
def lineNodes (indent newline : String) (node : Node) : List Node :=
  [.text indent] ++ [node] ++ [.text newline]

theorem content_text {text : String} (spelled : SpelledText text text) :
    Content [.text text] text := by
  have content := Content.text spelled .nil
  rw [String.append_empty] at content
  exact content

theorem content_line {indent newline raw : String} {node : Node}
    (front : SpelledText indent indent) (back : SpelledText newline newline)
    (content : Content [node] raw) :
    Content (lineNodes indent newline node) (indent ++ raw ++ newline) :=
  ((content_text front).append content).append (content_text back)

theorem content_lines {indent newline : String} (front : SpelledText indent indent)
    (back : SpelledText newline newline)
    (spelled : SpelledValue group (settings.classPrefix.getD "")) {shapes : List (Shape Float)}
    (writable : ∀ shape ∈ shapes, Writable payload shape) :
    Content (shapes.flatMap fun shape => lineNodes indent newline (node payload group shape))
      (String.join (shapes.map fun shape =>
        indent ++ element settings payload shape ++ newline)) := by
  induction shapes with
  | nil => exact .nil
  | cons shape rest ih =>
      rw [List.forall_mem_cons] at writable
      rw [List.flatMap_cons, List.map_cons, String.join_cons]
      exact (content_line front back (content_element spelled writable.1)).append (ih writable.2)

/-- The attributes of the element of a document. -/
def rootAttributes (width height : Nat) : List (String × String) :=
  [("xmlns", "http://www.w3.org/2000/svg")] ++ [("xmlns:xlink", "http://www.w3.org/1999/xlink")]
    ++ [("width", toString width)] ++ [("height", toString height)]
    ++ [("viewBox", "0 0 " ++ (toString width ++ " " ++ toString height))]

/-- The background of a document. -/
def backgroundNode (width height : Nat) : Node :=
  .element "rect"
    ([("width", toString width)] ++ [("height", toString height)] ++ [("fill", "#000000")]) []

theorem content_background (width height : Nat) :
    Content [backgroundNode width height] (background width height) := by
  have attributes := ((attributes_plain "width" _ (by decide) (isPlain_toString width)).append
    (attributes_plain "height" _ (by decide) (isPlain_toString height))).append
    (attributes_plain "fill" "#000000" (by decide) (by decide))
  have content := content_alone (by decide : IsName "rect") (by simp) attributes
  have tag : "<" ++ "rect" = "<rect" := rfl
  simpa only [backgroundNode, background, tag, String.append_assoc] using content

/-- The tag that opens a document holds the attributes of its element. -/
theorem attributes_opening (width height : Nat) :
    ∃ raw, Attributes (rootAttributes width height) raw ∧
      opening width height = "<" ++ "svg" ++ raw ++ ">" := by
  have blank : IsPlainText " " := by decide
  have origin : IsPlainText "0 0 " := by decide
  have size := origin.append (((isPlain_toString width).append blank).append
    (isPlain_toString height))
  refine ⟨_, ((((attributes_plain "xmlns" "http://www.w3.org/2000/svg" (by decide)
      (by decide)).append
    (attributes_plain "xmlns:xlink" "http://www.w3.org/1999/xlink" (by decide)
      (by decide))).append
    (attributes_plain "width" _ (by decide) (isPlain_toString width))).append
    (attributes_plain "height" _ (by decide) (isPlain_toString height))).append
    (attributes_plain "viewBox" _ (by decide) size), ?_⟩
  have tag : "<" ++ "svg" = "<svg" := rfl
  simp only [opening, tag, String.append_assoc]

/-- The element of the document of a drawing. -/
def documentNode (settings : SvgSettings) (payload : Image → String) (group : String)
    (drawing : Drawing Float) : Node :=
  let newline := if settings.pretty then "\n" else ""
  let indent := if settings.pretty then "  " else ""
  .element "svg" (rootAttributes drawing.width drawing.height)
    ([.text newline] ++ lineNodes indent newline (backgroundNode drawing.width drawing.height)
      ++ drawing.shapes.flatMap fun shape => lineNodes indent newline (node payload group shape))

theorem document_text (spelled : SpelledValue group (settings.classPrefix.getD ""))
    (drawing : Drawing Float) (writable : ∀ shape ∈ drawing.shapes, Writable payload shape) :
    Document (documentNode settings payload group drawing) (drawing.text settings payload) := by
  have back : SpelledText (if settings.pretty then "\n" else "")
      (if settings.pretty then "\n" else "") := by
    split
    · exact .bare (by decide) (by decide) .nil
    · exact .nil
  have front : SpelledText (if settings.pretty then "  " else "")
      (if settings.pretty then "  " else "") := by
    split
    · exact .bare (by decide) (by decide) (.bare (by decide) (by decide) .nil)
    · exact .nil
  have blank : ∀ char ∈ (if settings.pretty then "\n" else "").toList,
      char = ' ' ∨ char = '\n' := by
    split
    · simp
    · simp
  obtain ⟨raw, attributes, opened⟩ := attributes_opening drawing.width drawing.height
  have within := ((content_text back).append (content_line front back
    (content_background drawing.width drawing.height))).append
    (content_lines front back spelled writable)
  have content := Content.element (by decide : IsName "svg") (by simp [rootAttributes]) attributes
    within .nil
  have closing : "</" ++ ("svg" ++ ">") = "</svg>" := rfl
  unfold documentNode Drawing.text
  rw [opened]
  dsimp only
  by_cases standalone : settings.standalone
  · rw [if_pos standalone]
    have document := Document.declared blank content
    simpa only [closing, declaration, String.append_assoc, String.append_empty] using document
  · rw [if_neg standalone]
    have document := Document.plain content
    simpa only [closing, String.append_assoc, String.append_empty, String.empty_append]
      using document

end

end SvgText

end BootTheme
