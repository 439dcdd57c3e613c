import BootTheme.Png.Writing
import BootTheme.Proofs.Svg.Elements

/-!
# The document of a display list

The document of a display list is well formed if the prefix of its classes is the spelling of a
value, and if its texts and references hold no character that a document may not hold. It has
one element for every command that is drawn, in their order, and the texts are read back from it.
-/

namespace BootTheme

open Xml SvgText

/-! ## Commands and their elements -/

namespace DrawCommand

variable {α : Type}

/-- The text of a command. -/
def text? : DrawCommand α → Option String
  | .text words _ _ _ _ => some words
  | _ => none

/-- Whether a drawing shows a command. An image that it carries must be there and have pixels. -/
def isDrawn (images : String → Option Image) (embed : Bool) : DrawCommand α → Bool
  | image name _ =>
      !embed || (images name).any fun image => !(image.width == 0 || image.height == 0)
  | _ => true

end DrawCommand

/-- The texts of a display list, in drawing order. -/
def DisplayList.texts {α : Type} (list : DisplayList α) : List String :=
  list.commands.filterMap DrawCommand.text?

/-- An element that shows a command: a rectangle, an image, or a text that holds the text of the
command. -/
inductive Depicts : DrawCommand Float → Node → Prop where
  | fill (rect : Rect Float) (color : Color) (attributes : List (String × String)) :
      Depicts (.fill rect color) (.element "rect" attributes [])
  | stroke (rect : Rect Float) (color : Color) (attributes : List (String × String)) :
      Depicts (.stroke rect color) (.element "rect" attributes [])
  | image (name : String) (rect : Rect Float) (attributes : List (String × String)) :
      Depicts (.image name rect) (.element "image" attributes [])
  | text (text : String) (rect : Rect Float) (size : Float) (color : Color) (align : Align)
      (attributes : List (String × String)) :
      Depicts (.text text rect size color align) (.element "text" attributes [.text text])

section

variable (images : String → Option Image) (path : String → String) (embed : Bool)
  (payload : Image → String) (group : String)

/-- A command is drawn if it has a shape, and then the element of the shape shows it. -/
theorem depicts_among (command : DrawCommand Float) :
    (Shape.among images path embed command = none ∧ command.isDrawn images embed = false) ∨
      ∃ shape, Shape.among images path embed command = some shape ∧
        command.isDrawn images embed = true ∧ Depicts command (node payload group shape) := by
  cases command with
  | fill rect color => exact .inr ⟨_, rfl, rfl, .fill rect color _⟩
  | stroke rect color => exact .inr ⟨_, rfl, rfl, .stroke rect color _⟩
  | text text rect size color align =>
      exact .inr ⟨_, rfl, rfl, .text text rect size color align _⟩
  | image name rect =>
      simp only [Shape.among, Shape.sourceAmong, DrawCommand.isDrawn]
      cases embed with
      | false => exact .inr ⟨_, rfl, rfl, .image name rect _⟩
      | true =>
          cases images name with
          | none => exact .inl ⟨rfl, rfl⟩
          | some image =>
              simp only [if_true, Option.bind_some, Option.any_some, Bool.not_true, Bool.false_or]
              cases image.width == 0 || image.height == 0 with
              | true => exact .inl ⟨rfl, rfl⟩
              | false => exact .inr ⟨_, rfl, rfl, .image name rect _⟩

/-- The elements of the shapes show the commands that are drawn, one each. -/
theorem depicts_all (commands : List (DrawCommand Float)) :
    List.Forall₂ Depicts (commands.filter (DrawCommand.isDrawn images embed))
      ((commands.filterMap (Shape.among images path embed)).map (node payload group)) := by
  induction commands with
  | nil => exact .nil
  | cons command rest ih =>
      rcases depicts_among images path embed payload group command with
        ⟨shapeless, undrawn⟩ | ⟨shape, shaped, drawn, depicts⟩
      · rw [List.filter_cons_of_neg (by simp [undrawn]), List.filterMap_cons_none shapeless]
        exact ih
      · rw [List.filter_cons_of_pos drawn, List.filterMap_cons_some shaped, List.map_cons]
        exact .cons depicts ih

end

/-! ## The document -/

/-- Whether a node is an element. -/
def Xml.Node.isElement : Node → Bool
  | .text _ => false
  | .element _ _ _ => true

theorem filter_lineNodes (indent newline : String) {node : Node} (element : node.isElement = true) :
    (lineNodes indent newline node).filter Node.isElement = [node] := by
  simp only [lineNodes, List.filter_append, List.filter_singleton, element]
  rfl

theorem isElement_node (payload : Image → String) (group : String) (shape : Shape Float) :
    (node payload group shape).isElement = true := by
  cases shape <;> rfl

theorem filter_shapes (indent newline : String) (payload : Image → String) (group : String)
    (shapes : List (Shape Float)) :
    (shapes.flatMap fun shape => lineNodes indent newline (node payload group shape)).filter
      Node.isElement = shapes.map (node payload group) := by
  induction shapes with
  | nil => rfl
  | cons shape rest ih =>
      rw [List.flatMap_cons, List.filter_append, ih,
        filter_lineNodes indent newline (isElement_node payload group shape), List.map_cons]
      rfl

variable {payload : Image → String}

/-- The shapes of a display list hold nothing but its texts, the paths of the images that are
linked and the texts of those that are carried. -/
theorem writable_among {images : String → Option Image} {path : String → String} {embed : Bool}
    {list : DisplayList Float} (texts : ∀ text ∈ list.texts, IsText text)
    (paths : embed = false → ∀ name ∈ list.imageNames, IsText (path name))
    (payloads : embed = true → ∀ image, IsText (payload image)) :
    ∀ shape ∈ list.commands.filterMap (Shape.among images path embed), Writable payload shape := by
  intro shape among
  obtain ⟨command, inside, shaped⟩ := List.mem_filterMap.1 among
  cases command with
  | fill rect color =>
      cases shaped
      trivial
  | stroke rect color =>
      cases shaped
      trivial
  | text text rect size color align =>
      cases shaped
      exact texts text (List.mem_filterMap.2 ⟨_, inside, rfl⟩)
  | image name rect =>
      have named : name ∈ list.imageNames := List.mem_filterMap.2 ⟨_, inside, rfl⟩
      obtain ⟨source, found, rfl⟩ := Option.map_eq_some_iff.1 shaped
      unfold Shape.sourceAmong at found
      split at found
      · next carried =>
          obtain ⟨image, -, pixels⟩ := Option.bind_eq_some_iff.1 found
          split at pixels
          · cases pixels
          · cases pixels
            have head : IsText "data:image/png;base64," := by decide
            exact head.append (payloads carried image)
      · next linked =>
          cases found
          exact paths (Bool.eq_false_iff.2 linked) name named

/-- A drawing is a well-formed document of XML if the prefix of its classes is the spelling of a
value and its texts and references hold no other characters than a document may. Its element has
the background and one element for every command that is drawn, in their order; that of a text
holds the text, and what is written of it is read as this text and no other. -/
theorem drawing_is_well_formed (list : DisplayList Float) (files : Files) (cache : ImageCache)
    (settings : SvgSettings) (payload : Image → String)
    (classes : ∃ group, SpelledValue group (settings.classPrefix.getD ""))
    (texts : ∀ text ∈ list.texts, IsText text)
    (paths : settings.embed = false → ∀ name ∈ list.imageNames, IsText (cache.path name))
    (payloads : settings.embed = true → ∀ image, IsText (payload image)) :
    ∃ children elements,
      Document (.element "svg" (rootAttributes list.width list.height) children)
        ((list.vectorize files settings.embed cache).value.1.text settings payload) ∧
      children.filter Node.isElement = backgroundNode list.width list.height :: elements ∧
      List.Forall₂ Depicts
        (list.commands.filter (DrawCommand.isDrawn
          (list.vectorize files settings.embed cache).value.2.answer settings.embed)) elements ∧
      IsText ((list.vectorize files settings.embed cache).value.1.text settings payload) ∧
      Refers
        ((list.vectorize files settings.embed cache).value.1.text settings payload).toList ∧
      ∀ text ∈ list.texts, ∀ other, SpelledText other (escapeMarkup text) ↔ other = text := by
  obtain ⟨group, spelled⟩ := classes
  have shapes := Shape.value_ofCommands files settings.embed list.commands cache
  have drawn : (list.vectorize files settings.embed cache).value =
      (⟨list.width, list.height, (Shape.ofCommands files settings.embed list.commands
        cache).value.1⟩, (Shape.ofCommands files settings.embed list.commands cache).value.2) := rfl
  rw [drawn, shapes]
  dsimp only
  generalize (Shape.lastCache files settings.embed list.commands cache).answer = images
  have document := document_text spelled
    ⟨list.width, list.height,
      list.commands.filterMap (Shape.among images cache.path settings.embed)⟩
    (writable_among texts paths payloads)
  refine ⟨_, _, document, ?_, depicts_all images cache.path settings.embed payload group
    list.commands, document.isText, document.refers,
    fun text among => spelledText_escapeMarkup_iff (texts text among)⟩
  rw [List.filter_append, List.filter_append, filter_shapes, filter_lineNodes _ _ rfl]
  rfl

/-- A square, an image that is not there, and a text with marks. -/
def markedText : DisplayList Float :=
  ⟨2, 1, [.fill ⟨0, 0, 1, 1⟩ (.rgb 255 0 0), .image "a.png" ⟨0, 0, 1, 1⟩,
    .text "a < b & c" ⟨0, 0, 2, 1⟩ 1 (.rgb 0 0 0) .left]⟩

/-- The bytes of a carried image are written in characters that a document may hold. -/
theorem markedText_is_well_formed :
    ∃ children square text,
      Document (.element "svg" (rootAttributes 2 1) children)
        ((markedText.vectorize Disk.empty.still true ⟨"", .empty⟩).value.1.text {}
          fun image => Base64.encode (Png.encode image).toList) ∧
      children.filter Node.isElement = [backgroundNode 2 1, square, text] ∧
      ∃ attributes, text = .element "text" attributes [.text "a < b & c"] := by
  obtain ⟨children, elements, document, within, depicted, -⟩ := drawing_is_well_formed markedText
    Disk.empty.still ⟨"", .empty⟩ {} (fun image => Base64.encode (Png.encode image).toList)
    ⟨"gtp-", IsPlainText.value (by decide)⟩ (by decide) nofun
    (fun _ image => (isPlain_base64 _).isText)
  have drawn : markedText.commands.filter (DrawCommand.isDrawn
      (markedText.vectorize Disk.empty.still true ⟨"", .empty⟩).value.2.answer true) =
      [.fill ⟨0, 0, 1, 1⟩ (.rgb 255 0 0), .text "a < b & c" ⟨0, 0, 2, 1⟩ 1 (.rgb 0 0 0) .left] := by
    have missing : DrawCommand.isDrawn
        (markedText.vectorize Disk.empty.still true ⟨"", .empty⟩).value.2.answer true
        (.image "a.png" ⟨0, 0, 1, 1⟩ : DrawCommand Float) = false := by decide +kernel
    rw [markedText] at missing ⊢
    rw [List.filter_cons_of_pos rfl, List.filter_cons_of_neg (by simp [missing]),
      List.filter_cons_of_pos rfl, List.filter_nil]
  change List.Forall₂ Depicts (markedText.commands.filter (DrawCommand.isDrawn
      (markedText.vectorize Disk.empty.still true ⟨"", .empty⟩).value.2.answer true)) _ at depicted
  rw [drawn] at depicted
  cases depicted with
  | cons first rest =>
      cases rest with
      | cons second none =>
          cases none
          cases second with
          | text text rect size color align attributes =>
              exact ⟨children, _, _, document, within, attributes, rfl⟩

/-! ## The prefix of the classes -/

/-- A text that stands within another. -/
def StandsIn (part whole : String) : Prop := part.toList <:+: whole.toList

namespace StandsIn

variable {part first second : String}

theorem left (inside : StandsIn part first) : StandsIn part (first ++ second) := by
  rw [StandsIn, String.toList_append]
  exact List.infix_append_of_infix_left inside

theorem right (inside : StandsIn part second) : StandsIn part (first ++ second) := by
  rw [StandsIn, String.toList_append]
  exact List.infix_append_of_infix_right inside

theorem join {parts : List String} (inside : StandsIn part first) (among : first ∈ parts) :
    StandsIn part (String.join parts) := by
  induction parts with
  | nil => cases among
  | cons head rest ih =>
      rw [String.join_cons]
      rcases List.mem_cons.1 among with rfl | later
      · exact inside.left
      · exact (ih later).right

end StandsIn

/-- The prefix stands in the element of every shape as it is. -/
theorem prefix_standsIn_element (settings : SvgSettings) (payload : Image → String)
    (shape : Shape Float) :
    StandsIn (settings.classPrefix.getD "") (element settings payload shape) := by
  have itself : StandsIn (settings.classPrefix.getD "") (settings.classPrefix.getD "") :=
    List.infix_rfl
  have inClass (name : String) :
      StandsIn (settings.classPrefix.getD "") (attr "class" (settings.className name)) :=
    itself.left.right.left
  unfold element
  cases shape with
  | filled rect color => exact (inClass "fill").right.left.left.left
  | outlined rect color => exact (inClass "outline").right.left.left.left.left.left
  | picture rect source => exact (inClass "image").right.left.left.left.left.left
  | line text x y size color anchor =>
      exact (inClass "text").right.left.left.left.left.left.left.left.left.left

/-- The prefix stands in the document of every drawing with a shape as it is. -/
theorem prefix_standsIn_text (settings : SvgSettings) (payload : Image → String)
    (drawing : Drawing Float) {shape : Shape Float} (among : shape ∈ drawing.shapes) :
    StandsIn (settings.classPrefix.getD "") (drawing.text settings payload) := by
  have inElement := prefix_standsIn_element settings payload shape
  unfold Drawing.text
  dsimp only
  apply StandsIn.left
  apply StandsIn.right
  refine StandsIn.join ?_ (List.mem_map_of_mem among)
  exact inElement.right.left

/-- A red square of one pixel. -/
def redSquare : DisplayList Float := ⟨1, 1, [.fill ⟨0, 0, 1, 1⟩ (.rgb 255 0 0)]⟩

/-- An ampersand in the prefix of the classes stands in the document as it is, and starts no
reference there. -/
theorem ampersand_in_prefix_is_left :
    ¬ ∃ root, Document root
      ((redSquare.vectorize Disk.empty.still true ⟨"", .empty⟩).value.1.text
        { classPrefix := some "R&D-" } fun _ => "") := by
  rintro ⟨root, document⟩
  obtain ⟨before, behind, whole⟩ : StandsIn "R&D-" _ :=
    prefix_standsIn_text { classPrefix := some "R&D-" } (fun _ => "")
      (redSquare.vectorize Disk.empty.still true ⟨"", .empty⟩).value.1 List.mem_cons_self
  have parted : before ++ "R&D-".toList ++ behind =
      (before ++ ['R']) ++ '&' :: ('D' :: '-' :: behind) := by
    simp
  obtain ⟨char, entity, tail, named, same⟩ := document.refers _ _ (whole.symm.trans parted)
  cases named <;> cases same

end BootTheme
