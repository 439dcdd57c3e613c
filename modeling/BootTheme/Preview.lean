import BootTheme.Component.Tree
import BootTheme.Number.Fixed
import BootTheme.Paint.Painter
import BootTheme.Raster.Canvas
import BootTheme.Svg.Document
import BootTheme.Theme.Reading

/-!
# Previews

A theme is laid out for a screen, painted into a display list, and drawn either
on pixels or as a vector drawing.
-/

namespace BootTheme

/-- Why there is no preview. -/
inductive RenderError where
  | parse (error : SyntaxError)
  | malformed (fault : MalformedLength Float)
  | eval (error : EvalError Float)
  /-- An image without columns or without rows cannot be written. -/
  | noColumns
  | noRows
  /-- The image file cannot be written. -/
  | imageFile (error : FileError)
  /-- Another file cannot be written. -/
  | file (error : FileError)
deriving Repr

/-- What is said when there is no preview. -/
def RenderError.message : RenderError → String
  | parse error => "parse errors: " ++ error.line
  | malformed fault => "layout error: " ++ fault.message decimalText
  | eval error => "layout error: " ++ error.message decimalText
  | noColumns => "image error: Zero width not allowed"
  | noRows => "image error: Zero height not allowed"
  | imageFile error => "image error: " ++ error.message
  | file error => "I/O error: " ++ error.message

/-- The context of the screen that the settings describe. -/
def Settings.context (settings : Settings) : Context Float :=
  .forScreen settings.width settings.height

namespace BoxTree

/-- The line of a box in the listing of boxes. -/
def boxLine (tree : BoxTree Float) (id : Nat) (rect : Rect Float) : String :=
  String.ofList (List.replicate (2 * tree.depth id) ' ') ++ "["
    ++ ((tree.box? id).map LayoutBox.name).getD "" ++ "] x=" ++ tenthsText rect.x
    ++ " y=" ++ tenthsText rect.y ++ " w=" ++ tenthsText rect.width
    ++ " h=" ++ tenthsText rect.height ++ "\n"

/-- The listing of all boxes with their rectangles. -/
def listing (tree : BoxTree Float) (context : Context Float) : String :=
  "=== Layout Debug ===\n" ++
    match tree.resolveAll context with
    | .error _ => ""
    | .ok boxes =>
        String.join (boxes.map fun (id, rect) => tree.boxLine id rect)
          ++ "====================\n"

end BoxTree

/-- The listing of boxes that is shown on request, as far as the theme can be laid out. -/
def debugListing (theme : Theme) (settings : Settings) : String :=
  if settings.debug then
    match (buildTree theme settings).value with
    | .error _ => ""
    | .ok tree => tree.listing settings.context
  else ""

/-- The display list of a theme, and the cache that was asked for its images. -/
def displayList (theme : Theme) (settings : Settings) (files : Files) (cache : ImageCache) :
    Noted (Except RenderError (DisplayList Float × ImageCache)) := do
  match ← buildTree theme settings with
  | .error fault => return .error (.malformed fault)
  | .ok tree =>
      let painted ← tree.paint settings.context files settings.outline cache
      match painted.error with
      | some error => return .error (.eval error)
      | none => return .ok (⟨settings.width, settings.height, painted.commands⟩, painted.cache)

/-- Where fonts are looked for when none is set. -/
def systemFonts : List String :=
  ["/usr/share/fonts/truetype/noto/NotoSans-Regular.ttf",
    "/usr/share/fonts/noto/NotoSans-Regular.ttf",
    "/usr/share/fonts/truetype/dejavu/DejaVuSans.ttf",
    "/usr/share/fonts/TTF/DejaVuSans.ttf",
    "/usr/share/fonts/truetype/liberation/LiberationSans-Regular.ttf",
    "/usr/share/fonts/truetype/freefont/FreeSans.ttf",
    "/System/Library/Fonts/Supplemental/Arial.ttf",
    "C:\\Windows\\Fonts\\arial.ttf"]

/-- The font of a file. A file that is there but holds no font is noted. -/
def readFont (disk : Disk) (path : String) : Noted (Option (Font Float32)) :=
  match disk.read path with
  | .ok (.font font _) => .plain (some font)
  | .ok _ => ⟨none, [.invalidFont path]⟩
  | .error _ => .plain none

/-- The first font among files. -/
def firstFont (disk : Disk) : List String → Noted (Option (Font Float32))
  | [] => .plain none
  | path :: rest => do
      match ← readFont disk path with
      | some font => return some font
      | none => firstFont disk rest

/-- The font that is set, or else the first font of the system. -/
def loadFont (disk : Disk) (configured : Option String) : Noted (Option (Font Float32)) := do
  let own ← match configured with
    | none => Noted.plain none
    | some path => do
        match ← readFont disk path with
        | some font => return some font
        | none => ⟨none, [.unusableFont path]⟩
  match own with
  | some font => return some font
  | none =>
      match ← firstFont disk systemFonts with
      | some font => return some font
      | none => ⟨none, [.noFont]⟩

/-- The picture of a display list. A font is only looked for if there is text. -/
def rasterImage (list : DisplayList Float) (settings : Settings) (disk : Disk)
    (cache : ImageCache) : Noted Image := do
  let font ← if list.commands.any DrawCommand.isText then loadFont disk settings.fontFile
    else Noted.plain none
  let (image, _) ← list.rasterize disk.still font cache
  return image

/-- The text of the vector drawing of a display list. -/
def svgText (list : DisplayList Float) (settings : Settings) (disk : Disk) (cache : ImageCache)
    (payload : Image → String) : Noted String := do
  let (drawing, _) ← list.vectorize disk.still settings.svg.embed cache
  return drawing.text settings.svg payload

/-- A cache that knows no images yet. -/
def Settings.images (settings : Settings) : ImageCache := { themeDir := settings.resourceDir }

/-- What comes of a theme's display list. -/
def renderTheme {α : Type} (theme : Theme) (settings : Settings) (disk : Disk)
    (finish : DisplayList Float → ImageCache → Noted α) : Noted (Except RenderError α) := do
  match ← displayList theme settings disk.still settings.images with
  | .error error => return .error error
  | .ok (list, cache) => return .ok (← finish list cache)

/-- What comes of the display list of a source. -/
def renderSource {α : Type} (source : String) (settings : Settings) (disk : Disk)
    (finish : DisplayList Float → ImageCache → Noted α) : Noted (Except RenderError α) := do
  match ← readSource source with
  | .error error => return .error (.parse error)
  | .ok theme => renderTheme theme settings disk finish

/-- The picture of a source. -/
def renderImage (source : String) (settings : Settings) (disk : Disk) :
    Noted (Except RenderError Image) :=
  renderSource source settings disk fun list cache => rasterImage list settings disk cache

/-- The SVG document of a source. -/
def renderSvg (source : String) (settings : Settings) (disk : Disk) (payload : Image → String) :
    Noted (Except RenderError String) :=
  renderSource source settings disk fun list cache => svgText list settings disk cache payload

/-- The forms of output. -/
inductive OutputFormat where
  | png
  | svg
deriving DecidableEq, Repr

/-- The format that a file name asks for. -/
def OutputFormat.ofPath (path : String) : OutputFormat :=
  if (Path.extension? path).map lowerAscii = some "svg" then svg else png

/-- What a file holds after an image without pixels could not be written: the end of a PNG. -/
def emptyPng : List UInt8 := [0, 0, 0, 0, 73, 69, 78, 68, 174, 66, 96, 130]

/-- The disk with an image written, and why it could not be. The file is made before the image
is looked at. -/
def saveImage (disk : Disk) (output : String) (image : Image) : Disk × Except RenderError Unit :=
  let written (content : FileContent) (outcome : Except RenderError Unit) :=
    match disk.write output content with
    | .error error => (disk, .error (.imageFile error))
    | .ok disk => (disk, outcome)
  if image.width = 0 then written (.bytes emptyPng) (.error .noColumns)
  else if image.height = 0 then written (.bytes emptyPng) (.error .noRows)
  else written (.image image) (.ok ())

/-- The disk with a document written, and why it could not be. -/
def saveText (disk : Disk) (output text : String) : Disk × Except RenderError Unit :=
  match disk.write output (.text text) with
  | .error error => (disk, .error (.file error))
  | .ok disk => (disk, .ok ())

/-- The disk with the preview of a theme written, and why there is none. -/
def renderFile (theme : Theme) (settings : Settings) (disk : Disk) (output : String)
    (format : OutputFormat) (payload : Image → String) :
    Noted (Disk × Except RenderError Unit) := do
  match format with
  | .png =>
      match ← renderTheme theme settings disk (fun list cache =>
          rasterImage list settings disk cache) with
      | .error error => return (disk, .error error)
      | .ok image => return saveImage disk output image
  | .svg =>
      match ← renderTheme theme settings disk (fun list cache =>
          svgText list settings disk cache payload) with
      | .error error => return (disk, .error error)
      | .ok text => return saveText disk output text

end BootTheme
