import BootTheme.Proofs.Picture.Layers
import BootTheme.Proofs.Raster.Coverage
import BootTheme.Proofs.Raster.Steps

/-!
# How opaque a canvas stays

Every command leaves marks on some pixels, and the last mark on a pixel decides how
opaque it is. So the opacity of a pixel of a canvas is 255, unless the last that was
decided about it is the mark of an image that dims it.
-/

namespace BootTheme

/-! ## Steps -/

/-- A place on the canvases of a size. -/
structure Spot where
  width : Nat
  height : Nat
  column : Nat
  row : Nat
  inWidth : column < width
  inHeight : row < height

/-- A canvas that shows a pixel of some opacity at a spot. -/
structure Image.Shows (canvas : Image) (spot : Spot) (alpha : UInt8) : Prop where
  width : canvas.width = spot.width
  height : canvas.height = spot.height
  opacity : (canvas.pixel spot.column spot.row).alpha = alpha
  near : Mark.Near alpha

namespace Canvas

variable {α β : Type} [Scalar α] [Scalar β] {canvas next : Image} {spot : Spot} {alpha : UInt8}

theorem holds_of_shows (shows : canvas.Shows spot alpha) : canvas.Holds spot.column spot.row := by
  rw [Image.Holds, shows.width, shows.height]
  exact ⟨spot.inWidth, spot.inHeight⟩

theorem shows_blank (spot : Spot) : (blank spot.width spot.height).Shows spot 255 where
  width := rfl
  height := rfl
  opacity := by
    rw [blank, Image.pixel_plain _ _ _ _ _ spot.inWidth spot.inHeight]
    rfl
  near := .inl rfl

/-- The marks of a filled rectangle. -/
def fillMarks (spot : Spot) (color : Color) (rect : Rect α) : List Mark :=
  if rect.Covers spot.column spot.row then color.marks 255 else []

/-- The marks of a point of text. -/
def dotMarks (spot : Spot) (color : Color) (point : Dot) : List Mark :=
  if point.x.toInt = spot.column ∧ point.y.toInt = spot.row then color.marks point.coverage else []

/-- The marks of an image: those of its pixel that comes to lie on the spot. -/
def imageMarks (spot : Spot) (image : Image) (rect : Rect α) : List Mark :=
  if Draws image rect ∧ rect.rounded.Covers spot.column spot.row then
    (drawnPixel (blank spot.width spot.height) image rect spot.column spot.row).marks
  else []

/-- A change of the pixel, if a step makes one there, leaves its marks. -/
theorem shows_change {hit : Prop} [Decidable hit] {change : Pixel → Pixel} {marks : List Mark}
    (shows : canvas.Shows spot alpha) (width : next.width = canvas.width)
    (height : next.height = canvas.height)
    (pixel : next.pixel spot.column spot.row =
      if hit then change (canvas.pixel spot.column spot.row)
      else canvas.pixel spot.column spot.row)
    (leaves : ∀ under, Mark.Near under.alpha → (change under).alpha = Mark.last marks under.alpha) :
    next.Shows spot (Mark.last (if hit then marks else []) alpha) where
  width := width.trans shows.width
  height := height.trans shows.height
  opacity := by
    rw [pixel]
    split
    · rw [leaves _ (shows.opacity ▸ shows.near), shows.opacity]
    · exact shows.opacity
  near := Mark.near_last shows.near _

theorem shows_fill (shows : canvas.Shows spot alpha) (rect : Rect α) (color : Color) :
    (fill canvas rect color).Shows spot (Mark.last (fillMarks spot color rect) alpha) :=
  shows_change shows (width_fill rect color) (height_fill rect color)
    (pixel_fill rect color (holds_of_shows shows)) fun under _ => alpha_tint color 255 under

theorem shows_dot (shows : canvas.Shows spot alpha) (color : Color) (point : Dot) :
    (dot canvas point.x point.y color point.coverage).Shows spot
      (Mark.last (dotMarks spot color point) alpha) :=
  shows_change shows (width_dot _ _ _ _) (height_dot _ _ _ _)
    (pixel_dot _ _ color _ (holds_of_shows shows)) fun under _ => alpha_tint color _ under

theorem shows_drawImage (shows : canvas.Shows spot alpha) (image : Image) (rect : Rect α) :
    (drawImage canvas image rect).Shows spot (Mark.last (imageMarks spot image rect) alpha) := by
  -- What comes to lie on the spot depends on the size of the canvas only.
  have same : drawnPixel canvas image rect spot.column spot.row =
      drawnPixel (blank spot.width spot.height) image rect spot.column spot.row := by
    rw [drawnPixel, drawnPixel, shows.width, shows.height]
    rfl
  have pixel := pixel_drawImage image rect (holds_of_shows shows)
  rw [same] at pixel
  exact shows_change shows (width_drawImage image rect) (height_drawImage image rect) pixel
    fun under => Pixel.alpha_atop_near _

/-- Steps that leave marks leave the marks of all of them, one after the other. -/
theorem shows_foldl {γ : Type} {step : Image → γ → Image} {marks : γ → List Mark}
    (single : ∀ {canvas alpha}, canvas.Shows spot alpha → ∀ item,
      (step canvas item).Shows spot (Mark.last (marks item) alpha))
    (shows : canvas.Shows spot alpha) (items : List γ) :
    (items.foldl step canvas).Shows spot (Mark.last (items.flatMap marks) alpha) := by
  induction items generalizing canvas alpha with
  | nil => exact shows
  | cons item rest ih =>
      rw [List.foldl_cons, List.flatMap_cons, Mark.last_append]
      exact ih (single shows item)

/-! ## Runs -/

/-- The marks of a command. Those of an outline are the marks of its sides, those of a text the
marks of its points. -/
def commandMarks (images : String → Option Image) (font : Option (Font Float32)) (spot : Spot) :
    DrawCommand Float → List Mark
  | .fill rect color => fillMarks spot color rect
  | .stroke rect color => rect.sides.flatMap (fillMarks spot color)
  | .image name rect =>
      match images name with
      | some image => imageMarks spot image rect
      | none => []
  | .text text rect size color align =>
      match font with
      | none => []
      | some font =>
          (textDots narrow (font.inSize sameSize (narrow size)) text rect align).flatMap
            (dotMarks spot color)

theorem shows_drawKnown (images : String → Option Image) (font : Option (Font Float32))
    (shows : canvas.Shows spot alpha) (command : DrawCommand Float) :
    (drawKnown images font canvas command).Shows spot
      (Mark.last (commandMarks images font spot command) alpha) := by
  cases command with
  | fill rect color => exact shows_fill shows rect color
  | stroke rect color =>
      exact shows_foldl (fun shows side => shows_fill shows side color) shows rect.sides
  | image name rect =>
      rw [drawKnown, commandMarks]
      cases images name with
      | none => exact shows
      | some image => exact shows_drawImage shows image rect
  | text text rect size color align =>
      cases font with
      | none => exact shows
      | some font =>
          rw [drawKnown, drawText_eq_dots]
          exact shows_foldl (fun shows point => shows_dot shows color point) shows _

theorem not_dim_marks (color : Color) (coverage : UInt8) (hit : Prop) [Decidable hit] :
    Mark.dim ∉ if hit then color.marks coverage else [] := by
  unfold Color.marks
  split
  · split
    · exact List.not_mem_nil
    · simp
  · exact List.not_mem_nil

/-- Only images dim. -/
theorem image_of_dim {images : String → Option Image} {font : Option (Font Float32)}
    {command : DrawCommand Float} (dims : Mark.dim ∈ commandMarks images font spot command) :
    ∃ name rect image, command = .image name rect ∧ images name = some image ∧
      Mark.dim ∈ imageMarks spot image rect := by
  cases command with
  | fill rect color => exact absurd dims (not_dim_marks color 255 _)
  | stroke rect color =>
      obtain ⟨side, -, dims⟩ := List.mem_flatMap.1 dims
      exact absurd dims (not_dim_marks color 255 _)
  | image name rect =>
      rw [commandMarks] at dims
      cases known : images name with
      | none =>
          rw [known] at dims
          cases dims
      | some image =>
          rw [known] at dims
          exact ⟨name, rect, image, rfl, known, dims⟩
  | text text rect size color align =>
      cases font with
      | none => cases dims
      | some font =>
          obtain ⟨point, -, dims⟩ := List.mem_flatMap.1 dims
          exact absurd dims (not_dim_marks color _ _)

/-- A display list and the images that it is drawn with. -/
structure Job where
  list : DisplayList Float
  files : Files
  cache : ImageCache

namespace Job

/-- The images of a job by name, as they are drawn. -/
def image? (job : Job) : String → Option Image :=
  (lastCache job.files job.list.commands job.cache).answer

/-- The marks of a job. -/
def marks (font : Option (Font Float32)) (spot : Spot) (job : Job) : List Mark :=
  job.list.commands.flatMap (commandMarks job.image? font spot)

end Job

/-- Display lists drawn on one canvas, one after the other. -/
def drawJobs (font : Option (Font Float32)) (jobs : List Job) (canvas : Image) : Image :=
  jobs.foldl
    (fun canvas job => (drawAll job.files font job.list.commands canvas job.cache).value.1) canvas

theorem shows_drawJobs (font : Option (Font Float32)) (shows : canvas.Shows spot alpha)
    (jobs : List Job) :
    (drawJobs font jobs canvas).Shows spot
      (Mark.last (jobs.flatMap (Job.marks font spot)) alpha) := by
  refine shows_foldl (fun {canvas alpha} shows job => ?_) shows jobs
  rw [value_drawAll]
  exact shows_foldl (shows_drawKnown job.image? font) shows job.list.commands

/-- The opacity of a pixel of a canvas that display lists are drawn on is 255 after a color or an
opaque pixel of an image, 254 after a pixel of an image that dims it, and otherwise as it was, at
the start 255. So the pixel is opaque unless an image that is drawn dims it. -/
theorem opacity_by_last_mark (font : Option (Font Float32)) (jobs : List Job) (spot : Spot) :
    ((drawJobs font jobs (blank spot.width spot.height)).width = spot.width ∧
      (drawJobs font jobs (blank spot.width spot.height)).height = spot.height) ∧
    ((drawJobs font jobs (blank spot.width spot.height)).pixel spot.column spot.row).alpha =
      Mark.last (jobs.flatMap (Job.marks font spot)) 255 ∧
    (((drawJobs font jobs (blank spot.width spot.height)).pixel spot.column spot.row).alpha = 255 ∨
      ((drawJobs font jobs (blank spot.width spot.height)).pixel spot.column spot.row).alpha =
          254 ∧
        ∃ job ∈ jobs, ∃ name rect image, .image name rect ∈ job.list.commands ∧
          job.image? name = some image ∧ Mark.dim ∈ imageMarks spot image rect) := by
  have shows := shows_drawJobs font (shows_blank spot) jobs
  refine ⟨⟨shows.width, shows.height⟩, shows.opacity, ?_⟩
  rw [shows.opacity]
  by_cases dims : Mark.dim ∈ jobs.flatMap (Job.marks font spot)
  · refine shows.near.imp_right fun dimmed => ⟨dimmed, ?_⟩
    obtain ⟨job, inside, dims⟩ := List.mem_flatMap.1 dims
    obtain ⟨command, among, dims⟩ := List.mem_flatMap.1 dims
    obtain ⟨name, rect, image, rfl, known, dims⟩ := image_of_dim dims
    exact ⟨job, inside, name, rect, image, among, known, dims⟩
  · exact .inl (Mark.last_of_not_mem dims)

/-- A black image of one pixel of half opacity. -/
def shade : Image := .plain 1 1 ⟨0, 0, 0, 128⟩

/-- A job that draws this image on the only pixel of a canvas. -/
def shading : Job :=
  ⟨⟨1, 1, [.image "a.png" ⟨0, 0, 1, 1⟩]⟩, Disk.empty.still,
    ({ themeDir := "." } : ImageCache).insert "a.png" shade⟩

/-- An image of half opacity takes a unit from the opacity of the canvas. -/
theorem shade_dims_canvas : ((drawJobs none [shading] (blank 1 1)).pixel 0 0).alpha = 254 := by
  decide +kernel

end Canvas

end BootTheme
