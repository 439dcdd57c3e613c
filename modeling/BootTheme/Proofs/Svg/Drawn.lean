import BootTheme.Proofs.Paint.Answers
import BootTheme.Svg.Shape

/-!
# Which commands are drawn

A drawing asks the cache for the images that it carries, and has one shape for every command
but for images that are not there or have no pixels. So the shapes of a drawing are those of the
commands by what the cache knows in the end.
-/

namespace BootTheme

open ImageCache

namespace Shape

variable {α : Type} [Scalar α]

/-- Where an image is taken from, by the images and paths of names. -/
def sourceAmong (images : String → Option Image) (path : String → String) (embed : Bool)
    (name : String) : Option ImageSource :=
  if embed then
    (images name).bind fun image =>
      if image.width == 0 || image.height == 0 then none else some (.embedded image)
  else some (.link (path name))

/-- The shape of a command, by the images and paths of names. -/
def among (images : String → Option Image) (path : String → String) (embed : Bool) :
    DrawCommand α → Option (Shape α)
  | .fill rect color => some (.filled rect color)
  | .stroke rect color => some (.outlined (outlinePath rect) color)
  | .image name rect => (sourceAmong images path embed name).map (.picture rect)
  | .text text rect size color align =>
      some (.line text (anchor rect align) rect.y size color align)

theorem value_ofCommands_cons (files : Files) (embed : Bool) (command : DrawCommand α)
    (rest : List (DrawCommand α)) (cache : ImageCache) :
    (ofCommands files embed (command :: rest) cache).value =
      ((ofCommand files embed cache command).value.1.toList ++
          (ofCommands files embed rest (ofCommand files embed cache command).value.2).value.1,
        (ofCommands files embed rest (ofCommand files embed cache command).value.2).value.2) :=
  rfl

/-- The names that commands ask for. -/
def asked (embed : Bool) (commands : List (DrawCommand α)) : List String :=
  if embed then commands.filterMap DrawCommand.imageName? else []

/-- A drawing that links its images asks for none of them. -/
theorem ofCommands_linked (files : Files) (images : String → Option Image)
    (commands : List (DrawCommand α)) (cache : ImageCache) :
    (ofCommands files false commands cache).value =
      (commands.filterMap (among images cache.path false), cache) := by
  induction commands with
  | nil => rfl
  | cons command rest ih =>
      have single : (ofCommand files false cache command).value =
          (among images cache.path false command, cache) := by
        cases command <;> rfl
      rw [value_ofCommands_cons, single, ih, List.filterMap_cons]
      cases among images cache.path false command with
      | none => rfl
      | some shape => rfl

theorem value_imageSource (files : Files) (path : String → String) (cache : ImageCache)
    (name : String) :
    (imageSource files true cache name).value =
      (sourceAmong (fun _ => (cache.get files name).value.1) path true name,
        (cache.get files name).value.2) := by
  unfold imageSource sourceAmong
  rw [if_pos rfl, if_pos rfl, Noted.bind_value]
  obtain ⟨found, after⟩ := (cache.get files name).value
  cases found with
  | none => rfl
  | some image =>
      dsimp only
      rw [Option.bind_some]
      split
      · rfl
      · rfl

/-- A drawing that carries its images has the shapes of its commands by what the cache knows
when all of them have been asked for. -/
theorem ofCommands_embedded (files : Files) (path : String → String)
    (commands : List (DrawCommand α)) (cache : ImageCache) :
    (ofCommands files true commands cache).value =
      (commands.filterMap (among
          (askAll files (asked true commands) cache).value.answer path true),
        (askAll files (asked true commands) cache).value) := by
  induction commands generalizing cache with
  | nil => rfl
  | cons command rest ih =>
      rw [value_ofCommands_cons, ih, List.filterMap_cons]
      cases command with
      | fill rect color => rfl
      | stroke rect color => rfl
      | text text rect size color align => rfl
      | image name rect =>
          have known := answer_askAll_get files (asked true rest) cache name
          have later : (ofCommand files true cache (.image name rect : DrawCommand α)).value =
              ((sourceAmong (fun _ => (cache.get files name).value.1) path true name).map
                (.picture rect), (cache.get files name).value.2) := by
            rw [ofCommand, Noted.bind_value, value_imageSource files path]
            rfl
          have after : askAll files (asked true (.image name rect :: rest)) cache =
              cache.get files name >>= fun got => askAll files (asked true rest) got.2 := rfl
          rw [later, after, Noted.bind_value, among]
          -- What is asked for later leaves the answer about this image as it is.
          have same : sourceAmong (askAll files (asked true rest)
                (cache.get files name).value.2).value.answer path true name =
              sourceAmong (fun _ => (cache.get files name).value.1) path true name := by
            rw [sourceAmong, known]
            rfl
          rw [same]
          cases sourceAmong (fun _ => (cache.get files name).value.1) path true name with
          | none => rfl
          | some source => rfl

/-- The cache when all images of a drawing have been asked for. -/
def lastCache (files : Files) (embed : Bool) (commands : List (DrawCommand α))
    (cache : ImageCache) : ImageCache :=
  (askAll files (asked embed commands) cache).value

/-- The shapes of a drawing are those of its commands by what the cache knows in the end. -/
theorem value_ofCommands (files : Files) (embed : Bool) (commands : List (DrawCommand α))
    (cache : ImageCache) :
    (ofCommands files embed commands cache).value =
      (commands.filterMap
          (among (lastCache files embed commands cache).answer cache.path embed),
        lastCache files embed commands cache) := by
  cases embed with
  | false => exact ofCommands_linked files _ commands cache
  | true => exact ofCommands_embedded files cache.path commands cache

end Shape

end BootTheme
