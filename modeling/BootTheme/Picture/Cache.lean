import BootTheme.Dictionary
import BootTheme.Disk.Basic
import BootTheme.Warning

/-!
# Images of a theme

Images are read from the directory of the theme when they are first asked for.
What was found is kept, and also that nothing was found, so every name is read
at most once and a missing image is noted once. The files may change while names
are asked for.
-/

namespace BootTheme

/-- The files at the time when so many names have been asked for. -/
abbrev Files := Nat → Disk

/-- Files that do not change. -/
def Disk.still (disk : Disk) : Files := fun _ => disk

/-- The images that were asked for so far. -/
structure ImageCache where
  themeDir : String
  images : Dictionary (Option Image) := .empty
deriving Repr

namespace ImageCache

/-- The path of a file of the theme. -/
def path (cache : ImageCache) (name : String) : String := Path.join cache.themeDir name

/-- The image of a name as it is on disk now. -/
def load (cache : ImageCache) (disk : Disk) (name : String) : Option Image :=
  disk.readImage (cache.path name)

/-- The cache with an image under a name. -/
def insert (cache : ImageCache) (name : String) (image : Image) : ImageCache :=
  { cache with images := cache.images.set name (some image) }

/-- The image of a name, and the cache that has asked for it. -/
def get (cache : ImageCache) (files : Files) (name : String) :
    Noted (Option Image × ImageCache) :=
  match cache.images.get? name with
  | some known => .plain (known, cache)
  | none =>
      let loaded := cache.load (files cache.images.size) name
      let asked := { cache with images := cache.images.set name loaded }
      match loaded with
      | some image => .plain (some image, asked)
      | none => ⟨(none, asked), [.unreadableImage (cache.path name)]⟩

/-- Width and height of an image, and the cache that has asked for it. -/
def dimensions (cache : ImageCache) (files : Files) (name : String) :
    Noted (Option (Nat × Nat) × ImageCache) := do
  let (image, cache) ← cache.get files name
  return (image.map fun image => (image.width, image.height), cache)

end ImageCache

end BootTheme
