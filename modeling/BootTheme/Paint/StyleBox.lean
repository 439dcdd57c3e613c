import BootTheme.Layout.Rect
import BootTheme.Picture.Cache

/-!
# Style boxes

A style box surrounds a rectangle with images for its corners and edges and
fills it with an image for its center. The pattern of a style box gives the
names of the images: the first star stands for the part.
-/

namespace BootTheme

/-- A region of a style box. -/
inductive StylePart where
  | northwest
  | north
  | northeast
  | west
  | center
  | east
  | southwest
  | south
  | southeast
deriving DecidableEq, Repr

/-- A part with the image to draw in its place. -/
structure PlacedPart (α : Type) where
  part : StylePart
  name : String
  rect : Rect α
deriving DecidableEq, Repr

namespace StylePart

/-- All parts, in drawing order. -/
def all : List StylePart :=
  [northwest, north, northeast, west, center, east, southwest, south, southeast]

/-- What stands for the part in the name of its image. -/
def key : StylePart → String
  | northwest => "nw"
  | north => "n"
  | northeast => "ne"
  | west => "w"
  | center => "c"
  | east => "e"
  | southwest => "sw"
  | south => "s"
  | southeast => "se"

/-- Whether a part lies at a corner. -/
def isCorner : StylePart → Bool
  | northwest | northeast | southwest | southeast => true
  | _ => false

/-- Where a part with an image of the given size goes. Corners keep the size of their image,
edges stretch along their side of the rectangle, and the center covers it. -/
def placement {α : Type} [Scalar α] (part : StylePart) (rect : Rect α) (width height : α) :
    Rect α :=
  match part with
  | northwest => ⟨rect.x - width, rect.y - height, width, height⟩
  | north => ⟨rect.x, rect.y - height, rect.width, height⟩
  | northeast => ⟨rect.x + rect.width, rect.y - height, width, height⟩
  | west => ⟨rect.x - width, rect.y, width, rect.height⟩
  | center => rect
  | east => ⟨rect.x + rect.width, rect.y, width, rect.height⟩
  | southwest => ⟨rect.x - width, rect.y + rect.height, width, height⟩
  | south => ⟨rect.x, rect.y + rect.height, rect.width, height⟩
  | southeast => ⟨rect.x + rect.width, rect.y + rect.height, width, height⟩

/-- A text with its first star replaced. -/
def fillStar (key : List Char) : List Char → List Char
  | [] => []
  | '*' :: rest => key ++ rest
  | char :: rest => char :: fillStar key rest

/-- The name of the image of a part. -/
def imageName (pattern : String) (part : StylePart) : String :=
  String.ofList (fillStar part.key.toList pattern.toList)

/-- The parts among the given ones whose images are there, each in its place. -/
def placeAmong {α : Type} [Scalar α] (files : Files) (pattern : String) (rect : Rect α) :
    List StylePart → ImageCache → Noted (List (PlacedPart α) × ImageCache)
  | [], cache => .plain ([], cache)
  | part :: rest, cache => do
      let name := imageName pattern part
      let (size, cache) ← cache.dimensions files name
      let (placed, cache) ← placeAmong files pattern rect rest cache
      match size with
      | none => return (placed, cache)
      | some (width, height) =>
          let place := part.placement rect (Scalar.ofNat width) (Scalar.ofNat height)
          return (⟨part, name, place⟩ :: placed, cache)

/-- All parts whose images are there, each in its place. An empty pattern has no parts. -/
def place {α : Type} [Scalar α] (files : Files) (pattern : String) (rect : Rect α)
    (cache : ImageCache) : Noted (List (PlacedPart α) × ImageCache) :=
  if pattern.isEmpty then .plain ([], cache) else placeAmong files pattern rect all cache

end StylePart

end BootTheme
