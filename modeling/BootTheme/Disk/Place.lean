import BootTheme.Text.Path

/-!
# Places on disk

A path is followed from the root or from the working directory, part by part,
and leads to a place: a list of names below the root, below the working
directory, or below a directory around it. Empty parts and single points lead
nowhere, two points lead outwards, and the root has nothing around it.
-/

namespace BootTheme

/-- The directory that a place is counted from. -/
inductive Anchor where
  | root
  /-- So many directories above the working directory. -/
  | above (levels : Nat)
deriving DecidableEq, Repr

/-- A place below a directory. -/
structure Place where
  anchor : Anchor
  parts : List (List Char)
deriving DecidableEq, Repr

namespace Place

/-- The root itself. -/
def root : Place := ⟨.root, []⟩

/-- The working directory. -/
def working : Place := ⟨.above 0, []⟩

/-- The directory around a place. -/
def outer : Place → Place
  | ⟨.root, []⟩ => root
  | ⟨.above levels, []⟩ => ⟨.above (levels + 1), []⟩
  | ⟨anchor, parts⟩ => ⟨anchor, parts.dropLast⟩

/-- The place that a part of a path leads to. -/
def enter (place : Place) (part : List Char) : Place :=
  if part = [] ∨ part = ['.'] then place
  else if part = ['.', '.'] then place.outer
  else { place with parts := place.parts ++ [part] }

/-- Where a path is followed from. -/
def start (path : String) : Place := if Path.isAbsolute path then root else working

/-- The place that a path leads to, if everything on the way is a directory. -/
def ofPath (path : String) : Place := (Path.segments path).foldl enter (start path)

/-- Whether a place is a directory itself or lies below it. -/
def holds (directory place : Place) : Bool :=
  decide (directory.anchor = place.anchor) && directory.parts.isPrefixOf place.parts

end Place

end BootTheme
