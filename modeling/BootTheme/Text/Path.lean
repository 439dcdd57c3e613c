import BootTheme.Text.Blank

/-!
# Paths

A path is a text whose parts are separated by slashes; one that starts with a
slash is absolute. Empty parts and single points name the directory they stand
in, except that a point at the start of a relative path is a part of its own.
-/

namespace BootTheme.Path

/-- The parts between the slashes. -/
def split : List Char → List (List Char)
  | [] => [[]]
  | '/' :: rest => [] :: split rest
  | char :: rest =>
      match split rest with
      | [] => [[char]]
      | part :: parts => (char :: part) :: parts

/-- Parts with slashes between them. -/
def unite : List (List Char) → List Char
  | [] => []
  | [part] => part
  | part :: parts => part ++ '/' :: unite parts

/-- Whether a path starts at the root. -/
def isAbsolute (path : String) : Bool :=
  match path.toList with
  | '/' :: _ => true
  | _ => false

/-- The parts of a path below its root or its starting directory. -/
def segments (path : String) : List (List Char) :=
  match path.toList with
  | [] => []
  | '/' :: rest => split rest
  | text => split text

/-- Whether a path ends in a slash. -/
def endsInSlash (path : String) : Bool := path.toList.getLast? == some '/'

/-- The parts in front of the last one that is not empty. -/
def leading (path : String) : List (List Char) :=
  (((segments path).reverse.dropWhile List.isEmpty).drop 1).reverse

/-- Parts without those at the end that name no file; `leading` keeps a point at the start. -/
def dropIdle (leading : Bool) (parts : List (List Char)) : List (List Char) :=
  match (parts.reverse.dropWhile fun part => part == [] || part == ['.']).reverse with
  | [] => if leading && parts.head? == some ['.'] then [['.']] else []
  | kept => kept

/-- The paths on the way to a path, from the outermost on, without the root and the path itself. -/
def stages (path : String) : List String :=
  let parts := segments path
  let head := if isAbsolute path then ['/'] else []
  (List.range (parts.length - 1)).map fun count =>
    String.ofList (head ++ unite (parts.take (count + 1)))

/-- A path below a directory; an absolute path stands for itself. -/
def join (directory path : String) : String :=
  if isAbsolute path || directory.isEmpty then path
  else if endsInSlash directory then directory ++ path
  else directory ++ "/" ++ path

/-- The directory that holds the last part of a path. -/
def parent (path : String) : Option String :=
  let relative := !isAbsolute path
  match (dropIdle relative (segments path)).reverse with
  | [] => none
  | _ :: before =>
      let text := unite (dropIdle relative before.reverse)
      some (String.ofList (if relative then text else '/' :: text))

/-- The last part of a path, if it names a file. -/
def fileName (path : String) : Option (List Char) :=
  match (dropIdle (!isAbsolute path) (segments path)).getLast? with
  | some part => if part = ['.'] ∨ part = ['.', '.'] then none else some part
  | none => none

/-- What follows the last point of the file name, unless the name starts with it. -/
def extension? (path : String) : Option String :=
  match fileName path with
  | none => none
  | some name =>
      let ending := (name.reverse.takeWhile (· != '.')).reverse
      match (name.reverse.dropWhile (· != '.')).reverse with
      | [] => none
      | ['.'] => none
      | _ => some (String.ofList ending)

end BootTheme.Path
