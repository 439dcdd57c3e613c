import BootTheme.Disk.Place
import BootTheme.Picture.Font
import BootTheme.Picture.Image
import BootTheme.Text.Measure

/-!
# Files

What is known of a disk: files by place, and directories. A directory is there
when something lies in it, even if it was listed nowhere. What is written stands
in front of what was there before, so the disk at the start can be told from the
disk at the end.
-/

namespace BootTheme

/-- What a file holds. -/
inductive FileContent where
  | image (image : Image)
  | text (text : String)
  /-- A font, and the bytes that it was read from. -/
  | font (font : Font Float32) (bytes : List UInt8)
  | bytes (bytes : List UInt8)
deriving Repr

/-- Why a file cannot be used. -/
inductive FileError where
  | notFound
  | notDirectory
  | isDirectory
  | nameTooLong
  /-- A path cannot hold the character of number zero. -/
  | nulInPath
  | notText
deriving DecidableEq, Repr

/-- Files and directories. -/
structure Disk where
  files : List (Place × FileContent) := []
  directories : List Place := []
  /-- What was written, latest first. -/
  written : List (Place × FileContent) := []
deriving Repr

/-- What is said about a file that cannot be used. -/
def FileError.message : FileError → String
  | notFound => "No such file or directory (os error 2)"
  | notDirectory => "Not a directory (os error 20)"
  | isDirectory => "Is a directory (os error 21)"
  | nameTooLong => "File name too long (os error 36)"
  | nulInPath => "file name contained an unexpected NUL byte"
  | notText => "stream did not contain valid UTF-8"

namespace Disk

/-- No files. -/
def empty : Disk := {}

/-- The disk with a file. The directories around it are there with it. -/
def add (disk : Disk) (path : String) (content : FileContent) : Disk :=
  { disk with files := (Place.ofPath path, content) :: disk.files }

/-- The disk with a directory. -/
def addDirectory (disk : Disk) (path : String) : Disk :=
  { disk with directories := Place.ofPath path :: disk.directories }

/-- All files; the first one of a place counts. -/
def contents (disk : Disk) : List (Place × FileContent) := disk.written ++ disk.files

/-- What a place is: a file, a directory, or nothing. -/
inductive Entry where
  | file
  | directory
deriving DecidableEq, Repr

/-- What a place is. -/
def entry? (disk : Disk) (place : Place) : Option Entry :=
  if place.parts.isEmpty then some .directory
  else if disk.contents.any fun (file, _) => decide (file = place) then some .file
  else if disk.directories.any place.holds || disk.contents.any fun (file, _) => place.holds file
  then some .directory
  else none

/-- The most bytes that a name may have. -/
def longestName : Nat := 255

/-- The most bytes that a path may have. -/
def longestPath : Nat := 4095

/-- What is wrong with a path, whatever is on the disk. -/
def pathFault (path : String) : Option FileError :=
  if path.toList.contains '\x00' then some .nulInPath
  else if path.isEmpty then some .notFound
  else if longestPath < byteCount path.toList then some .nameTooLong
  else none

/-- Follows parts of a path from a place. What a part is looked up in must be a directory. -/
def follow (disk : Disk) (place : Place) : List (List Char) → Except FileError Place
  | [] => .ok place
  | part :: rest =>
      match disk.entry? place with
      | none => .error .notFound
      | some .file => .error .notDirectory
      | some .directory =>
          if longestName < byteCount part then .error .nameTooLong
          else disk.follow (place.enter part) rest

/-- The place that parts of a path lead to. -/
def locateParts (disk : Disk) (path : String) (parts : List (List Char)) :
    Except FileError Place :=
  match pathFault path with
  | some fault => .error fault
  | none => disk.follow (Place.start path) parts

/-- The place that a path leads to. Something need not be there. -/
def locate (disk : Disk) (path : String) : Except FileError Place :=
  disk.locateParts path (Path.segments path)

/-- The file that a path names. -/
def read (disk : Disk) (path : String) : Except FileError FileContent := do
  let place ← disk.locate path
  match disk.contents.lookup place, disk.entry? place with
  | some content, _ => return content
  | none, some .directory => throw .isDirectory
  | none, _ => throw .notFound

/-- The text of a file. An image is none, whatever its bytes are. -/
def readText (disk : Disk) (path : String) : Except FileError String := do
  let ofBytes (bytes : List UInt8) : Except FileError String :=
    match String.fromUTF8? ⟨bytes.toArray⟩ with
    | some text => .ok text
    | none => .error .notText
  match ← disk.read path with
  | .text text => return text
  | .bytes bytes => ofBytes bytes
  | .font _ bytes => ofBytes bytes
  | .image _ => throw .notText

/-- The place of a file to be written. A path that ends in a slash asks for a directory, which
cannot be written, once all but its last name is known to be one. -/
def locateNew (disk : Disk) (path : String) : Except FileError Place :=
  if Path.endsInSlash path then do
    let _ ← disk.locateParts path (Path.leading path ++ [[]])
    throw .isDirectory
  else disk.locate path

/-- The disk with a file written, in a directory that is there. -/
def write (disk : Disk) (path : String) (content : FileContent) : Except FileError Disk := do
  let place ← disk.locateNew path
  match disk.entry? place, disk.entry? place.outer with
  | some .directory, _ => throw .isDirectory
  | some .file, _ | none, some .directory =>
      return { disk with written := (place, content) :: disk.written }
  | none, some .file => throw .notDirectory
  | none, none => throw .notFound

/-- The disk without a file. The directory that held it stays. -/
def remove (disk : Disk) (path : String) : Disk :=
  match disk.locate path with
  | .error _ => disk
  | .ok place =>
      let others := List.filter fun (file, _) => !decide (file = place)
      { files := others disk.files
        directories := place.outer :: disk.directories
        written := others disk.written }

/-- The image of a file. Only files whose name ends in the format's extension are read. -/
def readImage (disk : Disk) (path : String) : Option Image :=
  match (Path.extension? path).map lowerAscii with
  | some "png" | some "apng" =>
      match disk.read path with
      | .ok (.image image) => some image
      | _ => none
  | _ => none

end Disk

end BootTheme
