import BootTheme.Disk.Basic
import BootTheme.Png.Reading
import BootTheme.Png.Writing

/-!
# Files as bytes

What a file holds is told from its bytes: an image, else a text, else only bytes.
-/

namespace BootTheme.FileContent

/-- What the bytes of a file are. -/
def ofBytes (bytes : ByteArray) : FileContent :=
  match Png.decode bytes, String.fromUTF8? bytes with
  | some picture, _ => .image picture
  | none, some written => .text written
  | none, none => .bytes bytes.toList

/-- The bytes of a file. -/
def toBytes : FileContent → ByteArray
  | .image picture => Png.encode picture
  | .text written => written.toUTF8
  | .bytes raw => ⟨raw.toArray⟩
  | .font _ raw => ⟨raw.toArray⟩

end BootTheme.FileContent
