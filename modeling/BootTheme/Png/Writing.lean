import BootTheme.Picture.Image
import BootTheme.Png.Chunk

/-!
# Writing PNG files

An image is written with four bytes for every pixel, unfiltered and stored
without compression.
-/

namespace BootTheme.Png

/-- The greatest size of a stored block. -/
def blockSize : Nat := 65535

/-- A number in two bytes, the lowest first. -/
def shortBytes (value : Nat) : ByteArray :=
  ⟨#[UInt8.ofNat value, UInt8.ofNat (value >>> 8)]⟩

/-- A stored block. -/
def storedBlock (last : Bool) (bytes : ByteArray) : ByteArray :=
  ByteArray.mk #[if last then 1 else 0] ++ shortBytes bytes.size
    ++ shortBytes (blockSize - bytes.size) ++ bytes

/-- The bytes from a place on in stored blocks, added to others. -/
def storedFrom (bytes : ByteArray) : Nat → Nat → ByteArray → ByteArray
  | 0, _, out => out
  | fuel + 1, place, out =>
      let stop := min (place + blockSize) bytes.size
      let last := decide (stop = bytes.size)
      let out := out ++ storedBlock last (bytes.extract place stop)
      if last then out else storedFrom bytes fuel stop out

/-- A stream that holds the bytes as they are. -/
def storedStream (bytes : ByteArray) : ByteArray :=
  storedFrom bytes (bytes.size / blockSize + 1) 0 ⟨#[0x78, 0x01]⟩
    ++ Chunk.wordBytes (Checksum.doubleSum bytes)

/-- The bytes of so many pixels of a row, added to others. -/
def rowBytes (image : Image) (y : Nat) : Nat → Nat → ByteArray → ByteArray
  | 0, _, out => out
  | count + 1, x, out =>
      let pixel := image.pixel x y
      rowBytes image y count (x + 1)
        ((((out.push pixel.red).push pixel.green).push pixel.blue).push pixel.alpha)

/-- The bytes of so many rows, each behind the number of its filter, added to others. -/
def rowsBytes (image : Image) : Nat → Nat → ByteArray → ByteArray
  | 0, _, out => out
  | count + 1, y, out => rowsBytes image count (y + 1) (rowBytes image y image.width 0 (out.push 0))

/-- Size, eight bits for each of four channels, and no variations. -/
def header (image : Image) : ByteArray :=
  Chunk.wordBytes image.width ++ Chunk.wordBytes image.height ++ ⟨#[8, 6, 0, 0, 0]⟩

/-- The file of an image. -/
def encode (image : Image) : ByteArray :=
  let pixels := rowsBytes image image.height 0 ByteArray.empty
  let chunks : List Chunk :=
    [⟨Chunk.kindOf "IHDR", header image⟩, ⟨Chunk.kindOf "IDAT", storedStream pixels⟩,
      ⟨Chunk.kindOf "IEND", ByteArray.empty⟩]
  chunks.foldl (fun out chunk => out ++ chunk.encode) Chunk.signature

end BootTheme.Png
