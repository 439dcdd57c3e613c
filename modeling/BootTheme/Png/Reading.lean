import BootTheme.Picture.Image
import BootTheme.Png.Chunk
import BootTheme.Png.Inflate

/-!
# Reading PNG files

The samples of the pixels stand row by row, in one pass or in seven that grow
finer. Every row names a filter, which predicts a byte from those left of it and
above it; the file holds what is to be added. A sample has one to sixteen bits and
is brought to eight.
-/

namespace BootTheme.Png

/-- What the samples of a pixel mean. -/
inductive Coloring where
  | gray
  | rgb
  | palette
  | grayAlpha
  | rgba
deriving DecidableEq, Repr

namespace Coloring

/-- What a pixel consists of, by the number in the header. -/
def ofByte? : Nat → Option Coloring
  | 0 => some gray
  | 2 => some rgb
  | 3 => some palette
  | 4 => some grayAlpha
  | 6 => some rgba
  | _ => none

/-- The samples of a pixel. -/
def samples : Coloring → Nat
  | gray => 1
  | rgb => 3
  | palette => 1
  | grayAlpha => 2
  | rgba => 4

/-- The sizes that a sample can have. -/
def depths : Coloring → List Nat
  | gray => [1, 2, 4, 8, 16]
  | palette => [1, 2, 4, 8]
  | rgb | grayAlpha | rgba => [8, 16]

end Coloring

/-- What the first chunk says. -/
structure Header where
  width : Nat
  height : Nat
  /-- The bits of a sample. -/
  depth : Nat
  coloring : Coloring
  interlaced : Bool
deriving Repr

namespace Header

/-- The header in the bytes of the first chunk. -/
def ofBytes? (bytes : ByteArray) : Option Header := do
  let coloring ← Coloring.ofByte? (Chunk.byteAt bytes 9).toNat
  let depth := (Chunk.byteAt bytes 8).toNat
  let width := Chunk.wordAt bytes 0
  let height := Chunk.wordAt bytes 4
  let interlaced := (Chunk.byteAt bytes 12).toNat
  if bytes.size = 13 ∧ depth ∈ coloring.depths ∧ 0 < width ∧ 0 < height
      ∧ Chunk.byteAt bytes 10 = 0 ∧ Chunk.byteAt bytes 11 = 0 ∧ interlaced < 2 then
    return ⟨width, height, depth, coloring, interlaced == 1⟩
  else none

/-- The bits of a pixel. -/
def pixelBits (header : Header) : Nat := header.depth * header.coloring.samples

end Header

/-- A pass holds every pixel whose column and row leave the given rests. -/
structure Pass where
  left : Nat
  top : Nat
  columnStep : Nat
  rowStep : Nat
deriving Repr

namespace Pass

/-- All pixels at once. -/
def whole : Pass := ⟨0, 0, 1, 1⟩

/-- Seven passes that grow finer. -/
def interlaced : List Pass :=
  [⟨0, 0, 8, 8⟩, ⟨4, 0, 8, 8⟩, ⟨0, 4, 4, 8⟩, ⟨2, 0, 4, 4⟩, ⟨0, 2, 2, 4⟩, ⟨1, 0, 2, 2⟩,
    ⟨0, 1, 1, 2⟩]

/-- How many places from a start on, in steps, lie below a limit. -/
def places (limit start step : Nat) : Nat := (limit + step - 1 - start) / step

/-- The pixels in a row of a pass. -/
def columns (pass : Pass) (header : Header) : Nat := places header.width pass.left pass.columnStep

/-- The rows of a pass. -/
def rows (pass : Pass) (header : Header) : Nat :=
  if pass.columns header = 0 then 0 else places header.height pass.top pass.rowStep

/-- The bytes of a row. -/
def rowSize (pass : Pass) (header : Header) : Nat :=
  (pass.columns header * header.pixelBits + 7) / 8

/-- Whether a pixel is in the pass. -/
def has (pass : Pass) (x y : Nat) : Bool :=
  x % pass.columnStep == pass.left && y % pass.rowStep == pass.top

end Pass

/-- The one of three neighbours that is nearest to their plane; of two, the earlier. -/
def nearestNeighbour (left above corner : Nat) : Nat :=
  let plane : Int := (left : Int) + above - corner
  let off (value : Nat) : Nat := (plane - value).natAbs
  if off left ≤ off above ∧ off left ≤ off corner then left
  else if off above ≤ off corner then above
  else corner

/-- The prediction of a filter. -/
def predict : Nat → Nat → Nat → Nat → Nat
  | 1, left, _, _ => left
  | 2, _, above, _ => above
  | 3, left, above, _ => (left + above) / 2
  | 4, left, above, corner => nearestNeighbour left above corner
  | _, _, _, _ => 0

/-- The rest of a row of a pass from a column on, added to the bytes in front of it. A byte left of
the row is zero, and so is one above the first row. -/
def unfilterRow (data : ByteArray) (start filter step size row : Nat) :
    Nat → Nat → ByteArray → ByteArray
  | 0, _, out => out
  | count + 1, column, out =>
      let before (back : Nat) : Nat := (Chunk.byteAt out (out.size - back)).toNat
      let left := if step ≤ column then before step else 0
      let above := if row = 0 then 0 else before size
      let corner := if row = 0 ∨ column < step then 0 else before (size + step)
      let byte := (Chunk.byteAt data (start + column)).toNat + predict filter left above corner
      unfilterRow data start filter step size row count (column + 1) (out.push (UInt8.ofNat byte))

/-- So many rows of a pass, and the place behind them. -/
def unfilterRows (data : ByteArray) (step size : Nat) :
    Nat → Nat → Nat → ByteArray → Option (ByteArray × Nat)
  | 0, _, place, out => some (out, place)
  | count + 1, row, place, out =>
      let filter := (Chunk.byteAt data place).toNat
      if data.size < place + 1 + size ∨ 4 < filter then none
      else
        unfilterRows data step size count (row + 1) (place + 1 + size)
          (unfilterRow data (place + 1) filter step size row size 0 out)

/-- The bytes of every pass from a place on. -/
def unfilterPasses (header : Header) (data : ByteArray) :
    Nat → List Pass → Option (List (Pass × ByteArray))
  | _, [] => some []
  | place, pass :: rest => do
      let step := max 1 (header.pixelBits / 8)
      let (bytes, place) ← unfilterRows data step (pass.rowSize header) (pass.rows header) 0 place
        ByteArray.empty
      let others ← unfilterPasses header data place rest
      return (pass, bytes) :: others

/-- A sample of so many bits. The highest bits of a byte come first. -/
def sampleAt (bytes : ByteArray) (depth row : Nat) (index : Nat) : Nat :=
  if depth = 16 then
    ((Chunk.byteAt bytes (row + 2 * index)).toNat <<< 8)
      + (Chunk.byteAt bytes (row + 2 * index + 1)).toNat
  else
    let bit := depth * index
    ((Chunk.byteAt bytes (row + bit / 8)).toNat >>> (8 - depth - bit % 8)) % (1 <<< depth)

/-- A sample brought to eight bits. -/
def toByte (depth sample : Nat) : UInt8 :=
  if depth = 16 then UInt8.ofNat ((sample + 128) / 257)
  else UInt8.ofNat (sample * 255 / ((1 <<< depth) - 1))

/-- The colors of a palette, and what is transparent. -/
structure Extras where
  palette : ByteArray
  transparency : Option ByteArray

/-- The opacity of samples that have none of their own: samples may be named as the clear ones. -/
def opacity (extras : Extras) (samples : List Nat) : UInt8 :=
  match extras.transparency with
  | none => 255
  | some bytes =>
      let named := (List.range samples.length).map fun index =>
        ((Chunk.byteAt bytes (2 * index)).toNat <<< 8)
          + (Chunk.byteAt bytes (2 * index + 1)).toNat
      if bytes.size = 2 * samples.length ∧ named = samples then 0 else 255

/-- The color of an index; a color without an entry of its own is black, and opaque. -/
def paletteColor (extras : Extras) (index : Nat) : Pixel :=
  let channel (place : Nat) := Chunk.byteAt extras.palette (3 * index + place)
  ⟨channel 0, channel 1, channel 2, (extras.transparency.bind fun bytes => bytes[index]?).getD 255⟩

/-- The pixel of samples. -/
def pixelOf (coloring : Coloring) (depth : Nat) (extras : Extras) (samples : List Nat) : Pixel :=
  let byte := toByte depth
  match coloring, samples with
  | .gray, [value] => ⟨byte value, byte value, byte value, opacity extras samples⟩
  | .rgb, [red, green, blue] => ⟨byte red, byte green, byte blue, opacity extras samples⟩
  | .palette, [index] => paletteColor extras index
  | .grayAlpha, [value, alpha] => ⟨byte value, byte value, byte value, byte alpha⟩
  | .rgba, [red, green, blue, alpha] => ⟨byte red, byte green, byte blue, byte alpha⟩
  | _, _ => .clear

/-- The pixel in a column and a row. -/
def pixelAt (header : Header) (extras : Extras) (passes : List (Pass × ByteArray)) (x y : Nat) :
    Pixel :=
  match passes.find? fun (pass, _) => pass.has x y with
  | none => .clear
  | some (pass, bytes) =>
      let row := y / pass.rowStep * pass.rowSize header
      let first := x / pass.columnStep * header.coloring.samples
      let samples := (List.range header.coloring.samples).map fun index =>
        sampleAt bytes header.depth row (first + index)
      pixelOf header.coloring header.depth extras samples

/-- The image in a file. -/
def decode (file : ByteArray) : Option Image := do
  let chunks ← Chunk.readAll file
  let header ← Header.ofBytes? (← Chunk.find? chunks "IHDR")
  let packed := Chunk.joined chunks "IDAT"
  let data ← inflate (packed.extract 2 packed.size)
  let extras : Extras :=
    ⟨(Chunk.find? chunks "PLTE").getD ByteArray.empty, Chunk.find? chunks "tRNS"⟩
  if header.coloring = .palette ∧ extras.palette.size = 0 then none
  else
    let passes ← unfilterPasses header data 0
      (if header.interlaced then Pass.interlaced else [Pass.whole])
    return .ofFn header.width header.height (pixelAt header extras passes)

end BootTheme.Png
