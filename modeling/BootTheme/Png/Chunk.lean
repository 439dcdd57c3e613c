import BootTheme.Png.Checksum

/-!
# Chunks of a PNG file

A PNG file is a signature and a sequence of chunks. A chunk has a kind of four
bytes, its bytes, and a check of both; numbers stand with their highest byte
first.
-/

namespace BootTheme

/-- A part of a PNG file. -/
structure Chunk where
  kind : ByteArray
  bytes : ByteArray

namespace Chunk

/-- What a PNG file starts with. -/
def signature : ByteArray := ⟨#[137, 80, 78, 71, 13, 10, 26, 10]⟩

/-- The name of a kind, which is of four letters. -/
def kindOf (name : String) : ByteArray := name.toUTF8

/-- A number in four bytes. -/
def wordBytes (value : Nat) : ByteArray :=
  ⟨#[UInt8.ofNat (value >>> 24), UInt8.ofNat (value >>> 16), UInt8.ofNat (value >>> 8),
    UInt8.ofNat value]⟩

/-- The byte of a place, zero behind the end. -/
def byteAt (bytes : ByteArray) (place : Nat) : UInt8 := bytes[place]?.getD 0

/-- The number of the four bytes from a place on. -/
def wordAt (bytes : ByteArray) (place : Nat) : Nat :=
  ((byteAt bytes place).toNat <<< 24) + ((byteAt bytes (place + 1)).toNat <<< 16)
    + ((byteAt bytes (place + 2)).toNat <<< 8) + (byteAt bytes (place + 3)).toNat

/-- The bytes of a chunk in a file. -/
def encode (chunk : Chunk) : ByteArray :=
  let guarded := chunk.kind ++ chunk.bytes
  wordBytes chunk.bytes.size ++ guarded ++ wordBytes (Checksum.cyclic guarded).toNat

/-- The chunk at a place, and the place behind it. -/
def readAt (file : ByteArray) (place : Nat) : Option (Chunk × Nat) :=
  let size := wordAt file place
  let stop := place + 8 + size
  if file.size < stop + 4 then none
  else
    let guarded := file.extract (place + 4) stop
    if (Checksum.cyclic guarded).toNat = wordAt file stop then
      some (⟨guarded.extract 0 4, guarded.extract 4 guarded.size⟩, stop + 4)
    else none

/-- The chunks from a place on, up to the end of the file or the first broken one. -/
def readFrom (file : ByteArray) : Nat → Nat → List Chunk
  | 0, _ => []
  | fuel + 1, place =>
      match readAt file place with
      | none => []
      | some (chunk, next) => chunk :: readFrom file fuel next

/-- The chunks of a file. -/
def readAll (file : ByteArray) : Option (List Chunk) :=
  if file.extract 0 signature.size == signature then
    some (readFrom file file.size signature.size)
  else none

/-- The bytes of the first chunk of a kind. -/
def find? (chunks : List Chunk) (name : String) : Option ByteArray :=
  (chunks.find? fun chunk => chunk.kind == kindOf name).map Chunk.bytes

/-- The bytes of all chunks of a kind, one after the other. -/
def joined (chunks : List Chunk) (name : String) : ByteArray :=
  (chunks.filter fun chunk => chunk.kind == kindOf name).foldl
    (fun all chunk => all ++ chunk.bytes) ByteArray.empty

end Chunk

end BootTheme
