/-!
# Unpacking compressed bytes

A compressed stream is a sequence of bits, the lowest bit of a byte first, and
consists of blocks. A block is stored as it is, or written in two codes of
variable length: one for bytes and lengths of copies, one for distances of
copies. A code is given by the lengths of its words alone: shorter words come
first, and words of one length are numbered by their symbols.
-/

namespace BootTheme

/-- Bytes that are read bit by bit. -/
structure BitSource where
  bytes : ByteArray
  /-- The number of bits that were read. -/
  place : Nat

namespace BitSource

/-- The next bit. -/
def bit (source : BitSource) : Option (Nat × BitSource) :=
  if h : source.place / 8 < source.bytes.size then
    some ((source.bytes[source.place / 8].toNat >>> (source.place % 8)) % 2,
      { source with place := source.place + 1 })
  else none

/-- The number of the next bits, the lowest first. -/
def number : Nat → BitSource → Option (Nat × BitSource)
  | 0, source => some (0, source)
  | count + 1, source => do
      let (low, source) ← source.bit
      let (high, source) ← number count source
      return (low + 2 * high, source)

/-- The source from the next whole byte on. -/
def align (source : BitSource) : BitSource := { source with place := (source.place + 7) / 8 * 8 }

/-- So many whole bytes added to others. -/
def copyBytes : Nat → BitSource → ByteArray → Option (BitSource × ByteArray)
  | 0, source, out => some (source, out)
  | count + 1, source, out =>
      if h : source.place / 8 < source.bytes.size then
        copyBytes count { source with place := source.place + 8 }
          (out.push source.bytes[source.place / 8])
      else none

end BitSource

/-- A code: how many words there are of each length from one on, and all symbols by word. -/
structure WordCode where
  counts : List Nat
  symbols : Array Nat

namespace WordCode

/-- The greatest length of a word. -/
def longest : Nat := 15

/-- The code with the given length of the word of each symbol; zero says that there is none. -/
def ofLengths (lengths : List Nat) : WordCode :=
  let sizes := (List.range longest).map (· + 1)
  let withSize (size : Nat) :=
    (lengths.zipIdx.filter fun (length, _) => length == size).map Prod.snd
  { counts := sizes.map fun size => (withSize size).length
    symbols := (sizes.flatMap withSize).toArray }

/-- The symbol of the next word. Of the words that start with the bits read so far, `first` is
the least and `index` counts the shorter ones. -/
def readFrom (symbols : Array Nat) :
    List Nat → Nat → Nat → Nat → BitSource → Option (Nat × BitSource)
  | [], _, _, _, _ => none
  | count :: counts, bits, first, index, source => do
      let (bit, source) ← source.bit
      let word := 2 * bits + bit
      if word < first + count then
        return (← symbols[index + (word - first)]?, source)
      else readFrom symbols counts word (2 * (first + count)) (index + count) source

/-- The symbol of the next word. -/
def read (code : WordCode) (source : BitSource) : Option (Nat × BitSource) :=
  readFrom code.symbols code.counts 0 0 0 source

end WordCode

namespace Inflate

/-- The least length of a copy for each symbol from 257 on, and the bits added to it. -/
def lengths : List (Nat × Nat) :=
  [(3, 0), (4, 0), (5, 0), (6, 0), (7, 0), (8, 0), (9, 0), (10, 0), (11, 1), (13, 1), (15, 1),
    (17, 1), (19, 2), (23, 2), (27, 2), (31, 2), (35, 3), (43, 3), (51, 3), (59, 3), (67, 4),
    (83, 4), (99, 4), (115, 4), (131, 5), (163, 5), (195, 5), (227, 5), (258, 0)]

/-- The least distance of a copy for each symbol, and the bits added to it. -/
def distances : List (Nat × Nat) :=
  [(1, 0), (2, 0), (3, 0), (4, 0), (5, 1), (7, 1), (9, 2), (13, 2), (17, 3), (25, 3), (33, 4),
    (49, 4), (65, 5), (97, 5), (129, 6), (193, 6), (257, 7), (385, 7), (513, 8), (769, 8),
    (1025, 9), (1537, 9), (2049, 10), (3073, 10), (4097, 11), (6145, 11), (8193, 12),
    (12289, 12), (16385, 13), (24577, 13)]

/-- A number from a table, with the bits added to it. -/
def extended (table : List (Nat × Nat)) (symbol : Nat) (source : BitSource) :
    Option (Nat × BitSource) := do
  let (least, bits) ← table[symbol]?
  let (more, source) ← source.number bits
  return (least + more, source)

/-- Bytes with a part of them repeated at the end, byte by byte, so that a copy may reach into
itself. -/
def repeatBytes (distance : Nat) : Nat → ByteArray → ByteArray
  | 0, out => out
  | count + 1, out => repeatBytes distance count (out.push (out[out.size - distance]?.getD 0))

/-- A copy of earlier bytes. -/
def copy (distanceCode : WordCode) (symbol : Nat) (source : BitSource) (out : ByteArray) :
    Option (BitSource × ByteArray) := do
  let (length, source) ← extended lengths (symbol - 257) source
  let (symbol, source) ← distanceCode.read source
  let (distance, source) ← extended distances symbol source
  if out.size < distance then none else return (source, repeatBytes distance length out)

/-- The rest of a block in two codes. Every symbol takes a bit at least. -/
def coded (literal distance : WordCode) : Nat → BitSource → ByteArray →
    Option (BitSource × ByteArray)
  | 0, _, _ => none
  | fuel + 1, source, out =>
      match literal.read source with
      | none => none
      | some (symbol, source) =>
          if symbol < 256 then coded literal distance fuel source (out.push (UInt8.ofNat symbol))
          else if symbol = 256 then some (source, out)
          else
            match copy distance symbol source out with
            | none => none
            | some (source, out) => coded literal distance fuel source out

/-- The lengths of the words of the fixed code for bytes and lengths. -/
def fixedLiteral : WordCode :=
  .ofLengths (List.replicate 144 8 ++ List.replicate 112 9 ++ List.replicate 24 7
    ++ List.replicate 8 8)

/-- The code of distances in a block without codes of its own. -/
def fixedDistance : WordCode := .ofLengths (List.replicate 30 5)

/-- The order in which the lengths of the words for lengths are given. -/
def lengthOrder : List Nat := [16, 17, 18, 0, 8, 7, 9, 6, 10, 5, 11, 4, 12, 3, 13, 2, 14, 1, 15]

/-- So many numbers of three bits. -/
def triples : Nat → BitSource → Option (List Nat × BitSource)
  | 0, source => some ([], source)
  | count + 1, source => do
      let (first, source) ← source.number 3
      let (rest, source) ← triples count source
      return (first :: rest, source)

/-- The lengths of words, latest first. A length may stand for several equal ones. -/
def wordLengths (code : WordCode) (count : Nat) : Nat → List Nat → BitSource →
    Option (List Nat × BitSource)
  | 0, _, _ => none
  | fuel + 1, found, source => do
      if count ≤ found.length then return (found, source)
      else
        let (symbol, source) ← code.read source
        match symbol with
        | 16 =>
            let last ← found.head?
            let (more, source) ← source.number 2
            wordLengths code count fuel (List.replicate (3 + more) last ++ found) source
        | 17 =>
            let (more, source) ← source.number 3
            wordLengths code count fuel (List.replicate (3 + more) 0 ++ found) source
        | 18 =>
            let (more, source) ← source.number 7
            wordLengths code count fuel (List.replicate (11 + more) 0 ++ found) source
        | length => wordLengths code count fuel (length :: found) source

/-- The two codes of a block that brings its own. -/
def ownCodes (source : BitSource) : Option (WordCode × WordCode × BitSource) := do
  let (literals, source) ← source.number 5
  let (distances, source) ← source.number 5
  let (given, source) ← source.number 4
  let (sizes, source) ← triples (given + 4) source
  let sizeOf (symbol : Nat) := ((lengthOrder.zip sizes).lookup symbol).getD 0
  let code := WordCode.ofLengths ((List.range 19).map sizeOf)
  let count := literals + 257 + (distances + 1)
  let (found, source) ← wordLengths code count (count + 1) [] source
  if found.length = count then
    let all := found.reverse
    return (.ofLengths (all.take (literals + 257)), .ofLengths (all.drop (literals + 257)), source)
  else none

/-- A block that is stored as it is. -/
def stored (source : BitSource) (out : ByteArray) : Option (BitSource × ByteArray) := do
  let (size, source) ← source.align.number 16
  let (complement, source) ← source.number 16
  if size + complement = 65535 then source.copyBytes size out else none

/-- The blocks of a stream. -/
def blocks : Nat → BitSource → ByteArray → Option ByteArray
  | 0, _, _ => none
  | fuel + 1, source, out => do
      let (last, source) ← source.bit
      let (kind, source) ← source.number 2
      let size := 8 * source.bytes.size
      let (source, out) ← match kind with
        | 0 => stored source out
        | 1 => coded fixedLiteral fixedDistance size source out
        | 2 => do
            let (literal, distance, source) ← ownCodes source
            coded literal distance size source out
        | _ => none
      if last = 1 then return out else blocks fuel source out

end Inflate

/-- The bytes of a compressed stream. -/
def inflate (bytes : ByteArray) : Option ByteArray :=
  Inflate.blocks (8 * bytes.size) ⟨bytes, 0⟩ ByteArray.empty

end BootTheme
