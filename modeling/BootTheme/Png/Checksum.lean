/-!
# Checksums

A PNG file guards every chunk by a cyclic redundancy check, and its compressed
pixels by two sums. The polynomial of the check is the usual one of 32 bits, read
from its lowest bit; the sums are taken modulo the greatest prime below `2 ^ 16`.
-/

namespace BootTheme.Checksum

/-- The polynomial of the check, without its leading bit. -/
def polynomial : UInt32 := 0xedb88320

/-- The check after so many more bits, lowest first. -/
def shift : Nat → UInt32 → UInt32
  | 0, check => check
  | count + 1, check =>
      shift count (if check % 2 = 1 then (check >>> 1) ^^^ polynomial else check >>> 1)

/-- The check after one more byte. -/
def addByte (check : UInt32) (byte : UInt8) : UInt32 := shift 8 (check ^^^ byte.toUInt32)

/-- The cyclic redundancy check of bytes. -/
def cyclic (bytes : ByteArray) : UInt32 := bytes.foldl addByte 0xffffffff ^^^ 0xffffffff

/-- The modulus of the two sums. -/
def modulus : Nat := 65521

/-- The sum of the bytes, and the sum of all such sums on the way. -/
def sums (bytes : ByteArray) : Nat × Nat :=
  bytes.foldl (fun (low, high) byte =>
    let next := (low + byte.toNat) % modulus
    (next, (high + next) % modulus)) (1, 0)

/-- Both sums in one number. -/
def doubleSum (bytes : ByteArray) : Nat :=
  let (low, high) := sums bytes
  (high <<< 16) + low

end BootTheme.Checksum
