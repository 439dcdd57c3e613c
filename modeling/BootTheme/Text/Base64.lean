/-!
# Bytes as text

Three bytes are written as four characters of six bits each. One or two bytes at
the end are written as two or three characters, filled up with equals signs. What
is read back may lack the equals signs.
-/

namespace BootTheme.Base64

/-- The character of six bits. -/
def digit (value : Nat) : Char :=
  if value < 26 then Char.ofNat ('A'.toNat + value)
  else if value < 52 then Char.ofNat ('a'.toNat + (value - 26))
  else if value < 62 then Char.ofNat ('0'.toNat + (value - 52))
  else if value = 62 then '+'
  else '/'

/-- The character of the six bits of a number that stand so many places from its end. -/
def digitAt (number place : Nat) : Char := digit ((number >>> (6 * place)) % 64)

/-- A text with the characters of bytes at its end. -/
def addTo (out : String) : List UInt8 → String
  | [] => out
  | [a] =>
      let number := a.toNat <<< 16
      ((out.push (digitAt number 3)).push (digitAt number 2)) ++ "=="
  | [a, b] =>
      let number := (a.toNat <<< 16) + (b.toNat <<< 8)
      (((out.push (digitAt number 3)).push (digitAt number 2)).push (digitAt number 1)) ++ "="
  | a :: b :: c :: rest =>
      let number := (a.toNat <<< 16) + (b.toNat <<< 8) + c.toNat
      addTo ((((out.push (digitAt number 3)).push (digitAt number 2)).push
        (digitAt number 1)).push (digitAt number 0)) rest

/-- The text of bytes. -/
def encode (bytes : List UInt8) : String := addTo "" bytes

/-- The six bits of a character. -/
def value? (char : Char) : Option Nat :=
  if 'A' ≤ char ∧ char ≤ 'Z' then some (char.toNat - 'A'.toNat)
  else if 'a' ≤ char ∧ char ≤ 'z' then some (char.toNat - 'a'.toNat + 26)
  else if '0' ≤ char ∧ char ≤ '9' then some (char.toNat - '0'.toNat + 52)
  else if char = '+' then some 62
  else if char = '/' then some 63
  else none

/-- The byte that stands so many places of two bits from the end of a number. -/
def byteAt (number place : Nat) : UInt8 := UInt8.ofNat (number >>> (2 * place))

/-- Bytes with those of groups of six bits at their end. A single group holds no byte. -/
def takeFrom (out : Array UInt8) : List Nat → Option (Array UInt8)
  | [] => some out
  | [_] => none
  | [a, b] => some (out.push (byteAt ((a <<< 6) + b) 2))
  | [a, b, c] =>
      let number := (a <<< 12) + (b <<< 6) + c
      some ((out.push (byteAt number 5)).push (byteAt number 1))
  | a :: b :: c :: d :: rest =>
      let number := (a <<< 18) + (b <<< 12) + (c <<< 6) + d
      takeFrom (((out.push (byteAt number 8)).push (byteAt number 4)).push (byteAt number 0)) rest

/-- The bytes of a text, if it is one of bytes. -/
def decode? (text : String) : Option (Array UInt8) :=
  ((text.toList.takeWhile (· != '=')).mapM value?).bind (takeFrom #[])

end BootTheme.Base64
