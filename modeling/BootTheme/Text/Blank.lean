/-!
# White space and control characters

The characters with the white space property of Unicode, trimming and words.
-/

namespace BootTheme

/-- Ranges of the white space property. -/
def blankRanges : List (Nat × Nat) :=
  [(0x9, 0xd), (0x20, 0x20), (0x85, 0x85), (0xa0, 0xa0), (0x1680, 0x1680), (0x2000, 0x200a),
    (0x2028, 0x2029), (0x202f, 0x202f), (0x205f, 0x205f), (0x3000, 0x3000)]

/-- Whether a code point lies in one of the ranges. -/
def inRanges (ranges : List (Nat × Nat)) (code : Nat) : Bool :=
  ranges.any fun (low, high) => decide (low ≤ code) && decide (code ≤ high)

/-- White space. -/
def isBlank (char : Char) : Bool := inRanges blankRanges char.toNat

/-- Control characters: the two ranges of the ASCII and Latin-1 blocks. -/
def isControl (char : Char) : Bool :=
  char.toNat < 0x20 || (decide (0x7f ≤ char.toNat) && decide (char.toNat ≤ 0x9f))

/-- A text without the white space at its end. -/
def trimEnd (text : List Char) : List Char := (text.reverse.dropWhile isBlank).reverse

/-- A text without the white space at both ends. -/
def trim (text : List Char) : List Char := trimEnd (text.dropWhile isBlank)

/-- The last word of a text, empty if it has none. -/
def lastWord (text : List Char) : List Char :=
  ((text.reverse.dropWhile isBlank).takeWhile fun char => !isBlank char).reverse

/-- The ASCII letters of a text in lower case. -/
def lowerAscii (text : String) : String := text.map Char.toLower

end BootTheme
