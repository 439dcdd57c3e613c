/-!
# Text of any bytes

Bytes that are no text are shown as text all the same. What begins a character
and is not completed becomes one replacement character, and so does every byte
that cannot begin one. Characters are written in the shortest form and are no
surrogates, so some bytes narrow the bounds of the next one.
-/

namespace BootTheme.Utf8

/-- A character that is not complete: the bounds of the next byte, how many bytes come after
it, and the bits so far. -/
structure Partial where
  least : Nat
  greatest : Nat
  after : Nat
  bits : Nat
deriving DecidableEq, Repr

/-- What a byte between characters begins. -/
inductive Lead where
  | whole (char : Char)
  | first (begun : Partial)
  | stray
deriving DecidableEq, Repr

/-- What a byte between characters begins. -/
def lead (byte : Nat) : Lead :=
  if byte < 0x80 then .whole (Char.ofNat byte)
  else if byte < 0xc2 then .stray
  else if byte < 0xe0 then .first ⟨0x80, 0xbf, 0, byte - 0xc0⟩
  else if byte < 0xf0 then
    .first ⟨if byte = 0xe0 then 0xa0 else 0x80, if byte = 0xed then 0x9f else 0xbf, 1, byte - 0xe0⟩
  else if byte < 0xf5 then
    .first ⟨if byte = 0xf0 then 0x90 else 0x80, if byte = 0xf4 then 0x8f else 0xbf, 2, byte - 0xf0⟩
  else .stray

/-- What stands for bytes that are no character. -/
def replacement : Char := '\ufffd'

/-- The characters that are complete with a byte between characters, and what it begins. -/
def start (byte : Nat) : List Char × Option Partial :=
  match lead byte with
  | .whole char => ([char], none)
  | .first begun => ([], some begun)
  | .stray => ([replacement], none)

/-- The characters that are complete with one more byte, and what is begun then. -/
def step (begun : Option Partial) (byte : Nat) : List Char × Option Partial :=
  match begun with
  | none => start byte
  | some begun =>
      if begun.least ≤ byte ∧ byte ≤ begun.greatest then
        let bits := 0x40 * begun.bits + (byte - 0x80)
        match begun.after with
        | 0 => ([Char.ofNat bits], none)
        | after + 1 => ([], some ⟨0x80, 0xbf, after, bits⟩)
      else
        let (chars, begun) := start byte
        (replacement :: chars, begun)

/-- The text of bytes, with replacement characters for what is none. -/
def shown (bytes : List UInt8) : String :=
  let (text, begun) := bytes.foldl (fun (text, begun) byte =>
    let (chars, begun) := step begun byte.toNat
    (chars.foldl String.push text, begun)) ("", none)
  if begun.isSome then text.push replacement else text

end BootTheme.Utf8
