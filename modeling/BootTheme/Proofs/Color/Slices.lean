import BootTheme.Proofs.Color.Spellings
import BootTheme.Text.Measure

/-!
# Digits cut out of a text by bytes

A component of a color can be cut out of its digits by bytes, as long as no slice ends inside a
character, and doubled in a byte, as long as the product fits. A reader that stops wherever that
fails never stops: it cuts and multiplies only after every character has proved to be a digit.
-/

namespace BootTheme

/-- A text parted after a number of bytes, if that is where a character ends. -/
def cut? : List Char → Nat → Option (List Char × List Char)
  | [], bytes => if bytes = 0 then some ([], []) else none
  | char :: rest, bytes =>
      if bytes = 0 then some ([], char :: rest)
      else if char.utf8Size ≤ bytes then
        (cut? rest (bytes - char.utf8Size)).map fun (before, after) => (char :: before, after)
      else none

theorem cut?_byteCount (before after : List Char) :
    cut? (before ++ after) (byteCount before) = some (before, after) := by
  induction before with
  | nil => cases after <;> rfl
  | cons char rest ih =>
      have positive := char.utf8Size_pos
      rw [byteCount_cons, List.cons_append, cut?, if_neg (by omega), if_pos (by omega),
        Nat.add_sub_cancel_left, ih, Option.map_some]

/-- The part of a text from one byte to another, if characters begin at both. -/
def slice? (text : List Char) (start stop : Nat) : Option (List Char) :=
  if start ≤ stop then
    (cut? text stop).bind fun (before, _) => (cut? before start).map Prod.snd
  else none

theorem slice?_byteCount (before piece after : List Char) :
    slice? (before ++ (piece ++ after)) (byteCount before) (byteCount before + byteCount piece) =
      some piece := by
  rw [slice?, if_pos (Nat.le_add_right _ _), ← byteCount_append, ← List.append_assoc,
    cut?_byteCount]
  dsimp only [Option.bind_some]
  rw [cut?_byteCount, Option.map_some]

namespace Color

/-- The number of at most 255 that hexadecimal digits stand for, with a plus sign or none. -/
def hexNumber? (text : List Char) : Option UInt8 :=
  if (unsigned text).isEmpty then none
  else
    ((unsigned text).mapM hexValue?).bind fun values =>
      let number := values.foldl (fun number value => 16 * number + value) 0
      if number ≤ 255 then some (UInt8.ofNat number) else none

/-- What stops a reader of bytes: a slice that ends inside a character or past the text, and a
product past a byte. -/
inductive Stop where
  | slice
  | product
deriving DecidableEq, Repr

/-- The number in a slice. -/
def component (digits : List Char) (start stop : Nat) : OptionT (Except Stop) UInt8 :=
  OptionT.mk <|
    match slice? digits start stop with
    | none => .error .slice
    | some piece => .ok (hexNumber? piece)

/-- The number of a digit that stands for two. -/
def doubled (value : UInt8) : OptionT (Except Stop) UInt8 :=
  OptionT.mk <|
    if 17 * value.toNat ≤ 255 then .ok (some (UInt8.ofNat (17 * value.toNat)))
    else .error .product

/-- The color of three digits. -/
def singles (digits : List Char) : OptionT (Except Stop) Color := do
  let red ← component digits 0 1 >>= doubled
  let green ← component digits 1 2 >>= doubled
  let blue ← component digits 2 3 >>= doubled
  return rgb red green blue

/-- The color of six digits. -/
def pairs (digits : List Char) : OptionT (Except Stop) Color := do
  let red ← component digits 0 2
  let green ← component digits 2 4
  let blue ← component digits 4 6
  return rgb red green blue

/-- The color of three or six digits. -/
def ofSlices? (digits : List Char) : OptionT (Except Stop) Color :=
  match byteCount digits with
  | 3 => singles digits
  | 6 => pairs digits
  | _ => failure

/-- The color of `#rgb` or `#rrggbb`, its components cut out by bytes. -/
def slicedHex? : List Char → OptionT (Except Stop) Color
  | '#' :: digits =>
      if digits.all fun char => (hexValue? char).isSome then ofSlices? digits else failure
  | _ => failure

theorem unsigned_of_digits {digits : List Char} {values : List Nat}
    (read : List.Forall₂ IsHexDigit digits values) : unsigned digits = digits := by
  unfold unsigned
  split
  · obtain _ | ⟨plus, _⟩ := read
    cases hexValue?_eq_some_iff.2 plus
  · rfl

theorem hexNumber?_of_digits {digits : List Char} {values : List Nat} {number : Nat}
    (read : List.Forall₂ IsHexDigit digits values) (some : digits ≠ [])
    (value : values.foldl (fun number value => 16 * number + value) 0 = number)
    (small : number ≤ 255) : hexNumber? digits = Option.some (UInt8.ofNat number) := by
  have many : digits.isEmpty = false := by simpa using some
  simp [hexNumber?, unsigned_of_digits read, many, mapM_hexValue?_eq_some_iff.2 read, value, small]

theorem utf8Size_of_digit {char : Char} {value : Nat} (digit : IsHexDigit char value) :
    char.utf8Size = 1 :=
  Char.utf8Size_eq_one_iff.2 (Nat.le_of_lt_succ
    (toNat_of_hexValue? (hexValue?_eq_some_iff.2 digit)))

theorem byteCount_of_digits {digits : List Char} {values : List Nat}
    (read : List.Forall₂ IsHexDigit digits values) : byteCount digits = digits.length := by
  induction read with
  | nil => rfl
  | cons digit _ ih =>
      rw [byteCount_cons, List.length_cons, ih, utf8Size_of_digit digit, Nat.add_comm]

/-- A slice of digits has their number. -/
theorem component_of_digits {before piece after : List Char} {first values : List Nat}
    {number : Nat} (start : List.Forall₂ IsHexDigit before first)
    (read : List.Forall₂ IsHexDigit piece values) (some : piece ≠ [])
    (value : values.foldl (fun number value => 16 * number + value) 0 = number)
    (small : number ≤ 255) :
    component (before ++ (piece ++ after)) before.length (before.length + piece.length) =
      pure (UInt8.ofNat number) := by
  rw [component, ← byteCount_of_digits start, ← byteCount_of_digits read, slice?_byteCount]
  dsimp only
  rw [hexNumber?_of_digits read some value small]
  rfl

theorem component_of_digit {before after : List Char} {first : List Nat} {char : Char}
    {value : Nat} (start : List.Forall₂ IsHexDigit before first) (digit : IsHexDigit char value) :
    component (before ++ char :: after) before.length (before.length + 1) =
      pure (UInt8.ofNat value) :=
  component_of_digits start (.cons digit .nil) (List.cons_ne_nil _ _) (by simp)
    (digit.1.le.trans (by decide))

theorem component_of_pair {before after : List Char} {first : List Nat} {high low : Char}
    {tens ones : Nat} (start : List.Forall₂ IsHexDigit before first)
    (left : IsHexDigit high tens) (right : IsHexDigit low ones) :
    component (before ++ high :: low :: after) before.length (before.length + 2) =
      pure (UInt8.ofNat (16 * tens + ones)) := by
  have bounds := And.intro left.1 right.1
  exact component_of_digits start (.cons left (.cons right .nil)) (List.cons_ne_nil _ _) (by simp)
    (by omega)

theorem doubled_of_digit {char : Char} {value : Nat} (digit : IsHexDigit char value) :
    doubled (UInt8.ofNat value) = pure (UInt8.ofNat (17 * value)) := by
  have small := digit.1
  have number : (UInt8.ofNat value).toNat = value :=
    UInt8.toNat_ofNat_of_lt' (small.trans (by decide))
  rw [doubled, number, if_pos (by omega)]
  rfl

theorem singles_of_digits {a b c : Char} {r g h : Nat} (first : IsHexDigit a r)
    (second : IsHexDigit b g) (third : IsHexDigit c h) :
    singles [a, b, c] = OptionT.mk (.ok (ofDigits? [r, g, h])) := by
  have red : component [a, b, c] 0 1 = pure (UInt8.ofNat r) := component_of_digit .nil first
  have green : component [a, b, c] 1 2 = pure (UInt8.ofNat g) :=
    component_of_digit (.cons first .nil) second
  have blue : component [a, b, c] 2 3 = pure (UInt8.ofNat h) :=
    component_of_digit (.cons first (.cons second .nil)) third
  simp only [singles, red, green, blue, pure_bind, doubled_of_digit first,
    doubled_of_digit second, doubled_of_digit third]
  rfl

theorem pairs_of_digits {a b c d e f : Char} {r s g h k l : Nat} (first : IsHexDigit a r)
    (second : IsHexDigit b s) (third : IsHexDigit c g) (fourth : IsHexDigit d h)
    (fifth : IsHexDigit e k) (sixth : IsHexDigit f l) :
    pairs [a, b, c, d, e, f] = OptionT.mk (.ok (ofDigits? [r, s, g, h, k, l])) := by
  have red : component [a, b, c, d, e, f] 0 2 = pure (UInt8.ofNat (16 * r + s)) :=
    component_of_pair .nil first second
  have green : component [a, b, c, d, e, f] 2 4 = pure (UInt8.ofNat (16 * g + h)) :=
    component_of_pair (.cons first (.cons second .nil)) third fourth
  have blue : component [a, b, c, d, e, f] 4 6 = pure (UInt8.ofNat (16 * k + l)) :=
    component_of_pair (.cons first (.cons second (.cons third (.cons fourth .nil)))) fifth sixth
  simp only [pairs, red, green, blue, pure_bind]
  rfl

theorem exists_of_length_six {values : List Nat} (six : values.length = 6) :
    ∃ r s g h b c, values = [r, s, g, h, b, c] := by
  have first : (values.take 3).length = 3 := by simp [six]
  have last : (values.drop 3).length = 3 := by simp [six]
  obtain ⟨r, s, g, front⟩ := List.length_eq_three.1 first
  obtain ⟨h, b, c, back⟩ := List.length_eq_three.1 last
  refine ⟨r, s, g, h, b, c, ?_⟩
  rw [← List.take_append_drop 3 values, front, back]
  rfl

/-- Digits cut out by bytes give the color of their values. -/
theorem ofSlices?_of_digits {digits : List Char} {values : List Nat}
    (read : List.Forall₂ IsHexDigit digits values) :
    ofSlices? digits = OptionT.mk (.ok (ofDigits? values)) := by
  have size := byteCount_of_digits read
  fun_cases ofDigits? values with
  | case1 r g b =>
      obtain _ | ⟨first, _ | ⟨second, _ | ⟨third, _ | _⟩⟩⟩ := read
      rw [ofSlices?, size]
      exact singles_of_digits first second third
  | case2 r s g h b c =>
      obtain _ | ⟨first, _ | ⟨second, _ | ⟨third, rest⟩⟩⟩ := read
      obtain _ | ⟨fourth, _ | ⟨fifth, _ | ⟨sixth, _ | _⟩⟩⟩ := rest
      rw [ofSlices?, size]
      exact pairs_of_digits first second third fourth fifth sixth
  | case3 _ three six =>
      rw [ofSlices?, size, read.length_eq]
      split
      · next length =>
          obtain ⟨r, g, b, rfl⟩ := List.length_eq_three.1 length
          exact (three r g b rfl).elim
      · next length =>
          obtain ⟨r, s, g, h, b, c, rfl⟩ := exists_of_length_six length
          exact (six r s g h b c rfl).elim
      · rfl

theorem isSome_mapM {α β : Type} (read : α → Option β) (texts : List α) :
    (texts.mapM read).isSome = texts.all fun text => (read text).isSome := by
  induction texts with
  | nil => rfl
  | cons text rest ih =>
      rw [List.mapM_cons, List.all_cons, ← ih]
      cases read text <;> cases rest.mapM read <;> rfl

/-- A reader of bytes never stops, and reads the same color. -/
theorem slicedHex?_eq (text : List Char) : slicedHex? text = OptionT.mk (.ok (ofHex? text)) := by
  unfold slicedHex?
  split
  · next digits =>
      rw [← isSome_mapM, ofHex?]
      cases found : digits.mapM hexValue? with
      | none => rfl
      | some values => exact ofSlices?_of_digits (mapM_hexValue?_eq_some_iff.1 found)
  · next sharpless =>
      unfold ofHex?
      split
      · next digits => exact absurd rfl (sharpless digits)
      · rfl

end Color

namespace Palette

/-- The color that a theme writes, its digits cut out by bytes. -/
def slicedResolve? (palette : Palette) (spec : String) : OptionT (Except Color.Stop) Color :=
  let text := trim spec.toList
  if text.head? = some '#' then Color.slicedHex? text
  else if ',' ∈ text then OptionT.mk (.ok (Color.ofComponents? text))
  else
    match palette.get? (lowerAscii (String.ofList text)) with
    | none => failure
    | some value => Color.slicedHex? (trim value.toList)

/-- Whatever a theme writes, the bytes of its digits can be cut out. -/
theorem slicedResolve?_run (palette : Palette) (spec : String) :
    (palette.slicedResolve? spec).run = .ok (palette.resolve spec) := by
  unfold slicedResolve? resolve
  dsimp only
  split
  · rw [Color.slicedHex?_eq]
    rfl
  · split
    · rfl
    · split
      · next absent => rw [absent]; rfl
      · next value found =>
          rw [found, Color.slicedHex?_eq]
          rfl

end Palette

end BootTheme
