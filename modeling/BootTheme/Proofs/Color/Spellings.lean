import BootTheme.Color
import BootTheme.Proofs.Number.ReadBack

/-!
# How colors are written out

A color is spelled by three or six hexadecimal digits, or by three decimal numbers between
commas. The spellings are stated by the texts alone; the readers find exactly these colors.
-/

namespace BootTheme

/-! ## White space around a text -/

/-- A text with white space around a core that neither starts nor ends with any. -/
def HasCore (text core : List Char) : Prop :=
  ∃ before after, text = before ++ (core ++ after) ∧
    (∀ char ∈ before, isBlank char = true) ∧ (∀ char ∈ after, isBlank char = true) ∧
    (∀ char ∈ core.head?, isBlank char = false) ∧ ∀ char ∈ core.getLast?, isBlank char = false

theorem head_dropWhile_blank (text : List Char) :
    ∀ char ∈ (text.dropWhile isBlank).head?, isBlank char = false := by
  intro char head
  have stops := List.head?_dropWhile_not isBlank text
  rwa [Option.mem_def.1 head] at stops

/-- Trimming leaves a core. -/
theorem hasCore_trim (text : List Char) : HasCore text (trim text) := by
  have front := List.takeWhile_append_dropWhile (p := isBlank) (l := text)
  have back := List.takeWhile_append_dropWhile (p := isBlank)
    (l := (text.dropWhile isBlank).reverse)
  have whole : text.dropWhile isBlank = trim text ++
      ((text.dropWhile isBlank).reverse.takeWhile isBlank).reverse := by
    rw [trim, trimEnd, ← List.reverse_append, back, List.reverse_reverse]
  refine ⟨_, _, front.symm.trans (congrArg _ whole), fun _ => List.mem_takeWhile_imp, ?_, ?_, ?_⟩
  · intro char among
    exact List.mem_takeWhile_imp (List.mem_reverse.1 among)
  · intro char head
    apply head_dropWhile_blank text
    rw [whole, List.head?_append]
    rw [Option.mem_def] at head
    simp [head]
  · rw [trim, trimEnd, List.getLast?_reverse]
    exact head_dropWhile_blank _

theorem trimEnd_append {core after : List Char} (blank : ∀ char ∈ after, isBlank char = true)
    (ended : ∀ char ∈ core.getLast?, isBlank char = false) : trimEnd (core ++ after) = core := by
  rw [← List.head?_reverse] at ended
  have reversed : ∀ char ∈ after.reverse, isBlank char = true := by simpa using blank
  rw [trimEnd, List.reverse_append, (takeWhile_run reversed ended).2, List.reverse_reverse]

/-- A text has one core. -/
theorem HasCore.trim_eq {text core : List Char} (has : HasCore text core) : trim text = core := by
  obtain ⟨before, after, rfl, blankBefore, blankAfter, started, ended⟩ := has
  rw [trim]
  cases core with
  | nil =>
      have blank : ∀ char ∈ before ++ after, isBlank char = true :=
        List.forall_mem_append.2 ⟨blankBefore, blankAfter⟩
      rw [List.nil_append, List.dropWhile_eq_nil_iff.2 blank]
      rfl
  | cons first rest =>
      have stops : ∀ char ∈ (first :: rest ++ after).head?, isBlank char = false := started
      rw [(takeWhile_run blankBefore stops).2]
      exact trimEnd_append blankAfter ended

theorem hasCore_iff {text core : List Char} : HasCore text core ↔ trim text = core :=
  ⟨HasCore.trim_eq, fun same => same ▸ hasCore_trim text⟩

/-! ## Lists of readings -/

theorem mapM_eq_some_iff {β γ : Type} {read : β → Option γ} {texts : List β} {values : List γ} :
    texts.mapM read = some values ↔
      List.Forall₂ (fun text value => read text = some value) texts values := by
  induction texts generalizing values with
  | nil => simp [eq_comm]
  | cons text rest ih =>
      rw [List.mapM_cons]
      cases values with
      | nil => cases read text <;> cases rest.mapM read <;> simp
      | cons value others =>
          rw [List.forall₂_cons, ← ih]
          cases read text <;> cases rest.mapM read <;> simp

namespace Color

/-! ## Hexadecimal digits -/

/-- A hexadecimal digit, a small letter or a capital one, and its value. -/
def IsHexDigit (char : Char) (value : Nat) : Prop :=
  value < 16 ∧ (char = Nat.digitChar value ∨ char = (Nat.digitChar value).toUpper)

instance (char : Char) (value : Nat) : Decidable (IsHexDigit char value) :=
  inferInstanceAs (Decidable (_ ∧ _))

theorem toNat_of_hexValue? {char : Char} {value : Nat} (found : hexValue? char = some value) :
    char.toNat < 128 := by
  have bound {last : Char} (before : char ≤ last) (small : last.toNat < 128) :
      char.toNat < 128 := Nat.lt_of_le_of_lt (UInt32.le_iff_toNat_le.1 before) small
  unfold hexValue? at found
  split at found
  · next digit => exact bound digit.2 (by decide)
  · split at found
    · next letter => exact bound letter.2 (by decide)
    · split at found
      · next letter => exact bound letter.2 (by decide)
      · cases found

theorem hexValue?_eq_some_iff {char : Char} {value : Nat} :
    hexValue? char = some value ↔ IsHexDigit char value := by
  constructor
  · intro found
    have digits : ∀ code : Fin 128, ∀ value ∈ hexValue? (Char.ofNat code),
        IsHexDigit (Char.ofNat code) value := by decide +kernel
    have digit := digits ⟨char.toNat, toNat_of_hexValue? found⟩ value
    rw [Char.ofNat_toNat] at digit
    exact digit found
  · rintro ⟨small, written⟩
    have values : ∀ value : Fin 16, hexValue? (Nat.digitChar value) = some value.val ∧
        hexValue? (Nat.digitChar value).toUpper = some value.val := by decide +kernel
    obtain ⟨letter, capital⟩ := values ⟨value, small⟩
    rcases written with rfl | rfl
    · exact letter
    · exact capital

theorem mapM_hexValue?_eq_some_iff {digits : List Char} {values : List Nat} :
    digits.mapM hexValue? = some values ↔ List.Forall₂ IsHexDigit digits values := by
  simp only [mapM_eq_some_iff, hexValue?_eq_some_iff]

/-! ## Three or six digits -/

/-- Two digits and the byte that they are. -/
def SpellsByte (high low : Char) (byte : UInt8) : Prop :=
  ∃ first second, IsHexDigit high first ∧ IsHexDigit low second ∧
    byte.toNat = 16 * first + second

/-- The digits of an opaque color: two for each component, or one that stands for two. -/
inductive SpellsHex : List Char → Color → Prop where
  | long {a b c d e f : Char} {red green blue : UInt8} (first : SpellsByte a b red)
      (second : SpellsByte c d green) (third : SpellsByte e f blue) :
      SpellsHex [a, b, c, d, e, f] (rgb red green blue)
  | short {a b c : Char} {color : Color} (doubled : SpellsHex [a, a, b, b, c, c] color) :
      SpellsHex [a, b, c] color

theorem spellsByte_iff {high low : Char} {byte : UInt8} {first second : Nat}
    (left : IsHexDigit high first) (right : IsHexDigit low second) :
    SpellsByte high low byte ↔ byte = UInt8.ofNat (16 * first + second) := by
  have small : 16 * first + second < 256 := by have := left.1; have := right.1; omega
  constructor
  · rintro ⟨one, other, isOne, isOther, value⟩
    rw [← hexValue?_eq_some_iff] at left right isOne isOther
    rw [left, Option.some_inj] at isOne
    rw [right, Option.some_inj] at isOther
    rw [isOne, isOther, ← value, UInt8.ofNat_toNat]
  · rintro rfl
    exact ⟨first, second, left, right, UInt8.toNat_ofNat_of_lt' small⟩

theorem spellsHex_six {a b c d e f : Char} {color : Color} :
    SpellsHex [a, b, c, d, e, f] color ↔ ∃ red green blue,
      SpellsByte a b red ∧ SpellsByte c d green ∧ SpellsByte e f blue ∧
        rgb red green blue = color := by
  constructor
  · rintro ⟨first, second, third⟩
    exact ⟨_, _, _, first, second, third, rfl⟩
  · rintro ⟨red, green, blue, first, second, third, rfl⟩
    exact .long first second third

theorem spellsHex_three {a b c : Char} {color : Color} :
    SpellsHex [a, b, c] color ↔ SpellsHex [a, a, b, b, c, c] color := by
  constructor
  · rintro (_ | doubled)
    exact doubled
  · exact .short

/-- The color of six digits is the color that they spell. -/
theorem ofDigits?_six {a b c d e f : Char} {r s g h k l : Nat} {color : Color}
    (first : IsHexDigit a r) (second : IsHexDigit b s) (third : IsHexDigit c g)
    (fourth : IsHexDigit d h) (fifth : IsHexDigit e k) (sixth : IsHexDigit f l) :
    ofDigits? [r, s, g, h, k, l] = some color ↔ SpellsHex [a, b, c, d, e, f] color := by
  simp only [spellsHex_six, spellsByte_iff first second, spellsByte_iff third fourth,
    spellsByte_iff fifth sixth, exists_and_left, exists_eq_left, ofDigits?, Option.some_inj]

/-- One digit for a component stands for two. -/
theorem ofDigits?_three (r g b : Nat) : ofDigits? [r, g, b] = ofDigits? [r, r, g, g, b, b] := by
  have double (value : Nat) : 17 * value = 16 * value + value := by omega
  rw [ofDigits?, ofDigits?, double, double, double]

/-- Digits give a color exactly if they spell it. -/
theorem ofDigits?_eq_some_iff {digits : List Char} {values : List Nat} {color : Color}
    (read : List.Forall₂ IsHexDigit digits values) :
    ofDigits? values = some color ↔ SpellsHex digits color := by
  fun_cases ofDigits? values with
  | case1 r g b =>
      obtain _ | ⟨first, _ | ⟨second, _ | ⟨third, _ | _⟩⟩⟩ := read
      rw [spellsHex_three, ← ofDigits?_six first first second second third third,
        ← ofDigits?_three, ofDigits?]
  | case2 r s g h b c =>
      obtain _ | ⟨first, _ | ⟨second, _ | ⟨third, rest⟩⟩⟩ := read
      obtain _ | ⟨fourth, _ | ⟨fifth, _ | ⟨sixth, _ | _⟩⟩⟩ := rest
      exact ofDigits?_six first second third fourth fifth sixth
  | case3 _ three six =>
      refine iff_of_false nofun fun spells => ?_
      cases spells with
      | long =>
          obtain _ | ⟨-, _ | ⟨-, _ | ⟨-, _ | ⟨-, _ | ⟨-, _ | ⟨-, _ | _⟩⟩⟩⟩⟩⟩ := read
          exact six _ _ _ _ _ _ rfl
      | short =>
          obtain _ | ⟨-, _ | ⟨-, _ | ⟨-, _ | _⟩⟩⟩ := read
          exact three _ _ _ rfl

/-- The characters of a spelling are digits. -/
theorem SpellsHex.digits {digits : List Char} {color : Color} (spells : SpellsHex digits color) :
    ∃ values, List.Forall₂ IsHexDigit digits values := by
  induction spells with
  | long first second third =>
      obtain ⟨r, s, isR, isS, -⟩ := first
      obtain ⟨g, h, isG, isH, -⟩ := second
      obtain ⟨b, c, isB, isC, -⟩ := third
      exact ⟨[r, s, g, h, b, c], by simp [isR, isS, isG, isH, isB, isC]⟩
  | short _ ih =>
      obtain ⟨_, _ | ⟨first, _ | ⟨-, _ | ⟨second, _ | ⟨-, _ | ⟨third, -⟩⟩⟩⟩⟩⟩ := ih
      exact ⟨_, .cons first (.cons second (.cons third .nil))⟩

/-- What is read of a hash sign and digits is the color that they spell. -/
theorem ofHex?_eq_some_iff {text : List Char} {color : Color} :
    ofHex? text = some color ↔ ∃ digits, text = '#' :: digits ∧ SpellsHex digits color := by
  constructor
  · intro found
    unfold ofHex? at found
    split at found
    · next digits =>
        obtain ⟨values, read, color⟩ := Option.bind_eq_some_iff.1 found
        rw [mapM_hexValue?_eq_some_iff] at read
        exact ⟨digits, rfl, (ofDigits?_eq_some_iff read).1 color⟩
    · cases found
  · rintro ⟨digits, rfl, spells⟩
    obtain ⟨values, read⟩ := spells.digits
    rw [ofHex?, mapM_hexValue?_eq_some_iff.2 read]
    exact (ofDigits?_eq_some_iff read).2 spells

/-! ## Fields between commas -/

theorem fields_eq_splitOn (text : List Char) : fields text = text.splitOn ',' := by
  induction text with
  | nil => rfl
  | cons char rest ih =>
      rw [List.splitOn_cons_eq_if_modifyHead, ← ih]
      by_cases comma : char = ','
      · subst comma
        rfl
      · have some : fields rest ≠ [] := ih ▸ List.splitOn_ne_nil _ _
        obtain ⟨field, others, parts⟩ := List.exists_cons_of_ne_nil some
        simp [fields, comma, parts]

theorem comma_notMem_fields {text : List Char} : ∀ field ∈ fields text, ',' ∉ field := by
  fun_induction fields text with
  | case1 => simp
  | case2 rest ih => simpa using ih
  | case3 char rest plain none ih => simpa using Ne.symm plain
  | case4 char rest plain field others parts ih =>
      rw [parts, List.forall_mem_cons] at ih
      simpa [Ne.symm plain] using ih

/-- The fields of a text are its parts without commas. -/
theorem fields_eq_iff {text : List Char} {parts : List (List Char)} :
    fields text = parts ↔
      parts ≠ [] ∧ (∀ part ∈ parts, ',' ∉ part) ∧ [','].intercalate parts = text := by
  constructor
  · rintro rfl
    refine ⟨?_, comma_notMem_fields, ?_⟩
    · rw [fields_eq_splitOn]
      exact List.splitOn_ne_nil _ _
    · rw [fields_eq_splitOn]
      exact List.intercalate_splitOn _
  · rintro ⟨some, plain, rfl⟩
    rw [fields_eq_splitOn]
    exact List.splitOn_intercalate _ plain some

/-! ## Three numbers -/

/-- The digits of a byte in decimal, with any number of zeros before them. -/
def IsDecimal (digits : List Char) (byte : UInt8) : Prop :=
  digits ≠ [] ∧ (∀ char ∈ digits, char.isDigit = true) ∧
    Nat.ofDigitChars 10 digits 0 = byte.toNat

/-- A decimal number with a plus sign or none and white space around it. -/
def DecimalField (field : List Char) (byte : UInt8) : Prop :=
  ∃ digits, IsDecimal digits byte ∧ (HasCore field digits ∨ HasCore field ('+' :: digits))

/-- A text without the plus sign in front of it. -/
def unsigned : List Char → List Char
  | '+' :: rest => rest
  | rest => rest

/-- The number of at most 255 that digits stand for. -/
def byteOf? (digits : List Char) : Option UInt8 :=
  if digits.isEmpty || !digits.all Char.isDigit then none
  else if digitsValue digits ≤ 255 then some (UInt8.ofNat (digitsValue digits))
  else none

theorem component?_eq (text : List Char) : component? text = byteOf? (unsigned (trim text)) := rfl

theorem byteOf?_eq_some_iff {digits : List Char} {byte : UInt8} :
    byteOf? digits = some byte ↔ IsDecimal digits byte := by
  have number : digitsValue digits ≤ 255 ∧ UInt8.ofNat (digitsValue digits) = byte ↔
      Nat.ofDigitChars 10 digits 0 = byte.toNat := by
    rw [← digitsValue_eq]
    constructor
    · rintro ⟨small, rfl⟩
      exact (UInt8.toNat_ofNat_of_lt' (Nat.lt_succ_of_le small)).symm
    · intro value
      rw [value, UInt8.ofNat_toNat]
      exact ⟨Nat.le_of_lt_succ byte.toNat_lt, rfl⟩
  rw [IsDecimal, ← number]
  simp [byteOf?, and_assoc]

theorem unsigned_eq_iff {text digits : List Char} {byte : UInt8} (decimal : IsDecimal digits byte) :
    unsigned text = digits ↔ text = digits ∨ text = '+' :: digits := by
  have plain (rest : List Char) : '+' :: rest ≠ digits := by
    rintro rfl
    exact absurd (decimal.2.1 '+' List.mem_cons_self) (by decide)
  fun_cases unsigned text with
  | case1 rest => simp [plain]
  | case2 _ signless => exact (or_iff_left (signless digits)).symm

theorem component?_eq_some_iff {field : List Char} {byte : UInt8} :
    component? field = some byte ↔ DecimalField field byte := by
  rw [component?_eq, byteOf?_eq_some_iff, DecimalField]
  constructor
  · intro decimal
    refine ⟨_, decimal, ?_⟩
    rw [hasCore_iff, hasCore_iff, ← unsigned_eq_iff decimal]
  · rintro ⟨digits, decimal, has⟩
    rw [hasCore_iff, hasCore_iff, ← unsigned_eq_iff decimal] at has
    exact has ▸ decimal

/-- Three decimal numbers between two commas and the opaque color with these components. -/
def SpellsComponents (text : List Char) (color : Color) : Prop :=
  ∃ first second third red green blue, text = first ++ ',' :: (second ++ ',' :: third) ∧
    (',' ∉ first ∧ ',' ∉ second ∧ ',' ∉ third) ∧ DecimalField first red ∧
    DecimalField second green ∧ DecimalField third blue ∧ color = rgb red green blue

/-- What is read of fields between commas is the color that they spell. -/
theorem ofComponents?_eq_some_iff {text : List Char} {color : Color} :
    ofComponents? text = some color ↔ SpellsComponents text color := by
  constructor
  · intro found
    unfold ofComponents? at found
    split at found
    · next red green blue read =>
        cases found
        rw [mapM_eq_some_iff] at read
        generalize parts : fields text = pieces at read
        obtain _ | ⟨first, _ | ⟨second, _ | ⟨third, _ | _⟩⟩⟩ := read
        obtain ⟨-, plain, rfl⟩ := fields_eq_iff.1 parts
        rw [component?_eq_some_iff] at first second third
        exact ⟨_, _, _, red, green, blue, by simp, by simpa using plain, first, second, third, rfl⟩
    · cases found
  · rintro ⟨first, second, third, red, green, blue, rfl, plain, isRed, isGreen, isBlue, rfl⟩
    rw [← component?_eq_some_iff] at isRed isGreen isBlue
    have parts : fields (first ++ ',' :: (second ++ ',' :: third)) = [first, second, third] :=
      fields_eq_iff.2 ⟨List.cons_ne_nil _ _, by simpa using plain, by simp⟩
    have read : [first, second, third].mapM component? = some [red, green, blue] :=
      mapM_eq_some_iff.2 (.cons isRed (.cons isGreen (.cons isBlue .nil)))
    rw [ofComponents?, parts, read]

end Color

end BootTheme
