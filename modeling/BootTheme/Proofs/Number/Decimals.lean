import BootTheme.Number.Reading
import BootTheme.Number.Shortest

/-!
# Decimals as text

A decimal is digits with a fraction or none. Numbers that are finite are written as a
decimal behind a sign or none, and what is read of a decimal is its value.
-/

namespace BootTheme

/-- A run ends where the next character does not go on with it. -/
theorem takeWhile_run {keep : Char → Bool} {run rest : List Char}
    (kept : ∀ char ∈ run, keep char = true) (ended : ∀ char ∈ rest.head?, keep char = false) :
    (run ++ rest).takeWhile keep = run ∧ (run ++ rest).dropWhile keep = rest := by
  rw [List.takeWhile_append_of_pos kept, List.dropWhile_append_of_pos kept]
  cases rest with
  | nil => exact ⟨List.append_nil run, rfl⟩
  | cons next rest =>
      have stops : ¬ keep next = true := by
        rw [ended next rfl]
        exact Bool.false_ne_true
      rw [List.takeWhile_cons_of_neg stops, List.dropWhile_cons_of_neg stops, List.append_nil]
      exact ⟨rfl, rfl⟩

/-- Two runs with what ends them are the same runs. -/
theorem run_unique {keep : Char → Bool} {first second after behind : List Char}
    (same : first ++ after = second ++ behind) (kept : ∀ char ∈ first, keep char = true)
    (alsoKept : ∀ char ∈ second, keep char = true)
    (ended : ∀ char ∈ after.head?, keep char = false)
    (alsoEnded : ∀ char ∈ behind.head?, keep char = false) : first = second ∧ after = behind := by
  obtain ⟨taken, left⟩ := takeWhile_run kept ended
  obtain ⟨alsoTaken, alsoLeft⟩ := takeWhile_run alsoKept alsoEnded
  rw [same] at taken left
  exact ⟨taken.symm.trans alsoTaken, left.symm.trans alsoLeft⟩

/-- Digits, and the digits of a fraction or none. -/
structure Decimal where
  whole : List Char
  places : List Char
  nonempty : whole ≠ []
  whole_digits : ∀ char ∈ whole, char.isDigit = true
  place_digits : ∀ char ∈ places, char.isDigit = true

namespace Decimal

/-- The fraction with its point. -/
def point (decimal : Decimal) : List Char :=
  if decimal.places.isEmpty then [] else '.' :: decimal.places

/-- The decimal as it is written. -/
def text (decimal : Decimal) : List Char := decimal.whole ++ decimal.point

/-- The number that the decimal is read as. -/
def value (decimal : Decimal) : Float := readFraction decimal.whole decimal.places

theorem text_eq_ite (decimal : Decimal) :
    decimal.text =
      if decimal.places.isEmpty then decimal.whole else decimal.whole ++ '.' :: decimal.places := by
  unfold text point
  split
  · exact List.append_nil _
  · rfl

theorem text_eq_cons (decimal : Decimal) :
    ∃ first more, decimal.text = first :: more ∧ first.isDigit = true := by
  obtain ⟨first, digits, shape⟩ := List.exists_cons_of_ne_nil decimal.nonempty
  have digit := decimal.whole_digits first (by rw [shape]; exact List.mem_cons_self)
  refine ⟨first, digits ++ decimal.point, ?_, digit⟩
  rw [text, shape, List.cons_append]

/-- The digits before the point are found again. -/
theorem span_text (decimal : Decimal) {rest : List Char}
    (ended : ∀ char ∈ rest.head?, char.isDigit = false) :
    (decimal.text ++ rest).takeWhile Char.isDigit = decimal.whole ∧
      (decimal.text ++ rest).dropWhile Char.isDigit = decimal.point ++ rest := by
  have stops : ∀ char ∈ (decimal.point ++ rest).head?, char.isDigit = false := by
    unfold point
    split
    · exact ended
    · intro char head
      cases head
      rfl
  rw [text, List.append_assoc]
  exact takeWhile_run decimal.whole_digits stops

/-! ## Decimals are read as their value -/

theorem readUnsigned_text (decimal : Decimal) :
    readUnsigned decimal.text = some decimal.value := by
  have ended : ∀ keep : Char → Bool, ∀ char ∈ ([] : List Char).head?, keep char = false := by
    intro keep char impossible
    cases impossible
  obtain ⟨taken, left⟩ := decimal.span_text (ended Char.isDigit)
  obtain ⟨placesTaken, placesLeft⟩ := takeWhile_run decimal.place_digits (ended Char.isDigit)
  rw [List.append_nil] at taken left placesTaken placesLeft
  rw [List.append_nil] at left
  have digits : decimal.whole.isEmpty = false := List.isEmpty_eq_false_iff.2 decimal.nonempty
  unfold readUnsigned value readFraction
  cases shape : decimal.places with
  | nil =>
      have noPoint : decimal.point = [] := by
        rw [point, shape]
        rfl
      simp only [taken, left, noPoint, digits, Bool.false_and, Bool.false_eq_true, if_false]
      rfl
  | cons place places =>
      have withPoint : decimal.point = '.' :: place :: places := by
        rw [point, shape]
        rfl
      rw [shape] at placesTaken placesLeft
      simp only [taken, left, withPoint, digits, placesTaken, placesLeft, Bool.false_and,
        Bool.false_eq_true, if_false]
      rw [Int.zero_sub]

theorem digit_toLower {char : Char} (digit : char.isDigit = true) : char.toLower = char := by
  unfold Char.toLower
  split
  · next upper =>
      simp only [Char.isDigit, Bool.and_eq_true, decide_eq_true_eq, ge_iff_le,
        UInt32.le_iff_toNat_le] at digit
      simp only [ge_iff_le, UInt32.le_iff_toNat_le] at upper
      have nine : '9'.val.toNat = 57 := rfl
      have least : 'A'.val.toNat = 65 := rfl
      omega
  · rfl

/-- A decimal is no name of infinity or of the undefined number. -/
theorem text_ne_word (decimal : Decimal) {first : Char} {more : List Char}
    (letter : first.isDigit = false) : decimal.text.map Char.toLower ≠ first :: more := by
  obtain ⟨head, digits, shape, digit⟩ := decimal.text_eq_cons
  intro same
  rw [shape, List.map_cons, digit_toLower digit] at same
  rw [(List.cons.inj same).1, letter] at digit
  cases digit

theorem readDouble_text (decimal : Decimal) :
    readDouble (String.ofList decimal.text) = some decimal.value ∧
      readDouble (String.ofList ('-' :: decimal.text)) = some (-decimal.value) := by
  have noInf : ¬ decimal.text.map Char.toLower ∈ ["inf".toList, "infinity".toList] := by
    intro word
    rcases List.mem_cons.1 word with inf | word
    · exact decimal.text_ne_word rfl inf
    · exact decimal.text_ne_word rfl (List.mem_singleton.1 word)
  have noNan : ¬ decimal.text.map Char.toLower = "nan".toList := decimal.text_ne_word rfl
  obtain ⟨first, more, shape, digit⟩ := decimal.text_eq_cons
  constructor
  · have noMinus : first ≠ '-' := by
      rintro rfl
      cases digit
    have noPlus : first ≠ '+' := by
      rintro rfl
      cases digit
    unfold readDouble
    rw [String.toList_ofList]
    dsimp only
    split
    · next rest same =>
        rw [shape] at same
        exact absurd (List.cons.inj same).1 noMinus
    · next rest same =>
        rw [shape] at same
        exact absurd (List.cons.inj same).1 noPlus
    · simp only [if_neg noInf, if_neg noNan, readUnsigned_text]
      rfl
  · unfold readDouble
    rw [String.toList_ofList]
    simp only [if_neg noInf, if_neg noNan, readUnsigned_text]
    rfl

end Decimal

/-! ## Finite numbers are written as decimals -/

theorem toList_toString (count : Nat) : (toString count).toList = digitsOf count :=
  String.toList_ofList

theorem digitsOf_ne_nil (count : Nat) : digitsOf count ≠ [] := Nat.toDigits_ne_nil

theorem digitsOf_digits (count : Nat) : ∀ char ∈ digitsOf count, char.isDigit = true := by
  intro char digit
  exact Nat.isDigit_of_mem_toDigits (by decide) (by decide) digit

theorem trimZeros_sublist (digits : List Char) : (trimZeros digits).Sublist digits := by
  have trimmed := (List.dropWhile_sublist (· == '0') (l := digits.reverse)).reverse
  rw [List.reverse_reverse] at trimmed
  exact trimmed

/-- The digits behind the point of `rest / 10 ^ size`. -/
def padded (size rest : Nat) : List Char :=
  List.replicate (size - (digitsOf rest).length) '0' ++ digitsOf rest

theorem padded_digits (size rest : Nat) : ∀ char ∈ padded size rest, char.isDigit = true := by
  intro char inside
  rcases List.mem_append.1 inside with zero | digit
  · rw [(List.mem_replicate.1 zero).2]
    rfl
  · exact digitsOf_digits rest char digit

/-- The decimal `digits * 10 ^ place`. -/
def Decimal.scaled (digits : Nat) : Int → Decimal
  | .ofNat up =>
      ⟨digitsOf (digits * Nat.pow 10 up), [], digitsOf_ne_nil _, digitsOf_digits _,
        fun _ impossible => nomatch impossible⟩
  | .negSucc down =>
      ⟨digitsOf (digits / Nat.pow 10 (down + 1)),
        trimZeros (padded (down + 1) (digits % Nat.pow 10 (down + 1))), digitsOf_ne_nil _,
        digitsOf_digits _, fun char inside =>
          padded_digits _ _ char ((trimZeros_sublist _).subset inside)⟩

theorem Decimal.text_scaled (digits : Nat) (place : Int) :
    (Decimal.scaled digits place).text = positional digits place := by
  cases place with
  | ofNat up => exact List.append_nil _
  | negSucc down =>
      unfold Decimal.text Decimal.point Decimal.scaled positional padded
      dsimp only
      split
      · next empty =>
          rw [List.isEmpty_iff] at empty
          split
          · exact List.append_nil _
          · next nonempty => exact absurd empty nonempty
      · next nonempty =>
          split
          · next empty => exact absurd (List.isEmpty_iff.2 empty) nonempty
          · rfl

/-- The decimal that is written for a finite magnitude. -/
def Decimal.shortest (mantissa : Nat) (exponent : Int) : Decimal :=
  if mantissa = 0 then .scaled 0 0
  else
    let (digits, place) := (Rounding.of 52 mantissa exponent).shortest
    .scaled digits place

theorem Decimal.text_shortest (mantissa : Nat) (exponent : Int) :
    (Magnitude.finite mantissa exponent).text =
      String.ofList (Decimal.shortest mantissa exponent).text := by
  rw [Decimal.shortest, Magnitude.text]
  split
  · rfl
  · rw [Decimal.text_scaled]

/-- The text of a finite number is its decimal behind its sign. -/
theorem decimalText_of_finite {value : Float} {mantissa : Nat} {exponent : Int}
    (finite : (doubleParts value).magnitude = .finite mantissa exponent) :
    decimalText value = String.ofList (if (doubleParts value).negative
      then '-' :: (Decimal.shortest mantissa exponent).text
      else (Decimal.shortest mantissa exponent).text) := by
  unfold decimalText
  dsimp only
  rw [finite]
  dsimp only
  rw [Decimal.text_shortest]
  split
  · exact String.ofList_append.symm
  · rfl

theorem decimalText_of_infinite {value : Float}
    (infinite : (doubleParts value).magnitude = .infinite) :
    decimalText value = if (doubleParts value).negative then "-inf" else "inf" := by
  unfold decimalText
  dsimp only
  rw [infinite]
  rfl

theorem decimalText_of_undefined {value : Float}
    (undefined : (doubleParts value).magnitude = .undefined) : decimalText value = "NaN" := by
  simp [decimalText, undefined]

/-! ## Characters of numbers -/

variable {holds : Char → Prop} (digit : ∀ char, char.isDigit = true → holds char)

include digit

theorem Decimal.forall_mem_text (point : holds '.') (decimal : Decimal) :
    ∀ char ∈ decimal.text, holds char := by
  intro char among
  unfold Decimal.text Decimal.point at among
  rcases List.mem_append.1 among with whole | fraction
  · exact digit char (decimal.whole_digits char whole)
  · split at fraction
    · cases fraction
    · rcases List.mem_cons.1 fraction with rfl | place
      · exact point
      · exact digit char (decimal.place_digits char place)

/-- Numbers are written with digits, a point, a sign and the letters of two words. -/
theorem forall_mem_decimalText (mark : ∀ char ∈ ['-', '.', 'i', 'n', 'f', 'N', 'a'], holds char)
    (value : Float) : ∀ char ∈ (decimalText value).toList, holds char := by
  have word (text : String) (inside : text.toList ⊆ ['-', '.', 'i', 'n', 'f', 'N', 'a']) :
      ∀ char ∈ text.toList, holds char := fun char among => mark char (inside among)
  cases size : (doubleParts value).magnitude with
  | undefined =>
      rw [decimalText_of_undefined size]
      exact word "NaN" (by decide)
  | infinite =>
      rw [decimalText_of_infinite size]
      split
      · exact word "-inf" (by decide)
      · exact word "inf" (by decide)
  | finite mantissa exponent =>
      have decimal := (Decimal.shortest mantissa exponent).forall_mem_text digit
        (mark '.' (by decide))
      rw [decimalText_of_finite size, String.toList_ofList]
      split
      · exact List.forall_mem_cons.2 ⟨mark '-' (by decide), decimal⟩
      · exact decimal

end BootTheme
