import BootTheme.Proofs.Number.Decimals
import BootTheme.Proofs.Number.Scientific
import BootTheme.Proofs.Number.Shortest

/-!
# Numbers come back from their text

The shortest decimal of a double lies around it, and a decimal is read as the double that it
lies around. So what is read of the text of a finite number is the number again.
-/

namespace BootTheme

open Float.Model Float.Model.UnpackedFloat

/-! ## The number of a decimal -/

theorem digitsValue_eq (digits : List Char) : digitsValue digits = Nat.ofDigitChars 10 digits 0 :=
  Nat.ofDigitChars_eq_foldl.symm

theorem digitsValue_append (first second : List Char) :
    digitsValue (first ++ second) =
      digitsValue first * 10 ^ second.length + digitsValue second := by
  rw [digitsValue_eq, digitsValue_eq, digitsValue_eq, Nat.ofDigitChars_append,
    Nat.ofDigitChars_eq_ofDigitChars_zero, mul_comm]

theorem digitsValue_digitsOf (count : Nat) : digitsValue (digitsOf count) = count := by
  rw [digitsValue_eq]
  exact Nat.ofDigitChars_ten_toDigits

theorem digitsValue_zeros (count : Nat) : digitsValue (List.replicate count '0') = 0 := by
  rw [digitsValue_eq, Nat.ofDigitChars_replicate_zero, mul_zero]

theorem digitsValue_padded (size rest : Nat) : digitsValue (padded size rest) = rest := by
  rw [padded, digitsValue_append, digitsValue_zeros, digitsValue_digitsOf, zero_mul, zero_add]

theorem length_padded {size rest : Nat} (some : 0 < size) (small : rest < 10 ^ size) :
    (padded size rest).length = size := by
  have few : (digitsOf rest).length ≤ size :=
    (Nat.length_toDigits_le_iff (by decide) some).2 small
  rw [padded, List.length_append, List.length_replicate]
  omega

/-- Only zeros are trimmed. -/
theorem trimZeros_append (digits : List Char) :
    ∃ count, digits = trimZeros digits ++ List.replicate count '0' := by
  refine ⟨(digits.reverse.takeWhile (· == '0')).length, ?_⟩
  have zeros : digits.reverse.takeWhile (· == '0') =
      List.replicate (digits.reverse.takeWhile (· == '0')).length '0' := by
    rw [List.eq_replicate_iff]
    refine ⟨rfl, ?_⟩
    intro char inside
    exact eq_of_beq (List.mem_takeWhile_imp (p := (· == '0')) inside)
  rw [← List.reverse_replicate, ← zeros, trimZeros, ← List.reverse_append,
    List.takeWhile_append_dropWhile, List.reverse_reverse]

namespace Decimal

/-- The exact number of a decimal. -/
def number (decimal : Decimal) : ℚ :=
  digitsValue (decimal.whole ++ decimal.places) / 10 ^ decimal.places.length

theorem number_scaled (digits : Nat) (place : Int) :
    (Decimal.scaled digits place).number = digits * 10 ^ place := by
  cases place with
  | ofNat up =>
      change (digitsValue (digitsOf (digits * 10 ^ up) ++ []) : ℚ) / 10 ^ 0 = _
      rw [List.append_nil, digitsValue_digitsOf, Int.ofNat_eq_natCast, zpow_natCast]
      push_cast
      rw [pow_zero, div_one]
  | negSucc down =>
      have small := Nat.mod_lt digits (Nat.pow_pos (n := down + 1) (by decide : 0 < 10))
      have size := length_padded (Nat.succ_pos down) small
      obtain ⟨count, trimmed⟩ := trimZeros_append
        (padded (down + 1) (digits % 10 ^ (down + 1)))
      have whole : digitsValue (digitsOf (digits / 10 ^ (down + 1)) ++
          padded (down + 1) (digits % 10 ^ (down + 1))) = digits := by
        rw [digitsValue_append, digitsValue_digitsOf, digitsValue_padded, size]
        exact Nat.div_add_mod' digits _
      change (digitsValue (digitsOf (digits / 10 ^ (down + 1)) ++ trimZeros
        (padded (down + 1) (digits % 10 ^ (down + 1)))) : ℚ) / 10 ^ (trimZeros
        (padded (down + 1) (digits % 10 ^ (down + 1)))).length = _
      rw [trimmed] at whole size
      generalize trimZeros (padded (down + 1) (digits % 10 ^ (down + 1))) = kept at whole size ⊢
      rw [List.length_append, List.length_replicate] at size
      rw [← List.append_assoc, digitsValue_append, digitsValue_zeros, List.length_replicate,
        add_zero] at whole
      have unit : (10 : ℚ) ^ (down + 1) = 10 ^ kept.length * 10 ^ count := by
        rw [← pow_add, size]
      have value : (digits : ℚ) =
          digitsValue (digitsOf (digits / 10 ^ (down + 1)) ++ kept) * 10 ^ count := by
        exact_mod_cast whole.symm
      generalize digitsValue (digitsOf (digits / 10 ^ (down + 1)) ++ kept) = read at value ⊢
      rw [zpow_negSucc, unit, value]
      field_simp

theorem places_scaled (digits : Nat) (place : Int) :
    (Decimal.scaled digits place).places.length ≤ (-place).toNat := by
  cases place with
  | ofNat up => exact Nat.zero_le _
  | negSucc down =>
      have small := Nat.mod_lt digits (Nat.pow_pos (n := down + 1) (by decide : 0 < 10))
      calc (trimZeros (padded (down + 1) (digits % 10 ^ (down + 1)))).length ≤
            (padded (down + 1) (digits % 10 ^ (down + 1))).length :=
          (trimZeros_sublist _).length_le
        _ = down + 1 := length_padded (Nat.succ_pos down) small

/-- A decimal is read as the double that it lies around. -/
theorem unpack_value (decimal : Decimal) {mantissa : Nat} {exponent : Int}
    (canonical : Canonical mantissa exponent) (bounded : exponent ≤ 971)
    (around : Around mantissa exponent decimal.number) (few : decimal.places.length ≤ 400) :
    decimal.value.toModel.unpack = .finite .positive mantissa exponent canonical.positive := by
  refine unpack_nearestDouble canonical bounded around ?_ few
  rw [Nat.pos_iff_ne_zero]
  intro zero
  have positive := around.positive canonical
  rw [number, zero, Nat.cast_zero, zero_div] at positive
  exact lt_irrefl 0 positive

theorem unpack_shortest {mantissa : Nat} {exponent : Int}
    (canonical : Canonical mantissa exponent) (bounded : exponent ≤ 971) :
    (Decimal.shortest mantissa exponent).value.toModel.unpack =
      .finite .positive mantissa exponent canonical.positive := by
  obtain ⟨inside, near⟩ := Rounding.shortest_spec canonical bounded
  rw [Decimal.shortest, if_neg canonical.positive.ne']
  dsimp only
  refine unpack_value _ canonical bounded ?_ ?_
  · rw [number_scaled]
    exact Rounding.around_of_holds canonical.positive inside
  · exact (places_scaled _ _).trans (by omega)

end Decimal

/-! ## The number that is read again -/

theorem shortest_zero (exponent : Int) :
    (Decimal.shortest 0 exponent).value.toModel.unpack = .zero .positive := by
  have zero : (Decimal.shortest 0 exponent).value = (0 : Float) := rfl
  have bit : (0 : Float).toModel.toBits.toBitVec.getLsbD 63 = false := by decide +kernel
  rw [zero]
  refine (unpack_zero (by decide +kernel) (by decide +kernel)).trans ?_
  rw [ofBitVec_unpackSign, bit]
  rfl

/-- The decimal that is written for a finite number is read as its size. -/
theorem shortest_value {value : Float} {mantissa : Nat} {exponent : Int}
    (finite : (doubleParts value).magnitude = .finite mantissa exponent) :
    (if (doubleParts value).negative then -(Decimal.shortest mantissa exponent).value
      else (Decimal.shortest mantissa exponent).value) = value := by
  apply eq_of_unpack
  have negated (number : Float) : (-number).toModel.unpack = UnpackedFloat.unpack
    Format.binary64 (UnpackedFloat.pack Format.binary64 number.toModel.unpack.neg) := rfl
  obtain ⟨rfl, zero⟩ | ⟨canonical, bounded, parts⟩ := unpack_finite finite
  · rw [zero, sign_eq]
    split
    · rw [negated, shortest_zero]
      exact unpack_packedZero
    · exact shortest_zero exponent
  · have read := Decimal.unpack_shortest canonical bounded
    have sign := sign_eq value
    rw [parts]
    split
    · next negative =>
        rw [if_pos negative] at sign
        rw [negated, read]
        exact (unpack_pack canonical bounded .negative).trans (finite_congr sign.symm rfl rfl)
    · next nonnegative =>
        rw [if_neg nonnegative] at sign
        rw [read]
        exact finite_congr sign.symm rfl rfl

/-- A finite number comes back from its text. -/
theorem readDouble_decimalText {value : Float} (finite : isFinite value = true) :
    readDouble (decimalText value) = some value := by
  obtain ⟨mantissa, exponent, size⟩ := magnitude_of_isFinite finite
  obtain ⟨plain, negated⟩ := (Decimal.shortest mantissa exponent).readDouble_text
  have same := shortest_value size
  rw [decimalText_of_finite size]
  split at same
  · next negative =>
      rw [if_pos negative, negated, same]
  · next positive =>
      rw [if_neg positive, plain, same]

end BootTheme
