import BootTheme.Proofs.Number.Rounding

/-!
# Decimals are rounded to the nearest double

Products and quotients of unpacked numbers are cut off with bits enough to round them, so
digits with a power of ten are read as the double that they lie around.
-/

namespace BootTheme

open Float.Model Float.Model.UnpackedFloat

/-! ## Products and quotients -/

/-- The rest of a division tells where the quotient lies. -/
theorem tells_quotient (dividend : Nat) {divisor : Nat} (positive : 0 < divisor) :
    Tells (.ofMantissaAndAccuracy (dividend / divisor)
      (accuracyOfFraction (dividend % divisor) divisor)) ((dividend : ℚ) / divisor) := by
  have less := Nat.mod_lt dividend positive
  have whole : ((divisor * (dividend / divisor) + dividend % divisor : Nat) : ℚ) = dividend :=
    congrArg Nat.cast (Nat.div_add_mod dividend divisor)
  generalize dividend / divisor = quotient at whole ⊢
  generalize dividend % divisor = rest at less whole ⊢
  have power : (0 : ℚ) < divisor := Nat.cast_pos.2 positive
  have value : (dividend : ℚ) / divisor = quotient + rest / divisor := by
    rw [← whole]
    push_cast
    field_simp
  rw [value]
  have fraction : (rest : ℚ) / divisor < 1 := (div_lt_one power).2 (Nat.cast_lt.2 less)
  unfold accuracyOfFraction
  split
  · next zero =>
      rw [zero, Nat.cast_zero, zero_div, add_zero]
      exact .whole quotient
  · next nonzero =>
      have some : (0 : ℚ) < rest / divisor := div_pos (Nat.cast_pos.2 (by omega)) power
      cases order : compare (2 * rest) divisor with
      | lt =>
          rw [Std.compare_eq_lt] at order
          have half : (rest : ℚ) / divisor < 1 / 2 := by
            rw [div_lt_div_iff₀ power two_pos]
            exact_mod_cast (by omega : rest * 2 < 1 * divisor)
          exact .low (by linarith) (by linarith)
      | eq =>
          rw [Std.compare_eq_iff_eq] at order
          have half : (rest : ℚ) / divisor = 1 / 2 := by
            rw [div_eq_div_iff power.ne' two_ne_zero]
            exact_mod_cast (by omega : rest * 2 = 1 * divisor)
          rw [half]
          exact .half quotient
      | gt =>
          rw [Std.compare_eq_gt] at order
          have half : 1 / 2 < (rest : ℚ) / divisor := by
            rw [div_lt_div_iff₀ two_pos power]
            exact_mod_cast (by omega : 1 * divisor < rest * 2)
          exact .high (by linarith) (by linarith)

theorem tells_product (first second : Nat) (place other : Int) :
    Tells (.ofMantissaAndAccuracy (first * second) .exact)
      (first * 2 ^ place * (second * 2 ^ other) / 2 ^ (place + other)) := by
  have same : (first * 2 ^ place * (second * 2 ^ other) : ℚ) / 2 ^ (place + other) =
      (first * second : Nat) := by
    rw [zpow_add₀ two_ne_zero]
    push_cast
    field_simp
  rw [same]
  exact .whole _

theorem cut_product {first second : Nat} (place other : Int) (great : 2 ^ 52 ≤ first * second) :
    Cut (first * 2 ^ place * (second * 2 ^ other)) (first * second) (place + other) .exact := by
  have bits : 52 ≤ (first * second).log2 := (Nat.le_log2 (by positivity)).2 great
  exact ⟨tells_product first second place other, by omega⟩

/-- A quotient keeps as many bits as a double has, or reaches the least exponent. -/
theorem great_quotient {first second shift : Nat} (nonzero : first ≠ 0) (positive : 0 < second)
    (far : second.log2 + 53 ≤ first.log2 + shift) :
    52 ≤ ((first <<< shift) / second).log2 := by
  have least : 2 ^ first.log2 ≤ first := Nat.log2_self_le nonzero
  have greatest : second ≤ 2 ^ (second.log2 + 1) := Nat.lt_log2_self.le
  have great : 2 ^ 52 ≤ (first <<< shift) / second := by
    rw [Nat.le_div_iff_mul_le positive, Nat.shiftLeft_eq]
    calc 2 ^ 52 * second ≤ 2 ^ 52 * 2 ^ (second.log2 + 1) := Nat.mul_le_mul_left _ greatest
      _ = 2 ^ (second.log2 + 53) := by rw [← pow_add]; congr 1; omega
      _ ≤ 2 ^ (first.log2 + shift) := Nat.pow_le_pow_right two_pos far
      _ = 2 ^ first.log2 * 2 ^ shift := pow_add _ _ _
      _ ≤ first * 2 ^ shift := Nat.mul_le_mul_right _ least
  exact (Nat.le_log2 (Nat.ne_of_gt (lt_of_lt_of_le (by positivity) great))).2 great

theorem cut_quotient {first second : Nat} (nonzero : first ≠ 0) (positive : 0 < second)
    (place other : Int) :
    Cut (first * 2 ^ place / (second * 2 ^ other))
      (divCore Format.binary64 first place second other).1
      (divCore Format.binary64 first place second other).2.1
      (divCore Format.binary64 first place second other).2.2 := by
  have target : Format.binary64.targetExponent (totalExponent first place -
      totalExponent second other) =
        max (first.log2 + 1 + place - (second.log2 + 1 + other) - 53) (-1074) := rfl
  unfold divCore
  dsimp only
  rw [target]
  generalize aim : min (place - other)
    (max (first.log2 + 1 + place - (second.log2 + 1 + other) - 53 : Int) (-1074)) = exponent
  generalize shifted : (place - other - exponent).toNat = shift
  have reached : place - other = shift + exponent := by omega
  constructor
  · have same : (first * 2 ^ place / (second * 2 ^ other) : ℚ) / 2 ^ exponent =
        (first <<< shift : Nat) / second := by
      have power : (2 : ℚ) ^ place = 2 ^ shift * 2 ^ exponent * 2 ^ other := by
        rw [← zpow_natCast, ← zpow_add₀ two_ne_zero, ← zpow_add₀ two_ne_zero, ← reached,
          sub_add_cancel]
      rw [power, Nat.shiftLeft_eq]
      push_cast
      field_simp
    rw [same]
    exact tells_quotient _ positive
  · by_cases least : exponent ≤ -1074
    · omega
    · have far : second.log2 + 53 ≤ first.log2 + shift := by omega
      have bits := great_quotient nonzero positive far
      omega

/-- A double is around itself. -/
theorem Around.self (mantissa : Nat) (exponent : Int) :
    Around mantissa exponent (mantissa * 2 ^ exponent) := by
  have power : (0 : ℚ) < 2 ^ exponent := by positivity
  constructor
  · refine mul_le_mul_of_nonneg_right ?_ power.le
    split
    · linarith
    · linarith
  · exact mul_le_mul_of_nonneg_right (by linarith) power.le
  · intro _
    exact ⟨mul_lt_mul_of_pos_right (by linarith) power,
      mul_lt_mul_of_pos_right (by linarith) power⟩

section Products

variable {mantissa : Nat} {exponent : Int}

theorem mul_around {first second : Nat} {place other : Int}
    (canonical : Canonical mantissa exponent)
    (around : Around mantissa exponent (first * 2 ^ place * (second * 2 ^ other)))
    (positive : 0 < first) (nonzero : 0 < second) (great : 2 ^ 52 ≤ first * second) :
    UnpackedFloat.mul Format.binary64 (.finite .positive first place positive)
      (.finite .positive second other nonzero) =
        .finite .positive mantissa exponent canonical.positive :=
  around.round canonical (cut_product place other great) .positive

theorem div_around {first second : Nat} {place other : Int}
    (canonical : Canonical mantissa exponent)
    (around : Around mantissa exponent (first * 2 ^ place / (second * 2 ^ other)))
    (positive : 0 < first) (nonzero : 0 < second) :
    UnpackedFloat.div Format.binary64 (.finite .positive first place positive)
      (.finite .positive second other nonzero) =
        .finite .positive mantissa exponent canonical.positive :=
  around.round canonical (cut_quotient positive.ne' nonzero place other) .positive

end Products

/-! ## Counts and powers of ten that are doubles -/

/-- A count of at most fifty-three bits with its leading bit in front. -/
theorem canonical_count {count : Nat} (positive : 0 < count) (fits : count < 2 ^ 53) :
    Canonical (count <<< (52 - count.log2)) (-(52 - count.log2 : Nat)) := by
  have bits : count.log2 ≤ 52 := log2_le_of_lt fits
  have low : 2 ^ count.log2 ≤ count := Nat.log2_self_le positive.ne'
  have high : count < 2 ^ (count.log2 + 1) := Nat.lt_log2_self
  have least : 2 ^ 52 ≤ count <<< (52 - count.log2) := by
    rw [Nat.shiftLeft_eq]
    calc 2 ^ 52 = 2 ^ count.log2 * 2 ^ (52 - count.log2) := by
          rw [← pow_add, Nat.add_sub_cancel' bits]
      _ ≤ count * 2 ^ (52 - count.log2) := Nat.mul_le_mul_right _ low
  have greatest : count <<< (52 - count.log2) < 2 ^ 53 := by
    rw [Nat.shiftLeft_eq]
    calc count * 2 ^ (52 - count.log2) < 2 ^ (count.log2 + 1) * 2 ^ (52 - count.log2) :=
          Nat.mul_lt_mul_of_pos_right high (by positivity)
      _ = 2 ^ 53 := by rw [← pow_add]; congr 1; omega
  exact ⟨by omega, greatest, by omega, .inr least⟩

theorem count_eq (count shift : Nat) :
    ((count <<< shift : Nat) : ℚ) * 2 ^ (-(shift : Int)) = count := by
  rw [Nat.shiftLeft_eq, zpow_neg, zpow_natCast]
  push_cast
  field_simp

theorem cut_count {count : Nat} (positive : 0 < count) (fits : count < 2 ^ 53) :
    Cut ((count <<< (52 - count.log2) : Nat) * 2 ^ (-((52 - count.log2 : Nat) : Int)))
      (count <<< (52 - count.log2)) (-((52 - count.log2 : Nat) : Int)) .exact := by
  have canonical := canonical_count positive fits
  constructor
  · rw [mul_div_cancel_right₀ _ (by positivity)]
    exact .whole _
  · have great := canonical.full.resolve_left (by omega)
    have leading := (Nat.le_log2 canonical.positive.ne').2 great
    omega

theorem ofUInt64_count {count : Nat} (positive : 0 < count) (fits : count < 2 ^ 53) :
    UnpackedFloat.ofUInt64 Format.binary64 count.toUInt64 =
      .finite .positive (count <<< (52 - count.log2)) (-(52 - count.log2 : Nat))
        (canonical_count positive fits).positive := by
  have bits : count.log2 ≤ 52 := log2_le_of_lt fits
  have target : Format.binary64.targetExponent (totalExponent count 0) =
      -((52 - count.log2 : Nat) : Int) := by
    change max (count.log2 + 1 + 0 - 53 : Int) (-1074) = _
    omega
  have small : count.toUInt64.toNat = count := by
    rw [Nat.toUInt64_eq, UInt64.toNat_ofNat']
    omega
  have above : compare (count : Int) 0 = .gt := Std.compare_eq_gt.2 (by omega)
  have shift : (0 - -((52 - count.log2 : Nat) : Int)).toNat = 52 - count.log2 := by omega
  have reached : 0 - ((52 - count.log2 : Nat) : Int) = -((52 - count.log2 : Nat) : Int) := by
    omega
  unfold UnpackedFloat.ofUInt64 UnpackedFloat.ofNat UnpackedFloat.ofInt UnpackedFloat.normalize
    UnpackedFloat.round decreaseExponent
  rw [small, above]
  dsimp only
  rw [Int.toNat_natCast, target, shift, reached]
  exact (Around.self _ _).round (canonical_count positive fits) (cut_count positive fits) .positive

theorem unpack_count {count : Nat} (positive : 0 < count) (fits : count < 2 ^ 53) :
    count.toUInt64.toFloat.toModel.unpack =
      .finite .positive (count <<< (52 - count.log2)) (-(52 - count.log2 : Nat))
        (canonical_count positive fits).positive := by
  change UnpackedFloat.unpack _ (UnpackedFloat.pack _ (UnpackedFloat.ofUInt64 _ _)) = _
  rw [ofUInt64_count positive fits]
  exact unpack_pack (canonical_count positive fits) (by omega) .positive

/-- Whether an unpacked double is a power of ten with its leading bit in front. -/
def isPowerOfTen (places : Nat) : UnpackedFloat → Bool
  | .finite .positive mantissa exponent _ =>
      decide (2 ^ 52 ≤ mantissa ∧
        mantissa * 2 ^ exponent.toNat = 10 ^ places * 2 ^ (-exponent).toNat)
  | _ => false

theorem isPowerOfTen_table : ∀ places : Fin 23,
    isPowerOfTen places (Float.exactlyRepresentablePowersOfTen[places]).toModel.unpack = true := by
  decide +kernel

theorem unpack_powerOfTen {places : Nat}
    (small : places < Float.exactlyRepresentablePowersOfTen.size) :
    ∃ (mantissa : Nat) (exponent : Int) (positive : 0 < mantissa), 2 ^ 52 ≤ mantissa ∧
      (mantissa : ℚ) * 2 ^ exponent = 10 ^ places ∧
      (Float.exactlyRepresentablePowersOfTen[places]).toModel.unpack =
        .finite .positive mantissa exponent positive := by
  have power := isPowerOfTen_table ⟨places, small⟩
  unfold isPowerOfTen at power
  split at power
  · next mantissa exponent positive same =>
      obtain ⟨great, value⟩ := of_decide_eq_true power
      refine ⟨mantissa, exponent, positive, great, ?_, same⟩
      have shift : exponent = exponent.toNat - (-exponent).toNat := by omega
      have split : (2 : ℚ) ^ exponent = 2 ^ exponent.toNat / 2 ^ (-exponent).toNat := by
        conv_lhs => rw [shift]
        rw [zpow_sub₀ two_ne_zero, zpow_natCast, zpow_natCast]
      rw [split, ← mul_div_assoc, div_eq_iff (by positivity)]
      exact_mod_cast value
  · cases power


section Scientific

variable {mantissa : Nat} {exponent : Int} {digits places : Nat}

/-- No number around a double is too small to be read. -/
theorem places_le (canonical : Canonical mantissa exponent)
    (around : Around mantissa exponent (digits / 10 ^ places)) :
    3 * places ≤ digits.log2 + 1075 := by
  have least := around.least_half canonical
  have few : (digits : ℚ) < 2 ^ (digits.log2 + 1) := by exact_mod_cast Nat.lt_log2_self
  have ten := eight_pow_le_ten_pow places
  rw [zpow_neg, le_div_iff₀ (by positivity)] at least
  have together : (2 : ℚ) ^ (3 * places) < 2 ^ (digits.log2 + 1 + 1075) := by
    rw [pow_add _ _ 1075]
    have scaled : (2 : ℚ) ^ (3 * places) * (2 ^ (1075 : ℤ))⁻¹ < 2 ^ (digits.log2 + 1) := by
      refine lt_of_le_of_lt ?_ (least.trans_lt few)
      rw [mul_comm]
      exact mul_le_mul_of_nonneg_left ten (by positivity)
    rwa [← div_eq_mul_inv, div_lt_iff₀ (by positivity)] at scaled
  have order := (pow_lt_pow_iff_right₀ one_lt_two).1 together
  omega

/-- No number around a double is too great to be read. -/
theorem log2_le (canonical : Canonical mantissa exponent) (bounded : exponent ≤ 971)
    (around : Around mantissa exponent (digits / 10 ^ places)) (positive : 0 < digits) :
    digits.log2 ≤ 4 * places + 1024 := by
  have greatest : (digits : ℚ) / 10 ^ places ≤ 2 ^ (1024 : ℤ) := by
    refine around.high.trans ?_
    have fits : ((mantissa + 1 : Nat) : ℚ) ≤ (2 ^ 53 : Nat) := Nat.cast_le.2 canonical.fits
    push_cast at fits
    calc (mantissa + 1 / 2 : ℚ) * 2 ^ exponent ≤ 2 ^ 53 * 2 ^ (971 : ℤ) := by
          refine mul_le_mul (by linarith) ?_ (by positivity) (by positivity)
          exact zpow_le_zpow_right₀ one_le_two bounded
      _ = 2 ^ (1024 : ℤ) := by
          rw [← zpow_natCast, ← zpow_add₀ two_ne_zero]
          rfl
  have many : (2 : ℚ) ^ digits.log2 ≤ digits := by exact_mod_cast Nat.log2_self_le positive.ne'
  have ten : (10 : ℚ) ^ places ≤ 2 ^ (4 * places) := by
    rw [pow_mul]
    exact pow_le_pow_left₀ (by norm_num) (by norm_num) _
  rw [div_le_iff₀ (by positivity)] at greatest
  have together : (2 : ℚ) ^ digits.log2 ≤ 2 ^ (4 * places + 1024) := by
    calc (2 : ℚ) ^ digits.log2 ≤ 2 ^ (1024 : ℤ) * 10 ^ places := many.trans greatest
      _ ≤ 2 ^ (1024 : ℤ) * 2 ^ (4 * places) := mul_le_mul_of_nonneg_left ten (by positivity)
      _ = 2 ^ (4 * places + 1024) := by
          rw [pow_add, mul_comm]
          rfl
  exact (pow_le_pow_iff_right₀ one_lt_two).1 together

/-- The exact way of reading. -/
theorem ofScientific_around (canonical : Canonical mantissa exponent)
    (around : Around mantissa exponent (digits / 10 ^ places)) (positive : 0 < digits) :
    UnpackedFloat.ofScientific Format.binary64 digits (-(places : Int)) =
      .finite .positive mantissa exponent canonical.positive := by
  have few := places_le canonical around
  unfold UnpackedFloat.ofScientific
  rw [dif_neg positive.ne', if_neg, if_neg]
  · split
    · next whole =>
        have none : places = 0 := by omega
        subst none
        refine mul_around canonical ?_ _ _ ?_
        · rw [count_eq]
          simpa using around
        · change 2 ^ 52 ≤ digits <<< 53 * 1
          rw [Nat.shiftLeft_eq]
          omega
    · next point =>
        refine div_around canonical ?_ _ _
        rw [neg_neg, Int.toNat_natCast]
        push_cast
        simpa using around
  · change ¬ -(places : Int) < -(2048 + digits.log2)
    omega
  · change ¬ -(places : Int) > 2048
    omega

/-- Few digits with few places are read by one product or quotient of doubles. -/
theorem unpack_few (canonical : Canonical mantissa exponent) (bounded : exponent ≤ 971)
    (around : Around mantissa exponent (digits / 10 ^ places)) (positive : 0 < digits)
    (fits : digits < 2 ^ 53) (small : places < Float.exactlyRepresentablePowersOfTen.size) :
    (if decide (-(places : Int) < 0) = true
      then digits.toUInt64.toFloat / Float.exactlyRepresentablePowersOfTen[places]
      else digits.toUInt64.toFloat * Float.exactlyRepresentablePowersOfTen[places]).toModel.unpack =
        .finite .positive mantissa exponent canonical.positive := by
  obtain ⟨power, place, nonzero, great, value, table⟩ := unpack_powerOfTen small
  have counted := unpack_count positive fits
  have leading := (canonical_count positive fits).positive
  split
  · change UnpackedFloat.unpack _ (UnpackedFloat.pack _ (UnpackedFloat.div _
      digits.toUInt64.toFloat.toModel.unpack _)) = _
    rw [counted, table, div_around canonical ?_ leading nonzero]
    · exact unpack_pack canonical bounded .positive
    · rw [count_eq, value]
      exact around
  · next whole =>
      rw [decide_eq_true_eq] at whole
      have none : places = 0 := by omega
      change UnpackedFloat.unpack _ (UnpackedFloat.pack _ (UnpackedFloat.mul _
        digits.toUInt64.toFloat.toModel.unpack _)) = _
      rw [counted, table, mul_around canonical ?_ leading nonzero (great.trans
        (Nat.le_mul_of_pos_left power leading))]
      · exact unpack_pack canonical bounded .positive
      · rw [none, pow_zero] at value
        rw [none, pow_zero, div_one] at around
        rw [count_eq, value, mul_one]
        exact around

theorem unpack_ofScientific (canonical : Canonical mantissa exponent) (bounded : exponent ≤ 971)
    (around : Around mantissa exponent (digits / 10 ^ places)) (positive : 0 < digits) :
    (Float.ofScientific digits (decide (-(places : Int) < 0)) places).toModel.unpack =
      .finite .positive mantissa exponent canonical.positive := by
  have size : Float.exactlyRepresentablePowersOfTen.size = 23 := rfl
  unfold Float.ofScientific
  split
  · next few => exact unpack_few canonical bounded around positive few.1 (by omega)
  · have sign : (if decide (-(places : Int) < 0) = true then Int.negOfNat places
        else Int.ofNat places) = -(places : Int) := by
      split
      · exact Int.negOfNat_eq
      · next whole =>
          rw [decide_eq_true_eq] at whole
          change (places : Int) = _
          omega
    change UnpackedFloat.unpack _ (UnpackedFloat.pack _ (UnpackedFloat.ofScientific _ _ _)) = _
    rw [sign, ofScientific_around canonical around positive]
    exact unpack_pack canonical bounded .positive

/-- Digits are read as the double that they lie around. -/
theorem unpack_nearestDouble (canonical : Canonical mantissa exponent) (bounded : exponent ≤ 971)
    (around : Around mantissa exponent (digits / 10 ^ places)) (positive : 0 < digits)
    (few : places ≤ 400) :
    (nearestDouble digits (-(places : Int))).toModel.unpack =
      .finite .positive mantissa exponent canonical.positive := by
  have low := places_le canonical around
  have high := log2_le canonical bounded around positive
  unfold nearestDouble
  dsimp only
  rw [if_neg positive.ne', if_neg, if_neg, Int.natAbs_neg, Int.natAbs_natCast]
  · exact unpack_ofScientific canonical bounded around positive
  · omega
  · omega

end Scientific

end BootTheme
