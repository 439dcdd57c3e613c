import BootTheme.Proofs.Number.Scientific
import BootTheme.Proofs.Number.Shortest

/-!
# Doubles as numbers

A finite double is a rational number. A sum, a difference, a product or a quotient of two doubles
that is the number of a double is computed exactly, and the whole number near a double is the one
near its number. So counts of at most 53 bits are computed with as if they were rationals.
-/

namespace BootTheme

open Float.Model Float.Model.UnpackedFloat

/-! ## The number of a double -/

/-- A number of the given size on the side of a sign. -/
def onSide : Sign → ℚ → ℚ
  | .negative, size => -size
  | .positive, size => size

/-- An unpacked double that survives packing, and the number that it is. -/
inductive Amounts : UnpackedFloat → ℚ → Prop where
  | zero (sign : Sign) : Amounts (.zero sign) 0
  | finite (sign : Sign) {mantissa : Nat} {exponent : Int}
      (canonical : Canonical mantissa exponent) (bounded : exponent ≤ 971) :
      Amounts (.finite sign mantissa exponent canonical.positive)
        (onSide sign (mantissa * 2 ^ exponent))

/-- The number that a double is. -/
def IsNumber (value : Float) (number : ℚ) : Prop := Amounts value.toModel.unpack number

/-- A rational that is the number of a double. -/
def IsDouble (number : ℚ) : Prop := ∃ unpacked, Amounts unpacked number

variable {first second : UnpackedFloat} {number other : ℚ} {value : Float}

theorem unpack_pack_of_amounts (amounts : Amounts first number) :
    UnpackedFloat.unpack Format.binary64 (UnpackedFloat.pack Format.binary64 first) = first := by
  cases amounts with
  | finite sign canonical bounded => exact unpack_pack canonical bounded sign
  | zero sign =>
      refine (unpack_zero unpackExponent_packComponents unpackMantissa_packComponents).trans ?_
      exact congrArg UnpackedFloat.zero (sign_packComponents sign 0 0)

/-- A finite double is a number. -/
theorem exists_isNumber (finite : isFinite value = true) : ∃ number, IsNumber value number := by
  obtain ⟨mantissa, exponent, size⟩ := magnitude_of_isFinite finite
  unfold IsNumber
  obtain ⟨-, unpacked⟩ | ⟨canonical, bounded, unpacked⟩ := unpack_finite size
  · exact ⟨0, by rw [unpacked]; exact .zero _⟩
  · exact ⟨_, by rw [unpacked]; exact .finite _ canonical bounded⟩

theorem bounded_of_amounts (amounts : Amounts first number) : Bounded first := by
  cases amounts with
  | zero sign => trivial
  | finite sign canonical bounded => exact Int.lt_add_one_of_le bounded

theorem IsNumber.isFinite (isNumber : IsNumber value number) : isFinite value = true := by
  rw [isFinite_iff, ← bounded_unpack]
  exact bounded_of_amounts isNumber

/-- Sign and size of a double make up its number. -/
theorem IsNumber.parts (isNumber : IsNumber value number) :
    ∃ mantissa exponent, (doubleParts value).magnitude = .finite mantissa exponent ∧
      number = onSide (if (doubleParts value).negative then .negative else .positive)
        (mantissa * 2 ^ exponent) := by
  obtain ⟨mantissa, exponent, size⟩ := magnitude_of_isFinite isNumber.isFinite
  refine ⟨mantissa, exponent, size, ?_⟩
  unfold IsNumber at isNumber
  rw [← sign_eq]
  obtain ⟨rfl, unpacked⟩ | ⟨canonical, bounded, unpacked⟩ := unpack_finite size
  · rw [unpacked] at isNumber
    generalize Sign.ofBitVec _ = sign at isNumber ⊢
    cases isNumber
    cases sign <;> simp [onSide]
  · rw [unpacked] at isNumber
    cases isNumber
    rfl

/-! ## Exact arithmetic -/

theorem onSide_mul (sign another : Sign) (size factor : ℚ) :
    onSide sign size * onSide another factor = onSide (sign * another) (size * factor) := by
  cases sign with
  | negative =>
      cases another with
      | negative => exact neg_mul_neg size factor
      | positive => exact neg_mul size factor
  | positive =>
      cases another with
      | negative => exact mul_neg size factor
      | positive => rfl

/-- A count with its leading bit moved in front is cut off without a loss. -/
theorem cut_aligned {count : Nat} (exponent : Int) (positive : 0 < count) :
    Cut (count * 2 ^ exponent)
      (decreaseExponent count exponent
        (Format.binary64.targetExponent (totalExponent count exponent))).1
      (decreaseExponent count exponent
        (Format.binary64.targetExponent (totalExponent count exponent))).2 .exact := by
  rw [targetExponent_eq]
  unfold decreaseExponent
  dsimp only
  generalize aim : max (count.log2 + 1 + exponent - 53 : Int) (-1074) = target
  generalize moved : (exponent - target).toNat = shift
  have bits : (count <<< shift).log2 = count.log2 + shift := by
    rw [Nat.shiftLeft_eq, Rounding.log2_scaled positive.ne']
  constructor
  · have same : (count * 2 ^ exponent : ℚ) / 2 ^ (exponent - shift) = (count <<< shift : Nat) := by
      rw [Nat.shiftLeft_eq, zpow_sub₀ two_ne_zero, zpow_natCast]
      push_cast
      field_simp
    rw [same]
    exact .whole _
  · rw [bits]
    omega

theorem onSide_pos_iff {sign : Sign} {size : ℚ} (positive : 0 < size) :
    0 < onSide sign size ↔ sign = .positive := by
  cases sign with
  | negative => simp [onSide, positive.le]
  | positive => simp [onSide, positive]

theorem onSide_neg_iff {sign : Sign} {size : ℚ} (positive : 0 < size) :
    onSide sign size < 0 ↔ sign = .negative := by
  cases sign with
  | negative => simp [onSide, positive]
  | positive => simp [onSide, positive.le]

theorem Canonical.size_pos {mantissa : Nat} {exponent : Int}
    (canonical : Canonical mantissa exponent) : (0 : ℚ) < mantissa * 2 ^ exponent := by
  have positive : (0 : ℚ) < mantissa := Nat.cast_pos.2 canonical.positive
  positivity

/-- The numbers of doubles by their signs. -/
theorem isDouble_cases (double : IsDouble number) :
    number = 0 ∨ ∃ sign mantissa exponent, Canonical mantissa exponent ∧ exponent ≤ 971 ∧
      number = onSide sign (mantissa * 2 ^ exponent) := by
  obtain ⟨unpacked, amounts⟩ := double
  cases amounts with
  | zero sign => exact .inl rfl
  | finite sign canonical bounded => exact .inr ⟨sign, _, _, canonical, bounded, rfl⟩

theorem onSide_eq_iff {sign another : Sign} {size number : ℚ} (positive : 0 < size)
    (someNumber : 0 < number) :
    onSide sign size = onSide another number ↔ sign = another ∧ size = number := by
  constructor
  · intro same
    have sides : 0 < onSide sign size ↔ sign = .positive := onSide_pos_iff positive
    rw [same, onSide_pos_iff someNumber] at sides
    cases sign with
    | negative =>
        cases another with
        | negative => exact ⟨rfl, neg_inj.1 same⟩
        | positive => cases sides.1 rfl
    | positive =>
        cases another with
        | negative => cases sides.2 rfl
        | positive => exact ⟨rfl, same⟩
  · rintro ⟨rfl, rfl⟩
    rfl

/-- A double is what its number is cut off and rounded to. -/
theorem amounts_roundWithAccuracy {sign : Sign} {size : ℚ} {kept : Nat} {place : Int}
    {accuracy : Accuracy} (cut : Cut size kept place accuracy) (positive : 0 < size)
    (double : IsDouble (onSide sign size)) :
    Amounts (roundWithAccuracy Format.binary64 sign kept place accuracy) (onSide sign size) := by
  obtain zero | ⟨another, mantissa, exponent, canonical, bounded, same⟩ := isDouble_cases double
  · cases sign with
    | negative => exact absurd (neg_eq_zero.1 zero) positive.ne'
    | positive => exact absurd zero positive.ne'
  · obtain ⟨rfl, rfl⟩ := (onSide_eq_iff positive canonical.size_pos).1 same
    rw [(Around.self mantissa exponent).round canonical cut]
    exact .finite sign canonical bounded

/-- The number of a double is found from any mantissa and exponent. -/
theorem amounts_normalize {mantissa place : Int} (double : IsDouble (mantissa * 2 ^ place)) :
    Amounts (UnpackedFloat.normalize Format.binary64 mantissa place .positive)
      (mantissa * 2 ^ place) := by
  have rounded (sign : Sign) {count : Nat} (positive : 0 < count)
      (same : (mantissa * 2 ^ place : ℚ) = onSide sign (count * 2 ^ place)) :
      Amounts (UnpackedFloat.round Format.binary64 sign count place) (mantissa * 2 ^ place) := by
    have size : (0 : ℚ) < count * 2 ^ place := by
      have some : (0 : ℚ) < count := Nat.cast_pos.2 positive
      positivity
    rw [same] at double ⊢
    exact amounts_roundWithAccuracy (cut_aligned place positive) size double
  unfold UnpackedFloat.normalize
  rcases lt_trichotomy mantissa 0 with below | rfl | above
  · have count : (((-mantissa).toNat : Nat) : ℚ) = -mantissa := by
      exact_mod_cast Int.toNat_of_nonneg (by omega : 0 ≤ -mantissa)
    rw [Std.compare_eq_lt.2 below]
    refine rounded .negative (by omega) ?_
    rw [count, onSide, neg_mul, neg_neg]
  · simpa using Amounts.zero .positive
  · have count : ((mantissa.toNat : Nat) : ℚ) = mantissa := by
      exact_mod_cast Int.toNat_of_nonneg above.le
    rw [Std.compare_eq_gt.2 above]
    refine rounded .positive (by omega) ?_
    rw [count, onSide]

/-- A mantissa with its sign, moved to a lower exponent. -/
def aligned (sign : Sign) (mantissa : Nat) (exponent target : Int) : Int :=
  sign.apply (decreaseExponent mantissa exponent target).1

theorem aligned_eq (sign : Sign) (mantissa : Nat) {exponent target : Int}
    (low : target ≤ exponent) :
    (aligned sign mantissa exponent target : ℚ) * 2 ^ target =
      onSide sign (mantissa * 2 ^ exponent) := by
  have size : ((decreaseExponent mantissa exponent target).1 : ℚ) * 2 ^ target =
      mantissa * 2 ^ exponent := by
    obtain ⟨shift, reached⟩ := Int.le.dest low
    have moved : (exponent - target).toNat = shift := by omega
    unfold decreaseExponent
    dsimp only
    rw [moved, Nat.shiftLeft_eq, ← reached, zpow_add₀ two_ne_zero, zpow_natCast]
    push_cast
    ring
  unfold aligned
  cases sign with
  | negative => simpa [Sign.apply, onSide] using size
  | positive => simpa [Sign.apply, onSide] using size

/-- Two mantissas are added at the lower of their exponents. -/
theorem aligned_sum (sign another : Sign) (mantissa count : Nat) (exponent place : Int) :
    ((aligned sign mantissa exponent (min exponent place) +
        aligned another count place (min exponent place) : Int) : ℚ) * 2 ^ min exponent place =
      onSide sign (mantissa * 2 ^ exponent) + onSide another (count * 2 ^ place) := by
  rw [Int.cast_add, add_mul, aligned_eq sign mantissa (min_le_left _ _),
    aligned_eq another count (min_le_right _ _)]

theorem Amounts.add (left : Amounts first number) (right : Amounts second other)
    (double : IsDouble (number + other)) :
    Amounts (UnpackedFloat.add Format.binary64 first second) (number + other) := by
  cases left with
  | zero sign =>
      rw [zero_add]
      cases right with
      | zero another =>
          change Amounts (if sign == another then .zero sign else .zero .positive) 0
          split
          · exact .zero _
          · exact .zero _
      | finite another canonical bounded => exact .finite another canonical bounded
  | finite sign canonical bounded =>
      cases right with
      | zero another =>
          rw [add_zero]
          exact .finite sign canonical bounded
      | finite another canonical' bounded' =>
          rw [← aligned_sum] at double ⊢
          exact amounts_normalize double

theorem Amounts.neg (amounts : Amounts first number) : Amounts first.neg (-number) := by
  cases amounts with
  | zero sign =>
      rw [neg_zero]
      exact .zero _
  | finite sign canonical bounded =>
      have opposite (size : ℚ) : -onSide sign size = onSide (-sign) size := by
        cases sign with
        | negative => exact neg_neg size
        | positive => rfl
      rw [opposite]
      exact .finite (-sign) canonical bounded

/-- A difference is the sum with the opposite. -/
theorem sub_eq_add_opposite (first second : UnpackedFloat) :
    UnpackedFloat.sub Format.binary64 first second =
      UnpackedFloat.add Format.binary64 first second.neg := by
  have double (sign : Sign) : -(-sign) = sign := by cases sign <;> rfl
  have apply (sign : Sign) (size : Int) : (-sign).apply size = -sign.apply size := by
    cases sign with
    | negative => exact (Int.neg_neg size).symm
    | positive => rfl
  cases first <;> cases second <;>
    simp [UnpackedFloat.sub, UnpackedFloat.add, UnpackedFloat.neg, apply, Int.sub_eq_add_neg]

theorem Amounts.sub (left : Amounts first number) (right : Amounts second other)
    (double : IsDouble (number - other)) :
    Amounts (UnpackedFloat.sub Format.binary64 first second) (number - other) := by
  rw [sub_eq_add_opposite, sub_eq_add_neg]
  rw [sub_eq_add_neg] at double
  exact left.add right.neg double

/-- The product of two doubles is cut off without a loss. Where it has few bits, both doubles
are at the least exponent. -/
theorem cut_canonical {mantissa count : Nat} {exponent place : Int}
    (left : Canonical mantissa exponent) (right : Canonical count place) :
    Cut (mantissa * 2 ^ exponent * (count * 2 ^ place)) (mantissa * count) (exponent + place)
      .exact := by
  have some := left.positive
  have others := right.positive
  -- One double with all its bits is enough for the product to have as many.
  rcases left.full with least | great
  · rcases right.full with same | great
    · exact ⟨tells_product mantissa count exponent place, by omega⟩
    · exact cut_product _ _ (great.trans (Nat.le_mul_of_pos_left count some))
  · exact cut_product _ _ (great.trans (Nat.le_mul_of_pos_right mantissa others))

theorem Amounts.mul (left : Amounts first number) (right : Amounts second other)
    (double : IsDouble (number * other)) :
    Amounts (UnpackedFloat.mul Format.binary64 first second) (number * other) := by
  cases left with
  | zero sign =>
      rw [zero_mul]
      cases right with
      | zero another => exact .zero _
      | finite another canonical bounded => exact .zero _
  | finite sign canonical bounded =>
      cases right with
      | zero another =>
          rw [mul_zero]
          exact .zero _
      | finite another canonical' bounded' =>
          rw [onSide_mul] at double ⊢
          exact amounts_roundWithAccuracy (cut_canonical canonical canonical')
            (mul_pos canonical.size_pos canonical'.size_pos) double

theorem onSide_div (sign another : Sign) (size divisor : ℚ) :
    onSide sign size / onSide another divisor = onSide (sign / another) (size / divisor) := by
  cases sign with
  | negative =>
      cases another with
      | negative => exact neg_div_neg_eq size divisor
      | positive => exact neg_div divisor size
  | positive =>
      cases another with
      | negative => exact div_neg size
      | positive => rfl

theorem Amounts.div (left : Amounts first number) (right : Amounts second other)
    (nonzero : other ≠ 0) (double : IsDouble (number / other)) :
    Amounts (UnpackedFloat.div Format.binary64 first second) (number / other) := by
  cases right with
  | zero another => exact absurd rfl nonzero
  | finite another canonical' bounded' =>
      cases left with
      | zero sign =>
          rw [zero_div]
          exact .zero _
      | finite sign canonical bounded =>
          rw [onSide_div] at double ⊢
          exact amounts_roundWithAccuracy
            (cut_quotient canonical.positive.ne' canonical'.positive _ _)
            (div_pos canonical.size_pos canonical'.size_pos) double

/-! ## Order -/

/-- Of two sizes the one with the greater exponent is greater. -/
theorem size_less {mantissa count : Nat} {exponent place : Int}
    (left : Canonical mantissa exponent) (right : Canonical count place) (less : exponent < place) :
    (mantissa * 2 ^ exponent : ℚ) < count * 2 ^ place := by
  have power : (0 : ℚ) < 2 ^ exponent := by positivity
  have least := left.least
  have great : 2 ^ 52 ≤ count := right.full.resolve_left (by omega)
  have below : (mantissa : ℚ) < 2 ^ 53 := by exact_mod_cast left.fits
  have above : (2 ^ 52 : ℚ) ≤ count := by exact_mod_cast great
  calc (mantissa * 2 ^ exponent : ℚ) < 2 ^ 53 * 2 ^ exponent :=
        mul_lt_mul_of_pos_right below power
    _ = 2 ^ 52 * 2 ^ (exponent + 1) := by rw [zpow_add_one₀ two_ne_zero]; ring
    _ ≤ count * 2 ^ place :=
        mul_le_mul above (zpow_le_zpow_right₀ one_le_two less) (by positivity) (by positivity)

/-- Sizes are compared by their exponents first. -/
theorem compare_sizes {mantissa count : Nat} {exponent place : Int}
    (left : Canonical mantissa exponent) (right : Canonical count place) :
    (compare exponent place).then (compare mantissa count) =
      compare (mantissa * 2 ^ exponent : ℚ) (count * 2 ^ place) := by
  rcases lt_trichotomy exponent place with less | rfl | greater
  · rw [Std.compare_eq_lt.2 less, compare_lt_iff_lt.2 (size_less left right less)]
    rfl
  · have power : (0 : ℚ) < 2 ^ exponent := by positivity
    rw [Std.compare_eq_iff_eq.2 rfl]
    change compare mantissa count = _
    rcases lt_trichotomy mantissa count with less | rfl | greater
    · rw [Std.compare_eq_lt.2 less, compare_lt_iff_lt.2]
      exact mul_lt_mul_of_pos_right (Nat.cast_lt.2 less) power
    · rw [Std.compare_eq_iff_eq.2 rfl, compare_eq_iff_eq.2 rfl]
    · rw [Std.compare_eq_gt.2 greater, compare_gt_iff_gt.2]
      exact mul_lt_mul_of_pos_right (Nat.cast_lt.2 greater) power
  · rw [Std.compare_eq_gt.2 greater, compare_gt_iff_gt.2 (size_less right left greater)]
    rfl

theorem swap_compare (size another : ℚ) :
    (compare size another).swap = compare (-size) (-another) := by
  rcases lt_trichotomy size another with less | rfl | greater
  · rw [compare_lt_iff_lt.2 less, compare_gt_iff_gt.2 (neg_lt_neg less)]
    rfl
  · rw [compare_eq_iff_eq.2 rfl, compare_eq_iff_eq.2 rfl]
    rfl
  · rw [compare_gt_iff_gt.2 greater, compare_lt_iff_lt.2 (neg_lt_neg greater)]
    rfl

/-- Doubles are compared as their numbers. -/
theorem Amounts.compare (left : Amounts first number) (right : Amounts second other) :
    first.compare second = some (Ord.compare number other) := by
  cases left with
  | zero sign =>
      cases right with
      | zero another => rw [compare_eq_iff_eq.2 rfl]; rfl
      | finite another canonical bounded =>
          cases another with
          | negative =>
              rw [compare_gt_iff_gt.2 ((onSide_neg_iff canonical.size_pos).2 rfl)]
              rfl
          | positive =>
              rw [compare_lt_iff_lt.2 ((onSide_pos_iff canonical.size_pos).2 rfl)]
              rfl
  | finite sign canonical bounded =>
      cases right with
      | zero another =>
          cases sign with
          | negative =>
              rw [compare_lt_iff_lt.2 ((onSide_neg_iff canonical.size_pos).2 rfl)]
              rfl
          | positive =>
              rw [compare_gt_iff_gt.2 ((onSide_pos_iff canonical.size_pos).2 rfl)]
              rfl
      | finite another canonical' bounded' =>
          have sizes := compare_sizes canonical canonical'
          cases sign with
          | negative =>
              cases another with
              | negative =>
                  change some (Ordering.swap _) = _
                  rw [sizes, swap_compare]
                  rfl
              | positive =>
                  rw [compare_lt_iff_lt.2 (((onSide_neg_iff canonical.size_pos).2 rfl).trans
                    ((onSide_pos_iff canonical'.size_pos).2 rfl))]
                  rfl
          | positive =>
              cases another with
              | negative =>
                  rw [compare_gt_iff_gt.2 (((onSide_neg_iff canonical'.size_pos).2 rfl).trans
                    ((onSide_pos_iff canonical.size_pos).2 rfl))]
                  rfl
              | positive => exact congrArg some sizes

/-! ## Arithmetic on doubles -/

section Operations

variable {left right : Float}

theorem isNumber_of_pack {result : UnpackedFloat} (amounts : Amounts result number)
    (packed : value.toModel.unpack = UnpackedFloat.unpack Format.binary64
      (UnpackedFloat.pack Format.binary64 result)) : IsNumber value number := by
  unfold IsNumber
  rw [packed, unpack_pack_of_amounts amounts]
  exact amounts

theorem IsNumber.add (first : IsNumber left number) (second : IsNumber right other)
    (double : IsDouble (number + other)) : IsNumber (left + right) (number + other) :=
  isNumber_of_pack (Amounts.add first second double) rfl

theorem IsNumber.sub (first : IsNumber left number) (second : IsNumber right other)
    (double : IsDouble (number - other)) : IsNumber (left - right) (number - other) :=
  isNumber_of_pack (Amounts.sub first second double) rfl

theorem IsNumber.mul (first : IsNumber left number) (second : IsNumber right other)
    (double : IsDouble (number * other)) : IsNumber (left * right) (number * other) :=
  isNumber_of_pack (Amounts.mul first second double) rfl

theorem IsNumber.div (first : IsNumber left number) (second : IsNumber right other)
    (nonzero : other ≠ 0) (double : IsDouble (number / other)) :
    IsNumber (left / right) (number / other) :=
  isNumber_of_pack (Amounts.div first second nonzero double) rfl

theorem IsNumber.neg (first : IsNumber left number) : IsNumber (-left) (-number) :=
  isNumber_of_pack (Amounts.neg first) rfl

theorem IsNumber.less (first : IsNumber left number) (second : IsNumber right other) :
    Scalar.less left right = decide (number < other) := by
  have compared := Amounts.compare first second
  change decide (left < right) = _
  rw [decide_eq_decide]
  change decide (left.toModel < right.toModel) = true ↔ _
  rw [decide_eq_true_iff]
  change (left.toModel.unpack.compare right.toModel.unpack == some .lt) = true ↔ _
  rw [compared, beq_iff_eq, Option.some_inj, compare_lt_iff_lt]

end Operations

end BootTheme
