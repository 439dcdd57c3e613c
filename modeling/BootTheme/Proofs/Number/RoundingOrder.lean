import BootTheme.Proofs.Number.NearestWhole

/-!
# Rounding keeps the order

A number is rounded to a double on the same side of all other doubles. So a chain of sums and
differences is bounded by doubles step by step, also where steps are not exact or leave the
range of doubles.
-/

namespace BootTheme

open Float.Model Float.Model.UnpackedFloat

/-! ## The order of a number and its double -/

/-- The bits of a mantissa round it to the same side of all counts. -/
theorem Tells.order {mantissa : ExtendedMantissa} {number : ℚ} (tells : Tells mantissa number)
    (count : Nat) :
    ((count : ℚ) ≤ number → count ≤ mantissa.roundedMantissa) ∧
      (number ≤ count → mantissa.roundedMantissa ≤ count) := by
  cases tells with
  | whole other => exact ⟨Nat.cast_le.1, Nat.cast_le.1⟩
  | @low other _ above below =>
      change (_ → count ≤ other) ∧ (_ → other ≤ count)
      constructor
      · intro least
        have less : (count : ℚ) < (other + 1 : Nat) := by push_cast; linarith
        exact Nat.lt_succ_iff.1 (Nat.cast_lt.1 less)
      · intro most
        exact (Nat.cast_lt.1 (above.trans_le most)).le
  | half other =>
      change (_ → count ≤ other + other % 2) ∧ (_ → other + other % 2 ≤ count)
      constructor
      · intro least
        have less : (count : ℚ) < (other + 1 : Nat) := by push_cast; linarith
        have := Nat.cast_lt.1 less
        omega
      · intro most
        have less : (other : ℚ) < count := by linarith
        have := Nat.cast_lt.1 less
        omega
  | @high other _ above below =>
      change (_ → count ≤ other + 1) ∧ (_ → other + 1 ≤ count)
      constructor
      · intro least
        have less : (count : ℚ) < (other + 1 : Nat) := by push_cast; linarith
        exact (Nat.cast_lt.1 less).le
      · intro most
        have less : (other : ℚ) < count := by linarith
        exact Nat.cast_lt.1 less

/-- The exponent that a number is rounded at leaves fifty-three bits before the point, and all of
them are in use unless it is the least. -/
theorem Cut.target_bounds {number : ℚ} {kept : Nat} {exponent : Int} {accuracy : Accuracy}
    (cut : Cut number kept exponent accuracy) {target : Int}
    (aim : max (kept.log2 + 1 + exponent - 53) (-1074) = target) :
    number < 2 ^ (53 + target) ∧ (target = -1074 ∨ (2 : ℚ) ^ (52 + target) ≤ number) := by
  have enough := cut.enough
  by_cases zero : kept = 0
  · subst zero
    rw [Nat.log2_zero] at enough aim
    have least : target = -1074 := by omega
    exact ⟨cut.small_of_zero.trans_le (zpow_le_zpow_right₀ one_le_two (by omega)), .inl least⟩
  · obtain ⟨low, high⟩ := cut.leading zero
    refine ⟨high.trans_le (zpow_le_zpow_right₀ one_le_two (by omega)), ?_⟩
    by_cases least : target = -1074
    · exact .inl least
    · have same : (kept.log2 + exponent : Int) = 52 + target := by omega
      exact .inr (same ▸ low)

/-- An unpacked double before packing and the number that it is, which may be too great. -/
inductive Sized : UnpackedFloat → ℚ → Prop where
  | zero (sign : Sign) : Sized (.zero sign) 0
  | finite (sign : Sign) {mantissa : Nat} {exponent : Int}
      (canonical : Canonical mantissa exponent) :
      Sized (.finite sign mantissa exponent canonical.positive)
        (onSide sign (mantissa * 2 ^ exponent))

/-- A mantissa that is shifted and rounded to a count becomes a double of this many units. -/
theorem sized_of_shifted {kept count : Nat} {exponent target : Int} {accuracy : Accuracy}
    {mantissa : ExtendedMantissa} (sign : Sign)
    (first : shiftToTargetExponent Format.binary64 kept exponent accuracy = (mantissa, target))
    (rounded : mantissa.roundedMantissa = count) (least : -1074 ≤ target)
    (fits : count ≤ 2 ^ 53) (full : target = -1074 ∨ 2 ^ 52 ≤ count) :
    Sized (roundWithAccuracy Format.binary64 sign kept exponent accuracy)
      (onSide sign (count * 2 ^ target)) := by
  unfold roundWithAccuracy
  by_cases carry : count = 2 ^ 53
  · subst carry
    have canonical : Canonical (2 ^ 52) (target + 1) :=
      ⟨by decide, by decide, by omega, .inr le_rfl⟩
    have same : ((2 ^ 53 : Nat) * 2 ^ target : ℚ) = (2 ^ 52 : Nat) * 2 ^ (target + 1) := by
      rw [zpow_add_one₀ two_ne_zero]
      push_cast
      ring
    simp only [first, rounded, shift_carry least]
    rw [same, dif_neg (by decide)]
    exact .finite sign canonical
  · have small : count < 2 ^ 53 := fits.lt_of_ne carry
    simp only [first, rounded, shift_fitting small least]
    by_cases zero : count = 0
    · have none : onSide sign (count * 2 ^ target) = 0 := by
        subst zero
        cases sign <;> simp [onSide]
      rw [none, dif_pos zero]
      exact .zero sign
    · rw [dif_neg zero]
      exact .finite sign ⟨Nat.pos_of_ne_zero zero, small, least, full⟩

/-- A count of units at an exponent that a positive number is rounded to. -/
structure Grid (number : ℚ) (count : Nat) (target : Int) : Prop where
  full : target = -1074 ∨ 2 ^ 52 ≤ count ∧ (2 : ℚ) ^ (52 + target) ≤ number
  low : ∀ other : Nat, other * 2 ^ target ≤ number → other ≤ count
  high : ∀ other : Nat, number ≤ other * 2 ^ target → count ≤ other

theorem Cut.grid {number : ℚ} {kept : Nat} {exponent : Int} {accuracy : Accuracy}
    (cut : Cut number kept exponent accuracy) (sign : Sign) :
    ∃ count target, Grid number count target ∧
      Sized (roundWithAccuracy Format.binary64 sign kept exponent accuracy)
        (onSide sign (count * 2 ^ target)) := by
  obtain ⟨target, aim⟩ : ∃ target, max (kept.log2 + 1 + exponent - 53) (-1074) = target := ⟨_, rfl⟩
  obtain ⟨mantissa, first, tells⟩ := cut.shifted_tells aim
  obtain ⟨below, above⟩ := cut.target_bounds aim
  have power : (0 : ℚ) < 2 ^ target := by positivity
  have least : -1074 ≤ target := by omega
  have low (other : Nat) (reached : other * 2 ^ target ≤ number) :
      other ≤ mantissa.roundedMantissa := (tells.order other).1 ((le_div_iff₀ power).2 reached)
  have high (other : Nat) (reached : number ≤ other * 2 ^ target) :
      mantissa.roundedMantissa ≤ other := (tells.order other).2 ((div_le_iff₀ power).2 reached)
  have fits : mantissa.roundedMantissa ≤ 2 ^ 53 := by
    apply high
    rw [zpow_add₀ two_ne_zero] at below
    exact_mod_cast below.le
  have full : target = -1074 ∨
      2 ^ 52 ≤ mantissa.roundedMantissa ∧ (2 : ℚ) ^ (52 + target) ≤ number := by
    refine above.imp_right fun great => ⟨low _ ?_, great⟩
    rw [zpow_add₀ two_ne_zero] at great
    exact_mod_cast great
  exact ⟨_, target, ⟨full, low, high⟩,
    sized_of_shifted sign first rfl least fits (full.imp_right And.left)⟩

theorem isDouble_neg {number : ℚ} (double : IsDouble number) : IsDouble (-number) := by
  obtain ⟨unpacked, amounts⟩ := double
  exact ⟨_, amounts.neg⟩

theorem Canonical.size_less {mantissa : Nat} {exponent : Int}
    (canonical : Canonical mantissa exponent) :
    (mantissa * 2 ^ exponent : ℚ) < 2 ^ (53 + exponent) := by
  have fits : (mantissa : ℚ) < 2 ^ (53 : ℤ) := by exact_mod_cast canonical.fits
  rw [zpow_add₀ two_ne_zero]
  exact mul_lt_mul_of_pos_right fits (by positivity)

/-- A positive number and what it is rounded to lie on the same side of all doubles. -/
theorem Grid.order {number : ℚ} {count : Nat} {target : Int} (grid : Grid number count target)
    (positive : 0 < number) {double : ℚ} (isDouble : IsDouble double) :
    (double ≤ number → double ≤ count * 2 ^ target) ∧
      (number ≤ double → count * 2 ^ target ≤ double) := by
  have power : (0 : ℚ) < 2 ^ target := by positivity
  by_cases above : 0 < double
  case neg =>
    exact ⟨fun _ => (not_lt.1 above).trans (by positivity),
      fun most => absurd (positive.trans_le most) above⟩
  obtain zero | ⟨sign, mantissa, exponent, canonical, -, rfl⟩ := isDouble_cases isDouble
  · exact absurd zero above.ne'
  · obtain rfl := (onSide_pos_iff canonical.size_pos).1 above
    rw [onSide]
    by_cases coarse : target ≤ exponent
    · -- The double is a count of the units that the number is rounded to.
      obtain ⟨shift, rfl⟩ := Int.le.dest coarse
      have units : (mantissa * 2 ^ (target + shift) : ℚ) =
          (mantissa * 2 ^ shift : Nat) * 2 ^ target := by
        rw [zpow_add₀ two_ne_zero, zpow_natCast]
        push_cast
        ring
      rw [units]
      refine ⟨fun least => ?_, fun most => ?_⟩
      · exact mul_le_mul_of_nonneg_right (Nat.cast_le.2 (grid.low _ least)) power.le
      · exact mul_le_mul_of_nonneg_right (Nat.cast_le.2 (grid.high _ most)) power.le
    · -- A finer double is smaller than all that are rounded to these units.
      have least := canonical.least
      obtain ⟨great, reached⟩ := grid.full.resolve_left (by omega)
      have below : (mantissa * 2 ^ exponent : ℚ) < 2 ^ (52 + target) :=
        canonical.size_less.trans_le (zpow_le_zpow_right₀ one_le_two (by omega))
      have size : (2 : ℚ) ^ (52 + target) ≤ count * 2 ^ target := by
        rw [zpow_add₀ two_ne_zero]
        exact mul_le_mul_of_nonneg_right (by exact_mod_cast great) power.le
      exact ⟨fun _ => (below.trans_le size).le,
        fun most => absurd (below.trans_le reached) (not_lt.2 most)⟩

/-- What a number is rounded to: it lies on the same side of all doubles, and it is a double
that the number is around. -/
structure Rounds (number rounded : ℚ) : Prop where
  order : ∀ sign double, IsDouble double →
    onSide sign double ≤ onSide sign number → onSide sign double ≤ onSide sign rounded
  near : ∀ mantissa exponent, Canonical mantissa exponent →
    Around mantissa exponent number → rounded = mantissa * 2 ^ exponent

theorem Cut.rounds {number : ℚ} {kept : Nat} {exponent : Int} {accuracy : Accuracy}
    (cut : Cut number kept exponent accuracy) (positive : 0 < number) (sign : Sign) :
    ∃ rounded, Sized (roundWithAccuracy Format.binary64 sign kept exponent accuracy) rounded ∧
      Rounds (onSide sign number) rounded := by
  obtain ⟨count, target, grid, sized⟩ := cut.grid sign
  refine ⟨_, sized, ?_, ?_⟩
  · intro side double isDouble reached
    obtain ⟨low, high⟩ := grid.order positive isDouble
    obtain ⟨lowNeg, highNeg⟩ := grid.order positive (isDouble_neg isDouble)
    cases side with
    | positive =>
        cases sign with
        | positive => exact low reached
        | negative => exact le_neg.1 (highNeg (le_neg.1 reached))
    | negative =>
        cases sign with
        | positive => exact neg_le_neg (high (neg_le_neg_iff.1 reached))
        | negative =>
            rw [onSide, onSide, onSide, neg_neg] at reached ⊢
            exact lowNeg reached
  · intro mantissa place canonical around
    obtain rfl := (onSide_pos_iff positive).1 (around.positive canonical)
    rw [around.round canonical cut .positive] at sized
    generalize onSide .positive (count * 2 ^ target) = rounded at sized
    cases sized
    rfl

/-- A double is rounded to itself. -/
theorem rounds_self (sign : Sign) {mantissa : Nat} {exponent : Int}
    (canonical : Canonical mantissa exponent) :
    Rounds (onSide sign (mantissa * 2 ^ exponent)) (onSide sign (mantissa * 2 ^ exponent)) where
  order _ _ _ := id
  near other place another around := by
    obtain rfl := (onSide_pos_iff canonical.size_pos).1 (around.positive another)
    have cut := cut_aligned exponent canonical.positive
    have same := (Around.self mantissa exponent).round canonical cut .positive
    rw [around.round another cut .positive] at same
    cases same
    rfl

theorem rounds_zero : Rounds 0 0 where
  order _ _ _ := id
  near _ _ canonical around := absurd (around.positive canonical) (lt_irrefl 0)

/-- The normal form of a mantissa and an exponent is what their number is rounded to. -/
theorem rounds_normalize (mantissa place : Int) :
    ∃ rounded, Sized (UnpackedFloat.normalize Format.binary64 mantissa place .positive) rounded ∧
      Rounds (mantissa * 2 ^ place) rounded := by
  have rounds (sign : Sign) {count : Nat} (positive : 0 < count)
      (same : (mantissa * 2 ^ place : ℚ) = onSide sign (count * 2 ^ place)) :
      ∃ rounded, Sized (UnpackedFloat.round Format.binary64 sign count place) rounded ∧
        Rounds (mantissa * 2 ^ place) rounded := by
    have some : (0 : ℚ) < count := Nat.cast_pos.2 positive
    rw [same]
    exact (cut_aligned place positive).rounds (by positivity) sign
  unfold UnpackedFloat.normalize
  rcases lt_trichotomy mantissa 0 with below | rfl | above
  · have count : (((-mantissa).toNat : Nat) : ℚ) = -mantissa := by
      exact_mod_cast Int.toNat_of_nonneg (by omega : 0 ≤ -mantissa)
    rw [Std.compare_eq_lt.2 below]
    refine rounds .negative (by omega) ?_
    rw [count, onSide, neg_mul, neg_neg]
  · refine ⟨0, .zero .positive, ?_⟩
    rw [Int.cast_zero, zero_mul]
    exact rounds_zero
  · have count : ((mantissa.toNat : Nat) : ℚ) = mantissa := by
      exact_mod_cast Int.toNat_of_nonneg above.le
    rw [Std.compare_eq_gt.2 above]
    refine rounds .positive (by omega) ?_
    rw [count, onSide]

variable {first second : UnpackedFloat} {number other : ℚ} {left right : Float} {sign : Sign}

theorem onSide_self (sign : Sign) (number : ℚ) : onSide sign (onSide sign number) = number := by
  cases sign with
  | negative => exact neg_neg number
  | positive => rfl

/-- The sum of two doubles is what the sum of their numbers is rounded to. -/
theorem Amounts.add_rounds (left : Amounts first number) (right : Amounts second other) :
    ∃ rounded, Sized (UnpackedFloat.add Format.binary64 first second) rounded ∧
      Rounds (number + other) rounded := by
  cases left with
  | zero sign =>
      cases right with
      | zero another =>
          refine ⟨0, ?_, by simpa using rounds_zero⟩
          change Sized (if sign == another then .zero sign else .zero .positive) 0
          split
          · exact .zero _
          · exact .zero _
      | finite another canonical bounded =>
          rw [zero_add]
          exact ⟨_, .finite another canonical, rounds_self another canonical⟩
  | finite sign canonical bounded =>
      cases right with
      | zero another =>
          rw [add_zero]
          exact ⟨_, .finite sign canonical, rounds_self sign canonical⟩
      | finite another canonical' bounded' =>
          rw [← aligned_sum]
          exact rounds_normalize _ _

/-! ## Sums that may be infinite -/

/-- The infinity on a side. -/
def infinite : Sign → Float
  | .negative => -1 / 0
  | .positive => 1 / 0

theorem unpack_infinity (sign : Sign) : (infinite sign).toModel.unpack = .infinity sign := by
  cases sign <;> rfl

theorem onSide_opposite (sign : Sign) (number : ℚ) :
    onSide (-sign) number = -onSide sign number := by
  cases sign with
  | negative => exact (neg_neg number).symm
  | positive => rfl

theorem isDouble_less {double : ℚ} (isDouble : IsDouble double) (sign : Sign) :
    onSide sign double < 2 ^ (1024 : ℤ) := by
  obtain rfl | ⟨another, mantissa, exponent, canonical, bounded, rfl⟩ := isDouble_cases isDouble
  · cases sign <;> simp [onSide]
  · have size : (mantissa * 2 ^ exponent : ℚ) < 2 ^ (1024 : ℤ) :=
      canonical.size_less.trans_le (zpow_le_zpow_right₀ one_le_two (by omega))
    have positive := canonical.size_pos
    have limit : (0 : ℚ) < 2 ^ (1024 : ℤ) := by positivity
    generalize (2 : ℚ) ^ (1024 : ℤ) = most at size limit ⊢
    cases sign <;> cases another <;> simp only [onSide] <;> linarith

/-- The double that a number is rounded to, or an infinity where this is too great for a
double. -/
def RoundsTo (number : ℚ) (value : Float) : Prop :=
  ∃ rounded, Rounds number rounded ∧
    (IsNumber value rounded ∨
      ∃ sign, value = infinite sign ∧
        ∀ double, IsDouble double → onSide sign double < onSide sign rounded)

theorem unpack_packedInfinity (sign : Sign) :
    UnpackedFloat.unpack Format.binary64 (packedInfinity Format.binary64 sign) =
      .infinity sign := by
  cases sign <;> rfl

/-- A size that is too great for packing is greater than all doubles. -/
theorem Canonical.great {mantissa : Nat} {exponent : Int} (canonical : Canonical mantissa exponent)
    (unbounded : 971 < exponent) : (2 : ℚ) ^ (1024 : ℤ) ≤ mantissa * 2 ^ exponent := by
  have full : (2 : ℚ) ^ (52 : ℤ) ≤ mantissa := by
    exact_mod_cast canonical.full.resolve_left (by omega)
  have power : (2 : ℚ) ^ (972 : ℤ) ≤ 2 ^ exponent := zpow_le_zpow_right₀ one_le_two (by omega)
  calc (2 : ℚ) ^ (1024 : ℤ) = 2 ^ (52 : ℤ) * 2 ^ (972 : ℤ) := zpow_add₀ two_ne_zero 52 972
    _ ≤ mantissa * 2 ^ exponent := mul_le_mul full power (by positivity) (by positivity)

theorem roundsTo_of_pack {value : Float} {result : UnpackedFloat} {rounded : ℚ}
    (sized : Sized result rounded) (rounds : Rounds number rounded)
    (packed : value.toModel.unpack = UnpackedFloat.unpack Format.binary64
      (UnpackedFloat.pack Format.binary64 result)) : RoundsTo number value := by
  refine ⟨rounded, rounds, ?_⟩
  cases sized with
  | zero sign => exact .inl (isNumber_of_pack (.zero sign) packed)
  | @finite sign mantissa exponent canonical =>
      by_cases bounded : exponent ≤ 971
      · exact .inl (isNumber_of_pack (.finite sign canonical bounded) packed)
      · have signed : Signed sign (.finite sign mantissa exponent canonical.positive) := rfl
        have unbounded : ¬ Bounded (.finite sign mantissa exponent canonical.positive) :=
          fun less => bounded (Int.lt_add_one_iff.1 less)
        refine .inr ⟨sign, eq_of_unpack ?_, fun double isDouble => ?_⟩
        · rw [packed, pack_of_not_bounded signed unbounded, unpack_packedInfinity, unpack_infinity]
        · rw [onSide_self]
          exact (isDouble_less isDouble sign).trans_le (canonical.great (not_le.1 bounded))

theorem IsNumber.add_roundsTo (first : IsNumber left number) (second : IsNumber right other) :
    RoundsTo (number + other) (left + right) := by
  obtain ⟨rounded, sized, rounds⟩ := Amounts.add_rounds first second
  exact roundsTo_of_pack sized rounds rfl

theorem unpack_add (left right : Float) :
    (left + right).toModel.unpack = UnpackedFloat.unpack Format.binary64
      (UnpackedFloat.pack Format.binary64
        (UnpackedFloat.add Format.binary64 left.toModel.unpack right.toModel.unpack)) := rfl

/-- A sum with an infinity on either side. -/
theorem Amounts.add_infinity (amounts : Amounts first number) (sign : Sign) :
    UnpackedFloat.add Format.binary64 (.infinity sign) first = .infinity sign ∧
      UnpackedFloat.add Format.binary64 first (.infinity sign) = .infinity sign := by
  cases amounts with
  | zero another => exact ⟨rfl, rfl⟩
  | finite another canonical bounded => exact ⟨rfl, rfl⟩

theorem eq_infinite_of_add
    (sum : UnpackedFloat.add Format.binary64 left.toModel.unpack right.toModel.unpack =
      .infinity sign) : left + right = infinite sign := by
  apply eq_of_unpack
  rw [unpack_add, sum, unpack_infinity]
  exact unpack_packedInfinity sign

theorem infinite_add (isNumber : IsNumber right other) (sign : Sign) :
    infinite sign + right = infinite sign := by
  apply eq_infinite_of_add
  rw [unpack_infinity]
  exact (Amounts.add_infinity isNumber sign).1

theorem add_infinite (isNumber : IsNumber left number) (sign : Sign) :
    left + infinite sign = infinite sign := by
  apply eq_infinite_of_add
  rw [unpack_infinity]
  exact (Amounts.add_infinity isNumber sign).2

theorem infinite_add_infinite (sign : Sign) : infinite sign + infinite sign = infinite sign := by
  apply eq_infinite_of_add
  rw [unpack_infinity]
  cases sign <;> rfl

/-- A difference of a double and a number is the sum with the opposite of the number. -/
theorem sub_eq_add_neg_number (isNumber : IsNumber right other) : left - right = left + -right := by
  apply eq_of_unpack
  have opposite : (-right).toModel.unpack = right.toModel.unpack.neg :=
    unpack_pack_of_amounts (Amounts.neg isNumber)
  rw [unpack_add, opposite, ← sub_eq_add_opposite]
  rfl

/-! ## Doubles at a bound or further on a side -/

/-- A double that is at a bound or further on a side. -/
def Reaches (sign : Sign) (bound : ℚ) (value : Float) : Prop :=
  (∃ number, IsNumber value number ∧ onSide sign bound ≤ onSide sign number) ∨
    value = infinite sign

/-- A double that is a number or an infinity. -/
def Defined (value : Float) : Prop :=
  (∃ number, IsNumber value number) ∨ ∃ sign, value = infinite sign

variable {value : Float} {bound reach : ℚ}

theorem Reaches.defined (reaches : Reaches sign bound value) : Defined value := by
  obtain ⟨number, isNumber, -⟩ | infinity := reaches
  · exact .inl ⟨number, isNumber⟩
  · exact .inr ⟨sign, infinity⟩

theorem IsNumber.reaches (isNumber : IsNumber value number)
    (further : onSide sign bound ≤ onSide sign number) : Reaches sign bound value :=
  .inl ⟨number, isNumber, further⟩

theorem Reaches.mono (reaches : Reaches sign bound value)
    (less : onSide sign reach ≤ onSide sign bound) : Reaches sign reach value :=
  reaches.imp_left fun ⟨number, isNumber, further⟩ => ⟨number, isNumber, less.trans further⟩

theorem RoundsTo.defined (rounds : RoundsTo number value) : Defined value := by
  obtain ⟨rounded, -, isNumber | ⟨sign, infinity, -⟩⟩ := rounds
  · exact .inl ⟨rounded, isNumber⟩
  · exact .inr ⟨sign, infinity⟩

/-- What is rounded to a number or an infinity reaches all doubles that the number does. -/
theorem reaches_of_rounded {rounded : ℚ} (isDouble : IsDouble bound)
    (outcome : IsNumber value rounded ∨ ∃ sign, value = infinite sign ∧
      ∀ double, IsDouble double → onSide sign double < onSide sign rounded)
    (further : onSide sign bound ≤ onSide sign rounded) : Reaches sign bound value := by
  obtain isNumber | ⟨another, infinity, beyond⟩ := outcome
  · exact isNumber.reaches further
  · by_cases same : another = sign
    · exact .inr (same ▸ infinity)
    · have opposite : another = -sign := by
        cases another <;> cases sign <;> first | rfl | contradiction
      have less := beyond bound isDouble
      rw [opposite, onSide_opposite, onSide_opposite, neg_lt_neg_iff] at less
      exact absurd less (not_lt.2 further)

theorem RoundsTo.reaches (rounds : RoundsTo number value) (isDouble : IsDouble bound)
    (further : onSide sign bound ≤ onSide sign number) : Reaches sign bound value := by
  obtain ⟨rounded, rounds, outcome⟩ := rounds
  exact reaches_of_rounded isDouble outcome (rounds.order sign bound isDouble further)

/-- A number around a double is rounded to it. -/
theorem RoundsTo.reaches_around (rounds : RoundsTo number value) {mantissa : Nat} {exponent : Int}
    (canonical : Canonical mantissa exponent) (around : Around mantissa exponent number)
    (isDouble : IsDouble (mantissa * 2 ^ exponent)) :
    Reaches sign (mantissa * 2 ^ exponent) value := by
  obtain ⟨rounded, rounds, outcome⟩ := rounds
  rw [rounds.near mantissa exponent canonical around] at outcome
  exact reaches_of_rounded isDouble outcome le_rfl

theorem onSide_add (sign : Sign) (number other : ℚ) :
    onSide sign (number + other) = onSide sign number + onSide sign other := by
  cases sign with
  | negative => exact neg_add number other
  | positive => rfl

/-- A sum reaches a double that the bounds of its parts add up to. -/
theorem Reaches.add (first : Reaches sign bound left) (second : Reaches sign reach right)
    {sum : ℚ} (isDouble : IsDouble sum) (further : onSide sign sum ≤ onSide sign (bound + reach)) :
    Reaches sign sum (left + right) := by
  obtain ⟨number, isNumber, low⟩ | rfl := first
  · obtain ⟨other, isOther, high⟩ | rfl := second
    · refine (isNumber.add_roundsTo isOther).reaches isDouble (further.trans ?_)
      rw [onSide_add, onSide_add]
      exact add_le_add low high
    · exact .inr (add_infinite isNumber sign)
  · obtain ⟨other, isOther, -⟩ | rfl := second
    · exact .inr (infinite_add isOther sign)
    · exact .inr (infinite_add_infinite sign)

theorem Reaches.sub (first : Reaches sign bound left) (isNumber : IsNumber right other)
    {rest : ℚ} (isDouble : IsDouble rest)
    (further : onSide sign rest ≤ onSide sign (bound - other)) :
    Reaches sign rest (left - right) := by
  rw [sub_eq_add_neg_number isNumber]
  exact first.add (isNumber.neg.reaches le_rfl) isDouble (by rwa [← sub_eq_add_neg])

theorem not_isNumber_infinite (sign : Sign) : ¬ IsNumber (infinite sign) number := by
  intro isNumber
  unfold IsNumber at isNumber
  rw [unpack_infinity] at isNumber
  cases isNumber

theorem IsNumber.unique (first : IsNumber value number) (second : IsNumber value other) :
    number = other := by
  have low := (first.less second).symm.trans (first.less first)
  have high := (second.less first).symm.trans (first.less first)
  rw [decide_eq_decide, iff_false_right (lt_irrefl number)] at low high
  exact le_antisymm (not_lt.1 high) (not_lt.1 low)

theorem Reaches.le (low : Reaches .positive bound value) (high : Reaches .negative reach value) :
    bound ≤ reach := by
  obtain ⟨number, isNumber, above⟩ | rfl := low
  · obtain ⟨other, isOther, below⟩ | rfl := high
    · rw [← isNumber.unique isOther] at below
      exact above.trans (neg_le_neg_iff.1 below)
    · exact absurd isNumber (not_isNumber_infinite _)
  · obtain ⟨other, isOther, -⟩ | same := high
    · exact absurd isOther (not_isNumber_infinite _)
    · exact absurd (congrArg (fun value => (doubleParts value).negative) same) (by decide +kernel)

/-! ## The larger of two doubles, and whole numbers near them -/

theorem isNaN_of_defined (defined : Defined value) : value.isNaN = false := by
  change value.toModel.unpack.isNaN = false
  obtain ⟨number, isNumber⟩ | ⟨sign, rfl⟩ := defined
  · unfold IsNumber at isNumber
    generalize value.toModel.unpack = unpacked at isNumber
    cases isNumber <;> rfl
  · rw [unpack_infinity]
    rfl

theorem Amounts.compare_infinity (amounts : Amounts first number) (sign : Sign) :
    UnpackedFloat.compare (.infinity sign) first =
      some (match sign with | .negative => .lt | .positive => .gt) := by
  cases amounts with
  | zero another => cases sign <;> rfl
  | finite another canonical bounded => cases sign <;> rfl

theorem less_infinite (isNumber : IsNumber right other) (sign : Sign) :
    Scalar.less (infinite sign) right = (sign == .negative) := by
  have compared := Amounts.compare_infinity isNumber sign
  rw [← unpack_infinity] at compared
  change decide (decide ((infinite sign).toModel < right.toModel) = true) = _
  rw [Bool.eq_iff_iff, decide_eq_true_iff, decide_eq_true_iff]
  change ((infinite sign).toModel.unpack.compare right.toModel.unpack == some .lt) = true ↔ _
  rw [compared]
  cases sign <;> decide

/-- The larger of a double and a number is one of both, and the other is not above it. -/
theorem larger_cases (defined : Defined left) (isNumber : IsNumber right other) :
    (Scalar.larger left right = left ∧ Reaches .positive other left) ∨
      (Scalar.larger left right = right ∧ Reaches .negative other left) := by
  change (ite _ _ _ = left ∧ _) ∨ (ite _ _ _ = right ∧ _)
  rw [isNaN_of_defined defined, if_neg Bool.false_ne_true]
  have less : (left < right) ↔ Scalar.less left right = true := (decide_eq_true_iff).symm
  obtain ⟨number, first⟩ | ⟨sign, rfl⟩ := defined
  · rw [first.less isNumber, decide_eq_true_iff] at less
    by_cases below : number < other
    · exact .inr ⟨if_pos (less.2 below), first.reaches (neg_le_neg below.le)⟩
    · exact .inl ⟨if_neg (less.not.2 below), first.reaches (not_lt.1 below)⟩
  · rw [less_infinite isNumber] at less
    cases sign with
    | negative => exact .inr ⟨if_pos (less.2 rfl), .inr rfl⟩
    | positive => exact .inl ⟨if_neg (fun below => Bool.noConfusion (less.1 below)), .inr rfl⟩

theorem larger_reaches_positive (defined : Defined left) (isNumber : IsNumber right other)
    (either : Reaches .positive bound left ∨ bound ≤ other) :
    Reaches .positive bound (Scalar.larger left right) := by
  obtain ⟨same, above⟩ | ⟨same, below⟩ := larger_cases defined isNumber
  · rw [same]
    exact either.elim id fun low => above.mono low
  · rw [same]
    exact isNumber.reaches (either.elim (fun low => low.le below) id)

theorem larger_reaches_negative (reaches : Reaches .negative bound left)
    (isNumber : IsNumber right other) (high : other ≤ bound) :
    Reaches .negative bound (Scalar.larger left right) := by
  obtain ⟨same, -⟩ | ⟨same, -⟩ := larger_cases reaches.defined isNumber
  · rwa [same]
  · rw [same]
    exact isNumber.reaches (neg_le_neg high)

/-! ### Whole bounds -/

section Whole

variable {whole another : Int}

theorem Reaches.add_whole (first : Reaches sign (whole : ℚ) left)
    (second : Reaches sign (another : ℚ) right) (fits : (whole + another).natAbs < 2 ^ 53) :
    Reaches sign ((whole + another : Int) : ℚ) (left + right) :=
  first.add second (isDouble_intCast fits) (by rw [Int.cast_add])

theorem Reaches.sub_whole (first : Reaches sign (whole : ℚ) left)
    (isNumber : IsNumber right (another : ℚ)) (fits : (whole - another).natAbs < 2 ^ 53) :
    Reaches sign ((whole - another : Int) : ℚ) (left - right) :=
  first.sub isNumber (isDouble_intCast fits) (by rw [Int.cast_sub])

end Whole

/-! ## One more than a great double -/

/-- A great double has no places behind the point. -/
theorem isDouble_great {double : ℚ} (isDouble : IsDouble double) (great : 2 ^ 52 ≤ double) :
    ∃ mantissa shift : Nat, Canonical mantissa shift ∧ double = mantissa * 2 ^ (shift : ℤ) := by
  obtain rfl | ⟨sign, mantissa, exponent, canonical, -, rfl⟩ := isDouble_cases isDouble
  · norm_num at great
  · have positive : (0 : ℚ) < onSide sign (mantissa * 2 ^ exponent) := by linarith
    obtain rfl := (onSide_pos_iff canonical.size_pos).1 positive
    have size : (2 : ℚ) ^ (52 : ℤ) < 2 ^ (53 + exponent) :=
      lt_of_le_of_lt (by exact_mod_cast great) canonical.size_less
    rw [zpow_lt_zpow_iff_right₀ one_lt_two] at size
    obtain ⟨shift, rfl⟩ := Int.eq_ofNat_of_zero_le (by omega : 0 ≤ exponent)
    exact ⟨mantissa, shift, canonical, rfl⟩

/-- A great double is a count. -/
theorem exists_count_of_great {double : ℚ} (isDouble : IsDouble double) (great : 2 ^ 52 ≤ double) :
    ∃ count : Nat, double = count := by
  obtain ⟨mantissa, shift, -, same⟩ := isDouble_great isDouble great
  refine ⟨mantissa * 2 ^ shift, ?_⟩
  rw [same, zpow_natCast]
  push_cast
  rfl

/-- One less than a great double is a double as well if no bits are lost. -/
theorem isDouble_pred {mantissa shift : Nat} (positive : 0 < mantissa)
    (small : mantissa * 2 ^ shift ≤ 2 ^ 53) : IsDouble (mantissa * 2 ^ (shift : ℤ) - 1) := by
  have some : 0 < mantissa * 2 ^ shift := Nat.mul_pos positive (Nat.two_pow_pos _)
  have before : (mantissa * 2 ^ (shift : ℤ) - 1 : ℚ) =
      (((mantissa * 2 ^ shift : Nat) - 1 : Int) : ℚ) := by
    push_cast
    rw [zpow_natCast]
  rw [before]
  exact isDouble_intCast (by omega)

/-- Numbers up to one above a double are around it if the gap to the next double is at least
four, or if it is two and the mantissa is even. -/
theorem around_next {mantissa shift : Nat} (coarse : 1 ≤ shift)
    (even : shift = 1 → mantissa % 2 = 0) (low : mantissa * 2 ^ (shift : ℤ) ≤ number)
    (high : number ≤ mantissa * 2 ^ (shift : ℤ) + 1) :
    Around mantissa shift number := by
  have unit : (2 : ℚ) ^ (1 : ℤ) ≤ 2 ^ (shift : ℤ) :=
    zpow_le_zpow_right₀ one_le_two (by exact_mod_cast coarse)
  rw [zpow_one] at unit
  constructor
  · split <;> linarith
  · linarith
  · intro odd
    have four : (4 : ℚ) ≤ 2 ^ (shift : ℤ) :=
      calc (4 : ℚ) = 2 ^ (2 : ℤ) := by norm_num
        _ ≤ 2 ^ (shift : ℤ) := zpow_le_zpow_right₀ one_le_two (by omega)
    constructor <;> linarith

/-- In front of a double of odd mantissa whose neighbours are two apart from it, the double before
is even, so that one less than the double is rounded to it. -/
theorem reaches_before_odd {half : Nat} (full : 2 ^ 52 ≤ half) (fits : half < 2 ^ 53)
    (even : half % 2 = 0) (rounds : RoundsTo number value)
    (below : number ≤ half * 2 ^ ((1 : Nat) : ℤ) + 1) :
    Reaches .negative (half * 2 ^ ((1 : Nat) : ℤ)) value := by
  have canonical : Canonical half (1 : Nat) := ⟨by omega, fits, by decide, .inr full⟩
  have isDouble : IsDouble (half * 2 ^ ((1 : Nat) : ℤ)) :=
    ⟨_, .finite .positive canonical (by decide)⟩
  by_cases less : number ≤ half * 2 ^ ((1 : Nat) : ℤ)
  · exact rounds.reaches isDouble (neg_le_neg less)
  · exact rounds.reaches_around canonical
      (around_next le_rfl (fun _ => even) (not_le.1 less).le below) isDouble

/-- One more than at most a double is at most the double after rounding if the neighbours are
further than one apart from it. -/
theorem reaches_add_one_of_coarse {mantissa shift : Nat} (canonical : Canonical mantissa shift)
    (coarse : 1 ≤ shift) (even : shift = 1 → mantissa % 2 = 0)
    (isDouble : IsDouble (mantissa * 2 ^ (shift : ℤ)))
    (reaches : Reaches .negative (mantissa * 2 ^ (shift : ℤ)) value) (one : IsNumber right 1) :
    Reaches .negative (mantissa * 2 ^ (shift : ℤ)) (value + right) := by
  obtain ⟨rounded, isNumber, high⟩ | rfl := reaches
  · have sum := isNumber.add_roundsTo one
    have high := neg_le_neg_iff.1 high
    by_cases within : rounded + 1 ≤ mantissa * 2 ^ (shift : ℤ)
    · exact sum.reaches isDouble (neg_le_neg within)
    · exact sum.reaches_around canonical
        (around_next coarse even (not_le.1 within).le (by linarith)) isDouble
  · exact .inr (infinite_add one .negative)

/-- Rounding a number that is at least one less than a great double, adding one and rounding again
does not lead beyond the double. -/
theorem reaches_add_one {double : ℚ} (isDouble : IsDouble double) (great : 2 ^ 52 ≤ double)
    (rounds : RoundsTo number value) (below : number ≤ double - 1) (one : IsNumber right 1) :
    Reaches .negative double (value + right) := by
  obtain ⟨mantissa, shift, canonical, rfl⟩ := isDouble_great isDouble great
  have fits := canonical.fits
  have next {bound : ℚ} (reaches : Reaches .negative bound value)
      (enough : bound + 1 ≤ mantissa * 2 ^ (shift : ℤ)) :
      Reaches .negative (mantissa * 2 ^ (shift : ℤ)) (value + right) :=
    reaches.add (one.reaches le_rfl) isDouble (neg_le_neg enough)
  by_cases small : mantissa * 2 ^ shift ≤ 2 ^ 53
  · have before := isDouble_pred canonical.positive small
    exact next (rounds.reaches before (neg_le_neg below)) (by linarith)
  have coarse : 1 ≤ shift := by
    by_contra none
    obtain rfl : shift = 0 := by omega
    omega
  by_cases odd : shift = 1 ∧ mantissa % 2 = 1
  · obtain ⟨rfl, odd⟩ := odd
    have full := canonical.full.resolve_left (by decide)
    obtain ⟨half, rfl⟩ : ∃ half, mantissa = half + 1 := ⟨mantissa - 1, by omega⟩
    have gap : ((half + 1 : Nat) * 2 ^ ((1 : Nat) : ℤ) : ℚ) = half * 2 ^ ((1 : Nat) : ℤ) + 2 := by
      push_cast
      ring
    rw [gap] at below
    have before : Reaches .negative (half * 2 ^ ((1 : Nat) : ℤ)) value :=
      reaches_before_odd (by omega) (by omega) (by omega) rounds (by linarith)
    exact next before (by linarith)
  · exact reaches_add_one_of_coarse canonical coarse (by omega) isDouble
      (rounds.reaches isDouble (neg_le_neg (by linarith))) one

end BootTheme
