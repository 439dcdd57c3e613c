import BootTheme.Proofs.Number.Packing

/-!
# Rounding to doubles

Rounding drops bits of a mantissa and keeps two bits that tell where the number lies
between two mantissas. So a number is rounded to the double that it lies nearest to.
-/

namespace BootTheme

open Float.Model Float.Model.UnpackedFloat

/-! ## Dropping bits -/

/-- What a mantissa with its two further bits tells of a number. -/
inductive Tells : ExtendedMantissa → ℚ → Prop where
  | whole (mantissa : Nat) : Tells ⟨mantissa, false, false⟩ mantissa
  | low {mantissa : Nat} {number : ℚ} (above : (mantissa : ℚ) < number)
      (below : number < mantissa + 1 / 2) : Tells ⟨mantissa, false, true⟩ number
  | half (mantissa : Nat) : Tells ⟨mantissa, true, false⟩ (mantissa + 1 / 2)
  | high {mantissa : Nat} {number : ℚ} (above : (mantissa : ℚ) + 1 / 2 < number)
      (below : number < mantissa + 1) : Tells ⟨mantissa, true, true⟩ number

theorem shiftRightOne_even (mantissa : Nat) (roundBit stickyBit : Bool) :
    ExtendedMantissa.shiftRightOne ⟨2 * mantissa, roundBit, stickyBit⟩ =
      ⟨mantissa, false, roundBit || stickyBit⟩ := by
  have quotient : 2 * mantissa / 2 = mantissa := by omega
  have rest : 2 * mantissa % 2 = 0 := by omega
  unfold ExtendedMantissa.shiftRightOne
  dsimp only
  rw [quotient, rest]
  rfl

theorem shiftRightOne_odd (mantissa : Nat) (roundBit stickyBit : Bool) :
    ExtendedMantissa.shiftRightOne ⟨2 * mantissa + 1, roundBit, stickyBit⟩ =
      ⟨mantissa, true, roundBit || stickyBit⟩ := by
  have quotient : (2 * mantissa + 1) / 2 = mantissa := by omega
  have rest : (2 * mantissa + 1) % 2 = 1 := by omega
  unfold ExtendedMantissa.shiftRightOne
  dsimp only
  rw [quotient, rest]
  rfl

namespace Tells

variable {mantissa : ExtendedMantissa} {number : ℚ}

theorem shiftRightOne (tells : Tells mantissa number) :
    Tells mantissa.shiftRightOne (number / 2) := by
  cases tells with
  | whole count =>
      obtain ⟨half, rfl | rfl⟩ := Nat.even_or_odd' count
      · rw [shiftRightOne_even]
        have same : ((2 * half : Nat) : ℚ) / 2 = half := by
          push_cast
          ring
        rw [same]
        exact .whole half
      · rw [shiftRightOne_odd]
        have same : ((2 * half + 1 : Nat) : ℚ) / 2 = half + 1 / 2 := by
          push_cast
          ring
        rw [same]
        exact .half half
  | @low count _ above below =>
      obtain ⟨half, rfl | rfl⟩ := Nat.even_or_odd' count
      · rw [shiftRightOne_even]
        push_cast at above below
        exact .low (by linarith) (by linarith)
      · rw [shiftRightOne_odd]
        push_cast at above below
        exact .high (by linarith) (by linarith)
  | half count =>
      obtain ⟨half, rfl | rfl⟩ := Nat.even_or_odd' count
      · rw [shiftRightOne_even]
        push_cast
        exact .low (by linarith) (by linarith)
      · rw [shiftRightOne_odd]
        push_cast
        exact .high (by linarith) (by linarith)
  | @high count _ above below =>
      obtain ⟨half, rfl | rfl⟩ := Nat.even_or_odd' count
      · rw [shiftRightOne_even]
        push_cast at above below
        exact .low (by linarith) (by linarith)
      · rw [shiftRightOne_odd]
        push_cast at above below
        exact .high (by linarith) (by linarith)

theorem shiftRight (tells : Tells mantissa number) (shift : Nat) :
    Tells (mantissa >>> shift) (number / 2 ^ shift) := by
  change Tells (shift.repeat ExtendedMantissa.shiftRightOne mantissa) _
  induction shift with
  | zero =>
      rw [pow_zero, div_one]
      exact tells
  | succ shift ih =>
      rw [Nat.repeat, pow_succ, ← div_div]
      exact ih.shiftRightOne

end Tells

/-- A count that a number lies nearest to; a tie belongs to an even count. -/
structure Nearest (count : Nat) (number : ℚ) : Prop where
  low : (count : ℚ) - 1 / 2 ≤ number
  high : number ≤ count + 1 / 2
  odd : count % 2 = 1 → (count : ℚ) - 1 / 2 < number ∧ number < count + 1 / 2

/-- The bits round to the nearest count. -/
theorem Tells.roundedMantissa {mantissa : ExtendedMantissa} {number : ℚ} {count : Nat}
    (tells : Tells mantissa number) (nearest : Nearest count number) :
    mantissa.roundedMantissa = count := by
  obtain ⟨least, greatest, odd⟩ := nearest
  cases tells with
  | whole other =>
      have up : ((2 * count : Nat) : ℚ) ≤ (2 * other + 1 : Nat) := by
        push_cast
        linarith
      have down : ((2 * other : Nat) : ℚ) ≤ (2 * count + 1 : Nat) := by
        push_cast
        linarith
      rw [Nat.cast_le] at up down
      change other = count
      omega
  | @low other _ above below =>
      have up : ((count : Nat) : ℚ) < (other + 1 : Nat) := by
        push_cast
        linarith
      have down : ((2 * other : Nat) : ℚ) < (2 * count + 1 : Nat) := by
        push_cast
        linarith
      rw [Nat.cast_lt] at up down
      change other = count
      omega
  | half other =>
      have up : ((count : Nat) : ℚ) ≤ (other + 1 : Nat) := by
        push_cast
        linarith
      have down : ((other : Nat) : ℚ) ≤ (count : Nat) := by linarith
      have even : count % 2 = 0 := by
        by_contra notEven
        obtain ⟨strictLow, strictHigh⟩ := odd (by omega)
        have less : ((count : Nat) : ℚ) < (other + 1 : Nat) := by
          push_cast
          linarith
        have more : ((other : Nat) : ℚ) < (count : Nat) := by linarith
        rw [Nat.cast_lt] at less more
        omega
      rw [Nat.cast_le] at up down
      change other + other % 2 = count
      omega
  | @high other _ above below =>
      have up : ((2 * count : Nat) : ℚ) < (2 * other + 3 : Nat) := by
        push_cast
        linarith
      have down : ((other : Nat) : ℚ) < (count : Nat) := by linarith
      rw [Nat.cast_lt] at up down
      change other + 1 = count
      omega

/-! ## The exponent that is rounded to -/

theorem Tells.bounds {mantissa : ExtendedMantissa} {number : ℚ} (tells : Tells mantissa number) :
    (mantissa.mantissa : ℚ) ≤ number ∧ number < mantissa.mantissa + 1 := by
  cases tells with
  | whole count => exact ⟨le_rfl, by linarith⟩
  | low above below => exact ⟨above.le, by linarith⟩
  | half count => exact ⟨by linarith, by linarith⟩
  | high above below => exact ⟨by linarith, below⟩

theorem mantissa_ofMantissaAndAccuracy (kept : Nat) (accuracy : Accuracy) :
    (ExtendedMantissa.ofMantissaAndAccuracy kept accuracy).mantissa = kept := by
  cases accuracy with
  | exact => rfl
  | inexact order => cases order <;> rfl

/-- The exponent of a double for a number with so many bits before its point. -/
theorem targetExponent_eq (kept : Nat) (exponent : Int) :
    Format.binary64.targetExponent (totalExponent kept exponent) =
      max (kept.log2 + 1 + exponent - 53) (-1074) := rfl

/-- A number that is cut off to a mantissa, with bits enough to round it. -/
structure Cut (number : ℚ) (kept : Nat) (exponent : Int) (accuracy : Accuracy) : Prop where
  tells : Tells (.ofMantissaAndAccuracy kept accuracy) (number / 2 ^ exponent)
  enough : exponent ≤ max (kept.log2 + 1 + exponent - 53) (-1074)

namespace Cut

variable {number : ℚ} {kept : Nat} {exponent : Int} {accuracy : Accuracy}

theorem bounds (cut : Cut number kept exponent accuracy) :
    kept * 2 ^ exponent ≤ number ∧ number < (kept + 1) * 2 ^ exponent := by
  have power : (0 : ℚ) < 2 ^ exponent := by positivity
  obtain ⟨low, high⟩ := cut.tells.bounds
  rw [mantissa_ofMantissaAndAccuracy] at low high
  exact ⟨(le_div_iff₀ power).1 low, (div_lt_iff₀ power).1 high⟩

/-- The leading bit of the mantissa is that of the number. -/
theorem leading (cut : Cut number kept exponent accuracy) (nonzero : kept ≠ 0) :
    (2 : ℚ) ^ (kept.log2 + exponent) ≤ number ∧ number < 2 ^ (kept.log2 + exponent + 1) := by
  obtain ⟨low, high⟩ := cut.bounds
  have power : (0 : ℚ) < 2 ^ exponent := by positivity
  have least : ((2 ^ kept.log2 : Nat) : ℚ) ≤ kept := Nat.cast_le.2 (Nat.log2_self_le nonzero)
  have greatest : ((kept + 1 : Nat) : ℚ) ≤ (2 ^ (kept.log2 + 1) : Nat) :=
    Nat.cast_le.2 Nat.lt_log2_self
  push_cast at least greatest
  constructor
  · rw [zpow_add₀ two_ne_zero, zpow_natCast]
    calc (2 : ℚ) ^ kept.log2 * 2 ^ exponent ≤ kept * 2 ^ exponent := by gcongr
      _ ≤ number := low
  · have split : (2 : ℚ) ^ (kept.log2 + exponent + 1) = 2 ^ (kept.log2 + 1) * 2 ^ exponent := by
      rw [add_right_comm, zpow_add₀ two_ne_zero, ← Nat.cast_succ, zpow_natCast]
    rw [split]
    calc number < (kept + 1) * 2 ^ exponent := high
      _ ≤ 2 ^ (kept.log2 + 1) * 2 ^ exponent := by gcongr

theorem small_of_zero (cut : Cut number 0 exponent accuracy) : number < 2 ^ (-1074 : ℤ) := by
  obtain ⟨low, high⟩ := cut.bounds
  have enough := cut.enough
  have small : exponent ≤ -1074 := by
    rw [Nat.log2_zero] at enough
    omega
  calc number < (0 + 1) * 2 ^ exponent := by exact_mod_cast high
    _ = 2 ^ exponent := by ring
    _ ≤ 2 ^ (-1074 : ℤ) := zpow_le_zpow_right₀ one_le_two small

theorem target_normal (cut : Cut number kept exponent accuracy) {place : Int}
    (normal : -1022 ≤ place) (low : (2 : ℚ) ^ place ≤ number) (high : number < 2 ^ (place + 1)) :
    max (kept.log2 + 1 + exponent - 53) (-1074) = place - 52 := by
  by_cases zero : kept = 0
  · subst zero
    have impossible := low.trans_lt cut.small_of_zero
    rw [zpow_lt_zpow_iff_right₀ one_lt_two] at impossible
    omega
  · obtain ⟨least, greatest⟩ := cut.leading zero
    have below := least.trans_lt high
    have above := low.trans_lt greatest
    rw [zpow_lt_zpow_iff_right₀ one_lt_two] at below above
    omega

theorem target_subnormal (cut : Cut number kept exponent accuracy)
    (small : number < 2 ^ (-1022 : ℤ)) :
    max (kept.log2 + 1 + exponent - 53) (-1074) = -1074 := by
  have enough := cut.enough
  by_cases zero : kept = 0
  · subst zero
    rw [Nat.log2_zero] at enough ⊢
    omega
  · obtain ⟨least, _⟩ := cut.leading zero
    have below := least.trans_lt small
    rw [zpow_lt_zpow_iff_right₀ one_lt_two] at below
    omega

end Cut

/-! ## Rounding to the nearest double -/

theorem eight_pow_le_ten_pow (places : Nat) : (2 : ℚ) ^ (3 * places) ≤ 10 ^ places := by
  rw [pow_mul]
  exact pow_le_pow_left₀ (by norm_num) (by norm_num) places

/-- A mantissa that fits stays as it is. -/
theorem shift_fitting {count : Nat} {exponent : Int} (fits : count < 2 ^ 53)
    (least : -1074 ≤ exponent) :
    shiftToTargetExponent Format.binary64 count exponent .exact =
      (⟨count, false, false⟩, exponent) := by
  have bits : count.log2 ≤ 52 := log2_le_of_lt fits
  have shift : (max (count.log2 + 1 + exponent - 53 : Int) (-1074) - exponent).toNat = 0 := by
    omega
  unfold shiftToTargetExponent shiftToExponent
  dsimp only
  rw [targetExponent_eq, shift]
  exact congrArg (Prod.mk _) (add_zero exponent)

/-- A carry out of the mantissa moves the exponent. -/
theorem shift_carry {exponent : Int} (least : -1074 ≤ exponent) :
    shiftToTargetExponent Format.binary64 (2 ^ 53) exponent .exact =
      (⟨2 ^ 52, false, false⟩, exponent + 1) := by
  have bits : (2 ^ 53 : Nat).log2 = 53 := Nat.log2_two_pow
  have shift : (max ((2 ^ 53 : Nat).log2 + 1 + exponent - 53 : Int) (-1074) - exponent).toNat =
      1 := by
    rw [bits]
    omega
  unfold shiftToTargetExponent shiftToExponent
  dsimp only
  rw [targetExponent_eq, shift]
  rfl

namespace Cut

variable {number : ℚ} {kept : Nat} {exponent : Int} {accuracy : Accuracy}

/-- The mantissa is shifted to the target, and its bits still tell where the number lies. -/
theorem shifted_tells (cut : Cut number kept exponent accuracy) {target : Int}
    (aim : max (kept.log2 + 1 + exponent - 53) (-1074) = target) :
    ∃ mantissa, shiftToTargetExponent Format.binary64 kept exponent accuracy =
      (mantissa, target) ∧ Tells mantissa (number / 2 ^ target) := by
  have enough := cut.enough
  rw [aim] at enough
  have reached : exponent + (target - exponent).toNat = target := by omega
  refine ⟨ExtendedMantissa.ofMantissaAndAccuracy kept accuracy >>>
    (target - exponent).toNat, ?_, ?_⟩
  · unfold shiftToTargetExponent shiftToExponent
    dsimp only
    rw [targetExponent_eq, aim]
    exact congrArg (Prod.mk _) reached
  · have powers : (2 : ℚ) ^ exponent * 2 ^ (target - exponent).toNat = 2 ^ target := by
      rw [← zpow_natCast, ← zpow_add₀ two_ne_zero, reached]
    rw [← powers, ← div_div]
    exact cut.tells.shiftRight _

/-- The shifted mantissa is rounded to the nearest count. -/
theorem shifted (cut : Cut number kept exponent accuracy) {target : Int}
    (aim : max (kept.log2 + 1 + exponent - 53) (-1074) = target) {count : Nat}
    (nearest : Nearest count (number / 2 ^ target)) :
    ∃ mantissa, shiftToTargetExponent Format.binary64 kept exponent accuracy =
      (mantissa, target) ∧ mantissa.roundedMantissa = count := by
  obtain ⟨mantissa, first, tells⟩ := cut.shifted_tells aim
  exact ⟨mantissa, first, tells.roundedMantissa nearest⟩

theorem round_fitting (cut : Cut number kept exponent accuracy) (sign : Sign) {target : Int}
    (aim : max (kept.log2 + 1 + exponent - 53) (-1074) = target) {count : Nat}
    (nearest : Nearest count (number / 2 ^ target)) (positive : 0 < count)
    (fits : count < 2 ^ 53) :
    roundWithAccuracy Format.binary64 sign kept exponent accuracy =
      .finite sign count target positive := by
  have least : -1074 ≤ target := by omega
  obtain ⟨mantissa, first, rounded⟩ := cut.shifted aim nearest
  unfold roundWithAccuracy
  simp only [first, rounded, shift_fitting fits least]
  rw [dif_neg positive.ne']

theorem round_carry (cut : Cut number kept exponent accuracy) (sign : Sign) {target : Int}
    (aim : max (kept.log2 + 1 + exponent - 53) (-1074) = target)
    (nearest : Nearest (2 ^ 53) (number / 2 ^ target)) :
    roundWithAccuracy Format.binary64 sign kept exponent accuracy =
      .finite sign (2 ^ 52) (target + 1) (by decide) := by
  have least : -1074 ≤ target := by omega
  obtain ⟨mantissa, first, rounded⟩ := cut.shifted aim nearest
  unfold roundWithAccuracy
  simp only [first, rounded, shift_carry least]
  rw [dif_neg (by decide)]

end Cut

/-- The numbers around a double. The gap below a power of two is halved, and the ends belong to
even mantissas. -/
structure Around (mantissa : Nat) (exponent : Int) (number : ℚ) : Prop where
  low : (mantissa - if mantissa = 2 ^ 52 then 1 / 4 else 1 / 2) * 2 ^ exponent ≤ number
  high : number ≤ (mantissa + 1 / 2) * 2 ^ exponent
  odd : mantissa % 2 = 1 →
    (mantissa - 1 / 2 : ℚ) * 2 ^ exponent < number ∧ number < (mantissa + 1 / 2) * 2 ^ exponent

namespace Around

variable {mantissa : Nat} {exponent : Int} {number : ℚ}

/-- Half of the least double is below all numbers around a double. -/
theorem least_half (around : Around mantissa exponent number)
    (canonical : Canonical mantissa exponent) : (2 : ℚ) ^ (-1075 : ℤ) ≤ number := by
  refine le_trans ?_ around.low
  have positive : ((1 : Nat) : ℚ) ≤ mantissa := Nat.cast_le.2 canonical.positive
  have half : (1 / 2 : ℚ) ≤ mantissa - if mantissa = 2 ^ 52 then 1 / 4 else 1 / 2 := by
    push_cast at positive
    split
    · linarith
    · linarith
  calc (2 : ℚ) ^ (-1075 : ℤ) = 1 / 2 * 2 ^ (-1074 : ℤ) := by
        rw [one_div, ← zpow_neg_one, ← zpow_add₀ two_ne_zero]
        rfl
    _ ≤ 1 / 2 * 2 ^ exponent := by
        have power := zpow_le_zpow_right₀ (one_le_two : (1 : ℚ) ≤ 2) canonical.least
        linarith
    _ ≤ _ := mul_le_mul_of_nonneg_right half (by positivity)

theorem positive (around : Around mantissa exponent number)
    (canonical : Canonical mantissa exponent) : 0 < number :=
  (zpow_pos two_pos _).trans_le (around.least_half canonical)

/-- On the grid of a double the double is the nearest count. -/
theorem nearest (around : Around mantissa exponent number) :
    Nearest mantissa (number / 2 ^ exponent) := by
  have power : (0 : ℚ) < 2 ^ exponent := by positivity
  have low := around.low
  constructor
  · rw [le_div_iff₀ power]
    refine le_trans ?_ low
    split
    · nlinarith
    · exact le_rfl
  · rw [div_le_iff₀ power]
    exact around.high
  · intro odd
    obtain ⟨above, below⟩ := around.odd odd
    exact ⟨(lt_div_iff₀ power).2 above, (div_lt_iff₀ power).2 below⟩

/-- Numbers around a double lie below a leading bit of it at a power of two only. -/
theorem power_of_two (around : Around mantissa exponent number)
    (canonical : Canonical mantissa exponent) (above : exponent ≠ -1074)
    (below : number < 2 ^ (52 + exponent)) : mantissa = 2 ^ 52 := by
  have power : (0 : ℚ) < 2 ^ exponent := by positivity
  have great := canonical.full.resolve_left above
  by_contra other
  have greater : ((2 ^ 52 + 1 : Nat) : ℚ) ≤ mantissa := Nat.cast_le.2 (by omega)
  have low := around.low
  rw [if_neg other] at low
  have less := low.trans_lt below
  rw [zpow_add₀ two_ne_zero, mul_lt_mul_iff_of_pos_right power] at less
  push_cast at greater
  norm_num at less
  linarith

/-- The number is below twice the least number with the leading bit of the double. -/
theorem high_less (around : Around mantissa exponent number)
    (canonical : Canonical mantissa exponent) : number < 2 ^ (52 + exponent + 1) := by
  have power : (0 : ℚ) < 2 ^ exponent := by positivity
  have fits : ((mantissa + 1 : Nat) : ℚ) ≤ (2 ^ 53 : Nat) := Nat.cast_le.2 canonical.fits
  have same : 52 + exponent + 1 = 53 + exponent := by omega
  rw [same, zpow_add₀ two_ne_zero]
  refine around.high.trans_lt (mul_lt_mul_of_pos_right ?_ power)
  push_cast at fits
  norm_num at fits ⊢
  linarith

/-- Below a power of two the grid is twice as fine, and rounding carries. -/
theorem round_below (around : Around (2 ^ 52) exponent number) (least : -1074 < exponent)
    (below : number < 2 ^ (52 + exponent)) {kept : Nat} {place : Int} {accuracy : Accuracy}
    (cut : Cut number kept place accuracy) (sign : Sign) :
    roundWithAccuracy Format.binary64 sign kept place accuracy =
      .finite sign (2 ^ 52) exponent (by decide) := by
  have power : (0 : ℚ) < 2 ^ exponent := by positivity
  have low := around.low
  rw [if_pos rfl] at low
  have above : (2 : ℚ) ^ (51 + exponent) ≤ number := by
    rw [zpow_add₀ two_ne_zero]
    refine le_trans (mul_le_mul_of_nonneg_right ?_ power.le) low
    norm_num
  have same : 51 + exponent + 1 = 52 + exponent := by omega
  have grid : 51 + exponent - 52 = exponent - 1 := by omega
  have half : (2 : ℚ) ^ (exponent - 1) = 2 ^ exponent / 2 := zpow_sub_one₀ two_ne_zero exponent
  have aim := cut.target_normal (by omega) above (by rw [same]; exact below)
  rw [grid] at aim
  have nearest : Nearest (2 ^ 53) (number / 2 ^ (exponent - 1)) := by
    rw [half]
    constructor
    · rw [le_div_iff₀ (by linarith)]
      refine le_trans (le_of_eq ?_) low
      push_cast
      ring
    · rw [div_le_iff₀ (by linarith)]
      rw [zpow_add₀ two_ne_zero] at below
      norm_num at below ⊢
      linarith
    · intro odd
      cases odd
  have carried := cut.round_carry sign aim nearest
  have back : exponent - 1 + 1 = exponent := by omega
  rw [back] at carried
  exact carried

/-- A number around a double is rounded to it. -/
theorem round (around : Around mantissa exponent number) (canonical : Canonical mantissa exponent)
    {kept : Nat} {place : Int} {accuracy : Accuracy} (cut : Cut number kept place accuracy)
    (sign : Sign) :
    roundWithAccuracy Format.binary64 sign kept place accuracy =
      .finite sign mantissa exponent canonical.positive := by
  have least := canonical.least
  by_cases full : (2 : ℚ) ^ (52 + exponent) ≤ number
  · -- The leading bits of the number and of the double are the same.
    have aim := cut.target_normal (by omega) full (around.high_less canonical)
    have grid : 52 + exponent - 52 = exponent := by omega
    rw [grid] at aim
    exact cut.round_fitting sign aim around.nearest canonical.positive canonical.fits
  · rw [not_le] at full
    by_cases lowest : exponent = -1074
    · subst lowest
      have aim := cut.target_subnormal full
      exact cut.round_fitting sign aim around.nearest canonical.positive canonical.fits
    · have power := around.power_of_two canonical lowest full
      subst power
      exact around.round_below (by omega) full cut sign

end Around

end BootTheme
