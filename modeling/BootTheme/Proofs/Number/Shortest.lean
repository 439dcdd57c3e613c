import BootTheme.Number.Shortest
import BootTheme.Proofs.Number.Rounding

/-!
# The shortest decimal lies around its double

The search runs from the leading digit down to a grid that is finer than the gap between
two doubles, so it ends at a decimal that rounds to the number.
-/

namespace BootTheme

namespace Rounding

/-! ## Grids of decimals -/

theorem powerOfTen_eq (place : Int) :
    0 < (powerOfTen place).2 ∧
      ((powerOfTen place).1 : ℚ) / (powerOfTen place).2 = 10 ^ place := by
  cases place with
  | ofNat up =>
      refine ⟨Nat.one_pos, ?_⟩
      change ((10 ^ up : Nat) : ℚ) / (1 : Nat) = _
      rw [Int.ofNat_eq_natCast, zpow_natCast]
      push_cast
      exact div_one _
  | negSucc down =>
      refine ⟨Nat.pow_pos (by decide), ?_⟩
      change ((1 : Nat) : ℚ) / (10 ^ (down + 1) : Nat) = _
      rw [zpow_negSucc]
      push_cast
      exact one_div _

variable {range : Rounding}

/-- The exact number of the range. -/
def number (range : Rounding) : ℚ := range.value / range.denominator

/-- A decimal of the range lies between its ends, which may belong to it. -/
theorem bounds_of_holds (positive : 0 < range.denominator) {digits : Nat} {place : Int}
    (inside : range.holds digits place = true) :
    (range.low : ℚ) / range.denominator ≤ digits * 10 ^ place ∧
      (digits : ℚ) * 10 ^ place ≤ range.high / range.denominator ∧
      (range.closed = false → (range.low : ℚ) / range.denominator < digits * 10 ^ place ∧
        (digits : ℚ) * 10 ^ place < range.high / range.denominator) := by
  obtain ⟨some, power⟩ := powerOfTen_eq place
  have unit : (0 : ℚ) < range.denominator := Nat.cast_pos.2 positive
  have part : (0 : ℚ) < (powerOfTen place).2 := Nat.cast_pos.2 some
  rw [← power, ← mul_div_assoc, div_le_div_iff₀ unit part, div_le_div_iff₀ part unit,
    div_lt_div_iff₀ unit part, div_lt_div_iff₀ part unit]
  unfold holds at inside
  dsimp only at inside
  split at inside
  · next closed =>
      obtain ⟨low, high⟩ := Bool.and_eq_true_iff.1 inside
      have least := of_decide_eq_true low
      have greatest := of_decide_eq_true high
      refine ⟨by exact_mod_cast least, by exact_mod_cast greatest, ?_⟩
      intro other
      rw [closed] at other
      cases other
  · obtain ⟨low, high⟩ := Bool.and_eq_true_iff.1 inside
    have least : ((range.low * (powerOfTen place).2 : Nat) : ℚ) <
        (digits * (powerOfTen place).1 * range.denominator : Nat) :=
      Nat.cast_lt.2 (of_decide_eq_true low)
    have greatest : ((digits * (powerOfTen place).1 * range.denominator : Nat) : ℚ) <
        (range.high * (powerOfTen place).2 : Nat) :=
      Nat.cast_lt.2 (of_decide_eq_true high)
    push_cast at least greatest
    exact ⟨least.le, greatest.le, fun _ => ⟨least, greatest⟩⟩

theorem holds_of_between (positive : 0 < range.denominator) {digits : Nat} {place : Int}
    (low : (range.low : ℚ) / range.denominator < digits * 10 ^ place)
    (high : (digits : ℚ) * 10 ^ place < range.high / range.denominator) :
    range.holds digits place = true := by
  obtain ⟨some, power⟩ := powerOfTen_eq place
  have unit : (0 : ℚ) < range.denominator := Nat.cast_pos.2 positive
  have part : (0 : ℚ) < (powerOfTen place).2 := Nat.cast_pos.2 some
  rw [← power, ← mul_div_assoc, div_lt_div_iff₀ unit part] at low
  rw [← power, ← mul_div_assoc, div_lt_div_iff₀ part unit] at high
  have least : range.low * (powerOfTen place).2 <
      digits * (powerOfTen place).1 * range.denominator := by exact_mod_cast low
  have greatest : digits * (powerOfTen place).1 * range.denominator <
      range.high * (powerOfTen place).2 := by exact_mod_cast high
  unfold holds
  dsimp only
  split
  · exact Bool.and_eq_true_iff.2 ⟨decide_eq_true least.le, decide_eq_true greatest.le⟩
  · exact Bool.and_eq_true_iff.2 ⟨decide_eq_true least, decide_eq_true greatest⟩

theorem holds_of_onGrid {digits : Nat} {place : Int}
    (found : range.onGrid place = some digits) : range.holds digits place = true := by
  unfold onGrid at found
  dsimp only at found
  split at found
  · next below above =>
      rw [← Option.some.inj found]
      split
      · exact above
      · exact below
  · next below _ =>
      rw [← Option.some.inj found]
      exact below
  · next _ above =>
      rw [← Option.some.inj found]
      exact above
  · cases found

/-- The digits of the number on a grid, with the number between them and the next ones. -/
theorem floor_onGrid (range : Rounding) (place : Int) :
    ((range.value * (powerOfTen place).2 / ((powerOfTen place).1 * range.denominator) : Nat) : ℚ) *
        10 ^ place ≤ range.number ∧
      range.number < ((range.value * (powerOfTen place).2 /
        ((powerOfTen place).1 * range.denominator) : Nat) + 1) * 10 ^ place := by
  obtain ⟨_, power⟩ := powerOfTen_eq place
  have grid : (0 : ℚ) < 10 ^ place := by positivity
  have nonnegative : 0 ≤ range.number := by
    unfold number
    positivity
  have ratio : range.number / 10 ^ place = (range.value * (powerOfTen place).2 : Nat) /
      ((powerOfTen place).1 * range.denominator : Nat) := by
    have up : ((powerOfTen place).1 : ℚ) ≠ 0 := by
      intro zero
      rw [zero, zero_div] at power
      exact grid.ne power
    rw [number, ← power]
    push_cast
    field_simp
  have floor := Nat.floor_div_eq_div (K := ℚ) (range.value * (powerOfTen place).2)
    ((powerOfTen place).1 * range.denominator)
  rw [← ratio] at floor
  have whole := Nat.floor_le (div_nonneg nonnegative grid.le)
  have next := Nat.lt_floor_add_one (range.number / 10 ^ place)
  rw [floor] at whole next
  exact ⟨(le_div_iff₀ grid).1 whole, (div_lt_iff₀ grid).1 next⟩

/-- On a grid that is finer than the way to the upper end there is a decimal of the range. -/
theorem onGrid_of_fine (positive : 0 < range.denominator) (less : range.low < range.value)
    {place : Int}
    (fine : range.number + 10 ^ place < range.high / range.denominator) :
    ∃ digits, range.onGrid place = some digits := by
  obtain ⟨whole, next⟩ := floor_onGrid range place
  have unit : (0 : ℚ) < range.denominator := Nat.cast_pos.2 positive
  have above : range.holds (range.value * (powerOfTen place).2 /
      ((powerOfTen place).1 * range.denominator) + 1) place = true := by
    refine holds_of_between positive ?_ ?_
    · push_cast
      exact (div_lt_div_of_pos_right (Nat.cast_lt.2 less) unit).trans next
    · push_cast
      refine lt_of_le_of_lt ?_ fine
      linarith
  unfold onGrid
  dsimp only
  rw [above]
  split
  · exact ⟨_, rfl⟩
  · exact ⟨_, rfl⟩
  · exact ⟨_, rfl⟩
  · next impossible => cases impossible

/-! ## The search -/

/-- The search ends at a decimal of the range if a grid on its way has one. -/
theorem search_holds {fuel : Nat} {place : Int} {digits : Nat}
    (reached : range.onGrid (place - fuel) = some digits) :
    range.holds (range.search fuel place).1 (range.search fuel place).2 = true ∧
      place - fuel ≤ (range.search fuel place).2 := by
  induction fuel generalizing place with
  | zero =>
      rw [Int.natCast_zero, Int.sub_zero] at reached ⊢
      rw [search, reached]
      exact ⟨holds_of_onGrid reached, le_rfl⟩
  | succ fuel ih =>
      rw [search]
      split
      · next found => exact ⟨holds_of_onGrid found, by dsimp only; omega⟩
      · have same : place - (fuel + 1 : Nat) = place - 1 - fuel := by omega
        rw [same] at reached ⊢
        exact ih reached

theorem leading_spec (positive : 0 < range.denominator) {fuel : Nat} {place least : Int}
    (below : least ≤ place) (reached : (10 : ℚ) ^ least ≤ range.number)
    (enough : place - fuel ≤ least) :
    (10 : ℚ) ^ range.leading fuel place ≤ range.number ∧ least ≤ range.leading fuel place := by
  induction fuel generalizing place with
  | zero =>
      have same : place = least := by omega
      subst same
      exact ⟨reached, le_rfl⟩
  | succ fuel ih =>
      obtain ⟨some, power⟩ := powerOfTen_eq place
      have unit : (0 : ℚ) < range.denominator := Nat.cast_pos.2 positive
      have part : (0 : ℚ) < (powerOfTen place).2 := Nat.cast_pos.2 some
      have order : (powerOfTen place).1 * range.denominator ≤
          range.value * (powerOfTen place).2 ↔ (10 : ℚ) ^ place ≤ range.number := by
        rw [← power, number, div_le_div_iff₀ part unit]
        exact_mod_cast Iff.rfl
      rw [leading]
      dsimp only
      split
      · next found => exact ⟨order.1 found, below⟩
      · next greater =>
          rw [order, not_le] at greater
          have lower := reached.trans_lt greater
          rw [zpow_lt_zpow_iff_right₀ (by norm_num)] at lower
          exact ih (by omega) (by omega)

/-! ## The range of a double -/

theorem of_eq (mantissa : Nat) (exponent : Int) :
    ∃ up down : Nat, (up : Int) - down = exponent - 2 ∧ Rounding.of 52 mantissa exponent =
      ⟨(4 * mantissa - if mantissa = 2 ^ 52 then 1 else 2) * 2 ^ up, 4 * mantissa * 2 ^ up,
        (4 * mantissa + 2) * 2 ^ up, 2 ^ down, mantissa % 2 == 0⟩ := by
  cases shift : exponent - 2 with
  | ofNat up =>
      refine ⟨up, 0, by simp, ?_⟩
      rw [Rounding.of, shift, ← Nat.one_shiftLeft up]
      rfl
  | negSucc down =>
      refine ⟨0, down + 1, by omega, ?_⟩
      rw [Rounding.of, shift, ← Nat.one_shiftLeft (down + 1)]
      rfl

theorem scale_eq {up down : Nat} {exponent : Int} (scale : (up : Int) - down = exponent - 2) :
    (2 : ℚ) ^ up / 2 ^ down = 2 ^ exponent / 4 := by
  have powers : (2 : ℚ) ^ ((up : Int) - down) = 2 ^ (exponent - 2) := congrArg _ scale
  rw [zpow_sub₀ two_ne_zero, zpow_sub₀ two_ne_zero, zpow_natCast, zpow_natCast] at powers
  rw [powers]
  norm_num

theorem log2_scaled {count : Nat} (nonzero : count ≠ 0) (up : Nat) :
    (count * 2 ^ up).log2 = count.log2 + up := by
  rw [Nat.log2_eq_iff (Nat.mul_ne_zero nonzero (Nat.two_pow_pos up).ne'), add_right_comm,
    pow_add 2 count.log2, pow_add 2 (count.log2 + 1)]
  exact ⟨Nat.mul_le_mul_right _ (Nat.log2_self_le nonzero),
    Nat.mul_lt_mul_of_pos_right Nat.lt_log2_self (Nat.two_pow_pos up)⟩

variable {mantissa : Nat} {exponent : Int}

theorem denominator_of_pos : 0 < (Rounding.of 52 mantissa exponent).denominator := by
  obtain ⟨up, down, _, shape⟩ := of_eq mantissa exponent
  rw [shape]
  exact Nat.two_pow_pos down

theorem number_of : (Rounding.of 52 mantissa exponent).number = mantissa * 2 ^ exponent := by
  obtain ⟨up, down, scale, shape⟩ := of_eq mantissa exponent
  rw [number, shape]
  push_cast
  rw [mul_div_assoc, scale_eq scale]
  ring

theorem high_of : ((Rounding.of 52 mantissa exponent).high : ℚ) /
    (Rounding.of 52 mantissa exponent).denominator = (mantissa + 1 / 2) * 2 ^ exponent := by
  obtain ⟨up, down, scale, shape⟩ := of_eq mantissa exponent
  rw [shape]
  push_cast
  rw [mul_div_assoc, scale_eq scale]
  ring

theorem low_of (positive : 0 < mantissa) : ((Rounding.of 52 mantissa exponent).low : ℚ) /
    (Rounding.of 52 mantissa exponent).denominator =
      (mantissa - if mantissa = 2 ^ 52 then 1 / 4 else 1 / 2) * 2 ^ exponent := by
  obtain ⟨up, down, scale, shape⟩ := of_eq mantissa exponent
  rw [shape]
  dsimp only
  split
  · rw [Nat.cast_mul, Nat.cast_sub (by omega)]
    push_cast
    rw [mul_div_assoc, scale_eq scale]
    ring
  · rw [Nat.cast_mul, Nat.cast_sub (by omega)]
    push_cast
    rw [mul_div_assoc, scale_eq scale]
    ring

theorem above_of (positive : 0 < mantissa) : (Rounding.of 52 mantissa exponent).above =
    (mantissa.log2 + exponent + 1) * 30103 / 100000 + 2 := by
  obtain ⟨up, down, scale, shape⟩ := of_eq mantissa exponent
  have bits : (4 * mantissa * 2 ^ up).log2 = mantissa.log2 + (2 + up) := by
    rw [mul_comm 4, mul_assoc]
    exact (congrArg (fun power => (mantissa * power).log2) (pow_add 2 2 up).symm).trans
      (log2_scaled positive.ne' _)
  unfold above
  rw [shape]
  dsimp only
  rw [bits, Nat.log2_two_pow]
  have same : ((mantissa.log2 + (2 + up) : Nat) : Int) + 1 - (down : Nat) =
      mantissa.log2 + exponent + 1 := by omega
  rw [same]

/-- A decimal of the range of a double lies around it. -/
theorem around_of_holds (positive : 0 < mantissa) {digits : Nat} {place : Int}
    (inside : (Rounding.of 52 mantissa exponent).holds digits place = true) :
    Around mantissa exponent (digits * 10 ^ place) := by
  obtain ⟨low, high, strict⟩ := bounds_of_holds denominator_of_pos inside
  rw [low_of positive, high_of] at strict
  rw [low_of positive] at low
  rw [high_of] at high
  refine ⟨low, high, ?_⟩
  intro odd
  have parity : (Rounding.of 52 mantissa exponent).closed = false := by
    obtain ⟨up, down, _, shape⟩ := of_eq mantissa exponent
    rw [shape]
    dsimp only
    rw [odd]
    rfl
  have other : mantissa ≠ 2 ^ 52 := by
    rintro rfl
    cases odd
  rw [if_neg other] at strict
  exact strict parity

theorem low_less (positive : 0 < mantissa) : (Rounding.of 52 mantissa exponent).low <
    (Rounding.of 52 mantissa exponent).value := by
  obtain ⟨up, down, _, shape⟩ := of_eq mantissa exponent
  rw [shape]
  refine Nat.mul_lt_mul_of_pos_right ?_ (Nat.two_pow_pos up)
  split
  · omega
  · omega

/-- Sixteen places below the leading digit the grid is finer than the gap between doubles. -/
theorem fine_grid (fits : mantissa < 2 ^ 53) {place : Int}
    (least : (10 : ℚ) ^ place ≤ (Rounding.of 52 mantissa exponent).number) :
    (Rounding.of 52 mantissa exponent).number + 10 ^ (place - 17) <
      (Rounding.of 52 mantissa exponent).high / (Rounding.of 52 mantissa exponent).denominator := by
  have power : (0 : ℚ) < 2 ^ exponent := by positivity
  have few : (mantissa : ℚ) < 2 ^ 53 := by exact_mod_cast fits
  rw [number_of] at least ⊢
  rw [high_of, add_mul, add_lt_add_iff_left, zpow_sub₀ (by norm_num)]
  have below : (10 : ℚ) ^ place < 2 ^ 53 * 2 ^ exponent :=
    least.trans_lt (mul_lt_mul_of_pos_right few power)
  rw [div_lt_iff₀ (by positivity)]
  norm_num at below ⊢
  linarith

theorem tenth_pow_le_eighth_pow (places : Nat) :
    (10 : ℚ) ^ (-(places : ℤ)) ≤ 2 ^ (-((3 * places : Nat) : ℤ)) := by
  rw [zpow_neg, zpow_neg, zpow_natCast, zpow_natCast]
  exact inv_anti₀ (by positivity) (eight_pow_le_ten_pow places)

/-- The shortest decimal rounds to its double. -/
theorem shortest_spec (canonical : Canonical mantissa exponent) (bounded : exponent ≤ 971) :
    (Rounding.of 52 mantissa exponent).holds (Rounding.of 52 mantissa exponent).shortest.1
      (Rounding.of 52 mantissa exponent).shortest.2 = true ∧
      -377 ≤ (Rounding.of 52 mantissa exponent).shortest.2 := by
  obtain ⟨positive, fits, lowest, _⟩ := canonical
  have bits : mantissa.log2 ≤ 52 := log2_le_of_lt fits
  have above : (Rounding.of 52 mantissa exponent).above =
      (mantissa.log2 + exponent + 1) * 30103 / 100000 + 2 := above_of positive
  have least : (10 : ℚ) ^ (-360 : ℤ) ≤ (Rounding.of 52 mantissa exponent).number := by
    have one : ((1 : Nat) : ℚ) ≤ mantissa := Nat.cast_le.2 positive
    have power : (2 : ℚ) ^ (-1074 : ℤ) ≤ 2 ^ exponent := zpow_le_zpow_right₀ one_le_two lowest
    have small : (10 : ℚ) ^ (-360 : ℤ) ≤ 2 ^ (-1080 : ℤ) := tenth_pow_le_eighth_pow 360
    have smaller : (2 : ℚ) ^ (-1080 : ℤ) ≤ 2 ^ (-1074 : ℤ) :=
      zpow_le_zpow_right₀ one_le_two (by decide)
    rw [number_of]
    calc (10 : ℚ) ^ (-360 : ℤ) ≤ 1 * 2 ^ exponent := by linarith
      _ ≤ mantissa * 2 ^ exponent := by
          refine mul_le_mul_of_nonneg_right ?_ (by positivity)
          exact_mod_cast one
  have enough : (Rounding.of 52 mantissa exponent).above - (700 : Nat) ≤ -360 := by omega
  obtain ⟨leads, far⟩ := leading_spec denominator_of_pos (by omega) least enough
  obtain ⟨digits, found⟩ :
      ∃ digits, (Rounding.of 52 mantissa exponent).onGrid
        ((Rounding.of 52 mantissa exponent).leading 700
          (Rounding.of 52 mantissa exponent).above - (17 : Nat)) = some digits :=
    onGrid_of_fine denominator_of_pos (low_less positive) (fine_grid fits leads)
  obtain ⟨inside, near⟩ := search_holds found
  exact ⟨inside, by unfold shortest; omega⟩

end Rounding

end BootTheme
