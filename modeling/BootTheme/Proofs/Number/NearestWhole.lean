import BootTheme.Proofs.Number.ExactDoubles

/-!
# The whole number near a double

The whole numbers near a finite double are those near its number, and counts of at most 53 bits
are doubles. A sum of finite doubles may be infinite, but it is defined, and its sign is that of
the sum of the numbers.
-/

namespace BootTheme

open Float.Model Float.Model.UnpackedFloat

/-! ## Rounded rationals -/

theorem nearestInt_bounds (value : Rat) :
    value - 1 / 2 ≤ nearestInt value ∧ nearestInt value ≤ value + 1 / 2 := by
  unfold nearestInt
  split
  · have low : value + 1 / 2 - 1 < ((value + 1 / 2).floor : Rat) := Rat.lt_floor
    have high := Rat.floor_le (value + 1 / 2)
    constructor
    · linarith
    · linarith
  · have low : -value + 1 / 2 - 1 < ((-value + 1 / 2).floor : Rat) := Rat.lt_floor
    have high := Rat.floor_le (-value + 1 / 2)
    push_cast
    constructor
    · linarith
    · linarith

/-- A whole number is the nearest to itself. -/
theorem nearestInt_intCast (value : Int) : nearestInt value = value := by
  obtain ⟨low, high⟩ := nearestInt_bounds value
  have least : (value : Rat) < nearestInt value + 1 := by linarith
  have most : (nearestInt value : Rat) < value + 1 := by linarith
  norm_cast at least most
  omega

theorem nearestInt_neg (value : Rat) : nearestInt (-value) = -nearestInt value := by
  unfold nearestInt
  rcases lt_trichotomy value 0 with below | rfl | above
  · rw [if_pos (neg_nonneg.2 below.le), if_neg (not_le.2 below), neg_neg]
  · decide +kernel
  · rw [if_neg (not_le.2 (neg_neg_of_pos above)), if_pos above.le, neg_neg]

/-! ## Whole numbers near a double -/

/-- A whole part and a rest that is less than the unit. -/
theorem quotient_spec (mantissa : Nat) (exponent : Int) :
    ∃ size rest unit, Parts.quotient mantissa exponent = (size, rest, unit) ∧ rest < unit ∧
      (mantissa * 2 ^ exponent : ℚ) = size + rest / unit := by
  cases exponent with
  | ofNat up =>
      refine ⟨mantissa <<< up, 0, 1, rfl, Nat.one_pos, ?_⟩
      rw [Nat.shiftLeft_eq, Int.ofNat_eq_natCast, zpow_natCast]
      push_cast
      ring
  | negSucc down =>
      have positive : 0 < 1 <<< (down + 1) := by
        rw [Nat.one_shiftLeft]
        exact Nat.two_pow_pos _
      refine ⟨_, _, _, rfl, Nat.mod_lt mantissa positive, ?_⟩
      have power : ((1 <<< (down + 1) : Nat) : ℚ) = 2 ^ (down + 1) := by
        rw [Nat.one_shiftLeft]
        push_cast
        rfl
      have whole : (((1 <<< (down + 1)) * (mantissa / (1 <<< (down + 1))) +
          mantissa % (1 <<< (down + 1)) : Nat) : ℚ) = mantissa :=
        congrArg Nat.cast (Nat.div_add_mod mantissa (1 <<< (down + 1)))
      push_cast [power] at whole ⊢
      rw [zpow_negSucc, ← whole]
      field_simp

section Rounded

variable {size rest unit : Nat}

theorem fraction_bounds (less : rest < unit) : (0 : ℚ) ≤ rest / unit ∧ (rest / unit : ℚ) < 1 := by
  have positive : (0 : ℚ) < unit := by exact_mod_cast (Nat.zero_le rest).trans_lt less
  exact ⟨by positivity, (div_lt_one positive).2 (by exact_mod_cast less)⟩

theorem nearestInt_quotient (less : rest < unit) :
    nearestInt (size + rest / unit) = if unit ≤ 2 * rest then size + 1 else size := by
  have positive : (0 : ℚ) < unit := by exact_mod_cast (Nat.zero_le rest).trans_lt less
  obtain ⟨low, high⟩ := fraction_bounds less
  unfold nearestInt
  rw [if_pos (by positivity)]
  change ⌊(size + rest / unit + 1 / 2 : ℚ)⌋ = _
  rw [Int.floor_eq_iff]
  split
  · next up =>
      have half : (1 / 2 : ℚ) ≤ rest / unit := by
        rw [div_le_div_iff₀ two_pos positive]
        exact_mod_cast (by omega : 1 * unit ≤ rest * 2)
      push_cast
      constructor
      · linarith
      · linarith
  · next down =>
      have half : (rest / unit : ℚ) < 1 / 2 := by
        rw [div_lt_div_iff₀ positive two_pos]
        exact_mod_cast (by omega : rest * 2 < 1 * unit)
      push_cast
      constructor
      · linarith
      · linarith

theorem floor_quotient (less : rest < unit) : (size + rest / unit : ℚ).floor = size := by
  obtain ⟨low, high⟩ := fraction_bounds less
  change ⌊(size + rest / unit : ℚ)⌋ = _
  rw [Int.floor_eq_iff]
  push_cast
  constructor
  · linarith
  · linarith

theorem ceil_quotient (less : rest < unit) :
    (size + rest / unit : ℚ).ceil = if rest ≠ 0 then size + 1 else size := by
  obtain ⟨low, high⟩ := fraction_bounds less
  rw [Rat.ceil_eq_neg_floor_neg]
  change ⌈(size + rest / unit : ℚ)⌉ = _
  rw [Int.ceil_eq_iff]
  split
  · next some =>
      have positive : (0 : ℚ) < rest / unit := by
        have rests : (0 : ℚ) < rest := Nat.cast_pos.2 (Nat.pos_of_ne_zero some)
        have units : (0 : ℚ) < unit := by exact_mod_cast (Nat.zero_le rest).trans_lt less
        exact div_pos rests units
      push_cast
      constructor
      · linarith
      · linarith
  · next none =>
      rw [not_not.1 none, Nat.cast_zero, zero_div]
      push_cast
      constructor
      · linarith
      · linarith

end Rounded

variable {value left right : Float} {number other : ℚ}

/-- Whole part and rest of a double. -/
theorem IsNumber.quotient (isNumber : IsNumber value number) :
    ∃ size rest unit, rest < unit ∧
      (∀ whole, (doubleParts value).toWhole whole =
        .int (Parts.signed (doubleParts value).negative (whole size rest unit))) ∧
      number = if (doubleParts value).negative then -(size + rest / unit : ℚ)
        else size + rest / unit := by
  obtain ⟨mantissa, exponent, magnitude, same⟩ := isNumber.parts
  obtain ⟨size, rest, unit, quotient, less, parts⟩ := quotient_spec mantissa exponent
  refine ⟨size, rest, unit, less, ?_, ?_⟩
  · intro whole
    unfold Parts.toWhole
    rw [magnitude]
    dsimp only
    rw [quotient]
  · rw [same, parts]
    cases (doubleParts value).negative <;> rfl

theorem IsNumber.nearest (isNumber : IsNumber value number) :
    Scalar.nearest value = .int (nearestInt number) := by
  obtain ⟨size, rest, unit, less, whole, rfl⟩ := isNumber.quotient
  change (doubleParts value).nearest = _
  rw [Parts.nearest, whole]
  cases (doubleParts value).negative with
  | false =>
      rw [if_neg Bool.false_ne_true, nearestInt_quotient less, Parts.signed]
      rfl
  | true =>
      rw [if_pos rfl, nearestInt_neg, nearestInt_quotient less, Parts.signed]
      rfl

theorem IsNumber.floor (isNumber : IsNumber value number) :
    Scalar.floor value = .int number.floor := by
  obtain ⟨size, rest, unit, less, whole, rfl⟩ := isNumber.quotient
  change (doubleParts value).floor = _
  rw [Parts.floor, whole]
  cases (doubleParts value).negative with
  | false => simp [Parts.signed, floor_quotient less]
  | true =>
      have opposite := Rat.ceil_eq_neg_floor_neg (size + rest / unit : ℚ)
      rw [ceil_quotient less] at opposite
      rw [if_pos rfl, ← neg_eq_iff_eq_neg.2 opposite]
      simp [Parts.signed]

theorem IsNumber.ceiling (isNumber : IsNumber value number) :
    Scalar.ceiling value = .int number.ceil := by
  obtain ⟨size, rest, unit, less, whole, rfl⟩ := isNumber.quotient
  change (doubleParts value).ceiling = _
  rw [Parts.ceiling, whole]
  cases (doubleParts value).negative with
  | false => simp [Parts.signed, ceil_quotient less]
  | true => simp [Parts.signed, Rat.ceil_eq_neg_floor_neg, floor_quotient less]

/-! ## Counts and whole numbers -/

/-- A count of at most 53 bits is a double. -/
theorem isNumber_ofNat {count : Nat} (fits : count < 2 ^ 53) :
    IsNumber (Scalar.ofNat count) count := by
  change Amounts count.toUInt64.toFloat.toModel.unpack _
  obtain rfl | positive := Nat.eq_zero_or_pos count
  · exact .zero .positive
  · rw [unpack_count positive fits, ← count_eq count (52 - count.log2)]
    exact .finite .positive (canonical_count positive fits) (by omega)

theorem isDouble_intCast {whole : Int} (fits : whole.natAbs < 2 ^ 53) :
    IsDouble (whole : ℚ) := by
  obtain ⟨count, rfl | rfl⟩ := whole.eq_nat_or_neg
  · exact ⟨_, isNumber_ofNat (by omega)⟩
  · rw [Int.cast_neg, Int.cast_natCast]
    exact ⟨_, (isNumber_ofNat (by omega)).neg⟩

theorem mantissa_lt {mantissa : Nat} {exponent : Int}
    (size : (doubleParts value).magnitude = .finite mantissa exponent) :
    mantissa < 2 ^ 53 := by
  obtain ⟨rfl, -⟩ | ⟨canonical, -, -⟩ := unpack_finite size
  · exact Nat.two_pow_pos 53
  · exact canonical.fits

/-- The whole number nearest to a double with places behind its point has few bits. -/
theorem nearest_of_places {mantissa down : Nat}
    (size : (doubleParts value).magnitude = .finite mantissa (.negSucc down)) :
    ∃ count < 2 ^ 53, (doubleParts value).nearest =
      .int (Parts.signed (doubleParts value).negative count) := by
  have fits := mantissa_lt size
  have unit : 2 ≤ 1 <<< (down + 1) := by
    rw [Nat.one_shiftLeft, Nat.pow_succ]
    exact Nat.le_mul_of_pos_left 2 (Nat.two_pow_pos down)
  have least : mantissa / (1 <<< (down + 1)) ≤ mantissa / 2 := Nat.div_le_div_left unit (by decide)
  have whole : (doubleParts value).nearest = .int (Parts.signed (doubleParts value).negative
      (if 1 <<< (down + 1) ≤ 2 * (mantissa % (1 <<< (down + 1)))
        then mantissa / (1 <<< (down + 1)) + 1 else mantissa / (1 <<< (down + 1)))) := by
    rw [Parts.nearest, Parts.toWhole, size]
    rfl
  refine ⟨_, ?_, whole⟩
  -- Half of 53 bits leaves room for rounding up.
  split
  · omega
  · omega

/-- Rounding a double gives the double of the nearest whole number. -/
theorem IsNumber.round (isNumber : IsNumber value number) :
    IsNumber (Scalar.round value) (nearestInt number) := by
  obtain ⟨mantissa, exponent, size, same⟩ := isNumber.parts
  have nearest := isNumber.nearest
  change IsNumber (roundDouble value) _
  change (doubleParts value).nearest = _ at nearest
  unfold roundDouble
  cases exponent with
  | ofNat up =>
      -- Without places behind its point the double is kept, and it is its own nearest number.
      have whole : number = Parts.signed (doubleParts value).negative (mantissa * 2 ^ up) := by
        rw [same, Int.ofNat_eq_natCast, zpow_natCast]
        cases (doubleParts value).negative with
        | false => simp [onSide, Parts.signed]
        | true => simp [onSide, Parts.signed]
      rw [size, whole, nearestInt_intCast, ← whole]
      exact isNumber
  | negSucc down =>
      obtain ⟨count, fits, whole⟩ := nearest_of_places size
      rw [whole] at nearest
      rw [size, whole, ← Whole.int.inj nearest]
      cases (doubleParts value).negative with
      | false => exact isNumber_ofNat fits
      | true =>
          have absolute : (Parts.signed true count).natAbs = count := Int.natAbs_neg count
          have opposite : ((Parts.signed true count : Int) : ℚ) = -count := by simp [Parts.signed]
          dsimp only
          rw [absolute, opposite]
          exact (isNumber_ofNat fits).neg

/-- A double that lies near a whole number is finite, and rounding gives this number. -/
theorem isNumber_round {whole : Int} (nearest : Scalar.nearest value = .int whole) :
    IsNumber (Scalar.round value) whole := by
  have finite : isFinite value = true := by
    change (doubleParts value).nearest = _ at nearest
    unfold isFinite
    unfold Parts.nearest Parts.toWhole at nearest
    cases size : (doubleParts value).magnitude with
    | undefined =>
        rw [size] at nearest
        cases nearest
    | infinite =>
        rw [size] at nearest
        dsimp only at nearest
        split at nearest <;> cases nearest
    | finite mantissa exponent => rfl
  obtain ⟨number, isNumber⟩ := exists_isNumber finite
  have same := isNumber.nearest.symm.trans nearest
  rw [← Whole.int.inj same]
  exact isNumber.round

/-- Rounding a finite double leaves its nearest whole number as it is. -/
theorem nearest_roundDouble (finite : isFinite value = true) :
    Scalar.nearest (roundDouble value) = Scalar.nearest value := by
  obtain ⟨number, isNumber⟩ := exists_isNumber finite
  rw [isNumber.nearest, ← nearestInt_intCast (nearestInt number)]
  exact isNumber.round.nearest

/-! ## Sums that need not be finite -/

/-- The sign of a normal form is that of its number. -/
theorem signed_normalize (mantissa place : Int) :
    ∃ sign, Signed sign (UnpackedFloat.normalize Format.binary64 mantissa place .positive) ∧
      (mantissa < 0 → sign = .negative) := by
  unfold UnpackedFloat.normalize
  split
  · exact ⟨_, signed_roundWithAccuracy _ _ _ _, fun _ => rfl⟩
  · next zero =>
      rw [Std.compare_eq_iff_eq] at zero
      exact ⟨.positive, rfl, fun below => absurd zero below.ne⟩
  · next above =>
      rw [Std.compare_eq_gt] at above
      exact ⟨_, signed_roundWithAccuracy _ _ _ _, fun below => absurd above below.asymm⟩

/-- The sum of two doubles is below zero where the sum of their numbers is. -/
theorem Amounts.signed_add {first second : UnpackedFloat} (left : Amounts first number)
    (right : Amounts second other) :
    ∃ sign, Signed sign (UnpackedFloat.add Format.binary64 first second) ∧
      (number + other < 0 → sign = .negative) := by
  cases left with
  | zero sign =>
      cases right with
      | zero another =>
          refine ⟨if sign == another then sign else .positive, ?_, fun below => ?_⟩
          · change Signed _ (if sign == another then .zero sign else .zero .positive)
            cases sign <;> cases another <;> rfl
          · rw [zero_add] at below
            exact absurd below (lt_irrefl 0)
      | finite another canonical bounded =>
          rw [zero_add]
          exact ⟨another, rfl, (onSide_neg_iff canonical.size_pos).1⟩
  | finite sign canonical bounded =>
      cases right with
      | zero another =>
          rw [add_zero]
          exact ⟨sign, rfl, (onSide_neg_iff canonical.size_pos).1⟩
      | finite another canonical' bounded' =>
          rw [← aligned_sum]
          obtain ⟨found, signed, negative⟩ := signed_normalize _ _
          refine ⟨found, signed, fun below => negative ?_⟩
          exact_mod_cast neg_of_mul_neg_left below (zpow_pos two_pos _).le

/-- What is too great for a double is packed as an infinity. -/
theorem pack_of_not_bounded {sign : Sign} {result : UnpackedFloat} (signed : Signed sign result)
    (great : ¬ Bounded result) :
    UnpackedFloat.pack Format.binary64 result = packedInfinity Format.binary64 sign := by
  cases result with
  | infinity another => cases signed
  | notANumber => cases signed
  | zero another => exact absurd trivial great
  | finite another mantissa exponent positive =>
      cases signed
      have bias : (Format.binary64.exponentBias : Int) = 1023 := rfl
      have width : (Format.binary64.mantissaBitsWithoutImplicit : Int) = 52 := rfl
      change ¬ exponent < 972 at great
      unfold UnpackedFloat.pack
      dsimp only
      refine if_pos ?_
      change 2048 ≤ _
      omega

theorem magnitude_packedInfinity (sign : Sign) :
    (Parts.ofBits 52 11 (packedInfinity Format.binary64 sign).toNat).magnitude = .infinite := by
  cases sign with
  | negative => decide +kernel
  | positive => decide +kernel

theorem magnitude_of_signed {sign : Sign} {result : UnpackedFloat} (signed : Signed sign result)
    (packed : value.toModel.toBits.toBitVec = UnpackedFloat.pack Format.binary64 result) :
    (doubleParts value).magnitude ≠ .undefined := by
  -- What is packed is finite, or it is an infinity with no bits in its fraction.
  by_cases bounded : Bounded result
  · have finite : isFinite value = true := by
      rw [isFinite_iff, packed, bounded_pack]
      exact bounded
    obtain ⟨mantissa, exponent, size⟩ := magnitude_of_isFinite finite
    rw [size]
    exact Magnitude.noConfusion
  · have infinite : (doubleParts value).magnitude = .infinite := by
      change (Parts.ofBits 52 11 value.toModel.toBits.toBitVec.toNat).magnitude = _
      rw [packed, pack_of_not_bounded signed bounded]
      exact magnitude_packedInfinity sign
    rw [infinite]
    exact Magnitude.noConfusion

theorem negative_of_signed {result : UnpackedFloat} (signed : Signed .negative result)
    (packed : value.toModel.toBits.toBitVec = UnpackedFloat.pack Format.binary64 result) :
    (doubleParts value).negative = true := by
  rw [negative_doubleParts, packed, getLsbD_pack, signed.packedSign_eq]
  rfl

/-- What an infinite double is unpacked to. -/
theorem unpack_infinite (size : (doubleParts value).magnitude = .infinite) :
    value.toModel.unpack =
      .infinity (if (doubleParts value).negative then .negative else .positive) := by
  have full : (1 <<< 11 : Nat) - 1 = 2047 := rfl
  unfold doubleParts Parts.ofBits at size
  dsimp only at size
  rw [← toNat_exponent, ← toNat_fraction, full] at size
  split at size
  · next exponent =>
      split at size
      · next fraction =>
          have exponents : @unpackExponent Format.binary64 value.toModel.toBits.toBitVec = -1#11 :=
            BitVec.eq_of_toNat_eq exponent
          have fractions : @unpackMantissa Format.binary64 value.toModel.toBits.toBitVec = 0#52 :=
            BitVec.eq_of_toNat_eq fraction
          unfold Float.Model.unpack UnpackedFloat.unpack
          dsimp only
          rw [if_pos exponents, if_pos fractions, sign_eq]
      · cases size
  · split at size
    · cases size
    · cases size

theorem eq_infinite_iff (size : (doubleParts value).magnitude = .infinite) :
    value = 1 / 0 ↔ (doubleParts value).negative = false := by
  constructor
  · rintro rfl
    decide +kernel
  · intro positive
    apply eq_of_unpack
    rw [unpack_infinite size, positive]
    rfl

/-- A sum of finite doubles is defined. -/
theorem magnitude_add (first : isFinite left = true) (second : isFinite right = true) :
    (doubleParts (left + right)).magnitude ≠ .undefined := by
  obtain ⟨number, isNumber⟩ := exists_isNumber first
  obtain ⟨other, isOther⟩ := exists_isNumber second
  obtain ⟨sign, signed, -⟩ := Amounts.signed_add isNumber isOther
  exact magnitude_of_signed signed rfl

/-- A sum of doubles whose numbers add up to less than zero is not above zero. -/
theorem nearest_add_below (first : IsNumber left number) (second : IsNumber right other)
    (below : number + other < 0) :
    Scalar.nearest (left + right) = .below ∨
      ∃ whole ≤ 0, Scalar.nearest (left + right) = .int whole := by
  obtain ⟨sign, signed, negative⟩ := Amounts.signed_add first second
  rw [negative below] at signed
  have sides : (doubleParts (left + right)).negative = true := negative_of_signed signed rfl
  have defined := magnitude_add first.isFinite second.isFinite
  change (doubleParts (left + right)).nearest = _ ∨ ∃ whole ≤ 0,
    (doubleParts (left + right)).nearest = _
  unfold Parts.nearest Parts.toWhole
  rw [sides]
  split
  · contradiction
  · exact .inl rfl
  · exact .inr ⟨_, Int.neg_nonpos_of_nonneg (Int.natCast_nonneg _), rfl⟩

end BootTheme
