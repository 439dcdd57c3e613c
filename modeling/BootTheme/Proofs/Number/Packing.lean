import BootTheme.Proofs.Number.Doubles

/-!
# Finite doubles taken apart

A finite double other than zero has a mantissa of at most fifty-three bits, all of them in
use unless the exponent is the least. It is packed and taken apart without a loss.
-/

namespace BootTheme

open Float.Model Float.Model.UnpackedFloat

/-- Mantissas and exponents of finite doubles other than zero. -/
structure Canonical (mantissa : Nat) (exponent : Int) : Prop where
  positive : 0 < mantissa
  fits : mantissa < 2 ^ 53
  least : -1074 ≤ exponent
  full : exponent = -1074 ∨ 2 ^ 52 ≤ mantissa

theorem log2_le_of_lt {count bits : Nat} (small : count < 2 ^ (bits + 1)) : count.log2 ≤ bits := by
  by_cases zero : count = 0
  · rw [zero, Nat.log2_zero]
    exact Nat.zero_le bits
  · exact Nat.lt_succ_iff.1 ((Nat.log2_lt zero).2 small)

theorem finite_congr {sign other : Sign} {mantissa count : Nat} {exponent place : Int}
    {positive : 0 < mantissa} {nonzero : 0 < count} (sameSign : sign = other)
    (sameMantissa : mantissa = count) (sameExponent : exponent = place) :
    UnpackedFloat.finite sign mantissa exponent positive = .finite other count place nonzero := by
  subst sameSign sameMantissa sameExponent
  rfl

/-! ## The three forms of a finite double -/

section Unpack

variable {bits : BitVec Format.binary64.numBits}

theorem unpack_zero (least : unpackExponent bits = 0#11) (none : unpackMantissa bits = 0#52) :
    UnpackedFloat.unpack Format.binary64 bits = .zero (Sign.ofBitVec (unpackSign bits)) := by
  unfold UnpackedFloat.unpack
  dsimp only
  rw [if_neg (by rw [least]; decide), if_pos least, dif_pos none]

theorem unpack_subnormal (least : unpackExponent bits = 0#11)
    (some : 0 < (unpackMantissa bits).toNat) :
    UnpackedFloat.unpack Format.binary64 bits = .finite (Sign.ofBitVec (unpackSign bits))
      (unpackMantissa bits).toNat (-1074) some := by
  have nonzero : ¬ unpackMantissa bits = 0#52 := by
    intro none
    rw [none] at some
    exact absurd some (by decide)
  unfold UnpackedFloat.unpack
  dsimp only
  rw [if_neg (by rw [least]; decide), if_pos least, dif_neg nonzero]
  refine finite_congr rfl rfl ?_
  rw [least]
  rfl

theorem unpack_normal (notFull : unpackExponent bits ≠ -1#11)
    (notZero : unpackExponent bits ≠ 0#11) :
    UnpackedFloat.unpack Format.binary64 bits = .finite (Sign.ofBitVec (unpackSign bits))
      (2 ^ 52 + (unpackMantissa bits).toNat) ((unpackExponent bits).toNat - 1075)
      (Nat.add_pos_left (by decide) _) := by
  have leading : (1#1 ++ unpackMantissa bits).toNat = 2 ^ 52 + (unpackMantissa bits).toNat := by
    rw [BitVec.toNat_append, ← Nat.shiftLeft_add_eq_or_of_lt (BitVec.isLt _)]
    rfl
  unfold UnpackedFloat.unpack
  dsimp only
  rw [if_neg notFull, if_neg notZero]
  exact finite_congr rfl leading rfl

end Unpack

/-! ## Packing -/

theorem sign_packComponents (sign : Sign) (field : BitVec 11) (fraction : BitVec 52) :
    Sign.ofBitVec (unpackSign (packComponents Format.binary64 sign field fraction)) = sign := by
  rw [unpackSign_packComponents, Sign.ofBitVec_toBitVec]

theorem unpack_packed_normal (sign : Sign) {mantissa biased : Nat} (great : 2 ^ 52 ≤ mantissa)
    (fits : mantissa < 2 ^ 53) (some : 0 < biased) (below : biased < 2047) :
    UnpackedFloat.unpack Format.binary64 (packComponents Format.binary64 sign
      (BitVec.ofNat 11 biased) (BitVec.ofNat 52 mantissa)) =
        .finite sign mantissa (biased - 1075) (by omega) := by
  have value : (BitVec.ofNat 11 biased).toNat = biased := by
    rw [BitVec.toNat_ofNat]
    omega
  have apart (other : BitVec 11) (different : biased ≠ other.toNat) :
      unpackExponent (packComponents Format.binary64 sign (BitVec.ofNat 11 biased)
        (BitVec.ofNat 52 mantissa)) ≠ other := by
    rw [unpackExponent_packComponents]
    rintro rfl
    exact different value.symm
  refine (unpack_normal (apart _ ?_) (apart _ ?_)).trans
    (finite_congr (sign_packComponents _ _ _) ?_ ?_)
  · change biased ≠ 2047
    omega
  · change biased ≠ 0
    omega
  · rw [unpackMantissa_packComponents, BitVec.toNat_ofNat]
    change 2 ^ 52 + mantissa % 2 ^ 52 = mantissa
    omega
  · rw [unpackExponent_packComponents, value]

theorem unpack_packed_subnormal (sign : Sign) {mantissa : Nat} (positive : 0 < mantissa)
    (less : mantissa < 2 ^ 52) :
    UnpackedFloat.unpack Format.binary64 (packComponents Format.binary64 sign 0#11
      (BitVec.ofNat 52 mantissa)) = .finite sign mantissa (-1074) positive := by
  have value : (unpackMantissa (packComponents Format.binary64 sign 0#11
      (BitVec.ofNat 52 mantissa))).toNat = mantissa := by
    rw [unpackMantissa_packComponents]
    exact Nat.mod_eq_of_lt less
  have some := positive
  rw [← value] at some
  exact (unpack_subnormal unpackExponent_packComponents some).trans
    (finite_congr (sign_packComponents _ _ _) value rfl)

/-- A double survives packing. -/
theorem unpack_pack {mantissa : Nat} {exponent : Int} (canonical : Canonical mantissa exponent)
    (bounded : exponent ≤ 971) (sign : Sign) :
    UnpackedFloat.unpack Format.binary64 (UnpackedFloat.pack Format.binary64
      (.finite sign mantissa exponent canonical.positive)) =
        .finite sign mantissa exponent canonical.positive := by
  obtain ⟨positive, fits, least, full⟩ := canonical
  have bias : (Format.binary64.exponentBias : Int) = 1023 := rfl
  have width : (Format.binary64.mantissaBitsWithoutImplicit : Int) = 52 := rfl
  have small : ¬ 2 ^ Format.binary64.exponentBits ≤ (exponent + Format.binary64.exponentBias +
      Format.binary64.mantissaBitsWithoutImplicit).toNat + 1 := by
    change ¬ 2048 ≤ _
    omega
  unfold UnpackedFloat.pack
  dsimp only
  rw [if_neg small]
  split
  · next normal =>
      have bits : mantissa.log2 = 52 := Nat.succ.inj normal
      have great : 2 ^ 52 ≤ mantissa := by
        rw [← bits]
        exact Nat.log2_self_le positive.ne'
      refine (unpack_packed_normal sign great fits ?_ ?_).trans (finite_congr rfl rfl ?_)
      · omega
      · omega
      · omega
  · next subnormal =>
      have less : mantissa < 2 ^ 52 := by
        by_contra great
        have bits : mantissa.log2 ≤ 52 := log2_le_of_lt fits
        have high : 52 ≤ mantissa.log2 := (Nat.le_log2 positive.ne').2 (by omega)
        exact subnormal (congrArg Nat.succ (Nat.le_antisymm bits high))
      exact (unpack_packed_subnormal sign positive less).trans (finite_congr rfl rfl (by omega))

/-- What a double with a finite magnitude is unpacked to. -/
theorem unpack_finite {value : Float} {mantissa : Nat} {exponent : Int}
    (finite : (doubleParts value).magnitude = .finite mantissa exponent) :
    (mantissa = 0 ∧ value.toModel.unpack =
        .zero (Sign.ofBitVec (@unpackSign Format.binary64 value.toModel.toBits.toBitVec))) ∨
      ∃ canonical : Canonical mantissa exponent, exponent ≤ 971 ∧ value.toModel.unpack = .finite
        (Sign.ofBitVec (@unpackSign Format.binary64 value.toModel.toBits.toBitVec))
        mantissa exponent canonical.positive := by
  have full : (1 <<< 11 : Nat) - 1 = 2047 := rfl
  have unit : (1 <<< 52 : Nat) = 2 ^ 52 := rfl
  have half : (1 <<< (11 - 1) : Nat) = 1024 := rfl
  have small := BitVec.isLt (@unpackMantissa Format.binary64 value.toModel.toBits.toBitVec)
  have below := BitVec.isLt (@unpackExponent Format.binary64 value.toModel.toBits.toBitVec)
  change _ < 2 ^ 52 at small
  change _ < 2 ^ 11 at below
  unfold doubleParts Parts.ofBits at finite
  dsimp only at finite
  rw [← toNat_exponent, ← toNat_fraction, full, unit, half] at finite
  split at finite
  · split at finite
    · cases finite
    · cases finite
  · next notFull =>
      split at finite
      · next zero =>
          have least := BitVec.eq_of_toNat_eq (y := 0#11) zero
          obtain ⟨same, rfl⟩ := Magnitude.finite.inj finite
          by_cases none : mantissa = 0
          · exact .inl ⟨none, unpack_zero least (BitVec.eq_of_toNat_eq (same.trans none))⟩
          · refine .inr ⟨⟨by omega, by omega, by omega, .inl rfl⟩, by omega, ?_⟩
            exact (unpack_subnormal least (by omega)).trans (finite_congr rfl same rfl)
      · next nonzero =>
          obtain ⟨same, place⟩ := Magnitude.finite.inj finite
          refine .inr ⟨⟨by omega, by omega, by omega, .inr (by omega)⟩, by omega, ?_⟩
          refine (unpack_normal ?_ ?_).trans (finite_congr rfl same (by omega))
          · intro same
            exact notFull (congrArg BitVec.toNat same)
          · intro same
            exact nonzero (congrArg BitVec.toNat same)

theorem sign_eq (value : Float) :
    Sign.ofBitVec (@unpackSign Format.binary64 value.toModel.toBits.toBitVec) =
      if (doubleParts value).negative then .negative else .positive := by
  rw [ofBitVec_unpackSign, negative_doubleParts]

/-- Doubles with the same parts are the same. -/
theorem eq_of_unpack {first second : Float}
    (same : first.toModel.unpack = second.toModel.unpack) : first = second :=
  Float.toBits_inj.1 (UInt64.toBitVec_inj.1
    ((unpack_inj_of_valid first.toModel.valid second.toModel.valid).1 same))

/-- A double that is not finite is infinite or undefined. -/
theorem unpack_of_not_finite {value : Float} (infinite : isFinite value = false) :
    value.toModel.unpack = .notANumber ∨ ∃ sign, value.toModel.unpack = .infinity sign := by
  have full : @unpackExponent Format.binary64 value.toModel.toBits.toBitVec = -1#11 := by
    rwa [← Bool.not_eq_true, isFinite_iff, Decidable.not_not] at infinite
  unfold Float.Model.unpack UnpackedFloat.unpack
  dsimp only
  rw [if_pos full]
  split
  · exact .inr ⟨_, rfl⟩
  · exact .inl rfl

/-- A double above zero is finite or the infinity on that side. -/
theorem eq_infinite_of_positive {value : Float} (positive : 0 < value)
    (infinite : isFinite value = false) : value = 1 / 0 := by
  have zero : (0 : Float).toModel.unpack = .zero .positive := rfl
  have less : ((0 : Float).toModel.unpack).lt value.toModel.unpack = true :=
    of_decide_eq_true positive
  rw [zero] at less
  rcases unpack_of_not_finite infinite with undefined | ⟨sign, size⟩
  · rw [undefined] at less
    cases less
  · cases sign with
    | negative =>
        rw [size] at less
        cases less
    | positive =>
        apply eq_of_unpack
        rw [size]
        rfl

end BootTheme
