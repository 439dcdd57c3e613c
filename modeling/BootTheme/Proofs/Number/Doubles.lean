import BootTheme.Number.Reading
import Mathlib

/-!
# Signs and sizes of doubles

The digits of a text are read as a number without a sign, and a sign in front of a number
leaves it as finite as it is.
-/

namespace BootTheme

open Float.Model Float.Model.UnpackedFloat

/-- A magnitude that is a number of the reals. -/
def Magnitude.isFinite : Magnitude → Bool
  | .undefined => false
  | .infinite => false
  | .finite _ _ => true

/-- A double that is a number of the reals. -/
def isFinite (value : Float) : Bool := (doubleParts value).magnitude.isFinite

theorem magnitude_of_isFinite {value : Float} (finite : isFinite value = true) :
    ∃ mantissa exponent, (doubleParts value).magnitude = .finite mantissa exponent := by
  unfold isFinite at finite
  cases size : (doubleParts value).magnitude with
  | undefined =>
      rw [size] at finite
      cases finite
  | infinite =>
      rw [size] at finite
      cases finite
  | finite mantissa exponent => exact ⟨mantissa, exponent, rfl⟩

/-! ## Bits of a double -/

/-- The sign is the highest bit. -/
theorem negative_doubleParts (value : Float) :
    (doubleParts value).negative = value.toModel.toBits.toBitVec.getLsbD 63 := by
  have bit : (doubleParts value).negative = ((value.toModel.toBits.toNat >>> 63) % 2 == 1) := by
    unfold doubleParts Parts.ofBits
    dsimp only
    split
    · rfl
    · split
      · rfl
      · rfl
  rw [bit, BitVec.getLsbD, Nat.testBit_eq_decide_div_mod_eq, Nat.shiftRight_eq_div_pow]
  rfl

theorem toNat_exponent (value : Float) :
    (@unpackExponent Format.binary64 value.toModel.toBits.toBitVec).toNat =
      (value.toBits.toNat >>> 52) % (1 <<< 11) := by
  unfold unpackExponent
  rw [BitVec.toNat_cast, BitVec.extractLsb_toNat]
  rfl

theorem toNat_fraction (value : Float) :
    (@unpackMantissa Format.binary64 value.toModel.toBits.toBitVec).toNat =
      value.toBits.toNat % (1 <<< 52) := by
  unfold unpackMantissa
  rw [BitVec.toNat_cast, BitVec.extractLsb_toNat]
  rfl

/-- A double is finite when its exponent bits are not all set. -/
theorem isFinite_iff (value : Float) :
    isFinite value = true ↔
      @unpackExponent Format.binary64 value.toModel.toBits.toBitVec ≠ -1#11 := by
  have exponent := toNat_exponent value
  have allSet : @unpackExponent Format.binary64 value.toModel.toBits.toBitVec = -1#11 ↔
      (value.toBits.toNat >>> 52) % (1 <<< 11) = (1 <<< 11) - 1 := by
    rw [← exponent, ← BitVec.toNat_inj]
    rfl
  rw [Ne, allSet]
  unfold isFinite doubleParts Parts.ofBits
  dsimp only
  split
  · next full =>
      constructor
      · split
        · intro impossible
          cases impossible
        · intro impossible
          cases impossible
      · intro other
        exact absurd full other
  · next other =>
      constructor
      · intro _
        exact other
      · intro _
        split
        · rfl
        · rfl

theorem getLsbD_packComponents (sign : Sign) (exponent : BitVec 11) (mantissa : BitVec 52) :
    (packComponents Format.binary64 sign exponent mantissa).getLsbD 63 =
      sign.toBitVec.getLsbD 0 := by
  unfold packComponents
  rw [BitVec.getLsbD_append, BitVec.getLsbD_append]
  rfl

/-- The sign that an unpacked number is packed with. -/
def packedSign : UnpackedFloat → Sign
  | .infinity sign => sign
  | .notANumber => .positive
  | .zero sign => sign
  | .finite sign _ _ _ => sign

theorem getLsbD_pack (number : UnpackedFloat) :
    (pack Format.binary64 number).getLsbD 63 = (packedSign number).toBitVec.getLsbD 0 := by
  cases number with
  | infinity sign => exact getLsbD_packComponents _ _ _
  | notANumber => exact getLsbD_packComponents _ _ _
  | zero sign => exact getLsbD_packComponents _ _ _
  | finite sign mantissa exponent positive =>
      unfold UnpackedFloat.pack
      dsimp only
      split
      · exact getLsbD_packComponents _ _ _
      · split
        · exact getLsbD_packComponents _ _ _
        · exact getLsbD_packComponents _ _ _

/-- An unpacked number without a negative sign. -/
def Unsigned : UnpackedFloat → Prop
  | .infinity sign => sign = .positive
  | .notANumber => True
  | .zero sign => sign = .positive
  | .finite sign _ _ _ => sign = .positive

theorem Unsigned.pack {number : UnpackedFloat} (unsigned : Unsigned number) :
    (pack Format.binary64 number).getLsbD 63 = false := by
  have positive : packedSign number = .positive := by
    cases number with
    | infinity sign => exact unsigned
    | notANumber => rfl
    | zero sign => exact unsigned
    | finite sign mantissa exponent positive => exact unsigned
  rw [getLsbD_pack, positive]
  rfl

/-- An unpacked number that is defined and finite before it is packed, with its sign. -/
def Signed (sign : Sign) : UnpackedFloat → Prop
  | .infinity _ => False
  | .notANumber => False
  | .zero another => another = sign
  | .finite another _ _ _ => another = sign

theorem Signed.packedSign_eq {sign : Sign} {number : UnpackedFloat} (signed : Signed sign number) :
    packedSign number = sign := by
  cases number with
  | infinity another => cases signed
  | notANumber => cases signed
  | zero another => exact signed
  | finite another mantissa exponent positive => exact signed

theorem Signed.unsigned {number : UnpackedFloat} (signed : Signed .positive number) :
    Unsigned number := by
  cases number with
  | infinity another => cases signed
  | notANumber => cases signed
  | zero another => exact signed
  | finite another mantissa exponent positive => exact signed

theorem signed_roundWithAccuracy (sign : Sign) (mantissa : Nat) (exponent : Int)
    (accuracy : Accuracy) :
    Signed sign (roundWithAccuracy Format.binary64 sign mantissa exponent accuracy) := by
  unfold roundWithAccuracy
  dsimp only
  split
  · rfl
  · rfl

theorem ofBitVec_unpackSign (bits : BitVec 64) :
    Sign.ofBitVec (@unpackSign Format.binary64 bits) =
      if bits.getLsbD 63 then .negative else .positive := by
  have highest : @unpackSign Format.binary64 bits = BitVec.ofBool (bits.getLsbD 63) := by
    ext i inside
    have first : i = 0 := by omega
    subst first
    unfold unpackSign
    rw [BitVec.getElem_cast, BitVec.extractLsb, BitVec.getElem_extractLsb', BitVec.getElem_ofBool]
    rfl
  rw [highest]
  cases bits.getLsbD 63 <;> rfl

theorem unsigned_unpack {bits : BitVec 64} (clear : bits.getLsbD 63 = false) :
    Unsigned (unpack Format.binary64 bits) := by
  have sign : Sign.ofBitVec (@unpackSign Format.binary64 bits) = .positive := by
    rw [ofBitVec_unpackSign, clear]
    rfl
  unfold UnpackedFloat.unpack
  dsimp only
  rw [sign]
  split
  · split
    · rfl
    · trivial
  · split
    · split
      · rfl
      · rfl
    · rfl

/-! ## A sign changes no size -/

/-- An unpacked number that is no infinity when it is packed. -/
def Bounded : UnpackedFloat → Prop
  | .infinity _ => False
  | .notANumber => False
  | .zero _ => True
  | .finite _ _ exponent _ => exponent < 972

theorem bounded_neg (number : UnpackedFloat) : Bounded number.neg ↔ Bounded number := by
  cases number <;> rfl

theorem bounded_unpack (bits : BitVec 64) :
    Bounded (unpack Format.binary64 bits) ↔
      @unpackExponent Format.binary64 bits ≠ -1#11 := by
  unfold UnpackedFloat.unpack
  dsimp only
  split
  · next full =>
      constructor
      · split
        · intro impossible
          cases impossible
        · intro impossible
          cases impossible
      · intro other
        exact absurd full other
  · next other =>
      have small : (@unpackExponent Format.binary64 bits).toNat < 2047 := by
        have below := (@unpackExponent Format.binary64 bits).isLt
        have apart : (@unpackExponent Format.binary64 bits).toNat ≠ 2047 := by
          intro same
          exact other (BitVec.eq_of_toNat_eq same)
        change _ < 2048 at below
        omega
      have bias : (Format.binary64.exponentBias : Int) = 1023 := rfl
      have width : (Format.binary64.mantissaBitsWithoutImplicit : Int) = 52 := rfl
      constructor
      · intro _
        exact other
      · intro _
        split
        · next zero =>
            have least : (@unpackExponent Format.binary64 bits).toNat = 0 :=
              congrArg BitVec.toNat zero
            split
            · trivial
            · change _ < (972 : Int)
              omega
        · change _ < (972 : Int)
          omega

theorem bounded_pack (number : UnpackedFloat) :
    unpackExponent (pack Format.binary64 number) ≠ -1#11 ↔ Bounded number := by
  have packed (sign : Sign) (exponent : BitVec 11) (mantissa : BitVec 52) :
      unpackExponent (packComponents Format.binary64 sign exponent mantissa) = exponent :=
    unpackExponent_packComponents
  cases number with
  | infinity sign =>
      change unpackExponent (packComponents Format.binary64 sign (-1#11) 0) ≠ _ ↔ False
      rw [packed]
      exact ⟨fun other => other rfl, False.elim⟩
  | notANumber =>
      change unpackExponent (packComponents Format.binary64 .positive (-1#11) _) ≠ _ ↔ False
      rw [packed]
      exact ⟨fun other => other rfl, False.elim⟩
  | zero sign =>
      change unpackExponent (packComponents Format.binary64 sign 0 0) ≠ _ ↔ True
      rw [packed]
      decide
  | finite sign mantissa exponent positive =>
      have bias : (Format.binary64.exponentBias : Int) = 1023 := rfl
      have width : (Format.binary64.mantissaBitsWithoutImplicit : Int) = 52 := rfl
      unfold UnpackedFloat.pack
      dsimp only
      split
      · next great =>
          change unpackExponent (packComponents Format.binary64 sign (-1#11) 0) ≠ _ ↔ exponent < 972
          change 2048 ≤ _ at great
          rw [packed]
          constructor
          · intro other
            exact absurd rfl other
          · omega
      · next small =>
          change ¬ 2048 ≤ _ at small
          have bounded : exponent < 972 := by omega
          refine ⟨fun _ => bounded, fun _ => ?_⟩
          split
          · rw [packed]
            intro same
            have values := congrArg BitVec.toNat same
            rw [BitVec.toNat_ofNat] at values
            change _ % 2048 = 2047 at values
            omega
          · rw [packed]
            decide

theorem isFinite_neg (value : Float) : isFinite (-value) = isFinite value := by
  rw [Bool.eq_iff_iff, isFinite_iff, isFinite_iff]
  exact (bounded_pack _).trans ((bounded_neg _).trans (bounded_unpack _))

/-! ## Digits are read without a sign -/

theorem unsigned_roundWithAccuracy (mantissa : Nat) (exponent : Int) (accuracy : Accuracy) :
    Unsigned (roundWithAccuracy Format.binary64 .positive mantissa exponent accuracy) :=
  (signed_roundWithAccuracy .positive mantissa exponent accuracy).unsigned

theorem Unsigned.mul {first second : UnpackedFloat} (left : Unsigned first)
    (right : Unsigned second) : Unsigned (UnpackedFloat.mul Format.binary64 first second) := by
  cases first <;> cases second <;> cases left <;> cases right <;>
    first | trivial | rfl | exact unsigned_roundWithAccuracy _ _ _

theorem Unsigned.div {first second : UnpackedFloat} (left : Unsigned first)
    (right : Unsigned second) : Unsigned (UnpackedFloat.div Format.binary64 first second) := by
  cases first <;> cases second <;> cases left <;> cases right <;>
    first | trivial | rfl | exact unsigned_roundWithAccuracy _ _ _

theorem unsigned_ofScientific (digits : Nat) (exponent : Int) :
    Unsigned (UnpackedFloat.ofScientific Format.binary64 digits exponent) := by
  unfold UnpackedFloat.ofScientific
  split
  · rfl
  · split
    · rfl
    · split
      · rfl
      · split
        · exact Unsigned.mul rfl rfl
        · exact Unsigned.div rfl rfl

theorem unsigned_ofUInt64 (count : UInt64) :
    Unsigned (UnpackedFloat.ofUInt64 Format.binary64 count) := by
  unfold UnpackedFloat.ofUInt64 UnpackedFloat.ofNat UnpackedFloat.ofInt UnpackedFloat.normalize
  split
  · next below =>
      rw [Std.compare_eq_lt] at below
      omega
  · rfl
  · exact unsigned_roundWithAccuracy _ _ _

theorem unsigned_powerOfTen {power : Float}
    (among : power ∈ Float.exactlyRepresentablePowersOfTen) : Unsigned power.toModel.unpack := by
  have clear : ∀ power ∈ Float.exactlyRepresentablePowersOfTen.toList,
      power.toModel.toBits.toBitVec.getLsbD 63 = false := by
    decide +kernel
  exact unsigned_unpack (clear power (Array.mem_toList_iff.2 among))

theorem ofScientific_nonnegative (digits : Nat) (small : Bool) (exponent : Nat) :
    (doubleParts (Float.ofScientific digits small exponent)).negative = false := by
  rw [negative_doubleParts]
  unfold Float.ofScientific
  split
  · have whole : Unsigned digits.toUInt64.toFloat.toModel.unpack :=
      unsigned_unpack (unsigned_ofUInt64 _).pack
    split
    · exact (whole.div (unsigned_powerOfTen (Array.getElem_mem _))).pack
    · exact (whole.mul (unsigned_powerOfTen (Array.getElem_mem _))).pack
  · exact (unsigned_ofScientific _ _).pack

/-- A number read of digits has no sign. -/
theorem readFraction_nonnegative (whole places : List Char) :
    (doubleParts (readFraction whole places)).negative = false := by
  unfold readFraction nearestDouble
  dsimp only
  split
  · decide +kernel
  · split
    · decide +kernel
    · split
      · decide +kernel
      · exact ofScientific_nonnegative _ _ _

end BootTheme
