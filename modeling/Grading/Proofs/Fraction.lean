import Grading.TestResult
import Mathlib

namespace Grading

/-! The score of counts, as a double, is zero only if no test passed: neither the difference nor the
quotient of counts is lost by rounding. -/

open Float.Model (Format UnpackedFloat totalExponent)
open Float.Model.UnpackedFloat hiding normalize round

namespace Double

/-! ## Numbers with all their bits -/

/-- The number has this sign and a full mantissa, or is too large for one. Its magnitude is
`2 ^ least` at the least. -/
def IsNormal (sign : Sign) (least : Int) : UnpackedFloat → Prop
  | .finite other mantissa exponent _ => other = sign ∧ mantissa.log2 = 52 ∧ least ≤ exponent + 52
  | .infinity other => other = sign
  | _ => False

theorem log2_mul_two_pow {mantissa : Nat} (positive : mantissa ≠ 0) (count : Nat) :
    (mantissa * 2 ^ count).log2 = mantissa.log2 + count := by
  induction count with
  | zero => rw [Nat.pow_zero, Nat.mul_one, Nat.add_zero]
  | succ count induction =>
      have double : mantissa * 2 ^ (count + 1) = 2 * (mantissa * 2 ^ count) := by
        rw [Nat.pow_succ, ← Nat.mul_assoc, Nat.mul_comm]
      have product : mantissa * 2 ^ count ≠ 0 :=
        Nat.mul_ne_zero positive (Nat.ne_of_gt (Nat.two_pow_pos count))
      rw [double, Nat.log2_two_mul product, induction, Nat.add_assoc]

theorem targetExponent_binary64 (exponent : Int) :
    Format.binary64.targetExponent exponent = max (exponent - 53) (-1074) := rfl

/-! ## Rounding -/

theorem mantissa_shiftRight (extended : ExtendedMantissa) (count : Nat) :
    (extended >>> count).mantissa = extended.mantissa / 2 ^ count := by
  induction count with
  | zero => exact (Nat.div_one _).symm
  | succ count induction =>
      change (extended >>> count).mantissa / 2 = _
      rw [induction, Nat.div_div_eq_div_mul, Nat.pow_succ]

theorem mantissa_ofMantissaAndAccuracy (mantissa : Nat) (accuracy : Accuracy) :
    (ExtendedMantissa.ofMantissaAndAccuracy mantissa accuracy).mantissa = mantissa := by
  rcases accuracy with _ | order
  · rfl
  · cases order <;> rfl

/-- Rounding adds one at most. -/
theorem roundedMantissa_bounds (extended : ExtendedMantissa) :
    extended.mantissa ≤ extended.roundedMantissa ∧
      extended.roundedMantissa ≤ extended.mantissa + 1 := by
  obtain ⟨mantissa, round, sticky⟩ := extended
  cases round <;> cases sticky <;>
    simp only [ExtendedMantissa.roundedMantissa, ExtendedMantissa.accuracy,
      Accuracy.roundToNearestEven] <;> omega

theorem shiftToTargetExponent_eq {mantissa : Nat} {exponent : Int} {accuracy : Accuracy}
    (isLong : 52 ≤ mantissa.log2) (isLarge : -1022 ≤ mantissa.log2 + exponent) :
    shiftToTargetExponent .binary64 mantissa exponent accuracy =
      (ExtendedMantissa.ofMantissaAndAccuracy mantissa accuracy >>> (mantissa.log2 - 52),
        exponent + (mantissa.log2 - 52 : Nat)) := by
  have target : Format.binary64.targetExponent (totalExponent mantissa exponent) - exponent =
      (mantissa.log2 - 52 : Nat) := by
    rw [targetExponent_binary64, totalExponent]
    omega
  rw [shiftToTargetExponent, shiftToExponent, target, Int.toNat_natCast]

theorem log2_div_two_pow {mantissa : Nat} (isLong : 52 ≤ mantissa.log2) :
    (mantissa / 2 ^ (mantissa.log2 - 52)).log2 = 52 := by
  have positive : mantissa ≠ 0 := by
    rintro rfl
    simp at isLong
  have lower := Nat.log2_self_le positive
  have upper := Nat.lt_log2_self (n := mantissa)
  have split : mantissa.log2 = 52 + (mantissa.log2 - 52) := by omega
  have split' : mantissa.log2 + 1 = 53 + (mantissa.log2 - 52) := by omega
  rw [split, Nat.pow_add] at lower
  rw [split', Nat.pow_add] at upper
  have atLeast := (Nat.le_div_iff_mul_le (Nat.two_pow_pos _)).mpr lower
  have below := (Nat.div_lt_iff_lt_mul (Nat.two_pow_pos _)).mpr upper
  exact (Nat.log2_eq_iff (by omega)).mpr ⟨atLeast, below⟩

/-- A long mantissa is rounded to a full one. What is dropped of it counts as one unit of the full
mantissa at most. -/
theorem exists_roundWithAccuracy (sign : Sign) {mantissa : Nat} {exponent : Int}
    (accuracy : Accuracy) (isLong : 52 ≤ mantissa.log2)
    (isLarge : -1022 ≤ mantissa.log2 + exponent) :
    ∃ (rounded places : Nat) (positive : 0 < rounded),
      roundWithAccuracy .binary64 sign mantissa exponent accuracy =
        .finite sign rounded (exponent + places) positive ∧
      rounded.log2 = 52 ∧ mantissa.log2 ≤ places + 52 ∧
      rounded * 2 ^ places ≤ mantissa + 2 ^ (mantissa.log2 - 52) := by
  obtain ⟨shifted, isShifted⟩ : ∃ shifted, shifted =
    ExtendedMantissa.ofMantissaAndAccuracy mantissa accuracy >>> (mantissa.log2 - 52) := ⟨_, rfl⟩
  have part : shifted.mantissa = mantissa / 2 ^ (mantissa.log2 - 52) := by
    rw [isShifted, mantissa_shiftRight, mantissa_ofMantissaAndAccuracy]
  have full : shifted.mantissa.log2 = 52 := part ▸ log2_div_two_pow isLong
  have enough : 52 ≤ shifted.roundedMantissa.log2 := by
    have positive : shifted.mantissa ≠ 0 := by
      intro zero
      rw [zero] at full
      cases full
    have atLeast := Nat.log2_self_le positive
    rw [full] at atLeast
    have kept := (roundedMantissa_bounds shifted).1
    exact (Nat.le_log2 (by omega)).mpr (by omega)
  have isLarge' : -1022 ≤
      shifted.roundedMantissa.log2 + (exponent + (mantissa.log2 - 52 : Nat)) := by omega
  have filled := log2_div_two_pow enough
  have positive : 0 < shifted.roundedMantissa / 2 ^ (shifted.roundedMantissa.log2 - 52) := by
    refine Nat.pos_of_ne_zero fun zero => ?_
    rw [zero] at filled
    cases filled
  refine ⟨_, mantissa.log2 - 52 + (shifted.roundedMantissa.log2 - 52), positive, ?_, filled, ?_, ?_⟩
  · simp only [roundWithAccuracy, shiftToTargetExponent_eq isLong isLarge, ← isShifted,
      shiftToTargetExponent_eq enough isLarge', mantissa_shiftRight,
      mantissa_ofMantissaAndAccuracy]
    rw [dif_neg (Nat.ne_of_gt positive)]
    simp only [Int.natCast_add, Int.add_assoc]
  · omega
  · have kept := (roundedMantissa_bounds shifted).2
    have dropped := Nat.div_mul_le_self shifted.roundedMantissa
      (2 ^ (shifted.roundedMantissa.log2 - 52))
    have before := Nat.div_mul_le_self mantissa (2 ^ (mantissa.log2 - 52))
    calc _ = shifted.roundedMantissa / 2 ^ (shifted.roundedMantissa.log2 - 52) *
            2 ^ (shifted.roundedMantissa.log2 - 52) * 2 ^ (mantissa.log2 - 52) := by
          rw [Nat.pow_add, Nat.mul_assoc, Nat.mul_comm (2 ^ (mantissa.log2 - 52))]
      _ ≤ (shifted.mantissa + 1) * 2 ^ (mantissa.log2 - 52) :=
          Nat.mul_le_mul_right _ (Nat.le_trans dropped kept)
      _ ≤ mantissa + 2 ^ (mantissa.log2 - 52) := by
          rw [part, Nat.add_mul, Nat.one_mul]
          exact Nat.add_le_add_right before _

theorem isNormal_roundWithAccuracy (sign : Sign) {mantissa : Nat} {exponent : Int}
    (accuracy : Accuracy) (isLong : 52 ≤ mantissa.log2)
    (isLarge : -1022 ≤ mantissa.log2 + exponent) :
    IsNormal sign (mantissa.log2 + exponent)
      (roundWithAccuracy .binary64 sign mantissa exponent accuracy) := by
  obtain ⟨rounded, places, positive, isRounded, full, long, -⟩ :=
    exists_roundWithAccuracy sign accuracy isLong isLarge
  rw [isRounded]
  refine ⟨rfl, full, ?_⟩
  omega

theorem log2_shiftLeft {mantissa : Nat} (positive : mantissa ≠ 0) (count : Nat) :
    (mantissa <<< count).log2 = mantissa.log2 + count := by
  rw [Nat.shiftLeft_eq, log2_mul_two_pow positive]

/-- A number that is not too small is rounded to a full mantissa. -/
theorem isNormal_round (sign : Sign) {mantissa : Nat} {exponent : Int} (positive : mantissa ≠ 0)
    (isLarge : -1022 ≤ mantissa.log2 + exponent) :
    IsNormal sign (mantissa.log2 + exponent)
      (UnpackedFloat.round .binary64 sign mantissa exponent) := by
  simp only [UnpackedFloat.round, decreaseExponent]
  generalize isCount :
    (exponent - Format.binary64.targetExponent (totalExponent mantissa exponent)).toNat = count
  have enough : 52 ≤ (mantissa <<< count).log2 := by
    rw [log2_shiftLeft positive, ← isCount, targetExponent_binary64, totalExponent]
    omega
  have same : ((mantissa <<< count).log2 : Int) + (exponent - count) =
      mantissa.log2 + exponent := by
    rw [log2_shiftLeft positive]
    omega
  rw [← same]
  exact isNormal_roundWithAccuracy sign .exact enough (same ▸ isLarge)

/-! ## Bits -/

theorem sign_packComponents (sign : Sign) (exponent : BitVec 11) (mantissa : BitVec 52) :
    Sign.ofBitVec (unpackSign (packComponents .binary64 sign exponent mantissa)) = sign := by
  have bit : unpackSign (packComponents .binary64 sign exponent mantissa) = sign.toBitVec := by
    rw [unpackSign, packComponents, BitVec.extractLsb,
      BitVec.extractLsb'_append_eq_of_le (by decide),
      BitVec.extractLsb'_append_eq_of_le (by decide)]
    cases sign <;> rfl
  rw [bit]
  cases sign <;> rfl

theorem unpack_packedZero (sign : Sign) :
    unpack .binary64 (packedZero .binary64 sign) = .zero sign := by
  cases sign <;> rfl

theorem unpack_packedInfinity (sign : Sign) :
    unpack .binary64 (packedInfinity .binary64 sign) = .infinity sign := by
  cases sign <;> rfl

theorem one_append_pos (mantissa : BitVec 52) : 0 < (1#1 ++ mantissa).toNat := by
  rw [BitVec.toNat_append]
  exact Nat.lt_of_lt_of_le (by decide) Nat.left_le_or

/-- Numbers with all their bits have a leading one in front of their mantissa. -/
theorem unpack_packComponents (sign : Sign) {exponent : BitVec 11} (mantissa : BitVec 52)
    (notInfinite : exponent ≠ -1#11) (notSmall : exponent ≠ 0#11) :
    unpack .binary64 (packComponents .binary64 sign exponent mantissa) =
      .finite sign (1#1 ++ mantissa).toNat (exponent.toNat - 1075) (one_append_pos mantissa) := by
  simp only [unpack, unpackMantissa_packComponents, unpackExponent_packComponents,
    sign_packComponents]
  rw [if_neg notInfinite, if_neg notSmall]
  rfl

theorem toNat_one_append {mantissa : Nat} (lower : 2 ^ 52 ≤ mantissa) (upper : mantissa < 2 ^ 53) :
    (1#1 ++ BitVec.ofNat 52 mantissa).toNat = mantissa := by
  rw [BitVec.toNat_append, BitVec.toNat_ofNat, ← Nat.shiftLeft_add_eq_or_of_lt (by omega)]
  simp only [Nat.shiftLeft_eq, BitVec.toNat_ofNat]
  omega

/-- A number with a full mantissa stays as it is in its bits, unless it is too large. -/
theorem unpack_pack_of_full {sign : Sign} {mantissa : Nat} {exponent : Int}
    (positive : 0 < mantissa) (full : mantissa.log2 = 52) (isLarge : -1074 ≤ exponent) :
    unpack .binary64 (pack .binary64 (.finite sign mantissa exponent positive)) =
      if exponent ≤ 971 then .finite sign mantissa exponent positive else .infinity sign := by
  rcases (Nat.log2_eq_iff (by omega)).mp full with ⟨lower, upper⟩
  have packed : pack .binary64 (.finite sign mantissa exponent positive) =
      if 2 ^ 11 ≤ (exponent + 1075).toNat + 1 then packedInfinity .binary64 sign
      else packComponents .binary64 sign (.ofNat 11 (exponent + 1075).toNat)
        (.ofNat 52 mantissa) := by
    have biased : exponent + Format.binary64.exponentBias + (52 : Nat) = exponent + 1075 := by
      change exponent + 1023 + 52 = exponent + 1075
      omega
    simp only [pack, biased]
    rw [if_pos (show mantissa.log2 + 1 = Format.binary64.mantissaBits by rw [full]; rfl)]
  rw [packed]
  by_cases fits : exponent ≤ 971
  · rw [if_neg (by omega), if_pos fits]
    have value : (BitVec.ofNat 11 (exponent + 1075).toNat).toNat = (exponent + 1075).toNat := by
      rw [BitVec.toNat_ofNat]
      omega
    have notInfinite : BitVec.ofNat 11 (exponent + 1075).toNat ≠ -1#11 := by
      intro same
      rw [same] at value
      change 2047 = _ at value
      omega
    have notSmall : BitVec.ofNat 11 (exponent + 1075).toNat ≠ 0#11 := by
      intro same
      rw [same] at value
      change 0 = _ at value
      omega
    rw [unpack_packComponents sign (.ofNat 52 mantissa) notInfinite notSmall]
    congr 1
    · exact toNat_one_append lower upper
    · rw [value]
      omega
  · rw [if_pos (by omega), if_neg fits]
    exact unpack_packedInfinity sign

theorem isNormal_unpack_pack {sign : Sign} {least : Int} {value : UnpackedFloat}
    (isNormal : IsNormal sign least value) (isLarge : -1022 ≤ least) :
    IsNormal sign least (unpack .binary64 (pack .binary64 value)) := by
  cases value with
  | notANumber | zero => cases isNormal
  | infinity other =>
      change IsNormal sign least (unpack .binary64 (packedInfinity .binary64 other))
      rw [unpack_packedInfinity]
      exact isNormal
  | finite other mantissa exponent positive =>
      rcases isNormal with ⟨rfl, full, above⟩
      rw [unpack_pack_of_full positive full (by omega)]
      split
      · exact ⟨rfl, full, above⟩
      · rfl

/-! ## Counts -/

theorem roundWithAccuracy_of_full (sign : Sign) {mantissa : Nat} {exponent : Int}
    (full : mantissa.log2 = 52) (positive : 0 < mantissa) (isLarge : -1074 ≤ exponent) :
    roundWithAccuracy .binary64 sign mantissa exponent .exact =
      .finite sign mantissa exponent positive := by
  have shifted : shiftToTargetExponent .binary64 mantissa exponent .exact =
      (⟨mantissa, false, false⟩, exponent) := by
    rw [shiftToTargetExponent_eq (by omega) (by omega), full]
    exact congrArg _ (Int.add_zero exponent)
  have rounded : (ExtendedMantissa.mk mantissa false false).roundedMantissa = mantissa := rfl
  simp only [roundWithAccuracy, shifted, rounded]
  rw [dif_neg (by omega)]

theorem log2_lt_of_small {count : Nat} (nonzero : count ≠ 0) (small : count < 2 ^ 32) :
    count.log2 < 32 := (Nat.log2_lt nonzero).mpr small

/-- A count with a full mantissa. -/
def scaled (count : Nat) (nonzero : count ≠ 0) : UnpackedFloat :=
  .finite .positive (count * 2 ^ (52 - count.log2)) (count.log2 - 52)
    (Nat.mul_pos (Nat.pos_of_ne_zero nonzero) (Nat.two_pow_pos _))

theorem log2_scaled {count : Nat} (nonzero : count ≠ 0) (small : count < 2 ^ 32) :
    (count * 2 ^ (52 - count.log2)).log2 = 52 := by
  have short := log2_lt_of_small nonzero small
  rw [log2_mul_two_pow nonzero]
  omega

/-- Counts are not rounded. -/
theorem round_count {count : Nat} (nonzero : count ≠ 0) (small : count < 2 ^ 32) :
    UnpackedFloat.round .binary64 .positive count 0 = scaled count nonzero := by
  have short := log2_lt_of_small nonzero small
  have target : (0 - Format.binary64.targetExponent (totalExponent count 0)).toNat =
      52 - count.log2 := by
    rw [targetExponent_binary64, totalExponent]
    omega
  have exponent : (0 : Int) - (52 - count.log2 : Nat) = count.log2 - 52 := by omega
  simp only [UnpackedFloat.round, decreaseExponent, target, exponent, Nat.shiftLeft_eq]
  exact roundWithAccuracy_of_full .positive (log2_scaled nonzero small) _ (by omega)

theorem unpack_pack_scaled {count : Nat} (nonzero : count ≠ 0) (small : count < 2 ^ 32) :
    unpack .binary64 (pack .binary64 (scaled count nonzero)) = scaled count nonzero := by
  have short := log2_lt_of_small nonzero small
  rw [scaled, unpack_pack_of_full _ (log2_scaled nonzero small) (by omega), if_pos (by omega)]

theorem unpack_ofCount {count : Nat} (nonzero : count ≠ 0) (small : count < 2 ^ 32) :
    (Quantity.ofCount count : Float).toModel.unpack = scaled count nonzero := by
  have word : count.toUInt64.toNat = count := Nat.mod_eq_of_lt (by omega)
  have compared : compare (count : Int) 0 = .gt := Int.compare_eq_gt.mpr (by omega)
  have value : ofUInt64 .binary64 count.toUInt64 =
      UnpackedFloat.round .binary64 .positive count 0 := by
    simp only [ofUInt64, ofNat, ofInt, word, UnpackedFloat.normalize, compared, Int.toNat_natCast]
  change unpack .binary64 (pack .binary64 (ofUInt64 .binary64 count.toUInt64)) = _
  rw [value, round_count nonzero small, unpack_pack_scaled nonzero small]

theorem unpack_ofCount_zero : (Quantity.ofCount 0 : Float).toModel.unpack = .zero .positive := rfl

/-! ## Differences -/

/-- The mantissas of counts are brought to a common exponent. -/
theorem decreaseExponent_scaled {count : Nat} (short : count.log2 ≤ 52) {target : Int}
    (below : target ≤ count.log2 - 52) :
    (decreaseExponent (count * 2 ^ (52 - count.log2)) (count.log2 - 52) target).1 =
      count * 2 ^ (-target).toNat := by
  have shifts : 52 - count.log2 + ((count.log2 : Int) - 52 - target).toNat = (-target).toNat := by
    omega
  rw [decreaseExponent, Nat.shiftLeft_eq, Nat.mul_assoc, ← Nat.pow_add, shifts]

theorem sub_scaled {count failed : Nat} (nonzero : count ≠ 0) (nonzero' : failed ≠ 0)
    (small : count < 2 ^ 32) (small' : failed < 2 ^ 32) :
    ∃ places : Nat, sub .binary64 (scaled count nonzero) (scaled failed nonzero') =
      UnpackedFloat.normalize .binary64 ((count - failed : Int) * 2 ^ places) (-places)
        .positive := by
  have short := log2_lt_of_small nonzero small
  have short' := log2_lt_of_small nonzero' small'
  refine ⟨(-(min ((count.log2 : Int) - 52) (failed.log2 - 52))).toNat, ?_⟩
  have common : (-((-(min ((count.log2 : Int) - 52) (failed.log2 - 52))).toNat : Int)) =
      min ((count.log2 : Int) - 52) (failed.log2 - 52) := by omega
  rw [common]
  simp only [sub, scaled]
  rw [decreaseExponent_scaled (by omega) (Int.min_le_left _ _),
    decreaseExponent_scaled (by omega) (Int.min_le_right _ _)]
  rw [Int.sub_mul]
  simp only [Sign.apply, Int.natCast_mul, Int.natCast_pow]
  rfl

theorem IsNormal.weaken {sign : Sign} {least lower : Int} {value : UnpackedFloat}
    (isNormal : IsNormal sign least value) (below : lower ≤ least) : IsNormal sign lower value := by
  cases value with
  | notANumber | zero => cases isNormal
  | infinity other => exact isNormal
  | finite other mantissa exponent positive =>
      rcases isNormal with ⟨same, full, above⟩
      exact ⟨same, full, Int.le_trans below above⟩

/-- A whole number keeps its sign, and stays away from zero. -/
theorem isNormal_normalize (sign : Sign) {number : Nat} (nonzero : number ≠ 0) (places : Nat) :
    IsNormal sign 0 (UnpackedFloat.normalize .binary64 (sign.apply (number * 2 ^ places : Nat))
      (-places) .positive) := by
  have product : 0 < number * 2 ^ places :=
    Nat.mul_pos (Nat.pos_of_ne_zero nonzero) (Nat.two_pow_pos places)
  have size := log2_mul_two_pow nonzero places
  have rounded : UnpackedFloat.normalize .binary64 (sign.apply (number * 2 ^ places : Nat))
      (-places) .positive =
      UnpackedFloat.round .binary64 sign (number * 2 ^ places) (-places) := by
    cases sign with
    | positive =>
        have compared : compare ((number * 2 ^ places : Nat) : Int) 0 = .gt :=
          Int.compare_eq_gt.mpr (by omega)
        simp only [UnpackedFloat.normalize, Sign.apply, compared, Int.toNat_natCast]
    | negative =>
        have compared : compare (-(number * 2 ^ places : Nat) : Int) 0 = .lt :=
          Int.compare_eq_lt.mpr (by omega)
        simp only [UnpackedFloat.normalize, Sign.apply, compared, Int.neg_neg, Int.toNat_natCast]
  rw [rounded]
  exact (isNormal_round sign (by omega) (by omega)).weaken (by omega)

theorem isNormal_sub_of_lt {count failed : Nat} (nonzero : count ≠ 0) (nonzero' : failed ≠ 0)
    (small : count < 2 ^ 32) (small' : failed < 2 ^ 32) (less : failed < count) :
    IsNormal .positive 0 (sub .binary64 (scaled count nonzero) (scaled failed nonzero')) := by
  rcases sub_scaled nonzero nonzero' small small' with ⟨places, difference⟩
  have whole : (count - failed : Int) * 2 ^ places =
      Sign.positive.apply ((count - failed) * 2 ^ places : Nat) := by
    rw [Sign.apply, Int.natCast_mul, Int.natCast_sub (Nat.le_of_lt less), Int.natCast_pow]
    rfl
  rw [difference, whole]
  exact isNormal_normalize .positive (by omega) places

theorem isNormal_sub_of_gt {count failed : Nat} (nonzero : count ≠ 0) (nonzero' : failed ≠ 0)
    (small : count < 2 ^ 32) (small' : failed < 2 ^ 32) (less : count < failed) :
    IsNormal .negative 0 (sub .binary64 (scaled count nonzero) (scaled failed nonzero')) := by
  rcases sub_scaled nonzero nonzero' small small' with ⟨places, difference⟩
  have whole : (count - failed : Int) * 2 ^ places =
      Sign.negative.apply ((failed - count) * 2 ^ places : Nat) := by
    rw [Sign.apply, Int.natCast_mul, Int.natCast_sub (Nat.le_of_lt less), Int.natCast_pow,
      ← Int.neg_mul, Int.neg_sub]
    rfl
  rw [difference, whole]
  exact isNormal_normalize .negative (by omega) places

theorem sub_scaled_self {count : Nat} (nonzero : count ≠ 0) (small : count < 2 ^ 32) :
    sub .binary64 (scaled count nonzero) (scaled count nonzero) = .zero .positive := by
  rcases sub_scaled nonzero nonzero small small with ⟨places, difference⟩
  rw [difference, Int.sub_self, Int.zero_mul]
  rfl

/-! ## Quotients -/

theorem two_pow_le_of_full {mantissa : Nat} (full : mantissa.log2 = 52) :
    2 ^ 52 ≤ mantissa ∧ mantissa < 2 ^ 53 :=
  (Nat.log2_eq_iff (by rintro rfl; cases full)).mp full

/-- Enough is left of a quotient of full mantissas. -/
theorem le_log2_quotient {mantissa divisor : Nat} (full : mantissa.log2 = 52)
    (full' : divisor.log2 = 52) : 52 ≤ (mantissa <<< 53 / divisor).log2 := by
  rcases two_pow_le_of_full full with ⟨lower, upper⟩
  rcases two_pow_le_of_full full' with ⟨lower', upper'⟩
  have atLeast : 2 ^ 52 ≤ mantissa <<< 53 / divisor := by
    rw [Nat.le_div_iff_mul_le (by omega), Nat.shiftLeft_eq]
    omega
  exact (Nat.le_log2 (by omega)).mpr atLeast

theorem div_scaled (sign : Sign) {mantissa : Nat} {exponent : Int} (positive : 0 < mantissa)
    (full : mantissa.log2 = 52) (above : 0 ≤ exponent + 52) {count : Nat} (nonzero : count ≠ 0)
    (small : count < 2 ^ 32) :
    div .binary64 (.finite sign mantissa exponent positive) (scaled count nonzero) =
      roundWithAccuracy .binary64 sign (mantissa <<< 53 / (count * 2 ^ (52 - count.log2)))
        (exponent - count.log2 - 1)
        (accuracyOfFraction (mantissa <<< 53 % (count * 2 ^ (52 - count.log2)))
          (count * 2 ^ (52 - count.log2))) := by
  have keeps : sign / Sign.positive = sign := by cases sign <;> rfl
  have full' := log2_scaled nonzero small
  have short := log2_lt_of_small nonzero small
  have target : min (exponent - (count.log2 - 52)) (Format.binary64.targetExponent
      (totalExponent mantissa exponent -
        totalExponent (count * 2 ^ (52 - count.log2)) (count.log2 - 52))) =
      exponent - count.log2 - 1 := by
    rw [targetExponent_binary64, totalExponent, totalExponent, full, full']
    omega
  have places : (exponent - (count.log2 - 52) - (exponent - count.log2 - 1)).toNat = 53 := by
    omega
  simp only [div, scaled, divCore, target, places]
  rw [keeps]

/-- A quotient by a count is not lost. -/
theorem isNormal_div {sign : Sign} {value : UnpackedFloat} {count : Nat}
    (isNormal : IsNormal sign 0 value) (nonzero : count ≠ 0) (small : count < 2 ^ 32) :
    IsNormal sign (-32) (div .binary64 value (scaled count nonzero)) := by
  cases value with
  | notANumber | zero => cases isNormal
  | infinity other =>
      cases isNormal
      cases sign <;> rfl
  | finite other mantissa exponent positive =>
      rcases isNormal with ⟨rfl, full, above⟩
      have short := log2_lt_of_small nonzero small
      have enough := le_log2_quotient full (log2_scaled nonzero small)
      rw [div_scaled other positive full above nonzero small]
      exact (isNormal_roundWithAccuracy other _ enough (by omega)).weaken (by omega)

/-! ## Scores of counts -/

/-- The part of the tests that did not fail, before it is moved into the unit interval. -/
def share (count failed : Nat) : Float :=
  (Quantity.ofCount count - Quantity.ofCount failed) / Quantity.ofCount count

theorem toModel_share {count : Nat} (nonzero : count ≠ 0) (small : count < 2 ^ 32) (failed : Nat) :
    share count failed = .ofModel (.pack (div .binary64 (unpack .binary64 (pack .binary64
      (sub .binary64 (scaled count nonzero) (Quantity.ofCount failed : Float).toModel.unpack)))
      (scaled count nonzero))) := by
  rw [← unpack_ofCount nonzero small]
  rfl

theorem isNormal_share {sign : Sign} {count failed : Nat} (nonzero : count ≠ 0)
    (small : count < 2 ^ 32)
    (isNormal : IsNormal sign 0
      (sub .binary64 (scaled count nonzero) (Quantity.ofCount failed : Float).toModel.unpack)) :
    IsNormal sign (-32) (share count failed).toModel.unpack := by
  rw [toModel_share nonzero small]
  exact isNormal_unpack_pack
    (isNormal_div (isNormal_unpack_pack isNormal (by decide)) nonzero small) (by decide)

theorem isNormal_share_of_lt {count failed : Nat} (small : count < 2 ^ 32) (less : failed < count) :
    IsNormal .positive (-32) (share count failed).toModel.unpack := by
  have nonzero : count ≠ 0 := by omega
  apply isNormal_share nonzero small
  by_cases none : failed = 0
  · rw [none, unpack_ofCount_zero]
    refine ⟨rfl, log2_scaled nonzero small, ?_⟩
    omega
  · rw [unpack_ofCount none (by omega)]
    exact isNormal_sub_of_lt nonzero none small (by omega) less

theorem isNormal_share_of_gt {count failed : Nat} (nonzero : count ≠ 0) (small' : failed < 2 ^ 32)
    (less : count < failed) : IsNormal .negative (-32) (share count failed).toModel.unpack := by
  have nonzero' : failed ≠ 0 := by omega
  have small : count < 2 ^ 32 := by omega
  apply isNormal_share nonzero small
  rw [unpack_ofCount nonzero' small']
  exact isNormal_sub_of_gt nonzero nonzero' small small' less

theorem share_self {count : Nat} (nonzero : count ≠ 0) (small : count < 2 ^ 32) :
    share count count = 0 := by
  have zero : div .binary64 (.zero .positive) (scaled count nonzero) = .zero .positive := rfl
  rw [toModel_share nonzero small, unpack_ofCount nonzero small, sub_scaled_self nonzero small]
  change Float.ofModel (.pack (div .binary64 (unpack .binary64 (packedZero .binary64 .positive))
    (scaled count nonzero))) = 0
  rw [unpack_packedZero, zero]
  decide

theorem lt_zero_iff {sign : Sign} {least : Int} {value : UnpackedFloat}
    (isNormal : IsNormal sign least value) : value.lt (.zero .positive) ↔ sign = .negative := by
  cases value with
  | notANumber | zero => cases isNormal
  | infinity other =>
      cases isNormal
      cases sign
      · exact ⟨fun _ => rfl, fun _ => rfl⟩
      · exact ⟨nofun, nofun⟩
  | finite other mantissa exponent positive =>
      rcases isNormal with ⟨rfl, -, -⟩
      cases other
      · exact ⟨fun _ => rfl, fun _ => rfl⟩
      · exact ⟨nofun, nofun⟩

theorem isBelow_iff (left right : Float) :
    Quantity.isBelow left right ↔ left.toModel.unpack.lt right.toModel.unpack :=
  ⟨fun below => of_decide_eq_true (of_decide_eq_true below),
    fun less => decide_eq_true (decide_eq_true less)⟩

theorem isBelow_zero_iff {sign : Sign} {least : Int} {value : Float}
    (isNormal : IsNormal sign least value.toModel.unpack) :
    Quantity.isBelow value (Quantity.ofCount 0) ↔ sign = .negative := by
  rw [isBelow_iff, ← lt_zero_iff isNormal]
  rfl

theorem clampToUnit_ne_zero {value : Float} {least : Int}
    (isNormal : IsNormal .positive least value.toModel.unpack) :
    Quantity.clampToUnit value ≠ 0 := by
  have notBelow : ¬Quantity.isBelow value (Quantity.ofCount 0) := by
    rw [isBelow_zero_iff isNormal]
    exact nofun
  rw [Quantity.clampToUnit, if_neg notBelow]
  split
  · decide
  · rintro rfl
    cases isNormal

theorem clampToUnit_eq_zero {value : Float} {least : Int}
    (isNormal : IsNormal .negative least value.toModel.unpack) :
    Quantity.clampToUnit value = 0 := by
  rw [Quantity.clampToUnit, if_pos ((isBelow_zero_iff isNormal).mpr rfl)]
  decide

end Double

/-- The score of counts is zero if no test passed, and only then. -/
theorem Quantity.passingShare_eq_zero_iff {count failed : Nat} (small : count < 2 ^ 32)
    (small' : failed < 2 ^ 32) : (passingShare count failed : Float) = 0 ↔ count ≤ failed := by
  by_cases none : count = 0
  · rw [passingShare, if_pos none]
    exact ⟨fun _ => by omega, fun _ => by decide⟩
  · rw [passingShare, if_neg none]
    change clampToUnit (Double.share count failed) = 0 ↔ count ≤ failed
    rcases Nat.lt_trichotomy count failed with less | rfl | greater
    · exact ⟨fun _ => Nat.le_of_lt less, fun _ =>
        Double.clampToUnit_eq_zero (Double.isNormal_share_of_gt none small' less)⟩
    · rw [Double.share_self none small]
      exact ⟨fun _ => Nat.le_refl _, fun _ => by decide⟩
    · exact ⟨fun zero => absurd zero
        (Double.clampToUnit_ne_zero (Double.isNormal_share_of_lt small greater)), fun _ => by omega⟩

end Grading
