import Grading.Proofs.Fraction

namespace Grading

/-! The score of counts, as a double, is one only if no test failed: rounding does not make up for
what is missing. -/

open Float.Model (Format UnpackedFloat totalExponent)
open Float.Model.UnpackedFloat hiding normalize round

/-- A share that is not full is away from one, as counts are small. -/
theorem Quantity.exactShare_le {count failed : Nat} (small : count < 2 ^ 32)
    (notFull : count = 0 ∨ failed ≠ 0) :
    ((count - failed : Nat) : Rat) / count ≤ 1 - 1 / 2 ^ 32 := by
  rcases Nat.eq_zero_or_pos count with rfl | positive
  · norm_num
  · have above : (0 : Rat) < count := by exact_mod_cast positive
    have few : ((count - failed : Nat) : Rat) + 1 ≤ count := by
      exact_mod_cast (by omega : count - failed + 1 ≤ count)
    have below : (count : Rat) < 2 ^ 32 := by exact_mod_cast small
    rw [div_le_iff₀ above]
    linarith

namespace Double

/-! ## Bounds -/

/-- The magnitude of the number is `bound` at the most. -/
def IsAtMost (bound : Rat) : UnpackedFloat → Prop
  | .finite _ mantissa exponent _ => (mantissa : Rat) * 2 ^ exponent ≤ bound
  | .zero _ => 0 ≤ bound
  | _ => False

theorem isAtMost_roundWithAccuracy (sign : Sign) {mantissa : Nat} {exponent : Int}
    (accuracy : Accuracy) (isLong : 52 ≤ mantissa.log2)
    (isLarge : -1022 ≤ mantissa.log2 + exponent) {bound : Rat}
    (below : (mantissa : Rat) * 2 ^ exponent ≤ bound) :
    IsAtMost (bound * (1 + 1 / 2 ^ 52))
      (roundWithAccuracy .binary64 sign mantissa exponent accuracy) := by
  obtain ⟨rounded, places, positive, isRounded, -, -, dropped⟩ :=
    exists_roundWithAccuracy sign accuracy isLong isLarge
  rw [isRounded]
  have unit : 2 ^ 52 * 2 ^ (mantissa.log2 - 52) ≤ mantissa := by
    rw [← Nat.pow_add, Nat.add_sub_cancel' isLong]
    exact Nat.log2_self_le (by rintro rfl; cases isLong)
  have dropped : (rounded : Rat) * 2 ^ places ≤ mantissa + 2 ^ (mantissa.log2 - 52) := by
    exact_mod_cast dropped
  have unit : (2 : Rat) ^ 52 * 2 ^ (mantissa.log2 - 52) ≤ mantissa := by exact_mod_cast unit
  have scale : (0 : Rat) < 2 ^ exponent := by positivity
  calc (rounded : Rat) * 2 ^ (exponent + places)
      = rounded * 2 ^ places * 2 ^ exponent := by
        rw [zpow_add₀ (by norm_num), zpow_natCast]
        ring
    _ ≤ mantissa * (1 + 1 / 2 ^ 52) * 2 ^ exponent := by
        refine mul_le_mul_of_nonneg_right ?_ scale.le
        linarith
    _ = mantissa * 2 ^ exponent * (1 + 1 / 2 ^ 52) := by ring
    _ ≤ bound * (1 + 1 / 2 ^ 52) := mul_le_mul_of_nonneg_right below (by norm_num)

theorem isAtMost_round (sign : Sign) {mantissa : Nat} {exponent : Int} (positive : mantissa ≠ 0)
    (isLarge : -1022 ≤ mantissa.log2 + exponent) {bound : Rat}
    (below : (mantissa : Rat) * 2 ^ exponent ≤ bound) :
    IsAtMost (bound * (1 + 1 / 2 ^ 52)) (UnpackedFloat.round .binary64 sign mantissa exponent) := by
  simp only [UnpackedFloat.round, decreaseExponent]
  generalize isCount :
    (exponent - Format.binary64.targetExponent (totalExponent mantissa exponent)).toNat = count
  have size := log2_shiftLeft positive count
  have same : ((mantissa <<< count : Nat) : Rat) * 2 ^ (exponent - count) =
      mantissa * 2 ^ exponent := by
    rw [Nat.shiftLeft_eq, zpow_sub₀ (by norm_num), zpow_natCast]
    push_cast
    field_simp
  refine isAtMost_roundWithAccuracy sign .exact ?_ ?_ (same ▸ below)
  · rw [size, ← isCount, targetExponent_binary64, totalExponent]
    omega
  · omega

/-- A number that is neither too small nor too large stays as it is in its bits. -/
theorem unpack_pack_of_isAtMost {sign : Sign} {least : Int} {bound : Rat} {value : UnpackedFloat}
    (isNormal : IsNormal sign least value) (isLarge : -1022 ≤ least)
    (isAtMost : IsAtMost bound value) (isSmall : bound ≤ 2 ^ 64) :
    unpack .binary64 (pack .binary64 value) = value := by
  cases value with
  | notANumber | zero => cases isNormal
  | infinity => cases isAtMost
  | finite other mantissa exponent positive =>
      rcases isNormal with ⟨rfl, full, above⟩
      have short : exponent ≤ 12 := by
        by_contra long
        have lower : (2 : Rat) ^ 52 ≤ mantissa := by
          exact_mod_cast full ▸ Nat.log2_self_le (Nat.ne_of_gt positive)
        have scale : (2 : Rat) ^ (13 : Int) ≤ 2 ^ exponent :=
          zpow_le_zpow_right₀ (by norm_num) (by omega)
        have product : (2 : Rat) ^ 52 * 2 ^ (13 : Int) ≤ mantissa * 2 ^ exponent :=
          mul_le_mul lower scale (by positivity) (by positivity)
        have most : (mantissa : Rat) * 2 ^ exponent ≤ 2 ^ 64 := Rat.le_trans isAtMost isSmall
        norm_num at product most
        linarith
      rw [unpack_pack_of_full positive full (by omega), if_pos (by omega)]

theorem isAtMost_div {sign : Sign} {value : UnpackedFloat} {count : Nat} {bound : Rat}
    (isNormal : IsNormal sign 0 value) (isAtMost : IsAtMost bound value) (nonzero : count ≠ 0)
    (small : count < 2 ^ 32) :
    IsAtMost (bound / count * (1 + 1 / 2 ^ 52))
      (div .binary64 value (scaled count nonzero)) := by
  cases value with
  | notANumber | zero => cases isNormal
  | infinity => cases isAtMost
  | finite other mantissa exponent positive =>
      rcases isNormal with ⟨rfl, full, above⟩
      have short := log2_lt_of_small nonzero small
      have enough := le_log2_quotient full (log2_scaled nonzero small)
      rw [div_scaled other positive full above nonzero small]
      refine isAtMost_roundWithAccuracy other _ enough (by omega) ?_
      have divisor : (0 : Rat) < count := by exact_mod_cast Nat.pos_of_ne_zero nonzero
      have dropped : ((mantissa <<< 53 / (count * 2 ^ (52 - count.log2)) : Nat) : Rat) ≤
          mantissa * 2 ^ 53 / (count * 2 ^ (52 - count.log2)) := by
        rw [Nat.shiftLeft_eq]
        exact_mod_cast Nat.cast_div_le (α := Rat)
      have scale :
          (2 : Rat) ^ (exponent - count.log2 - 1) = 2 ^ exponent / 2 ^ (count.log2 + 1) := by
        rw [Int.sub_sub, zpow_sub₀ (by norm_num)]
        rfl
      have places : (2 : Rat) ^ 53 = 2 ^ (52 - count.log2) * 2 ^ (count.log2 + 1) := by
        rw [← pow_add]
        congr 1
        omega
      calc _ ≤ (mantissa * 2 ^ 53 / (count * 2 ^ (52 - count.log2)) : Rat) *
              2 ^ (exponent - count.log2 - 1) :=
            mul_le_mul_of_nonneg_right dropped (by positivity)
        _ = mantissa * 2 ^ exponent / count := by
            rw [scale, places]
            field_simp
        _ ≤ bound / count := div_le_div_of_nonneg_right isAtMost divisor.le

/-! ## Shares -/

/-- The difference of counts is hardly rounded. -/
theorem isAtMost_sub_of_lt {count failed : Nat} (nonzero : count ≠ 0) (nonzero' : failed ≠ 0)
    (small : count < 2 ^ 32) (small' : failed < 2 ^ 32) (less : failed < count) :
    IsAtMost (((count - failed : Nat) : Rat) * (1 + 1 / 2 ^ 52))
      (sub .binary64 (scaled count nonzero) (scaled failed nonzero')) := by
  rcases sub_scaled nonzero nonzero' small small' with ⟨places, difference⟩
  have whole : (count - failed : Int) * 2 ^ places = ((count - failed) * 2 ^ places : Nat) := by
    rw [Int.natCast_mul, Int.natCast_sub (Nat.le_of_lt less), Int.natCast_pow]
    rfl
  have product : 0 < (count - failed) * 2 ^ places :=
    Nat.mul_pos (Nat.sub_pos_of_lt less) (Nat.two_pow_pos places)
  have compared : compare (((count - failed) * 2 ^ places : Nat) : Int) 0 = .gt :=
    Int.compare_eq_gt.mpr (by omega)
  have size := log2_mul_two_pow (Nat.ne_of_gt (Nat.sub_pos_of_lt less)) places
  rw [difference, whole]
  simp only [UnpackedFloat.normalize, compared, Int.toNat_natCast]
  refine isAtMost_round .positive (Nat.ne_of_gt product) (by omega) (le_of_eq ?_)
  rw [zpow_neg, zpow_natCast]
  push_cast
  field_simp

theorem IsAtMost.weaken {bound larger : Rat} {value : UnpackedFloat}
    (isAtMost : IsAtMost bound value) (above : bound ≤ larger) : IsAtMost larger value := by
  cases value with
  | notANumber | infinity => cases isAtMost
  | zero | finite => exact Rat.le_trans isAtMost above

/-- A share of which something failed stays away from one. -/
theorem isAtMost_share {count failed : Nat} (small : count < 2 ^ 32) (some : failed ≠ 0)
    (less : failed < count) :
    IsAtMost (1 - 1 / 2 ^ 33) (share count failed).toModel.unpack := by
  have nonzero : count ≠ 0 := by omega
  have below : ((count - failed : Nat) : Rat) < 2 ^ 32 := by
    exact_mod_cast (by omega : count - failed < 2 ^ 32)
  have isNormal := isNormal_sub_of_lt nonzero some small (by omega) less
  have difference := isAtMost_sub_of_lt nonzero some small (by omega) less
  have quotient := isAtMost_div isNormal difference nonzero small
  have close : ((count - failed : Nat) : Rat) * (1 + 1 / 2 ^ 52) / count * (1 + 1 / 2 ^ 52) ≤
      1 - 1 / 2 ^ 33 := by
    have exact := Quantity.exactShare_le small (.inr some)
    calc _ = ((count - failed : Nat) : Rat) / count * (1 + 1 / 2 ^ 52) ^ 2 := by ring
      _ ≤ (1 - 1 / 2 ^ 32) * (1 + 1 / 2 ^ 52) ^ 2 :=
          mul_le_mul_of_nonneg_right exact (by positivity)
      _ ≤ 1 - 1 / 2 ^ 33 := by norm_num
  have isSmall : ((count - failed : Nat) : Rat) * (1 + 1 / 2 ^ 52) ≤ 2 ^ 64 := by
    linarith
  rw [toModel_share nonzero small, unpack_ofCount some (by omega),
    unpack_pack_of_isAtMost isNormal (by decide) difference isSmall]
  change IsAtMost _ (unpack .binary64 (pack .binary64 _))
  rw [unpack_pack_of_isAtMost (isNormal_div isNormal nonzero small) (by decide)
    (quotient.weaken close) (by norm_num)]
  exact quotient.weaken close

/-! ## Numbers below one -/

theorem unpack_one : (Quantity.ofCount 1 : Float).toModel.unpack = scaled 1 (by decide) :=
  unpack_ofCount (by decide) (by decide)

/-- Magnitudes are compared by their exponents. -/
theorem not_lt_of_exponent_lt {mantissa other : Nat} {exponent otherExponent : Int}
    {positive : 0 < mantissa} {positive' : 0 < other} (less : otherExponent < exponent) :
    ¬(UnpackedFloat.finite .positive mantissa exponent positive).lt
      (.finite .positive other otherExponent positive') := by
  have compared : compare exponent otherExponent = .gt := Int.compare_eq_gt.mpr less
  simp [UnpackedFloat.lt, UnpackedFloat.compare, compared]

/-- Numbers below one, with as many places as they have. -/
theorem exists_of_isAtMost {value : UnpackedFloat} (isNormal : IsNormal .positive (-32) value)
    (isAtMost : IsAtMost (1 - 1 / 2 ^ 33) value) :
    ∃ (mantissa places : Nat) (positive : 0 < mantissa),
      value = .finite .positive mantissa (-places) positive ∧ 53 ≤ places ∧ places ≤ 84 ∧
        mantissa + 2 ^ (places - 33) ≤ 2 ^ places := by
  cases value with
  | notANumber | zero => cases isNormal
  | infinity => cases isAtMost
  | finite other mantissa exponent positive =>
      rcases isNormal with ⟨rfl, full, above⟩
      have below : (mantissa : Rat) * 2 ^ exponent ≤ 1 - 1 / 2 ^ 33 := isAtMost
      have lower : (2 : Rat) ^ 52 ≤ mantissa := by exact_mod_cast (two_pow_le_of_full full).1
      have isSmall : exponent ≤ -53 := by
        by_contra large
        have scale : (2 : Rat) ^ (-52 : Int) ≤ 2 ^ exponent :=
          zpow_le_zpow_right₀ (by norm_num) (by omega)
        have product : (2 : Rat) ^ 52 * 2 ^ (-52 : Int) ≤ mantissa * 2 ^ exponent :=
          mul_le_mul lower scale (by positivity) (by positivity)
        norm_num at product below
        linarith
      obtain ⟨places, rfl⟩ : ∃ places : Nat, exponent = -places :=
        ⟨(-exponent).toNat, by omega⟩
      refine ⟨mantissa, places, positive, rfl, by omega, by omega, ?_⟩
      have split : (2 : Rat) ^ places = 2 ^ (places - 33) * 2 ^ 33 := by
        rw [← pow_add]
        congr 1
        omega
      rw [zpow_neg, zpow_natCast, ← div_eq_mul_inv, div_le_iff₀ (by positivity)] at below
      have gap : (mantissa : Rat) + 2 ^ (places - 33) ≤ 2 ^ places := by
        calc (mantissa : Rat) + 2 ^ (places - 33)
            ≤ (1 - 1 / 2 ^ 33) * 2 ^ places + 2 ^ (places - 33) := by linarith
          _ = 2 ^ places := by
              rw [split]
              ring
      exact_mod_cast gap

/-- What is missing to one is not lost. -/
theorem isNormal_one_sub {value : UnpackedFloat} (isNormal : IsNormal .positive (-32) value)
    (isAtMost : IsAtMost (1 - 1 / 2 ^ 33) value) :
    IsNormal .positive (-33) (sub .binary64 (scaled 1 (by decide)) value) := by
  obtain ⟨mantissa, places, positive, rfl, long, short, gap⟩ :=
    exists_of_isAtMost isNormal isAtMost
  have unit : scaled 1 (by decide) = .finite .positive (2 ^ 52) (-52) (by decide) := rfl
  have common : min (-52 : Int) (-places) = -places := by omega
  have one : (decreaseExponent (2 ^ 52) (-52) (-places)).1 = 2 ^ places := by
    have shift : 52 + ((-52 : Int) - -places).toNat = places := by omega
    rw [decreaseExponent, Nat.shiftLeft_eq, ← Nat.pow_add, shift]
  have other : (decreaseExponent mantissa (-places) (-places)).1 = mantissa := by
    rw [decreaseExponent, Int.sub_self]
    rfl
  have below : mantissa ≤ 2 ^ places := Nat.le_trans (Nat.le_add_right ..) gap
  have rest : Sign.positive.apply (2 ^ places : Nat) - Sign.positive.apply (mantissa : Int) =
      (2 ^ places - mantissa : Nat) := (Int.natCast_sub below).symm
  have least : 2 ^ (places - 33) ≤ 2 ^ places - mantissa := by omega
  have nonzero : 2 ^ places - mantissa ≠ 0 :=
    Nat.ne_of_gt (Nat.lt_of_lt_of_le (Nat.two_pow_pos _) least)
  have compared : compare ((2 ^ places - mantissa : Nat) : Int) 0 = .gt :=
    Int.compare_eq_gt.mpr (by omega)
  have size : places - 33 ≤ (2 ^ places - mantissa).log2 := (Nat.le_log2 nonzero).mpr least
  rw [unit]
  simp only [sub, common, one, other, rest, UnpackedFloat.normalize, compared, Int.toNat_natCast]
  exact (isNormal_round .positive nonzero (by omega)).weaken (by omega)

/-- A number below one is not taken for one. -/
theorem isOne_eq_false {value : Float} (isNormal : IsNormal .positive (-32) value.toModel.unpack)
    (isAtMost : IsAtMost (1 - 1 / 2 ^ 33) value.toModel.unpack) :
    Quantity.isBelow (Quantity.ofCount 1) value = false ∧ Quantity.isOne value = false := by
  have tolerance : (Quantity.tolerance : Float).toModel.unpack =
      .finite .positive (2 ^ 52) (-104) (by decide) := rfl
  constructor
  · obtain ⟨mantissa, places, positive, isValue, long, -⟩ := exists_of_isAtMost isNormal isAtMost
    rw [Bool.eq_false_iff, Ne, isBelow_iff, unpack_one, isValue]
    exact not_lt_of_exponent_lt (by omega)
  · have missing : IsNormal .positive (-33)
        (Quantity.ofCount 1 - value : Float).toModel.unpack := by
      have one := isNormal_one_sub isNormal isAtMost
      rw [← unpack_one] at one
      exact isNormal_unpack_pack one (by decide)
    have notClose : ¬Quantity.isBelow (Quantity.ofCount 1 - value) Quantity.tolerance := by
      rw [isBelow_iff, tolerance]
      generalize (Quantity.ofCount 1 - value : Float).toModel.unpack = rest at missing
      cases rest with
      | notANumber | zero => cases missing
      | infinity sign =>
          cases missing
          exact nofun
      | finite sign mantissa exponent positive =>
          rcases missing with ⟨rfl, -, above⟩
          exact not_lt_of_exponent_lt (by omega)
    rw [Quantity.isOne, Bool.eq_false_iff.mpr notClose, Bool.and_false]

/-! ## Whole shares -/

theorem div_scaled_self {count : Nat} (nonzero : count ≠ 0) (small : count < 2 ^ 32) :
    div .binary64 (scaled count nonzero) (scaled count nonzero) =
      roundWithAccuracy .binary64 .positive (2 ^ 53) (-53) .exact := by
  have full := log2_scaled nonzero small
  have positive : 0 < count * 2 ^ (52 - count.log2) :=
    Nat.mul_pos (Nat.pos_of_ne_zero nonzero) (Nat.two_pow_pos _)
  have above : 0 ≤ (count.log2 : Int) - 52 + 52 := by omega
  have exponent : (count.log2 : Int) - 52 - count.log2 - 1 = -53 := by omega
  have quotient := div_scaled .positive positive full above nonzero small
  rw [exponent, Nat.shiftLeft_eq, Nat.mul_div_cancel_left _ positive, Nat.mul_mod_right,
    accuracyOfFraction, if_pos rfl] at quotient
  exact quotient

theorem share_zero {count : Nat} (nonzero : count ≠ 0) (small : count < 2 ^ 32) :
    share count 0 = 1 := by
  have whole : sub .binary64 (scaled count nonzero) (.zero .positive) = scaled count nonzero := rfl
  rw [toModel_share nonzero small, unpack_ofCount_zero, whole, unpack_pack_scaled nonzero small,
    div_scaled_self nonzero small]
  decide

end Double

/-! ## Full scores -/

namespace Quantity

variable {count failed : Nat}

theorem passingShare_eq_one (positive : 0 < count) (small : count < 2 ^ 32) :
    (passingShare count 0 : Float) = 1 := by
  have nonzero : count ≠ 0 := by omega
  rw [passingShare, if_neg nonzero]
  change clampToUnit (Double.share count 0) = 1
  rw [Double.share_zero nonzero small]
  decide

/-- A share that is not full is not taken for a full one. -/
theorem isOne_passingShare_eq_false (small : count < 2 ^ 32) (small' : failed < 2 ^ 32)
    (notFull : count = 0 ∨ failed ≠ 0) : isOne (passingShare count failed : Float) = false := by
  rcases Nat.lt_or_ge failed count with less | notLess
  · have some : failed ≠ 0 := by omega
    have isNormal := Double.isNormal_share_of_lt small less
    have isAtMost := Double.isAtMost_share small some less
    rcases Double.isOne_eq_false isNormal isAtMost with ⟨notAbove, notOne⟩
    have notBelow : ¬isBelow (Double.share count failed) (ofCount 0) := by
      rw [Double.isBelow_zero_iff isNormal]
      intro same
      cases same
    rw [passingShare, if_neg (by omega)]
    change isOne (clampToUnit (Double.share count failed)) = false
    rw [clampToUnit, if_neg notBelow, if_neg (Bool.eq_false_iff.mp notAbove), notOne]
  · have nothing := (passingShare_eq_zero_iff small small').mpr notLess
    rw [nothing]
    decide

theorem isOne_passingShare_iff (small : count < 2 ^ 32) (small' : failed < 2 ^ 32) :
    isOne (passingShare count failed : Float) ↔ 0 < count ∧ failed = 0 := by
  constructor
  · intro full
    by_contra notFull
    rw [isOne_passingShare_eq_false small small' (by omega)] at full
    cases full
  · rintro ⟨positive, rfl⟩
    rw [passingShare_eq_one positive small]
    decide

theorem passingShare_eq_one_iff (small : count < 2 ^ 32) (small' : failed < 2 ^ 32) :
    (passingShare count failed : Float) = 1 ↔ 0 < count ∧ failed = 0 := by
  constructor
  · intro full
    rw [← isOne_passingShare_iff small small', full]
    decide
  · rintro ⟨positive, rfl⟩
    exact passingShare_eq_one positive small

end Quantity

end Grading
