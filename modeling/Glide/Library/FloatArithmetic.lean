import Glide.Library.BinaryFloat
import Mathlib.Data.Rat.Floor

/-! The exact values of binary floating-point numbers, and how far the result of an operation is
from the exact one: each operation on finite numbers rounds a ratio of integers. -/
namespace Glide.Library.BinaryFloat

/-! ### Exact values -/

/-- The sign that a flag stands for. -/
def sign (negative : Bool) : ℚ := if negative then -1 else 1

/-- The exact value of a finite number. -/
def FloatValue.toRat : FloatValue → ℚ
  | .finite negative mantissa exponent => sign negative * (mantissa * 2 ^ exponent)
  | _ => 0

@[simp] theorem toRat_finite (negative : Bool) (mantissa : Nat) (exponent : Int) :
    (FloatValue.finite negative mantissa exponent).toRat =
      sign negative * (mantissa * 2 ^ exponent) := rfl

def FloatValue.isZero : FloatValue → Bool
  | .finite _ mantissa _ => mantissa = 0
  | _ => false

theorem isFinite_iff {value : FloatValue} : value.isFinite = true ↔
    ∃ negative mantissa exponent, value = .finite negative mantissa exponent := by
  cases value with
  | nan negative => exact iff_of_false nofun nofun
  | infinite negative => exact iff_of_false nofun nofun
  | finite negative mantissa exponent => exact iff_of_true rfl ⟨_, _, _, rfl⟩

theorem isZero_iff {value : FloatValue} :
    value.isZero = true ↔ value.isFinite = true ∧ value.toRat = 0 := by
  cases value with
  | nan negative => exact iff_of_false nofun nofun
  | infinite negative => exact iff_of_false nofun nofun
  | finite negative mantissa exponent =>
    have unit : (2 : ℚ) ^ exponent ≠ 0 := by positivity
    cases negative <;> simp [FloatValue.isZero, FloatValue.isFinite, FloatValue.toRat, sign, unit]

theorem toRat_nonneg {value : FloatValue} (positive : value.negative = false) :
    0 ≤ value.toRat := by
  cases value with
  | nan negative => exact le_rfl
  | infinite negative => exact le_rfl
  | finite negative mantissa exponent =>
    obtain rfl : negative = false := positive
    rw [toRat_finite, sign, if_neg Bool.false_ne_true, one_mul]
    positivity

@[simp] theorem sign_xor (first second : Bool) :
    sign (first ^^ second) = sign first * sign second := by
  cases first <;> cases second <;> simp [sign]

@[simp] theorem abs_sign (negative : Bool) : |sign negative| = 1 := by
  cases negative <;> simp [sign]

@[simp] theorem sign_mul_self (negative : Bool) : sign negative * sign negative = 1 := by
  cases negative <;> simp [sign]

/-! ### Operations -/

/-- The opposite number. A NaN stays what it is. -/
def FloatValue.opposite : FloatValue → FloatValue
  | .nan negative => .nan negative
  | .infinite negative => .infinite !negative
  | .finite negative mantissa exponent => .finite (!negative) mantissa exponent

/-- The sum: what is left when the opposite number is subtracted, also for zeros of both signs. -/
def add (format : FloatFormat) (first second : FloatValue) : FloatValue :=
  subtract format first second.opposite

/-- Conversion from one format to another. -/
def convert (format : FloatFormat) : FloatValue → FloatValue
  | .nan negative => .nan negative
  | .infinite negative => .infinite negative
  | .finite negative mantissa exponent =>
    roundRatio format negative (mantissa * 2 ^ exponent.toNat) (2 ^ (-exponent).toNat)

/-- The number as a ratio of integers. -/
def numerator (negative : Bool) (mantissa : Nat) (exponent : Int) : Int :=
  let number : Int := mantissa * 2 ^ exponent.toNat
  if negative then -number else number

/-- The largest integer that is not larger. -/
def FloatValue.floor : FloatValue → Option Int
  | .finite negative mantissa exponent =>
    some (numerator negative mantissa exponent / 2 ^ (-exponent).toNat)
  | _ => none

/-- The integer that is left without the fraction. -/
def FloatValue.truncated : FloatValue → Option Int
  | .finite negative mantissa exponent =>
    some ((numerator negative mantissa exponent).tdiv (2 ^ (-exponent).toNat))
  | _ => none

/-- The nearest integer, and of two the one that is further from zero. -/
def FloatValue.lround : FloatValue → Option Int
  | .finite negative mantissa exponent =>
    let nearest : Nat :=
      (2 * (mantissa * 2 ^ exponent.toNat) + 2 ^ (-exponent).toNat) / (2 * 2 ^ (-exponent).toNat)
    some (if negative then -nearest else nearest)
  | _ => none

theorem toRat_numerator (negative : Bool) (mantissa : Nat) (exponent : Int) :
    (FloatValue.finite negative mantissa exponent).toRat =
      (numerator negative mantissa exponent : ℚ) / 2 ^ (-exponent).toNat := by
  unfold numerator
  rw [toRat_finite, zpow_split exponent]
  cases negative <;> simp [sign] <;> ring

theorem floor_bounds {value : FloatValue} (found : value.floor = some number) :
    (number : ℚ) ≤ value.toRat ∧ value.toRat < number + 1 := by
  cases value with
  | nan negative => cases found
  | infinite negative => cases found
  | finite negative mantissa exponent =>
    obtain rfl := Option.some.inj found
    rw [toRat_numerator]
    have positive : (0 : Int) < 2 ^ (-exponent).toNat := by positivity
    have scale : (0 : ℚ) < 2 ^ (-exponent).toNat := by positivity
    rw [le_div_iff₀ scale, div_lt_iff₀ scale]
    constructor
    · exact_mod_cast Int.ediv_mul_le _ positive.ne'
    · exact_mod_cast Int.lt_ediv_add_one_mul_self _ positive

/-- The nearest integer is told by the exact value. -/
theorem lround_eq {value : FloatValue} (finite : value.isFinite) : value.lround =
    some (if value.toRat < 0 then -⌊1 / 2 - value.toRat⌋ else ⌊value.toRat + 1 / 2⌋) := by
  obtain ⟨negative, mantissa, exponent, rfl⟩ := isFinite_iff.1 finite
  have magnitude : ⌊(mantissa : ℚ) * 2 ^ exponent + 1 / 2⌋ =
      ((2 * (mantissa * 2 ^ exponent.toNat) + 2 ^ (-exponent).toNat) /
        (2 * 2 ^ (-exponent).toNat) : Nat) := by
    have quotient : (mantissa : ℚ) * 2 ^ exponent + 1 / 2 =
        ((2 * (mantissa * 2 ^ exponent.toNat) + 2 ^ (-exponent).toNat : Nat) : ℚ) /
          (2 * 2 ^ (-exponent).toNat : Nat) := by
      rw [zpow_split exponent]
      push_cast
      field_simp
    rw [quotient, Rat.floor_natCast_div_natCast, Int.natCast_ediv]
  have nonneg : (0 : ℚ) ≤ mantissa * 2 ^ exponent := by positivity
  unfold FloatValue.lround
  rw [toRat_finite]
  cases negative with
  | false =>
    rw [sign, if_neg Bool.false_ne_true, one_mul, if_neg (not_lt.2 nonneg), magnitude]
    rfl
  | true =>
    rw [sign, if_pos rfl, neg_one_mul]
    rcases nonneg.eq_or_lt with zero | positive
    · rw [← zero] at magnitude ⊢
      rw [neg_zero, if_neg (lt_irrefl _)]
      have none : ⌊(0 : ℚ) + 1 / 2⌋ = 0 := by norm_num
      rw [none] at magnitude ⊢
      exact congrArg (fun nearest : Int => some (-nearest)) magnitude.symm
    · rw [if_pos (neg_lt_zero.2 positive), sub_neg_eq_add, add_comm, magnitude]
      rfl

theorem floor_finite {value : FloatValue} (found : value.floor = some number) :
    value.isFinite = true := by
  cases value with
  | nan negative => cases found
  | infinite negative => cases found
  | finite negative mantissa exponent => rfl

/-! ### Comparisons -/

/-- Two numbers over one denominator. -/
theorem common_numerator (negative : Bool) (mantissa : Nat) {exponent least : Int}
    (below : least ≤ exponent) :
    (FloatValue.finite negative mantissa exponent).toRat =
      ((let number : Int := mantissa * 2 ^ (exponent - least).toNat
        if negative then -number else number : Int) : ℚ) * 2 ^ least := by
  have parts : (2 : ℚ) ^ exponent = 2 ^ (exponent - least).toNat * 2 ^ least := by
    rw [← zpow_natCast, ← zpow_add₀ (by norm_num)]
    congr 1
    omega
  rw [toRat_finite, parts]
  cases negative <;> simp [sign] <;> ring

theorem less_iff {first second : FloatValue} (left : first.isFinite) (right : second.isFinite) :
    first.less second = true ↔ first.toRat < second.toRat := by
  obtain ⟨negative, mantissa, exponent, rfl⟩ := isFinite_iff.1 left
  obtain ⟨other, factor, otherExponent, rfl⟩ := isFinite_iff.1 right
  rw [common_numerator negative mantissa (min_le_left exponent otherExponent),
    common_numerator other factor (min_le_right exponent otherExponent),
    mul_lt_mul_iff_of_pos_right (by positivity), Int.cast_lt]
  simp only [FloatValue.less, decide_eq_true_eq]

/-! ### What is rounded -/

/-- The value is the exact number, rounded once. -/
def Rounded (format : FloatFormat) (exact : ℚ) (value : FloatValue) : Prop :=
  ∃ negative num den, 0 < den ∧ value = roundRatio format negative num den ∧
    sign negative * ((num : ℚ) / den) = exact

/-- What rounding can move a number by. -/
def slack (format : FloatFormat) (exact : ℚ) : ℚ :=
  |exact| / 2 ^ (format.fractionBits + 1) + 2 ^ (format.minExponent - 1)

/-- The numbers from which on a rounded one is infinite. -/
def limit (format : FloatFormat) : ℚ :=
  (2 ^ (format.fractionBits + 1) - 1 / 2) * 2 ^ format.maxExponent

theorem Rounded.close {format : FloatFormat} (rounded : Rounded format exact value)
    (finite : value.isFinite) : |value.toRat - exact| ≤ slack format exact := by
  obtain ⟨negative, num, den, denominator, rfl, rfl⟩ := rounded
  have ratio : (0 : ℚ) ≤ (num : ℚ) / den := by positivity
  rw [slack, abs_mul, abs_sign, one_mul, abs_of_nonneg ratio]
  unfold roundRatio at finite ⊢
  by_cases zero : num = 0
  · have positive : (0 : ℚ) ≤ 2 ^ (format.minExponent - 1) := by positivity
    rw [if_pos zero]
    simpa [zero] using positive
  · rw [if_neg zero] at finite ⊢
    obtain ⟨leading, _⟩ := leadingBit_bounds (Nat.pos_of_ne_zero zero) denominator
    have half := @half_step_bound num den format leading
    dsimp only at finite ⊢
    split at finite
    · cases finite
    · rename_i inside
      have distance := nearestEven_distance num den
        (max format.minExponent (leadingBit num den - format.fractionBits)) denominator
      rw [if_neg inside, toRat_finite, ← mul_sub, abs_mul, abs_sign, one_mul]
      exact distance.trans half

theorem Rounded.finite {format : FloatFormat} (rounded : Rounded format exact value)
    (ordered : format.minExponent ≤ format.maxExponent) (inRange : |exact| < limit format) :
    value.isFinite = true := by
  obtain ⟨negative, num, den, denominator, rfl, rfl⟩ := rounded
  have ratio : (0 : ℚ) ≤ (num : ℚ) / den := by positivity
  rw [abs_mul, abs_sign, one_mul, abs_of_nonneg ratio] at inRange
  obtain ⟨mantissa, exponent, shape⟩ :=
    roundRatio_finite negative num den denominator ordered inRange
  rw [shape]
  rfl

/-- Rounding does not change the side of zero. -/
theorem Rounded.nonneg {format : FloatFormat} (rounded : Rounded format exact value)
    (nonneg : 0 ≤ exact) : 0 ≤ value.toRat := by
  obtain ⟨negative, num, den, denominator, rfl, rfl⟩ := rounded
  have size : (0 : ℚ) < den := by exact_mod_cast denominator
  unfold roundRatio
  split
  · simp
  · rename_i nonzero
    have magnitude : (0 : ℚ) < (num : ℚ) / den :=
      div_pos (by exact_mod_cast Nat.pos_of_ne_zero nonzero) size
    have positive : negative = false := by
      cases negative with
      | false => rfl
      | true =>
        simp only [sign, ↓reduceIte, neg_mul, one_mul] at nonneg
        linarith
    subst positive
    dsimp only
    split
    · exact le_rfl
    · rw [toRat_finite, sign, if_neg Bool.false_ne_true, one_mul]
      positivity

/-- The ratio of a number over a power of two. -/
theorem scaled_power (mantissa : Nat) (exponent : Int) :
    ((mantissa * 2 ^ exponent.toNat : Nat) : ℚ) / (2 ^ (-exponent).toNat : Nat) =
      mantissa * 2 ^ exponent := by
  rw [zpow_split exponent]
  push_cast
  ring

theorem convert_rounded (format : FloatFormat) {value : FloatValue} (finite : value.isFinite) :
    Rounded format value.toRat (convert format value) := by
  obtain ⟨negative, mantissa, exponent, rfl⟩ := isFinite_iff.1 finite
  exact ⟨negative, _, _, Nat.two_pow_pos _, rfl, by rw [scaled_power, toRat_finite]⟩

theorem multiply_rounded (format : FloatFormat) {first second : FloatValue} (left : first.isFinite)
    (right : second.isFinite) :
    Rounded format (first.toRat * second.toRat) (multiply format first second) := by
  obtain ⟨negative, mantissa, exponent, rfl⟩ := isFinite_iff.1 left
  obtain ⟨other, factor, otherExponent, rfl⟩ := isFinite_iff.1 right
  refine ⟨negative ^^ other, _, _, Nat.two_pow_pos _, rfl, ?_⟩
  rw [scaled_power, sign_xor, zpow_add₀ (by norm_num), toRat_finite, toRat_finite]
  push_cast
  ring

theorem divide_rounded (format : FloatFormat) {first second : FloatValue} (left : first.isFinite)
    (right : second.isFinite) (nonzero : second.toRat ≠ 0) :
    Rounded format (first.toRat / second.toRat) (divide format first second) := by
  obtain ⟨negative, mantissa, exponent, rfl⟩ := isFinite_iff.1 left
  obtain ⟨other, divisor, divisorExponent, rfl⟩ := isFinite_iff.1 right
  have some : divisor ≠ 0 := by
    rintro rfl
    simp at nonzero
  refine ⟨negative ^^ other, _, _, ?_, if_neg some, ?_⟩
  · exact Nat.mul_pos (Nat.pos_of_ne_zero some) (Nat.two_pow_pos _)
  · have inverse : sign other = (sign other)⁻¹ := by
      cases other <;> norm_num [sign]
    rw [quotient_ratio, sign_xor, toRat_finite, toRat_finite,
      mul_div_mul_comm (sign negative) _ (sign other), div_eq_mul_inv _ (sign other), ← inverse]

theorem subtract_rounded (format : FloatFormat) {first second : FloatValue} (left : first.isFinite)
    (right : second.isFinite) :
    Rounded format (first.toRat - second.toRat) (subtract format first second) := by
  obtain ⟨negative, mantissa, exponent, rfl⟩ := isFinite_iff.1 left
  obtain ⟨other, factor, otherExponent, rfl⟩ := isFinite_iff.1 right
  refine ⟨_, _, _, Nat.two_pow_pos _, rfl, ?_⟩
  rw [scaled_power, common_numerator negative mantissa (min_le_left exponent otherExponent),
    common_numerator other factor (min_le_right exponent otherExponent), ← sub_mul,
    ← Int.cast_sub]
  dsimp only
  generalize (if negative = true then _ else _ : Int) - _ = difference
  rw [← mul_assoc]
  congr 1
  rcases lt_trichotomy difference 0 with below | zero | above
  · have magnitude : (difference.natAbs : ℚ) = -difference := by
      rw [Nat.cast_natAbs, abs_of_neg below, Int.cast_neg]
    rw [if_neg below.ne, decide_eq_true below, sign, if_pos rfl, magnitude, neg_one_mul, neg_neg]
  · simp [zero]
  · have magnitude : (difference.natAbs : ℚ) = difference := by
      rw [Nat.cast_natAbs, abs_of_pos above]
    rw [if_neg above.ne', decide_eq_false (by omega), sign, if_neg Bool.false_ne_true, one_mul,
      magnitude]

@[simp] theorem isFinite_opposite (value : FloatValue) :
    value.opposite.isFinite = value.isFinite := by
  cases value <;> rfl

@[simp] theorem toRat_opposite (value : FloatValue) : value.opposite.toRat = -value.toRat := by
  cases value with
  | nan negative => exact neg_zero.symm
  | infinite negative => exact neg_zero.symm
  | finite negative mantissa exponent => cases negative <;> simp [FloatValue.opposite, sign]

theorem add_rounded (format : FloatFormat) {first second : FloatValue} (left : first.isFinite)
    (right : second.isFinite) :
    Rounded format (first.toRat + second.toRat) (add format first second) := by
  have rounded := @subtract_rounded format first second.opposite left (by rwa [isFinite_opposite])
  rwa [toRat_opposite, sub_neg_eq_add] at rounded

/-! ### The operands of a finite result -/

theorem subtract_operands {format : FloatFormat} {first second : FloatValue}
    (finite : (subtract format first second).isFinite) :
    first.isFinite = true ∧ second.isFinite = true := by
  cases first with
  | nan negative => cases finite
  | infinite negative =>
    cases second with
    | nan other => cases finite
    | infinite other =>
      change (if negative = other then FloatValue.nan false
        else .infinite negative).isFinite = true at finite
      split at finite
      · cases finite
      · cases finite
    | finite other factor otherExponent => cases finite
  | finite negative mantissa exponent =>
    cases second with
    | nan other => cases finite
    | infinite other => cases finite
    | finite other factor otherExponent => exact ⟨rfl, rfl⟩

theorem add_operands {format : FloatFormat} {first second : FloatValue}
    (finite : (add format first second).isFinite) :
    first.isFinite = true ∧ second.isFinite = true := by
  have operands := subtract_operands finite
  rwa [isFinite_opposite] at operands

/-- What is divided is finite, and the divisor is either so or infinite. -/
theorem divide_operands {format : FloatFormat} {first second : FloatValue}
    (finite : (divide format first second).isFinite) :
    first.isFinite = true ∧ (second.isFinite = true ∧ second.toRat ≠ 0 ∨
      (∃ negative, second = .infinite negative) ∧ (divide format first second).toRat = 0) := by
  cases first with
  | nan negative => cases finite
  | infinite negative =>
    cases second with
    | nan other => cases finite
    | infinite other => cases finite
    | finite other divisor divisorExponent => cases finite
  | finite negative mantissa exponent =>
    cases second with
    | nan other => cases finite
    | infinite other => exact ⟨rfl, .inr ⟨⟨other, rfl⟩, by simp [divide]⟩⟩
    | finite other divisor divisorExponent =>
      refine ⟨rfl, .inl ⟨rfl, fun zero => ?_⟩⟩
      have isZero := isZero_iff.2 ⟨rfl, zero⟩
      simp only [FloatValue.isZero, decide_eq_true_eq] at isZero
      simp only [divide, isZero, ↓reduceIte] at finite
      split at finite
      · cases finite
      · cases finite

theorem multiply_operands {format : FloatFormat} {first second : FloatValue}
    (finite : (multiply format first second).isFinite) :
    first.isFinite = true ∧ second.isFinite = true := by
  unfold multiply at finite
  split at finite
  · cases finite
  · cases finite
  · split at finite
    · cases finite
    · cases finite
  · split at finite
    · cases finite
    · cases finite
  · cases finite
  · exact ⟨rfl, rfl⟩

/-! ### What a format has is not rounded -/

/-- The mantissa and the exponent are of the format. -/
def Stored (format : FloatFormat) (value : FloatValue) : Prop :=
  ∃ negative mantissa exponent, value = .finite negative mantissa exponent ∧
    mantissa ≤ 2 ^ (format.fractionBits + 1) ∧ format.minExponent ≤ exponent

theorem Rounded.stored {format : FloatFormat} (rounded : Rounded format exact value)
    (finite : value.isFinite) : Stored format value := by
  obtain ⟨negative, num, den, denominator, rfl, _⟩ := rounded
  unfold roundRatio at finite ⊢
  by_cases zero : num = 0
  · rw [if_pos zero]
    exact ⟨negative, 0, format.minExponent, rfl, Nat.zero_le _, le_rfl⟩
  · rw [if_neg zero] at finite ⊢
    have mantissa := @rounded_mantissa num den format _ (Nat.pos_of_ne_zero zero) denominator
      (le_max_right format.minExponent (leadingBit num den - format.fractionBits))
    dsimp only at finite ⊢
    split at finite
    · cases finite
    · rename_i inside
      rw [if_neg inside]
      exact ⟨negative, _, _, rfl, mantissa, le_max_left ..⟩

/-- The step that a ratio is rounded to divides a number of the format. -/
theorem whole_steps {format : FloatFormat} {num den mantissa : Nat} {exponent : Int}
    (numerator : 0 < num) (denominator : 0 < den)
    (full : mantissa ≤ 2 ^ (format.fractionBits + 1))
    (least : format.minExponent ≤ exponent) (same : (num : ℚ) / den = mantissa * 2 ^ exponent) :
    ∃ steps : Nat, (num : ℚ) / den =
      steps * 2 ^ max format.minExponent (leadingBit num den - format.fractionBits) := by
  obtain ⟨leading, _⟩ := leadingBit_bounds numerator denominator
  have unit : (0 : ℚ) < 2 ^ exponent := by positivity
  have cast : (mantissa : ℚ) ≤ 2 ^ (format.fractionBits + 1) := by exact_mod_cast full
  have top : (2 : ℚ) ^ leadingBit num den ≤ 2 ^ (format.fractionBits + 1 + exponent) := by
    calc (2 : ℚ) ^ leadingBit num den ≤ mantissa * 2 ^ exponent := same ▸ leading
      _ ≤ 2 ^ (format.fractionBits + 1) * 2 ^ exponent := by gcongr
      _ = 2 ^ (format.fractionBits + 1 + exponent) := by
        rw [zpow_add₀ (by norm_num)]
        norm_cast
  have highest : leadingBit num den ≤ format.fractionBits + 1 + exponent :=
    (zpow_le_zpow_iff_right₀ (by norm_num)).1 top
  generalize step : max format.minExponent (leadingBit num den - format.fractionBits) = result
  by_cases below : result ≤ exponent
  · refine ⟨mantissa * 2 ^ (exponent - result).toNat, ?_⟩
    have parts : (2 : ℚ) ^ exponent = 2 ^ (exponent - result).toNat * 2 ^ result := by
      rw [← zpow_natCast, ← zpow_add₀ (by norm_num)]
      congr 1
      omega
    rw [same, parts]
    push_cast
    ring
  · -- only a full mantissa reaches the next step
    have next : result = exponent + 1 := by omega
    have reached : leadingBit num den = format.fractionBits + 1 + exponent := by omega
    refine ⟨2 ^ format.fractionBits, ?_⟩
    have exact : (num : ℚ) / den = 2 ^ (format.fractionBits + 1 + exponent) :=
      le_antisymm (same ▸ (mul_le_mul_of_nonneg_right cast unit.le).trans_eq
        (by rw [zpow_add₀ (by norm_num)]; norm_cast)) (reached ▸ leading)
    rw [exact, next]
    push_cast
    rw [← zpow_natCast, ← zpow_add₀ (by norm_num)]
    congr 1
    ring

theorem Rounded.unchanged {format : FloatFormat} {stored value : FloatValue}
    (rounded : Rounded format stored.toRat value) (finite : value.isFinite)
    (own : Stored format stored) : value.toRat = stored.toRat := by
  obtain ⟨negative, num, den, denominator, rfl, same⟩ := rounded
  obtain ⟨other, mantissa, exponent, rfl, full, least⟩ := own
  rw [← same]
  have ratio : (num : ℚ) / den = mantissa * 2 ^ exponent := by
    have magnitudes := congrArg abs same
    rw [toRat_finite, abs_mul, abs_mul, abs_sign, abs_sign, one_mul, one_mul,
      abs_of_nonneg (by positivity), abs_of_nonneg (by positivity)] at magnitudes
    exact magnitudes
  unfold roundRatio at finite ⊢
  by_cases zero : num = 0
  · rw [if_pos zero]
    simp [zero]
  · rw [if_neg zero] at finite ⊢
    obtain ⟨steps, whole⟩ := whole_steps (Nat.pos_of_ne_zero zero) denominator full least ratio
    dsimp only at finite ⊢
    split at finite
    · cases finite
    · rename_i inside
      rw [if_neg inside]
      clear finite inside
      generalize max format.minExponent (leadingBit num den - format.fractionBits) = result
        at whole ⊢
      have unit : (0 : ℚ) < 2 ^ result := by positivity
      have scaled := scaled_ratio num den result
      rw [whole, mul_div_assoc, div_self unit.ne', mul_one,
        div_eq_iff (by positivity)] at scaled
      have product : num * 2 ^ (-result).toNat = steps * (den * 2 ^ result.toNat) := by
        exact_mod_cast scaled
      rw [product, nearestEven_exact (by positivity), toRat_finite, whole]

theorem sign_natAbs (number : Int) : sign (number < 0) * (number.natAbs : ℚ) = number := by
  rcases lt_or_ge number 0 with below | above
  · rw [decide_eq_true below, sign, if_pos rfl, Nat.cast_natAbs, abs_of_neg below, Int.cast_neg,
      neg_one_mul, neg_neg]
  · rw [decide_eq_false (not_lt.2 above), sign, if_neg Bool.false_ne_true, one_mul,
      Nat.cast_natAbs, abs_of_nonneg above]

theorem ofInt_rounded (format : FloatFormat) (number : Int) :
    Rounded format number (ofInt format number) :=
  ⟨_, _, _, Nat.one_pos, rfl, by rw [Nat.cast_one, div_one, sign_natAbs]⟩

/-- An integer that has a place in the mantissa is converted as it is. -/
theorem ofInt_exact {format : FloatFormat} (number : Int)
    (small : number.natAbs ≤ 2 ^ (format.fractionBits + 1)) (least : format.minExponent ≤ 0)
    (ordered : format.minExponent ≤ format.maxExponent)
    (inRange : (2 : ℚ) ^ (format.fractionBits + 1) < limit format) :
    (ofInt format number).isFinite = true ∧ (ofInt format number).toRat = number := by
  have rounded := ofInt_rounded format number
  have below : |(number : ℚ)| ≤ 2 ^ (format.fractionBits + 1) := by
    rw [← Int.cast_abs, ← Nat.cast_natAbs]
    exact_mod_cast small
  have finite := rounded.finite ordered (below.trans_lt inRange)
  have value : (FloatValue.finite (number < 0) number.natAbs 0).toRat = number := by
    rw [toRat_finite, zpow_zero, mul_one, sign_natAbs]
  rw [← value] at rounded
  exact ⟨finite, (rounded.unchanged finite ⟨_, _, _, rfl, small, least⟩).trans value⟩

/-- No number below this one is too large for a `double`. -/
theorem double_limit : (2 : ℚ) ^ 200 ≤ limit binary64 := by
  have power : (2 : ℚ) ^ binary64.maxExponent = 2 ^ 971 := by
    rw [show binary64.maxExponent = ((971 : Nat) : Int) by decide, zpow_natCast]
  have mantissa : (1 : ℚ) ≤ 2 ^ (binary64.fractionBits + 1) - 1 / 2 := by norm_num [binary64]
  calc (2 : ℚ) ^ 200 ≤ 2 ^ 971 := pow_le_pow_right₀ (by norm_num) (by norm_num)
    _ = 1 * 2 ^ binary64.maxExponent := by rw [power, one_mul]
    _ ≤ limit binary64 := mul_le_mul_of_nonneg_right mantissa (by positivity)

theorem double_exact (number : Int) (small : number.natAbs ≤ 2 ^ 53) :
    (ofInt binary64 number).isFinite = true ∧ (ofInt binary64 number).toRat = number :=
  ofInt_exact number small (by decide) (by decide)
    (lt_of_lt_of_le (by norm_num [binary64]) double_limit)

theorem double_slack (exact : ℚ) : slack binary64 exact ≤ |exact| / 2 ^ 50 + 1 / 2 ^ 200 := by
  have size := abs_nonneg exact
  have parts : |exact| / 2 ^ (binary64.fractionBits + 1) ≤ |exact| / 2 ^ 50 := by
    gcongr
    · norm_num
    · decide
  have least : (2 : ℚ) ^ (binary64.minExponent - 1) ≤ 1 / 2 ^ 200 := by
    rw [one_div, ← zpow_natCast, ← zpow_neg]
    exact zpow_le_zpow_right₀ (by norm_num) (by decide)
  exact add_le_add parts least

/-- Finite, and as near to the exact number as one operation of the format `double` comes. -/
structure Approximates (exact : ℚ) (value : FloatValue) : Prop where
  finite : value.isFinite = true
  close : |value.toRat - exact| ≤ |exact| / 2 ^ 50 + 1 / 2 ^ 200

theorem Rounded.approximates (rounded : Rounded binary64 exact value) (small : |exact| ≤ 2 ^ 190) :
    Approximates exact value := by
  have finite := rounded.finite (by decide)
    ((small.trans_lt (by norm_num)).trans_le double_limit)
  exact ⟨finite, (rounded.close finite).trans (double_slack exact)⟩

theorem Approximates.bounded (near : Approximates exact value) (bound : |exact| ≤ most)
    (ordinary : most ≤ 2 ^ 49) : |value.toRat| ≤ most + 1 := by
  have close := near.close
  have distance := abs_sub_abs_le_abs_sub value.toRat exact
  linarith

/-- Nothing is rounded where the exact result is zero. -/
theorem Rounded.zero {format : FloatFormat} (rounded : Rounded format 0 value) :
    value.isZero = true := by
  obtain ⟨negative, num, den, denominator, rfl, zero⟩ := rounded
  have size : (den : ℚ) ≠ 0 := by exact_mod_cast denominator.ne'
  have sided : sign negative ≠ 0 := by
    intro none
    have one := abs_sign negative
    rw [none, abs_zero] at one
    norm_num at one
  have none : num = 0 := by
    have ratio := (mul_eq_zero.1 zero).resolve_left sided
    exact_mod_cast (div_eq_zero_iff.1 ratio).resolve_right size
  rw [none, roundRatio, if_pos rfl]
  rfl

theorem convert_operand {format : FloatFormat} {value : FloatValue}
    (finite : (convert format value).isFinite) : value.isFinite = true := by
  cases value with
  | nan negative => cases finite
  | infinite negative => cases finite
  | finite negative mantissa exponent => rfl

end Glide.Library.BinaryFloat
