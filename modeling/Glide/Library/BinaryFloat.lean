import Glide.Library.AsciiText
import Mathlib.Algebra.Order.Field.Power
import Mathlib.Data.Rat.Defs
import Mathlib.Tactic.FieldSimp
import Mathlib.Tactic.GCongr
import Mathlib.Tactic.Linarith
import Mathlib.Tactic.NormNum
import Mathlib.Tactic.Positivity

/-! Binary interchange formats with round-to-nearest-even arithmetic, and the
fixed-point text an output stream writes for them. A finite value is an exact
rational; every operation rounds the exact result once. -/
namespace Glide.Library.BinaryFloat
open AsciiText

/-- A format is given by the widths of its stored fraction and exponent. -/
structure FloatFormat where
  fractionBits : Nat
  exponentBits : Nat

def binary32 : FloatFormat := ⟨23, 8⟩
def binary64 : FloatFormat := ⟨52, 11⟩

/-- The exponent of the least subnormal. -/
def FloatFormat.minExponent (format : FloatFormat) : Int :=
  2 - 2 ^ (format.exponentBits - 1) - format.fractionBits

/-- The exponent of the largest finite values. -/
def FloatFormat.maxExponent (format : FloatFormat) : Int :=
  format.minExponent + 2 ^ format.exponentBits - 3

/-- A finite value is `mantissa * 2 ^ exponent` with its sign. -/
inductive FloatValue where
  | nan (negative : Bool)
  | infinite (negative : Bool)
  | finite (negative : Bool) (mantissa : Nat) (exponent : Int)
  deriving DecidableEq

/-- The value of a bit pattern. -/
def decodeBits (format : FloatFormat) (bits : Nat) : FloatValue :=
  let fraction := bits % 2 ^ format.fractionBits
  let biased := bits / 2 ^ format.fractionBits % 2 ^ format.exponentBits
  let negative := bits / 2 ^ (format.fractionBits + format.exponentBits) % 2 = 1
  if biased = 2 ^ format.exponentBits - 1 then
    if fraction = 0 then .infinite negative else .nan negative
  else if biased = 0 then .finite negative fraction format.minExponent
  else .finite negative (fraction + 2 ^ format.fractionBits) (format.minExponent + biased - 1)

/-- The integer nearest to `num / den`; a tie goes to the even neighbour. -/
def nearestEven (num den : Nat) : Nat :=
  let quotient := num / den
  let twice := 2 * (num % den)
  if twice < den ∨ (twice = den ∧ quotient % 2 = 0) then quotient else quotient + 1

/-- The position of the leading bit of `num / den`. -/
def leadingBit (num den : Nat) : Int :=
  let guess : Int := Nat.log2 num - Nat.log2 den
  if num * 2 ^ (-guess).toNat < den * 2 ^ guess.toNat then guess - 1 else guess

/-- The exact ratio `num / den`, rounded once to the format. -/
def roundRatio (format : FloatFormat) (negative : Bool) (num den : Nat) : FloatValue :=
  if num = 0 then .finite negative 0 format.minExponent
  else
    let exponent := max format.minExponent (leadingBit num den - format.fractionBits)
    let mantissa := nearestEven (num * 2 ^ (-exponent).toNat) (den * 2 ^ exponent.toNat)
    if format.maxExponent < exponent ∨
        (exponent = format.maxExponent ∧ mantissa = 2 ^ (format.fractionBits + 1)) then
      .infinite negative
    else .finite negative mantissa exponent

/-- Conversion from an integer. -/
def ofInt (format : FloatFormat) (number : Int) : FloatValue :=
  roundRatio format (number < 0) number.natAbs 1

def FloatValue.negative : FloatValue → Bool
  | .nan negative => negative
  | .infinite negative => negative
  | .finite negative _ _ => negative

/-- The quotient. A NaN operand passes through with its sign. -/
def divide (format : FloatFormat) : FloatValue → FloatValue → FloatValue
  | .nan sign, _ => .nan sign
  | _, .nan sign => .nan sign
  | .infinite _, .infinite _ => .nan false
  | .infinite first, second => .infinite (first ^^ second.negative)
  | first, .infinite second => .finite (first.negative ^^ second) 0 format.minExponent
  | .finite first mantissa exponent, .finite second divisor divisorExponent =>
    if divisor = 0 then
      if mantissa = 0 then .nan false else .infinite (first ^^ second)
    else
      roundRatio format (first ^^ second) (mantissa * 2 ^ (exponent - divisorExponent).toNat)
        (divisor * 2 ^ (divisorExponent - exponent).toNat)

/-- The product. A NaN operand passes through with its sign. -/
def multiply (format : FloatFormat) : FloatValue → FloatValue → FloatValue
  | .nan sign, _ => .nan sign
  | _, .nan sign => .nan sign
  | .infinite first, .finite second mantissa _ =>
    if mantissa = 0 then .nan false else .infinite (first ^^ second)
  | .finite first mantissa _, .infinite second =>
    if mantissa = 0 then .nan false else .infinite (first ^^ second)
  | .infinite first, .infinite second => .infinite (first ^^ second)
  | .finite first mantissa exponent, .finite second factor factorExponent =>
    roundRatio format (first ^^ second) (mantissa * factor * 2 ^ (exponent + factorExponent).toNat)
      (2 ^ (-(exponent + factorExponent)).toNat)

/-- The difference. Equal values leave a zero, which is negative only for `-0 - 0`. -/
def subtract (format : FloatFormat) : FloatValue → FloatValue → FloatValue
  | .nan sign, _ => .nan sign
  | _, .nan sign => .nan sign
  | .infinite first, .infinite second => if first = second then .nan false else .infinite first
  | .infinite first, _ => .infinite first
  | _, .infinite second => .infinite !second
  | .finite first mantissa exponent, .finite second other otherExponent =>
    let least := min exponent otherExponent
    let left : Int := mantissa * 2 ^ (exponent - least).toNat
    let right : Int := other * 2 ^ (otherExponent - least).toNat
    let difference := (if first then -left else left) - if second then -right else right
    roundRatio format (if difference = 0 then first && !second else difference < 0)
      (difference.natAbs * 2 ^ least.toNat) (2 ^ (-least).toNat)

/-- Comparison with `<`, false if one of them is no number. -/
def FloatValue.less : FloatValue → FloatValue → Bool
  | .nan _, _ | _, .nan _ => false
  | .infinite first, .infinite second => first && !second
  | .infinite negative, .finite _ _ _ => negative
  | .finite _ _ _, .infinite negative => !negative
  | .finite first mantissa exponent, .finite second other otherExponent =>
    let least := min exponent otherExponent
    let left : Int := mantissa * 2 ^ (exponent - least).toNat
    let right : Int := other * 2 ^ (otherExponent - least).toNat
    (if first then -left else left) < if second then -right else right

def FloatValue.isNan : FloatValue → Bool
  | .nan _ => true
  | _ => false

/-- Comparison with `<=`. -/
def FloatValue.atMost (first second : FloatValue) : Bool :=
  !first.isNan && !second.isNan && !second.less first

/-- The text of a value with `places` decimals, in the stream's fixed notation. -/
def fixedText (places : Nat) : FloatValue → List UInt8
  | .nan negative => (if negative then [45] else []) ++ [110, 97, 110]
  | .infinite negative => (if negative then [45] else []) ++ [105, 110, 102]
  | .finite negative mantissa exponent =>
    (if negative then [45] else []) ++
      fixedPoint places (nearestEven (mantissa * 10 ^ places * 2 ^ exponent.toNat)
        (2 ^ (-exponent).toNat))

@[simp] theorem fixedText_ne_nil : fixedText places value ≠ [] := by
  cases value <;> simp [fixedText, fixedPoint]

theorem fixedText_unbroken : 10 ∉ fixedText places value := by
  cases value with
  | nan negative => cases negative <;> simp [fixedText]
  | infinite negative => cases negative <;> simp [fixedText]
  | finite negative mantissa exponent =>
    cases negative <;> simp [fixedText, fixedPoint_unbroken]

/-! ### How far rounding moves a value -/

variable {num den : Nat}

/-- The nearest integer is at most half away. -/
theorem nearestEven_bounds (num den : Nat) (positive : 0 < den) :
    (num : ℚ) / den - 1 / 2 ≤ nearestEven num den ∧
      (nearestEven num den : ℚ) ≤ num / den + 1 / 2 := by
  have division := Nat.div_add_mod num den
  have remainder := Nat.mod_lt num positive
  have scaled : (num : ℚ) / den = (num / den : Nat) + (num % den : Nat) / (den : ℚ) := by
    field_simp
    exact_mod_cast division.symm
  have denominator : (0 : ℚ) < den := by exact_mod_cast positive
  have part : (0 : ℚ) ≤ (num % den : Nat) / (den : ℚ) := by positivity
  have below : ((num % den : Nat) : ℚ) / den ≤ 1 := by
    rw [div_le_one denominator]
    exact_mod_cast remainder.le
  rw [scaled]
  unfold nearestEven
  dsimp only
  split
  · rename_i down
    have half : ((num % den : Nat) : ℚ) / den ≤ 1 / 2 := by
      rw [div_le_iff₀ denominator]
      have : 2 * (num % den) ≤ den := by omega
      have cast : (2 : ℚ) * (num % den : Nat) ≤ den := by exact_mod_cast this
      linarith
    constructor <;> linarith
  · rename_i up
    have half : (1 : ℚ) / 2 ≤ ((num % den : Nat) : ℚ) / den := by
      rw [le_div_iff₀ denominator]
      have : den ≤ 2 * (num % den) := by omega
      have cast : (den : ℚ) ≤ 2 * (num % den : Nat) := by exact_mod_cast this
      linarith
    push_cast
    constructor <;> linarith

theorem nearestEven_exact (positive : 0 < den) : nearestEven (num * den) den = num := by
  simp [nearestEven, Nat.mul_div_cancel _ positive, positive]

theorem zpow_split (exponent : Int) :
    (2 : ℚ) ^ exponent = 2 ^ exponent.toNat / 2 ^ (-exponent).toNat := by
  rcases le_total 0 exponent with nonneg | nonpos
  · obtain ⟨power, rfl⟩ := Int.eq_ofNat_of_zero_le nonneg
    simp
  · obtain ⟨power, shape⟩ := Int.eq_ofNat_of_zero_le (by omega : 0 ≤ -exponent)
    obtain rfl : exponent = -(power : Int) := by omega
    simp

/-- Scaling the two sides of a ratio by the parts of a power of two. -/
theorem scaled_ratio (num den : Nat) (exponent : Int) :
    ((num * 2 ^ (-exponent).toNat : Nat) : ℚ) / (den * 2 ^ exponent.toNat : Nat) =
      (num : ℚ) / den / 2 ^ exponent := by
  rw [zpow_split exponent]
  push_cast
  field_simp

theorem leadingBit_bounds (numerator : 0 < num) (denominator : 0 < den) :
    (2 : ℚ) ^ leadingBit num den ≤ (num : ℚ) / den ∧
      (num : ℚ) / den < 2 ^ (leadingBit num den + 1) := by
  have numLow : ((2 ^ num.log2 : Nat) : ℚ) ≤ num := by
    exact_mod_cast Nat.log2_self_le numerator.ne'
  have numHigh : (num : ℚ) < (2 ^ (num.log2 + 1) : Nat) := by
    exact_mod_cast Nat.lt_log2_self
  have denLow : ((2 ^ den.log2 : Nat) : ℚ) ≤ den := by
    exact_mod_cast Nat.log2_self_le denominator.ne'
  have denHigh : (den : ℚ) < (2 ^ (den.log2 + 1) : Nat) := by
    exact_mod_cast Nat.lt_log2_self
  have denPositive : (0 : ℚ) < den := by exact_mod_cast denominator
  push_cast at numLow numHigh denLow denHigh
  have upper : (num : ℚ) / den < 2 ^ ((num.log2 : Int) - den.log2 + 1) := by
    rw [div_lt_iff₀ denPositive, show (num.log2 : Int) - den.log2 + 1 =
      ((num.log2 + 1 : Nat) : Int) - (den.log2 : Nat) by push_cast; ring, zpow_sub₀ (by norm_num),
      zpow_natCast, zpow_natCast]
    calc (num : ℚ) < 2 ^ (num.log2 + 1) := numHigh
      _ = 2 ^ (num.log2 + 1) / 2 ^ den.log2 * 2 ^ den.log2 := by field_simp
      _ ≤ 2 ^ (num.log2 + 1) / 2 ^ den.log2 * den := by gcongr
  have lower : (2 : ℚ) ^ ((num.log2 : Int) - den.log2 - 1) < (num : ℚ) / den := by
    rw [lt_div_iff₀ denPositive, show (num.log2 : Int) - den.log2 - 1 =
      (num.log2 : Nat) - ((den.log2 + 1 : Nat) : Int) by push_cast; ring, zpow_sub₀ (by norm_num),
      zpow_natCast, zpow_natCast]
    calc (2 : ℚ) ^ num.log2 / 2 ^ (den.log2 + 1) * den
        < 2 ^ num.log2 / 2 ^ (den.log2 + 1) * 2 ^ (den.log2 + 1) := by gcongr
      _ = 2 ^ num.log2 := by field_simp
      _ ≤ num := numLow
  have compare : num * 2 ^ (-((num.log2 : Int) - den.log2)).toNat <
      den * 2 ^ ((num.log2 : Int) - den.log2).toNat ↔
      (num : ℚ) / den < 2 ^ ((num.log2 : Int) - den.log2) := by
    rw [zpow_split, div_lt_div_iff₀ denPositive (by positivity), mul_comm ((2 : ℚ) ^ _) (den : ℚ)]
    exact_mod_cast Iff.rfl
  unfold leadingBit
  dsimp only
  split
  · rename_i small
    exact ⟨lower.le, by simpa using compare.mp small⟩
  · rename_i large
    exact ⟨not_lt.mp (mt compare.mpr large), upper⟩

/-- A finite value with this sign, no further from `exact` than 2⁻¹⁰ of it and
half of the least subnormal. -/
def Near (format : FloatFormat) (negative : Bool) (exact : ℚ) (value : FloatValue) : Prop :=
  ∃ mantissa exponent, value = .finite negative mantissa exponent ∧
    |(mantissa : ℚ) * 2 ^ exponent - exact| ≤ exact / 1024 + 2 ^ (format.minExponent - 1)

/-- Half a step of the format is a part of the ratio, or half of the least subnormal. -/
theorem half_step_bound {format : FloatFormat}
    (leading : (2 : ℚ) ^ leadingBit num den ≤ (num : ℚ) / den) :
    (2 : ℚ) ^ (max format.minExponent (leadingBit num den - format.fractionBits) - 1) ≤
      (num : ℚ) / den / 2 ^ (format.fractionBits + 1) + 2 ^ (format.minExponent - 1) := by
  have positive : (0 : ℚ) < 2 ^ (format.minExponent - 1) := by positivity
  rcases max_cases format.minExponent (leadingBit num den - format.fractionBits) with
    ⟨same, _⟩ | ⟨same, _⟩
  · rw [same]
    have ratio : (0 : ℚ) ≤ (num : ℚ) / den / 2 ^ (format.fractionBits + 1) := by positivity
    linarith
  · rw [same]
    have part : (2 : ℚ) ^ (leadingBit num den - format.fractionBits - 1) =
        2 ^ leadingBit num den / 2 ^ (format.fractionBits + 1) := by
      rw [← zpow_natCast, ← zpow_sub₀ (by norm_num)]
      congr 1
      push_cast
      ring
    have step : (2 : ℚ) ^ leadingBit num den / 2 ^ (format.fractionBits + 1) ≤
        (num : ℚ) / den / 2 ^ (format.fractionBits + 1) := by gcongr
    linarith

/-- In steps of `2 ^ exponent`, the nearest multiple is at most half a step away. -/
theorem nearestEven_distance (num den : Nat) (exponent : Int) (denominator : 0 < den) :
    |(nearestEven (num * 2 ^ (-exponent).toNat) (den * 2 ^ exponent.toNat) : ℚ) * 2 ^ exponent -
      (num : ℚ) / den| ≤ 2 ^ (exponent - 1) := by
  have rounded := nearestEven_bounds (num * 2 ^ (-exponent).toNat) (den * 2 ^ exponent.toNat)
    (by positivity)
  rw [scaled_ratio] at rounded
  have unit : (0 : ℚ) < 2 ^ exponent := by positivity
  have halved : (2 : ℚ) ^ (exponent - 1) = 2 ^ exponent / 2 := by
    rw [zpow_sub₀ (by norm_num), zpow_one]
  have whole : (num : ℚ) / den / 2 ^ exponent * 2 ^ exponent = (num : ℚ) / den := by field_simp
  have low := mul_le_mul_of_nonneg_right rounded.1 unit.le
  have high := mul_le_mul_of_nonneg_right rounded.2 unit.le
  rw [sub_mul, whole] at low
  rw [add_mul, whole] at high
  rw [abs_le]
  constructor <;> linarith

/-- Rounding a ratio below the largest values keeps it finite and near. -/
theorem roundRatio_near {format : FloatFormat} (negative : Bool) (num den : Nat)
    (precise : 9 ≤ format.fractionBits) (denominator : 0 < den)
    (ordered : format.minExponent < format.maxExponent)
    (inRange : (num : ℚ) / den < 2 ^ (format.maxExponent + format.fractionBits)) :
    Near format negative ((num : ℚ) / den) (roundRatio format negative num den) := by
  unfold roundRatio
  by_cases zero : num = 0
  · refine ⟨0, format.minExponent, by simp [zero], ?_⟩
    have positive : (0 : ℚ) < 2 ^ (format.minExponent - 1) := by positivity
    simpa [zero] using positive.le
  · obtain ⟨leading, _⟩ := leadingBit_bounds (Nat.pos_of_ne_zero zero) denominator
    have half := @half_step_bound num den format leading
    have leadingSmall : leadingBit num den < format.maxExponent + format.fractionBits :=
      (zpow_lt_zpow_iff_right₀ (by norm_num)).mp (leading.trans_lt inRange)
    simp only [zero, ↓reduceIte]
    generalize shape : max format.minExponent (leadingBit num den - format.fractionBits) =
      exponent at half
    have distance := nearestEven_distance num den exponent denominator
    have part : (num : ℚ) / den / 2 ^ (format.fractionBits + 1) ≤ (num : ℚ) / den / 1024 := by
      have powers : (2 : ℚ) ^ 10 ≤ 2 ^ (format.fractionBits + 1) :=
        pow_le_pow_right₀ (by norm_num) (by omega)
      gcongr
      linarith
    have below : exponent < format.maxExponent := by omega
    refine ⟨_, exponent, if_neg (by omega), by linarith⟩

theorem ofInt_near {format : FloatFormat} {number : Nat} (precise : 9 ≤ format.fractionBits)
    (ordered : format.minExponent < format.maxExponent)
    (inRange : (number : ℚ) < 2 ^ (format.maxExponent + format.fractionBits)) :
    Near format false number (ofInt format number) := by
  have near := roundRatio_near false number 1 precise Nat.one_pos ordered (by simpa using inRange)
  have unsigned : ¬ (number : Int) < 0 := by omega
  simpa [ofInt, unsigned] using near

/-- The exact quotient of two finite values, as the ratio that `divide` rounds. -/
theorem quotient_ratio (mantissa divisor : Nat) (exponent divisorExponent : Int) :
    ((mantissa * 2 ^ (exponent - divisorExponent).toNat : Nat) : ℚ) /
      (divisor * 2 ^ (divisorExponent - exponent).toNat : Nat) =
    (mantissa * 2 ^ exponent) / (divisor * 2 ^ divisorExponent) := by
  have ratio := scaled_ratio mantissa divisor (divisorExponent - exponent)
  rw [neg_sub] at ratio
  rw [ratio, zpow_sub₀ (by norm_num)]
  field_simp

/-- The scaled number that is printed is the value, at most half a place away. -/
private theorem printed_bounds (mantissa places : Nat) (exponent : Int) :
    (mantissa : ℚ) * 2 ^ exponent * 10 ^ places - 1 / 2 ≤
        nearestEven (mantissa * 10 ^ places * 2 ^ exponent.toNat) (2 ^ (-exponent).toNat) ∧
      (nearestEven (mantissa * 10 ^ places * 2 ^ exponent.toNat) (2 ^ (-exponent).toNat) : ℚ) ≤
        mantissa * 2 ^ exponent * 10 ^ places + 1 / 2 := by
  have rounded := nearestEven_bounds (mantissa * 10 ^ places * 2 ^ exponent.toNat)
    (2 ^ (-exponent).toNat) (by positivity)
  have ratio : ((mantissa * 10 ^ places * 2 ^ exponent.toNat : Nat) : ℚ) /
      (2 ^ (-exponent).toNat : Nat) = mantissa * 2 ^ exponent * 10 ^ places := by
    rw [zpow_split exponent]
    push_cast
    ring
  rwa [ratio] at rounded

/-- A value prints as zero when it is less than half of the last place. -/
theorem fixedText_small {mantissa : Nat} {exponent : Int}
    (small : (mantissa : ℚ) * 2 ^ exponent * 10 ^ places < 1 / 2) :
    fixedText places (.finite false mantissa exponent) = fixedPoint places 0 := by
  obtain ⟨_, high⟩ := printed_bounds mantissa places exponent
  have below : (nearestEven (mantissa * 10 ^ places * 2 ^ exponent.toNat)
      (2 ^ (-exponent).toNat) : ℚ) < 1 := by linarith
  have zero := Nat.lt_one_iff.mp (by exact_mod_cast below)
  simp [fixedText, zero]

/-- A value above half of the last place does not print as zero. -/
theorem fixedText_large {mantissa : Nat} {exponent : Int}
    (large : 1 / 2 < (mantissa : ℚ) * 2 ^ exponent * 10 ^ places) :
    fixedText places (.finite false mantissa exponent) ≠ fixedPoint places 0 := by
  obtain ⟨low, _⟩ := printed_bounds mantissa places exponent
  intro same
  have zero := fixedPoint_injective (by simpa [fixedText] using same)
  rw [zero] at low
  push_cast at low
  linarith

/-- A quotient of at least nine sixteenths of the last place does not print as zero. -/
theorem divide_prints_nonzero {format : FloatFormat} {divisor : Nat} {divisorExponent : Int}
    (precise : 9 ≤ format.fractionBits) (ordered : format.minExponent < format.maxExponent)
    (near : Near format false exact value)
    (unit : (1 : ℚ) ≤ divisor * 2 ^ divisorExponent)
    (inRange : 2 * exact + 1 < 2 ^ (format.maxExponent + format.fractionBits))
    (tiny : (2 : ℚ) ^ (format.minExponent - 1) * 10 ^ places ≤ 1 / 64)
    (large : 9 / 16 ≤ exact / (divisor * 2 ^ divisorExponent) * 10 ^ places) :
    fixedText places (divide format value (.finite false divisor divisorExponent)) ≠
      fixedPoint places 0 := by
  obtain ⟨mantissa, exponent, rfl, close⟩ := near
  have nonzero : divisor ≠ 0 := by
    rintro rfl
    norm_num at unit
  generalize scale : (divisor : ℚ) * 2 ^ divisorExponent = divisorValue at unit large
  generalize slack : (2 : ℚ) ^ (format.minExponent - 1) = least at close tiny
  have scalePositive : 0 < divisorValue := by linarith
  have pow : (1 : ℚ) ≤ 10 ^ places := one_le_pow₀ (by norm_num)
  have leastPositive : 0 < least := by rw [← slack]; positivity
  have leastSmall : least ≤ 1 / 64 := by nlinarith
  have exactPositive : 0 < exact := by
    by_contra nonpositive
    have below : exact / divisorValue ≤ 0 :=
      div_nonpos_of_nonpos_of_nonneg (by linarith) scalePositive.le
    nlinarith
  have bounds := abs_le.mp close
  have quotientBound : (mantissa : ℚ) * 2 ^ exponent / divisorValue ≤ mantissa * 2 ^ exponent :=
    div_le_self (by positivity) unit
  have rounded := roundRatio_near false (mantissa * 2 ^ (exponent - divisorExponent).toNat)
    (divisor * 2 ^ (divisorExponent - exponent).toNat) precise (by positivity) ordered
    (by rw [quotient_ratio, scale]; linarith)
  obtain ⟨result, resultExponent, shape, closeResult⟩ := rounded
  rw [quotient_ratio, scale, slack] at closeResult
  simp only [divide, nonzero, ↓reduceIte, Bool.xor_false, shape]
  apply fixedText_large
  have resultBounds := abs_le.mp closeResult
  have firstStep : exact / divisorValue * (1023 / 1024) - least ≤
      (mantissa : ℚ) * 2 ^ exponent / divisorValue := by
    rw [le_div_iff₀ scalePositive, sub_mul]
    have cancel : exact / divisorValue * (1023 / 1024) * divisorValue = exact * (1023 / 1024) := by
      field_simp
    nlinarith
  have total : exact / divisorValue * (1023 / 1024) * (1023 / 1024) - 2 * least ≤
      (result : ℚ) * 2 ^ resultExponent := by linarith
  calc (1 : ℚ) / 2 < 9 / 16 * ((1023 / 1024) * (1023 / 1024)) - 2 / 64 := by norm_num
    _ ≤ exact / divisorValue * 10 ^ places * ((1023 / 1024) * (1023 / 1024)) -
        2 * (least * 10 ^ places) := by linarith
    _ = (exact / divisorValue * (1023 / 1024) * (1023 / 1024) - 2 * least) * 10 ^ places := by ring
    _ ≤ (result : ℚ) * 2 ^ resultExponent * 10 ^ places := by gcongr

/-- A quotient of integers whose exact value is at least nine sixteenths of the
last place does not print as zero, in any format of the usual size. -/
theorem quotient_prints_nonzero {format : FloatFormat} {number divisor mantissa places : Nat}
    {exponent : Int} (precise : 9 ≤ format.fractionBits)
    (ordered : format.minExponent < format.maxExponent)
    (wide : 40 ≤ format.maxExponent + format.fractionBits) (fine : format.minExponent ≤ -40)
    (exactDivisor : ofInt format divisor = .finite false mantissa exponent)
    (value : (mantissa : ℚ) * 2 ^ exponent = divisor) (unit : 1 ≤ divisor)
    (small : number < 2 ^ 32) (few : places ≤ 9)
    (large : 9 * divisor ≤ 16 * number * 10 ^ places) :
    fixedText places (divide format (ofInt format number) (ofInt format divisor)) ≠
      fixedPoint places 0 := by
  have scale : (2 : ℚ) ^ 40 ≤ 2 ^ (format.maxExponent + format.fractionBits) := by
    have powers := zpow_le_zpow_right₀ (by norm_num : (1 : ℚ) ≤ 2) wide
    exact_mod_cast powers
  have least : (2 : ℚ) ^ (format.minExponent - 1) ≤ 1 / 2 ^ 41 := by
    have powers := zpow_le_zpow_right₀ (by norm_num : (1 : ℚ) ≤ 2)
      (by omega : format.minExponent - 1 ≤ -41)
    simpa using powers
  have bound : (number : ℚ) < 2 ^ 32 := by exact_mod_cast small
  have divisorUnit : (1 : ℚ) ≤ divisor := by exact_mod_cast unit
  have scaled : (10 : ℚ) ^ places ≤ 10 ^ 9 := pow_le_pow_right₀ (by norm_num) few
  have near := @ofInt_near format number precise ordered (by linarith)
  rw [exactDivisor]
  refine divide_prints_nonzero precise ordered near (by rwa [value]) (by linarith) ?_ ?_
  · calc (2 : ℚ) ^ (format.minExponent - 1) * 10 ^ places ≤ 1 / 2 ^ 41 * 10 ^ 9 := by gcongr
      _ ≤ 1 / 64 := by norm_num
  · have cast : (9 : ℚ) * divisor ≤ 16 * number * 10 ^ places := by exact_mod_cast large
    rw [value, div_mul_eq_mul_div, le_div_iff₀ (by linarith)]
    linarith

/-- Zero divided prints as zero. -/
theorem zero_quotient_prints {format : FloatFormat} {divisor : Nat} {exponent : Int}
    (nonzero : divisor ≠ 0) :
    fixedText places (divide format (ofInt format 0) (.finite false divisor exponent)) =
      fixedPoint places 0 := by
  have zero : divide format (ofInt format 0) (.finite false divisor exponent) =
      .finite false 0 format.minExponent := by
    simp [ofInt, roundRatio, divide, nonzero]
  rw [zero]
  exact fixedText_small (by simp)

/-! ### Values that stay finite -/

/-- An integer of either sign keeps its sign. -/
theorem ofInt_signed {format : FloatFormat} (number : Int) (precise : 9 ≤ format.fractionBits)
    (ordered : format.minExponent < format.maxExponent)
    (inRange : (number.natAbs : ℚ) < 2 ^ (format.maxExponent + format.fractionBits)) :
    Near format (decide (number < 0)) number.natAbs (ofInt format number) := by
  have near := roundRatio_near (decide (number < 0)) number.natAbs 1 precise Nat.one_pos ordered
    (by simpa using inRange)
  simpa [ofInt] using near

/-- A quotient is finite and not much larger than what is divided. -/
theorem divide_finite {format : FloatFormat} {negative : Bool} {divisor : Nat}
    {divisorExponent : Int} (precise : 9 ≤ format.fractionBits)
    (ordered : format.minExponent < format.maxExponent)
    (near : Near format negative exact value) (unit : (1 : ℚ) ≤ divisor * 2 ^ divisorExponent)
    (some : 0 ≤ exact) (least : (2 : ℚ) ^ (format.minExponent - 1) ≤ 1)
    (inRange : 2 * exact + 1 < 2 ^ (format.maxExponent + format.fractionBits)) :
    ∃ mantissa exponent, divide format value (.finite false divisor divisorExponent) =
      .finite negative mantissa exponent ∧ (mantissa : ℚ) * 2 ^ exponent ≤ 4 * exact + 3 := by
  obtain ⟨mantissa, exponent, rfl, close⟩ := near
  have nonzero : divisor ≠ 0 := by
    rintro rfl
    norm_num at unit
  have bounds := abs_le.mp close
  have large : (mantissa : ℚ) * 2 ^ exponent ≤ 2 * exact + 1 := by linarith
  have quotientBound : (mantissa : ℚ) * 2 ^ exponent / (divisor * 2 ^ divisorExponent) ≤
      mantissa * 2 ^ exponent := div_le_self (by positivity) unit
  have rounded := roundRatio_near negative (mantissa * 2 ^ (exponent - divisorExponent).toNat)
    (divisor * 2 ^ (divisorExponent - exponent).toNat) precise (by positivity) ordered
    (by rw [quotient_ratio]; linarith)
  obtain ⟨result, resultExponent, shape, closeResult⟩ := rounded
  rw [quotient_ratio] at closeResult
  have resultBounds := abs_le.mp closeResult
  refine ⟨result, resultExponent, ?_, by linarith⟩
  simp only [divide, nonzero, ↓reduceIte, Bool.xor_false, shape]

/-! ### Values that a format has -/

def FloatValue.isFinite : FloatValue → Bool
  | .finite _ _ _ => true
  | _ => false

/-- No larger than the largest finite value. -/
def Fits (format : FloatFormat) (value : FloatValue) : Prop :=
  ∃ negative mantissa exponent, value = .finite negative mantissa exponent ∧
    (mantissa : ℚ) * 2 ^ exponent ≤ (2 ^ (format.fractionBits + 1) - 1) * 2 ^ format.maxExponent

theorem Fits.isFinite {format : FloatFormat} (fits : Fits format value) :
    value.isFinite = true := by
  obtain ⟨_, _, _, rfl, _⟩ := fits
  rfl

theorem fits_zero {format : FloatFormat} (negative : Bool) (exponent : Int) :
    Fits format (.finite negative 0 exponent) := by
  have most : (1 : ℚ) ≤ 2 ^ (format.fractionBits + 1) := one_le_pow₀ (by norm_num)
  refine ⟨negative, 0, exponent, rfl, ?_⟩
  rw [Nat.cast_zero, zero_mul]
  exact mul_nonneg (by linarith) (by positivity)

/-- Below the largest exponent the mantissa may be full. -/
theorem fits_of_bounds {format : FloatFormat} {mantissa : Nat} {exponent : Int} (negative : Bool)
    (full : mantissa ≤ 2 ^ (format.fractionBits + 1)) (below : exponent ≤ format.maxExponent)
    (top : exponent = format.maxExponent → mantissa ≠ 2 ^ (format.fractionBits + 1)) :
    Fits format (.finite negative mantissa exponent) := by
  refine ⟨negative, mantissa, exponent, rfl, ?_⟩
  have cast : (mantissa : ℚ) ≤ 2 ^ (format.fractionBits + 1) := by exact_mod_cast full
  by_cases same : exponent = format.maxExponent
  · have less : mantissa + 1 ≤ 2 ^ (format.fractionBits + 1) := by
      have := top same
      omega
    have less : (mantissa : ℚ) + 1 ≤ 2 ^ (format.fractionBits + 1) := by exact_mod_cast less
    rw [same]
    gcongr
    linarith
  · have step : (2 : ℚ) ^ exponent ≤ 2 ^ (format.maxExponent - 1) :=
      zpow_le_zpow_right₀ (by norm_num) (by omega)
    have half : (2 : ℚ) ^ (format.maxExponent - 1) = 2 ^ format.maxExponent / 2 := by
      rw [zpow_sub₀ (by norm_num), zpow_one]
    have unit : (1 : ℚ) ≤ 2 ^ format.fractionBits := one_le_pow₀ (by norm_num)
    have positive : (0 : ℚ) < 2 ^ format.maxExponent := by positivity
    calc (mantissa : ℚ) * 2 ^ exponent
        ≤ 2 ^ (format.fractionBits + 1) * (2 ^ format.maxExponent / 2) := by rw [← half]; gcongr
      _ = 2 ^ format.fractionBits * 2 ^ format.maxExponent := by rw [pow_succ]; ring
      _ ≤ (2 ^ (format.fractionBits + 1) - 1) * 2 ^ format.maxExponent := by
        gcongr
        rw [pow_succ]
        linarith

theorem decodeBits_fits {format : FloatFormat} (bits : Nat)
    (ordered : format.minExponent ≤ format.maxExponent)
    (finite : (decodeBits format bits).isFinite) : Fits format (decodeBits format bits) := by
  have fraction : bits % 2 ^ format.fractionBits < 2 ^ format.fractionBits :=
    Nat.mod_lt _ (Nat.two_pow_pos _)
  have biased :
      bits / 2 ^ format.fractionBits % 2 ^ format.exponentBits < 2 ^ format.exponentBits :=
    Nat.mod_lt _ (Nat.two_pow_pos _)
  have double : 2 ^ (format.fractionBits + 1) = 2 ^ format.fractionBits * 2 := Nat.pow_succ ..
  have largest : format.maxExponent = format.minExponent + (2 ^ format.exponentBits : Nat) - 3 := by
    rw [Nat.cast_pow]
    rfl
  unfold decodeBits at finite ⊢
  dsimp only at finite ⊢
  split at finite
  · split at finite
    · cases finite
    · cases finite
  · rename_i ordinary
    rw [if_neg ordinary]
    split
    · exact fits_of_bounds _ (by omega) ordered (fun _ => by omega)
    · exact fits_of_bounds _ (by omega) (by omega) (fun _ => by omega)

/-- The parts of a ratio that is rounded: the exponent leaves room for the mantissa. -/
theorem rounded_mantissa {format : FloatFormat} {exponent : Int} (numerator : 0 < num)
    (denominator : 0 < den) (room : leadingBit num den - format.fractionBits ≤ exponent) :
    nearestEven (num * 2 ^ (-exponent).toNat) (den * 2 ^ exponent.toNat) ≤
      2 ^ (format.fractionBits + 1) := by
  obtain ⟨_, leading⟩ := leadingBit_bounds numerator denominator
  obtain ⟨_, rounded⟩ := nearestEven_bounds (num * 2 ^ (-exponent).toNat) (den * 2 ^ exponent.toNat)
    (by positivity)
  rw [scaled_ratio] at rounded
  have unit : (0 : ℚ) < 2 ^ exponent := by positivity
  have wide :
      (2 : ℚ) ^ (leadingBit num den + 1) ≤ 2 ^ (format.fractionBits + 1) * 2 ^ exponent := by
    rw [← zpow_natCast, ← zpow_add₀ (by norm_num)]
    apply zpow_le_zpow_right₀ (by norm_num)
    push_cast
    omega
  have ratio : (num : ℚ) / den / 2 ^ exponent < 2 ^ (format.fractionBits + 1) := by
    rw [div_lt_iff₀ unit]
    linarith
  have below : (nearestEven (num * 2 ^ (-exponent).toNat) (den * 2 ^ exponent.toNat) : ℚ) <
      (2 ^ (format.fractionBits + 1) + 1 : Nat) := by
    push_cast
    linarith
  exact Nat.lt_succ_iff.1 (by exact_mod_cast below)

/-- What is rounded to a finite value is one of the format. -/
theorem roundRatio_fits {format : FloatFormat} (negative : Bool) (num den : Nat)
    (denominator : 0 < den) (finite : (roundRatio format negative num den).isFinite) :
    Fits format (roundRatio format negative num den) := by
  unfold roundRatio at finite ⊢
  by_cases zero : num = 0
  · rw [if_pos zero]
    exact fits_zero _ _
  · rw [if_neg zero] at finite ⊢
    have mantissa := @rounded_mantissa num den format _ (Nat.pos_of_ne_zero zero) denominator
      (le_max_right format.minExponent (leadingBit num den - format.fractionBits))
    dsimp only at finite ⊢
    split at finite
    · cases finite
    · rename_i inside
      rw [if_neg inside]
      exact fits_of_bounds _ mantissa (by omega) (fun same full => inside (.inr ⟨same, full⟩))

theorem multiply_fits {format : FloatFormat} (first second : FloatValue)
    (finite : (multiply format first second).isFinite) :
    Fits format (multiply format first second) := by
  unfold multiply at finite ⊢
  split at finite
  · cases finite
  · cases finite
  · split at finite
    · cases finite
    · cases finite
  · split at finite
    · cases finite
    · cases finite
  · cases finite
  · exact roundRatio_fits _ _ _ (Nat.two_pow_pos _) finite

/-- A ratio that is less than half a step above the largest value stays finite. -/
theorem roundRatio_finite {format : FloatFormat} (negative : Bool) (num den : Nat)
    (denominator : 0 < den) (ordered : format.minExponent ≤ format.maxExponent)
    (inRange : (num : ℚ) / den < (2 ^ (format.fractionBits + 1) - 1 / 2) * 2 ^ format.maxExponent) :
    ∃ mantissa exponent,
      roundRatio format negative num den = .finite negative mantissa exponent := by
  unfold roundRatio
  by_cases zero : num = 0
  · exact ⟨0, format.minExponent, if_pos zero⟩
  · obtain ⟨leading, _⟩ := leadingBit_bounds (Nat.pos_of_ne_zero zero) denominator
    have positive : (0 : ℚ) < 2 ^ format.maxExponent := by positivity
    have small : leadingBit num den < format.maxExponent + (format.fractionBits + 1 : Nat) := by
      apply (zpow_lt_zpow_iff_right₀ (by norm_num : (1 : ℚ) < 2)).mp
      rw [zpow_add₀ (by norm_num), zpow_natCast]
      linarith
    rw [if_neg zero]
    dsimp only
    generalize shape : max format.minExponent (leadingBit num den - format.fractionBits) = exponent
    have below : exponent ≤ format.maxExponent := by omega
    refine ⟨_, exponent, if_neg ?_⟩
    rintro (above | ⟨same, full⟩)
    · omega
    · obtain ⟨_, rounded⟩ := nearestEven_bounds (num * 2 ^ (-exponent).toNat)
        (den * 2 ^ exponent.toNat) (by positivity)
      rw [full, scaled_ratio, same] at rounded
      have ratio :
          (num : ℚ) / den / 2 ^ format.maxExponent < 2 ^ (format.fractionBits + 1) - 1 / 2 := by
        rwa [div_lt_iff₀ positive]
      push_cast at rounded
      linarith

/-- A number with decimals, as it is written, is finite when it is read. -/
theorem printed_finite {format : FloatFormat} {mantissa : Nat} {exponent : Int}
    (negative : Bool) (places : Nat) (ordered : format.minExponent ≤ format.maxExponent)
    (large : 0 < format.maxExponent)
    (inRange : (mantissa : ℚ) * 2 ^ exponent ≤
      (2 ^ (format.fractionBits + 1) - 1) * 2 ^ format.maxExponent) :
    ∃ result resultExponent, roundRatio format negative
      (nearestEven (mantissa * 10 ^ places * 2 ^ exponent.toNat) (2 ^ (-exponent).toNat))
      (10 ^ places) = .finite negative result resultExponent := by
  obtain ⟨_, high⟩ := printed_bounds mantissa places exponent
  generalize nearestEven (mantissa * 10 ^ places * 2 ^ exponent.toNat) (2 ^ (-exponent).toNat) =
    number at high
  have scale : (1 : ℚ) ≤ 10 ^ places := one_le_pow₀ (by norm_num)
  have below : (number : ℚ) / (10 ^ places : Nat) ≤ mantissa * 2 ^ exponent + 1 / 2 := by
    push_cast
    rw [div_le_iff₀ (by positivity)]
    linarith
  have unit : (1 : ℚ) < 2 ^ format.maxExponent := one_lt_zpow₀ (by norm_num) large
  refine roundRatio_finite negative number (10 ^ places) (by positivity) ordered ?_
  linarith

end Glide.Library.BinaryFloat
