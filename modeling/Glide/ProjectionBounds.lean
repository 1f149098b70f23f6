import Glide.MapProjection
import Mathlib.Analysis.Real.Pi.Bounds
import Mathlib.Analysis.SpecialFunctions.Log.Basic
import Mathlib.Analysis.SpecialFunctions.Pow.Real
import Mathlib.Analysis.SpecialFunctions.Trigonometric.Bounds

/-! How large the projection of a position is, with functions of the mathematical library that are
right to six decimals. -/
namespace Glide.ProjectionBounds
open Library BinaryFloat GpuMapLines MapProjection

/-- A result is finite and no further than this from the real one. -/
def Within (tolerance exact : ℝ) (value : FloatValue) : Prop :=
  value.isFinite = true ∧ |(value.toRat : ℝ) - exact| ≤ tolerance

/-- The functions are right to six decimals, where they are used. -/
structure Accurate (libm : Libm) : Prop where
  tan : ∀ angle, angle.isFinite = true → |angle.toRat| ≤ 3 / 2 →
    Within (1 / 2 ^ 20) (Real.tan angle.toRat) (libm.tan angle)
  cos : ∀ angle, angle.isFinite = true → |angle.toRat| ≤ 3 / 2 →
    Within (1 / 2 ^ 20) (Real.cos angle.toRat) (libm.cos angle)
  log : ∀ number, number.isFinite = true → 1 / 2 ^ 10 ≤ number.toRat → number.toRat ≤ 2 ^ 10 →
    Within (1 / 2 ^ 20) (Real.log number.toRat) (libm.log number)
  pow : ∀ exponent, exponent.isFinite = true → |exponent.toRat| ≤ 2 ^ 5 →
    Within (2 ^ (exponent.toRat : ℝ) / 2 ^ 20) (2 ^ (exponent.toRat : ℝ))
      (libm.pow (whole 2) exponent)

/-- Rational bounds as real ones. -/
theorem real_le {a b : ℚ} {x y : ℝ} (left : (a : ℝ) = x) (right : (b : ℝ) = y) :
    x ≤ y ↔ a ≤ b := by
  rw [← left, ← right]
  exact Rat.cast_le

/-! ### The height of a latitude -/

theorem cos_large {angle : ℝ} (small : |angle| ≤ 3 / 2) : 1 / 23 ≤ Real.cos angle := by
  have pi := Real.pi_gt_d4
  have near := Real.one_sub_mul_le_cos (abs_nonneg angle) (by linarith)
  rw [Real.cos_abs] at near
  have turn : 2 / Real.pi * |angle| ≤ 3 / Real.pi := by
    rw [div_mul_eq_mul_div]
    gcongr
    linarith
  have part : 3 / Real.pi ≤ 3 / 3.1415 := by gcongr
  calc (1 : ℝ) / 23 ≤ 1 - 3 / 3.1415 := by norm_num
    _ ≤ Real.cos angle := by linarith

/-- The tangent and the secant do not cancel. -/
theorem height_bounds {angle : ℝ} (small : |angle| ≤ 3 / 2) :
    1 / 46 ≤ Real.tan angle + 1 / Real.cos angle ∧ Real.tan angle + 1 / Real.cos angle ≤ 46 := by
  have large := cos_large small
  have positive : 0 < Real.cos angle := by linarith
  have square := Real.sin_sq_add_cos_sq angle
  have sum : Real.tan angle + 1 / Real.cos angle = (Real.sin angle + 1) / Real.cos angle := by
    rw [Real.tan_eq_sin_div_cos, add_div]
  rw [sum]
  constructor
  · rw [le_div_iff₀ positive]
    nlinarith [sq_nonneg (Real.sin angle + 1)]
  · rw [div_le_iff₀ positive]
    have top := Real.sin_le_one angle
    linarith

variable {libm : Libm}

/-- The secant that is computed is near the real one. -/
theorem secant_near (accurate : Accurate libm) {angle : FloatValue} (finite : angle.isFinite = true)
    (small : |angle.toRat| ≤ 3 / 2) :
    Within (1 / 2 ^ 9) (1 / Real.cos angle.toRat) (divide binary64 (whole 1) (libm.cos angle)) := by
  have smallReal : |(angle.toRat : ℝ)| ≤ 3 / 2 :=
    (real_le (Rat.cast_abs _) (by norm_num)).2 small
  obtain ⟨cosFinite, cosClose⟩ := accurate.cos angle finite small
  have large := cos_large smallReal
  rw [abs_le] at cosClose
  have computed : (1 : ℝ) / 24 ≤ (libm.cos angle).toRat := by linarith
  have computedRat : (1 : ℚ) / 24 ≤ (libm.cos angle).toRat :=
    (real_le (by norm_num) rfl).1 computed
  obtain ⟨oneFinite, one⟩ := whole_exact 1 (by decide)
  have rounded := divide_rounded binary64 oneFinite cosFinite (by linarith)
  rw [one, Int.cast_one] at rounded
  have inverse : |1 / (libm.cos angle).toRat| ≤ 24 := by
    rw [abs_of_pos (by positivity), div_le_iff₀ (by linarith)]
    linarith
  obtain ⟨quotientFinite, quotientClose⟩ := rounded.approximates (inverse.trans (by norm_num))
  have near : |(divide binary64 (whole 1) (libm.cos angle)).toRat - 1 / (libm.cos angle).toRat| ≤
      1 / 2 ^ 20 := by linarith
  have nearReal : |((divide binary64 (whole 1) (libm.cos angle)).toRat : ℝ) -
      1 / (libm.cos angle).toRat| ≤ 1 / 2 ^ 20 :=
    (real_le (by push_cast; rfl) (by norm_num)).2 near
  refine ⟨quotientFinite, ?_⟩
  generalize ((divide binary64 (whole 1) (libm.cos angle)).toRat : ℝ) = quotient at nearReal ⊢
  generalize ((libm.cos angle).toRat : ℝ) = cosine at cosClose computed nearReal
  have apart : 1 / cosine - 1 / Real.cos angle.toRat =
      (Real.cos angle.toRat - cosine) / (cosine * Real.cos angle.toRat) := by
    rw [div_sub_div _ _ (by linarith) (by linarith), one_mul, mul_one]
  have product : (1 : ℝ) / 552 ≤ cosine * Real.cos angle.toRat := by
    calc (1 : ℝ) / 552 = 1 / 24 * (1 / 23) := by norm_num
      _ ≤ cosine * Real.cos angle.toRat := by gcongr
  have change : |1 / cosine - 1 / Real.cos angle.toRat| ≤ 1 / 2 ^ 10 := by
    rw [apart, abs_div, abs_of_pos (by linarith : 0 < cosine * Real.cos angle.toRat),
      div_le_iff₀ (by linarith), abs_le]
    constructor <;> linarith
  rw [abs_le] at nearReal change ⊢
  constructor <;> linarith

/-- The logarithm of the height is finite and small. -/
theorem height_log (accurate : Accurate libm) {angle : FloatValue} (finite : angle.isFinite = true)
    (small : |angle.toRat| ≤ 3 / 2) :
    (libm.log (add binary64 (libm.tan angle)
      (divide binary64 (whole 1) (libm.cos angle)))).isFinite = true ∧
    |(libm.log (add binary64 (libm.tan angle)
      (divide binary64 (whole 1) (libm.cos angle)))).toRat| ≤ 100 := by
  have smallReal : |(angle.toRat : ℝ)| ≤ 3 / 2 :=
    (real_le (Rat.cast_abs _) (by norm_num)).2 small
  obtain ⟨tanFinite, tanClose⟩ := accurate.tan angle finite small
  obtain ⟨secantFinite, secantClose⟩ := secant_near accurate finite small
  obtain ⟨low, high⟩ := height_bounds smallReal
  have rounded := add_rounded binary64 tanFinite secantFinite
  generalize libm.tan angle = tangent at tanFinite tanClose rounded ⊢
  generalize divide binary64 (whole 1) (libm.cos angle) = secant
    at secantFinite secantClose rounded ⊢
  rw [abs_le] at tanClose secantClose
  have sumLow : (1 : ℝ) / 51 ≤ (tangent.toRat + secant.toRat : ℚ) := by
    push_cast
    linarith
  have sumHigh : ((tangent.toRat + secant.toRat : ℚ) : ℝ) ≤ 47 := by
    push_cast
    linarith
  have sumLow : (1 : ℚ) / 51 ≤ tangent.toRat + secant.toRat :=
    (real_le (by norm_num) rfl).1 sumLow
  have sumHigh : tangent.toRat + secant.toRat ≤ 47 := (real_le rfl (by norm_num)).1 sumHigh
  have size : |tangent.toRat + secant.toRat| ≤ 47 := by
    rw [abs_le]
    constructor <;> linarith
  obtain ⟨sumFinite, sumClose⟩ := rounded.approximates (size.trans (by norm_num))
  generalize add binary64 tangent secant = sum at sumFinite sumClose ⊢
  rw [abs_le] at sumClose
  have least : 1 / 64 ≤ sum.toRat := by linarith
  have most : sum.toRat ≤ 48 := by linarith
  obtain ⟨logFinite, logClose⟩ := accurate.log sum sumFinite (by linarith) (by linarith)
  have leastReal : (1 : ℝ) / 64 ≤ sum.toRat := (real_le (by norm_num) rfl).2 least
  have mostReal : (sum.toRat : ℝ) ≤ 48 := (real_le rfl (by norm_num)).2 most
  have top := Real.log_le_sub_one_of_pos (by linarith : (0 : ℝ) < sum.toRat)
  have bottom := Real.one_sub_inv_le_log_of_pos (by linarith : (0 : ℝ) < sum.toRat)
  have inverse : ((sum.toRat : ℝ))⁻¹ ≤ 64 := by
    rw [inv_le_comm₀ (by linarith) (by norm_num)]
    linarith
  rw [abs_le] at logClose
  have bounded : |((libm.log sum).toRat : ℝ)| ≤ 100 := by
    rw [abs_le]
    constructor <;> linarith
  exact ⟨logFinite, (real_le (Rat.cast_abs _) (by norm_num)).1 bounded⟩

/-! ### The projection of a position -/

/-- A coordinate is a `double`, and far from the largest ones. -/
structure Projected (value : FloatValue) : Prop where
  finite : value.isFinite = true
  stored : Stored binary64 value
  small : |value.toRat| ≤ 2 ^ 32

theorem projected_of_rounded {exact : ℚ} (rounded : Rounded binary64 exact value)
    (small : |exact| ≤ 2 ^ 31) : Projected value := by
  have near := rounded.approximates (small.trans (by norm_num))
  exact ⟨near.finite, rounded.stored near.finite, (near.bounded small (by norm_num)).trans
    (by norm_num)⟩

theorem decimal_near (number places : Nat) (small : (number : ℚ) / 10 ^ places ≤ 100) :
    (decimal number places).isFinite = true ∧
      |(decimal number places).toRat - (number : ℚ) / 10 ^ places| ≤ 1 / 2 ^ 40 := by
  have size : |(number : ℚ) / 10 ^ places| ≤ 100 := by rwa [abs_of_nonneg (by positivity)]
  obtain ⟨finite, close⟩ := (decimal_rounded number places).approximates (size.trans (by norm_num))
  exact ⟨finite, by linarith⟩

theorem pi_bounds : kPi.isFinite = true ∧ 3 ≤ kPi.toRat ∧ kPi.toRat ≤ 3.1416 := by
  obtain ⟨finite, close⟩ := decimal_near 314159265358979323846 20 (by norm_num)
  change |kPi.toRat - _| ≤ _ at close
  rw [abs_le] at close
  norm_num at close ⊢
  exact ⟨finite, by linarith, by linarith⟩

theorem maxLatitude_bounds : kMaxLatitude.isFinite = true ∧ 85 ≤ kMaxLatitude.toRat ∧
    kMaxLatitude.toRat ≤ 85.1 := by
  obtain ⟨finite, close⟩ := decimal_near 8505112878 8 (by norm_num)
  change |kMaxLatitude.toRat - _| ≤ _ at close
  rw [abs_le] at close
  norm_num at close ⊢
  exact ⟨finite, by linarith, by linarith⟩

/-- The latitude in radians is not too near to a quarter of a turn. -/
theorem radians_small {latitude : FloatValue} (finite : latitude.isFinite = true) :
    (divide binary64 (multiply binary64 (clamp latitude kMaxLatitude.opposite kMaxLatitude) kPi)
      (whole 180)).isFinite = true ∧
    |(divide binary64 (multiply binary64 (clamp latitude kMaxLatitude.opposite kMaxLatitude) kPi)
      (whole 180)).toRat| ≤ 3 / 2 := by
  obtain ⟨maxFinite, maxLow, maxHigh⟩ := maxLatitude_bounds
  obtain ⟨piFinite, piLow, piHigh⟩ := pi_bounds
  obtain ⟨clampedFinite, low, high⟩ := clamp_bounds finite
    (show kMaxLatitude.opposite.isFinite = true by rwa [isFinite_opposite]) maxFinite
    (by rw [toRat_opposite]; linarith)
  rw [toRat_opposite] at low
  obtain ⟨turnFinite, turn⟩ := whole_exact 180 (by decide)
  generalize clamp latitude kMaxLatitude.opposite kMaxLatitude = clamped at clampedFinite low high ⊢
  have product : |clamped.toRat * kPi.toRat| ≤ 267.4 := by
    rw [abs_mul, abs_of_pos (by linarith : 0 < kPi.toRat)]
    calc |clamped.toRat| * kPi.toRat ≤ 85.1 * 3.1416 := by
          gcongr
          rw [abs_le]
          constructor <;> linarith
      _ ≤ 267.4 := by norm_num
  obtain ⟨productFinite, productClose⟩ := (multiply_rounded binary64 clampedFinite
    piFinite).approximates (product.trans (by norm_num))
  generalize multiply binary64 clamped kPi = scaled at productFinite productClose ⊢
  have scaledSmall : |scaled.toRat| ≤ 267.5 := by
    have distance := abs_sub_abs_le_abs_sub scaled.toRat (clamped.toRat * kPi.toRat)
    norm_num at *
    linarith
  have rounded := divide_rounded binary64 productFinite turnFinite (by
    rw [turn]
    norm_num)
  rw [turn] at rounded
  have quotient : |scaled.toRat / ((180 : Int) : ℚ)| ≤ 1.49 := by
    rw [abs_div, Int.cast_ofNat, abs_of_pos (by norm_num : (0 : ℚ) < 180),
      div_le_iff₀ (by norm_num)]
    norm_num at *
    linarith
  obtain ⟨radiansFinite, radiansClose⟩ := rounded.approximates (quotient.trans (by norm_num))
  refine ⟨radiansFinite, ?_⟩
  have distance := abs_sub_abs_le_abs_sub (divide binary64 scaled (whole 180)).toRat
    (scaled.toRat / ((180 : Int) : ℚ))
  norm_num at *
  linarith

/-- The world is no larger than at the finest zoom. -/
theorem scale_small (fine : zoom ≤ 18) :
    (multiply binary64 (whole PngImages.kTileSize) (whole (2 ^ zoom))).isFinite = true ∧
      |(multiply binary64 (whole PngImages.kTileSize) (whole (2 ^ zoom))).toRat| ≤ 2 ^ 26 + 1 := by
  have power : 2 ^ zoom ≤ 2 ^ 18 := Nat.pow_le_pow_right (by norm_num) fine
  obtain ⟨tileFinite, tile⟩ := whole_exact PngImages.kTileSize (by decide)
  obtain ⟨tilesFinite, tiles⟩ := whole_exact (2 ^ zoom) (by
    rw [Int.natAbs_pow]
    exact power.trans (by norm_num))
  have rounded := multiply_rounded binary64 tileFinite tilesFinite
  rw [tile, tiles] at rounded
  have size : |((PngImages.kTileSize : Int) : ℚ) * ((2 ^ zoom : Int) : ℚ)| ≤ 2 ^ 26 := by
    have cast : (2 : ℚ) ^ zoom ≤ 2 ^ 18 := pow_le_pow_right₀ (by norm_num) fine
    rw [abs_of_nonneg (by positivity)]
    push_cast [PngImages.kTileSize]
    linarith
  have near := rounded.approximates (size.trans (by norm_num))
  exact ⟨near.finite, near.bounded size (by norm_num)⟩

theorem projected_product {first second : FloatValue} (left : first.isFinite = true)
    (right : second.isFinite = true) (small : |first.toRat| ≤ 21)
    (scale : |second.toRat| ≤ 2 ^ 26 + 1) : Projected (multiply binary64 first second) := by
  apply projected_of_rounded (multiply_rounded _ left right)
  rw [abs_mul]
  calc |first.toRat| * |second.toRat| ≤ 21 * (2 ^ 26 + 1) := by gcongr
    _ ≤ 2 ^ 31 := by norm_num

/-- The column of a longitude. -/
theorem column_projected {longitude scale : FloatValue} (finite : longitude.isFinite = true)
    (onEarth : |longitude.toRat| ≤ 360) (scaleFinite : scale.isFinite = true)
    (small : |scale.toRat| ≤ 2 ^ 26 + 1) :
    Projected (multiply binary64
      (divide binary64 (add binary64 longitude (whole 180)) (whole 360)) scale) := by
  obtain ⟨halfFinite, half⟩ := whole_exact 180 (by decide)
  obtain ⟨turnFinite, turn⟩ := whole_exact 360 (by decide)
  have sum := add_rounded binary64 finite halfFinite
  rw [half] at sum
  have size : |longitude.toRat + ((180 : Int) : ℚ)| ≤ 540 := by
    rw [abs_le] at onEarth ⊢
    norm_num
    constructor <;> linarith
  have sumNear := sum.approximates (size.trans (by norm_num))
  have sumSize := sumNear.bounded size (by norm_num)
  have quotient := divide_rounded binary64 sumNear.finite turnFinite (by
    rw [turn]
    norm_num)
  rw [turn] at quotient
  have part : |(add binary64 longitude (whole 180)).toRat / ((360 : Int) : ℚ)| ≤ 2 := by
    rw [abs_div, Int.cast_ofNat, abs_of_pos (by norm_num : (0 : ℚ) < 360),
      div_le_iff₀ (by norm_num)]
    linarith
  have near := quotient.approximates (part.trans (by norm_num))
  have bound := near.bounded part (by norm_num)
  exact projected_product near.finite scaleFinite (by linarith) small

/-- How far a latitude is from the north, by the logarithm of its height. -/
theorem offset_small {height : FloatValue} (finite : height.isFinite = true)
    (low : |height.toRat| ≤ 100) :
    (subtract binary64 (whole 1) (divide binary64 height kPi)).isFinite = true ∧
      |(subtract binary64 (whole 1) (divide binary64 height kPi)).toRat| ≤ 37 := by
  obtain ⟨piFinite, piLow, _⟩ := pi_bounds
  obtain ⟨oneFinite, one⟩ := whole_exact 1 (by decide)
  have quotient := divide_rounded binary64 finite piFinite (by linarith)
  have part : |height.toRat / kPi.toRat| ≤ 34 := by
    rw [abs_div, abs_of_pos (by linarith : 0 < kPi.toRat), div_le_iff₀ (by linarith)]
    linarith
  have quotientNear := quotient.approximates (part.trans (by norm_num))
  have quotientSize := quotientNear.bounded part (by norm_num)
  have difference := subtract_rounded binary64 oneFinite quotientNear.finite
  rw [one] at difference
  have rest : |((1 : Int) : ℚ) - (divide binary64 height kPi).toRat| ≤ 36 := by
    rw [abs_le] at quotientSize ⊢
    norm_num at quotientSize ⊢
    constructor <;> linarith
  have near := difference.approximates (rest.trans (by norm_num))
  have size := near.bounded rest (by norm_num)
  exact ⟨near.finite, by linarith⟩

/-- Half of a number that is not large. -/
theorem half_small {exact : ℚ} (rounded : Rounded binary64 exact value) (small : |exact| ≤ 41 / 2) :
    value.isFinite = true ∧ |value.toRat| ≤ 21 := by
  have near := rounded.approximates (small.trans (by norm_num))
  have close := near.close
  have distance := abs_sub_abs_le_abs_sub value.toRat exact
  exact ⟨near.finite, by linarith⟩

/-- The row of a latitude. -/
theorem row_projected {height scale : FloatValue} (finite : height.isFinite = true)
    (low : |height.toRat| ≤ 100) (scaleFinite : scale.isFinite = true)
    (small : |scale.toRat| ≤ 2 ^ 26 + 1) :
    Projected (multiply binary64 (multiply binary64
      (subtract binary64 (whole 1) (divide binary64 height kPi)) (decimal 5 1)) scale) := by
  obtain ⟨offsetFinite, offset⟩ := offset_small finite low
  obtain ⟨halfFinite, halfClose⟩ := decimal_near 5 1 (by norm_num)
  have half : |(decimal 5 1).toRat| ≤ 11 / 20 := by
    norm_num [abs_le] at halfClose ⊢
    constructor <;> linarith
  obtain ⟨productFinite, product⟩ :=
    half_small (multiply_rounded _ offsetFinite halfFinite) (by
      rw [abs_mul]
      calc |(subtract binary64 (whole 1) (divide binary64 height kPi)).toRat| *
            |(decimal 5 1).toRat| ≤ 37 * (11 / 20) := by gcongr
        _ ≤ 41 / 2 := by norm_num)
  exact projected_product productFinite scaleFinite product small

/-- The same row, with a division by two. -/
theorem divided_row_projected {height scale : FloatValue} (finite : height.isFinite = true)
    (low : |height.toRat| ≤ 100) (scaleFinite : scale.isFinite = true)
    (small : |scale.toRat| ≤ 2 ^ 26 + 1) :
    Projected (multiply binary64 (divide binary64
      (subtract binary64 (whole 1) (divide binary64 height kPi)) (whole 2)) scale) := by
  obtain ⟨offsetFinite, offset⟩ := offset_small finite low
  obtain ⟨twoFinite, two⟩ := whole_exact 2 (by decide)
  have rounded := divide_rounded binary64 offsetFinite twoFinite (by
    rw [two]
    norm_num)
  rw [two] at rounded
  obtain ⟨quotientFinite, quotient⟩ := half_small rounded (by
    rw [abs_div, Int.cast_ofNat, abs_of_pos (by norm_num : (0 : ℚ) < 2),
      div_le_iff₀ (by norm_num)]
    linarith)
  exact projected_product quotientFinite scaleFinite quotient small

/-- The projection of any position on the earth is a point of the world, whatever its latitude. -/
theorem worldPixel_projected (accurate : Accurate libm) {latitude longitude : FloatValue}
    (latitudeFinite : latitude.isFinite = true) (longitudeFinite : longitude.isFinite = true)
    (onEarth : |longitude.toRat| ≤ 360) (fine : zoom ≤ 18) :
    Projected (worldPixel libm latitude longitude zoom).x ∧
      Projected (worldPixel libm latitude longitude zoom).y := by
  obtain ⟨scaleFinite, scale⟩ := scale_small fine
  obtain ⟨angleFinite, angle⟩ := radians_small latitudeFinite
  obtain ⟨logFinite, log⟩ := height_log accurate angleFinite angle
  exact ⟨column_projected longitudeFinite onEarth scaleFinite scale,
    row_projected logFinite log scaleFinite scale⟩

/-- The enlargement of a zoom that a map can have. -/
theorem power_bounds (accurate : Accurate libm) {zoom : FloatValue} (finite : zoom.isFinite = true)
    (low : 0 ≤ zoom.toRat) (high : zoom.toRat ≤ 24) (coarse : 13 ≤ tileZoom)
    (fine : tileZoom ≤ 18) :
    (libm.pow (whole 2) (subtract binary64 zoom (whole (tileZoom : Nat)))).isFinite = true ∧
      1 / 2 ^ 20 ≤ (libm.pow (whole 2) (subtract binary64 zoom (whole (tileZoom : Nat)))).toRat ∧
      (libm.pow (whole 2) (subtract binary64 zoom (whole (tileZoom : Nat)))).toRat ≤ 2 ^ 13 := by
  obtain ⟨tileFinite, tile⟩ := whole_exact (tileZoom : Nat) (by rw [Int.natAbs_natCast]; omega)
  have rounded := subtract_rounded binary64 finite tileFinite
  rw [tile, Int.cast_natCast] at rounded
  have coarse : (13 : ℚ) ≤ tileZoom := by exact_mod_cast coarse
  have fine : (tileZoom : ℚ) ≤ 18 := by exact_mod_cast fine
  have size : |zoom.toRat - tileZoom| ≤ 18 := by
    rw [abs_le]
    constructor <;> linarith
  obtain ⟨exponentFinite, close⟩ := rounded.approximates (size.trans (by norm_num))
  generalize subtract binary64 zoom (whole (tileZoom : Nat)) = exponent at exponentFinite close ⊢
  have distance : |exponent.toRat - (zoom.toRat - tileZoom)| ≤ 1 := by linarith
  rw [abs_le] at distance
  obtain ⟨powerFinite, powerClose⟩ := accurate.pow exponent exponentFinite (by
    rw [abs_le]
    constructor <;> linarith)
  have least : (-19 : ℝ) ≤ exponent.toRat :=
    (real_le (a := -19) (by norm_num) rfl).2 (by linarith)
  have most : (exponent.toRat : ℝ) ≤ 12 :=
    (real_le (b := 12) rfl (by norm_num)).2 (by linarith)
  have below : (2 : ℝ) ^ (exponent.toRat : ℝ) ≤ 2 ^ 12 := by
    have powers := Real.rpow_le_rpow_of_exponent_le (by norm_num : (1 : ℝ) ≤ 2) most
    exact powers.trans_eq (by norm_num [← Real.rpow_natCast])
  have above : 1 / 2 ^ 19 ≤ (2 : ℝ) ^ (exponent.toRat : ℝ) := by
    have powers := Real.rpow_le_rpow_of_exponent_le (by norm_num : (1 : ℝ) ≤ 2) least
    exact le_trans (by rw [Real.rpow_neg (by norm_num)]; norm_num [← Real.rpow_natCast]) powers
  rw [abs_le] at powerClose
  refine ⟨powerFinite, ?_, ?_⟩
  · exact (real_le (x := 1 / 2 ^ 20) (by norm_num) rfl).1 (by linarith)
  · exact (real_le (y := 2 ^ 13) rfl (by norm_num)).1 (by linarith)

end Glide.ProjectionBounds
