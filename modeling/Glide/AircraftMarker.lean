import Glide.ProjectionBounds

/-! The marker of the aircraft: the map layer of the overlay draws it in the middle of the map, the
minimap where its position is projected to. -/
namespace Glide.AircraftMarker
open Library BinaryFloat GpuMapLines MapProjection PngImages ProjectionBounds

/-- The mathematical library with its functions of type `float`. -/
structure SingleLibm extends Libm where
  cosf : FloatValue → FloatValue
  sinf : FloatValue → FloatValue

/-! ### The map layer of the overlay -/

structure RenderPoint where
  x : FloatValue
  y : FloatValue
  deriving DecidableEq

/-- `0.5F`. -/
def halfSingle : FloatValue := roundRatio binary32 false 1 2

/-- The zoom of the tiles that are shown, by which tiles there are at the position. -/
def atlasZoom (libm : Libm) (hasTile : Nat → Bool) (state : GpuMapState) : Nat :=
  probeZoom hasTile (firstZoom libm state)

/-- The middle of the map, which the marker is drawn around. -/
def aircraft (state : GpuMapState) : RenderPoint where
  x := add binary32 state.x (multiply binary32 state.width halfSingle)
  y := add binary32 state.y (multiply binary32 state.height halfSingle)

/-- How far from the middle a position is shown. -/
def displacement (libm : Libm) (state : GpuMapState) (zoom : Nat)
    (latitude longitude : FloatValue) : RenderPoint :=
  let view := viewport libm state zoom
  let point := worldPixel libm latitude longitude zoom
  { x := convert binary32 (multiply binary64 (subtract binary64 point.x view.center.x) view.scale)
    y := convert binary32 (multiply binary64 (subtract binary64 point.y view.center.y) view.scale) }

/-- `screen_point`, which the trail and the home position are drawn at. -/
def screenPoint (libm : Libm) (state : GpuMapState) (zoom : Nat) (latitude longitude : FloatValue) :
    RenderPoint :=
  let moved := displacement libm state zoom latitude longitude
  { x := add binary32 (add binary32 state.x (multiply binary32 state.width halfSingle)) moved.x
    y := add binary32 (add binary32 state.y (multiply binary32 state.height halfSingle)) moved.y }

/-! ### The minimap -/

/-- The rectangular minimap, which is not turned with the aircraft. -/
structure Minimap where
  width : Int
  height : Int
  zoomLevel : FloatValue
  panX : FloatValue
  panY : FloatValue
  latitude : FloatValue
  longitude : FloatValue

def webMercatorPixel (libm : Libm) (latitude longitude : FloatValue) (zoom : Nat) : WorldPixel :=
  let scale := multiply binary64 (whole kTileSize) (whole (2 ^ zoom))
  let radians := divide binary64
    (multiply binary64 (clamp latitude kMaxLatitude.opposite kMaxLatitude) kPi) (whole 180)
  let height := libm.log
    (add binary64 (libm.tan radians) (divide binary64 (whole 1) (libm.cos radians)))
  { x := multiply binary64 (divide binary64 (add binary64 longitude (whole 180)) (whole 360)) scale
    y := multiply binary64
      (divide binary64 (subtract binary64 (whole 1) (divide binary64 height kPi)) (whole 2)) scale }

def Minimap.tileZoom (libm : Libm) (hasTile : Nat → Bool) (minimap : Minimap) : Nat :=
  probeZoom hasTile (max 13 (min 18 (libm.floorInt minimap.zoomLevel))).toNat

/-- `static_cast<int>(std::lround(value))`. -/
def nearestPixel (libm : Libm) (value : FloatValue) : Int := libm.toInt value value.lround

/-- `to_screen`. The map has a heading of zero. -/
def Minimap.toScreen (libm : SingleLibm) (hasTile : Nat → Bool) (minimap : Minimap)
    (latitude longitude : FloatValue) : Int × Int :=
  let tileZoom := minimap.tileZoom libm.toLibm hasTile
  let zoomScale := libm.pow (whole 2) (subtract binary64 minimap.zoomLevel (whole tileZoom))
  let own := webMercatorPixel libm.toLibm minimap.latitude minimap.longitude tileZoom
  let centerX := subtract binary64 own.x (divide binary64 minimap.panX zoomScale)
  let centerY := subtract binary64 own.y (divide binary64 minimap.panY zoomScale)
  let heading := multiply binary32 (ofInt binary32 0)
    (convert binary32 (divide binary64 kPi (whole 180)))
  let cosHeading := libm.cosf heading
  let sinHeading := libm.sinf heading
  let world := webMercatorPixel libm.toLibm latitude longitude tileZoom
  let worldDx := multiply binary64 (subtract binary64 world.x centerX) zoomScale
  let worldDy := multiply binary64 (subtract binary64 world.y centerY) zoomScale
  (nearestPixel libm.toLibm (add binary64
      (add binary64 (divide binary64 (whole minimap.width) (whole 2))
        (multiply binary64 worldDx cosHeading)) (multiply binary64 worldDy sinHeading)),
    nearestPixel libm.toLibm (add binary64
      (subtract binary64 (divide binary64 (whole minimap.height) (whole 2))
        (multiply binary64 worldDx sinHeading)) (multiply binary64 worldDy cosHeading)))

/-- Where the minimap draws the aircraft. -/
def Minimap.aircraft (libm : SingleLibm) (hasTile : Nat → Bool) (minimap : Minimap) : Int × Int :=
  minimap.toScreen libm hasTile minimap.latitude minimap.longitude

/-- The pixel in the middle of the minimap. -/
def Minimap.middle (libm : SingleLibm) (minimap : Minimap) : Int × Int :=
  (nearestPixel libm.toLibm (divide binary64 (whole minimap.width) (whole 2)),
    nearestPixel libm.toLibm (divide binary64 (whole minimap.height) (whole 2)))

/-! ### The place of the marker -/

/-- Finite numbers of the same value. -/
def SameNumber (first second : FloatValue) : Prop :=
  first.isFinite = true ∧ second.isFinite = true ∧ first.toRat = second.toRat

/-- The marker of the map layer is where the own position is projected to, also before the sum with
the place of the map is rounded, and the minimap has it in its middle as well. -/
structure MarkerProjected (libm : SingleLibm) (state : GpuMapState) (minimap : Minimap)
    (layerTiles minimapTiles : Nat → Bool) : Prop where
  x : SameNumber (aircraft state).x (screenPoint libm.toLibm state
    (atlasZoom libm.toLibm layerTiles state) state.latitude state.longitude).x
  y : SameNumber (aircraft state).y (screenPoint libm.toLibm state
    (atlasZoom libm.toLibm layerTiles state) state.latitude state.longitude).y
  unmovedX : (displacement libm.toLibm state (atlasZoom libm.toLibm layerTiles state)
    state.latitude state.longitude).x.isZero = true
  unmovedY : (displacement libm.toLibm state (atlasZoom libm.toLibm layerTiles state)
    state.latitude state.longitude).y.isZero = true
  inMinimap : minimap.aircraft libm minimapTiles = minimap.middle libm

/-- A number that was a pixel. -/
def IsPixel (value : FloatValue) : Prop := value.isFinite = true ∧ |value.toRat| ≤ 2 ^ 31

/-- A position on the earth, and the zoom of a map. -/
structure OnMap (zoom latitude longitude : FloatValue) : Prop where
  zoomFinite : zoom.isFinite = true
  zoomLow : 0 ≤ zoom.toRat
  zoomHigh : zoom.toRat ≤ 24
  latitudeFinite : latitude.isFinite = true
  longitudeFinite : longitude.isFinite = true
  onEarth : |longitude.toRat| ≤ 360

/-- A pan is a number of pixels. -/
def IsPan (value : FloatValue) : Prop :=
  value.isFinite = true ∧ ∃ pixels : Int, value.toRat = pixels

/-- The state is what was sent for the minimap. The text of a pan of many digits is rounded, but it
is zero for no other pan. -/
structure Sent (state : GpuMapState) (minimap : Minimap) : Prop where
  x : IsPixel state.x
  y : IsPixel state.y
  width : IsPixel state.width
  height : IsPixel state.height
  place : OnMap state.zoom state.latitude state.longitude
  panX : IsPan state.panX
  panY : IsPan state.panY
  minimapWidth : minimap.width.natAbs ≤ 2 ^ 31
  minimapHeight : minimap.height.natAbs ≤ 2 ^ 31
  minimapPlace : OnMap minimap.zoomLevel minimap.latitude minimap.longitude
  minimapPanX : minimap.panX.isFinite = true ∧ (minimap.panX.toRat = 0 ↔ state.panX.toRat = 0)
  minimapPanY : minimap.panY.isFinite = true ∧ (minimap.panY.toRat = 0 ↔ state.panY.toRat = 0)

/-! ### A pan moves the map -/

/-- Zero taken from a number of the format leaves it. -/
theorem subtract_zero {format : FloatFormat} {value zero : FloatValue}
    (finite : value.isFinite = true) (stored : Stored format value)
    (ordered : format.minExponent ≤ format.maxExponent) (small : |value.toRat| < limit format)
    (none : zero.isZero = true) : SameNumber (subtract format value zero) value := by
  obtain ⟨zeroFinite, zeroValue⟩ := isZero_iff.1 none
  have rounded := subtract_rounded format finite zeroFinite
  rw [zeroValue, sub_zero] at rounded
  have result := rounded.finite ordered small
  exact ⟨result, finite, rounded.unchanged result stored⟩

theorem add_zero_number {format : FloatFormat} {value zero : FloatValue}
    (finite : value.isFinite = true) (stored : Stored format value)
    (ordered : format.minExponent ≤ format.maxExponent) (small : |value.toRat| < limit format)
    (none : zero.isZero = true) : SameNumber (add format value zero) value := by
  apply subtract_zero finite stored ordered small
  rw [isZero_iff] at none ⊢
  rw [isFinite_opposite, toRat_opposite, none.2, neg_zero]
  exact ⟨none.1, rfl⟩

theorem multiply_zero (format : FloatFormat) {zero value : FloatValue} (none : zero.isZero = true)
    (finite : value.isFinite = true) : (multiply format zero value).isZero = true := by
  obtain ⟨zeroFinite, zeroValue⟩ := isZero_iff.1 none
  have rounded := multiply_rounded format zeroFinite finite
  rw [zeroValue, zero_mul] at rounded
  exact rounded.zero

/-- A point is where the middle of the map is, if there is no pan. -/
theorem unmoved_of_zero {point pan scale : FloatValue} (projected : Projected point)
    (scaleFinite : scale.isFinite = true) (least : 1 / 2 ^ 20 ≤ scale.toRat)
    (panFinite : pan.isFinite = true) (zero : pan.toRat = 0) :
    (multiply binary64 (subtract binary64 point
      (subtract binary64 point (divide binary64 pan scale))) scale).isZero = true := by
  have quotient := divide_rounded binary64 panFinite scaleFinite (by
    intro none
    norm_num [none] at least)
  rw [zero, zero_div] at quotient
  have small : |point.toRat| < limit binary64 :=
    (projected.small.trans_lt (by norm_num)).trans_le double_limit
  obtain ⟨centerFinite, _, same⟩ :=
    subtract_zero projected.finite projected.stored (by decide) small quotient.zero
  have difference := subtract_rounded binary64 projected.finite centerFinite
  rw [same, sub_self] at difference
  exact multiply_zero _ difference.zero scaleFinite

theorem single_slack (exact : ℚ) : slack binary32 exact ≤ |exact| / 2 ^ 20 + 1 / 2 ^ 140 := by
  have size := abs_nonneg exact
  have parts : |exact| / 2 ^ (binary32.fractionBits + 1) ≤ |exact| / 2 ^ 20 := by
    gcongr
    · norm_num
    · decide
  have least : (2 : ℚ) ^ (binary32.minExponent - 1) ≤ 1 / 2 ^ 140 := by
    rw [one_div, ← zpow_natCast, ← zpow_neg]
    exact zpow_le_zpow_right₀ (by norm_num) (by decide)
  exact add_le_add parts least

/-- The steps from a pan to what it moves a point by lose little of it. -/
theorem pan_remains {point pan scale quotient center difference product : ℚ} (large : 1 ≤ |pan|)
    (small : |point| ≤ 2 ^ 32) (least : 1 / 2 ^ 20 ≤ scale) (most : scale ≤ 2 ^ 13)
    (quotientClose : |quotient - pan / scale| ≤ |pan / scale| / 2 ^ 50 + 1 / 2 ^ 200)
    (centerClose : |center - (point - quotient)| ≤ |point - quotient| / 2 ^ 50 + 1 / 2 ^ 200)
    (differenceClose : |difference - (point - center)| ≤ |point - center| / 2 ^ 50 + 1 / 2 ^ 200)
    (productClose : |product - difference * scale| ≤ |difference * scale| / 2 ^ 50 + 1 / 2 ^ 200) :
    1 / 2 ^ 60 ≤ |product| := by
  have positive : 0 < scale := by linarith
  have ratio : 1 / 2 ^ 13 ≤ |pan / scale| := by
    rw [abs_div, abs_of_pos positive, div_le_div_iff₀ (by norm_num) positive]
    linarith
  have first : 1 / 2 ^ 14 ≤ |quotient| := by
    have distance := abs_sub_abs_le_abs_sub (pan / scale) quotient
    rw [abs_sub_comm] at distance
    linarith
  have second : 1 / 2 ^ 15 ≤ |point - center| := by
    have total := abs_sub point quotient
    have split := abs_sub_abs_le_abs_sub quotient (point - center)
    rw [show quotient - (point - center) = center - (point - quotient) by ring] at split
    linarith
  have third : 1 / 2 ^ 16 ≤ |difference| := by
    have distance := abs_sub_abs_le_abs_sub (point - center) difference
    rw [abs_sub_comm (point - center) difference] at distance
    linarith
  have fourth : 1 / 2 ^ 36 ≤ |difference * scale| := by
    rw [abs_mul, abs_of_pos positive]
    calc (1 : ℚ) / 2 ^ 36 = 1 / 2 ^ 16 * (1 / 2 ^ 20) := by norm_num
      _ ≤ |difference| * scale := by gcongr
  have distance := abs_sub_abs_le_abs_sub (difference * scale) product
  rw [abs_sub_comm] at distance
  linarith

/-- A pan of a pixel or more moves every point. -/
theorem zero_of_unmoved {point pan scale : FloatValue} (projected : Projected point)
    (scaleFinite : scale.isFinite = true) (least : 1 / 2 ^ 20 ≤ scale.toRat)
    (most : scale.toRat ≤ 2 ^ 13) (isPan : IsPan pan)
    (unmoved : (convert binary32 (multiply binary64 (subtract binary64 point
      (subtract binary64 point (divide binary64 pan scale))) scale)).isZero = true) :
    pan.toRat = 0 := by
  obtain ⟨panFinite, pixels, value⟩ := isPan
  by_contra nonzero
  have large : 1 ≤ |pan.toRat| := by
    rw [value] at nonzero ⊢
    have integer : pixels ≠ 0 := by exact_mod_cast nonzero
    exact_mod_cast Int.one_le_abs integer
  obtain ⟨finite, zero⟩ := isZero_iff.1 unmoved
  have productFinite := convert_operand finite
  obtain ⟨differenceFinite, _⟩ := multiply_operands productFinite
  obtain ⟨_, centerFinite⟩ := subtract_operands differenceFinite
  obtain ⟨_, quotientFinite⟩ := subtract_operands centerFinite
  have quotient := (divide_rounded binary64 panFinite scaleFinite (by
    intro none
    norm_num [none] at least)).close quotientFinite
  have center := (subtract_rounded _ projected.finite quotientFinite).close centerFinite
  have difference := (subtract_rounded _ projected.finite centerFinite).close differenceFinite
  have product := (multiply_rounded _ differenceFinite scaleFinite).close productFinite
  have remains := pan_remains large projected.small least most (quotient.trans (double_slack _))
    (center.trans (double_slack _)) (difference.trans (double_slack _))
    (product.trans (double_slack _))
  have single := ((convert_rounded _ productFinite).close finite).trans (single_slack _)
  rw [zero, zero_sub, abs_neg] at single
  linarith

/-! ### The place of the marker -/

/-- The functions of type `float` are only used at the heading of zero. -/
structure AccurateSingle (libm : SingleLibm) : Prop extends Accurate libm.toLibm where
  cosf : ∀ angle, angle.isZero = true → SameNumber (libm.cosf angle) (whole 1)
  sinf : ∀ angle, angle.isZero = true → (libm.sinf angle).isZero = true

theorem single_limit : (2 : ℚ) ^ 100 ≤ limit binary32 := by
  have power : (2 : ℚ) ^ binary32.maxExponent = 2 ^ 104 := by
    rw [show binary32.maxExponent = ((104 : Nat) : Int) by decide, zpow_natCast]
  rw [limit, power]
  norm_num [binary32]

theorem half_single : halfSingle.isFinite = true ∧ halfSingle.toRat = 1 / 2 := by
  have value : halfSingle = .finite false 8388608 (-24) := by decide +kernel
  rw [value]
  refine ⟨rfl, ?_⟩
  norm_num [sign]

/-- A displacement of zero leaves the middle where it is. -/
theorem own_point {start length moved : FloatValue} (left : IsPixel start) (side : IsPixel length)
    (unmoved : moved.isZero = true) :
    SameNumber (add binary32 start (multiply binary32 length halfSingle))
      (add binary32 (add binary32 start (multiply binary32 length halfSingle)) moved) := by
  obtain ⟨halfFinite, half⟩ := half_single
  have product := multiply_rounded binary32 side.1 halfFinite
  rw [half] at product
  have productSmall : |length.toRat * (1 / 2)| ≤ 2 ^ 31 := by
    rw [abs_mul]
    norm_num
    linarith [side.2]
  have productFinite := product.finite (by decide)
    ((productSmall.trans_lt (by norm_num)).trans_le single_limit)
  have productClose := (product.close productFinite).trans (single_slack _)
  have productSize : |(multiply binary32 length halfSingle).toRat| ≤ 2 ^ 32 := by
    have distance := abs_sub_abs_le_abs_sub (multiply binary32 length halfSingle).toRat
      (length.toRat * (1 / 2))
    linarith
  have sum := add_rounded binary32 left.1 productFinite
  have sumSmall : |start.toRat + (multiply binary32 length halfSingle).toRat| ≤ 2 ^ 33 := by
    have total := abs_add_le start.toRat (multiply binary32 length halfSingle).toRat
    linarith [left.2]
  have sumFinite := sum.finite (by decide)
    ((sumSmall.trans_lt (by norm_num)).trans_le single_limit)
  have sumClose := (sum.close sumFinite).trans (single_slack _)
  have sumSize : |(add binary32 start (multiply binary32 length halfSingle)).toRat| ≤ 2 ^ 34 := by
    have distance := abs_sub_abs_le_abs_sub
      (add binary32 start (multiply binary32 length halfSingle)).toRat
      (start.toRat + (multiply binary32 length halfSingle).toRat)
    linarith
  obtain ⟨movedFinite, _, same⟩ := add_zero_number sumFinite (sum.stored sumFinite) (by decide)
    ((sumSize.trans_lt (by norm_num)).trans_le single_limit) unmoved
  exact ⟨sumFinite, movedFinite, same.symm⟩

/-- Zero is added to a coordinate, or taken from it. -/
theorem add_zero_projected {value zero : FloatValue} (projected : Projected value)
    (none : zero.isZero = true) : Projected (add binary64 value zero) ∧
      SameNumber (add binary64 value zero) value := by
  have small := (projected.small.trans_lt (by norm_num)).trans_le double_limit
  have same := add_zero_number projected.finite projected.stored (by decide) small none
  have rounded := add_rounded binary64 projected.finite (isZero_iff.1 none).1
  exact ⟨⟨same.1, rounded.stored same.1, by rw [same.2.2]; exact projected.small⟩, same⟩

theorem subtract_zero_projected {value zero : FloatValue} (projected : Projected value)
    (none : zero.isZero = true) : Projected (subtract binary64 value zero) ∧
      SameNumber (subtract binary64 value zero) value := by
  have small := (projected.small.trans_lt (by norm_num)).trans_le double_limit
  have same := subtract_zero projected.finite projected.stored (by decide) small none
  have rounded := subtract_rounded binary64 projected.finite (isZero_iff.1 none).1
  exact ⟨⟨same.1, rounded.stored same.1, by rw [same.2.2]; exact projected.small⟩, same⟩

/-- Half of the size of a minimap. -/
theorem half_projected {size : Int} (small : size.natAbs ≤ 2 ^ 31) :
    Projected (divide binary64 (whole size) (whole 2)) ∧
      |(divide binary64 (whole size) (whole 2)).toRat| ≤ 2 ^ 30 + 1 := by
  obtain ⟨sizeFinite, value⟩ := whole_exact size (small.trans (by norm_num))
  obtain ⟨twoFinite, two⟩ := whole_exact 2 (by decide)
  have rounded := divide_rounded binary64 sizeFinite twoFinite (by
    rw [two]
    norm_num)
  rw [value, two] at rounded
  have half : |(size : ℚ) / ((2 : Int) : ℚ)| ≤ 2 ^ 30 := by
    have cast : |(size : ℚ)| ≤ 2 ^ 31 := by
      rw [← Int.cast_abs, ← Nat.cast_natAbs]
      exact_mod_cast small
    rw [abs_div, Int.cast_ofNat, abs_of_pos (by norm_num : (0 : ℚ) < 2), div_le_iff₀ (by norm_num)]
    linarith
  exact ⟨projected_of_rounded rounded (half.trans (by norm_num)),
    (rounded.approximates (half.trans (by norm_num))).bounded half (by norm_num)⟩

/-- A pixel is told by the exact value. -/
theorem nearestPixel_same (libm : Libm) {first second : FloatValue} (same : SameNumber first second)
    (small : |second.toRat| ≤ 2 ^ 30 + 1) : nearestPixel libm first = nearestPixel libm second := by
  obtain ⟨firstFinite, secondFinite, value⟩ := same
  unfold nearestPixel
  rw [lround_eq firstFinite, lround_eq secondFinite, value]
  rw [abs_le] at small
  generalize number : (if second.toRat < 0 then -⌊1 / 2 - second.toRat⌋
    else ⌊second.toRat + 1 / 2⌋) = pixel
  have inside : -2 ^ 31 ≤ pixel ∧ pixel < 2 ^ 31 := by
    have low : (-2 ^ 31 : ℚ) ≤ pixel ∧ (pixel : ℚ) < 2 ^ 31 := by
      rw [← number]
      split
      · have floor := Int.floor_le (1 / 2 - second.toRat)
        have above := Int.lt_floor_add_one (1 / 2 - second.toRat)
        push_cast
        constructor <;> linarith
      · have floor := Int.floor_le (second.toRat + 1 / 2)
        have above := Int.lt_floor_add_one (second.toRat + 1 / 2)
        constructor <;> linarith
    exact_mod_cast low
  exact (if_pos inside).trans (if_pos inside).symm

variable {libm : SingleLibm}

theorem webMercatorPixel_projected (accurate : Accurate libm.toLibm)
    {zoom latitude longitude : FloatValue} (place : OnMap zoom latitude longitude) (fine : tileZoom ≤ 18) :
    Projected (webMercatorPixel libm.toLibm latitude longitude tileZoom).x ∧
      Projected (webMercatorPixel libm.toLibm latitude longitude tileZoom).y := by
  obtain ⟨scaleFinite, scale⟩ := scale_small fine
  obtain ⟨angleFinite, angle⟩ := radians_small place.latitudeFinite
  obtain ⟨logFinite, log⟩ := height_log accurate angleFinite angle
  exact ⟨column_projected place.longitudeFinite place.onEarth scaleFinite scale,
    divided_row_projected logFinite log scaleFinite scale⟩

theorem tileZoom_bounds (libm : Libm) (hasTile : Nat → Bool) (minimap : Minimap) :
    13 ≤ minimap.tileZoom libm hasTile ∧ minimap.tileZoom libm hasTile ≤ 18 := by
  unfold Minimap.tileZoom
  have tried := @probeZoom_bounds (max 13 (min 18 (libm.floorInt minimap.zoomLevel))).toNat hasTile
    (by omega)
  exact ⟨tried.1, tried.2.trans (by omega)⟩

theorem atlasZoom_bounds (libm : Libm) (hasTile : Nat → Bool) (state : GpuMapState) :
    13 ≤ atlasZoom libm hasTile state ∧ atlasZoom libm hasTile state ≤ 18 := by
  obtain ⟨first, last⟩ := firstZoom_bounds libm state
  have tried := probeZoom_bounds hasTile first
  exact ⟨tried.1, tried.2.trans last⟩

/-- Without a pan, the minimap has the aircraft in its middle. -/
theorem minimap_middle (accurate : AccurateSingle libm) (hasTile : Nat → Bool) {minimap : Minimap}
    (place : OnMap minimap.zoomLevel minimap.latitude minimap.longitude)
    (width : minimap.width.natAbs ≤ 2 ^ 31) (height : minimap.height.natAbs ≤ 2 ^ 31)
    (panX : minimap.panX.isFinite = true ∧ minimap.panX.toRat = 0)
    (panY : minimap.panY.isFinite = true ∧ minimap.panY.toRat = 0) :
    minimap.aircraft libm hasTile = minimap.middle libm := by
  obtain ⟨coarse, fine⟩ := tileZoom_bounds libm.toLibm hasTile minimap
  obtain ⟨projectedX, projectedY⟩ :=
    webMercatorPixel_projected accurate.toAccurate place fine
  obtain ⟨scaleFinite, least, _⟩ :=
    power_bounds accurate.toAccurate place.zoomFinite place.zoomLow place.zoomHigh coarse fine
  have unmovedX := unmoved_of_zero projectedX scaleFinite least panX.1 panX.2
  have unmovedY := unmoved_of_zero projectedY scaleFinite least panY.1 panY.2
  have heading : (multiply binary32 (ofInt binary32 0)
      (convert binary32 (divide binary64 kPi (whole 180)))).isZero = true := by decide +kernel
  obtain ⟨cosFinite, _⟩ := accurate.cosf _ heading
  obtain ⟨sinFinite, _⟩ := isZero_iff.1 (accurate.sinf _ heading)
  obtain ⟨halfWidth, widthSmall⟩ := half_projected width
  obtain ⟨halfHeight, heightSmall⟩ := half_projected height
  unfold Minimap.aircraft Minimap.toScreen Minimap.middle
  refine Prod.ext ?_ ?_
  · obtain ⟨innerProjected, inner⟩ :=
      add_zero_projected halfWidth (multiply_zero binary64 unmovedX cosFinite)
    obtain ⟨_, outer⟩ :=
      add_zero_projected innerProjected (multiply_zero binary64 unmovedY sinFinite)
    exact nearestPixel_same libm.toLibm ⟨outer.1, inner.2.1, outer.2.2.trans inner.2.2⟩ widthSmall
  · obtain ⟨innerProjected, inner⟩ :=
      subtract_zero_projected halfHeight (multiply_zero binary64 unmovedX sinFinite)
    obtain ⟨_, outer⟩ :=
      add_zero_projected innerProjected (multiply_zero binary64 unmovedY cosFinite)
    exact nearestPixel_same libm.toLibm ⟨outer.1, inner.2.1, outer.2.2.trans inner.2.2⟩ heightSmall

/-- The displacement of the own position is zero in a direction exactly if the map has no pan in
it. -/
theorem displacement_zero_iff (accurate : Accurate libm.toLibm) {state : GpuMapState}
    (place : OnMap state.zoom state.latitude state.longitude) (panX : IsPan state.panX)
    (panY : IsPan state.panY) (coarse : 13 ≤ zoom) (fine : zoom ≤ 18) :
    ((displacement libm.toLibm state zoom state.latitude state.longitude).x.isZero = true ↔
        state.panX.toRat = 0) ∧
      ((displacement libm.toLibm state zoom state.latitude state.longitude).y.isZero = true ↔
        state.panY.toRat = 0) := by
  obtain ⟨projectedX, projectedY⟩ := worldPixel_projected accurate place.latitudeFinite
    place.longitudeFinite place.onEarth fine
  obtain ⟨scaleFinite, least, most⟩ :=
    power_bounds accurate place.zoomFinite place.zoomLow place.zoomHigh coarse fine
  have converted {product : FloatValue} (zero : product.isZero = true) :
      (convert binary32 product).isZero = true := by
    obtain ⟨finite, value⟩ := isZero_iff.1 zero
    have rounded := convert_rounded binary32 finite
    rw [value] at rounded
    exact rounded.zero
  exact ⟨⟨zero_of_unmoved projectedX scaleFinite least most panX,
      fun zero => converted (unmoved_of_zero projectedX scaleFinite least panX.1 zero)⟩,
    ⟨zero_of_unmoved projectedY scaleFinite least most panY,
      fun zero => converted (unmoved_of_zero projectedY scaleFinite least panY.1 zero)⟩⟩

/-- For any position, zoom and pan that the interface sends and any tiles that there are, the marker
is where the own position is projected to exactly if the map has no pan. -/
theorem marker_projected_iff (libm : SingleLibm) (accurate : AccurateSingle libm)
    (state : GpuMapState) (minimap : Minimap) (sent : Sent state minimap)
    (layerTiles minimapTiles : Nat → Bool) :
    MarkerProjected libm state minimap layerTiles minimapTiles ↔
      state.panX.toRat = 0 ∧ state.panY.toRat = 0 := by
  obtain ⟨coarse, fine⟩ := atlasZoom_bounds libm.toLibm layerTiles state
  obtain ⟨unmovedX, unmovedY⟩ :=
    displacement_zero_iff accurate.toAccurate sent.place sent.panX sent.panY coarse fine
  constructor
  · intro marker
    exact ⟨unmovedX.1 marker.unmovedX, unmovedY.1 marker.unmovedY⟩
  · rintro ⟨zeroX, zeroY⟩
    exact {
      x := own_point sent.x sent.width (unmovedX.2 zeroX)
      y := own_point sent.y sent.height (unmovedY.2 zeroY)
      unmovedX := unmovedX.2 zeroX
      unmovedY := unmovedY.2 zeroY
      inMinimap := minimap_middle accurate minimapTiles sent.minimapPlace sent.minimapWidth
        sent.minimapHeight ⟨sent.minimapPanX.1, sent.minimapPanX.2.2 zeroX⟩
        ⟨sent.minimapPanY.1, sent.minimapPanY.2.2 zeroY⟩ }

/-! ### A map with a pan and one without -/

/-- A real number, rounded towards zero after sixty bits. -/
noncomputable def cut (number : ℝ) : FloatValue :=
  .finite (number < 0) ⌊|number| * 2 ^ 60⌋₊ (-60)

/-- The real functions, as far as sixty bits go. -/
noncomputable def precise : SingleLibm where
  tan := fun angle => cut (Real.tan angle.toRat)
  cos := fun angle => cut (Real.cos angle.toRat)
  log := fun number => cut (Real.log number.toRat)
  pow := fun base exponent => cut ((base.toRat : ℝ) ^ (exponent.toRat : ℝ))
  outside := fun _ => -2 ^ 31
  cosf := fun _ => whole 1
  sinf := fun angle => angle

theorem cut_near (number : ℝ) : Within (1 / 2 ^ 60) number (cut number) := by
  refine ⟨rfl, ?_⟩
  have low := Nat.floor_le (by positivity : (0 : ℝ) ≤ |number| * 2 ^ 60)
  have high := Nat.lt_floor_add_one (|number| * 2 ^ 60)
  unfold cut
  rw [toRat_finite]
  generalize ⌊|number| * 2 ^ 60⌋₊ = mantissa at low high ⊢
  have step : ((2 : ℚ) ^ (-60 : Int)) = 1 / 2 ^ 60 := by norm_num
  rw [step]
  by_cases below : number < 0
  · rw [abs_of_neg below] at low high
    rw [decide_eq_true below, sign, if_pos rfl, abs_le]
    push_cast
    constructor <;> linarith
  · rw [abs_of_nonneg (not_lt.1 below)] at low high
    rw [decide_eq_false below, sign, if_neg Bool.false_ne_true, abs_le]
    push_cast
    constructor <;> linarith

theorem precise_accurate : AccurateSingle precise := by
  have decimals : (1 : ℝ) / 2 ^ 60 ≤ 1 / 2 ^ 20 := by norm_num
  have one := whole_exact 1 (by decide)
  have two := whole_exact 2 (by decide)
  exact {
    tan := fun _ _ _ => ⟨rfl, (cut_near _).2.trans decimals⟩
    cos := fun _ _ _ => ⟨rfl, (cut_near _).2.trans decimals⟩
    log := fun _ _ _ _ => ⟨rfl, (cut_near _).2.trans decimals⟩
    pow := fun exponent _ small => by
      have least : (-32 : ℝ) ≤ exponent.toRat :=
        (real_le (a := -32) (by norm_num) rfl).2 (by linarith [(abs_le.1 small).1])
      have powers := Real.rpow_le_rpow_of_exponent_le (by norm_num : (1 : ℝ) ≤ 2) least
      have smallest : (2 : ℝ) ^ (-32 : ℝ) = 1 / 2 ^ 32 := by
        rw [Real.rpow_neg (by norm_num)]
        norm_num [← Real.rpow_natCast]
      rw [smallest] at powers
      have near := cut_near ((2 : ℝ) ^ (exponent.toRat : ℝ))
      refine ⟨rfl, ?_⟩
      have base : ((whole 2).toRat : ℝ) = 2 := by
        rw [two.2]
        norm_num
      change |((cut (((whole 2).toRat : ℝ) ^ (exponent.toRat : ℝ))).toRat : ℝ) - _| ≤ _
      rw [base]
      have close := near.2
      calc _ ≤ (1 : ℝ) / 2 ^ 60 := close
        _ ≤ 1 / 2 ^ 32 / 2 ^ 20 := by norm_num
        _ ≤ (2 : ℝ) ^ (exponent.toRat : ℝ) / 2 ^ 20 := by gcongr
    cosf := fun _ _ => ⟨one.1, one.1, rfl⟩
    sinf := fun _ zero => zero }

/-- The minimap of a map around the origin. -/
def originMinimap (panX : FloatValue) : Minimap where
  width := 100
  height := 100
  zoomLevel := whole 13
  panX := panX
  panY := whole 0
  latitude := whole 0
  longitude := whole 0

theorem origin_sent (pixels : Int) (small : pixels.natAbs ≤ 2 ^ 53) :
    Sent { originState with panX := whole pixels } (originMinimap (whole pixels)) := by
  have zero := whole_exact 0 (by decide)
  have hundred := whole_exact 100 (by decide)
  have zoom := whole_exact 13 (by decide)
  have pan := whole_exact pixels small
  have noPixel : IsPixel (whole 0) := ⟨zero.1, by norm_num [zero.2]⟩
  have side : IsPixel (whole 100) := ⟨hundred.1, by norm_num [hundred.2]⟩
  have place : OnMap (whole 13) (whole 0) (whole 0) :=
    ⟨zoom.1, by norm_num [zoom.2], by norm_num [zoom.2], zero.1, zero.1, by norm_num [zero.2]⟩
  exact {
    x := noPixel
    y := noPixel
    width := side
    height := side
    place := place
    panX := ⟨pan.1, pixels, pan.2⟩
    panY := ⟨zero.1, 0, zero.2⟩
    minimapWidth := show (100 : Int).natAbs ≤ 2 ^ 31 by decide
    minimapHeight := show (100 : Int).natAbs ≤ 2 ^ 31 by decide
    minimapPlace := place
    minimapPanX := ⟨pan.1, Iff.rfl⟩
    minimapPanY := ⟨zero.1, Iff.rfl⟩ }

/-- Without a pan, the marker is in its place. -/
theorem following_marker_projected :
    MarkerProjected precise { originState with panX := whole 0 } (originMinimap (whole 0))
      (fun _ => false) (fun _ => false) :=
  (marker_projected_iff precise precise_accurate _ _ (origin_sent 0 (by decide)) _ _).2
    ⟨(whole_exact 0 (by decide)).2, (whole_exact 0 (by decide)).2⟩

/-- The functions at the equator, and those of type `float` at a heading of zero. -/
def level : SingleLibm :=
  { equator with cosf := fun _ => whole 1, sinf := fun _ => whole 0 }

/-- A map that was moved by 40 pixels shows the aircraft in its middle. -/
theorem panned_marker_apart :
    Sent { originState with panX := whole 40 } (originMinimap (whole 40)) ∧
      (displacement level.toLibm { originState with panX := whole 40 } 13 (whole 0) (whole 0)).x =
        .finite false 10485760 (-18) ∧
      ¬MarkerProjected level { originState with panX := whole 40 } (originMinimap (whole 40))
        (fun _ => false) (fun _ => false) := by
  have moved : (displacement level.toLibm { originState with panX := whole 40 } 13 (whole 0)
      (whole 0)).x = .finite false 10485760 (-18) := by decide +kernel
  have zoom : atlasZoom level.toLibm (fun _ => false) { originState with panX := whole 40 } =
      13 := by decide +kernel
  refine ⟨origin_sent 40 (by decide), moved, fun marker => ?_⟩
  have unmoved := marker.unmovedX
  rw [zoom] at unmoved
  exact absurd unmoved (by decide +kernel)

end Glide.AircraftMarker
