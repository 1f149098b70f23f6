import Glide.GpuMapLines
import Glide.Library.FloatArithmetic
import Glide.PngImages

/-! Where a position is on the map, in pixels of the world at a zoom, and which part of it the map
layer of the overlay shows. -/
namespace Glide.MapProjection
open Library BinaryFloat GpuMapLines PngImages

/-- The functions of the mathematical library, and what the conversion of a number to `int` gives
where it does not fit. -/
structure Libm where
  tan : FloatValue → FloatValue
  cos : FloatValue → FloatValue
  log : FloatValue → FloatValue
  pow : FloatValue → FloatValue → FloatValue
  outside : FloatValue → Int

/-- A whole number as a `double`. -/
def whole (number : Int) : FloatValue := ofInt binary64 number

theorem whole_exact (number : Int) (small : number.natAbs ≤ 2 ^ 53) :
    (whole number).isFinite = true ∧ (whole number).toRat = number := double_exact number small

/-- A number that is written with decimals. -/
def decimal (number places : Nat) : FloatValue := roundRatio binary64 false number (10 ^ places)

def kPi : FloatValue := decimal 314159265358979323846 20

def kMaxLatitude : FloatValue := decimal 8505112878 8

/-- `std::clamp`. -/
def clamp (value low high : FloatValue) : FloatValue :=
  if value.less low then low else if high.less value then high else value

structure WorldPixel where
  x : FloatValue
  y : FloatValue
  deriving DecidableEq

def worldPixel (libm : Libm) (latitude longitude : FloatValue) (zoom : Nat) : WorldPixel :=
  let latitude := clamp latitude kMaxLatitude.opposite kMaxLatitude
  let scale := multiply binary64 (whole kTileSize) (whole (2 ^ zoom))
  let radians := divide binary64 (multiply binary64 latitude kPi) (whole 180)
  let height := libm.log
    (add binary64 (libm.tan radians) (divide binary64 (whole 1) (libm.cos radians)))
  { x := multiply binary64 (divide binary64 (add binary64 longitude (whole 180)) (whole 360)) scale
    y := multiply binary64
      (multiply binary64 (subtract binary64 (whole 1) (divide binary64 height kPi)) (decimal 5 1))
      scale }

/-- The conversion of a number to `int`, by its integer. -/
def Libm.toInt (libm : Libm) (value : FloatValue) : Option Int → Int
  | some number => if -2 ^ 31 ≤ number ∧ number < 2 ^ 31 then number else libm.outside value
  | none => libm.outside value

/-- `static_cast<int>(std::floor(value))`. -/
def Libm.floorInt (libm : Libm) (value : FloatValue) : Int := libm.toInt value value.floor

/-- `static_cast<int>(value)`. -/
def Libm.truncInt (libm : Libm) (value : FloatValue) : Int := libm.toInt value value.truncated

/-- What is shown of the world at a zoom: its middle, and how much it is enlarged. -/
structure Viewport where
  scale : FloatValue
  center : WorldPixel

def viewport (libm : Libm) (state : GpuMapState) (zoom : Nat) : Viewport :=
  let scale := libm.pow (whole 2) (subtract binary64 state.zoom (whole zoom))
  let center := worldPixel libm state.latitude state.longitude zoom
  { scale
    center :=
      { x := subtract binary64 center.x (divide binary64 state.panX scale)
        y := subtract binary64 center.y (divide binary64 state.panY scale) } }

/-- The whole zoom that is tried first. -/
def firstZoom (libm : Libm) (state : GpuMapState) : Nat :=
  (max 13 (min 18 (libm.floorInt state.zoom))).toNat

/-- The loop that goes back to a zoom with a tile at the position. -/
def probeZoom (hasTile : Nat → Bool) : Nat → Nat
  | zoom + 1 =>
    if 13 < zoom + 1 ∧ hasTile (zoom + 1) = false then probeZoom hasTile zoom else zoom + 1
  | 0 => 0

theorem firstZoom_bounds (libm : Libm) (state : GpuMapState) :
    13 ≤ firstZoom libm state ∧ firstZoom libm state ≤ 18 := by
  unfold firstZoom
  omega

theorem probeZoom_bounds (hasTile : Nat → Bool) (least : 13 ≤ zoom) :
    13 ≤ probeZoom hasTile zoom ∧ probeZoom hasTile zoom ≤ zoom := by
  induction zoom with
  | zero => omega
  | succ zoom ih =>
    unfold probeZoom
    split
    · rename_i further
      have tried := ih (by omega)
      exact ⟨tried.1, tried.2.trans (Nat.le_succ _)⟩
    · exact ⟨least, le_rfl⟩

theorem decimal_rounded (number places : Nat) :
    Rounded binary64 (number / 10 ^ places) (decimal number places) :=
  ⟨false, number, 10 ^ places, by positivity, rfl, by
    rw [sign, if_neg Bool.false_ne_true, one_mul, Nat.cast_pow, Nat.cast_ofNat]⟩

/-- A number between two others. -/
theorem clamp_bounds {value low high : FloatValue} (finite : value.isFinite = true)
    (lowFinite : low.isFinite = true) (highFinite : high.isFinite = true)
    (ordered : low.toRat ≤ high.toRat) :
    (clamp value low high).isFinite = true ∧ low.toRat ≤ (clamp value low high).toRat ∧
      (clamp value low high).toRat ≤ high.toRat := by
  unfold clamp
  split
  · exact ⟨lowFinite, le_rfl, ordered⟩
  · rename_i notBelow
    rw [less_iff finite lowFinite, not_lt] at notBelow
    split
    · exact ⟨highFinite, ordered, le_rfl⟩
    · rename_i notAbove
      rw [less_iff highFinite finite, not_lt] at notAbove
      exact ⟨finite, notBelow, notAbove⟩

/-- The functions at the equator: of angle zero, of one, and of two to the power of zero. -/
def equator : Libm where
  tan := id
  cos := fun _ => whole 1
  log := fun _ => whole 0
  pow := fun _ _ => whole 1
  outside := fun _ => -2 ^ 31

/-- A map of 100 by 100 pixels around the origin. -/
def originState : GpuMapState where
  visible := true
  x := whole 0
  y := whole 0
  width := whole 100
  height := whole 100
  zoom := whole 13
  panX := whole 0
  panY := whole 0
  latitude := whole 0
  longitude := whole 0
  heading := whole 0
  homeValid := false
  homeLatitude := whole 0
  homeLongitude := whole 0

end Glide.MapProjection
