import Mathlib.Order.Bounds.Basic
import Glide.KmsAtomicCompositor
import Glide.Library.MachineArithmetic

/-! Where the picture of a frame stands on the display: as large as its shape allows,
with margins on two sides. -/
namespace Glide.VideoDestination
open Glide.Library.MachineArithmetic
open Glide.DrmCalls (PlaneRect)
open Glide.KmsAtomicCompositor (scaledVideoDestination)

/-- A size in 32-bit numbers. -/
structure Extent where
  width : UInt32
  height : UInt32
deriving DecidableEq

/-- `KmsAtomicCompositor::scaled_video_destination` on a compositor's surface. -/
def compositorDestination (surface : Extent) (width height : UInt32) : Computed PlaneRect := do
  if width = 0 ∨ height = 0 ∨ surface.width = 0 ∨ surface.height = 0 then
    return ⟨0, 0, surface.width.toNat, surface.height.toNat⟩
  let product ← mul 64 surface.height.toNat width.toNat
  let scaledWidthFromHeight := product / height.toNat
  if scaledWidthFromHeight ≤ surface.width.toNat then
    let width ← hold 32 (max 1 scaledWidthFromHeight)
    let margin ← sub 32 surface.width.toNat width
    return ⟨margin / 2, 0, width, surface.height.toNat⟩
  let product ← mul 64 surface.width.toNat height.toNat
  let scaledHeightFromWidth := product / width.toNat
  let scaledHeight ← hold 32 (max 1 scaledHeightFromWidth)
  let margin ← sub 32 surface.height.toNat scaledHeight
  return ⟨0, margin / 2, surface.width.toNat, scaledHeight⟩

/-- The function of that name of the legacy plane. -/
def legacyPlaneDestination (frame display : Extent) : Computed PlaneRect := do
  if frame.width = 0 ∨ frame.height = 0 ∨ display.width = 0 ∨ display.height = 0 then
    return ⟨0, 0, display.width.toNat, display.height.toNat⟩
  let product ← mul 64 display.height.toNat frame.width.toNat
  let scaledWidthFromHeight := product / frame.height.toNat
  if scaledWidthFromHeight ≤ display.width.toNat then
    let width ← hold 32 (max 1 scaledWidthFromHeight)
    let margin ← sub 32 display.width.toNat width
    return ⟨margin / 2, 0, width, display.height.toNat⟩
  let product ← mul 64 display.width.toNat frame.height.toNat
  let scaledHeightFromWidth := product / frame.width.toNat
  let height ← hold 32 (max 1 scaledHeightFromWidth)
  let margin ← sub 32 display.height.toNat height
  return ⟨0, margin / 2, display.width.toNat, height⟩

/-- The size is centred in the whole: the margins differ by one at most. -/
def Centred (offset size whole : Nat) : Prop :=
  offset + size ≤ whole ∧ offset ≤ whole - (offset + size) ∧
    whole - (offset + size) ≤ offset + 1

/-- The size is the largest number that is not above the quotient, and at least 1. -/
def Fitted (size dividend divisor : Nat) : Prop :=
  ∃ floor, IsGreatest {number : Nat | number * divisor ≤ dividend} floor ∧ size = max 1 floor

/-- The picture fills the display from edge to edge in one direction and is as large as
the frame's shape allows in the other. -/
structure Letterboxed (frame display : Extent) (picture : PlaneRect) : Prop where
  nonempty : 0 < picture.width ∧ 0 < picture.height
  inside : picture.x + picture.width ≤ display.width.toNat ∧
    picture.y + picture.height ≤ display.height.toNat
  shape :
    (picture.y = 0 ∧ picture.height = display.height.toNat ∧
      Centred picture.x picture.width display.width.toNat ∧
      Fitted picture.width (display.height.toNat * frame.width.toNat) frame.height.toNat) ∨
    (picture.x = 0 ∧ picture.width = display.width.toNat ∧
      Centred picture.y picture.height display.height.toNat ∧
      Fitted picture.height (display.width.toNat * frame.height.toNat) frame.width.toNat)

/-- A picture as wide as the display is not higher than it when one of the display's
height would be too wide. -/
private theorem scaled_height_le {displayWidth displayHeight width height : Nat}
    (wide : displayWidth < displayHeight * width / height) :
    displayWidth * height / width ≤ displayHeight := by
  have positive : 0 < height := by
    rcases Nat.eq_zero_or_pos height with rfl | positive
    · rw [Nat.div_zero] at wide
      omega
    · exact positive
  have product : displayWidth * height < displayHeight * width := by
    calc displayWidth * height < (displayWidth + 1) * height := by
          rw [Nat.succ_mul]
          omega
      _ ≤ displayHeight * width := (Nat.le_div_iff_mul_le positive).1 wide
  exact Nat.div_le_of_le_mul (by rw [Nat.mul_comm width]; exact product.le)

private theorem centred_half (inside : size ≤ whole) : Centred ((whole - size) / 2) size whole := by
  unfold Centred
  omega

private theorem fitted_quotient (positive : 0 < divisor) :
    Fitted (max 1 (dividend / divisor)) dividend divisor := by
  refine ⟨dividend / divisor, ⟨Nat.div_mul_le_self dividend divisor, ?_⟩, rfl⟩
  intro number below
  exact (Nat.le_div_iff_mul_le positive).2 below

/-- Nothing on the way is too large or below zero. -/
theorem legacyPlaneDestination_eq (frame display : Extent) :
    legacyPlaneDestination frame display =
      pure (scaledVideoDestination (display.width.toNat, display.height.toNat)
        frame.width.toNat frame.height.toNat) := by
  have widthHeld := display.width.toNat_lt
  have heightHeld := display.height.toNat_lt
  unfold legacyPlaneDestination scaledVideoDestination
  simp only [← UInt32.toNat_inj, UInt32.toNat_zero]
  by_cases empty : frame.width.toNat = 0 ∨ frame.height.toNat = 0 ∨
      display.width.toNat = 0 ∨ display.height.toNat = 0
  · rw [if_pos empty, if_pos empty]
  rw [if_neg empty, if_neg empty]
  simp only [mul_words, pure_bind]
  by_cases narrow :
      display.height.toNat * frame.width.toNat / frame.height.toNat ≤ display.width.toNat
  · rw [if_pos narrow, if_pos narrow, hold_eq (by omega), pure_bind,
      sub_eq widthHeld (by omega), pure_bind]
  · have short := scaled_height_le (Nat.lt_of_not_le narrow)
    rw [if_neg narrow, if_neg narrow, hold_eq (by omega), pure_bind,
      sub_eq heightHeld (by omega), pure_bind]

/-- The copies compute alike. -/
theorem compositorDestination_eq (frame display : Extent) :
    compositorDestination display frame.width frame.height =
      legacyPlaneDestination frame display := rfl

theorem scaledVideoDestination_letterboxed
    (frameShown : 0 < frame.width.toNat ∧ 0 < frame.height.toNat)
    (displayShown : 0 < display.width.toNat ∧ 0 < display.height.toNat) :
    Letterboxed frame display
      (scaledVideoDestination (display.width.toNat, display.height.toNat)
        frame.width.toNat frame.height.toNat) := by
  unfold scaledVideoDestination
  rw [if_neg (by omega)]
  by_cases narrow :
      display.height.toNat * frame.width.toNat / frame.height.toNat ≤ display.width.toNat
  · simp only [if_pos narrow]
    have inside : max 1 (display.height.toNat * frame.width.toNat / frame.height.toNat) ≤
        display.width.toNat := by omega
    have centred := centred_half inside
    exact {
      nonempty := ⟨Nat.lt_of_succ_le (Nat.le_max_left 1 _), displayShown.2⟩
      inside := ⟨centred.1, (Nat.zero_add _).le⟩
      shape := .inl ⟨rfl, rfl, centred, fitted_quotient frameShown.2⟩ }
  · simp only [if_neg narrow]
    have short := scaled_height_le (Nat.lt_of_not_le narrow)
    have inside : max 1 (display.width.toNat * frame.height.toNat / frame.width.toNat) ≤
        display.height.toNat := by omega
    have centred := centred_half inside
    exact {
      nonempty := ⟨displayShown.1, Nat.lt_of_succ_le (Nat.le_max_left 1 _)⟩
      inside := ⟨(Nat.zero_add _).le, centred.1⟩
      shape := .inr ⟨rfl, rfl, centred, fitted_quotient frameShown.1⟩ }

/-- Both copies put the picture in the same place, the largest of its shape, and compute
it exactly. -/
theorem letterbox_exact (frame display : Extent)
    (frameShown : frame.width ≠ 0 ∧ frame.height ≠ 0)
    (displayShown : display.width ≠ 0 ∧ display.height ≠ 0) :
    ∃ picture, Letterboxed frame display picture ∧
      compositorDestination display frame.width frame.height = pure picture ∧
      legacyPlaneDestination frame display = pure picture := by
  simp only [ne_eq, ← UInt32.toNat_inj, UInt32.toNat_zero, ← Nat.pos_iff_ne_zero]
    at frameShown displayShown
  refine ⟨_, scaledVideoDestination_letterboxed frameShown displayShown, ?_, ?_⟩
  · rw [compositorDestination_eq, legacyPlaneDestination_eq]
  · exact legacyPlaneDestination_eq frame display

theorem letterbox_exact_wide :
    ∃ picture, Letterboxed ⟨1920, 1080⟩ ⟨1280, 1024⟩ picture ∧
      compositorDestination ⟨1280, 1024⟩ 1920 1080 = pure picture ∧
      legacyPlaneDestination ⟨1920, 1080⟩ ⟨1280, 1024⟩ = pure picture :=
  letterbox_exact ⟨1920, 1080⟩ ⟨1280, 1024⟩ (by decide) (by decide)

end Glide.VideoDestination
