import Glide.Library.MachineArithmetic

/-! The layout of a decoded picture in its DMABUF memory, inferred from its format and
size where the decoder says nothing about it. -/
namespace Glide.VideoLayouts
open Glide.Library.MachineArithmetic

def fourcc (a b c d : Char) : Nat :=
  a.toNat ||| (b.toNat <<< 8) ||| (c.toNat <<< 16) ||| (d.toNat <<< 24)

def alignUp (value alignment : Nat) : Computed Nat := do
  let past ← add 32 value alignment
  let past ← sub 32 past 1
  mul 32 (past / alignment) alignment

def inferPlaneCount (format : Nat) : Nat :=
  if format = fourcc 'Y' 'U' '1' '2' then 3
  else if format = fourcc 'Y' 'V' '1' '2' then 3
  else if format = fourcc 'N' 'V' '1' '2' then 2
  else if format = fourcc 'N' 'V' '2' '1' then 2
  else if format = fourcc 'X' 'R' '2' '4' then 1
  else 0

/-- The strides and offsets of four planes. -/
structure VideoLayout where
  strides : List Nat
  offsets : List Nat
deriving DecidableEq

/-- The layout of YU12 and YV12: a plane of luma and two of chroma. -/
def planarLayout (width height memoryCount : Nat) : Computed VideoLayout := do
  let yStride ← alignUp width 32
  let uvStride ← alignUp (width / 2) 16
  let ySize ← mul 32 yStride height
  let uvSize ← mul 32 uvStride ((← add 32 height 1) / 2)
  let strides := [yStride, uvStride, uvStride, 0]
  if memoryCount = 1 then return ⟨strides, [0, ySize, ← add 32 ySize uvSize, 0]⟩
  return ⟨strides, [0, 0, 0, 0]⟩

/-- The layout of NV12 and NV21: a plane of luma and one of both chromas. -/
def interleavedLayout (width height memoryCount : Nat) : Computed VideoLayout := do
  let yStride ← alignUp width 32
  let strides := [yStride, yStride, 0, 0]
  if memoryCount = 1 then return ⟨strides, [0, ← mul 32 yStride height, 0, 0]⟩
  return ⟨strides, [0, 0, 0, 0]⟩

def packedLayout (width : Nat) : Computed VideoLayout := do
  return ⟨[← alignUp (← mul 32 width 4) 64, 0, 0, 0], [0, 0, 0, 0]⟩

def inferVideoLayout (format width height memoryCount : Nat) : Computed (Option VideoLayout) :=
  if format = fourcc 'Y' 'U' '1' '2' then some <$> planarLayout width height memoryCount
  else if format = fourcc 'Y' 'V' '1' '2' then some <$> planarLayout width height memoryCount
  else if format = fourcc 'N' 'V' '1' '2' then some <$> interleavedLayout width height memoryCount
  else if format = fourcc 'N' 'V' '2' '1' then some <$> interleavedLayout width height memoryCount
  else if format = fourcc 'X' 'R' '2' '4' then some <$> packedLayout width
  else return none

inductive VideoFormat where
  | yu12
  | yv12
  | nv12
  | nv21
  | xr24
deriving DecidableEq

def VideoFormat.code : VideoFormat → Nat
  | .yu12 => fourcc 'Y' 'U' '1' '2'
  | .yv12 => fourcc 'Y' 'V' '1' '2'
  | .nv12 => fourcc 'N' 'V' '1' '2'
  | .nv21 => fourcc 'N' 'V' '2' '1'
  | .xr24 => fourcc 'X' 'R' '2' '4'

/-- The bytes of a row and the rows of each plane: chroma has half the samples of luma in
both directions, rounded up. -/
def VideoFormat.planes (width height : Nat) : VideoFormat → List (Nat × Nat)
  | .yu12 | .yv12 =>
    [(width, height), ((width + 1) / 2, (height + 1) / 2), ((width + 1) / 2, (height + 1) / 2)]
  | .nv12 | .nv21 => [(width, height), (2 * ((width + 1) / 2), (height + 1) / 2)]
  | .xr24 => [(4 * width, height)]

/-- The byte after the last of a plane. -/
def planeEnd (layout : VideoLayout) (rows : Nat) (plane : Nat) : Nat :=
  layout.offsets.getD plane 0 + layout.strides.getD plane 0 * rows

/-- Every row has room in its stride, and no two planes share a byte. -/
def ValidLayout (planes : List (Nat × Nat)) (layout : VideoLayout) : Prop :=
  (∀ plane < planes.length, (planes.getD plane (0, 0)).1 ≤ layout.strides.getD plane 0) ∧
  ∀ plane < planes.length, ∀ other < planes.length, plane < other →
    planeEnd layout (planes.getD plane (0, 0)).2 plane ≤ layout.offsets.getD other 0 ∨
      planeEnd layout (planes.getD other (0, 0)).2 other ≤ layout.offsets.getD plane 0

/-- As many planes are taken from a picture as its format has. -/
theorem inferPlaneCount_eq (format : VideoFormat) (width height : Nat) :
    inferPlaneCount format.code = (format.planes width height).length := by
  cases format <;> rfl

theorem alignUp_eq (positive : 0 < alignment) (small : value + alignment < 2 ^ 32) :
    alignUp value alignment = pure ((value + alignment - 1) / alignment * alignment) := by
  have below := Nat.div_mul_le_self (value + alignment - 1) alignment
  unfold alignUp
  rw [add_eq small, pure_bind, sub_eq small (by omega), pure_bind, mul_eq (by omega)]

section
variable {width height : Nat}

/-- A plane of so many rows of so many bytes at most is far from 4 GiB. -/
theorem product_small (stride : left ≤ 65536) (rows : right ≤ 16384) :
    left * right ≤ 2 ^ 30 :=
  calc left * right ≤ 65536 * 16384 := Nat.mul_le_mul stride rows
    _ = 2 ^ 30 := by decide

theorem planarLayout_eq (wide : width ≤ 16384) (high : height ≤ 16384) :
    let yStride := (width + 32 - 1) / 32 * 32
    let uvStride := (width / 2 + 16 - 1) / 16 * 16
    planarLayout width height 1 = pure ⟨[yStride, uvStride, uvStride, 0],
      [0, yStride * height, yStride * height + uvStride * ((height + 1) / 2), 0]⟩ := by
  have ySize : (width + 32 - 1) / 32 * 32 * height ≤ 2 ^ 30 := product_small (by omega) high
  have uvSize : (width / 2 + 16 - 1) / 16 * 16 * ((height + 1) / 2) ≤ 2 ^ 30 :=
    product_small (by omega) (by omega)
  intro yStride uvStride
  unfold planarLayout
  rw [alignUp_eq (by decide) (by omega), pure_bind, alignUp_eq (by decide) (by omega), pure_bind,
    mul_eq (by omega), pure_bind, add_eq (by omega), pure_bind, mul_eq (by omega), pure_bind,
    if_pos rfl, add_eq (by omega), pure_bind]

theorem interleavedLayout_eq (wide : width ≤ 16384) (high : height ≤ 16384) :
    let yStride := (width + 32 - 1) / 32 * 32
    interleavedLayout width height 1 =
      pure ⟨[yStride, yStride, 0, 0], [0, yStride * height, 0, 0]⟩ := by
  have ySize : (width + 32 - 1) / 32 * 32 * height ≤ 2 ^ 30 := product_small (by omega) high
  intro yStride
  unfold interleavedLayout
  rw [alignUp_eq (by decide) (by omega), pure_bind, if_pos rfl, mul_eq (by omega), pure_bind]

theorem packedLayout_eq (wide : width ≤ 16384) :
    packedLayout width = pure ⟨[(width * 4 + 64 - 1) / 64 * 64, 0, 0, 0], [0, 0, 0, 0]⟩ := by
  unfold packedLayout
  rw [mul_eq (by omega), pure_bind, alignUp_eq (by decide) (by omega), pure_bind]

/-- The layout of each format, with nothing lost on the way. -/
def layoutOf (width height : Nat) : VideoFormat → VideoLayout
  | .yu12 | .yv12 =>
    let yStride := (width + 32 - 1) / 32 * 32
    let uvStride := (width / 2 + 16 - 1) / 16 * 16
    ⟨[yStride, uvStride, uvStride, 0],
      [0, yStride * height, yStride * height + uvStride * ((height + 1) / 2), 0]⟩
  | .nv12 | .nv21 =>
    let yStride := (width + 32 - 1) / 32 * 32
    ⟨[yStride, yStride, 0, 0], [0, yStride * height, 0, 0]⟩
  | .xr24 => ⟨[(width * 4 + 64 - 1) / 64 * 64, 0, 0, 0], [0, 0, 0, 0]⟩

theorem inferVideoLayout_eq (format : VideoFormat) (wide : width ≤ 16384)
    (high : height ≤ 16384) :
    inferVideoLayout format.code width height 1 = pure (some (layoutOf width height format)) := by
  have planar := congrArg (some <$> ·) (planarLayout_eq wide high)
  have interleaved := congrArg (some <$> ·) (interleavedLayout_eq wide high)
  cases format with
  | yu12 => exact planar
  | yv12 => exact planar
  | nv12 => exact interleaved
  | nv21 => exact interleaved
  | xr24 => exact congrArg (some <$> ·) (packedLayout_eq wide)

/-- Planes that each end before the next one starts share no byte. -/
theorem valid_of_order {planes : List (Nat × Nat)} {layout : VideoLayout}
    (rows : ∀ plane < planes.length,
      (planes.getD plane (0, 0)).1 ≤ layout.strides.getD plane 0)
    (next : ∀ plane, plane + 1 < planes.length →
      planeEnd layout (planes.getD plane (0, 0)).2 plane ≤ layout.offsets.getD (plane + 1) 0) :
    ValidLayout planes layout := by
  refine ⟨rows, fun plane _ other below order => .inl ?_⟩
  induction other with
  | zero => exact absurd order (Nat.not_lt_zero plane)
  | succ other ih =>
    rcases Nat.lt_or_eq_of_le (Nat.le_of_lt_succ order) with earlier | rfl
    · have before := ih (by omega) earlier
      have onward := next other below
      unfold planeEnd at before onward ⊢
      omega
    · exact next plane below

/-- The chroma rows of YU12 and YV12 are given half the width rounded down. -/
theorem planar_valid_iff (width height : Nat) :
    ValidLayout (VideoFormat.planes width height .yu12) (layoutOf width height .yu12) ↔
      width % 32 ≠ 1 := by
  constructor
  · intro valid
    have chroma : (width + 1) / 2 ≤ (width / 2 + 16 - 1) / 16 * 16 :=
      valid.1 1 (Nat.lt_of_sub_eq_succ rfl)
    omega
  · intro aligned
    have luma : width ≤ (width + 32 - 1) / 32 * 32 := by omega
    have chroma : (width + 1) / 2 ≤ (width / 2 + 16 - 1) / 16 * 16 := by omega
    refine valid_of_order (fun plane below => ?_) fun plane below => ?_
    · match plane, below with
      | 0, _ => exact luma
      | 1, _ => exact chroma
      | 2, _ => exact chroma
    · match plane, Nat.lt_of_succ_lt_succ below with
      | 0, _ => exact Nat.le_of_eq (Nat.zero_add _)
      | 1, _ => exact Nat.le_refl _

theorem interleaved_valid (width height : Nat) :
    ValidLayout (VideoFormat.planes width height .nv12) (layoutOf width height .nv12) := by
  refine valid_of_order (fun plane below => ?_) fun plane below => ?_
  · match plane, below with
    | 0, _ => exact show width ≤ (width + 32 - 1) / 32 * 32 by omega
    | 1, _ => exact show 2 * ((width + 1) / 2) ≤ (width + 32 - 1) / 32 * 32 by omega
  · match plane, Nat.lt_of_succ_lt_succ below with
    | 0, _ => exact Nat.le_of_eq (Nat.zero_add _)

theorem packed_valid (width height : Nat) :
    ValidLayout (VideoFormat.planes width height .xr24) (layoutOf width height .xr24) := by
  refine valid_of_order (fun plane below => ?_) fun plane below => ?_
  · match plane, below with
    | 0, _ => exact show 4 * width ≤ (width * 4 + 64 - 1) / 64 * 64 by omega
  · exact absurd (Nat.lt_of_succ_lt_succ below) (Nat.not_lt_zero plane)

end

/-- The layout of a picture in one memory is valid for all the planes that are taken from it, unless
its chroma planes stand apart and its width is 1 more than a multiple of 32. -/
theorem layout_valid_iff (format : VideoFormat) (width height : Nat)
    (wide : 1 ≤ width ∧ width ≤ 16384) (high : 1 ≤ height ∧ height ≤ 16384) :
    (∃ layout, inferVideoLayout format.code width height 1 = pure (some layout) ∧
        inferPlaneCount format.code = (format.planes width height).length ∧
        ValidLayout (format.planes width height) layout) ↔
      (format = .yu12 ∨ format = .yv12 → width % 32 ≠ 1) := by
  have inferred := inferVideoLayout_eq format wide.2 high.2
  have meets : (∃ layout, inferVideoLayout format.code width height 1 = pure (some layout) ∧
        inferPlaneCount format.code = (format.planes width height).length ∧
        ValidLayout (format.planes width height) layout) ↔
      ValidLayout (format.planes width height) (layoutOf width height format) := by
    constructor
    · rintro ⟨layout, computed, _, valid⟩
      have same := congrArg Computed.value (inferred.symm.trans computed)
      rw [value_pure, value_pure, Option.some.injEq] at same
      rwa [same]
    · exact fun valid => ⟨_, inferred, inferPlaneCount_eq format width height, valid⟩
  rw [meets]
  cases format with
  | yu12 =>
    rw [planar_valid_iff]
    exact ⟨fun odd _ => odd, fun odd => odd (.inl rfl)⟩
  | yv12 =>
    exact (planar_valid_iff width height).trans ⟨fun odd _ => odd, fun odd => odd (.inr rfl)⟩
  | nv12 => exact iff_of_true (interleaved_valid width height) (by simp)
  | nv21 => exact iff_of_true (interleaved_valid width height) (by simp)
  | xr24 => exact iff_of_true (packed_valid width height) (by simp)

theorem full_width_layout_valid :
    (∃ layout, inferVideoLayout VideoFormat.yu12.code 1920 1080 1 = pure (some layout) ∧
        inferPlaneCount VideoFormat.yu12.code = (VideoFormat.yu12.planes 1920 1080).length ∧
        ValidLayout (VideoFormat.yu12.planes 1920 1080) layout) ↔
      (VideoFormat.yu12 = .yu12 ∨ VideoFormat.yu12 = .yv12 → 1920 % 32 ≠ 1) :=
  layout_valid_iff .yu12 1920 1080 (by decide) (by decide)

/-- A chroma row of 33 pixels has 17 samples and a stride of 16. -/
theorem narrow_chroma_stride :
    ¬ ∃ layout, inferVideoLayout VideoFormat.yu12.code 33 2 1 = pure (some layout) ∧
      ValidLayout (VideoFormat.yu12.planes 33 2) layout := by
  rintro ⟨layout, computed, valid⟩
  have same : some (layoutOf 33 2 .yu12) = some layout := congrArg Computed.value computed
  cases same
  have chroma : 17 ≤ 16 := valid.1 1 (by decide)
  omega

end Glide.VideoLayouts
