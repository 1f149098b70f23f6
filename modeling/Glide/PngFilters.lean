import Mathlib.Data.List.MinMax
import Glide.PngImages

/-! Filtering and unfiltering of PNG images. The filters here are those of the standard,
stated for the samples of an image; the decoder of the minimap undoes each of them. -/
namespace Glide.PngFilters
open Library AsciiText CheckedBuffers PngImages

/-- The filters a row can have. -/
inductive Filter where
  | none
  | sub
  | up
  | average
  | paeth
  deriving DecidableEq, Repr

namespace Filter

def number : Filter → UInt8
  | .none => 0
  | .sub => 1
  | .up => 2
  | .average => 3
  | .paeth => 4

/-- The neighbour that is nearest to `left + up - upperLeft`, the first one of several. -/
def nearest (left up upperLeft : UInt8) : UInt8 :=
  ([left, up, upperLeft].argmin fun byte =>
    ((left.toNat + up.toNat - upperLeft.toNat : Int) - byte.toNat).natAbs).getD 0

/-- What is taken away from a byte. -/
def predicted (left up upperLeft : UInt8) : Filter → UInt8
  | .none => 0
  | .sub => left
  | .up => up
  | .average => UInt8.ofNat ((left.toNat + up.toNat) / 2)
  | .paeth => nearest left up upperLeft

end Filter

/-- An image with eight bits a sample, with red, green and blue and perhaps alpha. -/
structure Picture where
  width : Nat
  height : Nat
  transparent : Bool
  sample : (row column channel : Nat) → UInt8
  wide : 0 < width
  high : 0 < height
  small : 4 * width * height < 2 ^ 31

namespace Picture

def channels (picture : Picture) : Nat := if picture.transparent then 4 else 3

def stride (picture : Picture) : Nat := picture.width * picture.channels

/-- The byte at `x` of a row. -/
def byte (picture : Picture) (y x : Nat) : UInt8 :=
  picture.sample y (x / picture.channels) (x % picture.channels)

/-- There is nothing but zeros above the first row and in front of the first pixel. -/
def left (picture : Picture) (y x : Nat) : UInt8 :=
  if picture.channels ≤ x then picture.byte y (x - picture.channels) else 0

def up (picture : Picture) (y x : Nat) : UInt8 :=
  if 0 < y then picture.byte (y - 1) x else 0

def upperLeft (picture : Picture) (y x : Nat) : UInt8 :=
  if 0 < y then picture.left (y - 1) x else 0

def filteredByte (picture : Picture) (filter : Filter) (y x : Nat) : UInt8 :=
  picture.byte y x -
    filter.predicted (picture.left y x) (picture.up y x) (picture.upperLeft y x)

def filteredRow (picture : Picture) (filter : Filter) (y : Nat) : List UInt8 :=
  filter.number :: (List.range picture.stride).map (picture.filteredByte filter y)

/-- The rows one after another, each with the filter chosen for it. -/
def filtered (picture : Picture) (filters : Nat → Filter) : List UInt8 :=
  (List.range picture.height).flatMap fun y => picture.filteredRow (filters y) y

def pixel (picture : Picture) (y x : Nat) : UInt32 :=
  argb (if picture.transparent then picture.sample y x 3 else 255)
    (picture.sample y x 0) (picture.sample y x 1) (picture.sample y x 2)

def image (picture : Picture) : PngImage where
  width := picture.width
  height := picture.height
  pixels := (List.range picture.height).flatMap fun y => (List.range picture.width).map (picture.pixel y)

end Picture
/-! ### What the decoder predicts -/

/-- The first of three that is nearest. -/
theorem first_of_three (distance : UInt8 → Nat) :
    ([left, up, upperLeft].argmin distance).getD 0 =
      if distance left ≤ distance up ∧ distance left ≤ distance upperLeft then left
      else if distance up ≤ distance upperLeft then up else upperLeft := by
  simp only [List.argmin_cons, List.argmin_nil]
  by_cases corner : distance upperLeft < distance up
  · rw [if_pos corner, if_neg (Nat.not_le.2 corner)]
    by_cases nearer : distance upperLeft < distance left
    · rw [if_neg (by omega)]
      simp [nearer]
    · rw [if_pos (by omega)]
      simp [nearer]
  · rw [if_neg corner, if_pos (Nat.not_lt.1 corner)]
    by_cases nearer : distance up < distance left
    · rw [if_neg (by omega)]
      simp [nearer]
    · rw [if_pos (by omega)]
      simp [nearer]

theorem paeth_nearest (left up upperLeft : UInt8) :
    paeth left up upperLeft = Filter.nearest left up upperLeft := by
  rw [Filter.nearest, first_of_three]
  rfl

/-- The decoder predicts what the filter has taken away. -/
theorem predictor_predicted (filter : Filter) (left up upperLeft : UInt8) :
    predictor filter.number left up upperLeft = .ok (filter.predicted left up upperLeft) := by
  cases filter with
  | none => rfl
  | sub => rfl
  | up => rfl
  | average => rfl
  | paeth =>
    rw [Filter.predicted, ← paeth_nearest]
    rfl

/-! ### Sizes -/

namespace Picture
variable {picture : Picture} {filters : Nat → Filter}

theorem channels_cases : picture.channels = 3 ∨ picture.channels = 4 := by
  unfold channels
  split
  · exact .inr rfl
  · exact .inl rfl

theorem stride_positive : 0 < picture.stride := by
  have some := picture.channels_cases
  exact Nat.mul_pos picture.wide (by omega)

theorem total_small : picture.stride * picture.height < 2 ^ 31 := by
  have few : picture.channels ≤ 4 := by
    have some := picture.channels_cases
    omega
  calc picture.stride * picture.height
      ≤ 4 * picture.width * picture.height := by
        rw [stride, Nat.mul_comm picture.width]
        exact Nat.mul_le_mul_right _ (Nat.mul_le_mul_right _ few)
    _ < 2 ^ 31 := picture.small

theorem height_small : picture.height < 2 ^ 31 := by
  have small := picture.total_small
  have less := Nat.le_mul_of_pos_left picture.height picture.stride_positive
  omega

theorem stride_small : picture.stride < 2 ^ 31 := by
  have small := picture.total_small
  have less := Nat.le_mul_of_pos_right picture.stride picture.high
  omega

/-- The places of the rows are inside the buffers. -/
theorem row_places (row : y < picture.height) :
    y * picture.stride + picture.stride ≤ picture.stride * picture.height := by
  rw [← Nat.succ_mul, Nat.mul_comm picture.stride]
  exact Nat.mul_le_mul_right _ row

/-! ### What the decoder reads -/

theorem length_filteredRow (filter : Filter) (y : Nat) :
    (picture.filteredRow filter y).length = picture.stride + 1 := by
  simp [filteredRow]

theorem length_filtered :
    (picture.filtered filters).length = (picture.stride + 1) * picture.height := by
  rw [filtered, length_table fun y => length_filteredRow (filters y) y, Nat.mul_comm]

theorem filter_read (row : y < picture.height) :
    byteAt (picture.filtered filters) (y * (picture.stride + 1)) = .ok (filters y).number := by
  have place := getElem?_table (fun y => picture.length_filteredRow (filters y) y) row
    (Nat.succ_pos picture.stride)
  rw [Nat.add_zero] at place
  rw [byteAt, load, filtered, place]
  rfl

theorem byte_read (row : y < picture.height) (column : x < picture.stride) :
    byteAt (picture.filtered filters) (y * (picture.stride + 1) + 1 + x) =
      .ok (picture.filteredByte (filters y) y x) := by
  have place := getElem?_table (fun y => picture.length_filteredRow (filters y) y) row
    (Nat.succ_lt_succ column)
  rw [byteAt, load, filtered, Nat.add_assoc, Nat.add_comm 1, place]
  simp [filteredRow, column]

/-- The bytes of the image, row after row. -/
def bytes (picture : Picture) (index : Nat) : UInt8 :=
  picture.byte (index / picture.stride) (index % picture.stride)

theorem bytes_row (column : x < picture.stride) :
    picture.bytes (y * picture.stride + x) = picture.byte y x := by
  rw [bytes, Nat.add_comm, Nat.add_mul_div_right _ _ picture.stride_positive,
    Nat.div_eq_of_lt column, Nat.zero_add, Nat.add_mul_mod_self_right, Nat.mod_eq_of_lt column]

/-- The buffer of the image with its first bytes written. -/
def rebuilt (picture : Picture) (count : Nat) : List UInt8 :=
  filledTo (picture.stride * picture.height) count picture.bytes 0

theorem rebuilt_read (inside : y * picture.stride + x < count) (column : x < picture.stride)
    (room : count ≤ picture.stride * picture.height) :
    byteAt (picture.rebuilt count) (y * picture.stride + x) = .ok (picture.byte y x) := by
  rw [byteAt, rebuilt, load_filledTo _ inside room, bytes_row column]

theorem rebuilt_write (row : y < picture.height) (column : x < picture.stride) :
    store Stop.outOfBounds (picture.rebuilt (y * picture.stride + x)) (y * picture.stride + x)
      (picture.byte y x) = .ok (picture.rebuilt (y * picture.stride + (x + 1))) := by
  have places := picture.row_places row
  rw [← bytes_row column, rebuilt, store_filledTo _ (by omega)]
  rfl

/-! ### Undoing the filters -/

/-- What is done once the neighbours of a byte are read. -/
theorem byte_written (row : y < picture.height) (column : x < picture.stride) :
    (do
      let predicted ← predictor (filters y).number (picture.left y x) (picture.up y x)
        (picture.upperLeft y x)
      let value ← byteAt (picture.filtered filters) (y * (picture.stride + 1) + 1 + x)
      store Stop.outOfBounds (picture.rebuilt (y * picture.stride + x))
        (y * picture.stride + x) (value + predicted)) =
    .ok (picture.rebuilt (y * picture.stride + (x + 1))) := by
  rw [predictor_predicted, byte_read row column]
  show store _ _ _ (picture.filteredByte (filters y) y x + _) = _
  rw [filteredByte, UInt8.sub_add_cancel, rebuilt_write row column]

theorem reconstruct_byte (row : y < picture.height) (column : x < picture.stride) :
    reconstructByte picture.channels (picture.filtered filters) (filters y).number
      (y * (picture.stride + 1) + 1) (y * picture.stride)
      (if 0 < y then some ((y - 1) * picture.stride) else none)
      (picture.rebuilt (y * picture.stride + x)) x =
    .ok (picture.rebuilt (y * picture.stride + (x + 1))) := by
  have places := picture.row_places row
  have few := picture.channels_cases
  have written := @byte_written picture filters y x row column
  have before (further : picture.channels ≤ x) :
      byteAt (picture.rebuilt (y * picture.stride + x))
        (y * picture.stride + (x - picture.channels)) =
      .ok (picture.byte y (x - picture.channels)) :=
    rebuilt_read (by omega) (by omega) (by omega)
  have above (below : 0 < y) {other : Nat} (column : other < picture.stride) :
      byteAt (picture.rebuilt (y * picture.stride + x)) ((y - 1) * picture.stride + other) =
        .ok (picture.byte (y - 1) other) := by
    have between : y * picture.stride = (y - 1) * picture.stride + picture.stride := by
      rw [← Nat.succ_mul, Nat.succ_eq_add_one, Nat.sub_add_cancel below]
    exact rebuilt_read (by omega) column (by omega)
  unfold reconstructByte
  unfold left up upperLeft left at written
  by_cases below : 0 < y <;> by_cases further : picture.channels ≤ x
  · simp only [if_pos below, if_pos further] at written ⊢
    rw [before further, above below column, above below (by omega)]
    exact written
  · simp only [if_pos below, if_neg further] at written ⊢
    rw [above below column]
    exact written
  · simp only [if_neg below, if_pos further] at written ⊢
    rw [before further]
    exact written
  · simp only [if_neg below, if_neg further] at written ⊢
    exact written

theorem reconstruct_row (size : SizeType) (row : y < picture.height) :
    reconstructRow size picture.channels picture.stride (picture.filtered filters)
      (picture.rebuilt (y * picture.stride)) y = .ok (picture.rebuilt ((y + 1) * picture.stride)) := by
  have places := picture.row_places row
  have small := picture.total_small
  have high := picture.height_small
  have start : y * (picture.stride + 1) = y * picture.stride + y := Nat.mul_succ _ _
  have higher : (y - 1) * picture.stride ≤ y * picture.stride :=
    Nat.mul_le_mul_right _ (Nat.sub_le _ _)
  unfold reconstructRow
  rw [wrap_small size (by omega), wrap_small size (by omega), wrap_small size (by omega),
    wrap_small size (by omega), filter_read row, Nat.succ_mul]
  exact forRange_states (fun x => picture.rebuilt (y * picture.stride + x)) fun x column =>
    reconstruct_byte row column

/-- The bytes of the image come back, whatever the filters of its rows are. -/
theorem reconstruct_filtered (size : SizeType) (filters : Nat → Filter) :
    reconstruct size picture.channels picture.stride picture.height (picture.filtered filters) =
      .ok (picture.rebuilt (picture.stride * picture.height)) := by
  have small := picture.total_small
  have rows : forRange picture.height (picture.rebuilt (0 * picture.stride))
      (reconstructRow size picture.channels picture.stride (picture.filtered filters)) =
      .ok (picture.rebuilt (picture.height * picture.stride)) :=
    forRange_states (fun y => picture.rebuilt (y * picture.stride)) fun y row =>
      reconstruct_row size row
  have blank : picture.rebuilt 0 = List.replicate (picture.stride * picture.height) 0 :=
    filledTo_zero
  unfold reconstruct
  rw [wrap_small size (by omega), ← blank]
  rw [Nat.zero_mul, Nat.mul_comm picture.height] at rows
  exact rows

/-! ### The pixels -/

theorem pixel_places (row : y < picture.height) (column : x < picture.width) :
    y * picture.width + x < picture.width * picture.height ∧
      (y * picture.width + x) * picture.channels = y * picture.stride + x * picture.channels ∧
      x * picture.channels + picture.channels ≤ picture.stride := by
  refine ⟨?_, by rw [Nat.add_mul, Nat.mul_assoc, stride], ?_⟩
  · have next : (y + 1) * picture.width ≤ picture.height * picture.width :=
      Nat.mul_le_mul_right _ row
    rw [Nat.succ_mul, Nat.mul_comm picture.height] at next
    omega
  · rw [← Nat.succ_mul]
    exact Nat.mul_le_mul_right _ column

theorem byte_sample (inside : channel < picture.channels) :
    picture.byte y (x * picture.channels + channel) = picture.sample y x channel := by
  rw [byte, Nat.add_comm, Nat.add_mul_div_right _ _ (by omega), Nat.div_eq_of_lt inside,
    Nat.zero_add, Nat.add_mul_mod_self_right, Nat.mod_eq_of_lt inside]

theorem sample_read (row : y < picture.height) (column : x < picture.width)
    (inside : channel < picture.channels) :
    byteAt (picture.rebuilt (picture.stride * picture.height))
      ((y * picture.width + x) * picture.channels + channel) = .ok (picture.sample y x channel) := by
  have rows := picture.row_places row
  obtain ⟨_, base, room⟩ := picture.pixel_places row column
  rw [base, Nat.add_assoc, rebuilt_read (by omega) (by omega) (Nat.le_refl _), byte_sample inside]

/-- The pixels of the image, row after row. -/
def pixels (picture : Picture) (index : Nat) : UInt32 :=
  picture.pixel (index / picture.width) (index % picture.width)

/-- The pixels with the first ones written. -/
def painted (picture : Picture) (count : Nat) : List UInt32 :=
  filledTo (picture.width * picture.height) count picture.pixels 0

theorem paint_pixel (size : SizeType) (row : y < picture.height) (column : x < picture.width) :
    imagePixel size picture.width picture.channels
      (picture.rebuilt (picture.stride * picture.height)) y
      (picture.painted (y * picture.width + x)) x =
    .ok (picture.painted (y * picture.width + (x + 1))) := by
  have small := picture.total_small
  have rows := picture.row_places row
  have few := picture.channels_cases
  obtain ⟨place, base, room⟩ := picture.pixel_places row column
  have fits : y * picture.width + x ≤ (y * picture.width + x) * picture.channels :=
    Nat.le_mul_of_pos_right _ (by omega)
  have red := sample_read row column (show 0 < picture.channels by omega)
  have green := sample_read row column (show 1 < picture.channels by omega)
  have blue := sample_read row column (show 2 < picture.channels by omega)
  have here : picture.pixels (y * picture.width + x) = picture.pixel y x := by
    rw [pixels, Nat.add_comm, Nat.add_mul_div_right _ _ picture.wide, Nat.div_eq_of_lt column,
      Nat.zero_add, Nat.add_mul_mod_self_right, Nat.mod_eq_of_lt column]
  have write : store Stop.outOfBounds (picture.painted (y * picture.width + x))
      (y * picture.width + x) (picture.pixels (y * picture.width + x)) =
      .ok (picture.painted (y * picture.width + (x + 1))) := store_filledTo _ place
  rw [here] at write
  rw [Nat.add_zero] at red
  unfold imagePixel
  simp only [wrap_small size (show y * picture.width + x < 2 ^ 32 by omega),
    wrap_small size (show (y * picture.width + x) * picture.channels < 2 ^ 32 by omega),
    wrap_small size (show (y * picture.width + x) * picture.channels + 1 < 2 ^ 32 by omega),
    wrap_small size (show (y * picture.width + x) * picture.channels + 2 < 2 ^ 32 by omega),
    wrap_small size (show (y * picture.width + x) * picture.channels + 3 < 2 ^ 32 by omega)]
  rw [red, green, blue]
  simp only [bind, Except.bind]
  by_cases clear : picture.transparent
  · have four : picture.channels = 4 := if_pos clear
    rw [if_pos four, sample_read row column (show 3 < picture.channels by omega)]
    rw [pixel, if_pos clear] at write
    exact write
  · have three : picture.channels = 3 := if_neg clear
    rw [if_neg (show picture.channels ≠ 4 by omega)]
    rw [pixel, if_neg clear] at write
    exact write

theorem paint_pixels (size : SizeType) :
    (forRange picture.height (List.replicate (size.wrap (picture.width * picture.height)) 0)
      fun pixels y => forRange picture.width pixels (imagePixel size picture.width
        picture.channels (picture.rebuilt (picture.stride * picture.height)) y)) =
    .ok (picture.painted (picture.width * picture.height)) := by
  have fits : picture.width * picture.height ≤ picture.stride * picture.height := by
    have few := picture.channels_cases
    exact Nat.mul_le_mul_right _ (Nat.le_mul_of_pos_right _ (by omega))
  have small := picture.total_small
  have rows : (forRange picture.height (picture.painted (0 * picture.width)) fun pixels y =>
      forRange picture.width pixels (imagePixel size picture.width picture.channels
        (picture.rebuilt (picture.stride * picture.height)) y)) =
      .ok (picture.painted (picture.height * picture.width)) :=
    forRange_states (fun y => picture.painted (y * picture.width)) fun y row => by
      rw [Nat.succ_mul]
      exact forRange_states (fun x => picture.painted (y * picture.width + x)) fun x column =>
        paint_pixel size row column
  have blank : picture.painted 0 = List.replicate (picture.width * picture.height) 0 :=
    filledTo_zero
  rw [wrap_small size (by omega), ← blank]
  rw [Nat.zero_mul, Nat.mul_comm picture.height] at rows
  exact rows

theorem painted_image :
    picture.painted (picture.width * picture.height) = picture.image.pixels := by
  have width (y : Nat) : ((List.range picture.width).map (picture.pixel y)).length =
      picture.width := by simp
  refine List.ext_getElem (by rw [painted, length_filledTo, image, length_table width,
    Nat.mul_comm]) fun index inside other => ?_
  rw [painted, length_filledTo] at inside
  have column : index % picture.width < picture.width := Nat.mod_lt _ picture.wide
  have row : index / picture.width < picture.height := Nat.div_lt_of_lt_mul inside
  have place := getElem?_table width row column
  rw [Nat.mul_comm, Nat.div_add_mod] at place
  apply Option.some.inj
  rw [← List.getElem?_eq_getElem, ← List.getElem?_eq_getElem]
  refine Eq.trans ?_ place.symm
  rw [painted, filledTo_full]
  simp [inside, column, pixels]

/-! ### Files of the image -/

/-- What the chunks of a file of the image hold. -/
def chunks (picture : Picture) (compressed : List UInt8) : Chunks where
  width := picture.width
  height := picture.height
  colorType := if picture.transparent then 6 else 2
  compressed := compressed

theorem chunks_channels : channelsOf (picture.chunks compressed) = picture.channels := by
  unfold channelsOf channels chunks
  cases picture.transparent <;> rfl

theorem bytes_rebuilt (size : SizeType)
    (inflated : uncompress compressed ((picture.stride + 1) * picture.height) =
      some (picture.filtered filters)) :
    imageBytes size uncompress (picture.chunks compressed) =
      .ok (picture.rebuilt (picture.stride * picture.height)) := by
  have small := picture.total_small
  have strideSmall := picture.stride_small
  have heightSmall := picture.height_small
  have product : intProduct picture.width picture.channels = .ok (picture.stride : Int) := by
    rw [intProduct, ← Int.natCast_mul]
    exact if_pos (by unfold stride at strideSmall; omega)
  have length : (picture.stride + 1) * picture.height < 2 ^ 32 := by
    rw [Nat.succ_mul]
    omega
  unfold imageBytes
  rw [chunks_channels, chunks, product]
  show (do
    let filtered ← inflate uncompress compressed
      (size.wrap ((size.wrap picture.stride + 1) * picture.height))
    reconstruct size picture.channels (size.wrap picture.stride) picture.height filtered) = _
  rw [wrap_small size (show picture.stride < 2 ^ 32 by omega), wrap_small size length, inflate,
    inflated]
  dsimp only
  rw [if_pos picture.length_filtered]
  exact picture.reconstruct_filtered size filters

/-- A file with the chunks of the image is decoded to it. -/
theorem decoded (filters : Nat → Filter) (size : SizeType)
    (uncompress : Uncompress) (elsewhere : Elsewhere) (fuel : Nat) (file compressed : List UInt8)
    (signed : signature.isPrefixOf file)
    (walked : imageChunks size elsewhere file fuel 8 {} = .ok (picture.chunks compressed))
    (some : compressed ≠ [])
    (inflated : uncompress compressed ((picture.stride + 1) * picture.height) =
      .some (picture.filtered filters)) :
    decodePngBytes size uncompress elsewhere fuel file = .ok picture.image := by
  have wide := picture.wide
  have high := picture.high
  have bytes := picture.bytes_rebuilt size inflated
  have painted := picture.paint_pixels size
  have accepted : ¬ ((picture.chunks compressed).width ≤ 0 ∨
      (picture.chunks compressed).height ≤ 0 ∨ (picture.chunks compressed).compressed = []) := by
    simp only [Picture.chunks, some, or_false]
    omega
  unfold decodePngBytes
  simp only [bind_ok_iff, rejectIf_ok_iff, exists_const]
  refine ⟨by simpa using signed, _, walked, accepted, _, bytes,
    picture.painted (picture.width * picture.height), ?_, ?_⟩
  · rw [picture.chunks_channels]
    exact painted
  · rw [picture.painted_image]
    rfl

end Picture

/-- A file whose chunks are those of an image, with some data that inflates to its filtered
rows, is decoded to the image. -/
theorem filters_undone (picture : Picture) (filters : Nat → Filter) (size : SizeType)
    (uncompress : Uncompress) (elsewhere : Elsewhere) (fuel : Nat) (file compressed : List UInt8)
    (signed : signature.isPrefixOf file)
    (walked : imageChunks size elsewhere file fuel 8 {} = .ok (picture.chunks compressed))
    (some : compressed ≠ [])
    (inflated : uncompress compressed ((picture.stride + 1) * picture.height) =
      .some (picture.filtered filters)) :
    decodePngBytes size uncompress elsewhere fuel file = .ok picture.image :=
  picture.decoded filters size uncompress elsewhere fuel file compressed signed walked some inflated

/-- Four pixels that all differ. -/
def squares : Picture where
  width := 2
  height := 2
  transparent := true
  sample := fun row column channel => UInt8.ofNat (97 * row + 50 * column + 60 * channel)
  wide := Nat.two_pos
  high := Nat.two_pos
  small := by decide

def squaresFilters (row : Nat) : Filter := if row = 0 then .average else .paeth

/-- A file with the image as data that is not compressed. -/
def squaresFile : List UInt8 :=
  signature ++ [0, 0, 0, 13] ++ ascii "IHDR" ++ [0, 0, 0, 2, 0, 0, 0, 2, 8, 6, 0, 0, 0] ++
    [0, 0, 0, 0] ++ [0, 0, 0, 18] ++ ascii "IDAT" ++ squares.filtered squaresFilters ++
    [0, 0, 0, 0] ++ [0, 0, 0, 0] ++ ascii "IEND" ++ [0, 0, 0, 0]

theorem squares_decoded :
    decodePngBytes .bits32 (fun data _ => some data) nowhere 4 squaresFile = .ok squares.image :=
  filters_undone squares squaresFilters .bits32 _ nowhere 4 squaresFile (squares.filtered squaresFilters)
    (by decide +kernel) (by decide +kernel) (by decide +kernel) rfl

end Glide.PngFilters
