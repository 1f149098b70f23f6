import Mathlib.Algebra.Group.Nat.Defs
import Glide.Library.AsciiText
import Glide.Library.CheckedBuffers

/-! The two decoders of PNG images: one of the map layer of the overlay, which takes tiles only,
and one of the minimap. Both walk the chunks of a file, inflate the image data as one, and undo
the filters row by row. -/
namespace Glide.PngImages
open Library AsciiText CheckedBuffers

/-- The widths of `size_t` that are built for. -/
inductive SizeType where
  | bits32
  | bits64
  deriving DecidableEq, Repr

def SizeType.modulus : SizeType → Nat
  | .bits32 => 2 ^ 32
  | .bits64 => 2 ^ 64

def SizeType.wrap (size : SizeType) (number : Nat) : Nat := number % size.modulus

/-- Why there is no image. -/
inductive Stop where
  /-- The decoder returns false. -/
  | rejected
  | outOfBounds
  /-- A product is too large for `int`. -/
  | overflow
  /-- There were more chunks than the walk was allowed. -/
  | endless
  deriving DecidableEq, Repr

def rejectIf (condition : Prop) [Decidable condition] : Except Stop Unit :=
  if condition then .error .rejected else .ok ()

/-- Inflates some data into a buffer of a given size. -/
abbrev Uncompress := List UInt8 → Nat → Option (List UInt8)

structure Chunks where
  width : Int := 0
  height : Int := 0
  colorType : UInt8 := 0
  compressed : List UInt8 := []
  deriving DecidableEq, Repr

structure PngImage where
  width : Int
  height : Int
  pixels : List UInt32
  deriving DecidableEq, Repr

def signature : List UInt8 := [137, 80, 78, 71, 13, 10, 26, 10]

def byteAt (bytes : List UInt8) (index : Nat) : Except Stop UInt8 := load .outOfBounds bytes index

/-- What reading a file comes to where the file has no byte. -/
abbrev Elsewhere := Nat → Except Stop UInt8

/-- Nothing but the file may be read. -/
def nowhere : Elsewhere := fun _ => .error .outOfBounds

/-- The decoders go on with whatever byte stands behind the file. -/
def fileByte (elsewhere : Elsewhere) (bytes : List UInt8) (index : Nat) : Except Stop UInt8 :=
  match bytes[index]? with
  | some byte => .ok byte
  | none => elsewhere index

theorem fileByte_nowhere (bytes : List UInt8) (index : Nat) :
    fileByte nowhere bytes index = byteAt bytes index := by
  unfold fileByte byteAt load
  cases bytes[index]? with
  | none => rfl
  | some byte => rfl

def readBe32 (size : SizeType) (elsewhere : Elsewhere) (bytes : List UInt8) (offset : Nat) :
    Except Stop UInt32 := do
  let first ← fileByte elsewhere bytes offset
  let second ← fileByte elsewhere bytes (size.wrap (offset + 1))
  let third ← fileByte elsewhere bytes (size.wrap (offset + 2))
  let fourth ← fileByte elsewhere bytes (size.wrap (offset + 3))
  return first.toUInt32 <<< 24 ||| second.toUInt32 <<< 16 ||| third.toUInt32 <<< 8 |||
    fourth.toUInt32

/-- Conversion to `int`. -/
def toInt (number : UInt32) : Int := number.toBitVec.toInt

def intProduct (left right : Int) : Except Stop Int :=
  if left * right < 2 ^ 31 ∧ -2 ^ 31 ≤ left * right then .ok (left * right) else .error .overflow

def channelsOf (chunks : Chunks) : Nat := if chunks.colorType = 6 then 4 else 3

def argb (a r g b : UInt8) : UInt32 :=
  a.toUInt32 <<< 24 ||| r.toUInt32 <<< 16 ||| g.toUInt32 <<< 8 ||| b.toUInt32

/-! ### Filters -/

def paeth (a b c : UInt8) : UInt8 :=
  let p : Int := a.toNat + b.toNat - c.toNat
  let pa := (p - a.toNat).natAbs
  let pb := (p - b.toNat).natAbs
  let pc := (p - c.toNat).natAbs
  if pa ≤ pb ∧ pa ≤ pc then a else if pb ≤ pc then b else c

def predictor (filter left up upperLeft : UInt8) : Except Stop UInt8 :=
  if filter = 1 then .ok left
  else if filter = 2 then .ok up
  else if filter = 3 then .ok (UInt8.ofNat ((left.toNat + up.toNat) / 2))
  else if filter = 4 then .ok (paeth left up upperLeft)
  else if filter ≠ 0 then .error .rejected
  else .ok 0

/-- The byte at `x` of a row. The row before it is there for all but the first one. -/
def reconstructByte (channels : Nat) (filtered : List UInt8) (filter : UInt8) (source row : Nat)
    (previous : Option Nat) (raw : List UInt8) (x : Nat) : Except Stop (List UInt8) := do
  let left ← if channels ≤ x then byteAt raw (row + (x - channels)) else .ok 0
  let up ←
    match previous with
    | some previous => byteAt raw (previous + x)
    | none => .ok 0
  let upperLeft ←
    match previous with
    | some previous => if channels ≤ x then byteAt raw (previous + (x - channels)) else .ok 0
    | none => .ok 0
  let predicted ← predictor filter left up upperLeft
  let value ← byteAt filtered (source + x)
  store .outOfBounds raw (row + x) (value + predicted)

def reconstructRow (size : SizeType) (channels stride : Nat) (filtered raw : List UInt8)
    (y : Nat) : Except Stop (List UInt8) := do
  let filter ← byteAt filtered (size.wrap (y * (stride + 1)))
  let source := size.wrap (y * (stride + 1) + 1)
  let row := size.wrap (y * stride)
  let previous := if 0 < y then some (size.wrap ((y - 1) * stride)) else none
  forRange stride raw (reconstructByte channels filtered filter source row previous)

/-- The bytes of the image, from rows that start with the number of their filter. -/
def reconstruct (size : SizeType) (channels stride height : Nat) (filtered : List UInt8) :
    Except Stop (List UInt8) :=
  forRange height (List.replicate (size.wrap (stride * height)) 0)
    (reconstructRow size channels stride filtered)

/-- What is inflated has to fill its buffer. -/
def inflate (uncompress : Uncompress) (compressed : List UInt8) (length : Nat) :
    Except Stop (List UInt8) :=
  match uncompress compressed length with
  | some filtered => if filtered.length = length then .ok filtered else .error .rejected
  | none => .error .rejected

/-- From the chunks to the bytes of the image. -/
def imageBytes (size : SizeType) (uncompress : Uncompress) (chunks : Chunks) :
    Except Stop (List UInt8) := do
  let stride := size.wrap (← intProduct chunks.width (channelsOf chunks)).toNat
  let height := chunks.height.toNat
  let filtered ← inflate uncompress chunks.compressed (size.wrap ((stride + 1) * height))
  reconstruct size (channelsOf chunks) stride height filtered

/-! ### The map layer of the overlay -/

def kTileSize : Nat := 256

/-- The fields of the header are looked at until one of them is wrong. -/
def tileHeader (size : SizeType) (elsewhere : Elsewhere) (bytes : List UInt8) (offset : Nat)
    (chunks : Chunks) : Except Stop Chunks := do
  let width ← readBe32 size elsewhere bytes offset
  let height ← readBe32 size elsewhere bytes (size.wrap (offset + 4))
  rejectIf ((← fileByte elsewhere bytes (size.wrap (offset + 8))) ≠ 8)
  let colorType ← fileByte elsewhere bytes (size.wrap (offset + 9))
  rejectIf (colorType ≠ 2 ∧ colorType ≠ 6)
  rejectIf ((← fileByte elsewhere bytes (size.wrap (offset + 12))) ≠ 0)
  return { chunks with width := toInt width, height := toInt height, colorType }

/-- The loop over the chunks, as long as it is allowed to go on. -/
def tileChunks (size : SizeType) (elsewhere : Elsewhere) (bytes : List UInt8) :
    Nat → Nat → Chunks → Except Stop Chunks
  | 0, _, _ => .error .endless
  | fuel + 1, offset, chunks =>
    if size.wrap (offset + 12) ≤ bytes.length then do
      let length ← readBe32 size elsewhere bytes offset
      let offset := size.wrap (offset + 4)
      rejectIf (bytes.length < size.wrap (offset + 8 + length.toNat))
      let type ← slice .outOfBounds bytes offset (offset + 4)
      let offset := size.wrap (offset + 4)
      let chunks ←
        if type = ascii "IHDR" then tileHeader size elsewhere bytes offset chunks
        else if type = ascii "IDAT" then do
          let data ← slice .outOfBounds bytes offset (size.wrap (offset + length.toNat))
          .ok { chunks with compressed := chunks.compressed ++ data }
        else .ok chunks
      let offset := size.wrap (offset + (length + 4).toNat)
      if type = ascii "IEND" then .ok chunks else tileChunks size elsewhere bytes fuel offset chunks
    else .ok chunks

/-- A tile has 256 rows of 256 pixels, so that no index of it is too large for `int`. -/
def tilePixel (channels : Nat) (raw : List UInt8) (pixels : List UInt32) (i : Nat) :
    Except Stop (List UInt32) := do
  let base := i * channels
  let alpha ← if channels = 4 then byteAt raw (base + 3) else .ok 0xff
  let red ← byteAt raw base
  let green ← byteAt raw (base + 1)
  let blue ← byteAt raw (base + 2)
  store .outOfBounds pixels i (argb alpha red green blue)

/-- `decode_png` of the map layer: the pixels of a tile. -/
def decodePng (size : SizeType) (uncompress : Uncompress) (elsewhere : Elsewhere) (fuel : Nat)
    (bytes : List UInt8) : Except Stop (List UInt32) := do
  rejectIf (¬ signature.isPrefixOf bytes)
  let chunks ← tileChunks size elsewhere bytes fuel 8 {}
  rejectIf (chunks.width ≠ kTileSize ∨ chunks.height ≠ kTileSize ∨ chunks.compressed = [])
  let raw ← imageBytes size uncompress chunks
  forRange (kTileSize * kTileSize) (List.replicate (kTileSize * kTileSize) 0)
    (tilePixel (channelsOf chunks) raw)

/-! ### The minimap -/

/-- All fields of the header are read before they are looked at. -/
def imageHeader (size : SizeType) (elsewhere : Elsewhere) (bytes : List UInt8) (offset : Nat)
    (chunks : Chunks) : Except Stop Chunks := do
  let width ← readBe32 size elsewhere bytes offset
  let height ← readBe32 size elsewhere bytes (size.wrap (offset + 4))
  let bitDepth ← fileByte elsewhere bytes (size.wrap (offset + 8))
  let colorType ← fileByte elsewhere bytes (size.wrap (offset + 9))
  let interlace ← fileByte elsewhere bytes (size.wrap (offset + 12))
  rejectIf (bitDepth ≠ 8 ∨ interlace ≠ 0 ∨ (colorType ≠ 2 ∧ colorType ≠ 6))
  return { chunks with width := toInt width, height := toInt height, colorType }

def imageChunks (size : SizeType) (elsewhere : Elsewhere) (bytes : List UInt8) :
    Nat → Nat → Chunks → Except Stop Chunks
  | 0, _, _ => .error .endless
  | fuel + 1, offset, chunks =>
    if size.wrap (offset + 12) ≤ bytes.length then do
      let length ← readBe32 size elsewhere bytes offset
      let offset := size.wrap (offset + 4)
      rejectIf (bytes.length < size.wrap (offset + 4 + length.toNat + 4))
      let type ← slice .outOfBounds bytes offset (offset + 4)
      let offset := size.wrap (offset + 4)
      let next := size.wrap (offset + (length + 4).toNat)
      if type = ascii "IHDR" then
        imageChunks size elsewhere bytes fuel next (← imageHeader size elsewhere bytes offset chunks)
      else if type = ascii "IDAT" then
        let data ← slice .outOfBounds bytes offset (size.wrap (offset + length.toNat))
        imageChunks size elsewhere bytes fuel next { chunks with compressed := chunks.compressed ++ data }
      else if type = ascii "IEND" then .ok chunks
      else imageChunks size elsewhere bytes fuel next chunks
    else .ok chunks

def imagePixel (size : SizeType) (width channels : Nat) (raw : List UInt8) (y : Nat)
    (pixels : List UInt32) (x : Nat) : Except Stop (List UInt32) := do
  let base := size.wrap ((y * width + x) * channels)
  let r ← byteAt raw base
  let g ← byteAt raw (size.wrap (base + 1))
  let b ← byteAt raw (size.wrap (base + 2))
  let a ← if channels = 4 then byteAt raw (size.wrap (base + 3)) else .ok 0xff
  store .outOfBounds pixels (size.wrap (y * width + x)) (argb a r g b)

/-- `decode_png_bytes` of the minimap. -/
def decodePngBytes (size : SizeType) (uncompress : Uncompress) (elsewhere : Elsewhere)
    (fuel : Nat) (bytes : List UInt8) : Except Stop PngImage := do
  rejectIf (¬ signature.isPrefixOf bytes)
  let chunks ← imageChunks size elsewhere bytes fuel 8 {}
  rejectIf (chunks.width ≤ 0 ∨ chunks.height ≤ 0 ∨ chunks.compressed = [])
  let raw ← imageBytes size uncompress chunks
  let width := chunks.width.toNat
  let height := chunks.height.toNat
  let pixels ← forRange height (List.replicate (size.wrap (width * height)) 0)
    fun pixels y => forRange width pixels (imagePixel size width (channelsOf chunks) raw y)
  return { width := chunks.width, height := chunks.height, pixels }

/-! ### Both decoders accept the same tiles -/

theorem rejectIf_ok_iff {condition : Prop} [Decidable condition] {result : Unit} :
    rejectIf condition = .ok result ↔ ¬ condition := by
  unfold rejectIf
  split <;> simp [*]

/-- The order in which the fields are looked at does not matter to a header that passes. -/
theorem header_agree (size : SizeType) (elsewhere : Elsewhere) (bytes : List UInt8) (offset : Nat)
    (chunks : Chunks) :
    tileHeader size elsewhere bytes offset chunks = .ok after ↔
      imageHeader size elsewhere bytes offset chunks = .ok after := by
  simp only [tileHeader, imageHeader, bind_ok_iff, rejectIf_ok_iff, exists_const]
  constructor
  · rintro ⟨width, readWidth, height, readHeight, depth, readDepth, deep, color, readColor,
      colored, interlace, readInterlace, plain, built⟩
    exact ⟨width, readWidth, height, readHeight, depth, readDepth, color, readColor, interlace,
      readInterlace, by tauto, built⟩
  · rintro ⟨width, readWidth, height, readHeight, depth, readDepth, color, readColor, interlace,
      readInterlace, passed, built⟩
    exact ⟨width, readWidth, height, readHeight, depth, readDepth, by tauto, color, readColor,
      by tauto, interlace, readInterlace, by tauto, built⟩

theorem chunks_agree (size : SizeType) (elsewhere : Elsewhere) (bytes : List UInt8)
    (fuel offset : Nat) (chunks : Chunks) :
    tileChunks size elsewhere bytes fuel offset chunks = .ok after ↔
      imageChunks size elsewhere bytes fuel offset chunks = .ok after := by
  induction fuel generalizing offset chunks with
  | zero =>
    constructor
    · intro endless
      cases endless
    · intro endless
      cases endless
  | succ fuel ih =>
    unfold tileChunks imageChunks
    split
    · have behind (offset length : Nat) : offset + 4 + length + 4 = offset + 8 + length := by omega
      simp only [bind_ok_iff, rejectIf_ok_iff, exists_const, behind]
      refine exists_congr fun length => and_congr_right fun _ => and_congr_right fun _ =>
        exists_congr fun type => and_congr_right fun _ => ?_
      by_cases header : type = ascii "IHDR"
      · have further : ascii "IHDR" ≠ ascii "IEND" := by decide
        subst header
        simp only [if_true, if_neg further, bind_ok_iff]
        exact exists_congr fun chunks => and_congr (header_agree ..) (ih _ _)
      · by_cases data : type = ascii "IDAT"
        · have further : ascii "IDAT" ≠ ascii "IEND" := by decide
          have other : ascii "IDAT" ≠ ascii "IHDR" := by decide
          subst data
          simp only [if_true, if_neg further, if_neg other, bind_ok_iff, Except.ok.injEq,
            exists_eq_left']
          exact exists_congr fun bytes => and_congr_right fun _ => ih _ _
        · simp only [if_neg header, if_neg data]
          by_cases last : type = ascii "IEND"
          · simp only [if_pos last]
            exact Iff.rfl
          · simp only [if_neg last]
            exact ih _ _
    · exact Iff.rfl

theorem wrap_small (size : SizeType) (small : number < 2 ^ 32) : size.wrap number = number := by
  unfold SizeType.wrap
  cases size with
  | bits32 => exact Nat.mod_eq_of_lt small
  | bits64 => exact Nat.mod_eq_of_lt (Nat.lt_trans small (by decide))

theorem byteAt_cases (bytes : List UInt8) (index : Nat) :
    (∃ value, byteAt bytes index = .ok value) ∨ byteAt bytes index = .error .outOfBounds := by
  unfold byteAt load
  split
  · exact .inl ⟨_, rfl⟩
  · exact .inr rfl

/-- The four bytes of a pixel are read in another order. -/
theorem pixel_agree (size : SizeType) (raw : List UInt8) (pixels : List UInt32)
    (few : channels ≤ 4) (row : y < 256) (column : x < 256) :
    imagePixel size 256 channels raw y pixels x = tilePixel channels raw pixels (y * 256 + x) := by
  have pixel : y * 256 + x < 65536 := by omega
  have base : (y * 256 + x) * channels ≤ 65535 * 4 := Nat.mul_le_mul (by omega) few
  unfold imagePixel tilePixel
  simp only [wrap_small size (show y * 256 + x < 2 ^ 32 by omega),
    wrap_small size (show (y * 256 + x) * channels < 2 ^ 32 by omega),
    wrap_small size (show (y * 256 + x) * channels + 1 < 2 ^ 32 by omega),
    wrap_small size (show (y * 256 + x) * channels + 2 < 2 ^ 32 by omega),
    wrap_small size (show (y * 256 + x) * channels + 3 < 2 ^ 32 by omega)]
  rcases byteAt_cases raw ((y * 256 + x) * channels) with ⟨red, r⟩ | r <;>
    rcases byteAt_cases raw ((y * 256 + x) * channels + 1) with ⟨green, g⟩ | g <;>
    rcases byteAt_cases raw ((y * 256 + x) * channels + 2) with ⟨blue, b⟩ | b <;>
    rcases byteAt_cases raw ((y * 256 + x) * channels + 3) with ⟨alpha, a⟩ | a <;>
    split <;> simp only [r, g, b, a, bind, Except.bind]

/-- The pixels of a tile are taken in the same order. -/
theorem pixels_agree (size : SizeType) (raw : List UInt8) (few : channels ≤ 4) :
    (forRange 256 (List.replicate (size.wrap (256 * 256)) 0) fun pixels y =>
      forRange 256 pixels (imagePixel size 256 channels raw y)) =
    forRange (256 * 256) (List.replicate (256 * 256) 0) (tilePixel channels raw) := by
  rw [wrap_small size (by decide), forRange_mul]
  exact forRange_congr fun pixels y row =>
    forRange_congr fun pixels x column => pixel_agree size raw pixels few row column

/-- The pixels of a tile are those of an image that the other decoder finds to be one. -/
theorem decodePng_ok_iff (size : SizeType) (uncompress : Uncompress) (elsewhere : Elsewhere)
    (fuel : Nat) (bytes : List UInt8) (pixels : List UInt32) :
    decodePng size uncompress elsewhere fuel bytes = .ok pixels ↔
      ∃ image, decodePngBytes size uncompress elsewhere fuel bytes = .ok image ∧
        image.width = kTileSize ∧ image.height = kTileSize ∧ image.pixels = pixels := by
  unfold decodePng decodePngBytes
  simp only [bind_ok_iff, rejectIf_ok_iff, exists_const, chunks_agree]
  constructor
  · rintro ⟨signed, chunks, walked, tile, raw, built, drawn⟩
    have few : channelsOf chunks ≤ 4 := by
      unfold channelsOf
      split <;> decide
    simp only [not_or, not_not] at tile
    obtain ⟨width, height, data⟩ := tile
    have positive : ¬ (chunks.width ≤ 0 ∨ chunks.height ≤ 0 ∨ chunks.compressed = []) := by
      simp [width, height, data, kTileSize]
    refine ⟨_, ⟨signed, chunks, walked, positive, raw, built, pixels, ?_, rfl⟩, width, height, rfl⟩
    rw [width, height]
    exact (pixels_agree size raw few).trans drawn
  · rintro ⟨image, ⟨signed, chunks, walked, positive, raw, built, drawn, painted, same⟩, width,
      height, rfl⟩
    have few : channelsOf chunks ≤ 4 := by
      unfold channelsOf
      split <;> decide
    simp only [not_or] at positive
    cases same
    change chunks.width = kTileSize at width
    change chunks.height = kTileSize at height
    refine ⟨signed, chunks, walked, by simp [width, height, positive.2.2, kTileSize], raw, built, ?_⟩
    rw [width, height] at painted
    exact (pixels_agree size raw few).symm.trans painted

/-- The decoder of tiles takes what the other one takes and finds to be a tile, with the same
pixels, however many chunks are walked, if both find the same behind the file. -/
theorem decoders_alike (size : SizeType) (uncompress : Uncompress) (elsewhere : Elsewhere)
    (fuel : Nat) (bytes : List UInt8) (pixels : List UInt32) :
    decodePng size uncompress elsewhere fuel bytes = .ok pixels ↔
      decodePngBytes size uncompress elsewhere fuel bytes =
        .ok { width := 256, height := 256, pixels } := by
  rw [decodePng_ok_iff]
  constructor
  · rintro ⟨image, decoded, width, height, rfl⟩
    rw [decoded]
    exact congrArg Except.ok (PngImage.mk.injEq .. ▸ ⟨width, height, rfl⟩)
  · intro decoded
    exact ⟨_, decoded, rfl, rfl, rfl⟩

/-! ### Both decoders refuse the same files -/

theorem rejectIf_error_iff {condition : Prop} [Decidable condition] :
    rejectIf condition = .error stop ↔ condition ∧ stop = .rejected := by
  unfold rejectIf
  split
  · rename_i met
    exact ⟨fun refused => ⟨met, (Except.error.inj refused).symm⟩, fun refused => by rw [refused.2]⟩
  · rename_i passed
    exact ⟨nofun, fun refused => absurd refused.1 passed⟩

theorem fileByte_not_refused (never : ∀ index, elsewhere index ≠ .error .rejected) :
    fileByte elsewhere bytes index ≠ .error .rejected := by
  unfold fileByte
  split
  · exact nofun
  · exact never _

theorem readBe32_not_refused (never : ∀ index, elsewhere index ≠ .error .rejected) :
    readBe32 size elsewhere bytes offset ≠ .error .rejected := by
  unfold readBe32
  intro refused
  simp only [bind_error_iff, fileByte_not_refused never, false_or] at refused
  obtain ⟨first, _, second, _, third, _, fourth, _, refused⟩ := refused
  cases refused

/-- A header that is refused by its fields is refused by the one that is wrong first. -/
theorem header_refused (never : ∀ index, elsewhere index ≠ .error .rejected)
    (refused : imageHeader size elsewhere bytes offset chunks = .error .rejected) :
    tileHeader size elsewhere bytes offset chunks = .error .rejected := by
  simp only [imageHeader, bind_error_iff, readBe32_not_refused never, fileByte_not_refused never,
    false_or] at refused
  obtain ⟨width, readWidth, height, readHeight, depth, readDepth, color, readColor, interlace,
    readInterlace, refused⟩ := refused
  have wrong : depth ≠ 8 ∨ interlace ≠ 0 ∨ (color ≠ 2 ∧ color ≠ 6) := by
    rcases refused with wrong | ⟨_, _, built⟩
    · exact (rejectIf_error_iff.1 wrong).1
    · cases built
  unfold tileHeader
  rw [readWidth, readHeight, readDepth, readColor, readInterlace]
  change (rejectIf (depth ≠ 8) >>= fun _ => rejectIf (color ≠ 2 ∧ color ≠ 6) >>= fun _ =>
    rejectIf (interlace ≠ 0) >>= fun _ => _) = _
  unfold rejectIf
  by_cases deep : depth ≠ 8
  · rw [if_pos deep]
    rfl
  · rw [if_neg deep]
    by_cases colored : color ≠ 2 ∧ color ≠ 6
    · simp only [if_pos colored]
      rfl
    · have interlaced : interlace ≠ 0 := by tauto
      simp only [if_neg colored, if_pos interlaced]
      rfl

/-- What is refused by the first part of a computation is refused whatever comes next. -/
theorem refused_bind {first : Except Stop α} {next : α → Except Stop β} {other : α → Except Stop γ}
    (step : ∀ value, next value = .error .rejected → other value = .error .rejected)
    (refused : (first >>= next) = .error .rejected) : (first >>= other) = .error .rejected := by
  rw [bind_error_iff] at refused ⊢
  exact refused.imp_right fun ⟨value, done, later⟩ => ⟨value, done, step value later⟩

theorem chunks_refused (never : ∀ index, elsewhere index ≠ .error .rejected)
    (refused : imageChunks size elsewhere bytes fuel offset chunks = .error .rejected) :
    tileChunks size elsewhere bytes fuel offset chunks = .error .rejected := by
  induction fuel generalizing offset chunks with
  | zero => cases refused
  | succ fuel ih =>
    unfold imageChunks at refused
    unfold tileChunks
    split at refused
    · rename_i inside
      rw [if_pos inside]
      have behind (offset length : Nat) : offset + 4 + length + 4 = offset + 8 + length := by omega
      simp only [behind] at refused
      refine refused_bind (fun length => refused_bind fun _ => refused_bind fun type refused => ?_)
        refused
      by_cases header : type = ascii "IHDR"
      · have further : ascii "IHDR" ≠ ascii "IEND" := by decide
        subst header
        simp only [if_true, if_neg further, bind_error_iff] at refused ⊢
        rcases refused with refused | ⟨chunks, passed, refused⟩
        · exact .inl (header_refused never refused)
        · exact .inr ⟨chunks, (header_agree ..).2 passed, ih refused⟩
      · by_cases data : type = ascii "IDAT"
        · have further : ascii "IDAT" ≠ ascii "IEND" := by decide
          have other : ascii "IDAT" ≠ ascii "IHDR" := by decide
          subst data
          simp only [if_true, if_neg further, if_neg other] at refused ⊢
          exact refused_bind (fun bytes refused => ih refused) refused
        · simp only [if_neg header, if_neg data] at refused ⊢
          by_cases last : type = ascii "IEND"
          · rw [if_pos last] at refused
            cases refused
          · simp only [if_neg last] at refused ⊢
            exact ih refused
    · cases refused

/-- An image that is no tile is refused, and so is a file that is no image. -/
theorem decodePng_refused (never : ∀ index, elsewhere index ≠ .error .rejected)
    (settled : decodePngBytes size uncompress elsewhere fuel bytes = .error .rejected ∨
      ∃ image, decodePngBytes size uncompress elsewhere fuel bytes = .ok image ∧
        ¬ (image.width = kTileSize ∧ image.height = kTileSize)) :
    decodePng size uncompress elsewhere fuel bytes = .error .rejected := by
  unfold decodePng
  rcases settled with refused | ⟨image, decoded, other⟩
  · refine refused_bind (fun _ => ?_) refused
    intro refused
    rw [bind_error_iff] at refused ⊢
    rcases refused with refused | ⟨chunks, walked, refused⟩
    · exact .inl (chunks_refused never refused)
    refine .inr ⟨chunks, (chunks_agree ..).2 walked, ?_⟩
    by_cases tile : chunks.width ≠ kTileSize ∨ chunks.height ≠ kTileSize ∨ chunks.compressed = []
    · rw [rejectIf, if_pos tile]
      rfl
    rw [rejectIf, if_neg tile]
    simp only [not_or, not_not] at tile
    obtain ⟨width, height, data⟩ := tile
    have positive : ¬ (chunks.width ≤ 0 ∨ chunks.height ≤ 0 ∨ chunks.compressed = []) := by
      simp [width, height, data, kTileSize]
    rw [rejectIf, if_neg positive, width, height] at refused
    have few : channelsOf chunks ≤ 4 := by
      unfold channelsOf
      split <;> decide
    refine refused_bind (fun _ => refused_bind fun raw refused => ?_) refused
    rcases bind_error_iff.1 refused with refused | ⟨_, _, built⟩
    · exact (pixels_agree size raw few).symm.trans refused
    · cases built
  · unfold decodePngBytes at decoded
    simp only [bind_ok_iff, rejectIf_ok_iff, exists_const] at decoded
    obtain ⟨signed, chunks, walked, _, _, _, _, _, same⟩ := decoded
    cases same
    have tile : chunks.width ≠ kTileSize ∨ chunks.height ≠ kTileSize ∨ chunks.compressed = [] := by
      tauto
    rw [rejectIf, if_neg signed, (chunks_agree ..).2 walked]
    change (rejectIf _ >>= fun _ => _) = _
    rw [rejectIf, if_pos tile]
    rfl

end Glide.PngImages
