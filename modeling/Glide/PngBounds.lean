import Glide.PngImages

/-! The decoders of PNG images with every size computed in its type: a number that does not
fit ends the decoding as a read outside a buffer does. As long as no number is too large they
are the decoders; exactly the files are named for which they come to their end. -/
namespace Glide.PngBounds
open Library AsciiText CheckedBuffers PngImages

/-! ### The decoders with checked sizes -/

/-- A number that has to fit into `size_t`. -/
def sized (size : SizeType) (number : Nat) : Except Stop Nat :=
  if number < size.modulus then .ok number else .error .overflow

/-- The data of a chunk and what is behind it, which is added up in 32 bits. -/
def chunkRest (length : UInt32) : Except Stop Nat :=
  if length.toNat + 4 < 2 ^ 32 then .ok (length.toNat + 4) else .error .overflow

def indexed (size : SizeType) (bytes : List UInt8) (index : Nat) : Except Stop UInt8 := do
  byteAt bytes (← sized size index)

def checkedBe32 (size : SizeType) (bytes : List UInt8) (offset : Nat) : Except Stop UInt32 := do
  let first ← byteAt bytes offset
  let second ← indexed size bytes (offset + 1)
  let third ← indexed size bytes (offset + 2)
  let fourth ← indexed size bytes (offset + 3)
  return first.toUInt32 <<< 24 ||| second.toUInt32 <<< 16 ||| third.toUInt32 <<< 8 |||
    fourth.toUInt32

def checkedRow (size : SizeType) (channels stride : Nat) (filtered raw : List UInt8)
    (y : Nat) : Except Stop (List UInt8) := do
  let filter ← indexed size filtered (y * (stride + 1))
  let source ← sized size (y * (stride + 1) + 1)
  let row ← sized size (y * stride)
  let above ← sized size ((y - 1) * stride)
  let previous := if 0 < y then some above else none
  forRange stride raw (reconstructByte channels filtered filter source row previous)

def checkedBytes (size : SizeType) (uncompress : Uncompress) (chunks : Chunks) :
    Except Stop (List UInt8) := do
  let product ← intProduct chunks.width (channelsOf chunks)
  let stride ← sized size product.toNat
  let rowSize ← sized size (stride + 1)
  let height := chunks.height.toNat
  let length ← sized size (rowSize * height)
  let filtered ← inflate uncompress chunks.compressed length
  let total ← sized size (stride * height)
  forRange height (List.replicate total 0) (checkedRow size (channelsOf chunks) stride filtered)

def checkedTileHeader (size : SizeType) (bytes : List UInt8) (offset : Nat) (chunks : Chunks) :
    Except Stop Chunks := do
  let width ← checkedBe32 size bytes offset
  let height ← checkedBe32 size bytes (← sized size (offset + 4))
  rejectIf ((← indexed size bytes (offset + 8)) ≠ 8)
  let colorType ← indexed size bytes (offset + 9)
  rejectIf (colorType ≠ 2 ∧ colorType ≠ 6)
  rejectIf ((← indexed size bytes (offset + 12)) ≠ 0)
  return { chunks with width := toInt width, height := toInt height, colorType }

def checkedTileChunks (size : SizeType) (bytes : List UInt8) :
    Nat → Nat → Chunks → Except Stop Chunks
  | 0, _, _ => .error .endless
  | fuel + 1, offset, chunks => do
    let room ← sized size (offset + 12)
    if room ≤ bytes.length then
      let length ← checkedBe32 size bytes offset
      let offset ← sized size (offset + 4)
      let stop ← sized size (offset + 8 + length.toNat)
      rejectIf (bytes.length < stop)
      let type ← slice .outOfBounds bytes offset (offset + 4)
      let offset ← sized size (offset + 4)
      let chunks ←
        if type = ascii "IHDR" then checkedTileHeader size bytes offset chunks
        else if type = ascii "IDAT" then do
          let stop ← sized size (offset + length.toNat)
          let data ← slice .outOfBounds bytes offset stop
          .ok { chunks with compressed := chunks.compressed ++ data }
        else .ok chunks
      let rest ← chunkRest length
      let offset ← sized size (offset + rest)
      if type = ascii "IEND" then .ok chunks else checkedTileChunks size bytes fuel offset chunks
    else .ok chunks

def checkedDecodePng (size : SizeType) (uncompress : Uncompress) (fuel : Nat)
    (bytes : List UInt8) : Except Stop (List UInt32) := do
  rejectIf (¬ signature.isPrefixOf bytes)
  let chunks ← checkedTileChunks size bytes fuel 8 {}
  rejectIf (chunks.width ≠ kTileSize ∨ chunks.height ≠ kTileSize ∨ chunks.compressed = [])
  let raw ← checkedBytes size uncompress chunks
  forRange (kTileSize * kTileSize) (List.replicate (kTileSize * kTileSize) 0)
    (tilePixel (channelsOf chunks) raw)

def checkedImageHeader (size : SizeType) (bytes : List UInt8) (offset : Nat) (chunks : Chunks) :
    Except Stop Chunks := do
  let width ← checkedBe32 size bytes offset
  let height ← checkedBe32 size bytes (← sized size (offset + 4))
  let bitDepth ← indexed size bytes (offset + 8)
  let colorType ← indexed size bytes (offset + 9)
  let interlace ← indexed size bytes (offset + 12)
  rejectIf (bitDepth ≠ 8 ∨ interlace ≠ 0 ∨ (colorType ≠ 2 ∧ colorType ≠ 6))
  return { chunks with width := toInt width, height := toInt height, colorType }

def checkedImageChunks (size : SizeType) (bytes : List UInt8) :
    Nat → Nat → Chunks → Except Stop Chunks
  | 0, _, _ => .error .endless
  | fuel + 1, offset, chunks => do
    let room ← sized size (offset + 12)
    if room ≤ bytes.length then
      let length ← checkedBe32 size bytes offset
      let offset ← sized size (offset + 4)
      let stop ← sized size (offset + 4 + length.toNat + 4)
      rejectIf (bytes.length < stop)
      let type ← slice .outOfBounds bytes offset (offset + 4)
      let offset ← sized size (offset + 4)
      if type = ascii "IHDR" then
        let chunks ← checkedImageHeader size bytes offset chunks
        let next ← sized size (offset + (← chunkRest length))
        checkedImageChunks size bytes fuel next chunks
      else if type = ascii "IDAT" then
        let stop ← sized size (offset + length.toNat)
        let data ← slice .outOfBounds bytes offset stop
        let next ← sized size (offset + (← chunkRest length))
        checkedImageChunks size bytes fuel next
          { chunks with compressed := chunks.compressed ++ data }
      else if type = ascii "IEND" then .ok chunks
      else
        let next ← sized size (offset + (← chunkRest length))
        checkedImageChunks size bytes fuel next chunks
    else .ok chunks

def checkedPixel (size : SizeType) (width channels : Nat) (raw : List UInt8) (y : Nat)
    (pixels : List UInt32) (x : Nat) : Except Stop (List UInt32) := do
  let place ← sized size (y * width + x)
  let base ← sized size (place * channels)
  let r ← byteAt raw base
  let g ← indexed size raw (base + 1)
  let b ← indexed size raw (base + 2)
  let a ← if channels = 4 then indexed size raw (base + 3) else .ok 0xff
  store .outOfBounds pixels place (argb a r g b)

def checkedDecodePngBytes (size : SizeType) (uncompress : Uncompress) (fuel : Nat)
    (bytes : List UInt8) : Except Stop PngImage := do
  rejectIf (¬ signature.isPrefixOf bytes)
  let chunks ← checkedImageChunks size bytes fuel 8 {}
  rejectIf (chunks.width ≤ 0 ∨ chunks.height ≤ 0 ∨ chunks.compressed = [])
  let raw ← checkedBytes size uncompress chunks
  let width := chunks.width.toNat
  let height := chunks.height.toNat
  let total ← sized size (width * height)
  let pixels ← forRange height (List.replicate total 0)
    fun pixels y => forRange width pixels (checkedPixel size width (channelsOf chunks) raw y)
  return { width := chunks.width, height := chunks.height, pixels }

/-! ### They are the decoders -/

/-- Unless a number is too large, the other computation comes to the same. -/
def Follows (plain checked : Except Stop α) : Prop := checked = .error .overflow ∨ plain = checked

theorem follows_refl (result : Except Stop α) : Follows result result := .inr rfl

theorem Follows.bind {plain checked : Except Stop α} {later next : α → Except Stop β}
    (first : Follows plain checked) (second : ∀ value, Follows (later value) (next value)) :
    Follows (plain >>= later) (checked >>= next) := by
  rcases first with failed | same
  · rw [failed]
    exact .inl rfl
  · rw [same]
    cases checked with
    | error fault => exact .inr rfl
    | ok value => exact second value

theorem follows_sized {size : SizeType} {plain : Except Stop α} {next : Nat → Except Stop α}
    (rest : size.wrap number = number → Follows plain (next number)) :
    Follows plain (sized size number >>= next) := by
  unfold sized
  split
  · next fits => exact rest (Nat.mod_eq_of_lt fits)
  · exact .inl rfl

theorem follows_rest {length : UInt32} {plain : Except Stop α} {next : Nat → Except Stop α}
    (rest : Follows plain (next (length + 4).toNat)) :
    Follows plain (chunkRest length >>= next) := by
  unfold chunkRest
  split
  · next fits =>
    have sum : (length + 4).toNat = length.toNat + 4 := by
      rw [UInt32.toNat_add]
      exact Nat.mod_eq_of_lt fits
    rw [sum] at rest
    exact rest
  · exact .inl rfl

theorem follows_indexed (size : SizeType) (bytes : List UInt8) (index : Nat) :
    Follows (byteAt bytes (size.wrap index)) (indexed size bytes index) :=
  follows_sized fun same => same.symm ▸ follows_refl _

theorem follows_file (size : SizeType) (bytes : List UInt8) (index : Nat) :
    Follows (fileByte nowhere bytes (size.wrap index)) (indexed size bytes index) := by
  rw [fileByte_nowhere]
  exact follows_indexed ..

theorem follows_loop {body other : σ → Nat → Except Stop σ}
    (same : ∀ state index, Follows (body state index) (other state index)) :
    Follows (forRange count state body) (forRange count state other) := by
  induction count with
  | zero => exact follows_refl _
  | succ count ih =>
    rw [forRange_succ, forRange_succ]
    exact ih.bind fun state => same state count

theorem follows_be32 (size : SizeType) (bytes : List UInt8) (offset : Nat) :
    Follows (readBe32 size nowhere bytes offset) (checkedBe32 size bytes offset) := by
  have first : Follows (fileByte nowhere bytes offset) (byteAt bytes offset) :=
    .inr (fileByte_nowhere ..)
  exact first.bind fun _ => (follows_file ..).bind fun _ => (follows_file ..).bind fun _ =>
    (follows_file ..).bind fun _ => follows_refl _

theorem follows_row (size : SizeType) (channels stride : Nat) (filtered raw : List UInt8)
    (y : Nat) :
    Follows (reconstructRow size channels stride filtered raw y)
      (checkedRow size channels stride filtered raw y) := by
  refine (follows_indexed ..).bind fun filter => follows_sized fun source =>
    follows_sized fun row => follows_sized fun above => ?_
  rw [source, row, above]
  exact follows_refl _

theorem follows_bytes (size : SizeType) (uncompress : Uncompress) (chunks : Chunks) :
    Follows (imageBytes size uncompress chunks) (checkedBytes size uncompress chunks) := by
  refine (follows_refl _).bind fun product => follows_sized fun stride => follows_sized fun _ =>
    follows_sized fun length => ?_
  rw [stride]
  dsimp only
  rw [length]
  refine (follows_refl _).bind fun filtered => ?_
  unfold reconstruct
  refine follows_sized fun total => ?_
  rw [total]
  exact follows_loop fun raw y => follows_row ..

theorem follows_tile_header (size : SizeType) (bytes : List UInt8) (offset : Nat)
    (chunks : Chunks) :
    Follows (tileHeader size nowhere bytes offset chunks)
      (checkedTileHeader size bytes offset chunks) := by
  refine (follows_be32 ..).bind fun width => follows_sized fun place => ?_
  rw [place]
  exact (follows_be32 ..).bind fun height => (follows_file ..).bind fun depth =>
    (follows_refl _).bind fun _ => (follows_file ..).bind fun color =>
    (follows_refl _).bind fun _ => (follows_file ..).bind fun interlace => follows_refl _

theorem follows_image_header (size : SizeType) (bytes : List UInt8) (offset : Nat)
    (chunks : Chunks) :
    Follows (imageHeader size nowhere bytes offset chunks)
      (checkedImageHeader size bytes offset chunks) := by
  refine (follows_be32 ..).bind fun width => follows_sized fun place => ?_
  rw [place]
  exact (follows_be32 ..).bind fun height => (follows_file ..).bind fun depth =>
    (follows_file ..).bind fun color => (follows_file ..).bind fun interlace =>
    follows_refl _

theorem follows_if {condition : Prop} [Decidable condition]
    {plain other checked next : Except Stop α} (first : Follows plain checked)
    (second : Follows other next) :
    Follows (if condition then plain else other) (if condition then checked else next) := by
  split
  · exact first
  · exact second

theorem follows_tile_chunks (size : SizeType) (bytes : List UInt8) (fuel offset : Nat)
    (chunks : Chunks) :
    Follows (tileChunks size nowhere bytes fuel offset chunks)
      (checkedTileChunks size bytes fuel offset chunks) := by
  induction fuel generalizing offset chunks with
  | zero => exact follows_refl _
  | succ fuel ih =>
    have onward (offset : Nat) (length : UInt32) (type : List UInt8) (chunks : Chunks) :
        Follows (if type = ascii "IEND" then .ok chunks
            else tileChunks size nowhere bytes fuel (size.wrap (offset + (length + 4).toNat)) chunks)
          (do
            let rest ← chunkRest length
            let offset ← sized size (offset + rest)
            if type = ascii "IEND" then .ok chunks
            else checkedTileChunks size bytes fuel offset chunks) := by
      refine follows_rest (follows_sized fun next => ?_)
      rw [next]
      exact follows_if (follows_refl _) (ih _ _)
    unfold tileChunks checkedTileChunks
    refine follows_sized fun room => ?_
    rw [room]
    refine follows_if ((follows_be32 ..).bind fun length => follows_sized fun start => ?_)
      (follows_refl _)
    rw [start]
    refine follows_sized fun stop => ?_
    dsimp only
    rw [stop]
    refine (follows_refl _).bind fun _ => (follows_refl _).bind fun type =>
      follows_sized fun data => ?_
    rw [data]
    refine follows_if ((follows_tile_header ..).bind fun chunks => onward ..)
      (follows_if (follows_sized fun stop => ?_) ((follows_refl _).bind fun chunks => onward ..))
    rw [stop]
    exact (follows_refl _).bind fun data => (follows_refl _).bind fun chunks => onward ..

theorem follows_image_chunks (size : SizeType) (bytes : List UInt8) (fuel offset : Nat)
    (chunks : Chunks) :
    Follows (imageChunks size nowhere bytes fuel offset chunks)
      (checkedImageChunks size bytes fuel offset chunks) := by
  induction fuel generalizing offset chunks with
  | zero => exact follows_refl _
  | succ fuel ih =>
    have onward (offset : Nat) (length : UInt32) (chunks : Chunks) :
        Follows (imageChunks size nowhere bytes fuel (size.wrap (offset + (length + 4).toNat)) chunks)
          (do
            let next ← sized size (offset + (← chunkRest length))
            checkedImageChunks size bytes fuel next chunks) := by
      refine follows_rest (follows_sized fun next => ?_)
      rw [next]
      exact ih _ _
    unfold imageChunks checkedImageChunks
    refine follows_sized fun room => ?_
    rw [room]
    refine follows_if ((follows_be32 ..).bind fun length => follows_sized fun start => ?_)
      (follows_refl _)
    rw [start]
    refine follows_sized fun stop => ?_
    dsimp only
    rw [stop]
    refine (follows_refl _).bind fun _ => (follows_refl _).bind fun type =>
      follows_sized fun data => ?_
    rw [data]
    refine follows_if ((follows_image_header ..).bind fun chunks => onward ..)
      (follows_if (follows_sized fun stop => ?_) (follows_if (follows_refl _) (onward ..)))
    rw [stop]
    exact (follows_refl _).bind fun data => onward ..

theorem follows_pixel (size : SizeType) (width channels : Nat) (raw : List UInt8) (y : Nat)
    (pixels : List UInt32) (x : Nat) :
    Follows (imagePixel size width channels raw y pixels x)
      (checkedPixel size width channels raw y pixels x) := by
  refine follows_sized fun place => follows_sized fun base => ?_
  unfold imagePixel
  dsimp only
  rw [place, base]
  refine (follows_refl _).bind fun r => (follows_indexed ..).bind fun g =>
    (follows_indexed ..).bind fun b => ?_
  exact follows_if ((follows_indexed ..).bind fun a => follows_refl _) (follows_refl _)

/-- The decoder of tiles is the one with checked sizes, unless that one meets a number that
is too large. -/
theorem follows_decode_png (size : SizeType) (uncompress : Uncompress) (fuel : Nat)
    (bytes : List UInt8) :
    Follows (decodePng size uncompress nowhere fuel bytes)
      (checkedDecodePng size uncompress fuel bytes) :=
  (follows_refl _).bind fun _ => (follows_tile_chunks ..).bind fun _ =>
    (follows_refl _).bind fun _ => (follows_bytes ..).bind fun _ => follows_refl _

theorem follows_decode_png_bytes (size : SizeType) (uncompress : Uncompress) (fuel : Nat)
    (bytes : List UInt8) :
    Follows (decodePngBytes size uncompress nowhere fuel bytes)
      (checkedDecodePngBytes size uncompress fuel bytes) := by
  refine (follows_refl _).bind fun _ => (follows_image_chunks ..).bind fun chunks =>
    (follows_refl _).bind fun _ => (follows_bytes ..).bind fun raw => follows_sized fun total => ?_
  dsimp only
  rw [total]
  exact (follows_loop fun pixels y => follows_loop fun pixels x => follows_pixel ..).bind
    fun pixels => follows_refl _

/-! ### What is safe -/

/-- The decoding comes to its end or turns the file down; what it comes to is as said. -/
abbrev Safely (kept : α → Prop) (result : Except Stop α) : Prop :=
  Ends kept (· = .rejected) result

/-- No read is outside its buffer, no number too large, and there is an end. -/
abbrev Safe (result : Except Stop α) : Prop := Safely (fun _ => True) result

theorem safely_bind {first : Except Stop α} {next : α → Except Stop β} :
    Safely kept (first >>= next) ↔ Safely (fun result => Safely kept (next result)) first :=
  ends_bind

theorem safely_sized : Safely kept (sized size number) ↔ number < size.modulus ∧ kept number := by
  unfold sized
  split
  · next fits => exact ⟨fun held => ⟨fits, held⟩, And.right⟩
  · next large => exact ⟨nofun, fun held => absurd held.1 large⟩

theorem safely_rest {length : UInt32} :
    Safely kept (chunkRest length) ↔ length.toNat + 4 < 2 ^ 32 ∧ kept (length.toNat + 4) := by
  unfold chunkRest
  split
  · next fits => exact ⟨fun held => ⟨fits, held⟩, And.right⟩
  · next large => exact ⟨nofun, fun held => absurd held.1 large⟩

theorem safely_rejectIf {condition : Prop} [Decidable condition] :
    Safely kept (rejectIf condition) ↔ (¬ condition → kept ()) := by
  unfold rejectIf
  split
  · next rejected => exact ⟨fun _ further => absurd rejected further, fun _ => rfl⟩
  · next further => exact ⟨fun held _ => held, fun held => held further⟩

theorem safely_byteAt : Safely kept (byteAt bytes index) ↔
    index < bytes.length ∧ kept (bytes.getD index 0) :=
  ends_load nofun 0

theorem safely_slice : Safely kept (slice .outOfBounds bytes start stop) ↔
    (start ≤ stop ∧ stop ≤ bytes.length) ∧ kept ((bytes.drop start).take (stop - start)) :=
  ends_slice nofun

theorem safely_ok : Safely kept (.ok value) ↔ kept value := Iff.rfl

theorem safely_pure : Safely kept (pure value) ↔ kept value := Iff.rfl

theorem safely_if {condition : Prop} [Decidable condition] {first second : Except Stop α} :
    Safely kept (if condition then first else second) ↔
      if condition then Safely kept first else Safely kept second := by
  split
  · exact Iff.rfl
  · exact Iff.rfl

theorem safely_indexed (held : bytes.length < size.modulus) :
    Safely kept (indexed size bytes index) ↔ index < bytes.length ∧ kept (bytes.getD index 0) := by
  unfold indexed
  rw [safely_bind, safely_sized, safely_byteAt]
  exact ⟨And.right, fun inside => ⟨Nat.lt_trans inside.1 held, inside⟩⟩

def be32At (bytes : List UInt8) (offset : Nat) : UInt32 :=
  (bytes.getD offset 0).toUInt32 <<< 24 ||| (bytes.getD (offset + 1) 0).toUInt32 <<< 16 |||
    (bytes.getD (offset + 2) 0).toUInt32 <<< 8 ||| (bytes.getD (offset + 3) 0).toUInt32

theorem safely_be32 (held : bytes.length < size.modulus) :
    Safely kept (checkedBe32 size bytes offset) ↔
      offset + 4 ≤ bytes.length ∧ kept (be32At bytes offset) := by
  unfold checkedBe32
  simp only [safely_bind, safely_byteAt, safely_indexed held, safely_pure]
  constructor
  · rintro ⟨_, _, _, inside, kept⟩
    exact ⟨inside, kept⟩
  · rintro ⟨inside, kept⟩
    exact ⟨by omega, by omega, by omega, inside, kept⟩

/-! ### The bytes and the pixels of an image -/

theorem channels_few (chunks : Chunks) : channelsOf chunks = 3 ∨ channelsOf chunks = 4 := by
  unfold channelsOf
  split
  · exact .inr rfl
  · exact .inl rfl

theorem predictor_safe : Safe (predictor filter left up upperLeft) := by
  unfold predictor
  repeat' split
  all_goals trivial

theorem byte_safe {filtered raw : List UInt8} (inside : source + x < filtered.length)
    (place : row + x < raw.length) (above : ∀ start ∈ previous, start + x < raw.length) :
    Safely (·.length = raw.length)
      (reconstructByte channels filtered filter source row previous raw x) := by
  have written (left up upperLeft : UInt8) : Safely (·.length = raw.length) (do
      let predicted ← predictor filter left up upperLeft
      let value ← byteAt filtered (source + x)
      store .outOfBounds raw (row + x) (value + predicted)) := by
    refine predictor_safe.bind fun predicted _ => safely_bind.2 (safely_byteAt.2 ⟨inside, ?_⟩)
    exact (ends_store nofun).2 ⟨place, List.length_set⟩
  have read (index : Nat) (next : UInt8 → Except Stop (List UInt8)) (reach : index < raw.length)
      (rest : ∀ value, Safely (·.length = raw.length) (next value)) :
      Safely (·.length = raw.length) (byteAt raw index >>= next) :=
    safely_bind.2 (safely_byteAt.2 ⟨reach, rest _⟩)
  unfold reconstructByte
  cases previous with
  | none =>
    by_cases further : channels ≤ x
    · rw [if_pos further]
      exact read _ _ (by omega) fun left => written left 0 0
    · rw [if_neg further]
      exact written 0 0 0
  | some start =>
    have reach := above start rfl
    by_cases further : channels ≤ x
    · simp only [if_pos further]
      exact read _ _ (by omega) fun left => read _ _ reach fun up =>
        read _ _ (by omega) fun upperLeft => written left up upperLeft
    · simp only [if_neg further]
      exact read _ _ reach fun up => written 0 up 0

theorem row_safe {filtered raw : List UInt8} (held : (stride + 1) * height < size.modulus)
    (whole : filtered.length = (stride + 1) * height) (total : raw.length = stride * height)
    (row : y < height) :
    Safely (·.length = stride * height) (checkedRow size channels stride filtered raw y) := by
  have next : (y + 1) * stride ≤ height * stride := Nat.mul_le_mul_right _ row
  have nextFiltered : (y + 1) * (stride + 1) ≤ height * (stride + 1) := Nat.mul_le_mul_right _ row
  have before : (y - 1) * stride ≤ y * stride := Nat.mul_le_mul_right _ (Nat.sub_le _ _)
  rw [Nat.succ_mul, Nat.mul_comm height] at next nextFiltered
  have start : y * (stride + 1) = y * stride + y := Nat.mul_succ _ _
  unfold checkedRow
  simp only [safely_bind, safely_sized, safely_indexed (whole ▸ held)]
  refine ⟨by omega, by omega, by omega, by omega, forRange_ends total fun x column raw total => ?_⟩
  rw [← total]
  refine byte_safe (by omega) (by omega) fun start above => ?_
  split at above
  · next below =>
    cases above
    have last : (y - 1 + 1) * stride = y * stride := by rw [Nat.sub_add_cancel below]
    rw [Nat.succ_mul] at last
    omega
  · cases above

theorem inflate_safe : Safely (·.length = length) (inflate uncompress compressed length) := by
  unfold inflate
  split
  · split
    · assumption
    · rfl
  · rfl

/-- The sizes of an image, as far as they are computed. -/
def PictureFits (size : SizeType) (chunks : Chunks) : Prop :=
  chunks.width * channelsOf chunks < 2 ^ 31 ∧
    (chunks.width.toNat * channelsOf chunks + 1) * chunks.height.toNat < size.modulus

theorem modulus_large (size : SizeType) : 2 ^ 32 ≤ size.modulus := by
  cases size with
  | bits32 => exact Nat.le_refl _
  | bits64 => exact Nat.pow_le_pow_right (by decide) (by decide)

theorem safely_product : Safely kept (intProduct left right) ↔
    (left * right < 2 ^ 31 ∧ -2 ^ 31 ≤ left * right) ∧ kept (left * right) := by
  unfold intProduct
  split
  · next fits => exact ⟨fun held => ⟨fits, held⟩, And.right⟩
  · next large => exact ⟨nofun, fun held => absurd held.1 large⟩

theorem product_toNat {chunks : Chunks} (wide : 0 < chunks.width) :
    (chunks.width * channelsOf chunks).toNat = chunks.width.toNat * channelsOf chunks := by
  obtain ⟨width, same⟩ := Int.eq_ofNat_of_zero_le (Int.le_of_lt wide)
  rw [same, ← Int.natCast_mul]
  rfl

theorem bytes_safe {chunks : Chunks} (wide : 0 < chunks.width) (fits : PictureFits size chunks) :
    Safely (·.length = chunks.width.toNat * channelsOf chunks * chunks.height.toNat)
      (checkedBytes size uncompress chunks) := by
  obtain ⟨product, all⟩ := fits
  have large := modulus_large size
  have positive : 0 < chunks.width * channelsOf chunks := by
    have few := channels_few chunks
    exact Int.mul_pos wide (by omega)
  have stride := product_toNat wide
  have total : chunks.width.toNat * channelsOf chunks * chunks.height.toNat ≤
      (chunks.width.toNat * channelsOf chunks + 1) * chunks.height.toNat :=
    Nat.mul_le_mul_right _ (Nat.le_succ _)
  unfold checkedBytes
  simp only [safely_bind, safely_product, safely_sized, stride]
  refine ⟨⟨product, by omega⟩, by omega, by omega, all, inflate_safe.imp fun filtered whole => ?_⟩
  exact ⟨by omega, forRange_ends List.length_replicate fun y row raw kept =>
    row_safe all whole kept row⟩

/-- Whatever the data is, the sizes are computed before it is inflated. -/
theorem picture_fits {chunks : Chunks} (wide : 0 < chunks.width)
    (safe : Safely kept (checkedBytes size uncompress chunks)) : PictureFits size chunks := by
  unfold checkedBytes at safe
  simp only [safely_bind, safely_product, safely_sized, product_toNat wide] at safe
  exact ⟨safe.1.1, safe.2.2.2.1⟩

/-! ### The pixels of the minimap -/

theorem pixel_safe {raw : List UInt8} (few : channels = 3 ∨ channels = 4)
    (held : width * channels * height < size.modulus)
    (whole : raw.length = width * channels * height) (total : pixels.length = width * height)
    (row : y < height) (column : x < width) :
    Safely (·.length = width * height) (checkedPixel size width channels raw y pixels x) := by
  have next : (y + 1) * width ≤ height * width := Nat.mul_le_mul_right _ row
  rw [Nat.succ_mul, Nat.mul_comm height] at next
  have place : y * width + x < width * height := by omega
  have base : (y * width + x + 1) * channels ≤ width * height * channels :=
    Nat.mul_le_mul_right _ place
  rw [Nat.succ_mul, Nat.mul_right_comm width] at base
  have fits : y * width + x ≤ (y * width + x) * channels := Nat.le_mul_of_pos_right _ (by omega)
  unfold checkedPixel
  simp only [safely_bind, safely_sized, safely_byteAt, safely_indexed (whole ▸ held)]
  refine ⟨by omega, by omega, by omega, by omega, by omega, ?_⟩
  have drawn (alpha r g b : UInt8) : Safely (·.length = width * height)
      (store Stop.outOfBounds pixels (y * width + x) (argb alpha r g b)) := by
    rw [← total] at place ⊢
    exact (ends_store nofun).2 ⟨place, List.length_set⟩
  by_cases four : channels = 4
  · rw [if_pos four, safely_bind, safely_indexed (whole ▸ held)]
    exact ⟨by omega, drawn _ _ _ _⟩
  · rw [if_neg four]
    exact drawn _ _ _ _

/-- What the minimap does with the chunks of a file. -/
def checkedImage (size : SizeType) (uncompress : Uncompress) (chunks : Chunks) :
    Except Stop PngImage := do
  rejectIf (chunks.width ≤ 0 ∨ chunks.height ≤ 0 ∨ chunks.compressed = [])
  let raw ← checkedBytes size uncompress chunks
  let width := chunks.width.toNat
  let height := chunks.height.toNat
  let total ← sized size (width * height)
  let pixels ← forRange height (List.replicate total 0)
    fun pixels y => forRange width pixels (checkedPixel size width (channelsOf chunks) raw y)
  return { width := chunks.width, height := chunks.height, pixels }

/-- There is an image to be taken from the chunks. -/
def HasPicture (chunks : Chunks) : Prop :=
  0 < chunks.width ∧ 0 < chunks.height ∧ chunks.compressed ≠ []

theorem image_safe_iff (size : SizeType) (uncompress : Uncompress) (chunks : Chunks) :
    Safe (checkedImage size uncompress chunks) ↔ (HasPicture chunks → PictureFits size chunks) := by
  have has : ¬ (chunks.width ≤ 0 ∨ chunks.height ≤ 0 ∨ chunks.compressed = []) ↔
      HasPicture chunks := by
    unfold HasPicture
    simp only [not_or, Int.not_le]
  refine (safely_bind.trans safely_rejectIf).trans ?_
  rw [has]
  refine forall_congr' fun picture => ⟨fun safe => ?_, fun fits => ?_⟩
  · exact picture_fits picture.1 (safely_bind.1 safe)
  · refine (bytes_safe picture.1 fits).bind fun raw whole => ?_
    have held : chunks.width.toNat * channelsOf chunks * chunks.height.toNat < size.modulus :=
      Nat.lt_of_le_of_lt (Nat.mul_le_mul_right _ (Nat.le_succ _)) fits.2
    have few := channels_few chunks
    have less : chunks.width.toNat * chunks.height.toNat ≤
        chunks.width.toNat * channelsOf chunks * chunks.height.toNat :=
      Nat.mul_le_mul_right _ (Nat.le_mul_of_pos_right _ (by omega))
    have painted (pixels : List UInt32)
        (total : pixels.length = chunks.width.toNat * chunks.height.toNat) (y : Nat)
        (row : y < chunks.height.toNat) :
        Safely (·.length = chunks.width.toNat * chunks.height.toNat)
          (forRange chunks.width.toNat pixels
            (checkedPixel size chunks.width.toNat (channelsOf chunks) raw y)) :=
      forRange_ends total fun x column pixels total =>
        pixel_safe few held whole total row column
    refine safely_bind.2 (safely_sized.2 ⟨Nat.lt_of_le_of_lt less held, ?_⟩)
    exact Ends.bind (forRange_ends List.length_replicate fun y row pixels total =>
      painted pixels total y row) fun pixels _ => trivial

/-! ### The chunks of a file -/

/-- Where a walk over the chunks is, and what it has found. -/
structure Place where
  offset : Nat
  chunks : Chunks
  deriving DecidableEq

section Places
variable (bytes : List UInt8)

/-- The end of the chunk that starts at an offset. -/
def chunkEnd (offset : Nat) : Nat := offset + 12 + (be32At bytes offset).toNat

def typeAt (offset : Nat) : List UInt8 := (bytes.drop (offset + 4)).take 4

/-- The fields of a header are those of an image that can be taken. -/
def HeaderPasses (start : Nat) : Prop :=
  bytes.getD (start + 8) 0 = 8 ∧ bytes.getD (start + 12) 0 = 0 ∧
    (bytes.getD (start + 9) 0 = 2 ∨ bytes.getD (start + 9) 0 = 6)

instance (start : Nat) : Decidable (HeaderPasses bytes start) :=
  inferInstanceAs (Decidable (_ ∧ _ ∧ _))

def Place.data (place : Place) : List UInt8 :=
  (bytes.drop (place.offset + 8)).take (be32At bytes place.offset).toNat

/-- What the chunk at a place adds. -/
def Place.found (place : Place) : Chunks :=
  if typeAt bytes place.offset = ascii "IHDR" then
    { place.chunks with
      width := toInt (be32At bytes (place.offset + 8))
      height := toInt (be32At bytes (place.offset + 12))
      colorType := bytes.getD (place.offset + 17) 0 }
  else if typeAt bytes place.offset = ascii "IDAT" then
    { place.chunks with compressed := place.chunks.compressed ++ place.data bytes }
  else place.chunks

/-- There is a whole chunk at the place. -/
def Place.Whole (place : Place) : Prop := chunkEnd bytes place.offset ≤ bytes.length

abbrev Place.IsHeader (place : Place) : Prop := typeAt bytes place.offset = ascii "IHDR"

abbrev Place.IsLast (place : Place) : Prop := typeAt bytes place.offset = ascii "IEND"

/-- The walk goes on behind the chunk. -/
def Place.GoesOn (place : Place) : Prop :=
  place.Whole bytes ∧ ¬ place.IsLast bytes ∧
    (place.IsHeader bytes → HeaderPasses bytes (place.offset + 8))

/-- The walk ends there: with the last chunk, or with what is too short for one. -/
def Place.Ends (place : Place) : Prop :=
  bytes.length < place.offset + 12 ∨ place.Whole bytes ∧ place.IsLast bytes

/-- The next place of the walk. -/
def Place.next (place : Place) : Place := ⟨chunkEnd bytes place.offset, place.found bytes⟩

/-- The places a walk comes to from another one. -/
inductive Reached : Place → Place → Prop
  | here : Reached place place
  | onward : place.GoesOn bytes → Reached (place.next bytes) later → Reached place later

end Places

theorem found_header {place : Place} (header : place.IsHeader bytes) :
    place.found bytes =
      { place.chunks with
        width := toInt (be32At bytes (place.offset + 8))
        height := toInt (be32At bytes (place.offset + 12))
        colorType := bytes.getD (place.offset + 17) 0 } :=
  if_pos header

theorem header_not_data {place : Place} (header : place.IsHeader bytes) :
    typeAt bytes place.offset ≠ ascii "IDAT" := by
  rw [header]
  decide

theorem header_not_last {place : Place} (header : place.IsHeader bytes) : ¬ place.IsLast bytes := by
  unfold Place.IsLast
  rw [header]
  decide

theorem data_not_last {place : Place} (data : typeAt bytes place.offset = ascii "IDAT") :
    ¬ place.IsLast bytes := by
  unfold Place.IsLast
  rw [data]
  decide

theorem goes_header {place : Place} (whole : place.Whole bytes) (header : place.IsHeader bytes) :
    place.GoesOn bytes ↔ HeaderPasses bytes (place.offset + 8) :=
  ⟨fun goes => goes.2.2 header, fun passes => ⟨whole, header_not_last header, fun _ => passes⟩⟩

theorem goes_other {place : Place} (whole : place.Whole bytes) (other : ¬ place.IsHeader bytes)
    (further : ¬ place.IsLast bytes) : place.GoesOn bytes :=
  ⟨whole, further, fun header => absurd header other⟩

theorem found_data {place : Place} (data : typeAt bytes place.offset = ascii "IDAT")
    (other : ¬ place.IsHeader bytes) :
    place.found bytes =
      { place.chunks with compressed := place.chunks.compressed ++ place.data bytes } :=
  (if_neg other).trans (if_pos data)

theorem found_other {place : Place} (other : ¬ place.IsHeader bytes)
    (without : typeAt bytes place.offset ≠ ascii "IDAT") : place.found bytes = place.chunks :=
  (if_neg other).trans (if_neg without)

theorem ends_whole {place : Place} (room : place.offset + 12 ≤ bytes.length)
    (whole : place.Whole bytes) : place.Ends bytes ↔ place.IsLast bytes :=
  ⟨fun ends => ends.elim (fun short => absurd room (Nat.not_le.2 short)) And.right,
    fun last => .inr ⟨whole, last⟩⟩

theorem safely_image_header (held : bytes.length < size.modulus) {place : Place}
    (near : place.offset + 12 < size.modulus) (header : place.IsHeader bytes) :
    Safely kept (checkedImageHeader size bytes (place.offset + 8) place.chunks) ↔
      place.offset + 21 ≤ bytes.length ∧
        (HeaderPasses bytes (place.offset + 8) → kept (place.found bytes)) := by
  have passes : HeaderPasses bytes (place.offset + 8) ↔
      ¬ (bytes.getD (place.offset + 8 + 8) 0 ≠ 8 ∨ bytes.getD (place.offset + 8 + 12) 0 ≠ 0 ∨
        (bytes.getD (place.offset + 8 + 9) 0 ≠ 2 ∧ bytes.getD (place.offset + 8 + 9) 0 ≠ 6)) := by
    unfold HeaderPasses
    tauto
  unfold checkedImageHeader
  simp only [safely_bind, safely_be32 held, safely_indexed held, safely_sized, safely_rejectIf,
    safely_pure, ← passes]
  rw [found_header header]
  constructor
  · rintro ⟨_, _, _, _, _, inside, kept⟩
    exact ⟨inside, kept⟩
  · rintro ⟨inside, kept⟩
    exact ⟨by omega, near, by omega, by omega, by omega, inside, kept⟩

/-- One round of the loop of the minimap. -/
theorem image_step (held : 2 * bytes.length < size.modulus) (place : Place)
    (inside : place.offset ≤ bytes.length) :
    Safely kept (checkedImageChunks size bytes (fuel + 1) place.offset place.chunks) ↔
      (place.offset + 12 ≤ bytes.length → chunkEnd bytes place.offset < size.modulus) ∧
      (place.Whole bytes → place.IsHeader bytes → place.offset + 21 ≤ bytes.length) ∧
      (place.GoesOn bytes → (be32At bytes place.offset).toNat + 4 < 2 ^ 32 ∧
        Safely kept (checkedImageChunks size bytes fuel (place.next bytes).offset
          (place.next bytes).chunks)) ∧
      (place.Ends bytes → kept place.chunks) := by
  have large := modulus_large size
  have stop : place.offset + 4 + 4 + (be32At bytes place.offset).toNat + 4 =
      chunkEnd bytes place.offset := by
    unfold chunkEnd
    omega
  have next : place.offset + 4 + 4 + ((be32At bytes place.offset).toNat + 4) =
      chunkEnd bytes place.offset := stop
  have past : place.offset + 12 ≤ chunkEnd bytes place.offset := Nat.le_add_right _ _
  have type : (bytes.drop (place.offset + 4)).take (place.offset + 4 + 4 - (place.offset + 4)) =
      typeAt bytes place.offset := by
    rw [Nat.add_sub_cancel_left, typeAt]
  rw [checkedImageChunks]
  simp only [safely_bind, safely_sized, safely_if, safely_be32 (Nat.lt_of_le_of_lt
    (Nat.le_mul_of_pos_left _ Nat.two_pos) held), safely_rejectIf, safely_slice, safely_rest,
    safely_ok, stop, next, type]
  by_cases room : place.offset + 12 ≤ bytes.length
  · rw [if_pos room]
    by_cases whole : place.Whole bytes
    · have fits : chunkEnd bytes place.offset < size.modulus :=
        Nat.lt_of_le_of_lt whole (by omega)
      have within : place.offset + 8 + (be32At bytes place.offset).toNat + 4 ≤ bytes.length := by
        unfold Place.Whole chunkEnd at whole
        omega
      have held : bytes.length < size.modulus := by omega
      simp only [show place.offset + 12 < size.modulus by omega,
        show place.offset + 4 ≤ bytes.length by omega, show place.offset + 4 < size.modulus by omega,
        fits, Nat.not_lt.2 whole, show place.offset + 4 ≤ place.offset + 4 + 4 by omega,
        show place.offset + 4 + 4 ≤ bytes.length by omega,
        show place.offset + 4 + 4 < size.modulus by omega, ends_whole room whole, whole, true_and,
        not_false_eq_true, true_implies]
      by_cases header : place.IsHeader bytes
      · rw [if_pos header, Nat.add_assoc place.offset,
          safely_image_header held (by omega) header, goes_header whole header]
        simp only [header_not_last header, false_implies, and_true, implies_true, true_and]
        exact ⟨fun safe => ⟨fun _ => safe.1, safe.2⟩, fun safe => ⟨safe.1 header, safe.2⟩⟩
      · rw [if_neg header]
        by_cases data : typeAt bytes place.offset = ascii "IDAT"
        · rw [if_pos data, Nat.add_assoc place.offset, Nat.add_sub_cancel_left]
          simp only [data_not_last data, header, goes_other whole header (data_not_last data),
            false_implies, and_true, implies_true, true_and, true_implies, Place.next,
            found_data data header]
          exact ⟨fun safe => safe.2.2, fun safe => ⟨by omega, ⟨by omega, by omega⟩, safe⟩⟩
        · rw [if_neg data]
          by_cases last : place.IsLast bytes
          · have goes : ¬ place.GoesOn bytes := fun goes => goes.2.1 last
            rw [if_pos last]
            simp only [goes, header, false_implies, implies_true, true_and]
            exact ⟨fun kept _ => kept, fun kept => kept last⟩
          · rw [if_neg last]
            simp only [goes_other whole header last, header, last, false_implies, and_true,
              implies_true, true_and, true_implies, Place.next, found_other header data]
    · constructor
      · rintro ⟨_, _, _, fits, _⟩
        exact ⟨fun _ => fits, fun further => absurd further whole,
          fun goes => absurd goes.1 whole, fun ends => ends.elim
            (fun short => absurd room (Nat.not_le.2 short)) fun last => absurd last.1 whole⟩
      · rintro ⟨fits, _⟩
        exact ⟨by omega, by omega, by omega, fits room,
          fun further => absurd (Nat.not_lt.1 further) whole⟩
  · rw [if_neg room]
    have short : ¬ place.Whole bytes := fun whole => room (Nat.le_trans past whole)
    constructor
    · rintro ⟨_, kept⟩
      exact ⟨fun further => absurd further room, fun whole => absurd whole short,
        fun goes => absurd goes.1 short, fun _ => kept⟩
    · rintro ⟨_, _, _, ends⟩
      exact ⟨by omega, ends (.inl (Nat.not_le.1 room))⟩

/-- What the map layer looks at in a header: each field only if the one before it is right. -/
def TileHeaderInside (bytes : List UInt8) (start : Nat) : Prop :=
  start + 9 ≤ bytes.length ∧ (bytes.getD (start + 8) 0 = 8 → start + 10 ≤ bytes.length ∧
    (bytes.getD (start + 9) 0 = 2 ∨ bytes.getD (start + 9) 0 = 6 → start + 13 ≤ bytes.length))

theorem safely_tile_header (held : bytes.length < size.modulus) {place : Place}
    (near : place.offset + 12 < size.modulus) (header : place.IsHeader bytes) :
    Safely kept (checkedTileHeader size bytes (place.offset + 8) place.chunks) ↔
      TileHeaderInside bytes (place.offset + 8) ∧
        (HeaderPasses bytes (place.offset + 8) → kept (place.found bytes)) := by
  have colored : ¬ (bytes.getD (place.offset + 8 + 9) 0 ≠ 2 ∧
      bytes.getD (place.offset + 8 + 9) 0 ≠ 6) ↔
      bytes.getD (place.offset + 8 + 9) 0 = 2 ∨ bytes.getD (place.offset + 8 + 9) 0 = 6 := by
    tauto
  unfold checkedTileHeader
  simp only [safely_bind, safely_be32 held, safely_indexed held, safely_sized, safely_rejectIf,
    safely_pure, colored, not_not]
  rw [found_header header]
  unfold TileHeaderInside HeaderPasses
  constructor
  · rintro ⟨_, _, _, depthInside, rest⟩
    exact ⟨⟨depthInside, fun deep => ⟨(rest deep).1, fun color => ((rest deep).2 color).1⟩⟩,
      fun passes => ((rest passes.1).2 passes.2.2).2 passes.2.1⟩
  · rintro ⟨⟨depthInside, rest⟩, passed⟩
    exact ⟨by omega, near, by omega, depthInside, fun deep => ⟨(rest deep).1, fun color =>
      ⟨(rest deep).2 color, fun plain => passed ⟨deep, plain, color⟩⟩⟩⟩

/-- One round of the loop of the map layer, which adds up the length of the last chunk too. -/
theorem tile_step (held : 2 * bytes.length < size.modulus) (place : Place)
    (inside : place.offset ≤ bytes.length) :
    Safely kept (checkedTileChunks size bytes (fuel + 1) place.offset place.chunks) ↔
      (place.offset + 12 ≤ bytes.length → chunkEnd bytes place.offset < size.modulus) ∧
      (place.Whole bytes → place.IsHeader bytes → TileHeaderInside bytes (place.offset + 8)) ∧
      (place.GoesOn bytes → (be32At bytes place.offset).toNat + 4 < 2 ^ 32 ∧
        Safely kept (checkedTileChunks size bytes fuel (place.next bytes).offset
          (place.next bytes).chunks)) ∧
      (place.Whole bytes → place.IsLast bytes → (be32At bytes place.offset).toNat + 4 < 2 ^ 32) ∧
      (place.Ends bytes → kept place.chunks) := by
  have large := modulus_large size
  have stop : place.offset + 4 + 8 + (be32At bytes place.offset).toNat =
      chunkEnd bytes place.offset := by
    unfold chunkEnd
    omega
  have next : place.offset + 4 + 4 + ((be32At bytes place.offset).toNat + 4) =
      chunkEnd bytes place.offset := by
    unfold chunkEnd
    omega
  have past : place.offset + 12 ≤ chunkEnd bytes place.offset := Nat.le_add_right _ _
  have type : (bytes.drop (place.offset + 4)).take (place.offset + 4 + 4 - (place.offset + 4)) =
      typeAt bytes place.offset := by
    rw [Nat.add_sub_cancel_left, typeAt]
  rw [checkedTileChunks]
  simp only [safely_bind, safely_sized, safely_if, safely_be32 (Nat.lt_of_le_of_lt
    (Nat.le_mul_of_pos_left _ Nat.two_pos) held), safely_rejectIf, safely_slice, safely_rest,
    safely_ok, stop, next, type]
  by_cases room : place.offset + 12 ≤ bytes.length
  · rw [if_pos room]
    by_cases whole : place.Whole bytes
    · have fits : chunkEnd bytes place.offset < size.modulus :=
        Nat.lt_of_le_of_lt whole (by omega)
      have within : place.offset + 8 + (be32At bytes place.offset).toNat + 4 ≤ bytes.length := by
        unfold Place.Whole chunkEnd at whole
        omega
      have held : bytes.length < size.modulus := by omega
      simp only [show place.offset + 12 < size.modulus by omega,
        show place.offset + 4 ≤ bytes.length by omega, show place.offset + 4 < size.modulus by omega,
        fits, Nat.not_lt.2 whole, show place.offset + 4 ≤ place.offset + 4 + 4 by omega,
        show place.offset + 4 + 4 ≤ bytes.length by omega,
        show place.offset + 4 + 4 < size.modulus by omega, ends_whole room whole, whole, true_and,
        not_false_eq_true, true_implies]
      by_cases header : place.IsHeader bytes
      · rw [if_pos header, Nat.add_assoc place.offset,
          safely_tile_header held (by omega) header, goes_header whole header]
        simp only [header_not_last header, if_false, false_implies, and_true, implies_true,
          true_and]
        exact ⟨fun safe => ⟨fun _ => safe.1, safe.2⟩, fun safe => ⟨safe.1 header, safe.2⟩⟩
      · rw [if_neg header]
        by_cases data : typeAt bytes place.offset = ascii "IDAT"
        · rw [if_pos data, Nat.add_assoc place.offset, Nat.add_sub_cancel_left]
          simp only [data_not_last data, header, goes_other whole header (data_not_last data),
            if_false, false_implies, and_true, implies_true, true_and, true_implies, Place.next,
            found_data data header]
          exact ⟨fun safe => safe.2.2, fun safe => ⟨by omega, ⟨by omega, by omega⟩, safe⟩⟩
        · rw [if_neg data]
          by_cases last : place.IsLast bytes
          · have goes : ¬ place.GoesOn bytes := fun goes => goes.2.1 last
            rw [if_pos last]
            simp only [goes, header, false_implies, implies_true, true_and]
            exact ⟨fun safe => ⟨fun _ => safe.1, fun _ => safe.2⟩,
              fun safe => ⟨safe.1 last, safe.2 last⟩⟩
          · rw [if_neg last]
            simp only [goes_other whole header last, header, last, false_implies, and_true,
              implies_true, true_and, true_implies, Place.next, found_other header data]
    · constructor
      · rintro ⟨_, _, _, fits, _⟩
        exact ⟨fun _ => fits, fun further => absurd further whole,
          fun goes => absurd goes.1 whole, fun further => absurd further whole,
          fun ends => ends.elim (fun short => absurd room (Nat.not_le.2 short))
            fun last => absurd last.1 whole⟩
      · rintro ⟨fits, _⟩
        exact ⟨by omega, by omega, by omega, fits room,
          fun further => absurd (Nat.not_lt.1 further) whole⟩
  · rw [if_neg room]
    have short : ¬ place.Whole bytes := fun whole => room (Nat.le_trans past whole)
    constructor
    · rintro ⟨_, kept⟩
      exact ⟨fun further => absurd further room, fun whole => absurd whole short,
        fun goes => absurd goes.1 short, fun whole => absurd whole short, fun _ => kept⟩
    · rintro ⟨_, _, _, _, ends⟩
      exact ⟨by omega, ends (.inl (Nat.not_le.1 room))⟩

/-! ### Whole files -/

/-- A walk that does one round after another is safe if every place it comes to is. -/
theorem walk_iff (inside : Place → Prop) (walk : Nat → Place → Prop)
    (round : ∀ fuel place, place.offset ≤ bytes.length → (walk (fuel + 1) place ↔
      inside place ∧ (place.GoesOn bytes → walk fuel (place.next bytes))))
    (start : place.offset ≤ bytes.length) (enough : bytes.length < place.offset + fuel) :
    walk fuel place ↔ ∀ later, Reached bytes place later → inside later := by
  induction fuel generalizing place with
  | zero => exact absurd enough (Nat.not_lt.2 start)
  | succ fuel ih =>
    have behind (goes : place.GoesOn bytes) :
        walk fuel (place.next bytes) ↔
          ∀ later, Reached bytes (place.next bytes) later → inside later := by
      have past : place.offset + 12 ≤ (place.next bytes).offset := Nat.le_add_right _ _
      exact ih goes.1 (by omega)
    rw [round fuel place start]
    constructor
    · rintro ⟨here, onward⟩ later reached
      cases reached with
      | here => exact here
      | onward goes rest => exact (behind goes).1 (onward goes) later rest
    · intro all
      exact ⟨all place .here, fun goes =>
        (behind goes).2 fun later reached => all later (.onward goes reached)⟩

/-- What is needed of a place that the minimap comes to. -/
structure ImageSafe (size : SizeType) (bytes : List UInt8) (place : Place) : Prop where
  stop : place.offset + 12 ≤ bytes.length → chunkEnd bytes place.offset < size.modulus
  header : place.Whole bytes → place.IsHeader bytes → place.offset + 21 ≤ bytes.length
  rest : place.GoesOn bytes → (be32At bytes place.offset).toNat + 4 < 2 ^ 32
  picture : place.Ends bytes → HasPicture place.chunks → PictureFits size place.chunks

/-- What is needed of a place that the map layer comes to, which takes tiles only. -/
structure TileSafe (size : SizeType) (bytes : List UInt8) (place : Place) : Prop where
  stop : place.offset + 12 ≤ bytes.length → chunkEnd bytes place.offset < size.modulus
  header : place.Whole bytes → place.IsHeader bytes → TileHeaderInside bytes (place.offset + 8)
  rest : place.GoesOn bytes ∨ place.Whole bytes ∧ place.IsLast bytes →
    (be32At bytes place.offset).toNat + 4 < 2 ^ 32

/-- Where the walk over a file starts. -/
def first : Place := ⟨8, {}⟩

theorem signed_long (signed : signature.isPrefixOf bytes) : first.offset ≤ bytes.length :=
  (List.isPrefixOf_iff_prefix.1 signed).length_le

theorem image_walk_safe (held : 2 * bytes.length < size.modulus) (uncompress : Uncompress)
    (signed : signature.isPrefixOf bytes) (enough : bytes.length < fuel) :
    Safely (fun chunks => Safe (checkedImage size uncompress chunks))
      (checkedImageChunks size bytes fuel 8 {}) ↔
      ∀ place, Reached bytes first place → ImageSafe size bytes place := by
  refine walk_iff _ (fun fuel place => Safely (fun chunks => Safe (checkedImage size uncompress
    chunks)) (checkedImageChunks size bytes fuel place.offset place.chunks))
    (fun fuel place inside => ?_) (signed_long signed) (by omega)
  rw [image_step held place inside, image_safe_iff]
  exact ⟨fun safe => ⟨⟨safe.1, safe.2.1, fun goes => (safe.2.2.1 goes).1, safe.2.2.2⟩,
      fun goes => (safe.2.2.1 goes).2⟩,
    fun safe => ⟨safe.1.stop, safe.1.header, fun goes => ⟨safe.1.rest goes, safe.2 goes⟩,
      safe.1.picture⟩⟩

/-- Tiles are small enough for every type, so that their pixels are always safe. -/
def checkedTile (size : SizeType) (uncompress : Uncompress) (chunks : Chunks) :
    Except Stop (List UInt32) := do
  rejectIf (chunks.width ≠ kTileSize ∨ chunks.height ≠ kTileSize ∨ chunks.compressed = [])
  let raw ← checkedBytes size uncompress chunks
  forRange (kTileSize * kTileSize) (List.replicate (kTileSize * kTileSize) 0)
    (tilePixel (channelsOf chunks) raw)

theorem tile_pixel_safe {raw : List UInt8} (few : channels = 3 ∨ channels = 4)
    (whole : raw.length = 256 * channels * 256) (total : pixels.length = count)
    (tile : count = 65536) (place : i < count) :
    Safely (·.length = count) (tilePixel channels raw pixels i) := by
  have drawn (alpha r g b : UInt8) : Safely (·.length = count)
      (store Stop.outOfBounds pixels i (argb alpha r g b)) := by
    rw [← total] at place ⊢
    exact (ends_store nofun).2 ⟨place, List.length_set⟩
  unfold tilePixel
  rcases few with rfl | rfl
  · rw [if_neg (by decide)]
    simp only [safely_bind, safely_byteAt, safely_ok]
    exact ⟨by omega, by omega, by omega, drawn _ _ _ _⟩
  · rw [if_pos rfl]
    simp only [safely_bind, safely_byteAt]
    exact ⟨by omega, by omega, by omega, by omega, drawn _ _ _ _⟩

theorem tile_pixels_safe {raw : List UInt8} (few : channels = 3 ∨ channels = 4)
    (whole : raw.length = 256 * channels * 256) (tile : count = 65536) :
    Safe (forRange count (List.replicate count 0) (tilePixel channels raw)) :=
  Ends.imp (forRange_ends List.length_replicate fun _ place _ total =>
    tile_pixel_safe few whole total tile place) fun _ _ => trivial

theorem tile_fits (size : SizeType) {chunks : Chunks} (width : chunks.width = 256)
    (height : chunks.height = 256) : PictureFits size chunks := by
  unfold PictureFits
  rw [width, height]
  rcases channels_few chunks with few | few
  · rw [few]
    exact ⟨by decide, Nat.lt_of_lt_of_le (by decide) (modulus_large size)⟩
  · rw [few]
    exact ⟨by decide, Nat.lt_of_lt_of_le (by decide) (modulus_large size)⟩

theorem tile_safe (size : SizeType) (uncompress : Uncompress) (chunks : Chunks) :
    Safe (checkedTile size uncompress chunks) := by
  refine safely_bind.2 (safely_rejectIf.2 fun tile => ?_)
  simp only [not_or, not_not] at tile
  obtain ⟨width, height, _⟩ := tile
  have positive : 0 < chunks.width := by
    rw [width]
    decide
  refine (bytes_safe positive (tile_fits size width height)).bind fun raw whole => ?_
  rw [width, height, show ((kTileSize : Int)).toNat = 256 from rfl] at whole
  have tile : kTileSize * kTileSize = 65536 := rfl
  generalize kTileSize * kTileSize = count at tile
  exact tile_pixels_safe (channels_few chunks) whole tile

theorem tile_walk_safe (held : 2 * bytes.length < size.modulus) (uncompress : Uncompress)
    (signed : signature.isPrefixOf bytes) (enough : bytes.length < fuel) :
    Safely (fun chunks => Safe (checkedTile size uncompress chunks))
      (checkedTileChunks size bytes fuel 8 {}) ↔
      ∀ place, Reached bytes first place → TileSafe size bytes place := by
  refine walk_iff _ (fun fuel place => Safely (fun chunks => Safe (checkedTile size uncompress
    chunks)) (checkedTileChunks size bytes fuel place.offset place.chunks))
    (fun fuel place inside => ?_) (signed_long signed) (by omega)
  rw [tile_step held place inside]
  constructor
  · rintro ⟨stop, header, onward, last, _⟩
    exact ⟨⟨stop, header, fun rest => rest.elim (fun goes => (onward goes).1)
      fun ends => last ends.1 ends.2⟩, fun goes => (onward goes).2⟩
  · rintro ⟨safe, onward⟩
    exact ⟨safe.stop, safe.header, fun goes => ⟨safe.rest (.inl goes), onward goes⟩,
      fun whole last => safe.rest (.inr ⟨whole, last⟩), fun _ => tile_safe size uncompress _⟩

/-- The decoders are safe on exactly the files whose places are all safe, whatever inflating
their data gives. No vector of bytes is longer than half of what `size_t` can count. -/
theorem decoding_safe_iff (size : SizeType) (uncompress : Uncompress) (fuel : Nat)
    (bytes : List UInt8) (held : 2 * bytes.length < size.modulus) (enough : bytes.length < fuel) :
    (Safe (checkedDecodePngBytes size uncompress fuel bytes) ↔ (signature.isPrefixOf bytes →
      ∀ place, Reached bytes first place → ImageSafe size bytes place)) ∧
    (Safe (checkedDecodePng size uncompress fuel bytes) ↔ (signature.isPrefixOf bytes →
      ∀ place, Reached bytes first place → TileSafe size bytes place)) := by
  constructor
  · refine (safely_bind.trans safely_rejectIf).trans ?_
    rw [not_not]
    exact forall_congr' fun signed =>
      safely_bind.trans (image_walk_safe held uncompress signed enough)
  · refine (safely_bind.trans safely_rejectIf).trans ?_
    rw [not_not]
    exact forall_congr' fun signed =>
      safely_bind.trans (tile_walk_safe held uncompress signed enough)

/-- A file with a header, some data and an end. -/
def pixelFile : List UInt8 :=
  signature ++ [0, 0, 0, 13] ++ ascii "IHDR" ++ [0, 0, 0, 1, 0, 0, 0, 1, 8, 2, 0, 0, 0] ++
    [0, 0, 0, 0] ++ [0, 0, 0, 3] ++ ascii "IDAT" ++ [1, 2, 3] ++ [0, 0, 0, 0] ++
    [0, 0, 0, 0] ++ ascii "IEND" ++ [0, 0, 0, 0]

def pixelData : Place := ⟨33, { width := 1, height := 1, colorType := 2 }⟩

def pixelEnd : Place := ⟨48, { width := 1, height := 1, colorType := 2, compressed := [1, 2, 3] }⟩

theorem pixel_places (reached : Reached pixelFile first place) :
    place = first ∨ place = pixelData ∨ place = pixelEnd := by
  have second : first.next pixelFile = pixelData := by decide +kernel
  have third : pixelData.next pixelFile = pixelEnd := by decide +kernel
  cases reached with
  | here => exact .inl rfl
  | onward _ rest =>
    rw [second] at rest
    cases rest with
    | here => exact .inr (.inl rfl)
    | onward _ rest =>
      rw [third] at rest
      cases rest with
      | here => exact .inr (.inr rfl)
      | onward goes _ => exact absurd (by decide +kernel) goes.2.1

theorem pixel_file_safe :
    Safe (checkedDecodePngBytes .bits32 (fun _ _ => none) 61 pixelFile) ∧
      Safe (checkedDecodePng .bits32 (fun _ _ => none) 61 pixelFile) := by
  have inside (place : Place) (reached : Reached pixelFile first place) :
      chunkEnd pixelFile place.offset < SizeType.modulus .bits32 ∧
        (be32At pixelFile place.offset).toNat + 4 < 2 ^ 32 ∧
        (place.IsHeader pixelFile → place.offset + 21 ≤ pixelFile.length) ∧
        PictureFits .bits32 place.chunks := by
    unfold PictureFits
    rcases pixel_places reached with rfl | rfl | rfl <;> decide +kernel
  have safe := decoding_safe_iff .bits32 (fun _ _ => none) 61 pixelFile (by decide +kernel)
    (by decide +kernel)
  refine ⟨safe.1.2 fun _ place reached => ?_, safe.2.2 fun _ place reached => ?_⟩
  · obtain ⟨stop, rest, header, picture⟩ := inside place reached
    exact ⟨fun _ => stop, fun _ => header, fun _ => rest, fun _ _ => picture⟩
  · obtain ⟨stop, rest, header, _⟩ := inside place reached
    refine ⟨fun _ => stop, fun _ own => ?_, fun _ => rest⟩
    have whole := header own
    exact ⟨by omega, fun _ => ⟨by omega, fun _ => by omega⟩⟩

/-- A header without any data, at the end of its file. -/
def emptyHeader : List UInt8 := signature ++ [0, 0, 0, 0] ++ ascii "IHDR" ++ [0, 0, 0, 0]

theorem header_read_behind :
    decodePngBytes .bits64 (fun _ _ => none) nowhere 21 emptyHeader = .error .outOfBounds ∧
      decodePng .bits64 (fun _ _ => none) nowhere 21 emptyHeader = .error .outOfBounds ∧
      ¬ Safe (checkedDecodePngBytes .bits64 (fun _ _ => none) 21 emptyHeader) ∧
      ¬ Safe (checkedDecodePng .bits64 (fun _ _ => none) 21 emptyHeader) := by
  have image : checkedDecodePngBytes .bits64 (fun _ _ => none) 21 emptyHeader =
      .error .outOfBounds := by decide +kernel
  have tile : checkedDecodePng .bits64 (fun _ _ => none) 21 emptyHeader =
      .error .outOfBounds := by decide +kernel
  refine ⟨by decide +kernel, by decide +kernel, ?_, ?_⟩
  · rw [image]
    exact nofun
  · rw [tile]
    exact nofun

end Glide.PngBounds
