import Glide.PngBounds
import Glide.PngFilters

/-! The two decoders of PNG images on one file, each with bytes of its own behind it. They agree
on every file but those that such bytes complete to a tile. -/
namespace Glide.PngAgreement
open Library AsciiText CheckedBuffers PngImages PngBounds

/-- What stands where a file has no byte. -/
abbrev Memory := Nat → UInt8

def found (memory : Memory) : Elsewhere := fun index => .ok (memory index)

/-! ### The walk over the chunks -/

section Walk
variable (size : SizeType) (bytes : List UInt8) (memory : Memory)

def byteOf (index : Nat) : UInt8 := bytes.getD index (memory index)

def be32Of (offset : Nat) : UInt32 :=
  (byteOf bytes memory offset).toUInt32 <<< 24 |||
    (byteOf bytes memory (offset + 1)).toUInt32 <<< 16 |||
    (byteOf bytes memory (offset + 2)).toUInt32 <<< 8 ||| (byteOf bytes memory (offset + 3)).toUInt32

/-- The fields of a header are those of an image that can be taken. -/
def Passes (start : Nat) : Prop :=
  byteOf bytes memory (start + 8) = 8 ∧ byteOf bytes memory (start + 12) = 0 ∧
    (byteOf bytes memory (start + 9) = 2 ∨ byteOf bytes memory (start + 9) = 6)

instance (start : Nat) : Decidable (Passes bytes memory start) :=
  inferInstanceAs (Decidable (_ ∧ _ ∧ _))

def headerAt (start : Nat) (chunks : Chunks) : Chunks :=
  { chunks with
    width := toInt (be32Of bytes memory start)
    height := toInt (be32Of bytes memory (start + 4))
    colorType := byteOf bytes memory (start + 9) }

abbrev IsData (place : Place) : Prop := typeAt bytes place.offset = ascii "IDAT"

/-- There is a whole chunk at the place. The end of a chunk is computed in `size_t`. -/
def Whole (place : Place) : Prop :=
  place.offset + 12 ≤ bytes.length ∧ size.wrap (chunkEnd bytes place.offset) ≤ bytes.length

/-- The walk goes on behind the chunk. No data is taken whose end was wrapped. -/
structure GoesOn (place : Place) : Prop where
  whole : Whole size bytes place
  further : ¬ place.IsLast bytes
  passes : place.IsHeader bytes → Passes bytes memory (place.offset + 8)
  data : IsData bytes place → chunkEnd bytes place.offset < size.modulus

/-- What the chunk at a place adds. -/
def taken (place : Place) : Chunks :=
  if place.IsHeader bytes then headerAt bytes memory (place.offset + 8) place.chunks
  else if IsData bytes place then
    { place.chunks with compressed := place.chunks.compressed ++ place.data bytes }
  else place.chunks

/-- The next place of the walk. The data and what is behind it are added up in 32 bits. -/
def next (place : Place) : Place :=
  ⟨size.wrap (place.offset + 8 + (be32At bytes place.offset + 4).toNat), taken bytes memory place⟩

/-- The walk ends there: with what is too short for a chunk, or with the last chunk. -/
def Stops (place : Place) : Prop :=
  bytes.length < place.offset + 12 ∨ Whole size bytes place ∧ place.IsLast bytes

/-- The places a walk comes to from another one. -/
inductive Walks : Place → Place → Prop
  | here : Walks place place
  | onward : GoesOn size bytes memory place → Walks (next size bytes memory place) later →
      Walks place later

end Walk

theorem Walks.trans (walks : Walks size bytes memory place between)
    (further : Walks size bytes memory between later) : Walks size bytes memory place later := by
  induction walks with
  | here => exact further
  | onward goes rest ih => exact .onward goes (ih further)

theorem wrap_fits (fits : number < SizeType.modulus size) : size.wrap number = number :=
  Nat.mod_eq_of_lt fits

theorem fileByte_found (memory : Memory) (bytes : List UInt8) (index : Nat) :
    fileByte (found memory) bytes index = .ok (byteOf bytes memory index) := by
  unfold fileByte byteOf
  rw [List.getD_eq_getElem?_getD]
  cases bytes[index]? with
  | none => rfl
  | some byte => rfl

theorem readBe32_found (memory : Memory) (bytes : List UInt8)
    (fits : offset + 3 < SizeType.modulus size) :
    readBe32 size (found memory) bytes offset = .ok (be32Of bytes memory offset) := by
  have near (count : Nat) (few : count ≤ 3) : size.wrap (offset + count) = offset + count :=
    wrap_fits (by omega)
  unfold readBe32
  simp only [fileByte_found, near 1 (by decide), near 2 (by decide), near 3 (by decide)]
  rfl

/-- Inside of the file the bytes behind it do not matter. -/
theorem byteOf_inside (memory other : Memory) {bytes : List UInt8} (inside : index < bytes.length) :
    byteOf bytes memory index = byteOf bytes other index := by
  unfold byteOf
  rw [List.getD_eq_getElem?_getD, List.getD_eq_getElem?_getD, List.getElem?_eq_getElem inside]
  rfl

theorem be32Of_inside (memory other : Memory) {bytes : List UInt8}
    (inside : offset + 4 ≤ bytes.length) :
    be32Of bytes memory offset = be32Of bytes other offset := by
  unfold be32Of
  rw [byteOf_inside memory other (by omega), byteOf_inside memory other (by omega),
    byteOf_inside memory other (by omega), byteOf_inside memory other (by omega)]

theorem imageHeader_found (memory : Memory) (bytes : List UInt8) (chunks : Chunks)
    (fits : start + 12 < SizeType.modulus size) :
    imageHeader size (found memory) bytes start chunks =
      if Passes bytes memory start then .ok (headerAt bytes memory start chunks)
      else .error .rejected := by
  have near (count : Nat) (few : count ≤ 12) : size.wrap (start + count) = start + count :=
    wrap_fits (by omega)
  have width : readBe32 size (found memory) bytes start = _ := readBe32_found memory bytes (by omega)
  have height : readBe32 size (found memory) bytes (start + 4) = _ :=
    readBe32_found memory bytes (by omega)
  unfold imageHeader
  simp only [near 4 (by decide), near 8 (by decide), near 9 (by decide), near 12 (by decide), width,
    height, fileByte_found]
  by_cases passes : Passes bytes memory start
  · have taken : ¬ (byteOf bytes memory (start + 8) ≠ 8 ∨ byteOf bytes memory (start + 12) ≠ 0 ∨
        (byteOf bytes memory (start + 9) ≠ 2 ∧ byteOf bytes memory (start + 9) ≠ 6)) := by
      unfold Passes at passes
      tauto
    rw [if_pos passes]
    change (rejectIf _ >>= fun _ => _) = _
    rw [rejectIf, if_neg taken]
    rfl
  · have refused : byteOf bytes memory (start + 8) ≠ 8 ∨ byteOf bytes memory (start + 12) ≠ 0 ∨
        (byteOf bytes memory (start + 9) ≠ 2 ∧ byteOf bytes memory (start + 9) ≠ 6) := by
      unfold Passes at passes
      tauto
    rw [if_neg passes]
    change (rejectIf _ >>= fun _ => _) = _
    rw [rejectIf, if_pos refused]
    rfl

/-- The length of a chunk is inside of the file. -/
theorem be32At_of (memory : Memory) {bytes : List UInt8} (inside : offset + 4 ≤ bytes.length) :
    be32Of bytes memory offset = be32At bytes offset :=
  be32Of_inside memory (fun _ => 0) inside

theorem data_not_header {place : Place} (data : IsData bytes place) : ¬ place.IsHeader bytes :=
  fun header => header_not_data header data

theorem taken_header {place : Place} (memory : Memory) (header : place.IsHeader bytes) :
    taken bytes memory place = headerAt bytes memory (place.offset + 8) place.chunks :=
  if_pos header

theorem taken_data {place : Place} (memory : Memory) (data : IsData bytes place) :
    taken bytes memory place =
      { place.chunks with compressed := place.chunks.compressed ++ place.data bytes } :=
  (if_neg (data_not_header data)).trans (if_pos data)

theorem taken_other {place : Place} (memory : Memory) (other : ¬ place.IsHeader bytes)
    (without : ¬ IsData bytes place) : taken bytes memory place = place.chunks :=
  (if_neg other).trans (if_neg without)

/-- A chunk that is no last one does not end the walk. -/
theorem not_stops {place : Place} (more : place.offset + 12 ≤ bytes.length)
    (further : ¬ place.IsLast bytes) : ¬ Stops size bytes place := by
  rintro (short | ⟨_, last⟩)
  · omega
  · exact further last

theorem GoesOn.not_stops {place : Place} (goes : GoesOn size bytes memory place) :
    ¬ Stops size bytes place := PngAgreement.not_stops goes.whole.1 goes.further

/-- Where the walk goes on, the result is that of the rest of it. -/
theorem GoesOn.round {rest : Prop} {place : Place} (goes : GoesOn size bytes memory place) :
    rest ↔
      Stops size bytes place ∧ place.chunks = result ∨ GoesOn size bytes memory place ∧ rest :=
  ⟨fun done => .inr ⟨goes, done⟩,
    fun round => round.elim (fun ended => absurd ended.1 goes.not_stops) And.right⟩

/-- Where it ends, the rest of it does not matter. -/
theorem Stops.round {rest : Prop} {place : Place} (memory : Memory)
    (stops : Stops size bytes place) :
    (.ok place.chunks : Except Stop Chunks) = .ok result ↔
      Stops size bytes place ∧ place.chunks = result ∨ GoesOn size bytes memory place ∧ rest :=
  ⟨fun ended => .inl ⟨stops, Except.ok.inj ended⟩,
    fun round => round.elim (congrArg _ ·.2) fun onward => absurd stops onward.1.not_stops⟩

/-- Where it does neither, the file is refused. -/
theorem refused_round {rest : Prop} {place : Place} {stop : Stop}
    (endless : ¬ Stops size bytes place) (blocked : ¬ GoesOn size bytes memory place) :
    (.error stop : Except Stop Chunks) = .ok result ↔
      Stops size bytes place ∧ place.chunks = result ∨ GoesOn size bytes memory place ∧ rest := by
  constructor
  · intro refused
    cases refused
  · rintro (⟨stops, _⟩ | ⟨goes, _⟩)
    · exact absurd stops endless
    · exact absurd goes blocked

/-- Data whose end was wrapped has no place in the file. -/
theorem wrapped_data (held : 2 * bytes.length < SizeType.modulus size)
    (wraps : size.modulus ≤ chunkEnd bytes offset) :
    ¬ (offset + 8 ≤ size.wrap (offset + 8 + (be32At bytes offset).toNat) ∧
      size.wrap (offset + 8 + (be32At bytes offset).toNat) ≤ bytes.length) := by
  have large := modulus_large size
  have length := (be32At bytes offset).toNat_lt
  unfold chunkEnd at wraps
  rintro ⟨behind, own⟩
  by_cases fits : offset + 8 + (be32At bytes offset).toNat < size.modulus
  · rw [wrap_fits fits] at own
    omega
  · have once : size.wrap (offset + 8 + (be32At bytes offset).toNat) =
        offset + 8 + (be32At bytes offset).toNat - size.modulus := by
      unfold SizeType.wrap
      rw [Nat.mod_eq_sub_mod (Nat.not_lt.1 fits), Nat.mod_eq_of_lt (by omega)]
    rw [once] at behind
    omega

/-- One round of the loop over the chunks. -/
theorem image_round (held : 2 * bytes.length < SizeType.modulus size) (memory : Memory)
    (place : Place) (inside : place.offset ≤ bytes.length) :
    imageChunks size (found memory) bytes (fuel + 1) place.offset place.chunks = .ok result ↔
      Stops size bytes place ∧ place.chunks = result ∨
        GoesOn size bytes memory place ∧
          imageChunks size (found memory) bytes fuel (next size bytes memory place).offset
            (next size bytes memory place).chunks = .ok result := by
  have large := modulus_large size
  have room (count : Nat) (few : count ≤ 2 ^ 10) : size.wrap (place.offset + count) =
      place.offset + count := wrap_fits (by omega)
  have stop : place.offset + 8 + (be32At bytes place.offset).toNat + 4 =
      chunkEnd bytes place.offset := by
    unfold chunkEnd
    omega
  rw [imageChunks]
  generalize imageChunks size (found memory) bytes fuel = walk
  simp only [room 12 (by decide), room 4 (by decide), Nat.add_assoc place.offset 4 4,
    room 8 (by decide)]
  by_cases more : place.offset + 12 ≤ bytes.length
  · rw [if_pos more, readBe32_found memory bytes (by omega), be32At_of memory (by omega)]
    change (rejectIf _ >>= fun _ => _) = _ ↔ _
    rw [stop]
    by_cases whole : size.wrap (chunkEnd bytes place.offset) ≤ bytes.length
    · rw [rejectIf, if_neg (Nat.not_lt.2 whole)]
      change (slice _ _ _ _ >>= fun _ => _) = _ ↔ _
      have type : (bytes.drop (place.offset + 4)).take (place.offset + 8 - (place.offset + 4)) =
          typeAt bytes place.offset := by
        rw [Nat.add_sub_add_left, typeAt]
      rw [slice_inside _ (by omega) (by omega), type]
      change (if place.IsHeader bytes then _ else if IsData bytes place then _
        else if place.IsLast bytes then _ else _) = _ ↔ _
      by_cases header : place.IsHeader bytes
      · have further := header_not_last header
        rw [if_pos header, imageHeader_found memory bytes _ (by omega), next,
          taken_header memory header]
        by_cases passes : Passes bytes memory (place.offset + 8)
        · rw [if_pos passes]
          exact GoesOn.round ⟨⟨more, whole⟩, further, fun _ => passes,
            fun data => absurd header (data_not_header data)⟩
        · rw [if_neg passes]
          exact refused_round (not_stops more further) fun goes => passes (goes.passes header)
      rw [if_neg header]
      by_cases data : IsData bytes place
      · have further := data_not_last data
        rw [if_pos data, next, taken_data memory data]
        by_cases fits : chunkEnd bytes place.offset < size.modulus
        · have near := whole
          rw [wrap_fits fits] at near
          rw [wrap_fits (by omega), slice_inside _ (by omega) (by omega), Nat.add_sub_cancel_left]
          exact GoesOn.round ⟨⟨more, whole⟩, further, fun other => absurd other header, fun _ => fits⟩
        · have outside := wrapped_data held (Nat.not_lt.1 fits)
          rw [slice, if_neg outside]
          exact refused_round (not_stops more further) fun goes => fits (goes.data data)
      rw [if_neg data, next, taken_other memory header data]
      by_cases last : place.IsLast bytes
      · rw [if_pos last]
        exact Stops.round memory (.inr ⟨⟨more, whole⟩, last⟩)
      · rw [if_neg last]
        exact GoesOn.round
          ⟨⟨more, whole⟩, last, fun other => absurd other header, fun other => absurd other data⟩
    · rw [rejectIf, if_pos (Nat.not_le.1 whole)]
      refine refused_round ?_ fun goes => whole goes.whole.2
      rintro (short | ⟨ends, _⟩)
      · omega
      · exact whole ends.2
  · rw [if_neg more]
    exact Stops.round memory (.inl (Nat.not_le.1 more))

/-- The walk stays inside of the file. -/
theorem next_inside (held : 2 * bytes.length < SizeType.modulus size) (memory : Memory)
    {place : Place} (goes : GoesOn size bytes memory place) :
    (next size bytes memory place).offset ≤ bytes.length := by
  obtain ⟨more, whole⟩ := goes.whole
  have large := modulus_large size
  have length := (be32At bytes place.offset).toNat_lt
  have sum : (be32At bytes place.offset + 4).toNat =
      ((be32At bytes place.offset).toNat + 4) % 2 ^ 32 := UInt32.toNat_add _ _
  change size.wrap (place.offset + 8 + (be32At bytes place.offset + 4).toNat) ≤ bytes.length
  rw [sum]
  unfold chunkEnd at whole
  cases size with
  | bits32 =>
    unfold SizeType.wrap SizeType.modulus at *
    dsimp only at *
    omega
  | bits64 =>
    unfold SizeType.wrap SizeType.modulus at *
    dsimp only at *
    omega

/-- Where a header is all in the file, the walk goes on alike with other bytes behind it. -/
theorem goes_alike {place : Place} (memory other : Memory)
    (whole : place.IsHeader bytes → place.offset + 21 ≤ bytes.length)
    (goes : GoesOn size bytes memory place) :
    GoesOn size bytes other place ∧ next size bytes other place = next size bytes memory place := by
  by_cases header : place.IsHeader bytes
  · have own := whole header
    have depth : byteOf bytes other (place.offset + 8 + 8) = byteOf bytes memory _ :=
      byteOf_inside other memory (by omega)
    have color : byteOf bytes other (place.offset + 8 + 9) = byteOf bytes memory _ :=
      byteOf_inside other memory (by omega)
    have interlace : byteOf bytes other (place.offset + 8 + 12) = byteOf bytes memory _ :=
      byteOf_inside other memory (by omega)
    refine ⟨⟨goes.whole, goes.further, fun _ => ?_, goes.data⟩, ?_⟩
    · unfold Passes
      rw [depth, color, interlace]
      exact goes.passes header
    · unfold next
      rw [taken_header other header, taken_header memory header]
      unfold headerAt
      rw [color, be32Of_inside other memory (by omega), be32Of_inside other memory (by omega)]
  · refine ⟨⟨goes.whole, goes.further, fun own => absurd own header, goes.data⟩, ?_⟩
    unfold next taken
    rw [if_neg header, if_neg header]

/-! ### Runs over a file -/

section Runs
variable {size : SizeType} {bytes : List UInt8} {memory : Memory}
variable (held : 2 * bytes.length < size.modulus)
include held

/-- A loop that comes to its end has walked there. -/
theorem walks_of_ok {place : Place} (inside : place.offset ≤ bytes.length)
    (ended : imageChunks size (found memory) bytes fuel place.offset place.chunks = .ok result) :
    ∃ last, Walks size bytes memory place last ∧ Stops size bytes last ∧ last.chunks = result := by
  induction fuel generalizing place with
  | zero => cases ended
  | succ fuel ih =>
    obtain ⟨stops, same⟩ | ⟨goes, rest⟩ := (image_round held memory place inside).1 ended
    · exact ⟨place, .here, stops, same⟩
    · obtain ⟨last, walks, stops, same⟩ := ih (next_inside held memory goes) rest
      exact ⟨last, .onward goes walks, stops, same⟩

/-- A walk to an end is one of the loop, if that may go on long enough. -/
theorem ok_of_walks {place last : Place} (inside : place.offset ≤ bytes.length)
    (walks : Walks size bytes memory place last) (stops : Stops size bytes last) :
    ∃ fuel, imageChunks size (found memory) bytes fuel place.offset place.chunks =
      .ok last.chunks := by
  induction walks with
  | here => exact ⟨1, (image_round held memory _ inside).2 (.inl ⟨stops, rfl⟩)⟩
  | onward goes rest ih =>
    obtain ⟨fuel, ended⟩ := ih (next_inside held memory goes) stops
    exact ⟨fuel + 1, (image_round held memory _ inside).2 (.inr ⟨goes, ended⟩)⟩

/-- A loop that takes no header from behind the file comes to the same with other bytes there. -/
theorem ok_alike {place : Place} (other : Memory) (inside : place.offset ≤ bytes.length)
    (free : ∀ cut last, Walks size bytes memory place cut → cut.IsHeader bytes →
      bytes.length < cut.offset + 21 → GoesOn size bytes memory cut →
      Walks size bytes memory (next size bytes memory cut) last → Stops size bytes last →
      last.chunks ≠ result)
    (ended : imageChunks size (found memory) bytes fuel place.offset place.chunks = .ok result) :
    imageChunks size (found other) bytes fuel place.offset place.chunks = .ok result := by
  induction fuel generalizing place with
  | zero => cases ended
  | succ fuel ih =>
    refine (image_round held other place inside).2 ?_
    obtain ended | ⟨goes, rest⟩ := (image_round held memory place inside).1 ended
    · exact .inl ended
    · have near := next_inside held memory goes
      have whole : place.IsHeader bytes → place.offset + 21 ≤ bytes.length := by
        intro header
        by_contra short
        obtain ⟨last, walks, stops, same⟩ := walks_of_ok held near rest
        exact free place last .here header (Nat.not_le.1 short) goes walks stops same
      obtain ⟨alike, same⟩ := goes_alike memory other whole goes
      refine .inr ⟨alike, ?_⟩
      rw [same]
      exact ih near (fun cut last walks => free cut last (.onward goes walks)) rest

/-- A header that is not all in the file is refused with a byte behind it that says so. -/
theorem cut_refused {place cut : Place} (inside : place.offset ≤ bytes.length)
    (walks : Walks size bytes memory place cut) (header : cut.IsHeader bytes)
    (short : bytes.length < cut.offset + 21) (goes : GoesOn size bytes memory cut) :
    imageChunks size (found fun _ => 1) bytes fuel place.offset place.chunks ≠ .ok result := by
  have refused (place : Place) (header : place.IsHeader bytes)
      (short : bytes.length < place.offset + 21) : ¬ GoesOn size bytes (fun _ => 1) place := by
    intro passed
    have interlace : byteOf bytes (fun _ => 1) (place.offset + 8 + 12) = 1 := by
      unfold byteOf
      rw [List.getD_eq_getElem?_getD, List.getElem?_eq_none (by omega)]
      rfl
    have plain := (passed.passes header).2.1
    rw [interlace] at plain
    exact absurd plain (by decide)
  induction walks generalizing fuel with
  | here =>
    intro ended
    cases fuel with
    | zero => cases ended
    | succ fuel =>
      obtain ⟨stops, _⟩ | ⟨passed, _⟩ := (image_round held _ _ inside).1 ended
      · exact goes.not_stops stops
      · exact refused _ header short passed
  | @onward place later first rest ih =>
    intro ended
    cases fuel with
    | zero => cases ended
    | succ fuel =>
      obtain ⟨stops, _⟩ | ⟨passed, further⟩ := (image_round held _ _ inside).1 ended
      · exact first.not_stops stops
      · by_cases own : place.IsHeader bytes → place.offset + 21 ≤ bytes.length
        · obtain ⟨_, same⟩ := goes_alike memory (fun _ => 1) own first
          rw [same] at further
          exact ih (next_inside held memory first) header short goes further
        · obtain ⟨own, cut⟩ := Classical.not_imp.1 own
          exact refused place own (Nat.not_le.1 cut) passed

end Runs

/-! ### The pixels of a tile -/

/-- What the map layer does with the chunks of a file. -/
def tilePixels (size : SizeType) (uncompress : Uncompress) (chunks : Chunks) :
    Except Stop (List UInt32) := do
  rejectIf (chunks.width ≠ kTileSize ∨ chunks.height ≠ kTileSize ∨ chunks.compressed = [])
  let raw ← imageBytes size uncompress chunks
  forRange (kTileSize * kTileSize) (List.replicate (kTileSize * kTileSize) 0)
    (tilePixel (channelsOf chunks) raw)

/-- The chunks are those of a tile: their data inflates to its rows, each with a filter there is. -/
structure MakesTile (uncompress : Uncompress) (chunks : Chunks) : Prop where
  width : chunks.width = kTileSize
  height : chunks.height = kTileSize
  data : chunks.compressed ≠ []
  rows : let rowSize := kTileSize * channelsOf chunks + 1
    ∃ filtered, uncompress chunks.compressed (rowSize * kTileSize) = some filtered ∧
      filtered.length = rowSize * kTileSize ∧
      ∀ y < kTileSize, filtered.getD (y * rowSize) 0 ≤ 4

/-- A computation that turns nothing down. -/
abbrev Takes (result : Except Stop α) : Prop := Ends (fun _ => True) (· ≠ .rejected) result

theorem predictor_ok_iff :
    (∃ value, predictor filter left up upperLeft = .ok value) ↔ filter ≤ 4 := by
  have numbers : filter ≤ 4 ↔ filter = 0 ∨ filter = 1 ∨ filter = 2 ∨ filter = 3 ∨ filter = 4 := by
    rw [UInt8.le_iff_toNat_le]
    simp only [← UInt8.toNat_inj]
    change filter.toNat ≤ 4 ↔ filter.toNat = 0 ∨ filter.toNat = 1 ∨ filter.toNat = 2 ∨
      filter.toNat = 3 ∨ filter.toNat = 4
    omega
  rw [numbers]
  unfold predictor
  repeat' split
  all_goals simp_all

theorem imageBytes_tile (size : SizeType) (uncompress : Uncompress) {chunks : Chunks}
    (width : chunks.width = kTileSize) (height : chunks.height = kTileSize) :
    imageBytes size uncompress chunks =
      (inflate uncompress chunks.compressed ((kTileSize * channelsOf chunks + 1) * kTileSize) >>=
        reconstruct size (channelsOf chunks) (kTileSize * channelsOf chunks) kTileSize) := by
  unfold imageBytes
  rw [width, height]
  rcases channels_few chunks with few | few
  · rw [few]
    have stride : size.wrap (768 : Int).toNat = 768 := wrap_small size (by decide)
    have length : size.wrap ((768 + 1) * 256) = (768 + 1) * 256 := wrap_small size (by decide)
    change (inflate uncompress chunks.compressed (size.wrap ((size.wrap (768 : Int).toNat + 1) * 256))
      >>= reconstruct size 3 (size.wrap (768 : Int).toNat) 256) = _
    rw [stride, length]
    rfl
  · rw [few]
    have stride : size.wrap (1024 : Int).toNat = 1024 := wrap_small size (by decide)
    have length : size.wrap ((1024 + 1) * 256) = (1024 + 1) * 256 := wrap_small size (by decide)
    change (inflate uncompress chunks.compressed
      (size.wrap ((size.wrap (1024 : Int).toNat + 1) * 256)) >>=
        reconstruct size 4 (size.wrap (1024 : Int).toNat) 256) = _
    rw [stride, length]
    rfl

theorem inflate_ok_iff : inflate uncompress compressed length = .ok filtered ↔
    uncompress compressed length = some filtered ∧ filtered.length = length := by
  unfold inflate
  split
  · rename_i other inflated
    rw [inflated]
    split
    · rename_i fills
      exact ⟨fun same => by cases same; exact ⟨rfl, fills⟩, fun same => by cases same.1; rfl⟩
    · rename_i short
      exact ⟨nofun, fun same => by cases same.1; exact absurd same.2 short⟩
  · rename_i failed
    rw [failed]
    exact ⟨nofun, nofun⟩

theorem byteAt_ok (read : byteAt bytes index = .ok value) : bytes.getD index 0 = value := by
  unfold byteAt load at read
  rw [List.getD_eq_getElem?_getD]
  split at read
  · rename_i own there
    cases read
    rw [there]
    rfl
  · cases read

/-- What a row comes to depends on what its filter predicts; a read may be outside anywhere. -/
theorem ends_byte {kept : List UInt8 → Prop} {expected : Stop → Prop}
    (outside : expected .outOfBounds)
    (predicts : ∀ left up upperLeft, Ends (fun _ => ∀ value,
      Ends kept expected (store .outOfBounds raw (row + x) value)) expected
        (predictor filter left up upperLeft)) :
    Ends kept expected (reconstructByte channels filtered filter source row previous raw x) := by
  have any {bytes : List UInt8} {index : Nat} :
      Ends (fun _ => True) expected (byteAt bytes index) := by
    unfold byteAt load
    split
    · exact trivial
    · exact outside
  have written (left up upperLeft : UInt8) : Ends kept expected (do
      let predicted ← predictor filter left up upperLeft
      let value ← byteAt filtered (source + x)
      store .outOfBounds raw (row + x) (value + predicted)) :=
    (predicts left up upperLeft).bind fun _ stored => any.bind fun _ _ => stored _
  unfold reconstructByte
  cases previous with
  | none =>
    by_cases further : channels ≤ x
    · rw [if_pos further]
      exact any.bind fun left _ => written left 0 0
    · rw [if_neg further]
      exact written 0 0 0
  | some start =>
    by_cases further : channels ≤ x
    · simp only [if_pos further]
      exact any.bind fun left _ => any.bind fun up _ => any.bind fun upperLeft _ =>
        written left up upperLeft
    · simp only [if_neg further]
      exact any.bind fun up _ => written 0 up 0

theorem takes_byte (known : filter ≤ 4) :
    Takes (reconstructByte channels filtered filter source row previous raw x) := by
  refine ends_byte nofun fun left up upperLeft => ?_
  obtain ⟨predicted, same⟩ := predictor_ok_iff.2 known
  rw [same]
  intro value
  unfold store
  split
  · exact trivial
  · exact nofun

/-- A row whose bytes can be rebuilt has a filter there is. -/
theorem filter_of_row (fits : y * (stride + 1) < SizeType.modulus size) (wide : 0 < stride)
    (done : reconstructRow size channels stride filtered raw y = .ok after) :
    filtered.getD (y * (stride + 1)) 0 ≤ 4 := by
  unfold reconstructRow at done
  rw [wrap_fits fits, bind_ok_iff] at done
  obtain ⟨filter, read, rebuilt⟩ := done
  obtain ⟨before, later, first⟩ := forRange_each rebuilt 0 wide
  rw [byteAt_ok read]
  by_contra unknown
  have never : Ends (fun _ => False) (fun _ => True) (reconstructByte channels filtered filter
      (size.wrap (y * (stride + 1) + 1)) (size.wrap (y * stride))
      (if 0 < y then some (size.wrap ((y - 1) * stride)) else none) before 0) := by
    refine ends_byte trivial fun left up upperLeft => ?_
    cases predicted : predictor filter left up upperLeft with
    | ok value => exact absurd (predictor_ok_iff.1 ⟨value, predicted⟩) unknown
    | error stop => exact trivial
  rw [first] at never
  exact never

theorem takes_row (fits : y * (stride + 1) < SizeType.modulus size)
    (known : filtered.getD (y * (stride + 1)) 0 ≤ 4) :
    Takes (reconstructRow size channels stride filtered raw y) := by
  unfold reconstructRow
  rw [wrap_fits fits]
  cases read : byteAt filtered (y * (stride + 1)) with
  | ok filter =>
    rw [byteAt_ok read] at known
    exact forRange_ends trivial fun x _ raw _ => takes_byte known
  | error stop =>
    unfold byteAt load at read
    split at read
    · cases read
    · cases read
      exact nofun

theorem safely_of_follows {plain checked : Except Stop α} (follows : Follows plain checked)
    (safe : Safely kept checked) : Safely kept plain := by
  obtain failed | same := follows
  · rw [failed] at safe
    cases safe
  · rw [same]
    exact safe

/-- What is safe and turns nothing down comes to a result. -/
theorem ok_of_takes {result : Except Stop α} (safe : Safely kept result) (takes : Takes result) :
    ∃ value, result = .ok value ∧ kept value := by
  cases result with
  | ok value => exact ⟨value, rfl, safe⟩
  | error stop => exact absurd safe takes

theorem tile_bytes_safe (size : SizeType) (uncompress : Uncompress) {chunks : Chunks}
    (width : chunks.width = kTileSize) (height : chunks.height = kTileSize) :
    Safely (·.length = 256 * channelsOf chunks * 256) (imageBytes size uncompress chunks) := by
  have wide : 0 < chunks.width := by
    rw [width]
    decide
  have safe : Safely _ (checkedBytes size uncompress chunks) :=
    bytes_safe wide (tile_fits size width height)
  rw [width, height] at safe
  exact safely_of_follows (follows_bytes ..) safe

/-- The bytes of a tile are rebuilt exactly if its data is that of one. -/
theorem tile_bytes_iff (size : SizeType) (uncompress : Uncompress) {chunks : Chunks}
    (width : chunks.width = kTileSize) (height : chunks.height = kTileSize) :
    (∃ raw, imageBytes size uncompress chunks = .ok raw) ↔
      ∃ filtered, uncompress chunks.compressed
          ((kTileSize * channelsOf chunks + 1) * kTileSize) = some filtered ∧
        filtered.length = (kTileSize * channelsOf chunks + 1) * kTileSize ∧
        ∀ y < kTileSize, filtered.getD (y * (kTileSize * channelsOf chunks + 1)) 0 ≤ 4 := by
  have large := modulus_large size
  have few := channels_few chunks
  have fits (y : Nat) (row : y < kTileSize) :
      y * (kTileSize * channelsOf chunks + 1) < size.modulus := by
    have below : y * (kTileSize * channelsOf chunks + 1) ≤ 255 * (256 * 4 + 1) :=
      Nat.mul_le_mul (Nat.le_of_lt_succ row) (by unfold kTileSize; omega)
    omega
  constructor
  · rintro ⟨raw, built⟩
    rw [imageBytes_tile size uncompress width height, bind_ok_iff] at built
    obtain ⟨filtered, inflated, rebuilt⟩ := built
    obtain ⟨same, length⟩ := inflate_ok_iff.1 inflated
    refine ⟨filtered, same, length, fun y row => ?_⟩
    obtain ⟨before, after, done⟩ := forRange_each rebuilt y row
    exact filter_of_row (fits y row) (by unfold kTileSize; omega) done
  · rintro ⟨filtered, inflated, length, known⟩
    have takes : Takes (imageBytes size uncompress chunks) := by
      rw [imageBytes_tile size uncompress width height, inflate_ok_iff.2 ⟨inflated, length⟩]
      exact forRange_ends trivial fun y row raw _ =>
        takes_row (fits y row) (known y row)
    obtain ⟨raw, built, _⟩ := ok_of_takes (tile_bytes_safe size uncompress width height) takes
    exact ⟨raw, built⟩

/-- The pixels of a tile are taken from its bytes without more ado. -/
theorem tile_pixels_ok (few : channels = 3 ∨ channels = 4) {raw : List UInt8}
    (whole : raw.length = 256 * channels * 256) :
    ∃ pixels, forRange (kTileSize * kTileSize) (List.replicate (kTileSize * kTileSize) 0)
      (tilePixel channels raw) = .ok pixels := by
  have tile : kTileSize * kTileSize = 65536 := rfl
  have takes (i : Nat) (pixels : List UInt32) : Takes (tilePixel channels raw pixels i) := by
    have any {index : Nat} : Takes (byteAt raw index) := by
      unfold byteAt load
      split
      · exact trivial
      · exact nofun
    have drawn (pixel : UInt32) : Takes (store Stop.outOfBounds pixels i pixel) := by
      unfold store
      split
      · exact trivial
      · exact nofun
    unfold tilePixel
    by_cases four : channels = 4
    · rw [if_pos four]
      exact any.bind fun _ _ => any.bind fun _ _ => any.bind fun _ _ => any.bind fun _ _ => drawn _
    · rw [if_neg four]
      exact any.bind fun _ _ => any.bind fun _ _ => any.bind fun _ _ => drawn _
  generalize kTileSize * kTileSize = count at tile
  obtain ⟨pixels, painted, _⟩ := ok_of_takes (tile_pixels_safe few whole tile)
    (forRange_ends trivial fun i _ pixels _ => takes i pixels)
  exact ⟨pixels, painted⟩

/-- The chunks of a tile, and no others, become pixels. -/
theorem tilePixels_iff (size : SizeType) (uncompress : Uncompress) (chunks : Chunks) :
    (∃ pixels, tilePixels size uncompress chunks = .ok pixels) ↔ MakesTile uncompress chunks := by
  unfold tilePixels
  simp only [bind_ok_iff, rejectIf_ok_iff, exists_const, not_or, not_not]
  constructor
  · rintro ⟨pixels, ⟨width, height, data⟩, raw, built, _⟩
    exact ⟨width, height, data, (tile_bytes_iff size uncompress width height).1 ⟨raw, built⟩⟩
  · intro tile
    obtain ⟨raw, built⟩ := (tile_bytes_iff size uncompress tile.width tile.height).2 tile.rows
    have whole := tile_bytes_safe size uncompress tile.width tile.height
    rw [built] at whole
    obtain ⟨pixels, painted⟩ := tile_pixels_ok (channels_few chunks) whole
    exact ⟨pixels, ⟨tile.width, tile.height, tile.data⟩, raw, built, painted⟩

/-! ### Both decoders -/

theorem decodePng_ok (size : SizeType) (uncompress : Uncompress) (elsewhere : Elsewhere)
    (fuel : Nat) (bytes : List UInt8) :
    decodePng size uncompress elsewhere fuel bytes = .ok pixels ↔ signature.isPrefixOf bytes ∧
      ∃ chunks, imageChunks size elsewhere bytes fuel 8 {} = .ok chunks ∧
        tilePixels size uncompress chunks = .ok pixels := by
  have same : decodePng size uncompress elsewhere fuel bytes = (do
      rejectIf (¬ signature.isPrefixOf bytes)
      let chunks ← tileChunks size elsewhere bytes fuel 8 {}
      tilePixels size uncompress chunks) := rfl
  rw [same]
  simp only [bind_ok_iff, rejectIf_ok_iff, exists_const, chunks_agree, not_not]

/-- With some bytes behind the file a header that is not all in the file passes, and the walk ends
with the chunks of a tile. -/
structure Borrows (size : SizeType) (uncompress : Uncompress) (bytes : List UInt8)
    (memory : Memory) (cut last : Place) : Prop where
  signed : signature.isPrefixOf bytes = true
  reached : Walks size bytes memory first cut
  header : cut.IsHeader bytes
  short : bytes.length < cut.offset + 21
  passes : GoesOn size bytes memory cut
  onward : Walks size bytes memory (next size bytes memory cut) last
  stops : Stops size bytes last
  tile : MakesTile uncompress last.chunks

/-- The decoder of tiles takes exactly what the other one takes and finds to be a tile, with the
same pixels, whatever bytes each of them has behind the file. -/
def DecodersAgree (size : SizeType) (uncompress : Uncompress) (bytes : List UInt8) : Prop :=
  ∀ memory other fuel pixels,
    decodePng size uncompress (found memory) fuel bytes = .ok pixels ↔
      decodePngBytes size uncompress (found other) fuel bytes =
        .ok { width := 256, height := 256, pixels }

/-- The decoders agree if and only if no bytes behind the file complete it to a tile. -/
theorem decoders_agree_iff (size : SizeType) (uncompress : Uncompress) (bytes : List UInt8)
    (held : 2 * bytes.length < size.modulus) :
    DecodersAgree size uncompress bytes ↔
      ¬ ∃ memory cut last, Borrows size uncompress bytes memory cut last := by
  constructor
  · rintro agree ⟨memory, cut, last, borrows⟩
    have start := signed_long borrows.signed
    obtain ⟨pixels, drawn⟩ := (tilePixels_iff size uncompress last.chunks).2 borrows.tile
    obtain ⟨fuel, ended⟩ := ok_of_walks held start
      (borrows.reached.trans (.onward borrows.passes borrows.onward)) borrows.stops
    have decoded := (decodePng_ok size uncompress (found memory) fuel bytes).2
      ⟨borrows.signed, last.chunks, ended, drawn⟩
    have alike := (decoders_alike ..).2 ((agree memory (fun _ => 1) fuel pixels).1 decoded)
    obtain ⟨_, chunks, refused, _⟩ := (decodePng_ok ..).1 alike
    exact cut_refused held start borrows.reached borrows.header borrows.short borrows.passes refused
  · intro free
    have alike (memory other : Memory) (fuel : Nat) (pixels : List UInt32)
        (decoded : decodePng size uncompress (found memory) fuel bytes = .ok pixels) :
        decodePng size uncompress (found other) fuel bytes = .ok pixels := by
      obtain ⟨signed, chunks, ended, drawn⟩ := (decodePng_ok ..).1 decoded
      refine (decodePng_ok ..).2 ⟨signed, chunks, ?_, drawn⟩
      refine ok_alike held other (signed_long signed) ?_ ended
      rintro cut last reached header short passes onward stops rfl
      have tile := (tilePixels_iff size uncompress last.chunks).1 ⟨pixels, drawn⟩
      exact free ⟨memory, cut, last, signed, reached, header, short, passes, onward, stops, tile⟩
    intro memory other fuel pixels
    rw [← decoders_alike]
    exact ⟨alike memory other fuel pixels, alike other memory fuel pixels⟩

/-- A black tile. -/
def blank : PngFilters.Picture where
  width := kTileSize
  height := kTileSize
  transparent := false
  sample := fun _ _ _ => 0
  wide := by decide
  high := by decide
  small := by decide

/-- The rows of the black tile, compressed. -/
def blankData : List UInt8 :=
  [120, 218, 237, 193, 49, 1, 0, 0, 0, 194, 160, 245, 79, 237, 101, 11, 160] ++
    List.replicate 190 0 ++ [128, 27, 1, 45, 0, 1]

def inflateBlank : Uncompress := fun data _ =>
  if data = blankData then some (blank.filtered fun _ => .none) else none

def blankFile : List UInt8 :=
  signature ++ [0, 0, 0, 13] ++ ascii "IHDR" ++ [0, 0, 1, 0, 0, 0, 1, 0, 8, 2, 0, 0, 0] ++
    [211, 16, 63, 49] ++ [0, 0, 0, 213] ++ ascii "IDAT" ++ blankData ++ [158, 203, 194, 237] ++
    [0, 0, 0, 0] ++ ascii "IEND" ++ [174, 66, 96, 130]

/-- All headers of the file of the black tile are in it. -/
theorem blank_headers_whole (memory : Memory) (walks : Walks .bits64 blankFile memory first cut)
    (header : cut.IsHeader blankFile) : cut.offset + 21 ≤ blankFile.length := by
  cases walks with
  | here => decide +kernel
  | onward _ rest =>
    have second : (next .bits64 blankFile memory first).offset = 33 := by
      change SizeType.bits64.wrap (8 + 8 + (be32At blankFile 8 + 4).toNat) = 33
      decide +kernel
    generalize next .bits64 blankFile memory first = place at rest second
    cases rest with
    | here =>
      rw [Place.IsHeader, second] at header
      exact absurd header (by decide +kernel)
    | onward _ rest =>
      have third : (next .bits64 blankFile memory place).offset = 258 := by
        change SizeType.bits64.wrap (place.offset + 8 + (be32At blankFile place.offset + 4).toNat) =
          258
        rw [second]
        decide +kernel
      generalize next .bits64 blankFile memory place = place at rest third
      cases rest with
      | here =>
        rw [Place.IsHeader, third] at header
        exact absurd header (by decide +kernel)
      | onward goes _ =>
        have further := goes.further
        rw [Place.IsLast, third] at further
        exact absurd (by decide +kernel) further

theorem blank_file_decided : DecodersAgree .bits64 inflateBlank blankFile := by
  refine (decoders_agree_iff .bits64 inflateBlank blankFile (by decide +kernel)).2 ?_
  rintro ⟨memory, cut, last, borrows⟩
  exact Nat.not_lt.2 (blank_headers_whole memory borrows.reached borrows.header) borrows.short

/-- The data of the black tile in front of its header, which is cut down to its sizes: the sum of
the chunk stands where the depth and the color type are read, and the file ends in front of the
last byte that is read. -/
def cutFile : List UInt8 :=
  signature ++ [0, 0, 0, 213] ++ ascii "IDAT" ++ blankData ++ [158, 203, 194, 237] ++
    [0, 0, 0, 8] ++ ascii "IHDR" ++ [0, 0, 1, 0, 0, 0, 1, 0] ++ [8, 2, 0, 0]

theorem blank_inflated : inflateBlank blankData ((blank.stride + 1) * blank.height) =
    some (blank.filtered fun _ => .none) := if_pos rfl

/-- With a zero behind the file it is a tile, with a one it is none. -/
theorem cut_header_decides :
    decodePng .bits64 inflateBlank (found fun _ => 0) 3 cutFile = .ok blank.image.pixels ∧
      decodePngBytes .bits64 inflateBlank (found fun _ => 1) 3 cutFile = .error .rejected ∧
      ¬ DecodersAgree .bits64 inflateBlank cutFile := by
  have walked : imageChunks .bits64 (found fun _ => 0) cutFile 3 8 {} =
      .ok (blank.chunks blankData) := by decide +kernel
  have refused : imageChunks .bits64 (found fun _ => 1) cutFile 3 8 {} = .error .rejected := by
    decide +kernel
  have signed : signature.isPrefixOf cutFile := by decide +kernel
  have full : blankData ≠ [] := by decide +kernel
  have inflated := blank_inflated
  generalize cutFile = file at walked refused signed
  generalize blankData = data at walked full inflated
  have taken : decodePng .bits64 inflateBlank (found fun _ => 0) 3 file = .ok blank.image.pixels :=
    (decoders_alike ..).2 (blank.decoded (fun _ => .none) .bits64 inflateBlank _ 3 file data
      signed walked full inflated)
  have rejected : decodePngBytes .bits64 inflateBlank (found fun _ => 1) 3 file =
      .error .rejected := by
    unfold decodePngBytes
    rw [rejectIf, if_neg (not_not.2 signed), refused]
    rfl
  refine ⟨taken, rejected, fun agree => ?_⟩
  have both := (agree (fun _ => 0) (fun _ => 1) 3 _).1 taken
  rw [rejected] at both
  cases both

end Glide.PngAgreement
