import Glide.OfflineMapPackages

/-! The script that packs map tiles into a package, and that the reader takes the
package as it was packed. -/
namespace Glide.MapRoundTrip
open Library AsciiText BinaryFloat BinaryRecords OfflineMapPackages

inductive PythonError where
  | runtimeError (message : String)
  | valueError
  | structError
deriving DecidableEq

/-- A file below the directory of a zoom level, with the numbers in its path. -/
structure TileFile where
  x : Int
  y : Int
  payload : List UInt8

structure Tile where
  zoom : Int
  x : Int
  y : Int
  payload : List UInt8
deriving DecidableEq

/-- What the script packs; without a directory a zoom level has no tiles. -/
structure Source where
  root : Int → List TileFile
  name : String
  attribution : String
  bounds : Bounds
  zooms : List Int

def Source.tiles (source : Source) : List Tile :=
  source.zooms.flatMap fun zoom =>
    (source.root zoom).map fun file => ⟨zoom, file.x, file.y, file.payload⟩

/-- The order of the coordinates as a tuple. -/
def sortsBefore (first second : Tile) : Bool :=
  first.zoom < second.zoom || first.zoom == second.zoom &&
    (first.x < second.x || first.x == second.x && first.y ≤ second.y)

def utf8 (text : String) : List UInt8 := text.toUTF8.data.toList

/-- An unsigned field of `struct.pack`. -/
def packNumber (width : Nat) (number : Int) : Except PythonError (List UInt8) :=
  if 0 ≤ number ∧ number < 256 ^ width then .ok (littleEndianBytes width number.toNat)
  else .error .structError

def packDouble (number : Double) : List UInt8 := littleEndianBytes 8 number.toNat

def packBounds (bounds : Bounds) : List UInt8 :=
  packDouble bounds.south ++ packDouble bounds.west ++ packDouble bounds.north ++
    packDouble bounds.east

/-- `struct.calcsize` of the header and of an entry. -/
def headerSize : Nat := 56

def entrySize : Nat := 21

def packEntry (tile : Tile) (offset : Nat) : Except PythonError (List UInt8) := do
  let zoom ← packNumber 1 tile.zoom
  let x ← packNumber 4 tile.x
  let y ← packNumber 4 tile.y
  let position ← packNumber 8 offset
  let length ← packNumber 4 tile.payload.length
  return zoom ++ (x ++ (y ++ (position ++ length)))

/-- The loop over the tiles, each behind the one before. -/
def packEntries : Nat → List Tile → Except PythonError (List UInt8)
  | _, [] => return []
  | offset, tile :: rest => do
    let entry ← packEntry tile offset
    let entries ← packEntries (offset + tile.payload.length) rest
    return entry ++ entries

def tileSize : Int := 256

def packHeader (source : Source) (least greatest : Int) (nameLength attributionLength count : Nat) :
    Except PythonError (List UInt8) := do
  let version ← packNumber 4 1
  let size ← packNumber 2 tileSize
  let minZoom ← packNumber 1 least
  let maxZoom ← packNumber 1 greatest
  let name ← packNumber 2 nameLength
  let attribution ← packNumber 2 attributionLength
  let tiles ← packNumber 4 count
  return version ++ (size ++ (minZoom ++ (maxZoom ++ (packBounds source.bounds ++
    (name ++ (attribution ++ tiles))))))

/-- `min` or `max` of a list. -/
def orValueError : Option Int → Except PythonError Int
  | some number => .ok number
  | none => .error .valueError

def sortedTiles (source : Source) : List Tile := source.tiles.mergeSort sortsBefore

def dataOffset (source : Source) : Nat :=
  headerSize + (utf8 source.name).length + (utf8 source.attribution).length +
    (sortedTiles source).length * entrySize

/-- `write_glidemap`: the bytes of the file. -/
def writeGlidemap (source : Source) : Except PythonError (List UInt8) := do
  let tiles := sortedTiles source
  if tiles.isEmpty then throw (.runtimeError "cannot create an empty map package")
  let name := utf8 source.name
  let attribution := utf8 source.attribution
  let entries ← packEntries (dataOffset source) tiles
  let least ← orValueError source.zooms.min?
  let greatest ← orValueError source.zooms.max?
  let header ← packHeader source least greatest name.length attribution.length tiles.length
  return magic ++ (header ++ ((name ++ attribution) ++ (entries ++ tiles.flatMap (·.payload))))

theorem ok_of_bind {first : Except ε α} {next : α → Except ε β}
    (ok : first >>= next = .ok result) : ∃ value, first = .ok value ∧ next value = .ok result := by
  cases first with
  | error problem => cases ok
  | ok value => exact ⟨value, rfl, ok⟩

section Packing
variable {tile : Tile} {tiles : List Tile}

theorem packNumber_facts (packed : packNumber width number = .ok bytes) :
    bytes.length = width ∧ Reads (readNumber width) bytes number.toNat := by
  unfold packNumber at packed
  split at packed
  · rename_i fits
    cases packed
    refine ⟨littleEndianBytes_length _ _, reads_number ?_⟩
    have below := (Int.toNat_lt fits.1).2 (by exact_mod_cast fits.2)
    exact below
  · cases packed

theorem packNumber_fits (low : 0 ≤ number) (high : number < 256 ^ width) :
    packNumber width number = .ok (littleEndianBytes width number.toNat) :=
  if_pos ⟨low, high⟩

theorem reads_double (number : Double) : Reads readDouble (packDouble number) number := by
  have fits : number.toNat < 256 ^ 8 := number.toNat_lt
  refine (reads_number fits).last ?_
  rw [UInt64.ofNat_toNat]
  exact reads_pure number

theorem packDouble_length (number : Double) : (packDouble number).length = 8 :=
  littleEndianBytes_length _ _

theorem reads_bounds (bounds : Bounds) : Reads readBounds (packBounds bounds) bounds := by
  unfold packBounds
  rw [List.append_assoc, List.append_assoc]
  refine (reads_double _).bind ((reads_double _).bind ((reads_double _).bind ?_))
  exact (reads_double _).last (reads_pure _)

/-- The conversion to `int` does not change the lower bits. -/
theorem toInt_low (number : Nat) : toInt number % 2 ^ 29 = (number : Int) % 2 ^ 29 := by
  have lower : (2 ^ 29 : Int) ∣ ((2 ^ 32 : Nat) : Int) := ⟨8, rfl⟩
  unfold toInt
  rw [← Int.emod_emod_of_dvd _ lower, Int.bmod_emod, Int.emod_emod_of_dvd _ lower]

theorem tileKey_read (zoom x y : Nat) : tileKey zoom (toInt x) (toInt y) = tileKey zoom x y := by
  unfold tileKey
  rw [toInt_low, toInt_low]

theorem packEntry_facts (packed : packEntry tile offset = .ok entry) : entry.length = entrySize ∧
    Reads readEntry entry (tileKey tile.zoom.toNat tile.x.toNat tile.y.toNat,
      ⟨offset, tile.payload.length⟩) := by
  obtain ⟨zoom, packed_zoom, packed⟩ := ok_of_bind packed
  obtain ⟨x, packed_x, packed⟩ := ok_of_bind packed
  obtain ⟨y, packed_y, packed⟩ := ok_of_bind packed
  obtain ⟨position, packed_position, packed⟩ := ok_of_bind packed
  obtain ⟨length, packed_length, packed⟩ := ok_of_bind packed
  cases packed
  have zoom_facts := packNumber_facts packed_zoom
  have x_facts := packNumber_facts packed_x
  have y_facts := packNumber_facts packed_y
  have position_facts := packNumber_facts packed_position
  have length_facts := packNumber_facts packed_length
  constructor
  · simp only [List.length_append, zoom_facts.1, x_facts.1, y_facts.1, position_facts.1,
      length_facts.1]
    rfl
  · refine zoom_facts.2.bind (x_facts.2.bind (y_facts.2.bind (position_facts.2.bind ?_)))
    refine length_facts.2.last ?_
    rw [tileKey_read]
    exact reads_pure _

/-- The index of these tiles, the first of them at the offset. -/
def itemsFrom : Nat → List Tile → List (Nat × TileEntry)
  | _, [] => []
  | offset, tile :: rest =>
    (tileKey tile.zoom.toNat tile.x.toNat tile.y.toNat, ⟨offset, tile.payload.length⟩) ::
      itemsFrom (offset + tile.payload.length) rest

theorem packEntries_facts (packed : packEntries offset tiles = .ok entries) :
    entries.length = tiles.length * entrySize ∧ ∀ known,
      Reads (readIndex tiles.length known) entries ((itemsFrom offset tiles).reverse ++ known) := by
  induction tiles generalizing offset entries with
  | nil =>
    cases packed
    exact ⟨rfl, fun known => reads_pure known⟩
  | cons tile rest ih =>
    obtain ⟨entry, packed_entry, packed⟩ := ok_of_bind packed
    obtain ⟨later, packed_later, packed⟩ := ok_of_bind packed
    cases packed
    obtain ⟨size, reads⟩ := packEntry_facts packed_entry
    obtain ⟨sizes, reads_later⟩ := ih packed_later
    constructor
    · rw [List.length_append, size, sizes, List.length_cons, Nat.add_mul]
      omega
    · intro known
      rw [itemsFrom, List.reverse_cons, List.append_assoc, List.length_cons, readIndex]
      exact reads.bind (reads_later _)

end Packing

section Header
variable {source : Source} {header : List UInt8}

/-- What the reader finds in a header with these fields. -/
def writtenHeader (source : Source) (least greatest : Int) (nameLength attributionLength count : Nat) :
    Header where
  version := 1
  tileSize := 256
  minZoom := least.toNat
  maxZoom := greatest.toNat
  bounds := source.bounds
  nameLength
  attributionLength
  tileCount := count

theorem packHeader_facts
    (packed : packHeader source least greatest nameLength attributionLength count = .ok header) :
    header.length + magic.length = headerSize ∧ Reads readHeader header
      (writtenHeader source least greatest nameLength attributionLength count) := by
  obtain ⟨version, packed_version, packed⟩ := ok_of_bind packed
  obtain ⟨size, packed_size, packed⟩ := ok_of_bind packed
  obtain ⟨minZoom, packed_least, packed⟩ := ok_of_bind packed
  obtain ⟨maxZoom, packed_greatest, packed⟩ := ok_of_bind packed
  obtain ⟨name, packed_name, packed⟩ := ok_of_bind packed
  obtain ⟨attribution, packed_attribution, packed⟩ := ok_of_bind packed
  obtain ⟨tiles, packed_tiles, packed⟩ := ok_of_bind packed
  cases packed
  have version_facts := packNumber_facts packed_version
  have size_facts := packNumber_facts packed_size
  have least_facts := packNumber_facts packed_least
  have greatest_facts := packNumber_facts packed_greatest
  have name_facts := packNumber_facts packed_name
  have attribution_facts := packNumber_facts packed_attribution
  have tiles_facts := packNumber_facts packed_tiles
  constructor
  · simp only [List.length_append, version_facts.1, size_facts.1, least_facts.1, greatest_facts.1,
      name_facts.1, attribution_facts.1, tiles_facts.1, packBounds, packDouble_length]
    rfl
  · refine version_facts.2.bind (size_facts.2.bind (least_facts.2.bind (greatest_facts.2.bind ?_)))
    refine (reads_bounds source.bounds).bind (name_facts.2.bind (attribution_facts.2.bind ?_))
    exact tiles_facts.2.last (reads_pure _)

theorem reads_names (header : Header) {name attribution : List UInt8}
    (nameLength : name.length = header.nameLength)
    (attributionLength : attribution.length = header.attributionLength) :
    Reads (readNames header) (name ++ attribution) (name, attribution) :=
  (reads_bytes nameLength).bind ((reads_bytes attributionLength).last (reads_pure _))

end Header

/-- Bounds on the globe, the first of each pair below the second. -/
structure ValidBounds (bounds : Bounds) : Prop where
  south : (degrees (-90)).atMost bounds.south.value = true
  north : bounds.north.value.atMost (degrees 90) = true
  west : (degrees (-180)).atMost bounds.west.value = true
  east : bounds.east.value.atMost (degrees 180) = true
  southNorth : bounds.south.value.less bounds.north.value = true
  westEast : bounds.west.value.less bounds.east.value = true

def Tile.coordinates (tile : Tile) : Int × Int × Int := (tile.zoom, tile.x, tile.y)

/-- The addressing of web maps. -/
def OnMap (tile : Tile) : Prop :=
  (0 ≤ tile.x ∧ tile.x < 2 ^ tile.zoom.toNat) ∧ 0 ≤ tile.y ∧ tile.y < 2 ^ tile.zoom.toNat

structure Valid (source : Source) : Prop where
  bounds : ValidBounds source.bounds
  zooms : ∀ zoom ∈ source.zooms, 0 ≤ zoom ∧ zoom ≤ 22
  name : (utf8 source.name).length ≤ 65535
  attribution : (utf8 source.attribution).length ≤ 65535
  some_tile : source.tiles ≠ []
  few : source.tiles.length ≤ maxTiles
  tiles : ∀ tile ∈ source.tiles, OnMap tile
  distinct : (source.tiles.map Tile.coordinates).Nodup

section Accepted
variable {source : Source} {file : List UInt8}

/-- The parts of a file that was written. -/
structure Written (source : Source) (file : List UInt8) where
  least : Int
  greatest : Int
  header : List UInt8
  entries : List UInt8
  isLeast : source.zooms.min? = some least
  isGreatest : source.zooms.max? = some greatest
  packedEntries : packEntries (dataOffset source) (sortedTiles source) = .ok entries
  packedHeader : packHeader source least greatest (utf8 source.name).length
    (utf8 source.attribution).length (sortedTiles source).length = .ok header
  bytes : file = magic ++ (header ++ ((utf8 source.name ++ utf8 source.attribution) ++
    (entries ++ (sortedTiles source).flatMap (·.payload))))

theorem ok_of_orValueError (ok : orValueError found = .ok number) : found = some number := by
  cases found with
  | none => cases ok
  | some other =>
    cases ok
    rfl

theorem written_of_ok (packed : writeGlidemap source = .ok file) : Nonempty (Written source file) := by
  unfold writeGlidemap at packed
  dsimp only at packed
  split at packed
  · cases packed
  · obtain ⟨entries, packedEntries, packed⟩ := ok_of_bind packed
    obtain ⟨least, isLeast, packed⟩ := ok_of_bind packed
    obtain ⟨greatest, isGreatest, packed⟩ := ok_of_bind packed
    obtain ⟨header, packedHeader, packed⟩ := ok_of_bind packed
    cases packed
    exact ⟨⟨least, greatest, header, entries, ok_of_orValueError isLeast,
      ok_of_orValueError isGreatest, packedEntries, packedHeader, rfl⟩⟩

/-- The package that is read from a written file. -/
def Written.package (written : Written source file) (path : String) : OfflineMapPackage where
  path
  name := utf8 source.name
  attribution := utf8 source.attribution
  bounds := source.bounds
  minZoom := written.least.toNat
  maxZoom := written.greatest.toNat
  tiles := (itemsFrom (dataOffset source) (sortedTiles source)).reverse

theorem sorted_perm (source : Source) : (sortedTiles source).Perm source.tiles :=
  List.mergeSort_perm _ _

theorem Written.least_le (written : Written source file) : written.least ≤ written.greatest :=
  (List.min?_eq_some_iff.1 written.isLeast).2 _ (List.max?_eq_some_iff.1 written.isGreatest).1

theorem Written.header_valid (written : Written source file) (valid : Valid source) :
    invalidHeader (writtenHeader source written.least written.greatest (utf8 source.name).length
      (utf8 source.attribution).length (sortedTiles source).length) = false := by
  have inOrder := valid.bounds
  have refused {first second : FloatValue} (kept : first.atMost second = true) :
      second.less first = false := by
    unfold FloatValue.atMost at kept
    simpa using (Bool.and_eq_true_iff.1 kept).2
  have apart {first second : FloatValue} (kept : first.less second = true) :
      second.atMost first = false := by
    unfold FloatValue.atMost
    rw [kept]
    exact Bool.and_false _
  have zooms : ¬ written.greatest < written.least := Int.not_lt.2 written.least_le
  have few : (sortedTiles source).length ≤ maxTiles :=
    (sorted_perm source).length_eq ▸ valid.few
  simp [invalidHeader, writtenHeader, refused inOrder.south, refused inOrder.north,
    refused inOrder.west, refused inOrder.east, apart inOrder.southNorth, apart inOrder.westEast,
    zooms, few]

/-- What the reader finds in the header of the file. -/
def Written.found (written : Written source file) : Header :=
  writtenHeader source written.least written.greatest (utf8 source.name).length
    (utf8 source.attribution).length (sortedTiles source).length

theorem Written.open_eq (written : Written source file) (valid : Valid source)
    (there : files path = some file) : openPackage files path = .ok (written.package path) := by
  have start : ∀ rest, readBytes magic.length (magic ++ rest) = some (magic, rest) :=
    reads_bytes rfl
  have header : ∀ rest, readHeader (written.header ++ rest) = some (written.found, rest) :=
    (packHeader_facts written.packedHeader).2
  have accepted : invalidHeader written.found = false := written.header_valid valid
  have names : ∀ rest, readNames written.found (utf8 source.name ++ utf8 source.attribution ++ rest) =
      some ((utf8 source.name, utf8 source.attribution), rest) := reads_names _ rfl rfl
  have index : ∀ rest, readIndex written.found.tileCount [] (written.entries ++ rest) =
      some ((itemsFrom (dataOffset source) (sortedTiles source)).reverse ++ [], rest) :=
    (packEntries_facts written.packedEntries).2 []
  rw [List.append_nil] at index
  simp only [openPackage, there, written.bytes, orFail, start, header, accepted, names, index, bind,
    Except.bind, pure, Except.pure, bne_self_eq_false, Bool.false_eq_true, if_false]
  rfl

end Accepted

section Keys

theorem tileKey_eq (zoom x y : Int) : tileKey zoom x y =
    (zoom % 64).toNat * 2 ^ 58 + (x % 2 ^ 29).toNat * 2 ^ 29 + (y % 2 ^ 29).toNat := by
  have low : (y % 2 ^ 29).toNat < 2 ^ 29 := by omega
  have middle : (x % 2 ^ 29).toNat <<< 29 < 2 ^ 58 := by
    rw [Nat.shiftLeft_eq]
    omega
  have joined : (zoom % 64).toNat <<< 58 + (x % 2 ^ 29).toNat <<< 29 =
      ((zoom % 64).toNat * 2 ^ 29 + (x % 2 ^ 29).toNat) <<< 29 := by
    simp only [Nat.shiftLeft_eq]
    omega
  unfold tileKey
  rw [← Nat.shiftLeft_add_eq_or_of_lt middle, joined, ← Nat.shiftLeft_add_eq_or_of_lt low,
    Nat.shiftLeft_eq]
  omega

/-- The key tells the lower bits of the coordinates, no more and no less. -/
theorem tileKey_eq_iff (zoom x y zoom' x' y' : Int) : tileKey zoom x y = tileKey zoom' x' y' ↔
    zoom % 64 = zoom' % 64 ∧ x % 2 ^ 29 = x' % 2 ^ 29 ∧ y % 2 ^ 29 = y' % 2 ^ 29 := by
  rw [tileKey_eq, tileKey_eq]
  omega

end Keys

theorem lookup_of_apart {items : List (Nat × α)} (apart : (items.map Prod.fst).Nodup)
    (held : (key, value) ∈ items) : items.lookup key = some value := by
  induction items with
  | nil => exact absurd held List.not_mem_nil
  | cons item rest ih =>
    obtain ⟨fresh, later⟩ := List.nodup_cons.1 apart
    rw [List.lookup_cons]
    rcases List.mem_cons.1 held with first | among
    · rw [← first]
      simp
    · have different : key ≠ item.1 := fun same =>
        fresh (same ▸ List.mem_map_of_mem among)
      rw [beq_false_of_ne different]
      exact ih later among

section Items
variable {tiles : List Tile}

def Tile.key (tile : Tile) : Nat := tileKey tile.zoom.toNat tile.x.toNat tile.y.toNat

theorem itemsFrom_keys (offset : Nat) (tiles : List Tile) :
    (itemsFrom offset tiles).map Prod.fst = tiles.map Tile.key := by
  induction tiles generalizing offset with
  | nil => rfl
  | cons tile rest ih => exact congrArg (tile.key :: ·) (ih _)

/-- The entry of a tile is where its bytes are. -/
theorem itemsFrom_place (packed : tile ∈ tiles) (small : ∀ tile ∈ tiles, tile.payload.length < 2 ^ 32)
    (front : List UInt8) : ∃ position,
      (tile.key, ⟨position, tile.payload.length⟩) ∈ itemsFrom front.length tiles ∧
      position ≤ front.length + tiles.length * 2 ^ 32 ∧
      ((front ++ tiles.flatMap (·.payload)).drop position).take tile.payload.length =
        tile.payload := by
  induction tiles generalizing front with
  | nil => exact absurd packed List.not_mem_nil
  | cons first rest ih =>
    rcases List.mem_cons.1 packed with here | later
    · subst here
      refine ⟨front.length, List.mem_cons_self, Nat.le_add_right _ _, ?_⟩
      rw [List.drop_left, List.flatMap_cons, List.take_left]
    · obtain ⟨position, held, bound, bytes⟩ := ih later
        (fun tile among => small tile (List.mem_cons_of_mem _ among)) (front ++ first.payload)
      rw [List.length_append] at held bound
      have size := small first List.mem_cons_self
      refine ⟨position, List.mem_cons_of_mem _ held, ?_, ?_⟩
      · rw [List.length_cons]
        omega
      · rw [List.flatMap_cons, ← List.append_assoc]
        exact bytes

theorem resize_length (length : Nat) (bytes : List UInt8) : (resize length bytes).length = length := by
  unfold resize
  rw [List.length_append, List.length_take, List.length_replicate]
  omega

end Items

section Succeeds
variable {tiles : List Tile}

theorem packNumber_range (packed : packNumber width number = .ok bytes) :
    0 ≤ number ∧ number < 256 ^ width := by
  unfold packNumber at packed
  split at packed
  · assumption
  · cases packed

theorem packEntries_small (packed : packEntries offset tiles = .ok entries) :
    ∀ tile ∈ tiles, tile.payload.length < 2 ^ 32 := by
  induction tiles generalizing offset entries with
  | nil => exact fun tile among => absurd among List.not_mem_nil
  | cons first rest ih =>
    obtain ⟨entry, packed_entry, packed⟩ := ok_of_bind packed
    obtain ⟨later, packed_later, _⟩ := ok_of_bind packed
    obtain ⟨_, _, packed⟩ := ok_of_bind packed_entry
    obtain ⟨_, _, packed⟩ := ok_of_bind packed
    obtain ⟨_, _, packed⟩ := ok_of_bind packed
    obtain ⟨_, _, packed⟩ := ok_of_bind packed
    obtain ⟨_, packed_length, _⟩ := ok_of_bind packed
    have small := (packNumber_range packed_length).2
    intro tile among
    rcases List.mem_cons.1 among with here | behind
    · rw [here]
      exact_mod_cast small
    · exact ih packed_later tile behind

/-- What fits the fields of an entry. -/
structure Packable (tile : Tile) : Prop where
  zoom : 0 ≤ tile.zoom ∧ tile.zoom < 256
  x : 0 ≤ tile.x ∧ tile.x < 2 ^ 32
  y : 0 ≤ tile.y ∧ tile.y < 2 ^ 32
  payload : tile.payload.length < 2 ^ 32

theorem packEntries_ok (packable : ∀ tile ∈ tiles, Packable tile)
    (fits : offset + tiles.length * 2 ^ 32 < 2 ^ 64) :
    ∃ entries, packEntries offset tiles = .ok entries := by
  induction tiles generalizing offset with
  | nil => exact ⟨[], rfl⟩
  | cons tile rest ih =>
    have first := packable tile List.mem_cons_self
    have size := first.payload
    rw [List.length_cons] at fits
    obtain ⟨later, packed_later⟩ :=
      ih (fun tile among => packable tile (List.mem_cons_of_mem _ among))
        (show offset + tile.payload.length + rest.length * 2 ^ 32 < 2 ^ 64 by omega)
    have entry : ∃ entry, packEntry tile offset = .ok entry := by
      unfold packEntry
      rw [packNumber_fits first.zoom.1 first.zoom.2, packNumber_fits first.x.1 first.x.2,
        packNumber_fits first.y.1 first.y.2,
        packNumber_fits (Int.natCast_nonneg _) (by norm_cast; omega),
        packNumber_fits (Int.natCast_nonneg _) (by norm_cast)]
      exact ⟨_, rfl⟩
    obtain ⟨entry, packed_entry⟩ := entry
    refine ⟨entry ++ later, ?_⟩
    unfold packEntries
    rw [packed_entry, packed_later]
    rfl

end Succeeds

section RoundTrip
variable {source : Source} {file : List UInt8}

theorem Valid.tile_range (valid : Valid source) (among : tile ∈ source.tiles) :
    (0 ≤ tile.zoom ∧ tile.zoom ≤ 22) ∧ (0 ≤ tile.x ∧ tile.x < 2 ^ 22) ∧
      0 ≤ tile.y ∧ tile.y < 2 ^ 22 := by
  have onMap := valid.tiles tile among
  obtain ⟨zoom, used, listed⟩ := List.mem_flatMap.1 among
  obtain ⟨file, _, same⟩ := List.mem_map.1 listed
  have level : tile.zoom = zoom := by rw [← same]
  have range := valid.zooms zoom used
  rw [← level] at range
  have size : (2 : Int) ^ tile.zoom.toNat ≤ 2 ^ 22 := by
    exact_mod_cast Nat.pow_le_pow_right (by decide : 0 < 2) (by omega : tile.zoom.toNat ≤ 22)
  exact ⟨range, ⟨onMap.1.1, Int.lt_of_lt_of_le onMap.1.2 size⟩, onMap.2.1,
    Int.lt_of_lt_of_le onMap.2.2 size⟩

theorem Valid.key_eq (valid : Valid source) (among : tile ∈ source.tiles) :
    tile.key = tileKey tile.zoom tile.x tile.y := by
  obtain ⟨zoom, x, y⟩ := valid.tile_range among
  unfold Tile.key
  rw [Int.toNat_of_nonneg zoom.1, Int.toNat_of_nonneg x.1, Int.toNat_of_nonneg y.1]

theorem Valid.packable (valid : Valid source) (among : tile ∈ source.tiles)
    (small : tile.payload.length < 2 ^ 32) : Packable tile := by
  obtain ⟨zoom, x, y⟩ := valid.tile_range among
  exact ⟨⟨zoom.1, by omega⟩, ⟨x.1, by omega⟩, ⟨y.1, by omega⟩, small⟩

/-- The script writes a package exactly if no tile is too long for its entry. -/
theorem writes_iff (valid : Valid source) :
    (∃ file, writeGlidemap source = .ok file) ↔
      ∀ tile ∈ source.tiles, tile.payload.length < 2 ^ 32 := by
  have perm := sorted_perm source
  constructor
  · rintro ⟨file, packed⟩ tile among
    obtain ⟨written⟩ := written_of_ok packed
    exact packEntries_small written.packedEntries tile (perm.mem_iff.2 among)
  · intro small
    have names := And.intro valid.name valid.attribution
    have few : (sortedTiles source).length ≤ 10000000 := perm.length_eq ▸ valid.few
    obtain ⟨entries, packedEntries⟩ := packEntries_ok
      (fun tile among => valid.packable (perm.mem_iff.1 among) (small tile (perm.mem_iff.1 among)))
      (show dataOffset source + (sortedTiles source).length * 2 ^ 32 < 2 ^ 64 by
        unfold dataOffset headerSize entrySize
        omega)
    obtain ⟨tile, among⟩ := List.exists_mem_of_ne_nil _ valid.some_tile
    obtain ⟨used, known, _⟩ := List.mem_flatMap.1 among
    obtain ⟨least, isLeast⟩ := Option.isSome_iff_exists.1 (List.isSome_min?_of_mem known)
    obtain ⟨greatest, isGreatest⟩ := Option.isSome_iff_exists.1 (List.isSome_max?_of_mem known)
    have low := valid.zooms least (List.min?_eq_some_iff.1 isLeast).1
    have high := valid.zooms greatest (List.max?_eq_some_iff.1 isGreatest).1
    have filled : (sortedTiles source).isEmpty = false :=
      List.isEmpty_eq_false_iff_exists_mem.2 ⟨tile, perm.mem_iff.2 among⟩
    have header : ∃ header, packHeader source least greatest (utf8 source.name).length
        (utf8 source.attribution).length (sortedTiles source).length = .ok header := by
      unfold packHeader tileSize
      rw [packNumber_fits (by decide) (by decide), packNumber_fits (by decide) (by decide),
        packNumber_fits low.1 (by omega), packNumber_fits high.1 (by omega),
        packNumber_fits (Int.natCast_nonneg _) (by norm_cast; omega),
        packNumber_fits (Int.natCast_nonneg _) (by norm_cast; omega),
        packNumber_fits (Int.natCast_nonneg _) (by norm_cast; omega)]
      exact ⟨_, rfl⟩
    obtain ⟨header, packedHeader⟩ := header
    refine ⟨magic ++ (header ++ ((utf8 source.name ++ utf8 source.attribution) ++
      (entries ++ (sortedTiles source).flatMap (·.payload)))), ?_⟩
    simp only [writeGlidemap, filled, packedEntries, isLeast, isGreatest, packedHeader, orValueError,
      bind, Except.bind, pure, Except.pure, Bool.false_eq_true, if_false]

theorem Valid.keys_apart (valid : Valid source) :
    (itemsFrom (dataOffset source) (sortedTiles source)).reverse.map Prod.fst |>.Nodup := by
  have perm := sorted_perm source
  rw [List.map_reverse, List.nodup_reverse, itemsFrom_keys, (perm.map Tile.key).nodup_iff]
  refine List.Nodup.map_on ?_ (List.Nodup.of_map _ valid.distinct)
  intro first among second other same
  rw [valid.key_eq among, valid.key_eq other, tileKey_eq_iff] at same
  have here := valid.tile_range among
  have there := valid.tile_range other
  refine List.inj_on_of_nodup_map valid.distinct among other ?_
  unfold Tile.coordinates
  rw [Prod.mk.injEq, Prod.mk.injEq]
  omega

/-- The package has the metadata and exactly the tiles of the source. -/
structure Holds (source : Source) (files : Files) (package : OfflineMapPackage) : Prop where
  name : package.name = utf8 source.name
  attribution : package.attribution = utf8 source.attribution
  bounds : package.bounds = source.bounds
  minZoom : source.zooms.min? = some (package.minZoom : Int)
  maxZoom : source.zooms.max? = some (package.maxZoom : Int)
  packed : ∀ tile ∈ source.tiles, hasTile package tile.zoom tile.x tile.y = true ∧
    ∀ bytes, readTile files package tile.zoom tile.x tile.y bytes = (true, tile.payload)
  others : ∀ zoom x y : Int, 0 ≤ zoom → zoom ≤ 63 → -2 ^ 28 ≤ x → x ≤ 2 ^ 28 → -2 ^ 28 ≤ y →
    y ≤ 2 ^ 28 → (zoom, x, y) ∉ source.tiles.map Tile.coordinates →
      hasTile package zoom x y = false ∧ ∀ bytes, (readTile files package zoom x y bytes).1 = false

theorem Written.tile_found (written : Written source file) (valid : Valid source)
    (there : files path = some file) (among : tile ∈ source.tiles) :
    hasTile (written.package path) tile.zoom tile.x tile.y = true ∧
      ∀ bytes, readTile files (written.package path) tile.zoom tile.x tile.y bytes =
        (true, tile.payload) := by
  have perm := sorted_perm source
  have small := packEntries_small written.packedEntries
  have header := (packHeader_facts written.packedHeader).1
  have entries := (packEntries_facts written.packedEntries).1
  -- Everything before the tiles: they start where the script counted.
  have front : (magic ++ (written.header ++ ((utf8 source.name ++ utf8 source.attribution) ++
      written.entries))).length = dataOffset source := by
    simp only [List.length_append, entries, dataOffset, ← header]
    omega
  obtain ⟨position, held, bound, bytes⟩ := itemsFrom_place (perm.mem_iff.2 among) small
    (magic ++ (written.header ++ ((utf8 source.name ++ utf8 source.attribution) ++ written.entries)))
  rw [front] at held bound
  have found : (written.package path).tiles.lookup (tileKey tile.zoom tile.x tile.y) =
      some ⟨position, tile.payload.length⟩ := by
    rw [← valid.key_eq among]
    exact lookup_of_apart valid.keys_apart (List.mem_reverse.2 held)
  have few : (sortedTiles source).length ≤ 10000000 := perm.length_eq ▸ valid.few
  have names := And.intro valid.name valid.attribution
  have seeks : position < 2 ^ 63 := by
    unfold dataOffset headerSize entrySize at bound
    omega
  have whole : file = magic ++ (written.header ++ ((utf8 source.name ++ utf8 source.attribution) ++
      written.entries)) ++ (sortedTiles source).flatMap (·.payload) :=
    written.bytes.trans (by simp only [List.append_assoc])
  have opened : files (written.package path).path = some file := there
  refine ⟨by rw [hasTile, found]; rfl, fun room => ?_⟩
  unfold readTile
  rw [found, opened]
  dsimp only
  rw [if_pos seeks, whole, bytes, beq_self_eq_true, List.drop_eq_nil_of_le, List.append_nil]
  rw [resize_length]

theorem Written.others_missing (written : Written source file) (valid : Valid source)
    (zoom_low : 0 ≤ zoom) (zoom_high : zoom ≤ 63) (x_low : -2 ^ 28 ≤ x) (x_high : x ≤ 2 ^ 28)
    (y_low : -2 ^ 28 ≤ y) (y_high : y ≤ 2 ^ 28)
    (missing : (zoom, x, y) ∉ source.tiles.map Tile.coordinates) :
    (written.package path).tiles.lookup (tileKey zoom x y) = none := by
  rw [List.lookup_eq_none_iff]
  intro item held
  have key := List.mem_map_of_mem (f := Prod.fst) (List.mem_reverse.1 held)
  rw [itemsFrom_keys] at key
  obtain ⟨tile, among, same⟩ := List.mem_map.1 key
  have among := (sorted_perm source).mem_iff.1 among
  refine bne_iff_ne.2 fun equal => missing (List.mem_map.2 ⟨tile, among, ?_⟩)
  rw [← equal, valid.key_eq among, tileKey_eq_iff] at same
  have range := valid.tile_range among
  unfold Tile.coordinates
  rw [Prod.mk.injEq, Prod.mk.injEq]
  omega

theorem Written.holds (written : Written source file) (valid : Valid source)
    (there : files path = some file) : Holds source files (written.package path) where
  name := rfl
  attribution := rfl
  bounds := rfl
  minZoom := by
    have low := valid.zooms _ (List.min?_eq_some_iff.1 written.isLeast).1
    exact written.isLeast.trans (congrArg some (Int.toNat_of_nonneg low.1).symm)
  maxZoom := by
    have low := valid.zooms _ (List.max?_eq_some_iff.1 written.isGreatest).1
    exact written.isGreatest.trans (congrArg some (Int.toNat_of_nonneg low.1).symm)
  packed := fun _ among => written.tile_found valid there among
  others := fun zoom x y zoom_low zoom_high x_low x_high y_low y_high missing => by
    have nothing : (written.package path).tiles.lookup (tileKey zoom x y) = none :=
      written.others_missing valid zoom_low zoom_high x_low x_high y_low y_high missing
    refine ⟨by rw [hasTile, nothing]; rfl, fun bytes => ?_⟩
    unfold readTile
    rw [nothing]

/-- A written package is opened with its metadata and gives every packed tile and
no other one; and coordinates in range have different keys. -/
theorem glidemap_round_trip (source : Source) (valid : Valid source) :
    ((∃ file, writeGlidemap source = .ok file) ↔
        ∀ tile ∈ source.tiles, tile.payload.length < 2 ^ 32) ∧
      (∀ files path file, writeGlidemap source = .ok file → files path = some file →
        ∃ package, openPackage files path = .ok package ∧ Holds source files package) ∧
      ∀ zoom x y zoom' x' y' : Int, 0 ≤ zoom ∧ zoom < 64 → 0 ≤ zoom' ∧ zoom' < 64 →
        0 ≤ x ∧ x < 2 ^ 29 → 0 ≤ x' ∧ x' < 2 ^ 29 → 0 ≤ y ∧ y < 2 ^ 29 → 0 ≤ y' ∧ y' < 2 ^ 29 →
          tileKey zoom x y = tileKey zoom' x' y' → (zoom, x, y) = (zoom', x', y') := by
  refine ⟨writes_iff valid, fun files path file packed there => ?_, ?_⟩
  · obtain ⟨written⟩ := written_of_ok packed
    exact ⟨written.package path, written.open_eq valid there, written.holds valid there⟩
  · intro zoom x y zoom' x' y' zoom_range zoom_range' x_range x_range' y_range y_range' same
    rw [tileKey_eq_iff] at same
    rw [Prod.mk.injEq, Prod.mk.injEq]
    omega

end RoundTrip

/-- Two tiles of one level, found in the other order. -/
def twoTiles : Source where
  root := fun zoom => if zoom = 1 then [⟨1, 1, [2, 3]⟩, ⟨0, 0, [1]⟩] else []
  name := "Alps"
  attribution := ""
  bounds := ⟨0x4049000000000000, 0x4020000000000000, 0x4049800000000000, 0x4022000000000000⟩
  zooms := [1, 2]

theorem twoTiles_valid : Valid twoTiles where
  bounds := by constructor <;> decide +kernel
  zooms := by decide
  name := by decide
  attribution := by decide
  some_tile := by decide
  few := by decide
  tiles := by
    intro tile among
    have either : tile = ⟨1, 1, 1, [2, 3]⟩ ∨ tile = ⟨1, 0, 0, [1]⟩ := by
      simpa [Source.tiles, twoTiles] using among
    rcases either with first | second
    · subst first
      exact ⟨⟨by decide, by decide⟩, by decide, by decide⟩
    · subst second
      exact ⟨⟨by decide, by decide⟩, by decide, by decide⟩
  distinct := by decide

theorem twoTiles_round_trip : ∃ file package, writeGlidemap twoTiles = .ok file ∧
    openPackage (fun _ => some file) "alps.glidemap" = .ok package ∧
      readTile (fun _ => some file) package 1 0 0 [] = (true, [1]) ∧
        hasTile package 1 0 1 = false := by
  have round := glidemap_round_trip twoTiles twoTiles_valid
  obtain ⟨file, packed⟩ := round.1.2 (by decide)
  obtain ⟨package, opened, holds⟩ := round.2.1 (fun _ => some file) "alps.glidemap" file packed rfl
  have read := (holds.packed ⟨1, 0, 0, [1]⟩ (by decide)).2 []
  have missing := (holds.others 1 0 1 (by decide) (by decide) (by decide) (by decide) (by decide)
    (by decide) (by decide)).1
  exact ⟨file, package, packed, opened, read, missing⟩

end Glide.MapRoundTrip
