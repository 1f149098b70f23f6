import Glide.Library.BinaryFloat
import Glide.Library.BinaryRecords

/-! The reader of offline map packages: one file with a header, an index of the
tiles and the tiles themselves. -/
namespace Glide.OfflineMapPackages
open Library AsciiText BinaryFloat BinaryRecords

/-- The bits of a `double`. -/
abbrev Double := UInt64

def Double.value (number : Double) : FloatValue := decodeBits binary64 number.toNat

/-- The files that can be opened, by their paths. -/
abbrev Files := String → Option (List UInt8)

structure Bounds where
  south : Double
  west : Double
  north : Double
  east : Double
deriving DecidableEq

structure TileEntry where
  offset : Nat
  length : Nat
deriving DecidableEq

/-- A package that was opened; the entry found first is the one read last. -/
structure OfflineMapPackage where
  path : String
  name : List UInt8
  attribution : List UInt8
  bounds : Bounds
  minZoom : Nat
  maxZoom : Nat
  tiles : List (Nat × TileEntry)

def tileKey (zoom x y : Int) : Nat :=
  (zoom % 64).toNat <<< 58 ||| (x % 2 ^ 29).toNat <<< 29 ||| (y % 2 ^ 29).toNat

/-- Conversion to `int`. -/
def toInt (number : Nat) : Int := (number : Int).bmod (2 ^ 32)

structure Header where
  version : Nat
  tileSize : Nat
  minZoom : Nat
  maxZoom : Nat
  bounds : Bounds
  nameLength : Nat
  attributionLength : Nat
  tileCount : Nat

def magic : List UInt8 := ascii "GLDMAP1" ++ [0]

def readDouble : Reader Double := do return UInt64.ofNat (← readNumber 8)

def readBounds : Reader Bounds := do
  let south ← readDouble
  let west ← readDouble
  let north ← readDouble
  let east ← readDouble
  return { south, west, north, east }

def readHeader : Reader Header := do
  let version ← readNumber 4
  let tileSize ← readNumber 2
  let minZoom ← readNumber 1
  let maxZoom ← readNumber 1
  let bounds ← readBounds
  let nameLength ← readNumber 2
  let attributionLength ← readNumber 2
  let tileCount ← readNumber 4
  return { version, tileSize, minZoom, maxZoom, bounds, nameLength, attributionLength, tileCount }

def degrees (number : Int) : FloatValue := ofInt binary64 number

def maxTiles : Nat := 10000000

def invalidHeader (header : Header) : Bool :=
  let bounds := header.bounds
  header.version != 1 || header.tileSize != 256 || header.minZoom > header.maxZoom ||
    header.tileCount > maxTiles || bounds.south.value.less (degrees (-90)) ||
    (degrees 90).less bounds.north.value || bounds.west.value.less (degrees (-180)) ||
    (degrees 180).less bounds.east.value || bounds.north.value.atMost bounds.south.value ||
    bounds.east.value.atMost bounds.west.value

def readNames (header : Header) : Reader (List UInt8 × List UInt8) := do
  let name ← readBytes header.nameLength
  let attribution ← readBytes header.attributionLength
  return (name, attribution)

def readEntry : Reader (Nat × TileEntry) := do
  let zoom ← readNumber 1
  let x ← readNumber 4
  let y ← readNumber 4
  let offset ← readNumber 8
  let length ← readNumber 4
  return (tileKey zoom (toInt x) (toInt y), ⟨offset, length⟩)

/-- The loop over the index. -/
def readIndex : Nat → List (Nat × TileEntry) → Reader (List (Nat × TileEntry))
  | 0, tiles => return tiles
  | count + 1, tiles => do
    let entry ← readEntry
    readIndex count (entry :: tiles)

def orFail (message : String) : Option α → Except String α
  | some value => .ok value
  | none => .error message

/-- `open`, with the error it reports. -/
def openPackage (files : Files) (path : String) : Except String OfflineMapPackage := do
  let file ← orFail "cannot open file" (files path)
  let (found, rest) ← orFail "not a GLDMAP1 package" (readBytes magic.length file)
  if found != magic then throw "not a GLDMAP1 package"
  let (header, rest) ← orFail "truncated header" (readHeader rest)
  if invalidHeader header then throw "unsupported or invalid header"
  let ((name, attribution), rest) ← orFail "truncated metadata" (readNames header rest)
  let (tiles, _) ← orFail "truncated tile index" (readIndex header.tileCount [] rest)
  return {
    path, name, attribution, bounds := header.bounds, minZoom := header.minZoom,
    maxZoom := header.maxZoom, tiles }

def contains (package : OfflineMapPackage) (latitude longitude : FloatValue) : Bool :=
  let bounds := package.bounds
  bounds.south.value.atMost latitude && latitude.atMost bounds.north.value &&
    bounds.west.value.atMost longitude && longitude.atMost bounds.east.value

def hasTile (package : OfflineMapPackage) (zoom x y : Int) : Bool :=
  (package.tiles.lookup (tileKey zoom x y)).isSome

/-- `std::vector::resize` for bytes. -/
def resize (length : Nat) (bytes : List UInt8) : List UInt8 :=
  bytes.take length ++ List.replicate (length - bytes.length) 0

/-- Reads a tile into `bytes`. What could not be read leaves there what was there
before, and a position that does not fit the stream leaves all of it. -/
def readTile (files : Files) (package : OfflineMapPackage) (zoom x y : Int) (bytes : List UInt8) :
    Bool × List UInt8 :=
  match package.tiles.lookup (tileKey zoom x y) with
  | none => (false, bytes)
  | some entry =>
    match files package.path with
    | none => (false, bytes)
    | some file =>
      let room := resize entry.length bytes
      if entry.offset < 2 ^ 63 then
        let found := (file.drop entry.offset).take entry.length
        (found.length == entry.length, found ++ room.drop found.length)
      else (false, room)

end Glide.OfflineMapPackages
