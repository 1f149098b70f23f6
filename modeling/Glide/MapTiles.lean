import Glide.Library.Runs
import Glide.OfflineMapPackages
import Glide.PngAgreement

/-! The tiles of the map: the layer of the overlay and the minimap choose a package and load a tile,
each in its own way. -/
namespace Glide.MapTiles
open Library Runs CheckedBuffers BinaryFloat OfflineMapPackages PngImages PngBounds
open PngAgreement (blank blankData blankFile inflateBlank blank_inflated)

/-- What there is to load tiles from: the packages that were found, with their files, and the files
`zoom/x/y.png` below the root. -/
structure MapFiles where
  files : Files
  packages : List OfflineMapPackage
  tileFile : Int → Int → Int → Option (List UInt8)

/-- What decoding an image depends on. -/
structure Decoding where
  size : SizeType
  uncompress : Uncompress
  fuel : Nat

/-- What comes of decoding, an image or none. Nothing is known of it once a decoder has left its
buffers, met a number that is too large or found no end. -/
def outcome (result : Except Stop α) : Option (Option α) :=
  match result with
  | .ok image => some (some image)
  | .error .rejected => some none
  | .error _ => none

/-! ### The choice of a package -/

def coveredArea (package : OfflineMapPackage) : FloatValue :=
  multiply binary64 (subtract binary64 package.bounds.east.value package.bounds.west.value)
    (subtract binary64 package.bounds.north.value package.bounds.south.value)

/-- A finer package is better, and of packages as fine the one of a smaller area. -/
def better (package best : OfflineMapPackage) : Bool :=
  best.maxZoom < package.maxZoom ||
    package.maxZoom == best.maxZoom && (coveredArea package).less (coveredArea best)

/-- `select_package` of both: the best package at a position, and where it stands. -/
def selectPackage (packages : List OfflineMapPackage) (latitude longitude : FloatValue) :
    Option (OfflineMapPackage × Nat) :=
  packages.zipIdx.foldl (fun best package =>
    if contains package.1 latitude longitude then
      match best with
      | none => some package
      | some other => if better package.1 other.1 then some package else best
    else best) none

/-! ### The layer of the overlay -/

structure GpuMapRenderer where
  activePackage : Option (OfflineMapPackage × Nat) := none

def GpuMapRenderer.selectPackage (map : MapFiles) (latitude longitude : FloatValue)
    (renderer : GpuMapRenderer) : GpuMapRenderer :=
  { renderer with activePackage := MapTiles.selectPackage map.packages latitude longitude }

/-- What is in the buffer after the package, and after it the file, was read. -/
def tileBytes (map : MapFiles) (package : Option (OfflineMapPackage × Nat)) (zoom x y : Int) :
    List UInt8 :=
  let bytes := match package with
    | some package => (readTile map.files package.1 zoom x y []).2
    | none => []
  if bytes = [] then (map.tileFile zoom x y).getD [] else bytes

/-- What the layer of the overlay makes of the bytes of a tile. -/
def pixelsOf (decoding : Decoding) (bytes : List UInt8) : Option (Option (List UInt32)) :=
  outcome (decodePng decoding.size decoding.uncompress nowhere decoding.fuel bytes)

/-- `load_tile`: the pixels, if there are any. -/
def GpuMapRenderer.loadTile (decoding : Decoding) (map : MapFiles) (zoom x y : Int)
    (renderer : GpuMapRenderer) : Option (Option (List UInt32)) :=
  let bytes := tileBytes map renderer.activePackage zoom x y
  if bytes = [] then some none else pixelsOf decoding bytes

/-! ### The minimap -/

def kMaxCachedTiles : Nat := 25

/-- The cached tiles have the one that was used last in front; a tile without an image is filled
with the background. -/
structure Minimap where
  activePackage : Option (OfflineMapPackage × Nat) := none
  cache : List ((Int × Int × Int) × Option (Option PngImage)) := []

def Minimap.selectPackage (map : MapFiles) (latitude longitude : FloatValue) (minimap : Minimap) :
    Minimap :=
  let best := MapTiles.selectPackage map.packages latitude longitude
  if best.map Prod.snd = minimap.activePackage.map Prod.snd then minimap
  else { activePackage := best, cache := [] }

def imageOf (decoding : Decoding) (bytes : List UInt8) : Option (Option PngImage) :=
  outcome (decodePngBytes decoding.size decoding.uncompress nowhere decoding.fuel bytes)

def fileImage (decoding : Decoding) (map : MapFiles) (zoom x y : Int) : Option (Option PngImage) :=
  match map.tileFile zoom x y with
  | some bytes => imageOf decoding bytes
  | none => some none

/-- The image of a tile that is not cached: from the package, or else from the file. -/
def decodeTile (decoding : Decoding) (map : MapFiles) (package : Option (OfflineMapPackage × Nat))
    (zoom x y : Int) : Option (Option PngImage) := do
  let packed ← match package with
    | some package =>
      let (read, bytes) := readTile map.files package.1 zoom x y []
      if read then imageOf decoding bytes else some none
    | none => some none
  match packed with
  | some image => some (some image)
  | none => fileImage decoding map zoom x y

/-- `tile`: there is none above and below the world, and to the sides of the world it is repeated. -/
def Minimap.tile (decoding : Decoding) (map : MapFiles) (zoom : Nat) (x y : Int)
    (minimap : Minimap) : Option (Option (Option PngImage)) × Minimap :=
  let maxTile : Int := 2 ^ zoom
  if y < 0 ∨ maxTile ≤ y then (none, minimap)
  else
    let x := (x.tmod maxTile + maxTile).tmod maxTile
    let key : Int × Int × Int := (zoom, x, y)
    let result := match minimap.cache.lookup key with
      | some tile => tile
      | none => decodeTile decoding map minimap.activePackage zoom x y
    let others := minimap.cache.filter fun entry => entry.1 ≠ key
    (some result, { minimap with cache := ((key, result) :: others).take kMaxCachedTiles })

/-- What the minimap shows of a tile. -/
def Minimap.shown (decoding : Decoding) (map : MapFiles) (zoom : Nat) (x y : Int)
    (minimap : Minimap) : Option (Option PngImage) :=
  (minimap.tile decoding map zoom x y).1.getD (some none)

inductive Event where
  /-- The position is another one. -/
  | look (latitude longitude : FloatValue)
  | tile (zoom : Nat) (x y : Int)

def step (decoding : Decoding) (map : MapFiles) (minimap : Minimap) : Event → Minimap
  | .look latitude longitude => minimap.selectPackage map latitude longitude
  | .tile zoom x y => (minimap.tile decoding map zoom x y).2

def run (decoding : Decoding) (map : MapFiles) (events : List Event) : Minimap :=
  events.foldl (step decoding map) {}

/-! ### The choice of a package -/

/-- The package that was chosen stands where it was found. -/
def Found (packages : List OfflineMapPackage) (package : Option (OfflineMapPackage × Nat)) : Prop :=
  ∀ chosen ∈ package, packages[chosen.2]? = some chosen.1

theorem selectPackage_found (packages : List OfflineMapPackage) (latitude longitude : FloatValue) :
    Found packages (selectPackage packages latitude longitude) := by
  have kept : ∀ best, ∀ package ∈ packages.zipIdx, Found packages best → True →
      Found packages (if contains package.1 latitude longitude then
        match best with
        | none => some package
        | some other => if better package.1 other.1 then some package else best
      else best) := by
    intro best package member found _
    have own : Found packages (some package) := by
      rintro _ ⟨⟩
      exact List.mem_zipIdx_iff_getElem?.1 member
    split
    · split
      · exact own
      · split
        · exact own
        · exact found
    · exact found
  exact invariant_over_events packages.zipIdx kept nofun (meets_of_always (fun _ _ => trivial) _ _)

theorem Found.same (first : Found packages one) (second : Found packages other)
    (index : one.map Prod.snd = other.map Prod.snd) : one = other := by
  cases one with
  | none =>
    cases other with
    | none => rfl
    | some package => cases index
  | some package =>
    cases other with
    | none => cases index
    | some found =>
      have same : package.2 = found.2 := Option.some.inj index
      have left := first package rfl
      have right := second found rfl
      rw [same, right] at left
      exact congrArg some (Prod.ext (Option.some.inj left).symm same)

/-! ### The cache of the minimap -/

/-- What is cached is what would be loaded. -/
structure Sound (decoding : Decoding) (map : MapFiles) (minimap : Minimap) : Prop where
  found : Found map.packages minimap.activePackage
  cached : ∀ entry ∈ minimap.cache, entry.2 =
    decodeTile decoding map minimap.activePackage entry.1.1 entry.1.2.1 entry.1.2.2

theorem selectPackage_sound (latitude longitude : FloatValue) (sound : Sound decoding map minimap) :
    Sound decoding map (minimap.selectPackage map latitude longitude) ∧
      (minimap.selectPackage map latitude longitude).activePackage =
        selectPackage map.packages latitude longitude := by
  have chosen := selectPackage_found map.packages latitude longitude
  unfold Minimap.selectPackage
  dsimp only
  split
  · rename_i index
    exact ⟨sound, (chosen.same sound.found index).symm⟩
  · exact ⟨⟨chosen, fun _ none => by cases none⟩, rfl⟩

theorem wrapped (x : Int) {modulus : Int} (positive : 0 < modulus) :
    (x.tmod modulus + modulus).tmod modulus = x % modulus := by
  have least := Int.lt_tmod_of_pos x positive
  have same : (x.tmod modulus + modulus * x.tdiv modulus) % modulus = x.tmod modulus % modulus :=
    Int.add_mul_emod_self_left ..
  rw [Int.tmod_add_mul_tdiv] at same
  rw [Int.tmod_eq_emod_of_nonneg (by omega), Int.add_emod_right, same]

/-- A tile is loaded from where it is stored, or was so before. -/
theorem tile_sound (zoom : Nat) (x y : Int) (sound : Sound decoding map minimap) :
    Sound decoding map (minimap.tile decoding map zoom x y).2 ∧
      (minimap.tile decoding map zoom x y).1 = if y < 0 ∨ 2 ^ zoom ≤ y then none
        else some (decodeTile decoding map minimap.activePackage zoom (x % 2 ^ zoom) y) := by
  unfold Minimap.tile
  dsimp only
  rw [wrapped x (by positivity)]
  split
  · exact ⟨sound, rfl⟩
  · generalize shown : (match minimap.cache.lookup ((zoom : Int), x % 2 ^ zoom, y) with
      | some tile => tile
      | none => decodeTile decoding map minimap.activePackage zoom (x % 2 ^ zoom) y) = tile
    have loaded : tile = decodeTile decoding map minimap.activePackage zoom (x % 2 ^ zoom) y := by
      rw [← shown]
      split
      · rename_i cached
        obtain ⟨before, after, shape, _⟩ := List.lookup_eq_some_iff.1 cached
        exact sound.cached _ (by rw [shape]; exact List.mem_append_right _ (List.mem_cons_self ..))
      · rfl
    refine ⟨⟨sound.found, fun entry member => ?_⟩, congrArg some loaded⟩
    rcases List.mem_cons.1 (List.mem_of_mem_take member) with rfl | other
    · exact loaded
    · exact sound.cached entry (List.mem_of_mem_filter other)

theorem run_sound (decoding : Decoding) (map : MapFiles) (events : List Event) :
    Sound decoding map (run decoding map events) := by
  have kept : ∀ minimap event, Sound decoding map minimap →
      Sound decoding map (step decoding map minimap event) := by
    intro minimap event sound
    cases event with
    | look latitude longitude => exact (selectPackage_sound latitude longitude sound).1
    | tile zoom x y => exact (tile_sound zoom x y sound).1
  exact invariant_after_any_run events kept ⟨nofun, nofun⟩

/-! ### What both show -/

/-- An image of the size of a tile. -/
def isTile (image : PngImage) : Bool := image.width = kTileSize ∧ image.height = kTileSize

def tileImage (pixels : List UInt32) : PngImage := ⟨kTileSize, kTileSize, pixels⟩

/-- What the layer of the overlay makes of some bytes, as an image. -/
def tileOf (decoding : Decoding) (bytes : List UInt8) : Option (Option PngImage) :=
  (pixelsOf decoding bytes).map (·.map tileImage)

theorem outcome_image {result : Except Stop α} : outcome result = some (some value) ↔
    result = .ok value := by
  unfold outcome
  split
  · exact ⟨fun same => by cases same; rfl, fun same => by cases same; rfl⟩
  · exact ⟨nofun, nofun⟩
  · exact ⟨nofun, nofun⟩

theorem outcome_none {result : Except Stop α} : outcome result = some none ↔
    result = .error .rejected := by
  unfold outcome
  split
  · exact ⟨nofun, nofun⟩
  · exact ⟨fun _ => rfl, fun _ => rfl⟩
  · rename_i other
    exact ⟨nofun, fun same => absurd (Except.error.inj same) other⟩

/-- An image that is known is known to be a tile or not. -/
theorem tileOf_known (known : imageOf decoding bytes = some image) :
    tileOf decoding bytes = some (image.filter isTile) := by
  have never (index : Nat) : nowhere index ≠ .error .rejected := nofun
  unfold tileOf
  cases image with
  | none =>
    have refused : pixelsOf decoding bytes = some none :=
      outcome_none.2 (decodePng_refused never (.inl (outcome_none.1 known)))
    rw [refused]
    rfl
  | some image =>
    have decoded := outcome_image.1 known
    by_cases tile : image.width = kTileSize ∧ image.height = kTileSize
    · have taken : pixelsOf decoding bytes = some (some image.pixels) :=
        outcome_image.2 ((decodePng_ok_iff ..).2 ⟨image, decoded, tile.1, tile.2, rfl⟩)
      have same : tileImage image.pixels = image := by
        cases image
        cases tile.1
        cases tile.2
        rfl
      rw [taken, Option.map_some, Option.map_some, same, Option.filter_some, if_pos]
      exact decide_eq_true tile
    · have refused : pixelsOf decoding bytes = some none :=
        outcome_none.2 (decodePng_refused never (.inr ⟨image, decoded, tile⟩))
      rw [refused, Option.filter_some, if_neg (by simpa [isTile] using tile)]
      rfl

theorem imageOf_nil (decoding : Decoding) : imageOf decoding [] = some none := rfl

/-- What the package gives for a tile: whether all of it was read, and what is in the buffer. -/
def packedTile (map : MapFiles) (package : Option (OfflineMapPackage × Nat)) (zoom x y : Int) :
    Bool × List UInt8 :=
  match package with
  | some package => readTile map.files package.1 zoom x y []
  | none => (false, [])

def fileTile (decoding : Decoding) (map : MapFiles) (zoom x y : Int) : Option (Option PngImage) :=
  match map.tileFile zoom x y with
  | some bytes => tileOf decoding bytes
  | none => some none

/-- What is stored for a tile as the layer of the overlay takes it: whatever the package gives, or
else the file, of the size of a tile. -/
def storedTile (decoding : Decoding) (map : MapFiles)
    (package : Option (OfflineMapPackage × Nat)) (zoom x y : Int) : Option (Option PngImage) :=
  let (_, bytes) := packedTile map package zoom x y
  if bytes = [] then fileTile decoding map zoom x y else tileOf decoding bytes

theorem loadTile_stored (decoding : Decoding) (map : MapFiles) (zoom x y : Int)
    (renderer : GpuMapRenderer) :
    (renderer.loadTile decoding map zoom x y).map (·.map tileImage) =
      storedTile decoding map renderer.activePackage zoom x y := by
  have bytes : tileBytes map renderer.activePackage zoom x y =
      if (packedTile map renderer.activePackage zoom x y).2 = [] then
        (map.tileFile zoom x y).getD []
      else (packedTile map renderer.activePackage zoom x y).2 := by
    unfold tileBytes packedTile
    cases renderer.activePackage <;> rfl
  unfold GpuMapRenderer.loadTile storedTile
  dsimp only
  rw [bytes]
  by_cases packed : (packedTile map renderer.activePackage zoom x y).2 = []
  · rw [if_pos packed, if_pos packed]
    unfold fileTile
    cases map.tileFile zoom x y with
    | none => rfl
    | some file =>
      rw [Option.getD_some]
      split
      · rename_i empty
        rw [empty]
        rfl
      · rfl
  · rw [if_neg packed, if_neg packed, if_neg packed]
    rfl

/-- The minimap takes all of an entry of the package that is an image, or else the file. -/
theorem decodeTile_packed (decoding : Decoding) (map : MapFiles)
    (package : Option (OfflineMapPackage × Nat)) (zoom x y : Int) :
    decodeTile decoding map package zoom x y =
      match (if (packedTile map package zoom x y).1 = true then
        imageOf decoding (packedTile map package zoom x y).2 else some none) with
      | some (some image) => some (some image)
      | some none => fileImage decoding map zoom x y
      | none => none := by
  cases package with
  | none => rfl
  | some package =>
    unfold decodeTile packedTile
    dsimp only
    by_cases read : (readTile map.files package.1 zoom x y []).1 = true
    · rw [if_pos read, if_pos read]
      cases imageOf decoding (readTile map.files package.1 zoom x y []).2 with
      | none => rfl
      | some packed => cases packed <;> rfl
    · rw [if_neg read, if_neg read]
      rfl

/-- Both are known, and are the same. -/
def Same (flow shown : Option (Option PngImage)) : Prop :=
  ∃ image, flow = some image ∧ shown = some image

/-- Inside of the world, by what the package gives. -/
structure AgreeInside (decoding : Decoding) (map : MapFiles)
    (package : Option (OfflineMapPackage × Nat)) (zoom x y : Int) : Prop where
  /-- Nothing: the file is no image of another size. -/
  missing : (packedTile map package zoom x y).2 = [] →
    ∃ image, fileImage decoding map zoom x y = some image ∧ ∀ found ∈ image, isTile found
  /-- All of the entry: it is no image of another size, and if it is none, the file is none. -/
  whole : (packedTile map package zoom x y).2 ≠ [] → (packedTile map package zoom x y).1 = true →
    match imageOf decoding (packedTile map package zoom x y).2 with
    | some (some image) => isTile image
    | some none => fileImage decoding map zoom x y = some none
    | none => False
  /-- A part of the entry, filled with zeros: it is as a tile what the file is. -/
  broken : (packedTile map package zoom x y).2 ≠ [] → (packedTile map package zoom x y).1 = false →
    Same (tileOf decoding (packedTile map package zoom x y).2) (fileImage decoding map zoom x y)

/-- Beside of the world, where the minimap repeats what is stored at another x, by what is stored
under the x that is asked for. -/
structure AgreeBeside (decoding : Decoding) (map : MapFiles)
    (package : Option (OfflineMapPackage × Nat)) (zoom x other y : Int) : Prop where
  /-- Nothing: there is no image to repeat. -/
  missing : (packedTile map package zoom x y).2 = [] → map.tileFile zoom x y = none →
    decodeTile decoding map package zoom other y = some none
  /-- A file and nothing else: it is as a tile what is repeated. -/
  file : (packedTile map package zoom x y).2 = [] → ∀ bytes ∈ map.tileFile zoom x y,
    Same (tileOf decoding bytes) (decodeTile decoding map package zoom other y)
  /-- Some of an entry of the package: it is as a tile what is repeated. -/
  packed : (packedTile map package zoom x y).2 ≠ [] →
    Same (tileOf decoding (packedTile map package zoom x y).2)
      (decodeTile decoding map package zoom other y)

theorem filter_self_iff {image : Option PngImage} :
    image.filter isTile = image ↔ ∀ found ∈ image, isTile found = true := by
  cases image with
  | none => exact iff_of_true rfl nofun
  | some found => simp

theorem same_nothing_iff {shown : Option (Option PngImage)} :
    Same (some none) shown ↔ shown = some none :=
  ⟨fun ⟨_, same, found⟩ => found.trans same.symm, fun found => ⟨none, rfl, found⟩⟩

theorem same_known_iff {image : Option PngImage} :
    Same (some (image.filter isTile)) (some image) ↔ ∀ found ∈ image, isTile found = true :=
  ⟨fun ⟨_, tile, same⟩ => filter_self_iff.1 (Option.some.inj (tile.trans same.symm)),
    fun small => ⟨image, congrArg some (filter_self_iff.2 small), rfl⟩⟩

/-- What both make of the same bytes is the same if they are no image of another size. -/
theorem same_image_iff :
    Same (tileOf decoding bytes) (imageOf decoding bytes) ↔
      ∃ image, imageOf decoding bytes = some image ∧ ∀ found ∈ image, isTile found := by
  constructor
  · rintro ⟨image, tile, known⟩
    rw [tileOf_known known] at tile
    exact ⟨image, known, same_known_iff.1 ⟨image, tile, rfl⟩⟩
  · rintro ⟨image, known, small⟩
    rw [tileOf_known known, known]
    exact same_known_iff.2 small

theorem same_file_iff (decoding : Decoding) (map : MapFiles) (zoom x y : Int) :
    Same (fileTile decoding map zoom x y) (fileImage decoding map zoom x y) ↔
      ∃ image, fileImage decoding map zoom x y = some image ∧ ∀ found ∈ image, isTile found := by
  unfold fileTile fileImage
  cases map.tileFile zoom x y with
  | none => exact iff_of_true ⟨none, rfl, rfl⟩ ⟨none, rfl, nofun⟩
  | some bytes => exact same_image_iff

theorem agree_inside_iff (decoding : Decoding) (map : MapFiles)
    (package : Option (OfflineMapPackage × Nat)) (zoom x y : Int) :
    Same (storedTile decoding map package zoom x y) (decodeTile decoding map package zoom x y) ↔
      AgreeInside decoding map package zoom x y := by
  rw [decodeTile_packed]
  unfold storedTile
  dsimp only
  by_cases empty : (packedTile map package zoom x y).2 = []
  · have nothing : (if (packedTile map package zoom x y).1 = true then
        imageOf decoding (packedTile map package zoom x y).2 else some none) = some none := by
      rw [empty, imageOf_nil, ite_self]
    rw [if_pos empty, nothing]
    refine (same_file_iff ..).trans ?_
    exact ⟨fun small => ⟨fun _ => small, absurd empty, absurd empty⟩,
      fun agree => agree.missing empty⟩
  · rw [if_neg empty]
    cases read : (packedTile map package zoom x y).1 with
    | false =>
      rw [if_neg Bool.false_ne_true]
      exact ⟨fun same => ⟨fun none => absurd none empty, fun _ whole => by simp [read] at whole,
        fun _ _ => same⟩, fun agree => agree.broken empty read⟩
    | true =>
      rw [if_pos rfl]
      have whole : Same (tileOf decoding (packedTile map package zoom x y).2)
          (match imageOf decoding (packedTile map package zoom x y).2 with
          | some (some image) => some (some image)
          | some none => fileImage decoding map zoom x y
          | none => none) ↔
          match imageOf decoding (packedTile map package zoom x y).2 with
          | some (some image) => isTile image
          | some none => fileImage decoding map zoom x y = some none
          | none => False := by
        cases known : imageOf decoding (packedTile map package zoom x y).2 with
        | none => exact iff_of_false (fun ⟨_, _, unknown⟩ => by cases unknown) id
        | some packed =>
          rw [tileOf_known known]
          cases packed with
          | none => exact same_nothing_iff
          | some image =>
            refine same_known_iff.trans ⟨fun small => small image rfl, fun small found member => ?_⟩
            cases member
            exact small
      rw [whole]
      exact ⟨fun fits => ⟨fun none => absurd none empty, fun _ _ => fits,
        fun _ broken => by simp [read] at broken⟩, fun agree => agree.whole empty read⟩

theorem agree_beside_iff (decoding : Decoding) (map : MapFiles)
    (package : Option (OfflineMapPackage × Nat)) (zoom x other y : Int) :
    Same (storedTile decoding map package zoom x y) (decodeTile decoding map package zoom other y) ↔
      AgreeBeside decoding map package zoom x other y := by
  unfold storedTile
  dsimp only
  by_cases empty : (packedTile map package zoom x y).2 = []
  · rw [if_pos empty]
    unfold fileTile
    cases stored : map.tileFile zoom x y with
    | none =>
      refine same_nothing_iff.trans ⟨fun nothing => ⟨fun _ _ => nothing, fun _ bytes member => ?_,
        absurd empty⟩, fun agree => agree.missing empty stored⟩
      rw [stored] at member
      cases member
    | some bytes =>
      refine ⟨fun same => ⟨fun _ none => ?_, fun _ other member => ?_, absurd empty⟩,
        fun agree => agree.file empty bytes stored⟩
      · rw [stored] at none
        cases none
      · rw [stored] at member
        cases member
        exact same
  · rw [if_neg empty]
    exact ⟨fun same => ⟨fun none => absurd none empty, fun none => absurd none empty,
      fun _ => same⟩, fun agree => agree.packed empty⟩

/-- Where both show the same: inside of the world by what the package gives, to its sides by what is
stored there and what is repeated, and above and below it if no tile is stored there. -/
def Agreeing (decoding : Decoding) (map : MapFiles) (package : Option (OfflineMapPackage × Nat))
    (zoom : Nat) (x y : Int) : Prop :=
  if y < 0 ∨ 2 ^ zoom ≤ y then storedTile decoding map package zoom x y = some none
  else if 0 ≤ x ∧ x < 2 ^ zoom then AgreeInside decoding map package zoom x y
  else AgreeBeside decoding map package zoom x (x % 2 ^ zoom) y

/-- At any position and for any tile, whatever the minimap has shown before, the layer of the
overlay and the minimap are known to show the same exactly where they agree. -/
theorem tile_loaders_agree_iff (decoding : Decoding) (map : MapFiles) (events : List Event)
    (renderer : GpuMapRenderer) (latitude longitude : FloatValue) (zoom : Nat) (x y : Int) :
    Same (((renderer.selectPackage map latitude longitude).loadTile decoding map zoom x y).map
          (·.map tileImage))
        (((run decoding map events).selectPackage map latitude longitude).shown decoding map zoom
          x y) ↔
      Agreeing decoding map (selectPackage map.packages latitude longitude) zoom x y := by
  obtain ⟨sound, chosen⟩ := selectPackage_sound latitude longitude (run_sound decoding map events)
  rw [loadTile_stored, Minimap.shown, (tile_sound zoom x y sound).2, chosen]
  unfold Agreeing
  split
  · exact ⟨fun ⟨_, same, nothing⟩ => same.trans nothing.symm, fun nothing => ⟨none, nothing, rfl⟩⟩
  · rw [Option.getD_some]
    split
    · rename_i inside
      rw [Int.emod_eq_of_lt inside.1 inside.2, ← agree_inside_iff]
      rfl
    · exact agree_beside_iff ..

def blankDecoding : Decoding where
  size := .bits64
  uncompress := inflateBlank
  fuel := 21

theorem blank_walked : imageChunks .bits64 nowhere blankFile 21 8 {} =
    .ok (blank.chunks blankData) := by decide +kernel

theorem blank_signed : signature.isPrefixOf blankFile := by decide +kernel

theorem blank_decoded : imageOf blankDecoding blankFile = some (some blank.image) := by
  have walked := blank_walked
  have signed := blank_signed
  have inflated := blank_inflated
  have full : blankData ≠ [] := by decide +kernel
  unfold imageOf
  generalize blankFile = file at walked signed ⊢
  generalize blankData = data at walked inflated full
  exact outcome_image.2 (blank.decoded (fun _ => .none) .bits64 inflateBlank nowhere 21 file data
    signed walked full inflated)

/-- The degree square north and east of the origin. -/
def degreeSquare : OfflineMapPackage where
  path := "square.glidemap"
  name := []
  attribution := []
  bounds := ⟨0, 0, 0x3ff0000000000000, 0x3ff0000000000000⟩
  minZoom := 13
  maxZoom := 18
  tiles := [(tileKey 13 4096 4095, ⟨0, 3⟩)]

/-- The package has a tile that is no image, and the file of the same tile is black. -/
def spoilt : MapFiles where
  files := fun _ => some [1, 2, 3]
  packages := [degreeSquare]
  tileFile := fun zoom x y => if zoom = 13 ∧ x = 4096 ∧ y = 4095 then some blankFile else none

theorem spoilt_chosen : selectPackage spoilt.packages (Double.value 0) (Double.value 0) =
    some (degreeSquare, 0) := by
  have inside : contains degreeSquare (Double.value 0) (Double.value 0) = true := by decide +kernel
  unfold selectPackage spoilt
  simp only [List.zipIdx_cons, List.zipIdx_nil, List.foldl_cons, List.foldl_nil]
  rw [if_pos inside]

theorem spoilt_packed : packedTile spoilt (some (degreeSquare, 0)) 13 4096 4095 =
    (true, [1, 2, 3]) := by decide +kernel

theorem spoilt_file : fileImage blankDecoding spoilt 13 4096 4095 = some (some blank.image) := by
  unfold fileImage spoilt
  dsimp only
  rw [if_pos ⟨rfl, rfl, rfl⟩]
  dsimp only
  exact blank_decoded

theorem spoilt_other : imageOf blankDecoding [1, 2, 3] = some none := by
  refine outcome_none.2 ?_
  unfold decodePngBytes
  rw [rejectIf]
  rfl

/-- The minimap shows the file, the layer of the overlay nothing. -/
theorem spoilt_tile_missing :
    (({} : GpuMapRenderer).selectPackage spoilt (Double.value 0) (Double.value 0)).loadTile
        blankDecoding spoilt 13 4096 4095 = some none ∧
      (({} : Minimap).selectPackage spoilt (Double.value 0) (Double.value 0)).shown blankDecoding
        spoilt 13 4096 4095 = some (some blank.image) := by
  have packed := spoilt_packed
  constructor
  · have shown := loadTile_stored blankDecoding spoilt 13 4096 4095
      (({} : GpuMapRenderer).selectPackage spoilt (Double.value 0) (Double.value 0))
    have nothing : storedTile blankDecoding spoilt (some (degreeSquare, 0)) 13 4096 4095 =
        some none := by
      unfold storedTile
      rw [packed]
      exact tileOf_known spoilt_other
    have chosen : (({} : GpuMapRenderer).selectPackage spoilt (Double.value 0)
        (Double.value 0)).activePackage = some (degreeSquare, 0) := by
      unfold GpuMapRenderer.selectPackage
      dsimp only
      exact spoilt_chosen
    rw [chosen, nothing, Option.map_eq_some_iff] at shown
    obtain ⟨pixels, loaded, none⟩ := shown
    rw [loaded, Option.map_eq_none_iff.1 none]
  · obtain ⟨sound, same⟩ := selectPackage_sound (Double.value 0) (Double.value 0)
      (⟨nofun, nofun⟩ : Sound blankDecoding spoilt {})
    have loaded : decodeTile blankDecoding spoilt (some (degreeSquare, 0)) 13 4096 4095 =
        some (some blank.image) := by
      rw [decodeTile_packed, packed, if_pos rfl, spoilt_other]
      exact spoilt_file
    rw [Minimap.shown, (tile_sound 13 4096 4095 sound).2, if_neg (by decide), same, spoilt_chosen,
      Option.getD_some]
    exact loaded

end Glide.MapTiles
