import Glide.Library.CellLoops
import Glide.MapProjection
import Glide.MapTiles

/-! The atlas of the map layer: the tiles around what is shown are painted into one image, which is
uploaded as a texture and kept as long as the same tiles are asked for. -/
namespace Glide.MapAtlas
open Library Runs CheckedBuffers CellLoops BinaryFloat GpuMapLines MapProjection
open OfflineMapPackages PngImages MapTiles

/-- The tiles of an atlas. -/
structure AtlasRange where
  zoom : Int
  minX : Int
  minY : Int
  tilesX : Int
  tilesY : Int
  deriving DecidableEq

/-- An atlas that was handed to the texture renderer: what it is made of, and what came of it. -/
structure Upload where
  range : AtlasRange
  package : Option (OfflineMapPackage × Nat)
  map : MapFiles
  pixels : List UInt32
  succeeded : Bool

/-- What does not change while the renderer is there. -/
structure Setup where
  decoding : Decoding
  libm : Libm
  packages : List OfflineMapPackage

/-- A draw, with the files as they are at that time and what comes of an upload. -/
structure Draw where
  state : GpuMapState
  files : Files
  tileFile : Int → Int → Int → Option (List UInt8)
  regularFile : Int → Int → Int → Bool
  uploads : Bool

/-- The renderer with its keys of the atlas, and the uploads until now, the last one in front. -/
structure Renderer extends GpuMapRenderer where
  atlas : AtlasRange := ⟨-1, 0, 0, 0, 0⟩
  uploads : List Upload := []

/-- The texture is of the last upload that succeeded. -/
def Renderer.texture (renderer : Renderer) : Option Upload :=
  renderer.uploads.find? (·.succeeded)

def Draw.map (setup : Setup) (draw : Draw) : MapFiles :=
  { files := draw.files, packages := setup.packages, tileFile := draw.tileFile }

def Renderer.selectPackage (setup : Setup) (state : GpuMapState) (renderer : Renderer) : Renderer :=
  let best := MapTiles.selectPackage setup.packages state.latitude state.longitude
  if best.map Prod.snd = renderer.activePackage.map Prod.snd then renderer
  else { renderer with activePackage := best, atlas := { renderer.atlas with zoom := -1 } }

def Renderer.hasTile (draw : Draw) (renderer : Renderer) (zoom x y : Int) : Bool :=
  renderer.activePackage.any (fun package => OfflineMapPackages.hasTile package.1 zoom x y) ||
    draw.regularFile zoom x y

/-- The zoom that the atlas is made for. -/
def Renderer.zoom (setup : Setup) (draw : Draw) (renderer : Renderer) : Nat :=
  probeZoom (fun zoom =>
    let probe := worldPixel setup.libm draw.state.latitude draw.state.longitude zoom
    renderer.hasTile draw zoom ((setup.libm.truncInt probe.x).tdiv kTileSize)
      ((setup.libm.truncInt probe.y).tdiv kTileSize)) (firstZoom setup.libm draw.state)

/-- Half of a side of the viewport, in pixels of the world. -/
def halfSide (length scale : FloatValue) : FloatValue :=
  divide binary64 length (multiply binary64 (whole 2) scale)

/-- The tile that the low side is in, and the one that the high side is in. -/
def sideTiles (center half : FloatValue) : FloatValue × FloatValue :=
  (divide binary64 (subtract binary64 center half) (whole kTileSize),
    divide binary64 (add binary64 center half) (whole kTileSize))

/-- The tiles in one direction, with one more at each end. -/
def tileSpan (libm : Libm) (center half : FloatValue) : Int × Int :=
  (libm.floorInt (sideTiles center half).1 - 1, libm.floorInt (sideTiles center half).2 + 1)

def atlasRange (libm : Libm) (state : GpuMapState) (zoom : Nat) : AtlasRange :=
  let view := viewport libm state zoom
  let (minX, maxX) := tileSpan libm view.center.x (halfSide state.width view.scale)
  let (minY, maxY) := tileSpan libm view.center.y (halfSide state.height view.scale)
  { zoom, minX, minY, tilesX := maxX - minX + 1, tilesY := maxY - minY + 1 }

def background : UInt32 := 0xff090e0f

/-- A tile that could be loaded is copied row by row. -/
def paintTile (loadTile : Int → Int → Option (List UInt32)) (range : AtlasRange) (ty : Nat)
    (atlas : List UInt32) (tx : Nat) : List UInt32 :=
  match loadTile (range.minX + tx) (range.minY + ty) with
  | none => atlas
  | some tile =>
    (List.range kTileSize).foldl (fun atlas row =>
      copyN tile (row * kTileSize) kTileSize atlas
        ((ty * kTileSize + row) * (range.tilesX.toNat * kTileSize) + tx * kTileSize)) atlas

def paintTiles (loadTile : Int → Int → Option (List UInt32)) (range : AtlasRange)
    (atlas : List UInt32) : List UInt32 :=
  (List.range range.tilesY.toNat).foldl (fun atlas ty =>
    (List.range range.tilesX.toNat).foldl (paintTile loadTile range ty) atlas) atlas

def paintAtlas (loadTile : Int → Int → Option (List UInt32)) (range : AtlasRange) :
    List UInt32 :=
  paintTiles loadTile range (List.replicate
    (range.tilesX.toNat * kTileSize * (range.tilesY.toNat * kTileSize)) background)

/-- `ensure_atlas`. The keys are stored before the upload, which may fail. -/
def Renderer.ensureAtlas (setup : Setup) (draw : Draw) (renderer : Renderer) : Bool × Renderer :=
  let renderer := renderer.selectPackage setup draw.state
  let range := atlasRange setup.libm draw.state (renderer.zoom setup draw)
  if renderer.atlas = range then (true, renderer)
  else
    let map := draw.map setup
    let pixels := paintAtlas (fun x y =>
      (renderer.loadTile setup.decoding map range.zoom x y).join) range
    let upload := {
      range, package := renderer.activePackage, map, pixels, succeeded := draw.uploads }
    (draw.uploads, { renderer with atlas := range, uploads := upload :: renderer.uploads })

/-- A map that is hidden, or has less than a pixel, is not drawn. -/
def skipped (state : GpuMapState) : Bool :=
  !state.visible || state.width.less (whole 1) || state.height.less (whole 1)

/-- The part of `draw` that keeps something of the atlas. -/
def Renderer.draw (setup : Setup) (renderer : Renderer) (draw : Draw) : Renderer :=
  if skipped draw.state then renderer else (renderer.ensureAtlas setup draw).2

/-! ### The pixels of an atlas -/

/-- What is written to a cell of the atlas for a tile. -/
def tileCell (loadTile : Int → Int → Option (List UInt32)) (range : AtlasRange)
    (ty tx index : Nat) (old : UInt32) : UInt32 :=
  match loadTile (range.minX + tx) (range.minY + ty) with
  | none => old
  | some tile =>
    (List.range kTileSize).foldl (fun old row =>
      let offset := (ty * kTileSize + row) * (range.tilesX.toNat * kTileSize) + tx * kTileSize
      if offset ≤ index ∧ index < offset + kTileSize then
        tile.getD (row * kTileSize + (index - offset)) old
      else old) old

/-- What is written to it for all tiles. -/
def atlasCell (loadTile : Int → Int → Option (List UInt32)) (range : AtlasRange) (index : Nat)
    (old : UInt32) : UInt32 :=
  (List.range range.tilesY.toNat).foldl (fun old ty =>
    (List.range range.tilesX.toNat).foldl (fun old tx =>
      tileCell loadTile range ty tx index old) old) old

theorem cellwise_paintTile (loadTile : Int → Int → Option (List UInt32)) (range : AtlasRange)
    (ty tx : Nat) :
    Cellwise (paintTile loadTile range ty · tx) (tileCell loadTile range ty tx) := by
  unfold paintTile tileCell
  cases loadTile (range.minX + tx) (range.minY + ty) with
  | none => exact cellwise_id
  | some tile => exact cellwise_foldl _ fun row => cellwise_copyN _ _ _ _

theorem cellwise_paintTiles (loadTile : Int → Int → Option (List UInt32)) (range : AtlasRange) :
    Cellwise (paintTiles loadTile range) (atlasCell loadTile range) :=
  cellwise_foldl _ fun ty => cellwise_foldl _ fun tx => cellwise_paintTile loadTile range ty tx

/-- The rows that a place of the atlas is in. -/
theorem row_unique {width first second column left length : Nat}
    (inside : column < width) (fits : left + length ≤ width)
    (low : second * width + left ≤ first * width + column)
    (high : first * width + column < second * width + left + length) : second = first := by
  have own : (first * width + column) / width = first := by
    rw [Nat.mul_comm, Nat.mul_add_div (by omega), Nat.div_eq_of_lt inside, Nat.add_zero]
  have other : (first * width + column) / width = second :=
    Nat.div_eq_of_lt_le (by omega) (by rw [Nat.succ_mul]; omega)
  exact other.symm.trans own

/-- A place of the atlas is in one row of one tile. -/
theorem place_unique {tilesX tx ty row column otherX otherY otherRow : Nat} (tileX : tx < tilesX)
    (rowInside : row < kTileSize) (columnInside : column < kTileSize) (below : otherX < tilesX)
    (rowBelow : otherRow < kTileSize)
    (reached : (otherY * kTileSize + otherRow) * (tilesX * kTileSize) + otherX * kTileSize ≤
        (ty * kTileSize + row) * (tilesX * kTileSize) + (tx * kTileSize + column) ∧
      (ty * kTileSize + row) * (tilesX * kTileSize) + (tx * kTileSize + column) <
        (otherY * kTileSize + otherRow) * (tilesX * kTileSize) + otherX * kTileSize + kTileSize) :
    otherX = tx ∧ otherY = ty ∧ otherRow = row := by
  obtain ⟨low, high⟩ := reached
  simp only [kTileSize] at *
  have columns : tx * 256 + column < tilesX * 256 := by omega
  have rows := row_unique columns (by omega) low high
  rw [rows] at low high
  omega

theorem tileCell_other (loadTile : Int → Int → Option (List UInt32)) (range : AtlasRange)
    {index : Nat} (old : UInt32)
    (apart : ∀ row < kTileSize, ¬(
      (ty * kTileSize + row) * (range.tilesX.toNat * kTileSize) + tx * kTileSize ≤ index ∧
        index < (ty * kTileSize + row) * (range.tilesX.toNat * kTileSize) + tx * kTileSize +
          kTileSize)) : tileCell loadTile range ty tx index old = old := by
  unfold tileCell
  cases loadTile (range.minX + tx) (range.minY + ty) with
  | none => rfl
  | some tile =>
    dsimp only
    rw [List.foldl_ext _ (fun old _ => old) old fun old row member =>
      if_neg (apart row (List.mem_range.1 member)), List.foldl_fixed]

/-- A place of the atlas shows the tile that it is in. -/
theorem atlasCell_eq (loadTile : Int → Int → Option (List UInt32)) (range : AtlasRange)
    (tileX : tx < range.tilesX.toNat) (tileY : ty < range.tilesY.toNat) (old : UInt32)
    (rowInside : row < kTileSize) (columnInside : column < kTileSize) :
    atlasCell loadTile range ((ty * kTileSize + row) * (range.tilesX.toNat * kTileSize) +
        (tx * kTileSize + column)) old =
      match loadTile (range.minX + tx) (range.minY + ty) with
      | none => old
      | some tile => tile.getD (row * kTileSize + column) old := by
  unfold atlasCell
  rw [foldl_at old tileY, foldl_at old tileX]
  · unfold tileCell
    cases loadTile (range.minX + tx) (range.minY + ty) with
    | none => rfl
    | some tile =>
      dsimp only
      rw [foldl_at old rowInside]
      · rw [if_pos ⟨by omega, by omega⟩]
        congr 1
        omega
      · intro old otherRow below other
        exact if_neg fun reached =>
          other (place_unique tileX rowInside columnInside tileX below reached).2.2
  · intro old otherX below other
    exact tileCell_other loadTile range old fun otherRow rowBelow reached =>
      other (place_unique tileX rowInside columnInside below rowBelow reached).1
  · intro old otherY below other
    rw [List.foldl_ext _ (fun old _ => old) old fun old otherX member => ?_, List.foldl_fixed]
    exact tileCell_other loadTile range old fun otherRow rowBelow reached =>
      other (place_unique tileX rowInside columnInside (List.mem_range.1 member) rowBelow
        reached).2.1

theorem length_paintAtlas (loadTile : Int → Int → Option (List UInt32)) (range : AtlasRange) :
    (paintAtlas loadTile range).length =
      range.tilesX.toNat * kTileSize * (range.tilesY.toNat * kTileSize) := by
  rw [paintAtlas, (cellwise_paintTiles loadTile range).length, List.length_replicate]

theorem getElem_paintAtlas (loadTile : Int → Int → Option (List UInt32)) (range : AtlasRange)
    (tileX : tx < range.tilesX.toNat) (tileY : ty < range.tilesY.toNat)
    (rowInside : row < kTileSize) (columnInside : column < kTileSize) :
    (paintAtlas loadTile range)[(ty * kTileSize + row) * (range.tilesX.toNat * kTileSize) +
        (tx * kTileSize + column)]? =
      some (match loadTile (range.minX + tx) (range.minY + ty) with
        | none => background
        | some tile => tile.getD (row * kTileSize + column) background) := by
  have columns : tx * kTileSize + column < range.tilesX.toNat * kTileSize := by
    calc tx * kTileSize + column < tx * kTileSize + kTileSize := by omega
      _ = (tx + 1) * kTileSize := (Nat.succ_mul ..).symm
      _ ≤ range.tilesX.toNat * kTileSize := Nat.mul_le_mul_right _ tileX
  have rows : ty * kTileSize + row + 1 ≤ range.tilesY.toNat * kTileSize := by
    calc ty * kTileSize + row + 1 ≤ ty * kTileSize + kTileSize := by omega
      _ = (ty + 1) * kTileSize := (Nat.succ_mul ..).symm
      _ ≤ range.tilesY.toNat * kTileSize := Nat.mul_le_mul_right _ tileY
  have inside : (ty * kTileSize + row) * (range.tilesX.toNat * kTileSize) +
      (tx * kTileSize + column) <
        range.tilesX.toNat * kTileSize * (range.tilesY.toNat * kTileSize) := by
    have whole := Nat.mul_le_mul_right (range.tilesX.toNat * kTileSize) rows
    rw [Nat.succ_mul] at whole
    rw [Nat.mul_comm (range.tilesX.toNat * kTileSize) (range.tilesY.toNat * kTileSize)]
    omega
  rw [paintAtlas, cellwise_paintTiles loadTile range, List.getElem?_replicate, if_pos inside,
    Option.map_some, atlasCell_eq loadTile range tileX tileY background rowInside columnInside]

/-! ### The pixels of a tile -/

theorem length_forRange {body : List α → Nat → Except ε (List α)} (count : Nat)
    (kept : ∀ cells index result, body cells index = .ok result → result.length = cells.length)
    (done : forRange count start body = .ok result) : result.length = start.length := by
  induction count generalizing result with
  | zero => rw [← Except.ok.inj done]
  | succ count ih =>
    rw [forRange_succ, bind_ok_iff] at done
    obtain ⟨before, first, last⟩ := done
    rw [kept _ _ _ last, ih first]

theorem length_tilePixel (painted : tilePixel channels raw pixels i = .ok result) :
    result.length = pixels.length := by
  have stored : ∃ argb, CheckedBuffers.store Stop.outOfBounds pixels i argb = .ok result := by
    unfold tilePixel at painted
    dsimp only at painted
    split at painted
    all_goals
      simp only [bind_ok_iff] at painted
      obtain ⟨_, _, _, _, _, _, _, _, stored⟩ := painted
      exact ⟨_, stored⟩
  obtain ⟨_, stored⟩ := stored
  unfold CheckedBuffers.store at stored
  split at stored
  · rw [← Except.ok.inj stored, List.length_set]
  · cases stored

/-- A tile that is decoded has all its pixels. -/
theorem length_decodePng (decoded : decodePng size uncompress elsewhere fuel bytes = .ok pixels) :
    pixels.length = kTileSize * kTileSize := by
  unfold decodePng at decoded
  simp only [bind_ok_iff] at decoded
  obtain ⟨_, _, chunks, _, _, _, raw, _, painted⟩ := decoded
  rw [length_forRange _ (fun _ _ _ => length_tilePixel) painted, List.length_replicate]

theorem length_loadTile (decoding : Decoding) (map : MapFiles) (renderer : GpuMapRenderer)
    (loaded : (renderer.loadTile decoding map zoom x y).join = some tile) :
    tile.length = kTileSize * kTileSize := by
  rw [Option.join_eq_some_iff] at loaded
  unfold GpuMapRenderer.loadTile at loaded
  dsimp only at loaded
  split at loaded
  · cases loaded
  · exact length_decodePng (outcome_image.1 loaded)

/-- The tile of the atlas as the renderer loaded it. -/
def Upload.tile (setup : Setup) (upload : Upload) (tx ty : Nat) : Option (List UInt32) :=
  (GpuMapRenderer.loadTile setup.decoding upload.map upload.range.zoom (upload.range.minX + tx)
    (upload.range.minY + ty) ⟨upload.package⟩).join

/-- Every pixel of the atlas is that of its tile, or the background where the tile could not be
loaded. -/
structure Painted (setup : Setup) (upload : Upload) : Prop where
  length : upload.pixels.length =
    upload.range.tilesX.toNat * kTileSize * (upload.range.tilesY.toNat * kTileSize)
  pixel : ∀ tx < upload.range.tilesX.toNat, ∀ ty < upload.range.tilesY.toNat,
    ∀ row < kTileSize, ∀ column < kTileSize,
      upload.pixels[(ty * kTileSize + row) * (upload.range.tilesX.toNat * kTileSize) +
          (tx * kTileSize + column)]? =
        match upload.tile setup tx ty with
        | none => some background
        | some tile => tile[row * kTileSize + column]?

theorem painted_of_loaded (setup : Setup) (upload : Upload)
    (pixels : upload.pixels = paintAtlas (fun x y => (GpuMapRenderer.loadTile setup.decoding
      upload.map upload.range.zoom x y ⟨upload.package⟩).join) upload.range) :
    Painted setup upload := by
  refine ⟨by rw [pixels, length_paintAtlas], ?_⟩
  intro tx tileX ty tileY row rowInside column inside
  rw [pixels, getElem_paintAtlas _ _ tileX tileY rowInside inside]
  unfold Upload.tile
  cases loaded : (GpuMapRenderer.loadTile setup.decoding upload.map upload.range.zoom
      (upload.range.minX + tx) (upload.range.minY + ty) ⟨upload.package⟩).join with
  | none => rfl
  | some tile =>
    have length := length_loadTile _ _ _ loaded
    have held : row * kTileSize + column < tile.length := by
      calc row * kTileSize + column < row * kTileSize + kTileSize := by omega
        _ = (row + 1) * kTileSize := (Nat.succ_mul ..).symm
        _ ≤ kTileSize * kTileSize := Nat.mul_le_mul_right _ rowInside
        _ = tile.length := length.symm
    dsimp only
    rw [List.getD_eq_getElem?_getD, List.getElem?_eq_getElem held, Option.getD_some]

/-! ### What an atlas covers -/

/-- Half of a side of the viewport as it is; enlarged without bound, it shows one point. -/
def exactHalf (length scale : FloatValue) : ℚ :=
  if scale.isFinite then length.toRat / (2 * scale.toRat) else 0

/-- The tiles cover all of a side of the viewport. -/
structure SideCovered (center length scale : FloatValue) (first count : Int) : Prop where
  finite : center.isFinite = true
  low : (kTileSize * first : ℚ) ≤ center.toRat - exactHalf length scale
  high : center.toRat + exactHalf length scale ≤ kTileSize * (first + count : ℚ)

/-- The tiles cover all that is shown of the state. -/
structure Covered (libm : Libm) (state : GpuMapState) (range : AtlasRange) : Prop where
  x : SideCovered (viewport libm state range.zoom.toNat).center.x state.width
    (viewport libm state range.zoom.toNat).scale range.minX range.tilesX
  y : SideCovered (viewport libm state range.zoom.toNat).center.y state.height
    (viewport libm state range.zoom.toNat).scale range.minY range.tilesY

/-- The tile of a side, and the next one, have indices of type `int`. -/
def TileIndex (side : FloatValue) : Prop :=
  ∃ number, side.floor = some number ∧ -2 ^ 31 < number ∧ number < 2 ^ 31 - 1

/-- A side is a `float`, and its tiles have indices of type `int`. -/
structure SideInRange (center length scale : FloatValue) : Prop where
  single : length.isFinite = true → Fits binary32 length
  low : TileIndex (sideTiles center (halfSide length scale)).1
  high : TileIndex (sideTiles center (halfSide length scale)).2

structure InRange (libm : Libm) (state : GpuMapState) (zoom : Nat) : Prop where
  x : SideInRange (viewport libm state zoom).center.x state.width (viewport libm state zoom).scale
  y : SideInRange (viewport libm state zoom).center.y state.height (viewport libm state zoom).scale

/-- No power of two is negative. -/
def PositivePowers (libm : Libm) : Prop :=
  ∀ exponent, (libm.pow (whole 2) exponent).isNan = true ∨
    (libm.pow (whole 2) exponent).negative = false

/-- The tile that a side is in is known up to a pixel. -/
theorem side_close {exact side quotient : ℚ} {number : Int}
    (sideClose : |side - exact| ≤ |exact| / 2 ^ 50 + 1 / 2 ^ 200)
    (quotientClose : |quotient - side / 256| ≤ |side / 256| / 2 ^ 50 + 1 / 2 ^ 200)
    (low : (number : ℚ) ≤ quotient) (high : quotient < number + 1)
    (least : -2 ^ 31 < number) (most : number < 2 ^ 31 - 1) :
    |256 * quotient - exact| ≤ 1 ∧ |exact| ≤ 2 ^ 41 := by
  have least : (-2 ^ 31 : ℚ) < number := by exact_mod_cast least
  have most : (number : ℚ) < 2 ^ 31 - 1 := by exact_mod_cast most
  rw [abs_div, abs_of_pos (by norm_num : (0 : ℚ) < 256)] at quotientClose
  rw [abs_le] at sideClose quotientClose
  rcases abs_cases exact with ⟨size, _⟩ | ⟨size, _⟩
  all_goals
    rw [size] at sideClose ⊢
    rcases abs_cases side with ⟨length, _⟩ | ⟨length, _⟩
    all_goals
      rw [length] at quotientClose
      rw [abs_le]
      refine ⟨⟨?_, ?_⟩, ?_⟩ <;> linarith

/-- Half of a side is known up to two pixels. -/
theorem half_close {length scale double half : ℚ} (unit : 1 ≤ length) (nonneg : 0 ≤ scale)
    (positive : 0 < double)
    (doubleClose : |double - 2 * scale| ≤ |2 * scale| / 2 ^ 50 + 1 / 2 ^ 200)
    (halfClose : |half - length / double| ≤ |length / double| / 2 ^ 50 + 1 / 2 ^ 200)
    (small : half ≤ 2 ^ 41) : length / (2 * scale) ≤ half + 2 := by
  generalize quotient : length / double = ratio at halfClose
  have ratioPositive : 0 < ratio := by
    rw [← quotient]
    positivity
  have product : length = ratio * double := by rw [← quotient, div_mul_cancel₀ _ positive.ne']
  rw [abs_of_pos ratioPositive, abs_le] at halfClose
  rw [abs_of_nonneg (by linarith : 0 ≤ 2 * scale), abs_le] at doubleClose
  have ratioSmall : ratio ≤ 2 ^ 42 := by linarith
  have doubleLarge : 1 ≤ 2 ^ 42 * double := by
    calc 1 ≤ ratio * double := product ▸ unit
      _ ≤ 2 ^ 42 * double := by gcongr
  have scaleLarge : 1 / 2 ^ 44 ≤ 2 * scale := by linarith
  rw [div_le_iff₀ (by linarith), product]
  have rest : ratio * (double - 2 * scale) ≤ 2 * scale := by
    calc ratio * (double - 2 * scale) ≤ ratio * (2 * scale / 2 ^ 50 + 1 / 2 ^ 200) := by
          gcongr
          exact doubleClose.2
      _ ≤ 2 ^ 42 * (2 * scale / 2 ^ 50 + 1 / 2 ^ 200) := by gcongr
      _ ≤ 2 * scale := by linarith
  have enough : ratio * (2 * scale) ≤ (half + 1) * (2 * scale) := by
    gcongr
    linarith
  linarith

/-- A `float` is far from the largest `double`. -/
theorem single_small {length : FloatValue} (single : Fits binary32 length) :
    length.toRat ≤ 2 ^ 128 := by
  obtain ⟨negative, mantissa, exponent, rfl, small⟩ := single
  have power : (2 : ℚ) ^ binary32.maxExponent = 2 ^ 104 := by
    rw [show binary32.maxExponent = ((104 : Nat) : Int) by decide, zpow_natCast]
  have magnitude : (0 : ℚ) ≤ mantissa * 2 ^ exponent := by positivity
  rw [power] at small
  have largest : (mantissa : ℚ) * 2 ^ exponent ≤ 2 ^ 128 := small.trans (by norm_num [binary32])
  rw [toRat_finite]
  cases negative with
  | false => rwa [sign, if_neg Bool.false_ne_true, one_mul]
  | true =>
    rw [sign, if_pos rfl]
    linarith

/-- Half of a side that has a pixel or more is as good as exact. -/
theorem halfSide_close {length scale : FloatValue} (finite : (halfSide length scale).isFinite)
    (single : length.isFinite = true → Fits binary32 length)
    (drawn : length.less (whole 1) = false) (power : scale.isNan = true ∨ scale.negative = false)
    (small : (halfSide length scale).toRat ≤ 2 ^ 41) :
    exactHalf length scale ≤ (halfSide length scale).toRat + 2 := by
  obtain ⟨lengthFinite, divisor⟩ := divide_operands finite
  obtain ⟨oneFinite, one⟩ := whole_exact 1 (by decide)
  obtain ⟨twoFinite, two⟩ := whole_exact 2 (by decide)
  have unit : 1 ≤ length.toRat := by
    have least := mt (less_iff lengthFinite oneFinite).2 (by rw [drawn]; exact Bool.false_ne_true)
    rw [one] at least
    exact_mod_cast not_lt.1 least
  have nonneg : 0 ≤ scale.toRat := by
    rcases power with nan | positive
    · cases scale with
      | nan negative => exact le_rfl
      | infinite negative => cases nan
      | finite negative mantissa exponent => cases nan
    · exact toRat_nonneg positive
  unfold exactHalf
  split
  · rename_i scaleFinite
    have doubled := multiply_rounded binary64 twoFinite scaleFinite
    rw [two, Int.cast_ofNat] at doubled
    rcases divisor with ⟨doubleFinite, nonzero⟩ | ⟨⟨_, infinite⟩, zero⟩
    · have quotient := divide_rounded binary64 lengthFinite doubleFinite nonzero
      have doubleClose := (doubled.close doubleFinite).trans (double_slack _)
      have halfClose := (quotient.close finite).trans (double_slack _)
      have positive := lt_of_le_of_ne (doubled.nonneg (by linarith)) nonzero.symm
      exact half_close unit nonneg positive doubleClose halfClose small
    · -- twice the scale is too large, so that the side is shown as one point
      have large : limit binary64 ≤ |2 * scale.toRat| := by
        by_contra below
        have finiteDouble := doubled.finite (by decide) (not_le.1 below)
        rw [infinite] at finiteDouble
        cases finiteDouble
      rw [abs_of_nonneg (by linarith : 0 ≤ 2 * scale.toRat)] at large
      have bound := single_small (single lengthFinite)
      have huge := double_limit.trans large
      have zeroHalf : (halfSide length scale).toRat = 0 := zero
      rw [zeroHalf, div_le_iff₀ (by linarith)]
      linarith
  · rename_i unbounded
    rcases divisor with ⟨doubleFinite, _⟩ | ⟨_, zero⟩
    · exact absurd (multiply_operands doubleFinite).2 unbounded
    · have zeroHalf : (halfSide length scale).toRat = 0 := zero
      rw [zeroHalf]
      norm_num

/-- A side whose tile has an index is known up to a pixel. -/
theorem tile_close (libm : Libm) {exact : ℚ} {side : FloatValue}
    (rounded : side.isFinite = true → Rounded binary64 exact side)
    (index : TileIndex (divide binary64 side (whole kTileSize))) :
    side.isFinite = true ∧ |exact| ≤ 2 ^ 41 ∧
      256 * (libm.floorInt (divide binary64 side (whole kTileSize)) : ℚ) - 1 ≤ exact ∧
      exact ≤ 256 * (libm.floorInt (divide binary64 side (whole kTileSize)) : ℚ) + 257 := by
  obtain ⟨number, found, least, most⟩ := index
  obtain ⟨tileFinite, tile⟩ := whole_exact kTileSize (by decide)
  have finite := floor_finite found
  obtain ⟨sideFinite, divisor⟩ := divide_operands finite
  have nonzero : (whole kTileSize).toRat ≠ 0 := by
    rw [tile]
    norm_num [kTileSize]
  have quotient := divide_rounded binary64 sideFinite tileFinite nonzero
  have quotientClose := (quotient.close finite).trans (double_slack _)
  rw [tile] at quotientClose
  have sideClose := ((rounded sideFinite).close sideFinite).trans (double_slack _)
  obtain ⟨low, high⟩ := floor_bounds found
  have index : libm.floorInt (divide binary64 side (whole kTileSize)) = number := by
    unfold Libm.floorInt
    rw [found]
    exact if_pos ⟨by omega, by omega⟩
  obtain ⟨close, small⟩ := side_close sideClose quotientClose low high least most
  rw [abs_le] at close
  rw [index]
  exact ⟨sideFinite, small, by linarith, by linarith⟩

theorem side_covered (libm : Libm) {center length scale : FloatValue}
    (inRange : SideInRange center length scale) (drawn : length.less (whole 1) = false)
    (power : scale.isNan = true ∨ scale.negative = false) :
    SideCovered center length scale (tileSpan libm center (halfSide length scale)).1
      ((tileSpan libm center (halfSide length scale)).2 -
        (tileSpan libm center (halfSide length scale)).1 + 1) := by
  obtain ⟨single, low, high⟩ := inRange
  have lowRounded (finite : (subtract binary64 center (halfSide length scale)).isFinite = true) :=
    subtract_rounded binary64 (subtract_operands finite).1 (subtract_operands finite).2
  have highRounded (finite : (add binary64 center (halfSide length scale)).isFinite = true) :=
    add_rounded binary64 (add_operands finite).1 (add_operands finite).2
  obtain ⟨finite, lowSmall, lowSide, _⟩ := tile_close libm lowRounded low
  obtain ⟨_, highSmall, _, highSide⟩ := tile_close libm highRounded high
  obtain ⟨centerFinite, halfFinite⟩ := subtract_operands finite
  rw [abs_le] at lowSmall highSmall
  have half := halfSide_close halfFinite single drawn power (by linarith)
  change 256 * (libm.floorInt (sideTiles center (halfSide length scale)).1 : ℚ) - 1 ≤ _
    at lowSide
  change _ ≤ 256 * (libm.floorInt (sideTiles center (halfSide length scale)).2 : ℚ) + 257
    at highSide
  unfold tileSpan
  dsimp only
  generalize libm.floorInt (sideTiles center (halfSide length scale)).1 = first at lowSide ⊢
  generalize libm.floorInt (sideTiles center (halfSide length scale)).2 = last at highSide ⊢
  refine ⟨centerFinite, ?_, ?_⟩
  · push_cast [kTileSize]
    linarith
  · push_cast [kTileSize]
    linarith

/-- The tiles that are asked for cover all that is shown. -/
theorem range_covers {libm : Libm} (powers : PositivePowers libm) {state : GpuMapState}
    (drawn : skipped state = false) (inRange : InRange libm state zoom) :
    Covered libm state (atlasRange libm state zoom) := by
  simp only [skipped, Bool.or_eq_false_iff] at drawn
  have power := powers (subtract binary64 state.zoom (whole zoom))
  exact ⟨side_covered libm inRange.x drawn.1.2 power, side_covered libm inRange.y drawn.2 power⟩

/-! ### Runs -/

/-- The tiles that a draw asks for. -/
def Renderer.requested (setup : Setup) (draw : Draw) (renderer : Renderer) : AtlasRange :=
  atlasRange setup.libm draw.state ((renderer.selectPackage setup draw.state).zoom setup draw)

/-- The upload that was tried last has failed. -/
def Renderer.pending (renderer : Renderer) : Bool := renderer.uploads.head?.any (!·.succeeded)

/-- The texture is what the keys say, and has all that is shown. -/
structure Sound (setup : Setup) (state : GpuMapState) (renderer : Renderer) : Prop where
  tried : renderer.pending = false
  built : ∃ upload, renderer.texture = some upload ∧ upload.range = renderer.atlas ∧
    upload.package = renderer.activePackage ∧ Painted setup upload
  covered : Covered setup.libm state renderer.atlas

/-- The numbers of a draw that is not skipped are in range. -/
def Drawable (setup : Setup) (renderer : Renderer) (draw : Draw) : Prop :=
  skipped draw.state = false →
    InRange setup.libm draw.state ((renderer.selectPackage setup draw.state).zoom setup draw)

/-- When the atlas is there, it is sound. -/
def SoundAt (setup : Setup) (renderer : Renderer) (draw : Draw) : Prop :=
  skipped draw.state = false → (renderer.ensureAtlas setup draw).1 = true →
    Sound setup draw.state (renderer.draw setup draw)

/-- After an upload that failed, the draw asks for other tiles or has another package. -/
def AsksAnew (setup : Setup) (renderer : Renderer) (draw : Draw) : Prop :=
  skipped draw.state = false → renderer.pending = true →
    (renderer.selectPackage setup draw.state).atlas ≠ renderer.requested setup draw

/-- What the keys and the uploads have to do with each other after any run. -/
structure Recorded (setup : Setup) (renderer : Renderer) : Prop where
  found : Found setup.packages renderer.activePackage
  painted : ∀ upload ∈ renderer.uploads, Painted setup upload
  last : renderer.atlas.zoom ≠ -1 → ∃ upload ∈ renderer.uploads.head?,
    upload.range = renderer.atlas ∧ upload.package = renderer.activePackage

variable {setup : Setup} {renderer : Renderer}

theorem selectPackage_recorded (state : GpuMapState) (recorded : Recorded setup renderer) :
    Recorded setup (renderer.selectPackage setup state) := by
  unfold Renderer.selectPackage
  dsimp only
  split
  · exact recorded
  · exact ⟨selectPackage_found setup.packages _ _, recorded.painted,
      fun zoom => absurd rfl zoom⟩

@[simp] theorem selectPackage_uploads (setup : Setup) (state : GpuMapState) (renderer : Renderer) :
    (renderer.selectPackage setup state).uploads = renderer.uploads := by
  unfold Renderer.selectPackage
  dsimp only
  split
  · rfl
  · rfl

/-- The keys are those of the draw, and nothing is uploaded. -/
theorem ensureAtlas_hit (draw : Draw)
    (same : (renderer.selectPackage setup draw.state).atlas = renderer.requested setup draw) :
    renderer.ensureAtlas setup draw = (true, renderer.selectPackage setup draw.state) :=
  if_pos same

/-- The atlas that is uploaded for a draw. -/
def Renderer.upload (setup : Setup) (draw : Draw) (renderer : Renderer) : Upload :=
  let renderer := renderer.selectPackage setup draw.state
  let range := atlasRange setup.libm draw.state (renderer.zoom setup draw)
  { range, package := renderer.activePackage, map := draw.map setup
    pixels := paintAtlas (fun x y =>
      (renderer.loadTile setup.decoding (draw.map setup) range.zoom x y).join) range
    succeeded := draw.uploads }

/-- The keys become those of the draw, whatever comes of the upload. -/
theorem ensureAtlas_miss (draw : Draw)
    (other : (renderer.selectPackage setup draw.state).atlas ≠ renderer.requested setup draw) :
    renderer.ensureAtlas setup draw = (draw.uploads,
      { renderer.selectPackage setup draw.state with
        atlas := renderer.requested setup draw
        uploads := renderer.upload setup draw :: renderer.uploads }) := by
  refine (if_neg other).trans ?_
  rw [selectPackage_uploads]
  rfl

theorem ensureAtlas_recorded (draw : Draw) (recorded : Recorded setup renderer) :
    Recorded setup (renderer.ensureAtlas setup draw).2 := by
  have selected := selectPackage_recorded draw.state recorded
  by_cases same : (renderer.selectPackage setup draw.state).atlas = renderer.requested setup draw
  · rw [ensureAtlas_hit draw same]
    exact selected
  · rw [ensureAtlas_miss draw same]
    refine ⟨selected.found, ?_, fun _ => ⟨_, rfl, rfl, rfl⟩⟩
    intro upload member
    rcases List.mem_cons.1 member with rfl | earlier
    · exact painted_of_loaded setup _ rfl
    · exact recorded.painted upload earlier

theorem draw_recorded (draw : Draw) (recorded : Recorded setup renderer) :
    Recorded setup (renderer.draw setup draw) := by
  unfold Renderer.draw
  split
  · exact recorded
  · exact ensureAtlas_recorded draw recorded

theorem recorded_start (setup : Setup) : Recorded setup {} :=
  ⟨nofun, nofun, fun zoom => absurd rfl zoom⟩

/-- Keys that are not of a failed upload are those of the texture. -/
theorem texture_recorded (recorded : Recorded setup renderer) (settled : renderer.pending = false)
    (zoom : renderer.atlas.zoom ≠ -1) :
    ∃ upload, renderer.texture = some upload ∧ upload.range = renderer.atlas ∧
      upload.package = renderer.activePackage ∧ Painted setup upload := by
  obtain ⟨upload, first, range, package⟩ := recorded.last zoom
  obtain ⟨rest, shape⟩ := List.head?_eq_some_iff.1 first
  have succeeded : upload.succeeded = true := by
    unfold Renderer.pending at settled
    rw [shape, List.head?_cons, Option.any_some] at settled
    simpa using settled
  have painted := recorded.painted upload (by rw [shape]; exact List.mem_cons_self)
  have texture : renderer.texture = some upload := by
    rw [Renderer.texture, shape, List.find?_cons_of_pos succeeded]
  exact ⟨upload, texture, range, package, painted⟩

theorem draw_drawn (setup : Setup) (renderer : Renderer) (drawn : skipped draw.state = false) :
    renderer.draw setup draw = (renderer.ensureAtlas setup draw).2 :=
  if_neg (by rw [drawn]; exact Bool.false_ne_true)

/-- A draw that has its atlas has a sound one, unless the upload before it failed and it asks for
the same again. -/
theorem soundAt_iff (powers : PositivePowers setup.libm) (draw : Draw)
    (recorded : Recorded setup renderer) (drawable : Drawable setup renderer draw) :
    SoundAt setup renderer draw ↔ AsksAnew setup renderer draw := by
  by_cases drawn : skipped draw.state = false
  · have covered := range_covers powers drawn (drawable drawn)
    have drawn_eq := draw_drawn setup renderer drawn
    have kept := ensureAtlas_recorded draw recorded
    have zoom : (renderer.requested setup draw).zoom ≠ -1 := by
      change ((Renderer.zoom setup draw _ : Nat) : Int) ≠ -1
      omega
    by_cases same : (renderer.selectPackage setup draw.state).atlas = renderer.requested setup draw
    · have hit := ensureAtlas_hit draw same
      rw [hit] at kept drawn_eq
      have pending : (renderer.selectPackage setup draw.state).pending = renderer.pending := by
        rw [Renderer.pending, selectPackage_uploads, Renderer.pending]
      constructor
      · intro sound _ failed
        have tried := (sound drawn (by rw [hit])).tried
        rw [drawn_eq, pending, failed] at tried
        cases tried
      · intro anew _ _
        have settled : (renderer.selectPackage setup draw.state).pending = false := by
          rw [pending]
          cases failed : renderer.pending with
          | false => rfl
          | true => exact absurd same (anew drawn failed)
        rw [drawn_eq]
        exact ⟨settled, texture_recorded kept settled (same ▸ zoom), same ▸ covered⟩
    · have miss := ensureAtlas_miss draw same
      refine iff_of_true (fun _ ensured => ?_) fun _ _ => same
      rw [miss] at ensured kept drawn_eq
      rw [drawn_eq]
      have succeeded : draw.uploads = true := ensured
      have settled : (!draw.uploads) = false := by
        rw [succeeded]
        rfl
      exact ⟨settled, texture_recorded kept settled zoom, covered⟩
  · exact iff_of_true (fun visible => absurd visible drawn) (fun visible => absurd visible drawn)

theorem selectPackage_index (setup : Setup) (state : GpuMapState) (renderer : Renderer) :
    (renderer.selectPackage setup state).activePackage.map Prod.snd =
      (MapTiles.selectPackage setup.packages state.latitude state.longitude).map Prod.snd := by
  unfold Renderer.selectPackage
  dsimp only
  split
  · rename_i same
    exact same.symm
  · rfl

/-- The same draw again finds its keys, also when the upload has failed. -/
theorem ensureAtlas_again (setup : Setup) (draw : Draw) (renderer : Renderer) :
    (renderer.ensureAtlas setup draw).2.ensureAtlas setup draw =
      (true, (renderer.ensureAtlas setup draw).2) := by
  have index := selectPackage_index setup draw.state renderer
  have again (other : Renderer)
      (package : other.activePackage = (renderer.selectPackage setup draw.state).activePackage) :
      other.selectPackage setup draw.state = other := if_pos (by rw [package, index])
  have sameZoom (other : Renderer)
      (package : other.activePackage = (renderer.selectPackage setup draw.state).activePackage) :
      other.requested setup draw = renderer.requested setup draw := by
    unfold Renderer.requested Renderer.zoom Renderer.hasTile
    rw [again other package, package]
  have finds (other : Renderer)
      (package : other.activePackage = (renderer.selectPackage setup draw.state).activePackage)
      (keys : other.atlas = renderer.requested setup draw) :
      other.ensureAtlas setup draw = (true, other) := by
    rw [ensureAtlas_hit draw (by rw [again other package, sameZoom other package, keys]),
      again other package]
  by_cases same : (renderer.selectPackage setup draw.state).atlas = renderer.requested setup draw
  · rw [ensureAtlas_hit draw same]
    exact finds _ rfl same
  · rw [ensureAtlas_miss draw same]
    exact finds _ rfl rfl

/-- The keys are those of the draw before, also when its upload has failed. -/
theorem atlas_after (setup : Setup) (renderer : Renderer) (draw : Draw)
    (drawn : skipped draw.state = false) :
    (renderer.draw setup draw).atlas = renderer.requested setup draw := by
  rw [draw_drawn setup renderer drawn]
  by_cases same : (renderer.selectPackage setup draw.state).atlas = renderer.requested setup draw
  · rw [ensureAtlas_hit draw same]
    exact same
  · rw [ensureAtlas_miss draw same]

/-- A draw that asks anew and whose upload would succeed leaves no failed upload behind. -/
theorem pending_after (anew : AsksAnew setup renderer draw) (uploads : draw.uploads = true)
    (drawn : skipped draw.state = false) : (renderer.draw setup draw).pending = false := by
  rw [draw_drawn setup renderer drawn]
  by_cases same : (renderer.selectPackage setup draw.state).atlas = renderer.requested setup draw
  · rw [ensureAtlas_hit draw same, Renderer.pending, selectPackage_uploads]
    cases failed : renderer.pending with
    | false => exact failed
    | true => exact absurd same (anew drawn failed)
  · rw [ensureAtlas_miss draw same]
    change (!draw.uploads) = false
    rw [uploads]
    rfl

theorem asksAnew_of_settled (settled : renderer.pending = false) : AsksAnew setup renderer draw :=
  fun _ pending => absurd (settled.symm.trans pending) Bool.false_ne_true

/-- Over a run, every atlas that is there is sound exactly if no draw asks again for an atlas whose
upload has just failed. -/
theorem run_sound_iff (setup : Setup) (powers : PositivePowers setup.libm) (draws : List Draw)
    (drawable : Meets (Renderer.draw setup) (Drawable setup) {} draws) :
    Meets (Renderer.draw setup) (SoundAt setup) {} draws ↔
      Meets (Renderer.draw setup) (AsksAnew setup) {} draws :=
  meets_iff_meets draws (fun _ draw => draw_recorded draw)
    (fun _ draw => soundAt_iff powers draw) (recorded_start setup) drawable

/-- There are no tiles at all. -/
def bare : Setup where
  decoding := ⟨.bits64, fun _ _ => none, 0⟩
  libm := equator
  packages := []

/-- A draw of the map around the origin. -/
def origin (uploads : Bool) : Draw where
  state := originState
  files := fun _ => none
  tileFile := fun _ _ _ => none
  regularFile := fun _ _ _ => false
  uploads

theorem equator_powers : PositivePowers equator := by
  have one : (whole 1).negative = false := by decide +kernel
  exact fun _ => .inr one

theorem origin_center :
    (viewport equator originState 13).center = ⟨whole 1048576, whole 1048576⟩ := by decide +kernel

theorem origin_inRange : InRange equator originState 13 := by
  have single : Fits binary32 (whole 100) :=
    ⟨false, 7036874417766400, -46, by decide +kernel, by norm_num [binary32,
      FloatFormat.maxExponent, FloatFormat.minExponent]⟩
  have low : TileIndex (sideTiles (whole 1048576) (halfSide (whole 100) (whole 1))).1 :=
    ⟨4095, by decide +kernel, by norm_num, by norm_num⟩
  have high : TileIndex (sideTiles (whole 1048576) (halfSide (whole 100) (whole 1))).2 :=
    ⟨4096, by decide +kernel, by norm_num, by norm_num⟩
  have side : SideInRange (whole 1048576) (whole 100) (whole 1) := ⟨fun _ => single, low, high⟩
  have scale : (viewport equator originState 13).scale = whole 1 := rfl
  refine ⟨?_, ?_⟩
  · rw [origin_center, scale]
    exact side
  · rw [origin_center, scale]
    exact side

/-- Below the least zoom, no tile is looked for. -/
theorem origin_zoom (renderer : Renderer) (uploads : Bool) :
    renderer.zoom bare (origin uploads) = 13 := by
  have first : firstZoom equator originState = 13 := by decide +kernel
  change probeZoom _ (firstZoom equator originState) = 13
  rw [first]
  rfl

theorem origin_drawable (renderer : Renderer) (uploads : Bool) :
    Drawable bare renderer (origin uploads) := by
  intro _
  rw [origin_zoom]
  exact origin_inRange

theorem origin_drawn : skipped originState = false := by decide +kernel

/-- The same map, but wider. -/
def broadState : GpuMapState := { originState with width := whole 2000 }

def broad (uploads : Bool) : Draw := { origin uploads with state := broadState }

theorem broad_zoom (renderer : Renderer) (uploads : Bool) :
    renderer.zoom bare (broad uploads) = 13 := origin_zoom renderer uploads

theorem broad_drawable (renderer : Renderer) (uploads : Bool) :
    Drawable bare renderer (broad uploads) := by
  intro _
  have single : Fits binary32 (whole 2000) :=
    ⟨false, 8796093022208000, -42, by decide +kernel, by norm_num [binary32,
      FloatFormat.maxExponent, FloatFormat.minExponent]⟩
  have low : TileIndex (sideTiles (whole 1048576) (halfSide (whole 2000) (whole 1))).1 :=
    ⟨4092, by decide +kernel, by norm_num, by norm_num⟩
  have high : TileIndex (sideTiles (whole 1048576) (halfSide (whole 2000) (whole 1))).2 :=
    ⟨4099, by decide +kernel, by norm_num, by norm_num⟩
  have side : SideInRange (whole 1048576) (whole 2000) (whole 1) := ⟨fun _ => single, low, high⟩
  rw [broad_zoom]
  refine ⟨?_, origin_inRange.y⟩
  have center : (viewport equator (broad uploads).state 13).center =
      ⟨whole 1048576, whole 1048576⟩ := origin_center
  have scale : (viewport equator (broad uploads).state 13).scale = whole 1 := rfl
  change SideInRange (viewport equator (broad uploads).state 13).center.x (whole 2000)
    (viewport equator (broad uploads).state 13).scale
  rw [center, scale]
  exact side

/-- A wider map asks for more tiles. -/
theorem broad_asks_anew (renderer : Renderer) (failed uploads : Bool) :
    AsksAnew bare (renderer.draw bare (broad failed)) (origin uploads) := by
  intro drawn _ same
  have wide : skipped broadState = false := by decide +kernel
  have kept := atlas_after bare renderer (broad failed) wide
  have selected (other : Renderer) :
      (other.selectPackage bare originState).atlas = other.atlas ∨
        (other.selectPackage bare originState).atlas.zoom = -1 := by
    unfold Renderer.selectPackage
    dsimp only
    split
    · exact .inl rfl
    · exact .inr rfl
  unfold Renderer.requested at same kept
  rw [origin_zoom] at same
  rw [broad_zoom] at kept
  rcases selected (renderer.draw bare (broad failed)) with atlas | zoom
  · have first : (atlasRange equator broadState 13).minX = (atlasRange equator originState 13).minX :=
      congrArg AtlasRange.minX (kept.symm.trans (atlas.symm.trans same))
    exact absurd first (by decide +kernel)
  · have last : (-1 : Int) = 13 := zoom.symm.trans (congrArg AtlasRange.zoom same)
    omega

/-- An upload, one of a wider map that fails, and the first map again, twice. -/
theorem uploaded_atlas_sound :
    Meets (Renderer.draw bare) (SoundAt bare) {}
      [origin true, broad false, origin true, origin true] := by
  have fresh : AsksAnew bare {} (origin true) := fun _ pending => absurd pending Bool.false_ne_true
  have again := broad_asks_anew (Renderer.draw bare {} (origin true)) false true
  refine (run_sound_iff bare equator_powers [origin true, broad false, origin true, origin true]
    ⟨origin_drawable _ _, broad_drawable _ _, origin_drawable _ _, origin_drawable _ _, trivial⟩).2
    ⟨fresh, ?_, again, ?_, trivial⟩
  · exact asksAnew_of_settled (pending_after fresh rfl origin_drawn)
  · exact asksAnew_of_settled (pending_after again rfl origin_drawn)

/-- When the first upload fails, the second draw has no texture and takes it for there. -/
theorem failed_upload_kept :
    Meets (Renderer.draw bare) (Drawable bare) {} [origin false, origin false] ∧
      ¬Meets (Renderer.draw bare) (SoundAt bare) {} [origin false, origin false] := by
  refine ⟨⟨origin_drawable _ _, origin_drawable _ _, trivial⟩, ?_⟩
  rintro ⟨_, second, _⟩
  have miss : (Renderer.selectPackage bare originState {}).atlas ≠
      Renderer.requested bare (origin false) {} := by
    intro same
    have zoom := congrArg AtlasRange.zoom same
    change (-1 : Int) = ((Renderer.zoom bare (origin false) _ : Nat) : Int) at zoom
    omega
  have draws (renderer : Renderer) : renderer.draw bare (origin false) =
      (renderer.ensureAtlas bare (origin false)).2 := draw_drawn bare renderer origin_drawn
  have again := ensureAtlas_again bare (origin false) {}
  rw [draws] at second
  have sound := second origin_drawn (by rw [again])
  obtain ⟨upload, texture, _⟩ := sound.built
  rw [draws, again, ensureAtlas_miss (origin false) miss] at texture
  cases texture

end Glide.MapAtlas
