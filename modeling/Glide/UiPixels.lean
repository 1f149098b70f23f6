import Glide.Library.BinaryRecords
import Glide.Library.PixelTables
import Glide.Library.Runs

/-! How the pictures of the user interface get to the display. One process draws into a shared
file, area by area, and may be started again at any time; the other one maps the file and copies it
into the buffer of a plane. -/
namespace Glide.UiPixels
open Library BinaryRecords CheckedBuffers PixelTables

/-- An access outside of a buffer. -/
inductive Fault where
  | outside
  deriving DecidableEq

/-- The user interface on both sides, and the buffer of the plane as the device laid it out. -/
structure Surface where
  width : Nat
  height : Nat
  pitch : Nat
  size : Nat
  rowFits : width < 1073741824
  pixelsFit : width * height < 4294967296
  wide : width * 4 ≤ pitch
  room : pitch * height ≤ size

/-- A part of the picture, which may lie partly outside of it, with both corners inside. -/
structure Area where
  x1 : Int
  y1 : Int
  x2 : Int
  y2 : Int

def Area.width (area : Area) : Nat := (area.x2 - area.x1 + 1).toNat

def Area.height (area : Area) : Nat := (area.y2 - area.y1 + 1).toNat

/-- What is drawn at once: an area with all of its pixels. -/
structure Patch where
  area : Area
  pixels : List UInt32
  enough : area.width * area.height ≤ pixels.length

/-- A pixel that shows something is made opaque if it has no alpha. -/
def opaquePixel (pixel : UInt32) : UInt32 :=
  if pixel ≠ 0 ∧ pixel &&& 0xFF000000 = 0 then pixel ||| 0xFF000000 else pixel

/-- The pixel so many places right of and below a place of the area, as it is stored. -/
def flushed (patch : Patch) (x1 y1 : Int) (x y : Nat) : Except Fault UInt32 :=
  let sourceX := (x1 - patch.area.x1).toNat
  let sourceY := (y1 - patch.area.y1).toNat
  opaquePixel <$>
    load .outside patch.pixels ((sourceY + y) * patch.area.width + (sourceX + x))

/-- `buffer_flush` -/
def bufferFlush (surface : Surface) (patch : Patch) (map : List UInt32) :
    Except Fault (List UInt32) :=
  let area := patch.area
  let x1 := max 0 area.x1
  let y1 := max 0 area.y1
  let x2 := min ((surface.width : Int) - 1) area.x2
  let y2 := min ((surface.height : Int) - 1) area.y2
  if x1 ≤ x2 ∧ y1 ≤ y2 then
    fillTable .outside (y1.toNat * surface.width + x1.toNat) surface.width (x2 - x1 + 1).toNat
      (y2 - y1 + 1).toNat (flushed patch x1 y1) map
  else .ok map

/-- The bytes of a file of pixels. -/
def bytesOf (words : List UInt32) : List UInt8 :=
  words.flatMap fun word => littleEndianBytes 4 word.toNat

/-- A row of the source after the other, into rows that are some pitch apart. -/
def copyRows (source : List UInt8) (stride rowBytes rows pitch : Nat) (target : List UInt8) :
    Except Fault (List UInt8) :=
  fillTable .outside 0 pitch rowBytes rows (fun x y => load .outside source (y * stride + x)) target

/-- `publish_ui_frame_from_argb`, which tells too whether it is content. -/
def publishUiFrameFromArgb (surface : Surface) (pixels : List UInt8) (width height stride : Nat)
    (plane : List UInt8) : Except Fault (Bool × List UInt8) :=
  if surface.width = 0 ∨ surface.height = 0 then .ok (true, plane)
  else if width ≠ surface.width ∨ height ≠ surface.height then .ok (false, plane)
  else if stride < width * 4 % 4294967296 then .ok (false, plane)
  else (true, ·) <$> copyRows pixels stride (width * 4) height surface.pitch plane

/-- `publish_solid_ui_frame` -/
def publishSolidUiFrame (surface : Surface) (argb : UInt32) (plane : List UInt8) :
    Except Fault (List UInt8) :=
  fillTable .outside 0 surface.pitch (surface.width * 4) surface.height
    (fun x _ => load .outside (littleEndianBytes 4 argb.toNat) (x % 4)) plane

/-- `argb_buffer_has_visible_alpha` -/
def argbBufferHasVisibleAlpha (pixels : List UInt8) (width height stride : Nat) : Bool :=
  if width = 0 ∨ height = 0 ∨ stride < width * 4 % 4294967296 then false
  else
    (List.range height).any fun y =>
      (List.range width).any fun x => pixels.getD (y * stride + (x * 4 + 3)) 0 ≠ 0

/-! ### The two processes -/

/-- The shared file, empty if there is none. It may be there from an earlier time. -/
structure UiPath where
  file : List UInt32
  started : Bool := false
  mapped : Bool := false
  plane : List UInt8

/-- `ftruncate` -/
def resize (length : Nat) (file : List UInt32) : List UInt32 :=
  file.take length ++ List.replicate (length - file.length) 0

/-- `std::fill_n` with nothing. -/
def fillN (count : Nat) (file : List UInt32) : List UInt32 :=
  List.replicate count 0 ++ file.drop count

/-- `create_buffer_display`: the count of pixels is computed in 32 bits. -/
def createBufferDisplay (surface : Surface) (path : UiPath) : UiPath :=
  { path with
    file := fillN (surface.width * surface.height % 4294967296)
      (resize (surface.width * surface.height) path.file)
    started := true }

/-- `open_if_needed` -/
def openIfNeeded (surface : Surface) (path : UiPath) : UiPath :=
  if path.mapped then path
  else { path with mapped := surface.width * surface.height * 4 ≤ path.file.length * 4 }

/-- What is mapped of the file, as far as the file goes. -/
def mapping (surface : Surface) (path : UiPath) : List UInt8 :=
  (bytesOf path.file).take (surface.width * surface.height * 4)

inductive Event where
  | start
  | clear
  | flush (patch : Patch)
  | publish

def step (surface : Surface) (path : UiPath) : Event → Except Fault UiPath
  | .start => .ok (createBufferDisplay surface path)
  | .clear =>
    .ok (if path.started then
      { path with file := fillN (surface.width * surface.height) path.file } else path)
  | .flush patch =>
    if path.started then
      (fun file => { path with file := file }) <$> bufferFlush surface patch path.file
    else .ok path
  | .publish =>
    let path := openIfNeeded surface path
    if path.mapped then
      (fun published => { path with plane := published.2 }) <$>
        publishUiFrameFromArgb surface (mapping surface path) surface.width surface.height
          (surface.width * 4 % 4294967296) path.plane
    else .ok path

/-! ### What is drawn -/

abbrev Screen := Nat → Nat → UInt32

def blank : Screen := fun _ _ => 0

def Area.Covers (area : Area) (x y : Nat) : Prop :=
  (area.x1 ≤ x ∧ x ≤ area.x2) ∧ area.y1 ≤ y ∧ y ≤ area.y2

instance (area : Area) (x y : Nat) : Decidable (area.Covers x y) :=
  inferInstanceAs (Decidable (_ ∧ _))

def Patch.pixelAt (patch : Patch) : Screen := fun x y =>
  patch.pixels.getD ((y - patch.area.y1).toNat * patch.area.width + (x - patch.area.x1).toNat) 0

/-- The screen when the patch was drawn on it. -/
def draw (patch : Patch) (screen : Screen) : Screen := fun x y =>
  if patch.area.Covers x y then opaquePixel (patch.pixelAt x y) else screen x y

/-- A row and a column that are inside make an index that is. -/
theorem index_inside {row column width height : Nat} (above : row < height)
    (before : column < width) : row * width + column < width * height := by
  have rows : (row + 1) * width ≤ height * width := Nat.mul_le_mul_right width above
  rw [Nat.succ_mul, Nat.mul_comm height] at rows
  omega

/-- The pixels of an area that are inside of the picture are there, and are those of their place. -/
theorem flushed_eq (patch : Patch) {x1 y1 x2 y2 : Int} {x y : Nat} (left : patch.area.x1 ≤ x1)
    (top : patch.area.y1 ≤ y1) (right : x2 ≤ patch.area.x2) (bottom : y2 ≤ patch.area.y2)
    (start : 0 ≤ x1 ∧ 0 ≤ y1) (inside : x < (x2 - x1 + 1).toNat) (above : y < (y2 - y1 + 1).toNat) :
    flushed patch x1 y1 x y = .ok (opaquePixel (patch.pixelAt (x1.toNat + x) (y1.toNat + y))) := by
  have column : (x1 - patch.area.x1).toNat + x =
      (((x1.toNat + x : Nat) : Int) - patch.area.x1).toNat := by omega
  have row : (y1 - patch.area.y1).toNat + y =
      (((y1.toNat + y : Nat) : Int) - patch.area.y1).toNat := by omega
  have before : (((x1.toNat + x : Nat) : Int) - patch.area.x1).toNat < patch.area.width := by
    unfold Area.width
    omega
  have below : (((y1.toNat + y : Nat) : Int) - patch.area.y1).toNat < patch.area.height := by
    unfold Area.height
    omega
  have there := Nat.lt_of_lt_of_le (index_inside below before) patch.enough
  unfold flushed Patch.pixelAt
  dsimp only
  rw [column, row, load_inside _ there 0]
  rfl

/-- An area that is drawn gets to its place in the picture, and the rest stays. -/
theorem bufferFlush_shows {surface : Surface} {map : List UInt32} {screen : Screen} (patch : Patch)
    (length : map.length = surface.width * surface.height)
    (held : Holds map 0 surface.width surface.width surface.height screen) :
    ∃ after, bufferFlush surface patch map = .ok after ∧ after.length = map.length ∧
      Holds after 0 surface.width surface.width surface.height (draw patch screen) := by
  unfold bufferFlush
  dsimp only
  generalize left : max 0 patch.area.x1 = x1
  generalize top : max 0 patch.area.y1 = y1
  generalize right : min ((surface.width : Int) - 1) patch.area.x2 = x2
  generalize bottom : min ((surface.height : Int) - 1) patch.area.y2 = y2
  split
  · rename_i shown
    obtain ⟨across, down⟩ := shown
    have values : ∀ y < (y2 - y1 + 1).toNat, ∀ x < (x2 - x1 + 1).toNat, flushed patch x1 y1 x y =
        .ok (opaquePixel (patch.pixelAt (x1.toNat + x) (y1.toNat + y))) := fun y above x inside =>
      flushed_eq patch (by omega) (by omega) (by omega) (by omega) (by omega) inside above
    have narrow : (x2 - x1 + 1).toNat ≤ surface.width := by omega
    have room : ∀ y < (y2 - y1 + 1).toNat, y1.toNat * surface.width + x1.toNat + y * surface.width +
        (x2 - x1 + 1).toNat ≤ map.length := by
      intro y above
      have last : (y1.toNat + y + 1) * surface.width ≤ surface.height * surface.width :=
        Nat.mul_le_mul_right _ (by omega)
      rw [length, Nat.mul_comm surface.width]
      rw [Nat.succ_mul, Nat.add_mul] at last
      omega
    obtain ⟨after, ran, same, written, beside⟩ : ∃ after, fillTable Fault.outside _ _ _ _ _ map =
      .ok after ∧ RowsFilled _ _ _ _ map _ after := fillTable_holds values narrow room
    refine ⟨after, ran, same, fun y above x before => ?_⟩
    unfold draw
    by_cases covered : patch.area.Covers x y
    · rw [if_pos covered]
      obtain ⟨⟨fromLeft, toRight⟩, fromTop, toBottom⟩ := covered
      have pixel := written (y - y1.toNat) (by omega) (x - x1.toNat) (by omega)
      have row : y1.toNat + (y - y1.toNat) = y := by omega
      have column : x1.toNat + (x - x1.toNat) = x := by omega
      have index : y1.toNat * surface.width + x1.toNat + (y - y1.toNat) * surface.width +
          (x - x1.toNat) = 0 + y * surface.width + x := by
        conv_rhs => rw [← row, ← column, Nat.add_mul]
        omega
      dsimp only at pixel
      rw [index, row, column] at pixel
      exact pixel
    · rw [if_neg covered, ← held y above x before]
      refine beside _ fun turn inside => ?_
      by_contra within
      unfold Area.Covers at covered
      have place : y * surface.width + x =
          (y1.toNat + turn) * surface.width +
            (y * surface.width + x - (y1.toNat + turn) * surface.width) := by
        rw [Nat.add_mul]
        omega
      obtain ⟨row, column⟩ := place_eq before (by rw [Nat.add_mul]; omega) place
      rw [Nat.add_mul] at column
      omega
  · rename_i hidden
    refine ⟨map, rfl, rfl, fun y above x before => ?_⟩
    have outside : ¬patch.area.Covers x y := by
      unfold Area.Covers
      omega
    rw [held y above x before, draw, if_neg outside]

/-! ### Copying -/

theorem getElem?_bytesOf {words : List UInt32} (found : words[index]? = some word) (part : k < 4) :
    (bytesOf words)[index * 4 + k]? = (littleEndianBytes 4 word.toNat)[k]? := by
  induction words generalizing index with
  | nil => cases found
  | cons head rest ih =>
    have bytes : bytesOf (head :: rest) = littleEndianBytes 4 head.toNat ++ bytesOf rest := rfl
    have four := littleEndianBytes_length 4 head.toNat
    cases index with
    | zero =>
      obtain rfl := Option.some.inj found
      rw [bytes, Nat.zero_mul, Nat.zero_add, List.getElem?_append_left (by omega)]
    | succ index =>
      rw [bytes, List.getElem?_append_right (by omega), four]
      have later : (index + 1) * 4 + k - 4 = index * 4 + k := by omega
      rw [later]
      exact ih found

/-- The byte of a screen in a row of bytes. -/
def screenByte (screen : Screen) (column y : Nat) : UInt8 :=
  (littleEndianBytes 4 (screen (column / 4) y).toNat).getD (column % 4) 0

/-- A file of pixels, byte by byte. -/
theorem holds_bytes {file : List UInt32} {width height : Nat} {screen : Screen}
    (held : Holds file 0 width width height screen) :
    Holds (bytesOf file) 0 (width * 4) (width * 4) height (screenByte screen) := by
  intro y above column before
  have found := held y above (column / 4) (by omega)
  rw [Nat.zero_add] at found
  have part : column % 4 < 4 := Nat.mod_lt column (by decide)
  have index : 0 + y * (width * 4) + column = (y * width + column / 4) * 4 + column % 4 := by
    have whole := Nat.div_add_mod column 4
    rw [Nat.add_mul, Nat.mul_assoc]
    omega
  rw [index, getElem?_bytesOf found part]
  unfold screenByte
  rw [List.getD_eq_getElem?_getD]
  have length := littleEndianBytes_length 4 (screen (column / 4) y).toNat
  rw [List.getElem?_eq_getElem (by omega)]
  rfl

theorem load_of_found {cells : List α} (found : cells[index]? = some value) :
    load Fault.outside cells index = .ok value := by
  unfold load
  rw [found]

/-- A copy shows what its source shows. -/
theorem copyRows_holds {source target : List UInt8} {picture : Nat → Nat → UInt8}
    (held : Holds source 0 stride rowBytes rows picture) (narrow : rowBytes ≤ pitch)
    (room : pitch * rows ≤ target.length) :
    ∃ after, copyRows source stride rowBytes rows pitch target = .ok after ∧
      RowsFilled 0 pitch rowBytes picture target rows after := by
  refine fillTable_holds (fun y above x before => load_of_found ?_) narrow fun y above => ?_
  · have found := held y above x before
    rwa [Nat.zero_add] at found
  · have last : (y + 1) * pitch ≤ rows * pitch := Nat.mul_le_mul_right pitch above
    rw [Nat.succ_mul, Nat.mul_comm rows] at last
    omega

theorem publish_shows {surface : Surface} {pixels plane : List UInt8} {screen : Screen}
    (held : Holds pixels 0 (surface.width * 4) (surface.width * 4) surface.height
      (screenByte screen)) (length : plane.length = surface.size) :
    ∃ after, publishUiFrameFromArgb surface pixels surface.width surface.height
        (surface.width * 4 % 4294967296) plane = .ok (true, after) ∧
      after.length = plane.length ∧
      Holds after 0 surface.pitch (surface.width * 4) surface.height (screenByte screen) := by
  have whole : surface.width * 4 % 4294967296 = surface.width * 4 := by
    have fits := surface.rowFits
    exact Nat.mod_eq_of_lt (by omega)
  unfold publishUiFrameFromArgb
  by_cases nothing : surface.width = 0 ∨ surface.height = 0
  · rw [if_pos nothing]
    refine ⟨plane, rfl, rfl, fun y above x before => ?_⟩
    omega
  · have room : surface.pitch * surface.height ≤ plane.length := by
      rw [length]
      exact surface.room
    obtain ⟨after, ran, same, shown, _⟩ := copyRows_holds held surface.wide room
    rw [if_neg nothing, if_neg (by simp), if_neg (Nat.lt_irrefl _), whole, ran]
    exact ⟨after, rfl, same, shown⟩

/-! ### What is on the display -/

/-- The screen that the user interface has drawn, if there is one, and the one that is shown. -/
structure Screens where
  started : Bool
  drawn : Option Screen
  shown : Screen

def showScreens (screens : Screens) : Event → Screens
  | .start => { screens with started := true, drawn := some blank }
  | .clear => if screens.started then { screens with drawn := some blank } else screens
  | .flush patch =>
    if screens.started then { screens with drawn := screens.drawn.map (draw patch) } else screens
  | .publish => { screens with shown := screens.drawn.getD screens.shown }

/-- The file has the screen that was drawn, and the plane the one that was published last. -/
structure Agrees (surface : Surface) (path : UiPath) (screens : Screens) : Prop where
  started : path.started = screens.started
  length : screens.started = true → path.file.length = surface.width * surface.height
  running : screens.started = true → screens.drawn.isSome = true
  drawn : ∀ screen, screens.drawn = some screen →
    surface.width * surface.height ≤ path.file.length ∧
      Holds path.file 0 surface.width surface.width surface.height screen
  small : screens.drawn = none → path.file.length < surface.width * surface.height
  mapped : path.mapped = true → screens.drawn.isSome = true
  size : path.plane.length = surface.size
  shown : Holds path.plane 0 surface.pitch (surface.width * 4) surface.height
    (screenByte screens.shown)

section Steps
variable {surface : Surface} {path : UiPath} {screens : Screens}

theorem holds_blank (surface : Surface) :
    Holds (List.replicate (surface.width * surface.height) 0) 0 surface.width surface.width
      surface.height blank := by
  intro y above x before
  have inside := index_inside above before
  rw [Nat.zero_add, List.getElem?_replicate_of_lt inside]
  rfl

theorem length_resize (length : Nat) (file : List UInt32) :
    (resize length file).length = length := by
  unfold resize
  rw [List.length_append, List.length_take, List.length_replicate]
  omega

theorem fillN_all {file : List UInt32} (length : file.length = count) :
    fillN count file = List.replicate count 0 := by
  unfold fillN
  rw [← length, List.drop_length, List.append_nil]

theorem Agrees.blanked (agrees : Agrees surface path screens) {file : List UInt32}
    (zero : file = List.replicate (surface.width * surface.height) 0) :
    Agrees surface { path with file := file, started := true }
      { screens with started := true, drawn := some blank } := by
  subst zero
  refine ⟨rfl, fun _ => List.length_replicate, fun _ => rfl, ?_, nofun, fun _ => rfl, agrees.size,
    agrees.shown⟩
  intro screen same
  obtain rfl := Option.some.inj same
  exact ⟨Nat.le_of_eq List.length_replicate.symm, holds_blank surface⟩

theorem Agrees.start (agrees : Agrees surface path screens) :
    Agrees surface (createBufferDisplay surface path) (showScreens screens .start) := by
  refine agrees.blanked ?_
  rw [Nat.mod_eq_of_lt surface.pixelsFit]
  exact fillN_all (length_resize _ _)

theorem Agrees.clear (agrees : Agrees surface path screens) :
    ∃ next, step surface path .clear = .ok next ∧
      Agrees surface next (showScreens screens .clear) := by
  obtain ⟨file, started, mapped, plane⟩ := path
  obtain ⟨running, drawn, shown⟩ := screens
  obtain rfl : started = running := agrees.started
  cases started with
  | false => exact ⟨_, rfl, agrees⟩
  | true => exact ⟨_, rfl, agrees.blanked (fillN_all (agrees.length rfl))⟩

theorem Agrees.flush (agrees : Agrees surface path screens) (patch : Patch) :
    ∃ next, step surface path (.flush patch) = .ok next ∧
      Agrees surface next (showScreens screens (.flush patch)) := by
  obtain ⟨file, started, mapped, plane⟩ := path
  obtain ⟨running, drawn, shown⟩ := screens
  obtain rfl : started = running := agrees.started
  cases started with
  | false => exact ⟨_, rfl, agrees⟩
  | true =>
    obtain ⟨screen, rfl⟩ := Option.isSome_iff_exists.mp (agrees.running rfl)
    have length := agrees.length rfl
    have held := (agrees.drawn screen rfl).2
    obtain ⟨after, ran, kept, shows⟩ := bufferFlush_shows patch length held
    refine ⟨⟨after, true, mapped, plane⟩, ?_, rfl, fun _ => kept.trans length, fun _ => rfl, ?_,
      nofun, fun _ => rfl, agrees.size, agrees.shown⟩
    · unfold step
      dsimp only
      rw [if_pos rfl, ran]
      rfl
    · intro other found
      obtain rfl := Option.some.inj found
      exact ⟨Nat.le_of_eq (kept.trans length).symm, shows⟩

/-- The part of the file that is mapped has its screen. -/
theorem mapping_holds (surface : Surface) (path : UiPath) {screen : Screen}
    (held : Holds path.file 0 surface.width surface.width surface.height screen) :
    Holds (mapping surface path) 0 (surface.width * 4) (surface.width * 4) surface.height
      (screenByte screen) := by
  intro y above column before
  have inside := index_inside above before
  have size : surface.width * 4 * surface.height = surface.width * surface.height * 4 := by
    rw [Nat.mul_right_comm]
  have found := holds_bytes held y above column before
  unfold mapping
  rw [List.getElem?_take_of_lt (by omega)]
  exact found

theorem openIfNeeded_mapped (agrees : Agrees surface path screens) :
    (openIfNeeded surface path).mapped = screens.drawn.isSome := by
  unfold openIfNeeded
  split
  · rename_i mapped
    exact mapped.trans (agrees.mapped mapped).symm
  · cases drawn : screens.drawn with
    | none =>
      have small := agrees.small drawn
      exact decide_eq_false (by omega)
    | some screen =>
      have enough := (agrees.drawn screen drawn).1
      exact decide_eq_true (by omega)

theorem openIfNeeded_same (surface : Surface) (path : UiPath) :
    (openIfNeeded surface path).file = path.file ∧
      (openIfNeeded surface path).started = path.started ∧
      (openIfNeeded surface path).plane = path.plane := by
  unfold openIfNeeded
  split <;> exact ⟨rfl, rfl, rfl⟩

theorem Agrees.opened (agrees : Agrees surface path screens) :
    Agrees surface (openIfNeeded surface path) screens := by
  have mapped := openIfNeeded_mapped agrees
  obtain ⟨file, started, plane⟩ := openIfNeeded_same surface path
  obtain ⟨same, length, running, drawn, small, _, size, shown⟩ := agrees
  rw [← file] at length drawn small
  rw [← plane] at size shown
  exact ⟨started.trans same, length, running, drawn, small, fun isOpen => mapped ▸ isOpen, size,
    shown⟩

theorem Agrees.publish (agrees : Agrees surface path screens) :
    ∃ next, step surface path .publish = .ok next ∧
      Agrees surface next (showScreens screens .publish) := by
  have opened := agrees.opened
  have mapped := openIfNeeded_mapped agrees
  obtain ⟨running, drawn, shown⟩ := screens
  unfold step
  dsimp only
  generalize openIfNeeded surface path = after at *
  cases drawn with
  | none =>
    rw [mapped]
    exact ⟨after, rfl, opened⟩
  | some screen =>
    have held := (opened.drawn screen rfl).2
    obtain ⟨plane, ran, same, shows⟩ := publish_shows (mapping_holds surface after held) opened.size
    rw [mapped, ran]
    exact ⟨_, rfl, opened.started, opened.length, opened.running, opened.drawn, opened.small,
      fun _ => rfl, same.trans opened.size, shows⟩

theorem Agrees.step (agrees : Agrees surface path screens) (event : Event) :
    ∃ next, step surface path event = .ok next ∧
      Agrees surface next (showScreens screens event) := by
  cases event with
  | start => exact ⟨_, rfl, agrees.start⟩
  | clear => exact agrees.clear
  | flush patch => exact agrees.flush patch
  | publish => exact agrees.publish

end Steps

/-- The plane is filled with a color, and then whatever happens in the two processes. -/
def run (surface : Surface) (file : List UInt32) (plane : List UInt8) (color : UInt32)
    (events : List Event) : Except Fault UiPath := do
  let plane ← publishSolidUiFrame surface color plane
  events.foldlM (step surface) { file := file, plane := plane }

/-- What a file from an earlier time shows. -/
def leftOver (surface : Surface) (file : List UInt32) : Option Screen :=
  if surface.width * surface.height ≤ file.length then
    some fun x y => file.getD (y * surface.width + x) 0
  else none

def screensAfter (surface : Surface) (file : List UInt32) (color : UInt32) (events : List Event) :
    Screens := events.foldl showScreens ⟨false, leftOver surface file, fun _ _ => color⟩

theorem start_agrees {surface : Surface} {plane : List UInt8} (file : List UInt32) (color : UInt32)
    (size : plane.length = surface.size) :
    ∃ filled, publishSolidUiFrame surface color plane = .ok filled ∧
      Agrees surface { file := file, plane := filled }
        ⟨false, leftOver surface file, fun _ _ => color⟩ := by
  have room : ∀ y < surface.height, 0 + y * surface.pitch + surface.width * 4 ≤ plane.length := by
    intro y above
    have last : (y + 1) * surface.pitch ≤ surface.height * surface.pitch :=
      Nat.mul_le_mul_right _ above
    have wide := surface.wide
    have fits := surface.room
    rw [Nat.succ_mul, Nat.mul_comm surface.height] at last
    omega
  have values : ∀ y < surface.height, ∀ x < surface.width * 4,
      load Fault.outside (littleEndianBytes 4 color.toNat) (x % 4) =
        .ok (screenByte (fun _ _ => color) x y) := by
    intro y _ x _
    have length := littleEndianBytes_length 4 color.toNat
    exact load_inside _ (by omega) 0
  obtain ⟨filled, ran, same, shows, _⟩ : ∃ filled, publishSolidUiFrame surface color plane =
    .ok filled ∧ RowsFilled _ _ _ _ plane _ filled := fillTable_holds values surface.wide room
  refine ⟨filled, ran, rfl, nofun, nofun, ?_, ?_, nofun, same.trans size, shows⟩
  · intro screen found
    unfold leftOver at found
    split at found
    · rename_i enough
      obtain rfl := Option.some.inj found
      refine ⟨enough, fun y above x before => ?_⟩
      have inside := Nat.lt_of_lt_of_le (index_inside above before) enough
      dsimp only
      rw [Nat.zero_add, List.getD_eq_getElem?_getD, List.getElem?_eq_getElem inside]
      rfl
    · cases found
  · intro none
    unfold leftOver at none
    split at none
    · cases none
    · exact Nat.not_le.mp ‹_›

theorem foldlM_agrees {surface : Surface} (events : List Event) {path : UiPath} {screens : Screens}
    (agrees : Agrees surface path screens) :
    ∃ final, events.foldlM (step surface) path = .ok final ∧
      Agrees surface final (events.foldl showScreens screens) := by
  induction events generalizing path screens with
  | nil => exact ⟨path, rfl, agrees⟩
  | cons event rest ih =>
    obtain ⟨next, stepped, agrees⟩ := agrees.step event
    obtain ⟨final, ran, agrees⟩ := ih agrees
    refine ⟨final, ?_, agrees⟩
    rw [List.foldlM_cons, stepped]
    exact ran

theorem run_agrees {surface : Surface} {plane : List UInt8} (file : List UInt32) (color : UInt32)
    (size : plane.length = surface.size) (events : List Event) :
    ∃ final, run surface file plane color events = .ok final ∧
      Agrees surface final (screensAfter surface file color events) := by
  obtain ⟨filled, published, agrees⟩ := start_agrees file color size
  obtain ⟨final, ran, agrees⟩ := foldlM_agrees events agrees
  refine ⟨final, ?_, agrees⟩
  unfold run
  rw [published]
  exact ran

theorem screenByte_eq (screen : Screen) (x y : Nat) (part : k < 4) :
    some (screenByte screen (x * 4 + k) y) = (littleEndianBytes 4 (screen x y).toNat)[k]? := by
  have column : (x * 4 + k) / 4 = x := by omega
  have byte : (x * 4 + k) % 4 = k := by omega
  have length := littleEndianBytes_length 4 (screen x y).toNat
  unfold screenByte
  rw [column, byte, List.getD_eq_getElem?_getD, List.getElem?_eq_getElem (by omega)]
  rfl

/-- However the processes take turns, and whenever the one that draws is started again: nothing
outside of the buffers is touched, and the plane shows the screen that was published last. -/
theorem ui_pictures_reach_the_plane (surface : Surface) (file : List UInt32) (plane : List UInt8)
    (size : plane.length = surface.size) (color : UInt32) (events : List Event) :
    ∃ path, run surface file plane color events = .ok path ∧
      ∀ y < surface.height, ∀ x < surface.width, ∀ k < 4,
        path.plane[y * surface.pitch + (x * 4 + k)]? =
          (littleEndianBytes 4 ((screensAfter surface file color events).shown x y).toNat)[k]? := by
  obtain ⟨path, ran, agrees⟩ := run_agrees file color size events
  refine ⟨path, ran, fun y above x before k part => ?_⟩
  have byte := agrees.shown y above (x * 4 + k) (by omega)
  rw [Nat.zero_add, screenByte_eq _ _ _ part] at byte
  exact byte

theorem dots_rowFits : 2 < 1073741824 := by decide
theorem dots_pixelsFit : 2 * 1 < 4294967296 := by decide
theorem dots_wide : 2 * 4 ≤ 8 := by decide
theorem dots_room : 8 * 1 ≤ 8 := by decide

/-- A display of two pixels. -/
def dots : Surface := ⟨2, 1, 8, 8, dots_rowFits, dots_pixelsFit, dots_wide, dots_room⟩

theorem rightDot_enough :
    (Area.mk 1 0 2 0).width * (Area.mk 1 0 2 0).height ≤ [0x112233, 0].length := by decide

/-- The right one of them, and one that is outside. -/
def rightDot : Patch := ⟨⟨1, 0, 2, 0⟩, [0x112233, 0], rightDot_enough⟩

theorem right_dot_is_shown : ∃ path,
    run dots [] (List.replicate 8 7) 0 [.publish, .start, .flush rightDot, .publish] = .ok path ∧
    ∀ y < dots.height, ∀ x < dots.width, ∀ k < 4,
      path.plane[y * dots.pitch + (x * 4 + k)]? =
        (littleEndianBytes 4 ((screensAfter dots [] 0
          [.publish, .start, .flush rightDot, .publish]).shown x y).toNat)[k]? :=
  ui_pictures_reach_the_plane dots [] (List.replicate 8 7) rfl 0
    [.publish, .start, .flush rightDot, .publish]

example : ((run dots [] (List.replicate 8 7) 0
    [.publish, .start, .flush rightDot, .publish]).toOption.map UiPath.plane) =
      some [0, 0, 0, 0, 0x33, 0x22, 0x11, 0xff] := by decide

/-! ### What is visible -/

/-- Every pixel that shows something has alpha. -/
def Visible (screen : Screen) : Prop := ∀ x y, screenByte screen (x * 4 + 3) y ≠ 0 ↔ screen x y ≠ 0

theorem screenByte_alpha (screen : Screen) (x y : Nat) :
    screenByte screen (x * 4 + 3) y = UInt8.ofNat ((screen x y).toNat / 16777216) := by
  have byte := screenByte_eq screen x y (k := 3) (by decide)
  simp only [littleEndianBytes, Nat.div_div_eq_div_mul] at byte
  exact Option.some.inj byte

theorem and_low {low : Nat} (small : low < 16777216) : low &&& 0xFF000000 = 0 := by
  have below : low &&& 0xFF000000 < 16777216 := Nat.lt_of_le_of_lt Nat.and_le_left small
  have mask := Nat.and_mod_two_pow (a := low) (b := 0xFF000000) (n := 24)
  have nothing : 0xFF000000 % 2 ^ 24 = 0 := by decide
  have size : 2 ^ 24 = 16777216 := by decide
  rw [nothing, Nat.and_zero, size, Nat.mod_eq_of_lt below] at mask
  exact mask

theorem opaquePixel_alpha (pixel : UInt32) :
    UInt8.ofNat ((opaquePixel pixel).toNat / 16777216) ≠ 0 ↔ opaquePixel pixel ≠ 0 := by
  have range := (opaquePixel pixel).toNat_lt
  have alpha : UInt8.ofNat ((opaquePixel pixel).toNat / 16777216) ≠ 0 ↔
      16777216 ≤ (opaquePixel pixel).toNat := by
    rw [ne_eq, ← UInt8.toNat_inj, UInt8.toNat_ofNat', UInt8.toNat_zero]
    omega
  have value : opaquePixel pixel ≠ 0 ↔ (opaquePixel pixel).toNat ≠ 0 := by
    rw [ne_eq, ← UInt32.toNat_inj, UInt32.toNat_zero]
  rw [alpha, value]
  refine ⟨fun high => by omega, fun nonzero => ?_⟩
  unfold opaquePixel at *
  split
  · rw [UInt32.toNat_or]
    exact Nat.le_trans (by decide) Nat.right_le_or
  · rename_i other
    rw [if_neg other] at nonzero
    by_contra low
    refine other ⟨fun zero => nonzero (by rw [zero]; rfl), ?_⟩
    rw [← UInt32.toNat_inj, UInt32.toNat_and]
    exact and_low (Nat.not_le.mp low)
theorem visible_blank : Visible blank := by
  intro x y
  have zero : blank x y = 0 := rfl
  rw [screenByte_alpha, zero]
  decide

theorem Visible.draw (visible : Visible screen) (patch : Patch) : Visible (draw patch screen) := by
  intro x y
  have kept := visible x y
  rw [screenByte_alpha] at kept ⊢
  unfold UiPixels.draw
  split
  · exact opaquePixel_alpha _
  · exact kept

/-- What a user interface has drawn since it was started. -/
def DrawnVisible (screens : Screens) : Prop :=
  screens.started = true → ∀ screen, screens.drawn = some screen → Visible screen

theorem DrawnVisible.step (visible : DrawnVisible screens) (event : Event) :
    DrawnVisible (showScreens screens event) := by
  unfold showScreens
  cases event with
  | start =>
    intro _ screen same
    obtain rfl := Option.some.inj same
    exact visible_blank
  | clear =>
    dsimp only
    split
    · intro _ screen same
      obtain rfl := Option.some.inj same
      exact visible_blank
    · exact visible
  | flush patch =>
    dsimp only
    split
    · intro running screen same
      obtain ⟨before, drawn, rfl⟩ := Option.map_eq_some_iff.mp same
      exact (visible running before drawn).draw patch
    · exact visible
  | publish => exact visible

theorem argbBufferHasVisibleAlpha_iff {pixels : List UInt8} {width height : Nat} {screen : Screen}
    (fits : width < 1073741824)
    (held : Holds pixels 0 (width * 4) (width * 4) height (screenByte screen)) :
    argbBufferHasVisibleAlpha pixels width height (width * 4 % 4294967296) = true ↔
      ∃ y < height, ∃ x < width, screenByte screen (x * 4 + 3) y ≠ 0 := by
  have whole : width * 4 % 4294967296 = width * 4 := Nat.mod_eq_of_lt (by omega)
  unfold argbBufferHasVisibleAlpha
  rw [whole]
  split
  · rename_i nothing
    refine iff_of_false (by decide) ?_
    rintro ⟨y, above, x, before, _⟩
    omega
  · simp only [List.any_eq_true, List.mem_range, decide_eq_true_eq]
    refine exists_congr fun y => and_congr_right fun above => ?_
    refine exists_congr fun x => and_congr_right fun before => ?_
    have byte := held y above (x * 4 + 3) (by omega)
    rw [Nat.zero_add] at byte
    rw [List.getD_eq_getElem?_getD, byte]
    rfl

/-- While the user interface runs, its buffer is taken for visible exactly if a pixel of its screen
shows something, also one that was drawn without alpha. -/
theorem visible_iff_drawn (surface : Surface) (file : List UInt32) (plane : List UInt8)
    (size : plane.length = surface.size) (color : UInt32) (events : List Event) :
    ∃ path, run surface file plane color events = .ok path ∧
      (path.started = true → ∃ screen,
        (screensAfter surface file color events).drawn = some screen ∧
        (argbBufferHasVisibleAlpha (mapping surface path) surface.width surface.height
            (surface.width * 4 % 4294967296) = true ↔
          ∃ y < surface.height, ∃ x < surface.width, screen x y ≠ 0)) := by
  obtain ⟨path, ran, agrees⟩ := run_agrees file color size events
  refine ⟨path, ran, fun started => ?_⟩
  have running := agrees.started.symm.trans started
  obtain ⟨screen, drawn⟩ := Option.isSome_iff_exists.mp (agrees.running running)
  have visible : DrawnVisible (screensAfter surface file color events) :=
    Runs.invariant_after_any_run events (fun _ event visible => visible.step event) nofun
  refine ⟨screen, drawn, ?_⟩
  rw [argbBufferHasVisibleAlpha_iff surface.rowFits
    (mapping_holds surface path (agrees.drawn screen drawn).2)]
  have each : ∀ x y, screenByte screen (x * 4 + 3) y ≠ 0 ↔ screen x y ≠ 0 :=
    visible running screen drawn
  simp only [each]

theorem right_dot_is_visible : ∃ path,
    run dots [] (List.replicate 8 7) 0 [.start, .flush rightDot] = .ok path ∧
      (path.started = true → ∃ screen,
        (screensAfter dots [] 0 [.start, .flush rightDot]).drawn = some screen ∧
        (argbBufferHasVisibleAlpha (mapping dots path) dots.width dots.height
            (dots.width * 4 % 4294967296) = true ↔
          ∃ y < dots.height, ∃ x < dots.width, screen x y ≠ 0)) :=
  visible_iff_drawn dots [] (List.replicate 8 7) rfl 0 [.start, .flush rightDot]

end Glide.UiPixels
