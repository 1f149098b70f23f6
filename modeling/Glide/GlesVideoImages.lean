import Mathlib.Data.List.Find
import Mathlib.Data.List.Range
import Glide.Library.Ownership
import Glide.Library.Runs
import Glide.Library.StampedCaches
import Glide.KmsAtomicCompositor

/-! The video as it is drawn with GLES. A decoded frame is imported as an EGL image with a texture,
and the images of the buffers that were drawn last are kept, so that a buffer that comes again is
not imported again. -/
namespace Glide.GlesVideoImages
open Library Ownership Runs RecencyLists StampedCaches KmsPlanes

inductive YuvColorSpace where
  | unspecified
  | rec601
  | rec709
  | rec2020
deriving DecidableEq

inductive YuvRange where
  | unspecified
  | narrow
  | full
deriving DecidableEq

structure VideoFrame extends KmsAtomicCompositor.DmabufVideoFrame where
  yuvColorSpace : YuvColorSpace := .unspecified
  yuvRange : YuvRange := .unspecified

/-- The device and the inode of a file. -/
abbrev FileId := Nat × Nat

structure ImageKey where
  device : Nat
  inode : Nat
  width : Nat
  height : Nat
  format : Nat
  planeCount : Nat
  strides : List Nat
  offsets : List Nat
  modifiers : List Nat
  yuvColorSpace : YuvColorSpace
  yuvRange : YuvRange
deriving DecidableEq

/-- What an image is created from. EGL is given the descriptors of the planes and takes the files
behind them. -/
structure Attributes where
  width : Int
  height : Int
  format : Int
  lumaFile : Option FileId
  lumaOffset : Int
  lumaPitch : Int
  chromaFile : Option FileId
  chromaOffset : Int
  chromaPitch : Int
  colorSpace : YuvColorSpace
  fullRange : Bool
deriving DecidableEq

/-- Images and textures are numbered as they are created. -/
structure CachedImage where
  key : ImageKey
  image : Nat
  texture : Nat
  lastUsed : Nat
deriving DecidableEq

def CachedImage.used (serial : Nat) (cached : CachedImage) : CachedImage :=
  { cached with lastUsed := serial }

/-- What the system answers during a draw: whether the renderer can be initialized, the files behind
descriptors, and whether an image is created, bound to its texture and drawn. -/
structure Environment where
  initializes : Bool := true
  file : Int → Option FileId
  createsImage : Bool := true
  bindsImage : Bool := true
  drawsImage : Bool := true

/-- The renderer, with the images and textures that it created and gave back. -/
structure Renderer where
  initialized : Bool := false
  images : List CachedImage := []
  serial : Nat := 0
  created : List Attributes := []
  destroyed : List Nat := []
  generated : Nat := 0
  deleted : List Nat := []

/-- A conversion to a signed number of 32 bits. -/
def eglInt (value : Nat) : Int := if value < 0x80000000 then value else value - 0x100000000

def planeFd (frame : VideoFrame) (plane : Nat) : Int := frame.fds.getD plane (-1)

/-- The entries of an array for the planes of the frame. -/
def planeEntries (frame : VideoFrame) (entries : List Nat) : List Nat :=
  (List.range 4).map fun plane => if plane < frame.planeCount then entries.getD plane 0 else 0

def makeKey (frame : VideoFrame) (file : Int → Option FileId) : Option ImageKey :=
  if planeFd frame 0 < 0 then none
  else (file (planeFd frame 0)).map fun info => {
    device := info.1, inode := info.2
    width := frame.width, height := frame.height
    format := frame.drmFormat, planeCount := frame.planeCount
    strides := planeEntries frame frame.strides
    offsets := planeEntries frame frame.offsets
    modifiers := planeEntries frame frame.modifiers
    yuvColorSpace := frame.yuvColorSpace, yuvRange := frame.yuvRange }

/-- The comparison of a cached key; of the arrays it looks at the planes of the other key. -/
def sameKey (cached key : ImageKey) : Bool :=
  cached.device == key.device && cached.inode == key.inode && cached.width == key.width &&
    cached.height == key.height && cached.format == key.format &&
    cached.planeCount == key.planeCount && cached.yuvColorSpace == key.yuvColorSpace &&
    cached.yuvRange == key.yuvRange &&
    (List.range key.planeCount).all fun plane =>
      cached.strides.getD plane 0 == key.strides.getD plane 0 &&
        cached.offsets.getD plane 0 == key.offsets.getD plane 0 &&
        cached.modifiers.getD plane 0 == key.modifiers.getD plane 0

def attributes (frame : VideoFrame) (file : Int → Option FileId) : Attributes where
  width := eglInt frame.width
  height := eglInt frame.height
  format := eglInt frame.drmFormat
  lumaFile := file (planeFd frame 0)
  lumaOffset := eglInt (frame.offsets.getD 0 0)
  lumaPitch := eglInt (frame.strides.getD 0 0)
  chromaFile := file (planeFd frame 1)
  chromaOffset := eglInt (frame.offsets.getD 1 0)
  chromaPitch := eglInt (frame.strides.getD 1 0)
  colorSpace :=
    match frame.yuvColorSpace with
    | .rec601 => .rec601
    | .rec2020 => .rec2020
    | .rec709 => .rec709
    | .unspecified => .rec709
  fullRange := frame.yuvRange == .full

/-- The image and its texture. One that cannot be bound is given back. -/
def importImage (frame : VideoFrame) (environment : Environment) (renderer : Renderer) :
    Option (Nat × Nat) × Renderer :=
  if environment.createsImage then
    let image := renderer.created.length
    let texture := renderer.generated
    let renderer := { renderer with
      created := renderer.created ++ [attributes frame environment.file]
      generated := renderer.generated + 1 }
    if environment.bindsImage then (some (image, texture), renderer)
    else
      (none, { renderer with
        destroyed := renderer.destroyed ++ [image], deleted := renderer.deleted ++ [texture] })
  else (none, renderer)

/-- A cached image has a texture and an image, and the renderer has its display by then. -/
def destroyImage (renderer : Renderer) (cached : CachedImage) : Renderer :=
  { renderer with
    destroyed := renderer.destroyed ++ [cached.image]
    deleted := renderer.deleted ++ [cached.texture] }

def maximumCachedImages : Nat := 16

def evictIfNeeded (renderer : Renderer) : Renderer :=
  let split := takeExcess CachedImage.lastUsed maximumCachedImages renderer.images.length
    renderer.images
  split.1.foldl destroyImage { renderer with images := split.2 }

def nextSerial (renderer : Renderer) : Nat := (renderer.serial + 1) % 0x10000000000000000

/-- The entry that is returned is the one that was found, or the last one of the list after it has
been cut. -/
def findOrImport (frame : VideoFrame) (environment : Environment) (renderer : Renderer) :
    Option CachedImage × Renderer :=
  match makeKey frame environment.file with
  | none => (none, renderer)
  | some key =>
    match renderer.images.find? fun cached => sameKey cached.key key with
    | some cached =>
      let serial := nextSerial renderer
      (some (cached.used serial),
        { renderer with
          serial
          images := updateFirst (fun cached => sameKey cached.key key) (CachedImage.used serial)
            renderer.images })
    | none =>
      match importImage frame environment renderer with
      | (none, renderer) => (none, renderer)
      | (some (image, texture), renderer) =>
        let serial := nextSerial renderer
        let renderer := evictIfNeeded { renderer with
          serial, images := renderer.images ++ [⟨key, image, texture, serial⟩] }
        (renderer.images.getLast?, renderer)

/-- A call of `draw`. -/
structure Draw where
  frame : VideoFrame
  surface : Nat × Nat
  environment : Environment

/-- Whether the frame and the surface can be drawn at all. -/
def Draw.drawable (draw : Draw) : Bool :=
  draw.frame.drmFormat == formatNv12 && draw.frame.planeCount == 2 && draw.surface.1 != 0 &&
    draw.surface.2 != 0 && draw.frame.width != 0 && draw.frame.height != 0

/-- What `draw` returns, and the image that it draws. -/
structure Drawn where
  returned : Bool
  image : Option CachedImage

def Draw.perform (draw : Draw) (renderer : Renderer) : Drawn × Renderer :=
  if renderer.initialized || draw.environment.initializes then
    let renderer := { renderer with initialized := true }
    if draw.drawable then
      match findOrImport draw.frame draw.environment renderer with
      | (none, renderer) => (⟨false, none⟩, renderer)
      | (some image, renderer) => (⟨draw.environment.drawsImage, some image⟩, renderer)
    else (⟨false, none⟩, renderer)
  else (⟨false, none⟩, renderer)

def cleanup (renderer : Renderer) : Renderer :=
  renderer.images.foldl destroyImage { renderer with images := [] }

def step (renderer : Renderer) (draw : Draw) : Renderer := (draw.perform renderer).2

def run (draws : List Draw) : Renderer := draws.foldl step {}

/-! ### What is asked of the images -/

def Draw.key (draw : Draw) : Option ImageKey :=
  if draw.drawable then makeKey draw.frame draw.environment.file else none

/-- The keys that were drawn so far, and for each key the file of the chroma plane when its image
came to be among those that are kept. -/
structure History where
  initialized : Bool := false
  keys : List ImageKey := []
  chroma : ImageKey → Option FileId := fun _ => none

def History.kept (history : History) : List ImageKey := recent maximumCachedImages history.keys

/-- The key of the image that a draw shows: its own one, if it is kept or can be imported. -/
def History.answer (history : History) (draw : Draw) : Option ImageKey :=
  if history.initialized || draw.environment.initializes then
    draw.key.filter fun key =>
      history.kept.contains key ||
        (draw.environment.createsImage && draw.environment.bindsImage)
  else none

def History.step (history : History) (draw : Draw) : History :=
  match history.answer draw with
  | none => { history with initialized := history.initialized || draw.environment.initializes }
  | some key => {
      initialized := history.initialized || draw.environment.initializes
      keys := history.keys ++ [key]
      chroma := fun other =>
        if other = key ∧ key ∉ history.kept then draw.environment.file (planeFd draw.frame 1)
        else history.chroma other }

def historyOf (draws : List Draw) : History := draws.foldl History.step {}

/-- The image that is drawn was not given back, and it was created as the frame itself would
be imported now, but for the file of the chroma plane, which no key tells. -/
structure Shows (history : History) (draw : Draw) (after : Renderer) (image : CachedImage) :
    Prop where
  live : image.image ∉ after.destroyed
  textured : image.texture ∉ after.deleted
  content : after.created[image.image]? = some
    { attributes draw.frame draw.environment.file with chromaFile := history.chroma image.key }

variable {renderer : Renderer} {history : History} {key other : ImageKey} {draws : List Draw}

/-! ### Keys -/

/-- A key of a frame that can be drawn. -/
def Made (key : ImageKey) : Prop := ∃ draw : Draw, draw.key = some key

theorem Draw.key_some {draw : Draw} (named : draw.key = some key) :
    draw.drawable = true ∧ draw.frame.planeCount = 2 ∧
      makeKey draw.frame draw.environment.file = some key := by
  unfold Draw.key at named
  split at named
  · rename_i drawable
    refine ⟨drawable, ?_, named⟩
    simp only [Draw.drawable, Bool.and_eq_true, beq_iff_eq] at drawable
    exact drawable.1.1.1.1.2
  · cases named

theorem planeEntries_two {frame : VideoFrame} (two : frame.planeCount = 2) (entries : List Nat) :
    planeEntries frame entries = [entries.getD 0 0, entries.getD 1 0, 0, 0] := by
  unfold planeEntries
  rw [two]
  rfl

/-- What a key tells of its frame. -/
theorem key_eq {draw : Draw} (named : draw.key = some key) :
    draw.environment.file (planeFd draw.frame 0) = some (key.device, key.inode) ∧
      key = { device := key.device, inode := key.inode
              width := draw.frame.width, height := draw.frame.height
              format := draw.frame.drmFormat, planeCount := 2
              strides := [draw.frame.strides.getD 0 0, draw.frame.strides.getD 1 0, 0, 0]
              offsets := [draw.frame.offsets.getD 0 0, draw.frame.offsets.getD 1 0, 0, 0]
              modifiers := [draw.frame.modifiers.getD 0 0, draw.frame.modifiers.getD 1 0, 0, 0]
              yuvColorSpace := draw.frame.yuvColorSpace, yuvRange := draw.frame.yuvRange } := by
  obtain ⟨_, two, made⟩ := Draw.key_some named
  unfold makeKey at made
  split at made
  · cases made
  · obtain ⟨info, found, rfl⟩ := Option.map_eq_some_iff.mp made
    refine ⟨found, ?_⟩
    simp only [planeEntries_two two, two]

theorem sameKey_iff (cached : Made other) (made : Made key) :
    sameKey other key = (other == key) := by
  obtain ⟨first, firstNamed⟩ := cached
  obtain ⟨second, secondNamed⟩ := made
  have firstShape := (key_eq firstNamed).2
  have secondShape := (key_eq secondNamed).2
  rw [firstShape, secondShape, Bool.eq_iff_iff, beq_iff_eq]
  simp only [sameKey, List.range_succ, List.range_zero, List.nil_append, List.cons_append,
    List.all_cons, List.all_nil, List.getD_cons_zero, List.getD_cons_succ, Bool.and_eq_true,
    beq_iff_eq, Bool.and_true, ImageKey.mk.injEq, List.cons.injEq, and_true]
  tauto

/-- Frames of one key are imported alike, but for the file of the chroma plane. -/
theorem attributes_of_key {first second : Draw} (firstNamed : first.key = some key)
    (secondNamed : second.key = some key) (chroma : Option FileId) :
    { attributes first.frame first.environment.file with chromaFile := chroma } =
      { attributes second.frame second.environment.file with chromaFile := chroma } := by
  obtain ⟨firstFile, firstShape⟩ := key_eq firstNamed
  obtain ⟨secondFile, secondShape⟩ := key_eq secondNamed
  have same := firstShape.symm.trans secondShape
  simp only [ImageKey.mk.injEq, List.cons.injEq, true_and, and_true] at same
  obtain ⟨width, height, format, ⟨lumaPitch, chromaPitch⟩, ⟨lumaOffset, chromaOffset⟩, _, space,
    range⟩ := same
  simp only [attributes, firstFile, secondFile, width, height, format, lumaPitch, chromaPitch,
    lumaOffset, chromaOffset, space, range]

/-! ### Who has an image -/

/-- Every image is in the cache or was given back, and so is every texture. -/
structure Owned (renderer : Renderer) : Prop where
  images : Accounted renderer.created.length [renderer.destroyed, renderer.images.map (·.image)]
  textures : Accounted renderer.generated [renderer.deleted, renderer.images.map (·.texture)]
  few : renderer.images.length ≤ maximumCachedImages

theorem destroyImages (taken : List CachedImage) (renderer : Renderer) :
    taken.foldl destroyImage renderer = { renderer with
      destroyed := renderer.destroyed ++ taken.map (·.image)
      deleted := renderer.deleted ++ taken.map (·.texture) } := by
  induction taken generalizing renderer with
  | nil => simp
  | cons first rest ih =>
    rw [List.foldl_cons, ih]
    simp [destroyImage]

/-- What the cut takes out of the cache is given back. -/
theorem evictIfNeeded_eq (renderer : Renderer) : ∃ taken left,
    takeExcess CachedImage.lastUsed maximumCachedImages renderer.images.length renderer.images =
        (taken, left) ∧
      evictIfNeeded renderer = { renderer with
        images := left
        destroyed := renderer.destroyed ++ taken.map (·.image)
        deleted := renderer.deleted ++ taken.map (·.texture) } := by
  refine ⟨_, _, rfl, ?_⟩
  unfold evictIfNeeded
  rw [destroyImages]

theorem moved_count {α : Type} {taken left all : List α} (perm : (taken ++ left).Perm all)
    (view : α → Nat) (given : List Nat) (item : Nat) :
    [given ++ taken.map view, left.map view].flatten.count item =
      [given, all.map view].flatten.count item := by
  have same := (perm.map view).count_eq item
  simp only [List.map_append, List.count_append] at same
  simp only [List.flatten_cons, List.flatten_nil, List.append_nil, List.count_append]
  omega

theorem Owned.importImage (owned : Owned renderer) (frame : VideoFrame)
    (environment : Environment) :
    match importImage frame environment renderer with
    | (none, after) => Owned after
    | (some found, after) => after.images = renderer.images ∧
        Accounted after.created.length
          [after.destroyed, renderer.images.map (·.image) ++ [found.1]] ∧
        Accounted after.generated
          [after.deleted, renderer.images.map (·.texture) ++ [found.2]] := by
  unfold GlesVideoImages.importImage
  by_cases creates : environment.createsImage = true
  · by_cases binds : environment.bindsImage = true
    · rw [if_pos creates]
      dsimp only
      rw [if_pos binds]
      refine ⟨rfl, ?_, ?_⟩
      · rw [List.length_append, List.length_singleton]
        refine owned.images.obtain fun item => ?_
        simp [List.count_append, Nat.add_assoc]
      · refine owned.textures.obtain fun item => ?_
        simp [List.count_append, Nat.add_assoc]
    · rw [if_pos creates]
      dsimp only
      rw [if_neg binds]
      refine ⟨?_, ?_, owned.few⟩
      · dsimp only
        rw [List.length_append, List.length_singleton]
        refine owned.images.obtain fun item => ?_
        simp only [List.flatten_cons, List.flatten_nil, List.append_nil, List.count_append]
        omega
      · refine owned.textures.obtain fun item => ?_
        simp only [List.flatten_cons, List.flatten_nil, List.append_nil, List.count_append]
        omega
  · rw [if_neg creates]
    exact owned

/-- A new image enters the cache, and what the cut takes out is given back. -/
theorem Owned.push (after : Renderer) (cached : CachedImage)
    (images : Accounted after.created.length
      [after.destroyed, after.images.map (·.image) ++ [cached.image]])
    (textures : Accounted after.generated
      [after.deleted, after.images.map (·.texture) ++ [cached.texture]]) :
    Owned (evictIfNeeded { after with
      serial := cached.lastUsed, images := after.images ++ [cached] }) := by
  obtain ⟨taken, left, split, evicted⟩ := evictIfNeeded_eq
    { after with serial := cached.lastUsed, images := after.images ++ [cached] }
  have perm := takeExcess_perm CachedImage.lastUsed maximumCachedImages
    (after.images ++ [cached]).length (after.images ++ [cached])
  have short := length_takeExcess_le CachedImage.lastUsed maximumCachedImages
    (Nat.le_refl (after.images ++ [cached]).length)
  dsimp only at split
  rw [split] at perm short
  rw [evicted]
  refine ⟨images.move fun item => ?_, textures.move fun item => ?_, short⟩
  · dsimp only
    rw [moved_count perm CachedImage.image after.destroyed item, List.map_append]
    rfl
  · dsimp only
    rw [moved_count perm CachedImage.texture after.deleted item, List.map_append]
    rfl

theorem Owned.findOrImport (owned : Owned renderer) (frame : VideoFrame)
    (environment : Environment) : Owned (findOrImport frame environment renderer).2 := by
  unfold GlesVideoImages.findOrImport
  cases makeKey frame environment.file with
  | none => exact owned
  | some key =>
    dsimp only
    cases renderer.images.find? fun cached => sameKey cached.key key with
    | some cached =>
      have images (wanted serial) := map_updateFirst CachedImage.image
        (CachedImage.used serial) wanted (fun _ => rfl) renderer.images
      have textures (wanted serial) := map_updateFirst CachedImage.texture
        (CachedImage.used serial) wanted (fun _ => rfl) renderer.images
      refine ⟨?_, ?_, ?_⟩
      · dsimp only
        rw [images]
        exact owned.images
      · dsimp only
        rw [textures]
        exact owned.textures
      · dsimp only
        rw [← List.length_map CachedImage.image, images, List.length_map]
        exact owned.few
    | none =>
      have imports := owned.importImage frame environment
      dsimp only
      split
      · rename_i refused
        rw [refused] at imports
        exact imports
      · rename_i image texture after imported
        rw [imported] at imports
        obtain ⟨same, images, textures⟩ := imports
        rw [← same] at images textures
        exact Owned.push after ⟨key, image, texture, nextSerial after⟩ images textures

theorem Owned.perform (owned : Owned renderer) (draw : Draw) : Owned (draw.perform renderer).2 := by
  unfold Draw.perform
  split
  · have started : Owned { renderer with initialized := true } :=
      ⟨owned.images, owned.textures, owned.few⟩
    dsimp only
    split
    · have found := started.findOrImport draw.frame draw.environment
      split
      · rename_i same
        rw [same] at found
        exact found
      · rename_i same
        rw [same] at found
        exact found
    · exact started
  · exact owned

theorem run_owned (draws : List Draw) : Owned (run draws) := by
  refine invariant_after_any_run draws (fun renderer draw owned => owned.perform draw) ?_
  exact ⟨accounted_empty rfl, accounted_empty rfl, Nat.zero_le _⟩

theorem perm_range_of_accounted {obtained : Nat} {given : List Nat}
    (accounted : Accounted obtained [given, []]) : given.Perm (List.range obtained) := by
  refine List.perm_iff_count.mpr fun item => ?_
  have counted := accounted item
  rw [List.flatten_cons, List.flatten_cons, List.flatten_nil, List.append_nil,
    List.append_nil] at counted
  rw [counted]
  by_cases known : item < obtained
  · rw [if_pos known, List.count_eq_one_of_mem List.nodup_range (List.mem_range.mpr known)]
  · rw [if_neg known, List.count_eq_zero_of_not_mem fun member => known (List.mem_range.mp member)]

/-- After any draws, at most 16 images are kept, and with the clean-up every image and every texture
that was created has been given back, each exactly once. -/
theorem images_given_back_once (draws : List Draw) :
    (run draws).images.length ≤ maximumCachedImages ∧
      (cleanup (run draws)).images = [] ∧
      (cleanup (run draws)).destroyed.Perm (List.range (cleanup (run draws)).created.length) ∧
      (cleanup (run draws)).deleted.Perm (List.range (cleanup (run draws)).generated) := by
  have owned := run_owned draws
  unfold cleanup
  rw [destroyImages]
  refine ⟨owned.few, rfl, ?_, ?_⟩
  · refine perm_range_of_accounted (owned.images.move fun item => ?_)
    simp
  · refine perm_range_of_accounted (owned.textures.move fun item => ?_)
    simp

/-! ### Which images are kept -/

/-- The image was created as a frame with its key is imported. -/
def Imported (renderer : Renderer) (history : History) (cached : CachedImage) : Prop :=
  ∃ draw : Draw, draw.key = some cached.key ∧ renderer.created[cached.image]? = some
    { attributes draw.frame draw.environment.file with chromaFile := history.chroma cached.key }

/-- What is between two draws. -/
structure Kept (renderer : Renderer) (history : History) (count : Nat) : Prop where
  initialized : renderer.initialized = history.initialized
  keeps : Keeps CachedImage.key CachedImage.lastUsed renderer.images history.kept
  stamped : ∀ cached ∈ renderer.images, cached.lastUsed ≤ renderer.serial
  serial : renderer.serial ≤ count
  imported : ∀ cached ∈ renderer.images, Imported renderer history cached

theorem Kept.later (kept : Kept renderer history count) (more : count ≤ further) :
    Kept renderer history further :=
  ⟨kept.initialized, kept.keeps, kept.stamped, Nat.le_trans kept.serial more, kept.imported⟩

theorem Kept.sameKey_eq (kept : Kept renderer history count) (made : Made key)
    (member : cached ∈ renderer.images) : sameKey cached.key key = (cached.key == key) := by
  obtain ⟨draw, named, _⟩ := kept.imported cached member
  exact sameKey_iff ⟨draw, named⟩ made

/-- With fewer draws than there are serial numbers, a serial number is a new one. -/
theorem Kept.nextSerial (kept : Kept renderer history count)
    (few : count + 1 < 0x10000000000000000) :
    nextSerial renderer = renderer.serial + 1 :=
  Nat.mod_eq_of_lt (Nat.lt_of_le_of_lt (Nat.succ_le_succ kept.serial) few)

theorem kept_concat (history : History) (key : ImageKey) :
    recent maximumCachedImages (history.keys ++ [key]) =
      (key :: history.kept.filter (· ≠ key)).take maximumCachedImages := recent_concat ..

theorem Kept.find (kept : Kept renderer history count) (made : Made key) :
    (renderer.images.find? fun cached => sameKey cached.key key) =
      renderer.images.find? fun cached => cached.key == key :=
  List.find?_congr fun _ member => kept.sameKey_eq made member

/-- A kept image becomes the newest one. -/
theorem Kept.hit (kept : Kept renderer history count) (few : count + 1 < 0x10000000000000000)
    (made : Made key) (present : key ∈ history.kept) (next : History)
    (initialized : renderer.initialized = next.initialized)
    (keys : next.keys = history.keys ++ [key])
    (chroma : next.chroma = history.chroma) :
    Kept { renderer with
      serial := GlesVideoImages.nextSerial renderer
      images := updateFirst (fun cached => sameKey cached.key key)
        (CachedImage.used (GlesVideoImages.nextSerial renderer)) renderer.images }
      next (count + 1) := by
  rw [kept.nextSerial few, updateFirst_congr _ fun _ member => kept.sameKey_eq made member]
  have short : (history.kept.filter (· ≠ key)).length < history.kept.length :=
    List.length_filter_lt_length_iff_exists.mpr ⟨key, present, by simp⟩
  have most : history.kept.length ≤ maximumCachedImages := length_recent_le ..
  have touched := kept.keeps.touch (nodup_recent ..) present
    (CachedImage.used (renderer.serial + 1)) (fun _ => rfl)
    fun _ cached member => Nat.lt_succ_of_le (kept.stamped cached member)
  refine ⟨initialized, ?_, ?_, Nat.succ_le_succ kept.serial, ?_⟩
  · unfold History.kept
    rw [keys, kept_concat, List.take_of_length_le (Nat.le_trans short most)]
    exact touched
  · intro cached member
    rcases mem_updateFirst member with held | ⟨held, _, rfl⟩
    · exact Nat.le_succ_of_le (kept.stamped cached held)
    · exact Nat.le_refl _
  · intro cached member
    unfold Imported
    rw [chroma]
    rcases mem_updateFirst member with held | ⟨held, listed, rfl⟩
    · exact kept.imported cached held
    · exact kept.imported held listed

/-- An image that is imported becomes the newest one, and the last one of the list. -/
theorem Kept.miss (kept : Kept renderer history count) (few : count + 1 < 0x10000000000000000)
    (absent : key ∉ history.kept) {draw : Draw} (named : draw.key = some key) (next : History)
    (initialized : renderer.initialized = next.initialized)
    (keys : next.keys = history.keys ++ [key])
    (chroma : ∀ other, next.chroma other = if other = key then
      draw.environment.file (planeFd draw.frame 1) else history.chroma other)
    (texture generated : Nat) :
    let cached : CachedImage :=
      ⟨key, renderer.created.length, texture, GlesVideoImages.nextSerial renderer⟩
    let after := evictIfNeeded { renderer with
      created := renderer.created ++ [attributes draw.frame draw.environment.file]
      generated := generated
      serial := GlesVideoImages.nextSerial renderer
      images := renderer.images ++ [cached] }
    Kept after next (count + 1) ∧ after.images.getLast? = some cached := by
  intro cached after
  have newest : ∀ older ∈ renderer.images, older.lastUsed < cached.lastUsed := by
    intro older member
    show _ < GlesVideoImages.nextSerial renderer
    rw [kept.nextSerial few]
    exact Nat.lt_succ_of_le (kept.stamped older member)
  have pushed := kept.keeps.push newest
  obtain ⟨taken, left, split, evicted⟩ := evictIfNeeded_eq { renderer with
    created := renderer.created ++ [attributes draw.frame draw.environment.file]
    generated := generated
    serial := GlesVideoImages.nextSerial renderer
    images := renderer.images ++ [cached] }
  have cut := pushed.takeExcess maximumCachedImages (Nat.le_refl _)
  have perm := takeExcess_perm CachedImage.lastUsed maximumCachedImages
    (renderer.images ++ [cached]).length (renderer.images ++ [cached])
  obtain ⟨others, front, last⟩ := takeExcess_concat maximumCachedImages (by decide)
    (renderer.images ++ [cached]).length newest
  dsimp only at split
  rw [split] at cut perm last
  have part : ∀ other ∈ left, other ∈ renderer.images ∨ other = cached := by
    intro other member
    have held := perm.mem_iff.mp (List.mem_append_right _ member)
    exact (List.mem_append.mp held).imp_right List.mem_singleton.mp
  have same : after = _ := evicted
  rw [same]
  refine ⟨⟨initialized, ?_, ?_, ?_, ?_⟩, ?_⟩
  · have apart : history.kept.filter (· ≠ key) = history.kept :=
      List.filter_eq_self.mpr fun other member => by
        simpa using fun equal : other = key => absent (equal ▸ member)
    unfold History.kept
    rw [keys, kept_concat, apart]
    exact cut
  · intro other member
    rcases part other member with held | rfl
    · exact Nat.le_of_lt (newest other held)
    · exact Nat.le_refl _
  · dsimp only
    rw [kept.nextSerial few]
    exact Nat.succ_le_succ kept.serial
  · intro other member
    unfold Imported
    rw [chroma]
    rcases part other member with held | rfl
    · have apart : other.key ≠ key := fun equal =>
        absent (kept.keeps.mem_iff.mpr ⟨other, held, equal⟩)
      obtain ⟨earlier, earlierNamed, created⟩ := kept.imported other held
      obtain ⟨bound, _⟩ := List.getElem?_eq_some_iff.mp created
      rw [if_neg apart]
      refine ⟨earlier, earlierNamed, ?_⟩
      rw [List.getElem?_append_left bound]
      exact created
    · refine ⟨draw, named, ?_⟩
      rw [if_pos rfl]
      dsimp only
      rw [List.getElem?_concat_length]
      rfl
  · dsimp only
    have tail : left = front ++ [cached] := (Prod.mk.inj last).2
    rw [tail, List.getLast?_concat]

/-! ### Runs -/

/-- The image that a draw shows is in the cache then, under the key that is to be shown. -/
structure Answered (history : History) (draw : Draw) (result : Drawn × Renderer) : Prop where
  answer : result.1.image.map (·.key) = history.answer draw
  held : ∀ image, result.1.image = some image → image ∈ result.2.images

theorem step_none {draw : Draw} (none : history.answer draw = none) : history.step draw =
    { history with initialized := history.initialized || draw.environment.initializes } := by
  unfold History.step
  rw [none]

theorem step_some {draw : Draw} (some : history.answer draw = some key) :
    (history.step draw).initialized = (history.initialized || draw.environment.initializes) ∧
      (history.step draw).keys = history.keys ++ [key] ∧
      ∀ other, (history.step draw).chroma other = if other = key ∧ key ∉ history.kept then
        draw.environment.file (planeFd draw.frame 1) else history.chroma other := by
  unfold History.step
  rw [some]
  exact ⟨rfl, rfl, fun _ => rfl⟩

/-- A draw that shows nothing keeps the images. -/
theorem Kept.nothing (kept : Kept renderer history count) {draw : Draw}
    (none : history.answer draw = none)
    (initialized : after.initialized = (history.initialized || draw.environment.initializes))
    (images : after.images = renderer.images) (serial : after.serial = renderer.serial)
    (created : ∀ (index : Nat) (found : Attributes), renderer.created[index]? = some found →
      after.created[index]? = some found) :
    Kept after (history.step draw) (count + 1) := by
  rw [step_none none]
  refine ⟨initialized, ?_, ?_, ?_, ?_⟩
  · rw [images]
    exact kept.keeps
  · rw [images, serial]
    exact kept.stamped
  · rw [serial]
    exact Nat.le_succ_of_le kept.serial
  · intro cached member
    rw [images] at member
    obtain ⟨earlier, named, found⟩ := kept.imported cached member
    exact ⟨earlier, named, created _ _ found⟩

theorem Kept.findOrImport (kept : Kept renderer history count)
    (few : count + 1 < 0x10000000000000000) (draw : Draw) (drawable : draw.drawable = true)
    (started : renderer.initialized = true) :
    Kept (findOrImport draw.frame draw.environment renderer).2 (history.step draw) (count + 1) ∧
      (findOrImport draw.frame draw.environment renderer).1.map (·.key) = history.answer draw ∧
      ∀ image, (findOrImport draw.frame draw.environment renderer).1 = some image →
        image ∈ (findOrImport draw.frame draw.environment renderer).2.images := by
  have initialized : history.initialized = true := kept.initialized.symm.trans started
  have sameKey : draw.key = makeKey draw.frame draw.environment.file := if_pos drawable
  have answer : history.answer draw = draw.key.filter fun key => history.kept.contains key ||
      (draw.environment.createsImage && draw.environment.bindsImage) := by
    unfold History.answer
    rw [initialized]
    rfl
  unfold GlesVideoImages.findOrImport
  rw [← sameKey]
  cases named : draw.key with
  | none =>
    rw [named] at answer
    exact ⟨kept.nothing answer (by rw [started, initialized]; rfl) rfl rfl fun _ _ same => same,
      answer.symm, nofun⟩
  | some key =>
    have made : Made key := ⟨draw, named⟩
    rw [named] at answer
    dsimp only
    rw [kept.find made]
    cases found : renderer.images.find? fun cached => cached.key == key with
    | some cached =>
      have sameCached : cached.key = key := by simpa using List.find?_some found
      have present : key ∈ history.kept :=
        kept.keeps.mem_iff.mpr ⟨cached, List.mem_of_find?_eq_some found, sameCached⟩
      have shown : history.answer draw = some key := by
        rw [answer, Option.filter_some, if_pos (by simp [present])]
      obtain ⟨next, keys, chroma⟩ := step_some shown
      refine ⟨kept.hit few made present _ ?_ keys ?_, ?_, ?_⟩
      · rw [next, started, initialized]
        rfl
      · funext other
        rw [chroma, if_neg fun both => both.2 present]
      · rw [shown, ← sameCached]
        rfl
      · intro image same
        obtain rfl := Option.some.inj same
        refine find_updateFirst _ ?_
        rw [kept.find made]
        exact found
    | none =>
      have absent : key ∉ history.kept := by
        intro present
        obtain ⟨cached, member, same⟩ := kept.keeps.mem_iff.mp present
        have missed := List.find?_eq_none.mp found cached member
        exact missed (by simpa using same)
      dsimp only
      unfold importImage
      by_cases creates : draw.environment.createsImage = true
      · by_cases binds : draw.environment.bindsImage = true
        · have shown : history.answer draw = some key := by
            rw [answer, Option.filter_some, if_pos (by simp [creates, binds])]
          obtain ⟨next, keys, chroma⟩ := step_some shown
          rw [if_pos creates]
          dsimp only
          rw [if_pos binds]
          dsimp only
          have imported := kept.miss few absent named (history.step draw)
            (by rw [next, started, initialized]; rfl) keys
            (fun other => by simp only [chroma, absent, not_false_eq_true, and_true])
            renderer.generated (renderer.generated + 1)
          refine ⟨imported.1, ?_, ?_⟩
          · refine Eq.trans ?_ shown.symm
            exact congrArg (Option.map _) imported.2
          · intro image same
            exact List.mem_of_getLast? same
        · have refused : history.answer draw = none := by
            rw [answer, Option.filter_some, if_neg (by simp [absent, binds])]
          rw [if_pos creates]
          dsimp only
          rw [if_neg binds]
          dsimp only
          refine ⟨kept.nothing refused ?_ rfl rfl fun index value same => ?_, refused.symm, nofun⟩
          · dsimp only
            rw [started, initialized]
            rfl
          · obtain ⟨bound, _⟩ := List.getElem?_eq_some_iff.mp same
            rw [List.getElem?_append_left bound]
            exact same
      · have refused : history.answer draw = none := by
          rw [answer, Option.filter_some, if_neg (by simp [absent, creates])]
        rw [if_neg creates]
        dsimp only
        refine ⟨kept.nothing refused ?_ rfl rfl fun _ _ same => same, refused.symm, nofun⟩
        rw [started, initialized]
        rfl

theorem Kept.perform (kept : Kept renderer history count)
    (few : count + 1 < 0x10000000000000000) (draw : Draw) :
    Kept (draw.perform renderer).2 (history.step draw) (count + 1) ∧
      Answered history draw (draw.perform renderer) := by
  unfold Draw.perform
  by_cases started : (renderer.initialized || draw.environment.initializes) = true
  · rw [if_pos started]
    have begun : (history.initialized || draw.environment.initializes) = true := by
      rw [← kept.initialized]
      exact started
    dsimp only
    by_cases drawable : draw.drawable = true
    · rw [if_pos drawable]
      have same : history.answer draw =
          History.answer { history with initialized := true } draw := by
        unfold History.answer
        rw [begun]
        rfl
      have step : history.step draw = History.step { history with initialized := true } draw := by
        unfold History.step
        rw [← same, begun]
        rfl
      have ready : Kept { renderer with initialized := true } { history with initialized := true }
          count := ⟨rfl, kept.keeps, kept.stamped, kept.serial, kept.imported⟩
      obtain ⟨next, answer, held⟩ := ready.findOrImport few draw drawable rfl
      rw [step]
      split
      · rename_i found
        rw [found] at next answer
        exact ⟨next, same ▸ answer, nofun⟩
      · rename_i image after found
        rw [found] at next answer held
        exact ⟨next, same ▸ answer, held⟩
    · rw [if_neg drawable]
      have refused : history.answer draw = none := by
        unfold History.answer Draw.key
        rw [if_neg drawable, begun]
        rfl
      exact ⟨kept.nothing refused begun.symm rfl rfl fun _ _ same => same, refused.symm, nofun⟩
  · rw [if_neg started]
    have idle : ¬(history.initialized || draw.environment.initializes) = true := by
      rw [← kept.initialized]
      exact started
    have refused : history.answer draw = none := if_neg idle
    refine ⟨kept.nothing refused ?_ rfl rfl fun _ _ same => same, refused.symm, nofun⟩
    rw [← kept.initialized]
    cases renderer.initialized with
    | false => cases environment : draw.environment.initializes with
      | false => rfl
      | true => exact absurd (by rw [environment]; exact Bool.or_true _) started
    | true => rfl

theorem run_kept (draws : List Draw) (few : draws.length < 0x10000000000000000) :
    Kept (run draws) (historyOf draws) draws.length := by
  induction draws using List.reverseRecOn with
  | nil =>
    exact ⟨rfl, keeps_nil _ _, nofun, Nat.le_refl _, nofun⟩
  | append_singleton earlier draw ih =>
    rw [List.length_append, List.length_singleton] at few ⊢
    unfold run historyOf
    rw [List.foldl_concat, List.foldl_concat]
    exact ((ih (Nat.lt_of_succ_lt few)).perform few draw).1

/-- After any draws the cache has the images of the last 16 keys that were drawn, and a draw shows
an image exactly if its key is one of them or its frame can be imported, and then the image of its
key. -/
theorem images_are_those_drawn_last (draws : List Draw) (draw : Draw)
    (few : draws.length + 1 < 0x10000000000000000) :
    ((run draws).images.map (·.key)).Perm (historyOf draws).kept ∧
      (draw.perform (run draws)).1.image.map (·.key) = (historyOf draws).answer draw := by
  have kept := run_kept draws (Nat.lt_of_succ_lt few)
  exact ⟨kept.keeps.perm, (kept.perform few draw).2.answer⟩

/-- Whatever was drawn and evicted before, what a draw shows was created as its own frame would
be imported, but for the file of the chroma plane, and has not been given back. -/
theorem draws_show_their_frames (draws : List Draw) (draw : Draw)
    (few : draws.length + 1 < 0x10000000000000000)
    (shown : (draw.perform (run draws)).1.image = some image) :
    Shows ((historyOf draws).step draw) draw (draw.perform (run draws)).2 image := by
  have kept := run_kept draws (Nat.lt_of_succ_lt few)
  obtain ⟨next, answered⟩ := kept.perform few draw
  have owned := (run_owned draws).perform draw
  have member := answered.held image shown
  have inside : image.image ∈ [(draw.perform (run draws)).2.images.map (·.image)].flatten := by
    rw [List.flatten_cons, List.flatten_nil, List.append_nil]
    exact List.mem_map_of_mem member
  have textured :
      image.texture ∈ [(draw.perform (run draws)).2.images.map (·.texture)].flatten := by
    rw [List.flatten_cons, List.flatten_nil, List.append_nil]
    exact List.mem_map_of_mem member
  have named : draw.key = some image.key := by
    have answer := answered.answer
    rw [shown] at answer
    unfold History.answer at answer
    split at answer
    · exact (Option.filter_eq_some_iff.mp answer.symm).1
    · cases answer
  obtain ⟨earlier, sameKey, created⟩ := next.imported image member
  refine ⟨owned.images.not_released inside, owned.textures.not_released textured, ?_⟩
  rw [created, attributes_of_key sameKey named]

/-- A frame whose planes lie in the file of its descriptor. -/
def sampleDraw (inode : Nat) : Draw where
  frame := {
    width := 1280, height := 720, drmFormat := formatNv12, planeCount := 2
    fds := [5, 5], strides := [1280, 1280], offsets := [0, 921600], modifiers := [0, 0] }
  surface := (1920, 1080)
  environment := { file := fun _ => some (1, inode) }

theorem seventeen_images_drawn_last :
    ((run ((List.range 17).map sampleDraw)).images.map (·.key)).Perm
        (historyOf ((List.range 17).map sampleDraw)).kept ∧
      ((sampleDraw 0).perform (run ((List.range 17).map sampleDraw))).1.image.map (·.key) =
        (historyOf ((List.range 17).map sampleDraw)).answer (sampleDraw 0) :=
  images_are_those_drawn_last ((List.range 17).map sampleDraw) (sampleDraw 0) (by decide)

theorem drawn_again_shows_its_frame :
    Shows ((historyOf [sampleDraw 7]).step (sampleDraw 7)) (sampleDraw 7)
      ((sampleDraw 7).perform (run [sampleDraw 7])).2
      ⟨⟨1, 7, 1280, 720, formatNv12, 2, [1280, 1280, 0, 0], [0, 921600, 0, 0], [0, 0, 0, 0],
        .unspecified, .unspecified⟩, 0, 0, 2⟩ :=
  draws_show_their_frames [sampleDraw 7] (sampleDraw 7) (by decide) (by decide +kernel)

end Glide.GlesVideoImages
