import Mathlib.Data.List.Infix
import Glide.Library.Attempts

/-! The planes a DRM device reports, and which of them the compositor uses: the
primary plane for the background, one for the video, one for the Flow overlay
and one for the UI. What the device answers is given from outside for each
choice, since every single query may fail. -/
namespace Glide.KmsPlanes

def formatXrgb8888 : Nat := 0x34325258
def formatArgb8888 : Nat := 0x34325241
def formatNv12 : Nat := 0x3231564e
def formatNv21 : Nat := 0x3132564e
def formatNv16 : Nat := 0x3631564e
def formatYuyv : Nat := 0x56595559
def formatYvyu : Nat := 0x55595659
def formatVyuy : Nat := 0x59555956

def modifierLinear : Nat := 0
def modifierInvalid : Nat := 0x00ffffffffffffff

/-- `blob_has_range`. -/
def blobHasRange (blob : List UInt8) (offset count elementSize : Nat) : Bool :=
  if blob.length < offset then false else count ≤ (blob.length - offset) / elementSize

/-- `read_blob_value`: a little-endian number of the given size. -/
def readBlobValue (blob : List UInt8) (size offset : Nat) : Option Nat :=
  if blobHasRange blob offset 1 size then
    some (((blob.drop offset).take size).foldr (fun byte value => byte.toNat + 256 * value) 0)
  else none

structure FormatModifierRecord where
  formats : Nat
  offset : Nat
  modifier : Nat

def readRecord (blob : List UInt8) (offset : Nat) : Option FormatModifierRecord := do
  let formats ← readBlobValue blob 8 offset
  let first ← readBlobValue blob 4 (offset + 8)
  let modifier ← readBlobValue blob 8 (offset + 16)
  return ⟨formats, first, modifier⟩

/-- The loop over the records for one index of the format table: `none` stops
the search. -/
def recordsAllow (blob : List UInt8) (modifier formatIndex : Nat) : List Nat → Option Bool
  | [] => some false
  | offset :: rest => do
    let record ← readRecord blob offset
    if record.modifier ≠ modifier ∨ formatIndex < record.offset then
      recordsAllow blob modifier formatIndex rest
    else
      let bit := formatIndex - record.offset
      if bit < 64 ∧ record.formats.testBit bit then return true
      else recordsAllow blob modifier formatIndex rest

/-- The loop over the format table. -/
def formatsAllow (blob : List UInt8) (formatsOffset : Nat) (records : List Nat)
    (format modifier : Nat) : List Nat → Option Bool
  | [] => some false
  | index :: rest => do
    let entry ← readBlobValue blob 4 (formatsOffset + index * 4)
    if entry ≠ format then formatsAllow blob formatsOffset records format modifier rest
    else
      if ← recordsAllow blob modifier index records then return true
      else formatsAllow blob formatsOffset records format modifier rest

def inFormatsBlobSupportsModifier (blob : List UInt8) (format modifier : Nat) : Bool :=
  if !blobHasRange blob 0 1 24 then false
  else
    let header := fun index => (readBlobValue blob 4 (index * 4)).getD 0
    if header 0 ≠ 1 ∨ header 1 ≠ 0 then false
    else if !blobHasRange blob (header 3) (header 2) 4 || !blobHasRange blob (header 5) (header 4) 24
    then false
    else
      let records := (List.range (header 4)).map fun index => header 5 + index * 24
      (formatsAllow blob (header 3) records format modifier (List.range (header 2))).getD false

/-- A plane as the device reports it. Object ids of DRM start at 1. -/
structure Plane where
  id : Nat
  known : id ≠ 0 := by decide
  possibleCrtcs : Nat
  formats : List Nat
  type : Nat
  name : Nat := 0
  inFormats : Option (List UInt8) := none
deriving DecidableEq

def planeTypeOverlay : Nat := 0
def planeTypePrimary : Nat := 1
def planeTypeCursor : Nat := 2

def planeIsVop2SecondaryArea (plane : Plane) : Bool :=
  plane.name ∈ [0x2, 0x4, 0x8, 0x2000, 0x4000, 0x8000, 0x20000]

def planeSupportsFormat (plane : Plane) (format : Nat) : Bool := plane.formats.contains format

def planeCanHostAlphaOverlay (type : Nat) : Bool := type == planeTypeOverlay || type == planeTypeCursor

def planeSupportsVideoScanoutFormat (plane : Plane) : Bool :=
  [formatNv12, formatNv21, formatNv16, formatYuyv, formatYvyu, formatVyuy].any
    (planeSupportsFormat plane)

/-- A plane without the property supports every modifier. -/
def planeSupportsFormatModifier (plane : Plane) (format modifier : Nat) : Bool :=
  match plane.inFormats with
  | none => true
  | some blob => inFormatsBlobSupportsModifier blob format modifier

def usableOnCrtc (crtcIndex : Nat) (plane : Plane) : Bool := plane.possibleCrtcs.testBit crtcIndex

/-- The display a compositor was created for: the planes of its device, no two
with one id, the selected CRTC, the ids asked for (negative for none) and the
sizes. The primary plane is the first that `create_primary_buffer` accepts. -/
structure Display where
  planes : List Plane
  distinct : (planes.map (·.id)).Nodup := by decide
  crtcIndex : Nat
  isRk3588Device : Bool := false
  preferredVideoPlaneId : Int := -1
  preferredFlowPlaneId : Int := -1
  preferredUiPlaneId : Int := -1
  primaryFlowReadback : Bool := false
  surface : Nat × Nat
  flowSurface : Nat × Nat
  primary : Plane
  chosen : planes.find? (fun plane => usableOnCrtc crtcIndex plane &&
    planeSupportsFormat plane (if primaryFlowReadback then formatArgb8888 else formatXrgb8888) &&
    plane.type == planeTypePrimary) = some primary

/-- Which queries of one choice succeed: the list of planes, each plane by its
id, and the properties of each plane. -/
structure PlaneReport where
  resources : Bool := true
  planes : Nat → Bool := fun _ => true
  properties : Nat → Bool := fun _ => true

/-- `drmModeGetPlane`. A property that cannot be read counts as 0 or as absent. -/
def getPlane (display : Display) (report : PlaneReport) (id : Nat) : Option Plane :=
  if report.planes id then
    (display.planes.find? (·.id = id)).map fun plane =>
      if report.properties id then plane
      else { plane with type := 0, name := 0, inFormats := none }
  else none

/-- The planes that a loop over the list of ids gets to see. -/
def listedPlanes (display : Display) (report : PlaneReport) : List Plane :=
  display.planes.filterMap fun plane => getPlane display report plane.id

/-- Which plane shows what, 0 for none so far. -/
structure PlaneAssignment where
  videoPlaneId : Nat := 0
  videoPlaneFormat : Nat := 0
  videoPlaneModifier : Nat := 0
  flowPlaneId : Nat := 0
  uiPlaneId : Nat := 0
  videoOnPrimary : Bool := false
  uiSurface : Nat × Nat := (0, 0)
deriving DecidableEq

def isPreferred (preferred : Int) (plane : Plane) : Bool := 0 ≤ preferred && preferred.toNat == plane.id

/-- `try_plane` in `choose_video_plane`. -/
def tryVideoPlane (display : Display) (planes : PlaneAssignment) (format modifier : Nat)
    (plane : Plane) : Bool :=
  let reservedForFlow := isPreferred display.preferredFlowPlaneId plane
  let available := plane.id != display.primary.id && plane.id != planes.flowPlaneId && !reservedForFlow
  usableOnCrtc display.crtcIndex plane && available && planeSupportsFormat plane format &&
    planeSupportsFormatModifier plane format modifier

/-- `try_plane` in `choose_flow_plane`. -/
def tryFlowPlane (display : Display) (planes : PlaneAssignment) (plane : Plane) : Bool :=
  let reservedForUi := isPreferred display.preferredUiPlaneId plane
  let available := plane.id != display.primary.id && plane.id != planes.videoPlaneId &&
    plane.id != planes.uiPlaneId && !reservedForUi
  usableOnCrtc display.crtcIndex plane && available && planeSupportsFormat plane formatArgb8888 &&
    planeCanHostAlphaOverlay plane.type

/-- `try_plane` in `choose_ui_plane`. -/
def tryUiPlane (display : Display) (planes : PlaneAssignment) (plane : Plane) : Bool :=
  let available := plane.id != display.primary.id && plane.id != planes.videoPlaneId &&
    plane.id != planes.flowPlaneId
  usableOnCrtc display.crtcIndex plane && available && planeSupportsFormat plane formatArgb8888 &&
    planeSupportsFormatModifier plane formatArgb8888 modifierLinear &&
    (display.isRk3588Device || !planeSupportsVideoScanoutFormat plane) &&
    planeCanHostAlphaOverlay plane.type

/-- The search goes on behind a plane that could also show video; the last plane
found is kept. -/
def searchFlowPlane (accepted : Plane → Bool) (found : Option Plane) : List Plane → Option Plane
  | [] => found
  | plane :: rest =>
    if !planeIsVop2SecondaryArea plane && accepted plane then
      if planeSupportsVideoScanoutFormat plane then searchFlowPlane accepted (some plane) rest
      else some plane
    else searchFlowPlane accepted found rest

/-- The plane asked for if there is one, else what the search finds. -/
def preferredOr (display : Display) (report : PlaneReport) (preferred : Int)
    (accepted : Plane → Bool) (search : List Plane → Option Plane) : Option Plane :=
  if 0 ≤ preferred then (getPlane display report preferred.toNat).filter accepted
  else search (listedPlanes display report)

def supportsOnPrimary (display : Display) (report : PlaneReport) (format modifier : Nat) : Bool :=
  match getPlane display report display.primary.id with
  | none => false
  | some plane => planeSupportsFormat plane format && planeSupportsFormatModifier plane format modifier

/-- Assigns the video to a plane. -/
def withVideoPlane (planes : PlaneAssignment) (id format modifier : Nat) : PlaneAssignment :=
  { planes with videoPlaneId := id, videoPlaneFormat := format, videoPlaneModifier := modifier }

/-- The assignment with no video plane, as before a new choice. -/
def withoutVideo (planes : PlaneAssignment) : PlaneAssignment :=
  { withVideoPlane planes 0 0 0 with videoOnPrimary := false }

def withVideoOnPrimary (display : Display) (planes : PlaneAssignment) (format modifier : Nat) :
    PlaneAssignment :=
  { withVideoPlane planes display.primary.id format modifier with videoOnPrimary := true }

/-- `choose_video_plane`, called with no video plane assigned. -/
def chooseVideoPlane (display : Display) (report : PlaneReport) (format modifier : Nat)
    (planes : PlaneAssignment) : Option PlaneAssignment :=
  if !report.resources then none
  else if isPreferred display.preferredVideoPlaneId display.primary then
    if supportsOnPrimary display report format modifier then
      some (withVideoOnPrimary display planes format modifier)
    else none
  else
    let accepted := tryVideoPlane display planes format modifier
    match preferredOr display report display.preferredVideoPlaneId accepted
        (List.find? fun plane => !planeIsVop2SecondaryArea plane && accepted plane) with
    | some plane => some (withVideoPlane planes plane.id format modifier)
    | none =>
      if 0 ≤ display.preferredVideoPlaneId then none
      else if supportsOnPrimary display report format modifier then
        some (withVideoOnPrimary display planes format modifier)
      else none

/-- `choose_flow_plane`. -/
def chooseFlowPlane (display : Display) (report : PlaneReport) (planes : PlaneAssignment) :
    Option PlaneAssignment :=
  if !report.resources then none
  else
    let accepted := tryFlowPlane display planes
    (preferredOr display report display.preferredFlowPlaneId accepted
      (searchFlowPlane accepted none)).map fun plane => { planes with flowPlaneId := plane.id }

/-- `choose_ui_plane`. -/
def chooseUiPlane (display : Display) (report : PlaneReport) (planes : PlaneAssignment) :
    Option PlaneAssignment :=
  if !report.resources then none
  else
    let accepted := tryUiPlane display planes
    (preferredOr display report display.preferredUiPlaneId accepted
      (List.find? fun plane => !planeIsVop2SecondaryArea plane && accepted plane)).map
      fun plane => { planes with uiPlaneId := plane.id }

end Glide.KmsPlanes
