import Mathlib.Algebra.Group.Nat.Defs
import Glide.DrmCalls
import Glide.KmsPlanes

/-! The compositor that shows video, Flow overlay and UI on planes of their own.
A call is made of phases that may each give up: planes are chosen, the video
framebuffer is found or created, a Flow framebuffer is taken, the commit is built
and applied, and what was shown is adopted or given back. -/
namespace Glide.KmsAtomicCompositor
open Library Attempts DrmCalls KmsPlanes

/-- The members of `DmabufVideoFrame` that the compositor reads. -/
structure DmabufVideoFrame where
  width : Nat
  height : Nat
  drmFormat : Nat
  planeCount : Nat
  fds : List Int
  strides : List Nat
  offsets : List Nat
  modifiers : List Nat

structure CpuVideoFrame where
  width : Nat
  height : Nat
  stride : Nat
  hasPixels : Bool

structure ImportedFramebuffer where
  framebuffer : Nat
  handles : List Nat
deriving DecidableEq

structure CachedFramebuffer where
  key : FrameKey
  imported : ImportedFramebuffer
  lastUsed : Nat
deriving DecidableEq

/-- A buffer in memory that the program maps; without a framebuffer there is none. -/
structure DumbBuffer where
  framebuffer : Nat := 0
  mapped : Bool := false
deriving DecidableEq

structure VideoBuffers where
  cpuVideo : DumbBuffer := {}
  cpuVideoWidth : Nat := 0
  cpuVideoHeight : Nat := 0
  cache : List CachedFramebuffer := []
  currentFramebuffer : Nat := 0
  currentWidth : Nat := 0
  currentHeight : Nat := 0
  frameSerial : Nat := 0

structure FlowBuffers where
  currentBo : Option LockedBuffer := none
  currentFramebuffer : Nat := 0
  currentIsSolidDumb : Bool := false
  pendingBo : Option LockedBuffer := none
  pendingFramebuffer : Nat := 0
  pendingIsSolidDumb : Bool := false
  cache : List (FlowFramebufferKey × Nat) := []
  solid : DumbBuffer := {}

structure WritebackRecorder where
  enabled : Bool := false
  connectorId : Nat := 0
  everyNFrames : Nat := 1
  maxFrames : Nat := 0
  capturedFrames : Nat := 0
  outputOpen : Bool := false
  buffer : DumbBuffer := {}

/-- The state of the output: what was committed so far and how commits are made. -/
structure Output where
  modesetCommitted : Bool := false
  vblankWaitEnabled : Bool := false
  pageFlipPending : Bool := false
  writeback : WritebackRecorder := {}

/-- What stays as it is once the compositor is created: the display, the
framebuffer of the primary buffer, and what each buffer object of the Flow
surface is recognised by. Two buffer objects differ in their handles. -/
structure Setup where
  display : Display
  primaryFramebuffer : Nat
  primaryExists : primaryFramebuffer ≠ 0
  flowKey : Nat → FlowFramebufferKey
  flowKeysDiffer : ∀ first second, flowKey first = flowKey second → first = second

/-- A display whose Flow buffers differ in one handle. -/
def plainSetup (display : Display) : Setup where
  display
  primaryFramebuffer := 100
  primaryExists := by decide
  flowKey := fun object => ⟨64, 64, formatArgb8888, 1, modifierLinear, [object], [256], [0]⟩
  flowKeysDiffer := fun _ _ same => by simpa using same

structure World where
  planes : PlaneAssignment := {}
  video : VideoBuffers := {}
  flow : FlowBuffers := {}
  solidUi : DumbBuffer := {}
  output : Output := {}
  calls : List DeviceCall := []

/-- The state after `create`. -/
def create (setup : Setup) (uiSurface : Nat × Nat) : World where
  planes := { uiSurface }
  calls := [.addFramebuffer setup.primaryFramebuffer .primary]

def World.note (call : DeviceCall) (world : World) : World :=
  { world with calls := call :: world.calls }

/-- `drmModeAddFB2`, with the id the kernel proposes if it succeeds. -/
def addFramebuffer (content : Content) (proposed : Option Nat) : Attempt World Nat := fun world =>
  match proposed with
  | none => (none, world)
  | some id =>
    (some (newFramebuffer world.calls id),
      world.note (.addFramebuffer (newFramebuffer world.calls id) content))

/-- `drmModeRmFB`, for an id other than 0. -/
def removeFramebuffer (id : Nat) (world : World) : World :=
  if id = 0 then world else world.note (.removeFramebuffer id world.video.currentFramebuffer)

/-- `gbm_surface_release_buffer`. -/
def releaseBuffer (buffer : Option LockedBuffer) (world : World) : World :=
  match buffer with
  | none => world
  | some buffer => world.note (.releaseBuffer buffer world.planes.flowPlaneId)

/-- Each handle is closed once. -/
def handlesToClose (handles : List Nat) : List Nat := (handles.filter (· ≠ 0)).eraseDups

def destroyImported (imported : ImportedFramebuffer) (world : World) : World :=
  (handlesToClose imported.handles).foldl (fun world handle => world.note (.gemClose handle))
    (removeFramebuffer imported.framebuffer world)

/-- What creating a dumb buffer comes to: the buffer itself, its framebuffer and
its mapping may each fail. -/
structure DumbReply where
  created : Bool := true
  framebuffer : Option Nat := some 1
  mapped : Bool := true

/-- The body that the buffers in memory share. -/
def createDumbBuffer (content : Content) (reply : DumbReply) : Attempt World DumbBuffer := do
  check (reply.created = true)
  let framebuffer ← addFramebuffer content reply.framebuffer
  if reply.mapped then return { framebuffer, mapped := true }
  else
    change (removeFramebuffer framebuffer)
    giveUp

section Planes
variable (display : Display)

/-- Runs a choice of planes on the assignment. -/
def choose (choice : PlaneAssignment → Option PlaneAssignment) : Attempt World Unit := fun world =>
  match choice world.planes with
  | none => (none, world)
  | some planes => (some (), { world with planes })

def clearCurrent (world : World) : World :=
  { world with video := { world.video with currentFramebuffer := 0 } }

def emptyCache (world : World) : World :=
  { world with video := { world.video with cache := [] } }

def destroyVideoFramebufferCache (world : World) : World :=
  emptyCache (world.video.cache.foldl (fun world cached => destroyImported cached.imported world)
    (clearCurrent world))

def withoutVideoPlane (world : World) : World := { world with planes := withoutVideo world.planes }

/-- Whether a frame of this format needs a new choice of video plane. -/
def videoPlaneDiffers (planes : PlaneAssignment) (format modifier : Nat) : Bool :=
  planes.videoPlaneId == 0 || planes.videoPlaneFormat != format ||
    planes.videoPlaneModifier != modifier

def ensureVideoPlane (report : PlaneReport) (format modifier : Nat) : Attempt World Unit := do
  if videoPlaneDiffers (← read (·.planes)) format modifier then
    change withoutVideoPlane
    change destroyVideoFramebufferCache
    choose (chooseVideoPlane display report format modifier)

def ensureFlowPlane (report : PlaneReport) : Attempt World Unit := do
  if !display.primaryFlowReadback && (← read (·.planes)).flowPlaneId == 0 then
    choose (chooseFlowPlane display report)

/-- Without a plane the UI surface is given up, and the call goes on. -/
def ensureUiPlane (report : PlaneReport) : Attempt World Unit :=
  change fun world =>
    let planes := world.planes
    if planes.uiSurface.1 ≠ 0 ∧ planes.uiSurface.2 ≠ 0 ∧ planes.uiPlaneId = 0 then
      { world with
        planes := (chooseUiPlane display report planes).getD { planes with uiSurface := (0, 0) } }
    else world

end Planes

/-- What the import of a frame comes to: the device and inode behind each fd,
the handle of each plane and the framebuffer. -/
structure ImportReply where
  identities : Nat → Option (Nat × Nat)
  handles : Nat → Option Nat := fun plane => some (plane + 1)
  framebuffer : Option Nat := some 1

def makeFrameKey (frame : DmabufVideoFrame) (reply : ImportReply) : Option FrameKey := do
  guard (frame.planeCount ≠ 0 ∧ frame.planeCount ≤ 4)
  let identities ← (List.range frame.planeCount).mapM fun plane =>
    if frame.fds.getD plane (-1) < 0 then none else reply.identities plane
  let unused := List.replicate (4 - frame.planeCount) 0
  return {
    width := frame.width, height := frame.height, drmFormat := frame.drmFormat,
    planeCount := frame.planeCount,
    deviceIds := identities.map (·.1) ++ unused, inodes := identities.map (·.2) ++ unused,
    strides := frame.strides, offsets := frame.offsets, modifiers := frame.modifiers }

/-- The loop over the planes of a frame; an fd seen before keeps its handle. -/
def importHandles (reply : ImportReply) (known : List (Int × Nat)) (handles : List Nat) :
    List Int → Attempt World (List Nat)
  | [] => return handles
  | fd :: rest => do
    check (0 ≤ fd)
    match known.lookup fd with
    | some handle => importHandles reply known (handles ++ [handle]) rest
    | none =>
      match reply.handles handles.length with
      | none =>
        change (destroyImported ⟨0, handles⟩)
        giveUp
      | some handle =>
        change (World.note (.primeImport fd handle))
        importHandles reply (known ++ [(fd, handle)]) (handles ++ [handle]) rest

def importVideoFrame (frame : DmabufVideoFrame) (key : FrameKey) (reply : ImportReply) :
    Attempt World ImportedFramebuffer := do
  check (frame.planeCount ≠ 0 ∧ frame.planeCount ≤ 4)
  let handles ← importHandles reply [] []
    ((List.range frame.planeCount).map fun plane => frame.fds.getD plane (-1))
  match reply.framebuffer with
  | none =>
    change (destroyImported ⟨0, handles⟩)
    giveUp
  | some proposed =>
    let framebuffer ← addFramebuffer (.imported key) (some proposed)
    return { framebuffer, handles }

/-- The first entry that was used least recently. -/
def leastRecentlyUsed (victim : CachedFramebuffer) : List CachedFramebuffer → CachedFramebuffer
  | [] => victim
  | entry :: rest =>
    leastRecentlyUsed (if entry.lastUsed < victim.lastUsed then entry else victim) rest

def maxCachedFramebuffers : Nat := 12

def withCache (cache : List CachedFramebuffer) (world : World) : World :=
  { world with video := { world.video with cache } }

def evictVideoFramebufferIfNeeded (world : World) : World :=
  match world.video.cache with
  | [] => world
  | first :: rest =>
    if (first :: rest).length < maxCachedFramebuffers then world
    else
      let victim := leastRecentlyUsed first rest
      withCache ((first :: rest).erase victim) (destroyImported victim.imported world)

def touch (key : FrameKey) (serial : Nat) : List CachedFramebuffer → List CachedFramebuffer
  | [] => []
  | entry :: rest =>
    if entry.key = key then { entry with lastUsed := serial } :: rest
    else entry :: touch key serial rest

def countFrame (world : World) : World :=
  { world with video := { world.video with frameSerial := (world.video.frameSerial + 1) % 2 ^ 64 } }

def findOrImportVideoFramebuffer (frame : DmabufVideoFrame) (reply : ImportReply) :
    Attempt World Nat := do
  match makeFrameKey frame reply with
  | none => giveUp
  | some key =>
    change countFrame
    let video ← read (·.video)
    match video.cache.find? (·.key = key) with
    | some entry =>
      change (withCache (touch key video.frameSerial video.cache))
      return entry.imported.framebuffer
    | none =>
      change evictVideoFramebufferIfNeeded
      let imported ← importVideoFrame frame key reply
      change fun world =>
        withCache (world.video.cache ++ [⟨key, imported, video.frameSerial⟩]) world
      return imported.framebuffer

def withCpuVideo (cpuVideo : DumbBuffer) (width height : Nat) (world : World) : World :=
  { world with
    video := { world.video with cpuVideo, cpuVideoWidth := width, cpuVideoHeight := height } }

def destroyCpuVideoBuffer (world : World) : World :=
  withCpuVideo {} 0 0 (removeFramebuffer world.video.cpuVideo.framebuffer world)

/-- Whether a frame of this size needs a new CPU buffer. -/
def cpuVideoDiffers (video : VideoBuffers) (width height : Nat) : Bool :=
  video.cpuVideo.framebuffer == 0 || video.cpuVideoWidth != width || video.cpuVideoHeight != height

def ensureCpuVideoBuffer (width height : Nat) (reply : DumbReply) : Attempt World Unit := do
  if cpuVideoDiffers (← read (·.video)) width height then
    change destroyCpuVideoBuffer
    let cpuVideo ← createDumbBuffer .cpuVideo reply
    change (withCpuVideo cpuVideo width height)

/-- What `add_gbm_framebuffer` gets for its first request, the one with modifiers. -/
inductive AddReply where
  | added (proposed : Nat)
  | invalidArgument
  | failed

/-- What locking a Flow frame comes to: the swap, the buffer object at the front
of the surface, and the requests for its framebuffer. -/
structure LockReply where
  swapped : Bool := true
  front : Option Nat := some 0
  withModifiers : AddReply := .added 1
  framebuffer : Option Nat := some 1

/-- `eglSwapBuffers`, then `gbm_surface_lock_front_buffer`, which never returns a
buffer object that is locked. -/
def lockFrontBuffer (reply : LockReply) : Attempt World LockedBuffer := fun world =>
  if !reply.swapped then (none, world)
  else
    match reply.front with
    | none => (none, world)
    | some object =>
      if object ∈ (lockedBuffers world.calls).map (·.object) then (none, world)
      else
        let buffer := ⟨object, lockCount world.calls⟩
        (some buffer, world.note (.lockFrontBuffer buffer))

def addGbmFramebuffer (key : FlowFramebufferKey) (reply : LockReply) : Attempt World Nat :=
  if key.modifier ≠ modifierInvalid ∧ key.modifier ≠ modifierLinear then
    match reply.withModifiers with
    | .added proposed => addFramebuffer (.flow key) (some proposed)
    | .invalidArgument => addFramebuffer (.flow key) reply.framebuffer
    | .failed => giveUp
  else addFramebuffer (.flow key) reply.framebuffer

def keepFlowFramebuffer (key : FlowFramebufferKey) (framebuffer : Nat) (world : World) : World :=
  { world with flow := { world.flow with cache := world.flow.cache ++ [(key, framebuffer)] } }

def findOrAddFlowFramebuffer (key : FlowFramebufferKey) (reply : LockReply) :
    Attempt World Nat := do
  match (← read (·.flow)).cache.lookup key with
  | some framebuffer => return framebuffer
  | none =>
    let framebuffer ← addGbmFramebuffer key reply
    change (keepFlowFramebuffer key framebuffer)
    return framebuffer

/-- The rest of `lock_flow_framebuffer`: a buffer object without a framebuffer is
released at once. -/
def frameLockedBuffer (setup : Setup) (buffer : LockedBuffer) (reply : LockReply) :
    Attempt World Nat := fun world =>
  match findOrAddFlowFramebuffer (setup.flowKey buffer.object) reply world with
  | (some framebuffer, world) => (some framebuffer, world)
  | (none, world) => (none, releaseBuffer (some buffer) world)

/-- A Flow framebuffer on its way to the display. -/
structure AcquiredFlow where
  framebuffer : Nat := 0
  bo : Option LockedBuffer := none
  solidDumb : Bool := false
deriving DecidableEq

def lockFlowFramebuffer (setup : Setup) (reply : LockReply) : Attempt World AcquiredFlow := do
  let buffer ← lockFrontBuffer reply
  let framebuffer ← frameLockedBuffer setup buffer reply
  return ⟨framebuffer, some buffer, false⟩

/-- Under the mutex: the pending frame, or again the current one. -/
def takePendingFlow : Attempt World AcquiredFlow := fun world =>
  let flow := world.flow
  if flow.pendingFramebuffer ≠ 0 then
    (some ⟨flow.pendingFramebuffer, flow.pendingBo, flow.pendingIsSolidDumb⟩,
      { world with flow := { flow with
        pendingFramebuffer := 0, pendingBo := none, pendingIsSolidDumb := false } })
  else (some ⟨flow.currentFramebuffer, none, flow.currentIsSolidDumb⟩, world)

/-- `acquire_flow_framebuffer`, where the presenter calls it. -/
def acquireFlowFramebuffer (setup : Setup) (updateFlowFrame : Bool) (reply : LockReply) :
    Attempt World AcquiredFlow :=
  if setup.display.primaryFlowReadback then return {}
  else if updateFlowFrame then lockFlowFramebuffer setup reply
  else takePendingFlow

def adoptFlow (acquired : AcquiredFlow) (world : World) : World :=
  { world with flow := { world.flow with
    currentFramebuffer := acquired.framebuffer, currentBo := acquired.bo,
    currentIsSolidDumb := acquired.solidDumb } }

def adoptFlowFramebuffer (acquired : AcquiredFlow) (world : World) : World :=
  let flow := world.flow
  if acquired.framebuffer = flow.currentFramebuffer ∧ acquired.bo = none then world
  else if acquired.framebuffer ≠ flow.currentFramebuffer then
    adoptFlow acquired (releaseBuffer flow.currentBo world)
  else adoptFlow acquired world

/-- The video that a commit is to show. -/
structure VideoPart where
  framebuffer : Nat
  width : Nat
  height : Nat
deriving DecidableEq

def VideoPart.present (video : VideoPart) : Bool :=
  video.framebuffer != 0 && video.width != 0 && video.height != 0

def scaledVideoDestination (surface : Nat × Nat) (width height : Nat) : PlaneRect :=
  if width = 0 ∨ height = 0 ∨ surface.1 = 0 ∨ surface.2 = 0 then ⟨0, 0, surface.1, surface.2⟩
  else
    let scaledWidthFromHeight := surface.2 * width / height
    if scaledWidthFromHeight ≤ surface.1 then
      let width := max 1 scaledWidthFromHeight
      ⟨(surface.1 - width) / 2, 0, width, surface.2⟩
    else
      let scaledHeight := max 1 (surface.1 * height / width)
      ⟨0, (surface.2 - scaledHeight) / 2, surface.1, scaledHeight⟩

/-- A size in the 16.16 format of plane sources, in 32 bits. -/
def sourceSize (size : Nat) : Nat := size * 2 ^ 16 % 2 ^ 32

def fullSurface (surface : Nat × Nat) : PlaneRect := ⟨0, 0, surface.1, surface.2⟩

def scanoutFor (framebuffer : Nat) (source : Nat × Nat) (destination : PlaneRect) : Scanout :=
  ⟨framebuffer, sourceSize source.1, sourceSize source.2, destination⟩

/-- The primary plane with the video on it or with the primary buffer. -/
def primaryScanout (setup : Setup) (planes : PlaneAssignment) (video : VideoPart) : Scanout :=
  let surface := setup.display.surface
  if video.present && planes.videoOnPrimary then
    scanoutFor video.framebuffer (video.width, video.height) (fullSurface surface)
  else scanoutFor setup.primaryFramebuffer surface (fullSurface surface)

def videoScanout (setup : Setup) (video : VideoPart) : Scanout :=
  scanoutFor video.framebuffer (video.width, video.height)
    (scaledVideoDestination setup.display.surface video.width video.height)

def flowScanout (setup : Setup) (framebuffer : Nat) : Scanout :=
  scanoutFor framebuffer setup.display.flowSurface (fullSurface setup.display.surface)

def uiScanout (planes : PlaneAssignment) (framebuffer : Nat) : Scanout :=
  scanoutFor framebuffer planes.uiSurface (fullSurface planes.uiSurface)

def primaryUpdate (setup : Setup) (world : World) (video : VideoPart) : List (Nat × Option Scanout) :=
  if !world.output.modesetCommitted || (video.present && world.planes.videoOnPrimary) then
    [(setup.display.primary.id, some (primaryScanout setup world.planes video))] else []

/-- Without video its plane is turned off. -/
def videoUpdate (setup : Setup) (world : World) (video : VideoPart) : List (Nat × Option Scanout) :=
  let planes := world.planes
  if video.present && !planes.videoOnPrimary then
    [(planes.videoPlaneId, some (videoScanout setup video))]
  else if !video.present && planes.videoPlaneId != 0 && !planes.videoOnPrimary then
    [(planes.videoPlaneId, none)]
  else []

def flowUpdate (setup : Setup) (world : World) (flowFramebuffer : Nat) :
    List (Nat × Option Scanout) :=
  if flowFramebuffer != 0 && world.planes.flowPlaneId != 0 &&
      (!world.output.modesetCommitted || flowFramebuffer != world.flow.currentFramebuffer) then
    [(world.planes.flowPlaneId, some (flowScanout setup flowFramebuffer))] else []

def uiUpdate (world : World) : List (Nat × Option Scanout) :=
  let uiFramebuffer := world.solidUi.framebuffer
  if uiFramebuffer != 0 && world.planes.uiPlaneId != 0 && !world.output.modesetCommitted then
    [(world.planes.uiPlaneId, some (uiScanout world.planes uiFramebuffer))] else []

/-- The request that `commit` builds. -/
def atomicRequest (setup : Setup) (world : World) (video : VideoPart) (flowFramebuffer : Nat) :
    Request where
  updates := primaryUpdate setup world video ++ videoUpdate setup world video ++
    flowUpdate setup world flowFramebuffer ++ uiUpdate world
  video := if video.present then video.framebuffer else 0

/-- What a commit comes to: the wait for the last page flip, the memory for the
request, its properties, the commit itself, whether its page flip was already
reported, the writeback fence and the file. -/
structure CommitReply where
  flipped : Bool := true
  allocated : Bool := true
  built : Bool := true
  committed : Bool := true
  flipReceived : Bool := false
  fenced : Bool := true
  written : Bool := true

def withOutput (output : Output) (world : World) : World := { world with output }

def captureWriteback (world : World) : Bool :=
  let writeback := world.output.writeback
  writeback.enabled && writeback.outputOpen && writeback.connectorId != 0 &&
    writeback.buffer.framebuffer != 0 &&
    (writeback.maxFrames == 0 || writeback.capturedFrames < writeback.maxFrames) &&
    world.video.frameSerial % writeback.everyNFrames == 0

def waitForPendingPageFlip (reply : CommitReply) : Attempt World Unit := fun world =>
  if !world.output.pageFlipPending then (some (), world)
  else if reply.flipped then
    (some (), withOutput { world.output with pageFlipPending := false } world)
  else (none, world)

/-- `drmModeAtomicCommit`. A request with a framebuffer that does not exist is refused. -/
def commitAccepted (request : Request) (reply : CommitReply) (world : World) : Bool :=
  reply.built && reply.committed && request.updates.all fun update =>
    match update.2 with
    | none => true
    | some scanout => (contentOf world.calls scanout.framebuffer).isSome

def applyRequest (request : Request) (nonblocking : Bool) (reply : CommitReply) :
    Attempt World Unit := fun world =>
  if commitAccepted request reply world then
    let pending := if nonblocking then !reply.flipReceived else world.output.pageFlipPending
    (some (), withOutput { world.output with modesetCommitted := true, pageFlipPending := pending }
      (world.note (.atomicRequest request true)))
  else (none, world.note (.atomicRequest request false))

def withWriteback (writeback : WritebackRecorder) (world : World) : World :=
  withOutput { world.output with writeback } world

def countCapture (world : World) : World :=
  let writeback := world.output.writeback
  let capturedFrames := writeback.capturedFrames + 1
  withWriteback { writeback with
    capturedFrames
    outputOpen := writeback.outputOpen && capturedFrames != writeback.maxFrames } world

/-- The writeback frame is awaited and written after the commit is applied. -/
def finishWriteback (capture : Bool) (reply : CommitReply) : Attempt World Unit :=
  if capture then do
    check (reply.fenced = true)
    check (reply.written = true)
    change countCapture
  else pure ()

def commit (setup : Setup) (video : VideoPart) (flowFramebuffer : Nat) (nonblockingAllowed : Bool)
    (reply : CommitReply) : Attempt World Unit := do
  waitForPendingPageFlip reply
  check (reply.allocated = true)
  let world ← read id
  let capture := captureWriteback world
  let nonblocking := world.output.modesetCommitted && world.output.vblankWaitEnabled &&
    nonblockingAllowed && !capture
  applyRequest (atomicRequest setup world video flowFramebuffer) nonblocking reply
  finishWriteback capture reply

/-- The frame of a call to the presenter. -/
inductive Picture where
  | dmabuf (frame : DmabufVideoFrame)
  | cpu (frame : CpuVideoFrame)
  | overlay

structure PresentReply where
  videoPlanes : PlaneReport := {}
  flowPlanes : PlaneReport := {}
  uiPlanes : PlaneReport := {}
  imported : ImportReply := { identities := fun fd => some (0, fd) }
  cpuVideo : DumbReply := {}
  locked : LockReply := {}
  commit : CommitReply := {}

def validCpuFrame (frame : CpuVideoFrame) : Bool :=
  frame.width != 0 && frame.height != 0 && frame.hasPixels && frame.width * 4 % 2 ^ 32 ≤ frame.stride

/-- The first phase of a call: planes and video framebuffer. -/
def prepare (setup : Setup) (picture : Picture) (reply : PresentReply) : Attempt World VideoPart := do
  match picture with
  | .dmabuf frame =>
    ensureVideoPlane setup.display reply.videoPlanes frame.drmFormat (frame.modifiers.getD 0 0)
    ensureFlowPlane setup.display reply.flowPlanes
    ensureUiPlane setup.display reply.uiPlanes
    let framebuffer ← findOrImportVideoFramebuffer frame reply.imported
    return ⟨framebuffer, frame.width, frame.height⟩
  | .cpu frame =>
    check (validCpuFrame frame = true)
    ensureVideoPlane setup.display reply.videoPlanes formatXrgb8888 modifierLinear
    ensureCpuVideoBuffer frame.width frame.height reply.cpuVideo
    ensureFlowPlane setup.display reply.flowPlanes
    ensureUiPlane setup.display reply.uiPlanes
    let video ← read (·.video)
    return ⟨video.cpuVideo.framebuffer, frame.width, frame.height⟩
  | .overlay =>
    ensureFlowPlane setup.display reply.flowPlanes
    ensureUiPlane setup.display reply.uiPlanes
    let video ← read (·.video)
    return ⟨video.currentFramebuffer, video.currentWidth, video.currentHeight⟩

def rememberVideo (video : VideoPart) (world : World) : World :=
  { world with video := { world.video with
    currentFramebuffer := video.framebuffer, currentWidth := video.width,
    currentHeight := video.height } }

def nonblockingAllowed (picture : Picture) (updateFlowFrame : Bool) (acquired : AcquiredFlow) : Bool :=
  match picture with
  | .cpu _ => !updateFlowFrame && acquired.bo.isNone
  | _ => false

/-- What follows the commit of a call: the old Flow frame or the new one is
given back. -/
def conclude (picture : Picture) (video : VideoPart) (acquired : AcquiredFlow) (committed : Bool)
    (world : World) : World :=
  if committed then
    match picture with
    | .overlay => adoptFlowFramebuffer acquired world
    | _ => adoptFlowFramebuffer acquired (rememberVideo video world)
  else releaseBuffer acquired.bo world

/-- The last phase of a call: the commit and what follows it. -/
def showPicture (setup : Setup) (picture : Picture) (video : VideoPart) (acquired : AcquiredFlow)
    (updateFlowFrame : Bool) (reply : CommitReply) : Attempt World Unit := fun world =>
  let nonblocking := nonblockingAllowed picture updateFlowFrame acquired
  match commit setup video acquired.framebuffer nonblocking reply world with
  | (some (), world) => (some (), conclude picture video acquired true world)
  | (none, world) => (none, conclude picture video acquired false world)

/-- The two `present` functions and `present_overlay`. -/
def present (setup : Setup) (picture : Picture) (updateFlowFrame : Bool) (reply : PresentReply) :
    Attempt World Unit := do
  let video ← prepare setup picture reply
  let acquired ← acquireFlowFramebuffer setup updateFlowFrame reply.locked
  showPicture setup picture video acquired updateFlowFrame reply.commit

def withPending (acquired : AcquiredFlow) (world : World) : World :=
  { world with flow := { world.flow with
    pendingFramebuffer := acquired.framebuffer, pendingBo := acquired.bo,
    pendingIsSolidDumb := acquired.solidDumb } }

/-- Under the mutex: the pending frame makes way for the new one. -/
def publishFlow (acquired : AcquiredFlow) (world : World) : World :=
  withPending acquired (releaseBuffer world.flow.pendingBo world)

def publishRenderedFlowFrame (setup : Setup) (reply : LockReply) : Attempt World Unit := do
  let acquired ← lockFlowFramebuffer setup reply
  change (publishFlow acquired)

def withSolidFlow (solid : DumbBuffer) (world : World) : World :=
  { world with flow := { world.flow with solid } }

/-- The buffer is created when it is first needed. -/
def ensureSolidFlow (reply : DumbReply) : Attempt World Unit := do
  if (← read (·.flow)).solid.framebuffer == 0 then
    let solid ← createDumbBuffer .solidFlow reply
    change (withSolidFlow solid)

def publishSolidFlowFrame (reply : DumbReply) : Attempt World Unit := do
  ensureSolidFlow reply
  let flow ← read (·.flow)
  check (flow.solid.mapped = true)
  change (publishFlow ⟨flow.solid.framebuffer, none, true⟩)

def withSolidUi (solidUi : DumbBuffer) (world : World) : World := { world with solidUi }

def ensureSolidUi (reply : DumbReply) : Attempt World Unit := do
  if (← read (·.solidUi)).framebuffer == 0 then
    let solidUi ← createDumbBuffer .solidUi reply
    change (withSolidUi solidUi)

def hasUiSurface (planes : PlaneAssignment) : Bool :=
  planes.uiSurface.1 != 0 && planes.uiSurface.2 != 0

def publishSolidUiFrame (reply : DumbReply) : Attempt World Unit := do
  check (hasUiSurface (← read (·.planes)) = true)
  ensureSolidUi reply
  check ((← read (·.solidUi)).mapped = true)

/-- Without a UI surface there is nothing to publish to, and the call succeeds. -/
def publishUiFrameFromArgb (hasPixels : Bool) (width height strideBytes : Nat) (reply : DumbReply) :
    Attempt World Unit := do
  check (hasPixels = true)
  let planes ← read (·.planes)
  if hasUiSurface planes then
    check (width = planes.uiSurface.1 ∧ height = planes.uiSurface.2)
    check (width * 4 % 2 ^ 32 ≤ strideBytes)
    ensureSolidUi reply
    check ((← read (·.solidUi)).mapped = true)

structure RecordingReply where
  connector : Option Nat := some 1
  buffer : DumbReply := {}
  opened : Bool := true

def chooseWritebackConnector (reply : RecordingReply) : Attempt World Unit := do
  let writeback := (← read (·.output)).writeback
  if writeback.connectorId == 0 then
    match reply.connector with
    | none => giveUp
    | some connectorId => change (withWriteback { writeback with connectorId })

def createWritebackBuffer (reply : RecordingReply) : Attempt World Unit := do
  let writeback := (← read (·.output)).writeback
  if writeback.buffer.framebuffer == 0 then
    let buffer ← createDumbBuffer .writeback reply.buffer
    change (withWriteback { writeback with buffer })

def destroyWritebackBuffer (world : World) : World :=
  let writeback := world.output.writeback
  withWriteback { writeback with buffer := {} } (removeFramebuffer writeback.buffer.framebuffer world)

/-- `enable_writeback_recording`; a buffer without a file is destroyed again. -/
def enableWritebackRecording (setup : Setup) (hasPath : Bool) (everyNFrames maxFrames : Nat)
    (reply : RecordingReply) : Attempt World Unit := do
  check (hasPath = true)
  check (setup.display.surface.1 ≠ 0 ∧ setup.display.surface.2 ≠ 0)
  chooseWritebackConnector reply
  createWritebackBuffer reply
  if reply.opened then
    change fun world => withWriteback { world.output.writeback with
      outputOpen := true, everyNFrames := if everyNFrames = 0 then 1 else everyNFrames
      maxFrames, capturedFrames := 0, enabled := true } world
  else
    change destroyWritebackBuffer
    giveUp

def setVblankWaitEnabled (enabled : Bool) (world : World) : World :=
  withOutput { world.output with vblankWaitEnabled := enabled } world

/-- The calls the program makes on the compositor. -/
inductive Event where
  | present (picture : Picture) (updateFlowFrame : Bool) (reply : PresentReply)
  | publishRenderedFlowFrame (reply : LockReply)
  | publishSolidFlowFrame (reply : DumbReply)
  | publishSolidUiFrame (reply : DumbReply)
  | publishUiFrameFromArgb (hasPixels : Bool) (width height strideBytes : Nat) (reply : DumbReply)
  | enableWritebackRecording (hasPath : Bool) (everyNFrames maxFrames : Nat) (reply : RecordingReply)
  | setVblankWaitEnabled (enabled : Bool)

/-- The call that the event makes. -/
def perform (setup : Setup) : Event → Attempt World Unit
  | .present picture updateFlowFrame reply => present setup picture updateFlowFrame reply
  | .publishRenderedFlowFrame reply => publishRenderedFlowFrame setup reply
  | .publishSolidFlowFrame reply => publishSolidFlowFrame reply
  | .publishSolidUiFrame reply => publishSolidUiFrame reply
  | .publishUiFrameFromArgb hasPixels width height strideBytes reply =>
    publishUiFrameFromArgb hasPixels width height strideBytes reply
  | .enableWritebackRecording hasPath everyNFrames maxFrames reply =>
    enableWritebackRecording setup hasPath everyNFrames maxFrames reply
  | .setVblankWaitEnabled enabled => change (setVblankWaitEnabled enabled)

def step (setup : Setup) (world : World) (event : Event) : World := (perform setup event world).2

end Glide.KmsAtomicCompositor
