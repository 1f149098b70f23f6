import Glide.KmsAtomicCompositor

/-! The player that shows decoded frames on one plane of the display, without a compositor. Frames
come as DMA-BUFs, whose framebuffers are cached, or as pictures in memory, which are copied into one
buffer of their size. A plane is chosen anew whenever the format of the frames changes. -/
namespace Glide.KmsDmabufVideoPlane
open Library Attempts DrmCalls KmsPlanes KmsAtomicCompositor

/-- What stays as it is once the player is created: the planes of the device, the selected CRTC, the
plane asked for (negative for none), the size of the mode and the framebuffer of the black picture
behind the video. -/
structure Device where
  planes : List Plane
  crtcIndex : Nat
  preferredPlaneId : Int := -1
  size : Nat × Nat
  primaryFramebuffer : Nat
  primaryExists : primaryFramebuffer ≠ 0 := by decide

/-- The planes that the loop over their ids gets to see. -/
def listedPlanes (device : Device) (report : PlaneReport) : List Plane :=
  (device.planes.filter fun plane => report.planes plane.id).map fun plane =>
    if report.properties plane.id then plane else { plane with type := 0, inFormats := none }

def planeSupportsFormatModifier (plane : Plane) (format modifier : Nat) : Bool :=
  modifier == modifierInvalid || modifier == modifierLinear ||
    KmsPlanes.planeSupportsFormatModifier plane format modifier

/-- What `choose_video_plane` asks of a plane. -/
def suitable (device : Device) (format modifier : Nat) (plane : Plane) : Bool :=
  (device.preferredPlaneId < 0 || plane.id == device.preferredPlaneId.toNat) &&
    usableOnCrtc device.crtcIndex plane && planeSupportsFormat plane format &&
    planeSupportsFormatModifier plane format modifier

/-- Whether an overlay takes the place of the plane found before. -/
def replaces (preferred : Int) (plane found : Plane) : Bool :=
  preferred < 0 && found.type % 2 ^ 32 == planeTypePrimary && plane.type == planeTypeOverlay

/-- The loop over the planes, with what was found so far. -/
def searchVideoPlane (preferred : Int) (accepted : Plane → Bool) (found : Option Plane) :
    List Plane → Option Plane
  | [] => found
  | plane :: rest =>
    if accepted plane then
      let selected := if found.all (replaces preferred plane) then some plane else found
      if 0 ≤ preferred ∨ plane.type = planeTypeOverlay then selected
      else searchVideoPlane preferred accepted selected rest
    else searchVideoPlane preferred accepted found rest

def chooseVideoPlane (device : Device) (report : PlaneReport) (format modifier : Nat)
    (planes : PlaneAssignment) : Option PlaneAssignment :=
  if report.resources then
    (searchVideoPlane device.preferredPlaneId (suitable device format modifier) none
      (listedPlanes device report)).map fun plane => withVideoPlane planes plane.id format modifier
  else none

/-- `drmModeSetPlane`, which the kernel may refuse. -/
def setPlane (scanout : Option Scanout) (applied : Bool) (world : World) : World :=
  world.note (.atomicRequest
    ⟨[(world.planes.videoPlaneId, scanout)], (scanout.map (·.framebuffer)).getD 0⟩ applied)

def disableVideoPlane (applied : Bool) (world : World) : World :=
  if world.planes.videoPlaneId = 0 then world else setPlane none applied world

def destroyFramebufferCache (world : World) : World :=
  emptyCache
    (world.video.cache.foldl (fun world cached => destroyImported cached.imported world) world)

/-- What the device answers during one call of `present`. -/
structure PresentReply where
  disabled : Bool := true
  report : PlaneReport := {}
  importing : ImportReply := { identities := fun plane => some (0, plane) }
  buffer : DumbReply := {}
  applied : Bool := true

/-- The body that both kinds of `present` begin with. -/
def ensureVideoPlane (device : Device) (reply : PresentReply) (format modifier : Nat) :
    Attempt World Unit := do
  if videoPlaneDiffers (← read (·.planes)) format modifier then
    change (disableVideoPlane reply.disabled)
    change destroyFramebufferCache
    change clearCurrent
    choose (chooseVideoPlane device reply.report format modifier)

/-- The first of the entries that are not shown which was used least recently. -/
def leastRecentlyUsedHidden (current : Nat) (victim : Option CachedFramebuffer) :
    List CachedFramebuffer → Option CachedFramebuffer
  | [] => victim
  | entry :: rest =>
    leastRecentlyUsedHidden current
      (if entry.imported.framebuffer ≠ current && victim.all (entry.lastUsed < ·.lastUsed)
        then some entry else victim) rest

def victimOf (world : World) : Option CachedFramebuffer :=
  (leastRecentlyUsedHidden world.video.currentFramebuffer none world.video.cache).or
    world.video.cache.head?

def evictCachedFramebufferIfNeeded (world : World) : World :=
  if world.video.cache.length < maxCachedFramebuffers then world
  else
    match victimOf world with
    | none => world
    | some victim =>
      withCache (world.video.cache.erase victim) (destroyImported victim.imported world)

def findOrImportCachedFramebuffer (frame : DmabufVideoFrame) (reply : ImportReply) :
    Attempt World Nat := do
  match makeFrameKey frame reply with
  | none => giveUp
  | some key =>
    change countFrame
    let video ← read (·.video)
    match video.cache.find? (·.key = key) with
    | some entry =>
      change (withCache (touch key video.frameSerial video.cache))
      return entry.imported.framebuffer
    | none =>
      change evictCachedFramebufferIfNeeded
      let imported ← importVideoFrame frame key reply
      change fun world =>
        withCache (world.video.cache ++ [⟨key, imported, video.frameSerial⟩]) world
      return imported.framebuffer

def withCurrent (framebuffer : Nat) (world : World) : World :=
  { world with video := { world.video with currentFramebuffer := framebuffer } }

/-- The body that both kinds of `present` end with. -/
def showFramebuffer (device : Device) (framebuffer width height : Nat) (applied : Bool) :
    Attempt World Unit := do
  change (setPlane (some (scanoutFor framebuffer (width, height)
    (scaledVideoDestination device.size width height))) applied)
  check (applied = true)
  change (withCurrent framebuffer)

/-- `present` for a decoded frame. -/
def presentDmabuf (device : Device) (frame : DmabufVideoFrame) (reply : PresentReply) :
    Attempt World Unit := do
  ensureVideoPlane device reply frame.drmFormat (frame.modifiers.getD 0 0)
  let framebuffer ← findOrImportCachedFramebuffer frame reply.importing
  showFramebuffer device framebuffer frame.width frame.height reply.applied

/-- `present` for a picture in memory. -/
def presentCpu (device : Device) (frame : CpuVideoFrame) (reply : PresentReply) :
    Attempt World Unit := do
  check (validCpuFrame frame = true)
  ensureVideoPlane device reply formatXrgb8888 modifierLinear
  ensureCpuVideoBuffer frame.width frame.height reply.buffer
  let cpuVideo ← read (·.video.cpuVideo)
  showFramebuffer device cpuVideo.framebuffer frame.width frame.height reply.applied

inductive Event where
  | dmabuf (frame : DmabufVideoFrame) (reply : PresentReply)
  | cpu (frame : CpuVideoFrame) (reply : PresentReply)

def perform (device : Device) : Event → Attempt World Unit
  | .dmabuf frame reply => presentDmabuf device frame reply
  | .cpu frame reply => presentCpu device frame reply

/-- The state after `create`. -/
def start (device : Device) : World where
  calls := [.addFramebuffer device.primaryFramebuffer .primary]

def step (device : Device) (world : World) (event : Event) : World :=
  (perform device event world).2

/-- `cleanup`; the mode that was set before comes back. -/
def cleanup (device : Device) (disabled : Bool) (world : World) : World :=
  let world := destroyFramebufferCache (clearCurrent (disableVideoPlane disabled world))
  removeFramebuffer device.primaryFramebuffer (destroyCpuVideoBuffer world)

/-! ### The choice of a plane -/

section Choice
variable {preferred : Int} {accepted : Plane → Bool} {planes : List Plane} {found plane : Plane}

/-- Once a plane was found, only an overlay behind a primary plane takes its place. -/
theorem searchVideoPlane_found (free : preferred < 0) (found : Plane) (planes : List Plane) :
    searchVideoPlane preferred accepted (some found) planes =
      some (if found.type % 2 ^ 32 = planeTypePrimary then
        ((planes.filter accepted).find? (·.type = planeTypeOverlay)).getD found else found) := by
  induction planes with
  | nil =>
    unfold searchVideoPlane
    split <;> rfl
  | cons plane rest ih =>
    unfold searchVideoPlane
    by_cases suits : accepted plane = true
    · rw [if_pos suits, List.filter_cons_of_pos suits]
      by_cases overlay : plane.type = planeTypeOverlay
      · rw [if_pos (.inr overlay), List.find?_cons_of_pos (by simpa using overlay),
          Option.getD_some]
        have replaced : Option.all (replaces preferred plane) (some found) =
            decide (found.type % 2 ^ 32 = planeTypePrimary) := by
          simp only [Option.all_some, replaces, free, overlay, decide_true, Bool.true_and,
            beq_self_eq_true, Bool.and_true]
          rfl
        rw [replaced]
        by_cases primary : found.type % 2 ^ 32 = planeTypePrimary
        · rw [if_pos primary, if_pos (decide_eq_true primary)]
        · rw [if_neg primary, if_neg (by simpa using primary)]
      · have kept : Option.all (replaces preferred plane) (some found) = false := by
          simp [replaces, overlay]
        have goes_on : ¬(0 ≤ preferred ∨ plane.type = planeTypeOverlay) :=
          not_or.mpr ⟨Int.not_le.mpr free, overlay⟩
        rw [kept, if_neg Bool.false_ne_true, if_neg goes_on, ih,
          List.find?_cons_of_neg (by simpa using overlay)]
    · rw [if_neg suits, List.filter_cons_of_neg suits, ih]

/-- The first suitable plane is chosen, but the first suitable overlay before a primary plane. -/
theorem searchVideoPlane_eq (preferred : Int) (accepted : Plane → Bool) (planes : List Plane) :
    searchVideoPlane preferred accepted none planes =
      (planes.filter accepted).head?.map fun first =>
        if preferred < 0 ∧ first.type % 2 ^ 32 = planeTypePrimary then
          ((planes.filter accepted).find? (·.type = planeTypeOverlay)).getD first
        else first := by
  induction planes with
  | nil => rfl
  | cons plane rest ih =>
    unfold searchVideoPlane
    by_cases suits : accepted plane = true
    · rw [if_pos suits, List.filter_cons_of_pos suits, List.head?_cons, Option.map_some]
      have taken : Option.all (replaces preferred plane) none = true := rfl
      rw [taken, if_pos rfl]
      by_cases stops : 0 ≤ preferred ∨ plane.type = planeTypeOverlay
      · rw [if_pos stops]
        rcases stops with asked | overlay
        · rw [if_neg (by omega)]
        · rw [if_neg fun both => absurd both.2 (by rw [overlay]; decide)]
      · obtain ⟨free, other⟩ := not_or.mp stops
        have free : preferred < 0 := Int.not_le.mp free
        rw [if_neg stops, searchVideoPlane_found free,
          List.find?_cons_of_neg (by simpa using other)]
        by_cases primary : plane.type % 2 ^ 32 = planeTypePrimary
        · rw [if_pos primary, if_pos ⟨free, primary⟩]
        · rw [if_neg primary, if_neg fun both => primary both.2]
    · rw [if_neg suits, List.filter_cons_of_neg suits, ih]

/-- A plane is chosen whenever one suits, and a primary plane only if no overlay does. -/
theorem best_plane_is_chosen (device : Device) (report : PlaneReport) (format modifier : Nat)
    (planes : PlaneAssignment) :
    match chooseVideoPlane device report format modifier planes with
    | some assigned => ∃ plane ∈ listedPlanes device report,
        suitable device format modifier plane = true ∧
        assigned = withVideoPlane planes plane.id format modifier ∧
        (device.preferredPlaneId < 0 → plane.type % 2 ^ 32 = planeTypePrimary →
          ∀ other ∈ listedPlanes device report, suitable device format modifier other = true →
            other.type ≠ planeTypeOverlay)
    | none => report.resources = true →
        ∀ plane ∈ listedPlanes device report, suitable device format modifier plane = false := by
  unfold chooseVideoPlane
  cases report.resources with
  | false => exact nofun
  | true =>
    rw [if_pos rfl, searchVideoPlane_eq]
    cases suits : (listedPlanes device report).filter (suitable device format modifier) with
    | nil =>
      intro _ plane listed
      exact Bool.eq_false_iff.mpr (List.filter_eq_nil_iff.mp suits plane listed)
    | cons first rest =>
      have mem_first : first ∈ first :: rest := List.mem_cons_self
      have suitable_of {plane : Plane} (member : plane ∈ first :: rest) :
          plane ∈ listedPlanes device report ∧ suitable device format modifier plane = true :=
        List.mem_filter.mp (suits ▸ member)
      have among {plane : Plane} (listed : plane ∈ listedPlanes device report)
          (suited : suitable device format modifier plane = true) : plane ∈ first :: rest :=
        suits ▸ List.mem_filter.mpr ⟨listed, suited⟩
      rw [List.head?_cons, Option.map_some, Option.map_some]
      dsimp only
      split
      · rename_i both
        cases overlay : (first :: rest).find? (·.type = planeTypeOverlay) with
        | some plane =>
          have type : plane.type = planeTypeOverlay := by simpa using List.find?_some overlay
          obtain ⟨listed, suited⟩ := suitable_of (List.mem_of_find?_eq_some overlay)
          refine ⟨plane, listed, suited, rfl, fun _ primary => ?_⟩
          rw [type] at primary
          exact absurd primary (by decide)
        | none =>
          obtain ⟨listed, suited⟩ := suitable_of mem_first
          refine ⟨first, listed, suited, rfl, fun _ _ other listed suited => ?_⟩
          simpa using List.find?_eq_none.mp overlay other (among listed suited)
      · rename_i neither
        obtain ⟨listed, suited⟩ := suitable_of mem_first
        exact ⟨first, listed, suited, rfl, fun free primary => absurd ⟨free, primary⟩ neither⟩

end Choice

end Glide.KmsDmabufVideoPlane
