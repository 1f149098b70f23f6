import Glide.KmsAtomicCompositor

/-! What the phases of a compositor call leave alone: the parts of the state they
do not touch, and the device calls they never make. -/
namespace Glide.CompositorPhases
open Library Attempts DrmCalls KmsPlanes KmsAtomicCompositor

/-- Everything but the calls made. -/
abbrev ownState (world : World) : World := { world with calls := [] }

theorem removeFramebuffer_state (id : Nat) (world : World) :
    ownState (removeFramebuffer id world) = ownState world := by
  unfold removeFramebuffer
  split <;> rfl

theorem releaseBuffer_state (buffer : Option LockedBuffer) (world : World) :
    ownState (releaseBuffer buffer world) = ownState world := by
  cases buffer <;> rfl

private theorem closeHandles_state (handles : List Nat) (world : World) :
    ownState (handles.foldl (fun world handle => world.note (.gemClose handle)) world) =
      ownState world := by
  induction handles generalizing world with
  | nil => rfl
  | cons handle rest ih => exact ih _

theorem destroyImported_state (imported : ImportedFramebuffer) (world : World) :
    ownState (destroyImported imported world) = ownState world :=
  (closeHandles_state _ _).trans (removeFramebuffer_state _ _)

theorem addFramebuffer_state (content : Content) (proposed : Option Nat) :
    Leaves (addFramebuffer content proposed) ownState := by
  intro world
  cases proposed <;> rfl

theorem createDumbBuffer_state (content : Content) (reply : DumbReply) :
    Leaves (createDumbBuffer content reply) ownState := by
  refine leaves_check.bind fun _ => (addFramebuffer_state _ _).bind fun framebuffer => ?_
  split
  · exact leaves_pure
  · exact (leaves_change (removeFramebuffer_state framebuffer)).bind fun _ => leaves_giveUp

theorem importHandles_state (reply : ImportReply) (known : List (Int × Nat)) (handles : List Nat)
    (fds : List Int) : Leaves (importHandles reply known handles fds) ownState := by
  induction fds generalizing known handles with
  | nil => exact leaves_pure
  | cons fd rest ih =>
    unfold importHandles
    refine leaves_check.bind fun _ => ?_
    cases seen : known.lookup fd with
    | some handle => exact ih _ _
    | none =>
      cases imported : reply.handles handles.length with
      | none => exact (leaves_change (destroyImported_state _)).bind fun _ => leaves_giveUp
      | some handle =>
        have noted : Leaves (change (World.note (.primeImport fd handle))) ownState :=
          leaves_change fun _ => rfl
        exact noted.bind fun _ => ih _ _

theorem importVideoFrame_state (frame : DmabufVideoFrame) (key : FrameKey) (reply : ImportReply) :
    Leaves (importVideoFrame frame key reply) ownState := by
  refine leaves_check.bind fun _ => (importHandles_state _ _ _ _).bind fun handles => ?_
  split
  · exact (leaves_change (destroyImported_state _)).bind fun _ => leaves_giveUp
  · exact (addFramebuffer_state _ _).bind fun _ => leaves_pure

theorem part_of_state {α : Type} (view : World → α)
    (part : ∀ world, view world = view (ownState world)) {first second : World}
    (same : ownState first = ownState second) : view first = view second :=
  (part _).trans ((congrArg view same).trans (part second).symm)

theorem leaves_part {α β : Type} {call : Attempt World α} (view : World → β)
    (part : ∀ world, view world = view (ownState world)) (leaves : Leaves call ownState) :
    Leaves call view :=
  fun world => part_of_state view part (leaves world)

/-- What finding or creating a video framebuffer leaves alone. -/
abbrev besideVideo (world : World) : PlaneAssignment × FlowBuffers × DumbBuffer × Output :=
  (world.planes, world.flow, world.solidUi, world.output)

/-- What the first phase of a call leaves alone. -/
abbrev besidePicture (world : World) : FlowBuffers × DumbBuffer × Output :=
  (world.flow, world.solidUi, world.output)

/-- What taking a Flow framebuffer leaves alone. -/
abbrev besideFlow (world : World) : PlaneAssignment × VideoBuffers × DumbBuffer × Output :=
  (world.planes, world.video, world.solidUi, world.output)

/-- What a commit leaves alone. -/
abbrev besideOutput (world : World) : PlaneAssignment × VideoBuffers × FlowBuffers × DumbBuffer :=
  (world.planes, world.video, world.flow, world.solidUi)

theorem destroyImported_beside (imported : ImportedFramebuffer) (world : World) :
    besideVideo (destroyImported imported world) = besideVideo world :=
  part_of_state besideVideo (fun _ => rfl) (destroyImported_state imported world)

theorem evict_beside (world : World) :
    besideVideo (evictVideoFramebufferIfNeeded world) = besideVideo world := by
  unfold evictVideoFramebufferIfNeeded
  split
  · rfl
  · split
    · rfl
    · exact destroyImported_beside _ _

theorem findOrImport_beside (frame : DmabufVideoFrame) (reply : ImportReply) :
    Leaves (findOrImportVideoFramebuffer frame reply) besideVideo := by
  unfold findOrImportVideoFramebuffer
  cases makeFrameKey frame reply with
  | none => exact leaves_giveUp
  | some key =>
    refine Leaves.bind (leaves_change fun _ => rfl) fun _ => leaves_read.bind fun video => ?_
    cases video.cache.find? (·.key = key) with
    | some entry => exact Leaves.bind (leaves_change fun _ => rfl) fun _ => leaves_pure
    | none =>
      refine (leaves_change evict_beside).bind fun _ => ?_
      refine (leaves_part besideVideo (fun _ => rfl) (importVideoFrame_state _ _ _)).bind fun imported => ?_
      exact Leaves.bind (leaves_change fun _ => rfl) fun _ => leaves_pure

theorem destroyCpuVideoBuffer_beside (world : World) :
    besideVideo (destroyCpuVideoBuffer world) = besideVideo world := by
  have removed := removeFramebuffer_state world.video.cpuVideo.framebuffer world
  have kept := part_of_state besideVideo (fun _ => rfl) removed
  exact kept

theorem ensureCpuVideoBuffer_beside (width height : Nat) (reply : DumbReply) :
    Leaves (ensureCpuVideoBuffer width height reply) besideVideo := by
  refine leaves_read.bind fun video => ?_
  split
  · refine (leaves_change destroyCpuVideoBuffer_beside).bind fun _ => ?_
    refine (leaves_part besideVideo (fun _ => rfl) (createDumbBuffer_state _ _)).bind fun cpuVideo => ?_
    exact leaves_change fun _ => rfl
  · exact leaves_pure

private theorem destroyAll_beside (cached : List CachedFramebuffer) (world : World) :
    besideVideo (cached.foldl (fun world cached => destroyImported cached.imported world) world) =
      besideVideo world := by
  induction cached generalizing world with
  | nil => rfl
  | cons entry rest ih => exact (ih _).trans (destroyImported_beside _ _)

theorem destroyVideoFramebufferCache_beside (world : World) :
    besideVideo (destroyVideoFramebufferCache world) = besideVideo world :=
  destroyAll_beside world.video.cache (clearCurrent world)

theorem choose_beside (choice : PlaneAssignment → Option PlaneAssignment) :
    Leaves (choose choice) fun world => (world.video, besidePicture world, world.calls) := by
  intro world
  unfold choose
  cases choice world.planes <;> rfl

theorem ensureFlowPlane_beside (display : Display) (report : PlaneReport) :
    Leaves (ensureFlowPlane display report)
      fun world => (world.video, besidePicture world, world.calls) := by
  refine leaves_read.bind fun planes => ?_
  split
  · exact choose_beside _
  · exact leaves_pure

theorem ensureUiPlane_beside (display : Display) (report : PlaneReport) :
    Leaves (ensureUiPlane display report)
      fun world => (world.video, besidePicture world, world.calls) := by
  refine leaves_change fun world => ?_
  dsimp only
  split <;> rfl

theorem Leaves.through {α β γ : Type} {call : Attempt World α} {view : World → β}
    (leaves : Leaves call view) (part : β → γ) : Leaves call fun world => part (view world) :=
  fun world => congrArg part (leaves world)

theorem ensureVideoPlane_beside (display : Display) (report : PlaneReport) (format modifier : Nat) :
    Leaves (ensureVideoPlane display report format modifier) besidePicture := by
  refine leaves_read.bind fun planes => ?_
  split
  · refine Leaves.bind (leaves_change fun _ => rfl) fun _ => ?_
    refine (leaves_change fun world =>
      congrArg (fun beside => beside.2) (destroyVideoFramebufferCache_beside world)).bind fun _ => ?_
    exact Leaves.through (choose_beside _) fun beside => beside.2.1
  · exact leaves_pure

theorem prepare_beside (setup : Setup) (picture : Picture) (reply : PresentReply) :
    Leaves (prepare setup picture reply) besidePicture := by
  have flow := Leaves.through (ensureFlowPlane_beside setup.display reply.flowPlanes)
    fun beside => beside.2.1
  have ui := Leaves.through (ensureUiPlane_beside setup.display reply.uiPlanes)
    fun beside => beside.2.1
  cases picture with
  | dmabuf frame =>
    refine (ensureVideoPlane_beside _ _ _ _).bind fun _ => flow.bind fun _ => ui.bind fun _ => ?_
    exact (Leaves.through (findOrImport_beside _ _) fun beside => beside.2).bind fun _ => leaves_pure
  | cpu frame =>
    refine leaves_check.bind fun _ => (ensureVideoPlane_beside _ _ _ _).bind fun _ => ?_
    refine (Leaves.through (ensureCpuVideoBuffer_beside _ _ _) fun beside => beside.2).bind fun _ => ?_
    exact flow.bind fun _ => ui.bind fun _ => leaves_read.bind fun _ => leaves_pure
  | overlay => exact flow.bind fun _ => ui.bind fun _ => leaves_read.bind fun _ => leaves_pure

theorem lockFrontBuffer_state (reply : LockReply) : Leaves (lockFrontBuffer reply) ownState := by
  intro world
  unfold lockFrontBuffer
  split
  · rfl
  · split
    · rfl
    · split <;> rfl

theorem addGbmFramebuffer_state (key : FlowFramebufferKey) (reply : LockReply) :
    Leaves (addGbmFramebuffer key reply) ownState := by
  unfold addGbmFramebuffer
  split
  · cases reply.withModifiers with
    | added proposed => exact addFramebuffer_state _ _
    | invalidArgument => exact addFramebuffer_state _ _
    | failed => exact leaves_giveUp
  · exact addFramebuffer_state _ _

theorem findOrAddFlowFramebuffer_beside (key : FlowFramebufferKey) (reply : LockReply) :
    Leaves (findOrAddFlowFramebuffer key reply) besideFlow := by
  refine leaves_read.bind fun flow => ?_
  cases flow.cache.lookup key with
  | some framebuffer => exact leaves_pure
  | none =>
    refine (leaves_part besideFlow (fun _ => rfl) (addGbmFramebuffer_state _ _)).bind fun framebuffer => ?_
    exact Leaves.bind (leaves_change fun _ => rfl) fun _ => leaves_pure

theorem frameLockedBuffer_beside (setup : Setup) (buffer : LockedBuffer) (reply : LockReply) :
    Leaves (frameLockedBuffer setup buffer reply) besideFlow := by
  intro world
  have kept := findOrAddFlowFramebuffer_beside (setup.flowKey buffer.object) reply world
  unfold frameLockedBuffer
  cases found : findOrAddFlowFramebuffer (setup.flowKey buffer.object) reply world with
  | mk framebuffer after =>
    rw [found] at kept
    cases framebuffer with
    | some framebuffer => exact kept
    | none => exact (part_of_state besideFlow (fun _ => rfl) (releaseBuffer_state (some buffer) after)).trans kept

theorem lockFlowFramebuffer_beside (setup : Setup) (reply : LockReply) :
    Leaves (lockFlowFramebuffer setup reply) besideFlow := by
  refine (leaves_part besideFlow (fun _ => rfl) (lockFrontBuffer_state reply)).bind fun buffer => ?_
  exact (frameLockedBuffer_beside setup buffer reply).bind fun _ => leaves_pure

theorem acquireFlowFramebuffer_beside (setup : Setup) (updateFlowFrame : Bool) (reply : LockReply) :
    Leaves (acquireFlowFramebuffer setup updateFlowFrame reply) besideFlow := by
  unfold acquireFlowFramebuffer
  split
  · exact leaves_pure
  · split
    · exact lockFlowFramebuffer_beside setup reply
    · intro world
      unfold takePendingFlow
      dsimp only
      split <;> rfl

theorem closeHandles_calls (handles : List Nat) (world : World) :
    Extends passesHandles world.calls
      (handles.foldl (fun world handle => world.note (.gemClose handle)) world).calls := by
  induction handles generalizing world with
  | nil => exact .same
  | cons handle rest ih =>
    have closed : Extends passesHandles world.calls (world.note (.gemClose handle)).calls :=
      .one trivial
    exact closed.trans (ih (world.note (.gemClose handle)))

/-- Destroying an import removes its framebuffer and passes its handles back. -/
theorem destroyImported_calls (imported : ImportedFramebuffer) (world : World) :
    Extends passesHandles (removeFramebuffer imported.framebuffer world).calls
      (destroyImported imported world).calls :=
  closeHandles_calls _ _

theorem importHandles_grows (reply : ImportReply) (known : List (Int × Nat)) (handles : List Nat)
    (fds : List Int) : Grows (importHandles reply known handles fds) World.calls passesHandles := by
  have closed : ∀ handles, Grows (change (destroyImported ⟨0, handles⟩)) World.calls passesHandles :=
    fun handles world => closeHandles_calls (handlesToClose handles) world
  induction fds generalizing known handles with
  | nil => exact leaves_pure.grows
  | cons fd rest ih =>
    unfold importHandles
    refine leaves_check.grows.bind fun _ => ?_
    cases seen : known.lookup fd with
    | some handle => exact ih _ _
    | none =>
      cases imported : reply.handles handles.length with
      | none => exact (closed handles).bind fun _ => leaves_giveUp.grows
      | some handle =>
        have noted : Grows (change (World.note (.primeImport fd handle))) World.calls passesHandles :=
          fun world => .one trivial
        exact noted.bind fun _ => ih _ _

section Framebuffers
variable {kind : Content → Prop}

theorem passing_framebuffers {before after : List DeviceCall}
    (passed : Extends passesHandles before after) : Extends (handlesFramebuffers kind) before after :=
  passed.imp fun call _ passes => by
    cases call with
    | primeImport fd handle => trivial
    | gemClose handle => trivial
    | addFramebuffer framebuffer content => exact passes.elim
    | removeFramebuffer framebuffer named => exact passes.elim
    | atomicRequest request applied => exact passes.elim
    | lockFrontBuffer buffer => exact passes.elim
    | releaseBuffer buffer flowPlane => exact passes.elim

theorem removeFramebuffer_grows (framebuffer : Nat) :
    Grows (change (removeFramebuffer framebuffer)) World.calls (handlesFramebuffers kind) := by
  intro world
  change Extends _ world.calls (removeFramebuffer framebuffer world).calls
  unfold removeFramebuffer
  split
  · exact .same
  · exact .one trivial

theorem destroyImported_grows (imported : ImportedFramebuffer) :
    Grows (change (destroyImported imported)) World.calls (handlesFramebuffers kind) :=
  fun world => (removeFramebuffer_grows imported.framebuffer world).trans
    (passing_framebuffers (destroyImported_calls imported world))

theorem addFramebuffer_adds (proposed : Option Nat) (fits : kind content) :
    Grows (addFramebuffer content proposed) World.calls (handlesFramebuffers kind) := by
  intro world
  cases proposed with
  | none => exact .same
  | some framebuffer => exact .one ⟨newFramebuffer_ne_zero _ _, newFramebuffer_free _ _, fits⟩

theorem createDumbBuffer_grows (reply : DumbReply) (fits : kind content) :
    Grows (createDumbBuffer content reply) World.calls (handlesFramebuffers kind) := by
  refine leaves_check.grows.bind fun _ => (addFramebuffer_adds _ fits).bind fun framebuffer => ?_
  split
  · exact leaves_pure.grows
  · exact (removeFramebuffer_grows framebuffer).bind fun _ => leaves_giveUp.grows

theorem importVideoFrame_grows (frame : DmabufVideoFrame) (key : FrameKey) (reply : ImportReply) :
    Grows (importVideoFrame frame key reply) World.calls (handlesFramebuffers isVideo) := by
  refine leaves_check.grows.bind fun _ => ?_
  refine Grows.bind (fun world => passing_framebuffers (importHandles_grows reply [] [] _ world))
    fun handles => ?_
  split
  · exact (destroyImported_grows ⟨0, handles⟩).bind fun _ => leaves_giveUp.grows
  · exact (addFramebuffer_adds _ trivial).bind fun _ => leaves_pure.grows

private theorem destroyAll_grows (cached : List CachedFramebuffer) (world : World) :
    Extends (handlesFramebuffers kind) world.calls
      (cached.foldl (fun world cached => destroyImported cached.imported world) world).calls := by
  induction cached generalizing world with
  | nil => exact .same
  | cons entry rest ih => exact (destroyImported_grows entry.imported world).trans (ih _)

theorem destroyVideoFramebufferCache_grows :
    Grows (change destroyVideoFramebufferCache) World.calls (handlesFramebuffers kind) :=
  fun world => destroyAll_grows world.video.cache (clearCurrent world)

theorem evict_grows :
    Grows (change evictVideoFramebufferIfNeeded) World.calls (handlesFramebuffers kind) := by
  intro world
  change Extends _ world.calls (evictVideoFramebufferIfNeeded world).calls
  unfold evictVideoFramebufferIfNeeded
  split
  · exact .same
  · split
    · exact .same
    · exact destroyImported_grows _ world

theorem findOrImport_grows (frame : DmabufVideoFrame) (reply : ImportReply) :
    Grows (findOrImportVideoFramebuffer frame reply) World.calls (handlesFramebuffers isVideo) := by
  unfold findOrImportVideoFramebuffer
  cases makeFrameKey frame reply with
  | none => exact leaves_giveUp.grows
  | some key =>
    refine Grows.bind (Leaves.grows (leaves_change fun _ => rfl)) fun _ => leaves_read.grows.bind fun video => ?_
    cases video.cache.find? (·.key = key) with
    | some entry => exact (Leaves.grows (leaves_change fun _ => by rfl)).bind fun _ => leaves_pure.grows
    | none =>
      refine evict_grows.bind fun _ => (importVideoFrame_grows _ _ _).bind fun imported => ?_
      exact (Leaves.grows (leaves_change fun _ => by rfl)).bind fun _ => leaves_pure.grows

theorem ensureCpuVideoBuffer_grows (width height : Nat) (reply : DumbReply) :
    Grows (ensureCpuVideoBuffer width height reply) World.calls (handlesFramebuffers isVideo) := by
  refine leaves_read.grows.bind fun video => ?_
  split
  · have destroyed : Grows (change destroyCpuVideoBuffer) World.calls (handlesFramebuffers isVideo) :=
      fun world => removeFramebuffer_grows world.video.cpuVideo.framebuffer world
    refine destroyed.bind fun _ => (createDumbBuffer_grows reply trivial).bind fun cpuVideo => ?_
    exact Leaves.grows (leaves_change fun _ => rfl)
  · exact leaves_pure.grows

theorem ensureVideoPlane_grows (display : Display) (report : PlaneReport) (format modifier : Nat) :
    Grows (ensureVideoPlane display report format modifier) World.calls (handlesFramebuffers kind) := by
  refine leaves_read.grows.bind fun planes => ?_
  split
  · refine Grows.bind (Leaves.grows (leaves_change fun _ => rfl)) fun _ => ?_
    refine destroyVideoFramebufferCache_grows.bind fun _ => ?_
    exact (Leaves.through (choose_beside _) fun beside => beside.2.2).grows
  · exact leaves_pure.grows

/-- The first phase handles framebuffers of video frames only. -/
theorem prepare_grows (setup : Setup) (picture : Picture) (reply : PresentReply) :
    Grows (prepare setup picture reply) World.calls (handlesFramebuffers isVideo) := by
  have flow : Grows (ensureFlowPlane setup.display reply.flowPlanes) World.calls
      (handlesFramebuffers isVideo) :=
    (Leaves.through (ensureFlowPlane_beside _ _) fun beside => beside.2.2).grows
  have ui : Grows (ensureUiPlane setup.display reply.uiPlanes) World.calls
      (handlesFramebuffers isVideo) :=
    (Leaves.through (ensureUiPlane_beside _ _) fun beside => beside.2.2).grows
  cases picture with
  | dmabuf frame =>
    refine (ensureVideoPlane_grows _ _ _ _).bind fun _ => flow.bind fun _ => ui.bind fun _ => ?_
    exact (findOrImport_grows _ _).bind fun _ => leaves_pure.grows
  | cpu frame =>
    refine leaves_check.grows.bind fun _ => (ensureVideoPlane_grows _ _ _ _).bind fun _ => ?_
    refine (ensureCpuVideoBuffer_grows _ _ _).bind fun _ => ?_
    exact flow.bind fun _ => ui.bind fun _ => leaves_read.grows.bind fun _ => leaves_pure.grows
  | overlay =>
    exact flow.bind fun _ => ui.bind fun _ => leaves_read.grows.bind fun _ => leaves_pure.grows

theorem ensureSolidFlow_grows (reply : DumbReply) (fits : kind .solidFlow) :
    Grows (ensureSolidFlow reply) World.calls (handlesFramebuffers kind) := by
  refine leaves_read.grows.bind fun flow => ?_
  split
  · exact (createDumbBuffer_grows reply fits).bind fun solid => Leaves.grows (leaves_change fun _ => rfl)
  · exact leaves_pure.grows

theorem ensureSolidUi_grows (reply : DumbReply) (fits : kind .solidUi) :
    Grows (ensureSolidUi reply) World.calls (handlesFramebuffers kind) := by
  refine leaves_read.grows.bind fun solidUi => ?_
  split
  · exact (createDumbBuffer_grows reply fits).bind fun solid => Leaves.grows (leaves_change fun _ => rfl)
  · exact leaves_pure.grows

theorem publishSolidUiFrame_grows (reply : DumbReply) (fits : kind .solidUi) :
    Grows (publishSolidUiFrame reply) World.calls (handlesFramebuffers kind) :=
  leaves_read.grows.bind fun _ => leaves_check.grows.bind fun _ =>
    (ensureSolidUi_grows reply fits).bind fun _ => leaves_read.grows.bind fun _ => leaves_check.grows

theorem publishUiFrameFromArgb_grows (hasPixels : Bool) (width height strideBytes : Nat)
    (reply : DumbReply) (fits : kind .solidUi) :
    Grows (publishUiFrameFromArgb hasPixels width height strideBytes reply) World.calls
      (handlesFramebuffers kind) := by
  refine leaves_check.grows.bind fun _ => leaves_read.grows.bind fun planes => ?_
  split
  · exact leaves_check.grows.bind fun _ => leaves_check.grows.bind fun _ =>
      (ensureSolidUi_grows reply fits).bind fun _ => leaves_read.grows.bind fun _ =>
        leaves_check.grows
  · exact leaves_pure.grows

theorem enableWritebackRecording_grows (setup : Setup) (hasPath : Bool)
    (everyNFrames maxFrames : Nat) (reply : RecordingReply) (fits : kind .writeback) :
    Grows (enableWritebackRecording setup hasPath everyNFrames maxFrames reply) World.calls
      (handlesFramebuffers kind) := by
  have connected : Grows (chooseWritebackConnector reply) World.calls (handlesFramebuffers kind) := by
    refine leaves_read.grows.bind fun output => ?_
    dsimp only
    split
    · cases reply.connector with
      | none => exact leaves_giveUp.grows
      | some connectorId => exact Leaves.grows (leaves_change fun _ => rfl)
    · exact leaves_pure.grows
  have buffered : Grows (createWritebackBuffer reply) World.calls (handlesFramebuffers kind) := by
    refine leaves_read.grows.bind fun output => ?_
    dsimp only
    split
    · exact (createDumbBuffer_grows reply.buffer fits).bind fun buffer => Leaves.grows (leaves_change fun _ => rfl)
    · exact leaves_pure.grows
  have destroyed : Grows (change destroyWritebackBuffer) World.calls (handlesFramebuffers kind) :=
    fun world => removeFramebuffer_grows world.output.writeback.buffer.framebuffer world
  refine leaves_check.grows.bind fun _ => leaves_check.grows.bind fun _ => ?_
  refine connected.bind fun _ => buffered.bind fun _ => ?_
  split
  · exact Leaves.grows (leaves_change fun _ => rfl)
  · exact destroyed.bind fun _ => leaves_giveUp.grows

end Framebuffers

/-- The calls made on the way of a Flow frame. -/
theorem releaseBuffer_grows (buffer : Option LockedBuffer) :
    Grows (change (releaseBuffer buffer)) World.calls handlesFlowFrames := by
  intro world
  cases buffer with
  | none => exact .same
  | some buffer => exact .one trivial

theorem lockFrontBuffer_grows (reply : LockReply) :
    Grows (lockFrontBuffer reply) World.calls handlesFlowFrames := by
  intro world
  unfold lockFrontBuffer
  split
  · exact .same
  · split
    · exact .same
    · split
      · exact .same
      · rename_i free
        exact .one ⟨free, rfl⟩

theorem addFramebuffer_grows (content : Content) (proposed : Option Nat) :
    Grows (addFramebuffer content proposed) World.calls handlesFlowFrames := by
  intro world
  cases proposed with
  | none => exact .same
  | some framebuffer => exact .one ⟨newFramebuffer_ne_zero _ _, newFramebuffer_free _ _⟩

theorem findOrAddFlowFramebuffer_grows (key : FlowFramebufferKey) (reply : LockReply) :
    Grows (findOrAddFlowFramebuffer key reply) World.calls handlesFlowFrames := by
  refine leaves_read.grows.bind fun flow => ?_
  cases flow.cache.lookup key with
  | some framebuffer => exact leaves_pure.grows
  | none =>
    have added : Grows (addGbmFramebuffer key reply) World.calls handlesFlowFrames := by
      unfold addGbmFramebuffer
      split
      · cases reply.withModifiers with
        | added proposed => exact addFramebuffer_grows _ _
        | invalidArgument => exact addFramebuffer_grows _ _
        | failed => exact leaves_giveUp.grows
      · exact addFramebuffer_grows _ _
    exact added.bind fun framebuffer => (Leaves.grows (leaves_change fun _ => by rfl)).bind fun _ => leaves_pure.grows

theorem frameLockedBuffer_grows (setup : Setup) (buffer : LockedBuffer) (reply : LockReply) :
    Grows (frameLockedBuffer setup buffer reply) World.calls handlesFlowFrames := by
  intro world
  have grown := findOrAddFlowFramebuffer_grows (setup.flowKey buffer.object) reply world
  unfold frameLockedBuffer
  cases found : findOrAddFlowFramebuffer (setup.flowKey buffer.object) reply world with
  | mk framebuffer after =>
    rw [found] at grown
    cases framebuffer with
    | some framebuffer => exact grown
    | none => exact grown.trans (releaseBuffer_grows (some buffer) after)

theorem lockFlowFramebuffer_grows (setup : Setup) (reply : LockReply) :
    Grows (lockFlowFramebuffer setup reply) World.calls handlesFlowFrames :=
  (lockFrontBuffer_grows reply).bind fun buffer =>
    (frameLockedBuffer_grows setup buffer reply).bind fun _ => leaves_pure.grows

theorem takePendingFlow_grows : Grows takePendingFlow World.calls handlesFlowFrames := by
  refine Leaves.grows fun world => ?_
  unfold takePendingFlow
  dsimp only
  split <;> rfl

theorem acquireFlowFramebuffer_grows (setup : Setup) (updateFlowFrame : Bool) (reply : LockReply) :
    Grows (acquireFlowFramebuffer setup updateFlowFrame reply) World.calls handlesFlowFrames := by
  unfold acquireFlowFramebuffer
  split
  · exact leaves_pure.grows
  · split
    · exact lockFlowFramebuffer_grows setup reply
    · exact takePendingFlow_grows

theorem waitForPendingPageFlip_beside (reply : CommitReply) :
    Leaves (waitForPendingPageFlip reply) fun world => (besideOutput world, world.calls) := by
  intro world
  unfold waitForPendingPageFlip
  split
  · rfl
  · split <;> rfl

theorem applyRequest_beside (request : Request) (nonblocking : Bool) (reply : CommitReply) :
    Leaves (applyRequest request nonblocking reply) besideOutput := by
  intro world
  unfold applyRequest
  split <;> rfl

theorem finishWriteback_beside (capture : Bool) (reply : CommitReply) :
    Leaves (finishWriteback capture reply) fun world => (besideOutput world, world.calls) := by
  unfold finishWriteback
  split
  · exact leaves_check.bind fun _ => leaves_check.bind fun _ => leaves_change fun _ => rfl
  · exact leaves_pure

theorem commit_beside (setup : Setup) (video : VideoPart) (flowFramebuffer : Nat)
    (nonblockingAllowed : Bool) (reply : CommitReply) :
    Leaves (commit setup video flowFramebuffer nonblockingAllowed reply) besideOutput := by
  refine (Leaves.through (waitForPendingPageFlip_beside reply) Prod.fst).bind fun _ => ?_
  refine leaves_check.bind fun _ => leaves_read.bind fun world => ?_
  exact (applyRequest_beside _ _ _).bind fun _ =>
    Leaves.through (finishWriteback_beside _ reply) Prod.fst

/-- A commit may be applied and still fail, in the writeback that follows. -/
def writebackFails (world : World) (reply : CommitReply) : Prop :=
  captureWriteback world = true ∧ ¬ (reply.fenced = true ∧ reply.written = true)

/-- Nothing before the commit fails, and it is accepted. -/
def commitReached (setup : Setup) (video : VideoPart) (flowFramebuffer : Nat) (reply : CommitReply)
    (world : World) : Bool :=
  (!world.output.pageFlipPending || reply.flipped) && reply.allocated &&
    commitAccepted (atomicRequest setup world video flowFramebuffer) reply world

/-- The request was applied. -/
structure Applied (setup : Setup) (video : VideoPart) (flowFramebuffer : Nat) (reply : CommitReply)
    (world after : World) : Prop where
  calls : after.calls =
    .atomicRequest (atomicRequest setup world video flowFramebuffer) true :: world.calls
  modeset : after.output.modesetCommitted = true
  reached : commitReached setup video flowFramebuffer reply world = true

/-- The request was never made, or it was refused. -/
structure NotApplied (setup : Setup) (video : VideoPart) (flowFramebuffer : Nat)
    (world after : World) : Prop where
  calls : after.calls = world.calls ∨ after.calls =
    .atomicRequest (atomicRequest setup world video flowFramebuffer) false :: world.calls
  modeset : after.output.modesetCommitted = world.output.modesetCommitted

/-- What a commit never touches. -/
structure SameBuffers (world after : World) : Prop where
  beside : besideOutput after = besideOutput world
  buffer : after.output.writeback.buffer = world.output.writeback.buffer

theorem applyRequest_spec (request : Request) (nonblocking : Bool) (reply : CommitReply)
    (world : World) : Ends (applyRequest request nonblocking reply) world
      (fun _ after => SameBuffers world after ∧
        after.calls = .atomicRequest request true :: world.calls ∧
        after.output.modesetCommitted = true ∧ commitAccepted request reply world = true)
      (fun after => SameBuffers world after ∧
        after.calls = .atomicRequest request false :: world.calls ∧ after.output = world.output) := by
  unfold Ends applyRequest
  by_cases accepted : commitAccepted request reply world = true
  · simp only [if_pos accepted]
    exact ⟨⟨rfl, rfl⟩, rfl, rfl, accepted⟩
  · simp only [if_neg accepted]
    exact ⟨⟨rfl, rfl⟩, rfl, rfl⟩

theorem finishWriteback_spec (capture : Bool) (reply : CommitReply) (world : World) :
    Ends (finishWriteback capture reply) world
      (fun _ after => SameBuffers world after ∧ after.calls = world.calls ∧
        after.output.modesetCommitted = world.output.modesetCommitted)
      (fun after => after = world ∧
        capture = true ∧ ¬ (reply.fenced = true ∧ reply.written = true)) := by
  unfold finishWriteback
  split
  · rename_i captures
    refine ends_check_bind (fun fenced => ?_) fun missed => ⟨rfl, captures, fun both => missed both.1⟩
    refine ends_check_bind (fun written => ?_) fun missed => ⟨rfl, captures, fun both => missed both.2⟩
    exact ends_change ⟨⟨rfl, rfl⟩, rfl, rfl⟩
  · exact ends_pure ⟨⟨rfl, rfl⟩, rfl, rfl⟩

theorem waitForPendingPageFlip_spec (reply : CommitReply) (world : World) :
    Ends (waitForPendingPageFlip reply) world
      (fun _ after => (!world.output.pageFlipPending || reply.flipped) = true ∧ ∃ pending,
        after = withOutput { world.output with pageFlipPending := pending } world)
      (fun after => after = world) := by
  unfold Ends waitForPendingPageFlip
  cases waits : world.output.pageFlipPending with
  | false => exact ⟨rfl, world.output.pageFlipPending, rfl⟩
  | true =>
    cases reply.flipped with
    | true => exact ⟨rfl, false, rfl⟩
    | false => exact rfl

/-- A commit is applied and succeeds, is applied and fails in the writeback, or
changes nothing on the display. -/
theorem commit_spec (setup : Setup) (video : VideoPart) (flowFramebuffer : Nat)
    (nonblocking : Bool) (reply : CommitReply) (world : World) :
    Ends (commit setup video flowFramebuffer nonblocking reply) world
      (fun _ after => SameBuffers world after ∧
        Applied setup video flowFramebuffer reply world after)
      (fun after => SameBuffers world after ∧
        (NotApplied setup video flowFramebuffer world after ∨
          writebackFails world reply ∧ Applied setup video flowFramebuffer reply world after)) := by
  refine Ends.bind ((waitForPendingPageFlip_spec reply world).imp (fun _ _ waited => waited)
    fun _ same => same ▸ ⟨⟨rfl, rfl⟩, .inl ⟨.inl rfl, rfl⟩⟩) ?_
  rintro _ waited ⟨flipped, pending, same⟩
  subst same
  refine ends_check_bind (fun allocated => ?_) fun _ => ⟨⟨rfl, rfl⟩, .inl ⟨.inl rfl, rfl⟩⟩
  refine ends_read_bind ?_
  refine Ends.bind ((applyRequest_spec _ _ reply _).imp (fun _ _ done => done) ?_) ?_
  · rintro after ⟨same, calls, output⟩
    have modeset := congrArg Output.modesetCommitted output
    exact ⟨⟨same.beside, same.buffer⟩, .inl ⟨.inr calls, modeset⟩⟩
  · rintro _ after ⟨same, calls, modeset, accepted⟩
    have reached : commitReached setup video flowFramebuffer reply world = true := by
      unfold commitReached
      rw [flipped, allocated]
      exact accepted
    refine (finishWriteback_spec _ reply after).imp ?_ ?_
    · rintro _ finished ⟨still, stays, kept⟩
      exact ⟨⟨still.beside.trans same.beside, still.buffer.trans same.buffer⟩,
        ⟨stays.trans calls, kept.trans modeset, reached⟩⟩
    · rintro finished ⟨stays, captures, missed⟩
      subst stays
      exact ⟨⟨same.beside, same.buffer⟩, .inr ⟨⟨captures, missed⟩, ⟨calls, modeset, reached⟩⟩⟩

/-- Every framebuffer of a request that is accepted exists. -/
theorem named_of_reached (reached : commitReached setup video flowFramebuffer reply world = true)
    (plane : Nat) (scanout : Scanout)
    (named : (plane, some scanout) ∈ (atomicRequest setup world video flowFramebuffer).updates) :
    (contentOf world.calls scanout.framebuffer).isSome = true := by
  rw [commitReached, Bool.and_eq_true] at reached
  have accepted := reached.2
  rw [commitAccepted, Bool.and_eq_true, List.all_eq_true] at accepted
  exact accepted.2 _ named

theorem adoptFlowFramebuffer_beside (acquired : AcquiredFlow) (world : World) :
    besideFlow (adoptFlowFramebuffer acquired world) = besideFlow world := by
  unfold adoptFlowFramebuffer
  dsimp only
  split
  · rfl
  · split
    · have kept := part_of_state besideFlow (fun _ => rfl) (releaseBuffer_state world.flow.currentBo world)
      exact kept
    · rfl

theorem conclude_planes (picture : Picture) (video : VideoPart) (acquired : AcquiredFlow)
    (committed : Bool) (world : World) :
    (conclude picture video acquired committed world).planes = world.planes := by
  unfold conclude
  split
  · have adopted := fun after => congrArg Prod.fst (adoptFlowFramebuffer_beside acquired after)
    cases picture with
    | dmabuf frame => exact adopted (rememberVideo video world)
    | cpu frame => exact adopted (rememberVideo video world)
    | overlay => exact adopted world
  · exact part_of_state World.planes (fun _ => rfl) (releaseBuffer_state acquired.bo world)

theorem adoptFlowFramebuffer_grows (acquired : AcquiredFlow) :
    Grows (change (adoptFlowFramebuffer acquired)) World.calls handlesFlowFrames := by
  intro world
  change Extends handlesFlowFrames world.calls (adoptFlowFramebuffer acquired world).calls
  unfold adoptFlowFramebuffer
  dsimp only
  split
  · exact .same
  · split
    · exact releaseBuffer_grows world.flow.currentBo world
    · exact .same

/-- After the commit only a Flow buffer may be released. -/
theorem conclude_grows (picture : Picture) (video : VideoPart) (acquired : AcquiredFlow)
    (committed : Bool) :
    Grows (change (conclude picture video acquired committed)) World.calls handlesFlowFrames := by
  intro world
  change Extends handlesFlowFrames world.calls (conclude picture video acquired committed world).calls
  unfold conclude
  split
  · cases picture with
    | dmabuf frame => exact adoptFlowFramebuffer_grows acquired (rememberVideo video world)
    | cpu frame => exact adoptFlowFramebuffer_grows acquired (rememberVideo video world)
    | overlay => exact adoptFlowFramebuffer_grows acquired world
  · exact releaseBuffer_grows acquired.bo world

/-- What the last phase leaves is what follows the commit, made or not. -/
theorem showPicture_ends {setup : Setup} {picture : Picture} {video : VideoPart}
    {acquired : AcquiredFlow} {updateFlowFrame : Bool} {reply : CommitReply} {world : World}
    {post : Unit → World → Prop} {left : World → Prop}
    (ends : Ends (commit setup video acquired.framebuffer
        (nonblockingAllowed picture updateFlowFrame acquired) reply) world
      (fun _ after => post () (conclude picture video acquired true after))
      (fun after => left (conclude picture video acquired false after))) :
    Ends (showPicture setup picture video acquired updateFlowFrame reply) world post left := by
  unfold Ends at ends
  unfold Ends showPicture
  dsimp only
  cases made : commit setup video acquired.framebuffer
      (nonblockingAllowed picture updateFlowFrame acquired) reply world with
  | mk result after =>
    rw [made] at ends
    cases result with
    | some value => exact ends
    | none => exact ends

theorem publishFlow_beside (acquired : AcquiredFlow) (world : World) :
    besideFlow (publishFlow acquired world) = besideFlow world := by
  have kept := part_of_state besideFlow (fun _ => rfl) (releaseBuffer_state world.flow.pendingBo world)
  exact kept

theorem publishRenderedFlowFrame_beside (setup : Setup) (reply : LockReply) :
    Leaves (publishRenderedFlowFrame setup reply) besideFlow :=
  (lockFlowFramebuffer_beside setup reply).bind fun acquired =>
    leaves_change (publishFlow_beside acquired)

theorem ensureSolidFlow_beside (reply : DumbReply) : Leaves (ensureSolidFlow reply) besideFlow := by
  refine leaves_read.bind fun flow => ?_
  split
  · refine (leaves_part besideFlow (fun _ => rfl) (createDumbBuffer_state _ _)).bind fun solid => ?_
    exact leaves_change fun _ => rfl
  · exact leaves_pure

theorem publishSolidFlowFrame_beside (reply : DumbReply) :
    Leaves (publishSolidFlowFrame reply) besideFlow :=
  (ensureSolidFlow_beside reply).bind fun _ => leaves_read.bind fun _ =>
    leaves_check.bind fun _ => leaves_change (publishFlow_beside _)

/-- What publishing a UI frame leaves alone. -/
abbrev besideUi (world : World) : PlaneAssignment × VideoBuffers × FlowBuffers × Output :=
  (world.planes, world.video, world.flow, world.output)

theorem ensureSolidUi_beside (reply : DumbReply) : Leaves (ensureSolidUi reply) besideUi := by
  refine leaves_read.bind fun solidUi => ?_
  split
  · refine (leaves_part besideUi (fun _ => rfl) (createDumbBuffer_state _ _)).bind fun solid => ?_
    exact leaves_change fun _ => rfl
  · exact leaves_pure

theorem publishSolidUiFrame_beside (reply : DumbReply) :
    Leaves (publishSolidUiFrame reply) besideUi :=
  leaves_read.bind fun _ => leaves_check.bind fun _ => (ensureSolidUi_beside reply).bind fun _ =>
    leaves_read.bind fun _ => leaves_check

theorem publishUiFrameFromArgb_beside (hasPixels : Bool) (width height strideBytes : Nat)
    (reply : DumbReply) :
    Leaves (publishUiFrameFromArgb hasPixels width height strideBytes reply) besideUi := by
  refine leaves_check.bind fun _ => leaves_read.bind fun planes => ?_
  split
  · exact leaves_check.bind fun _ => leaves_check.bind fun _ => (ensureSolidUi_beside reply).bind
      fun _ => leaves_read.bind fun _ => leaves_check
  · exact leaves_pure

theorem chooseWritebackConnector_beside (reply : RecordingReply) :
    Leaves (chooseWritebackConnector reply) besideOutput := by
  refine leaves_read.bind fun output => ?_
  dsimp only
  split
  · cases reply.connector with
    | none => exact leaves_giveUp
    | some connectorId => exact leaves_change fun _ => rfl
  · exact leaves_pure

theorem createWritebackBuffer_beside (reply : RecordingReply) :
    Leaves (createWritebackBuffer reply) besideOutput := by
  refine leaves_read.bind fun output => ?_
  dsimp only
  split
  · refine (leaves_part besideOutput (fun _ => rfl) (createDumbBuffer_state _ _)).bind fun buffer => ?_
    exact leaves_change fun _ => rfl
  · exact leaves_pure

theorem destroyWritebackBuffer_beside (world : World) :
    besideOutput (destroyWritebackBuffer world) = besideOutput world := by
  have kept := part_of_state besideOutput (fun _ => rfl)
    (removeFramebuffer_state world.output.writeback.buffer.framebuffer world)
  exact kept

theorem enableWritebackRecording_beside (setup : Setup) (hasPath : Bool)
    (everyNFrames maxFrames : Nat) (reply : RecordingReply) :
    Leaves (enableWritebackRecording setup hasPath everyNFrames maxFrames reply) besideOutput := by
  refine leaves_check.bind fun _ => leaves_check.bind fun _ => ?_
  refine (chooseWritebackConnector_beside reply).bind fun _ => ?_
  refine (createWritebackBuffer_beside reply).bind fun _ => ?_
  split
  · exact leaves_change fun _ => rfl
  · exact (leaves_change destroyWritebackBuffer_beside).bind fun _ => leaves_giveUp

end Glide.CompositorPhases
