import Glide.FlowBufferOwnership
import Glide.FullCommits

/-! What the first phase of a call makes of the planes. The plane for the video is
planned from the format alone, the UI keeps its plane once it has one, and what the
framebuffers showed that the call drops goes off. -/
namespace Glide.PreparedPlanes
open Library Attempts DrmCalls KmsPlanes KmsAtomicCompositor CompositorPhases ExclusivePlanes
open HeldFramebuffers FlowBufferOwnership FullCommits

/-- The planes once the call has looked for a video plane, if it finds one. -/
def plannedPlanes (display : Display) (planes : PlaneAssignment) (picture : Picture)
    (report : PlaneReport) : Option PlaneAssignment :=
  match formatOf picture with
  | none => some planes
  | some (format, modifier) =>
    if videoPlaneDiffers planes format modifier then
      chooseVideoPlane display report format modifier (withoutVideo planes)
    else some planes

/-- Whether the call has video to show. -/
def hasVideo (world : World) : Picture → Bool
  | .dmabuf frame => frame.width != 0 && frame.height != 0
  | .cpu _ => true
  | .overlay => (currentVideo world).present

/-- The cached framebuffers go with the old choice of a video plane. -/
def droppedFromCache (world : World) (picture : Picture) : List Nat :=
  match formatOf picture with
  | none => []
  | some (format, modifier) =>
    if videoPlaneDiffers world.planes format modifier then
      world.video.cache.map (·.imported.framebuffer)
    else []

/-- The buffer for CPU frames goes when a frame of another size comes. -/
def droppedForSize (world : World) : Picture → List Nat
  | .cpu frame =>
    if cpuVideoDiffers world.video frame.width frame.height then
      [world.video.cpuVideo.framebuffer]
    else []
  | _ => []

/-- The framebuffers that the call removes while it looks for a plane and a buffer. -/
def droppedFramebuffers (world : World) (picture : Picture) : List Nat :=
  droppedFromCache world picture ++ droppedForSize world picture

section Removed
variable {calls after : List DeviceCall} {world : World} {kind : Content → Prop}

/-- Nothing is turned on while framebuffers come and go. -/
theorem shown_before (grown : Extends (handlesFramebuffers kind) calls after)
    (on : scanoutOf after plane = some scanout) : scanoutOf calls plane = some scanout := by
  induction grown with
  | same => exact on
  | more call items _ allows ih =>
    cases call with
    | removeFramebuffer removed named => exact ih (Option.filter_eq_some_iff.1 on).1
    | addFramebuffer added content => exact ih on
    | primeImport fd handle => exact ih on
    | gemClose handle => exact ih on
    | atomicRequest request applied => exact allows.elim
    | lockFrontBuffer buffer => exact allows.elim
    | releaseBuffer buffer flowPlane => exact allows.elim

theorem removed_off (used : scanout.framebuffer ≠ 0)
    (on : scanoutOf (removeFramebuffer removed world).calls plane = some scanout) :
    scanout.framebuffer ≠ removed := by
  unfold removeFramebuffer at on
  split at on
  · rename_i none_
    exact none_ ▸ used
  · exact of_decide_eq_true (Option.filter_eq_some_iff.1 on).2

theorem destroyed_off {imported : ImportedFramebuffer} (used : scanout.framebuffer ≠ 0)
    (on : scanoutOf (destroyImported imported world).calls plane = some scanout) :
    scanout.framebuffer ≠ imported.framebuffer := by
  have passed : Extends (handlesFramebuffers isVideo)
      (removeFramebuffer imported.framebuffer world).calls (destroyImported imported world).calls :=
    passing_framebuffers (destroyImported_calls imported world)
  exact removed_off used (shown_before passed on)

theorem destroyAll_off (cached : List CachedFramebuffer) (world : World)
    (used : scanout.framebuffer ≠ 0)
    (on : scanoutOf (cached.foldl (fun world cached => destroyImported cached.imported world)
      world).calls plane = some scanout) :
    scanoutOf world.calls plane = some scanout ∧
      scanout.framebuffer ∉ cached.map (·.imported.framebuffer) := by
  induction cached generalizing world with
  | nil => exact ⟨on, List.not_mem_nil⟩
  | cons entry rest ih =>
    obtain ⟨still, others⟩ := ih (destroyImported entry.imported world) on
    have destroyed : Grows (change (destroyImported entry.imported)) World.calls
      (handlesFramebuffers isVideo) := destroyImported_grows entry.imported
    refine ⟨shown_before (destroyed world) still, ?_⟩
    rw [List.map_cons, List.mem_cons, not_or]
    exact ⟨destroyed_off used still, others⟩

end Removed

/-- The plane of the UI stays, or it is looked for and then apart from the video. -/
def UiStays (before after : PlaneAssignment) : Prop :=
  after.uiPlaneId = before.uiPlaneId ∧ after.uiSurface = before.uiSurface ∨
    before.uiPlaneId = 0 ∧ hasUiSurface before = true ∧ UiApart after

/-- What the choices of Flow and UI plane make of the planes that were planned. -/
structure Chosen (planned after : PlaneAssignment) : Prop where
  video : after.videoPlaneId = planned.videoPlaneId
  onPrimary : after.videoOnPrimary = planned.videoOnPrimary
  ui : UiStays planned after
  placed : hasUiSurface after = true → after.uiPlaneId ≠ 0

section Choices
variable {display : Display} {world : World}

/-- The choice of a video plane leaves the UI alone. -/
theorem chooseVideoPlane_ui
    (chosen : chooseVideoPlane display report format modifier (withoutVideo planes) = some after) :
    after.uiPlaneId = planes.uiPlaneId ∧ after.uiSurface = planes.uiSurface := by
  rcases chooseVideoPlane_cases chosen with ⟨rfl, _⟩ | ⟨plane, rfl, _⟩
  · exact ⟨rfl, rfl⟩
  · exact ⟨rfl, rfl⟩

theorem planned_ui (planned : plannedPlanes display planes picture report = some after) :
    after.uiPlaneId = planes.uiPlaneId ∧ after.uiSurface = planes.uiSurface := by
  unfold plannedPlanes at planned
  split at planned
  · cases planned
    exact ⟨rfl, rfl⟩
  · split at planned
    · exact chooseVideoPlane_ui planned
    · cases planned
      exact ⟨rfl, rfl⟩

/-- A Flow plane is added to what was planned, or is there. -/
theorem ensureFlowPlane_chosen (report : PlaneReport) (world : World) :
    Ends (ensureFlowPlane display report) world
      (fun _ after => ∃ flowPlaneId, after.planes = { world.planes with flowPlaneId })
      (fun after => after = world) := by
  refine (ensureFlowPlane_planes display report world).imp ?_ fun _ same => same
  rintro _ after (⟨_, same⟩ | ⟨_, _, chosen⟩)
  · exact ⟨world.planes.flowPlaneId, congrArg World.planes same⟩
  · obtain ⟨plane, same, _⟩ := chooseFlowPlane_cases chosen
    exact ⟨plane.id, same⟩

theorem ensureUiPlane_chosen (report : PlaneReport) (world : World) :
    Ends (ensureUiPlane display report) world
      (fun _ after => Chosen world.planes after.planes) (fun _ => False) := by
  refine ends_change ?_
  dsimp only
  split
  · rename_i missing
    obtain ⟨wide, high, missing⟩ := missing
    have surface : hasUiSurface world.planes = true := by
      simp [hasUiSurface, wide, high]
    cases chosen : chooseUiPlane display report world.planes with
    | none =>
      refine ⟨rfl, rfl, .inr ⟨missing, surface, fun used => absurd missing used⟩, ?_⟩
      exact fun given => absurd given (by simp [hasUiSurface])
    | some planes =>
      obtain ⟨plane, same, _, accepts⟩ := chooseUiPlane_cases chosen
      obtain ⟨_, _, video, _⟩ := tryUiPlane_facts accepts
      subst same
      exact ⟨rfl, rfl, .inr ⟨missing, surface, fun _ => video⟩, fun _ => plane.known⟩
  · rename_i present
    refine ⟨rfl, rfl, .inl ⟨rfl, rfl⟩, fun surface none_ => present ?_⟩
    simp only [hasUiSurface, Bool.and_eq_true, bne_iff_ne] at surface
    exact ⟨surface.1, surface.2, none_⟩

/-- The buffer for CPU frames and the size it is for. -/
abbrev cpuPart (world : World) : DumbBuffer × Nat × Nat :=
  (world.video.cpuVideo, world.video.cpuVideoWidth, world.video.cpuVideoHeight)

private theorem destroyAll_cpu (cached : List CachedFramebuffer) (world : World) :
    cpuPart (cached.foldl (fun world cached => destroyImported cached.imported world) world) =
      cpuPart world := by
  induction cached generalizing world with
  | nil => rfl
  | cons entry rest ih =>
    have destroyed := destroyImported_state entry.imported world
    exact (ih _).trans (part_of_state cpuPart (fun _ => rfl) destroyed)

theorem ensureVideoPlane_cpu (display : Display) (report : PlaneReport) (format modifier : Nat) :
    Leaves (ensureVideoPlane display report format modifier) cpuPart := by
  refine leaves_read.bind fun planes => ?_
  split
  · refine Leaves.bind (leaves_change fun _ => rfl) fun _ => ?_
    have destroyed : Leaves (change destroyVideoFramebufferCache) cpuPart :=
      leaves_change fun world => destroyAll_cpu world.video.cache (clearCurrent world)
    refine destroyed.bind fun _ => ?_
    exact Leaves.through (choose_beside _) fun beside =>
      (beside.1.cpuVideo, beside.1.cpuVideoWidth, beside.1.cpuVideoHeight)
  · exact leaves_pure

/-- The plane is the planned one, and what a cached framebuffer showed is off with it. -/
theorem ensureVideoPlane_planned (formatted : formatOf picture = some (format, modifier))
    (display : Display) (report : PlaneReport) (world : World) :
    Ends (ensureVideoPlane display report format modifier) world
      (fun _ after => plannedPlanes display world.planes picture report = some after.planes ∧
        ∀ plane scanout, scanoutOf after.calls plane = some scanout → scanout.framebuffer ≠ 0 →
          scanout.framebuffer ∉ droppedFromCache world picture)
      (fun after => after.planes = withoutVideo world.planes) := by
  simp only [plannedPlanes, droppedFromCache, formatted]
  refine ends_read_bind ?_
  split
  · refine ends_change_bind (ends_change_bind ?_)
    have kept : (destroyVideoFramebufferCache (withoutVideoPlane world)).planes =
        withoutVideo world.planes :=
      congrArg Prod.fst (destroyVideoFramebufferCache_beside (withoutVideoPlane world))
    have calls := (Leaves.through (choose_beside (chooseVideoPlane display report format modifier))
      fun beside => beside.2.2).ends (destroyVideoFramebufferCache (withoutVideoPlane world))
    refine ((choose_planes _ _).and calls).imp ?_ fun after failed => failed.1.2 ▸ kept
    rintro _ after ⟨chosen, same⟩
    refine ⟨kept ▸ chosen, fun plane scanout on used => ?_⟩
    have same : after.calls = (destroyVideoFramebufferCache (withoutVideoPlane world)).calls := same
    rw [same] at on
    exact (destroyAll_off world.video.cache (clearCurrent (withoutVideoPlane world)) used on).2
  · exact ends_pure ⟨rfl, fun _ _ _ _ => List.not_mem_nil⟩

/-- What a CPU buffer of another size showed is off, and there is one for this size. -/
theorem ensureCpuVideoBuffer_dropped (frame : CpuVideoFrame) (reply : DumbReply) (world : World) :
    Ends (ensureCpuVideoBuffer frame.width frame.height reply) world
      (fun _ after => after.video.cpuVideo.framebuffer ≠ 0 ∧
        ∀ plane scanout, scanoutOf after.calls plane = some scanout → scanout.framebuffer ≠ 0 →
          scanout.framebuffer ∉ droppedForSize world (.cpu frame))
      (fun _ => True) := by
  simp only [droppedForSize]
  refine ends_read_bind ?_
  split
  · rename_i differs
    have grown : Grows (createDumbBuffer .cpuVideo reply) World.calls
      (handlesFramebuffers isVideo) := createDumbBuffer_grows reply trivial
    refine ends_change_bind (Ends.bind (((createDumbBuffer_spec .cpuVideo reply _).and
      (grown.ends _)).imp (fun _ _ done => done) fun _ _ => trivial) ?_)
    rintro cpuVideo after ⟨⟨used, _⟩, grown⟩
    refine ends_change ⟨used, fun plane scanout on shown => ?_⟩
    rw [List.mem_singleton]
    have removed : scanoutOf (destroyCpuVideoBuffer world).calls plane = some scanout :=
      shown_before grown on
    exact removed_off shown removed
  · rename_i same
    refine ends_pure ⟨fun none_ => same ?_, fun _ _ _ _ => List.not_mem_nil⟩
    simp [cpuVideoDiffers, none_]

theorem UiStays.planned (stays : UiStays middle after)
    (planned : plannedPlanes display planes picture report = some middle) :
    UiStays planes after := by
  obtain ⟨plane, surface⟩ := planned_ui planned
  unfold UiStays hasUiSurface at *
  rw [plane, surface] at stays
  exact stays

/-- Planes for Flow and UI are chosen on the way to the rest of the call. -/
theorem overlays_then {rest : Attempt World α} {post : α → World → Prop} {left : World → Prop}
    (go : ∀ after, Chosen world.planes after.planes →
      (after.video, besidePicture after, after.calls) =
        (world.video, besidePicture world, world.calls) → Ends rest after post left)
    (stop : left world) :
    Ends (ensureFlowPlane display flow >>= fun _ => ensureUiPlane display ui >>= fun _ => rest)
      world post left := by
  have flows := (ensureFlowPlane_chosen flow world).and
    ((ensureFlowPlane_beside display flow).ends world)
  refine Ends.bind (flows.imp (fun _ _ done => done) fun _ failed => failed.1.symm ▸ stop) ?_
  rintro _ middle ⟨⟨flowPlaneId, placed⟩, same⟩
  have uis := (ensureUiPlane_chosen ui middle).and ((ensureUiPlane_beside display ui).ends middle)
  refine Ends.bind (uis.imp (fun _ _ done => done) fun _ failed => failed.1.elim) ?_
  rintro _ after ⟨chosen, kept⟩
  rw [placed] at chosen
  exact go after ⟨chosen.video, chosen.onPrimary, chosen.ui, chosen.placed⟩ (kept.trans same)

end Choices

/-- What the first phase leaves where the call goes on. -/
structure Ready (setup : Setup) (world : World) (picture : Picture) (report : PlaneReport)
    (video : VideoPart) (after : World) : Prop where
  planned : ∃ planned, plannedPlanes setup.display world.planes picture report = some planned ∧
    Chosen planned after.planes
  off : ∀ plane scanout, scanoutOf after.calls plane = some scanout → scanout.framebuffer ≠ 0 →
    scanout.framebuffer ∉ droppedFramebuffers world picture
  present : video.present = hasVideo world picture
  current : picture = .overlay → currentVideo after = video

theorem framebuffer_used (held : Held setup world)
    (exists_ : contentOf world.calls framebuffer = some content) : framebuffer ≠ 0 := by
  intro none_
  rw [none_, held.zero] at exists_
  cases exists_

theorem prepare_ready (held : Held setup world) :
    Ends (prepare setup picture reply) world
      (fun video after => Ready setup world picture reply.videoPlanes video after)
      (fun after => UiStays world.planes after.planes) := by
  cases picture with
  | dmabuf frame =>
    have formatted : formatOf (.dmabuf frame) =
      some (frame.drmFormat, frame.modifiers.getD 0 0) := rfl
    have chooses := (ensureVideoPlane_planned formatted setup.display reply.videoPlanes world).and
      (ensureVideoPlane_held held)
    refine Ends.bind (chooses.imp (fun _ _ done => done) fun after failed =>
      .inl (failed.1 ▸ ⟨rfl, rfl⟩)) ?_
    rintro _ middle ⟨⟨planned, off⟩, held⟩
    refine overlays_then (fun after chosen same => ?_) (.inl (planned_ui planned))
    have calls : after.calls = middle.calls := congrArg (fun parts => parts.2.2) same
    have imports := ((findOrImport_held (held.chosen same)).and
      ((findOrImport_grows frame reply.imported).ends after)).and
      ((findOrImport_beside frame reply.imported).ends after)
    have stays := chosen.ui.planned planned
    refine Ends.bind (imports.imp (fun _ _ done => done) fun last failed => ?_) ?_
    · have planes : last.planes = after.planes := congrArg Prod.fst failed.2
      exact planes ▸ stays
    · rintro framebuffer last ⟨⟨⟨held, entry, cached, named⟩, grown⟩, beside⟩
      have planes : last.planes = after.planes := congrArg Prod.fst beside
      have used : entry.imported.framebuffer ≠ 0 :=
        framebuffer_used held (held.exist _ (cached_held cached))
      refine ends_pure ⟨⟨_, planned, planes ▸ chosen⟩, fun plane scanout on shown => ?_, ?_,
        fun other => nomatch other⟩
      · have none_ : droppedForSize world (.dmabuf frame) = [] := rfl
        rw [droppedFramebuffers, none_, List.append_nil]
        exact off plane scanout (calls ▸ shown_before grown on) shown
      · subst named
        rw [VideoPart.present, bne_iff_ne.2 used, Bool.true_and]
        rfl
  | cpu frame =>
    refine ends_check_bind (fun valid => ?_) fun _ => .inl ⟨rfl, rfl⟩
    have formatted : formatOf (.cpu frame) = some (formatXrgb8888, modifierLinear) := if_pos valid
    have part := ensureVideoPlane_cpu setup.display reply.videoPlanes formatXrgb8888 modifierLinear
    have chooses := (ensureVideoPlane_planned formatted setup.display reply.videoPlanes world).and
      (part.ends world)
    refine Ends.bind (chooses.imp (fun _ _ done => done) fun after failed =>
      .inl (failed.1 ▸ ⟨rfl, rfl⟩)) ?_
    rintro _ middle ⟨⟨planned, off⟩, part⟩
    have sizes : droppedForSize middle (.cpu frame) = droppedForSize world (.cpu frame) := by
      simp only [cpuPart, Prod.mk.injEq] at part
      have differs : cpuVideoDiffers middle.video frame.width frame.height =
          cpuVideoDiffers world.video frame.width frame.height := by
        rw [cpuVideoDiffers, part.1, part.2.1, part.2.2]
        rfl
      rw [droppedForSize, differs, part.1]
      rfl
    have buffers := ((ensureCpuVideoBuffer_dropped frame reply.cpuVideo middle).and
      ((ensureCpuVideoBuffer_grows frame.width frame.height reply.cpuVideo).ends middle)).and
      ((ensureCpuVideoBuffer_beside frame.width frame.height reply.cpuVideo).ends middle)
    refine Ends.bind (buffers.imp (fun _ _ done => done) fun after failed => ?_) ?_
    · have planes : after.planes = middle.planes := congrArg Prod.fst failed.2
      exact .inl (planes ▸ planned_ui planned)
    rintro _ buffered ⟨⟨⟨used, replaced⟩, grown⟩, beside⟩
    have planes : buffered.planes = middle.planes := congrArg Prod.fst beside
    rw [← planes] at planned
    refine overlays_then (fun after chosen same => ?_) (.inl (planned_ui planned))
    have calls : after.calls = buffered.calls := congrArg (fun parts => parts.2.2) same
    have kept : after.video = buffered.video := congrArg Prod.fst same
    refine ends_read_bind (ends_pure ⟨⟨_, planned, chosen⟩, fun plane scanout on shown => ?_, ?_,
      fun other => nomatch other⟩)
    · rw [calls] at on
      rw [droppedFramebuffers, List.mem_append, not_or]
      exact ⟨off plane scanout (shown_before grown on) shown,
        sizes ▸ replaced plane scanout on shown⟩
    · simp only [validCpuFrame, Bool.and_eq_true, bne_iff_ne] at valid
      rw [kept]
      simp [VideoPart.present, hasVideo, used, valid]
  | overlay =>
    refine overlays_then (fun after chosen same => ?_) (.inl ⟨rfl, rfl⟩)
    have kept : after.video = world.video := congrArg Prod.fst same
    refine ends_read_bind (ends_pure ⟨⟨_, rfl, chosen⟩, fun _ _ _ _ => List.not_mem_nil, ?_,
      fun _ => rfl⟩)
    rw [kept]
    rfl

end Glide.PreparedPlanes
