import Glide.PreparedPlanes

/-! What is on display between the calls on the compositor, video aside. Every call keeps
it consistent with the state, whether it succeeds or gives up on the way: the phases of a
call handle framebuffers or Flow frames, and a commit that is refused changes nothing. -/
namespace Glide.DisplayConsistency
open Library Attempts DrmCalls KmsPlanes KmsAtomicCompositor CompositorPhases ExclusivePlanes
open HeldFramebuffers FlowBufferOwnership FullCommits PreparedPlanes

/-- What is on display between calls, video aside: nothing before the first commit, and
from then on the current Flow frame and the UI. -/
structure OnDisplay (setup : Setup) (world : World) : Prop where
  idle : world.output.modesetCommitted = false → ∀ plane, scanoutOf world.calls plane = none
  flowPlaced : world.output.modesetCommitted = true → HasFlowPlane setup world
  uiPlaced : world.output.modesetCommitted = true → hasUiSurface world.planes = true →
    world.planes.uiPlaneId ≠ 0
  flow : world.output.modesetCommitted = true → world.planes.flowPlaneId ≠ 0 →
    scanoutOf world.calls world.planes.flowPlaneId =
      if world.flow.currentFramebuffer = 0 then none
      else some (flowScanout setup world.flow.currentFramebuffer)
  ui : world.output.modesetCommitted = true → uiUsed world →
    scanoutOf world.calls world.planes.uiPlaneId =
      some (uiScanout world.planes world.solidUi.framebuffer)

/-- What every call preserves, one that gives up included. -/
structure Consistent (setup : Setup) (world : World) : Prop where
  base : Base setup world
  pending : Framed setup world world.flow.pendingFramebuffer world.flow.pendingBo
  current : Framed setup world world.flow.currentFramebuffer world.flow.currentBo
  readback : setup.display.primaryFlowReadback = true → world.planes.flowPlaneId = 0
  recording : world.output.writeback.enabled = false
  shown : OnDisplay setup world

section Kept
variable {setup : Setup} {world after : World}

theorem OnDisplay.same (shown : OnDisplay setup world)
    (calls : scanoutOf after.calls = scanoutOf world.calls) (planes : after.planes = world.planes)
    (committed : after.output.modesetCommitted = world.output.modesetCommitted)
    (current : after.flow.currentFramebuffer = world.flow.currentFramebuffer)
    (solidUi : world.output.modesetCommitted = true → after.solidUi = world.solidUi) :
    OnDisplay setup after := by
  refine ⟨fun first => ?_, fun later => ?_, fun later => ?_, fun later => ?_, fun later used => ?_⟩
  · rw [calls]
    exact shown.idle (committed ▸ first)
  · rw [HasFlowPlane, planes]
    exact shown.flowPlaced (committed ▸ later)
  · rw [planes]
    exact shown.uiPlaced (committed ▸ later)
  · rw [planes, calls, current]
    exact shown.flow (committed ▸ later)
  · have buffer := solidUi (committed ▸ later)
    rw [uiUsed, planes, buffer] at used
    rw [planes, calls, buffer]
    exact shown.ui (committed ▸ later) used

/-- The framebuffer of a Flow frame exists and is none of video. -/
theorem framed_content (held : Held setup world) (framed : Framed setup world framebuffer bo)
    (used : framebuffer ≠ 0) :
    ∃ content, contentOf world.calls framebuffer = some content ∧ ¬isVideo content := by
  cases bo with
  | some buffer => exact ⟨_, held.exist _ (flow_held framed), id⟩
  | none =>
    rcases framed with none_ | solid
    · exact absurd none_ used
    · subst solid
      exact ⟨_, held.exist _ (solidFlow_held used), id⟩

theorem unshown_stays (grown : Extends (handlesFramebuffers isVideo) world.calls after.calls)
    (off : scanoutOf world.calls plane = none) : scanoutOf after.calls plane = none := by
  cases on : scanoutOf after.calls plane with
  | none => rfl
  | some scanout => exact absurd ((shown_before grown on).symm.trans off) (Option.some_ne_none _)

/-- Once the UI has its plane, or none is wanted, the planes of Flow and UI stay. -/
theorem planes_settled (shown : OnDisplay setup world)
    (committed : world.output.modesetCommitted = true)
    (flow : FlowPlaneStays setup.display world.planes after.planes)
    (ui : UiStays world.planes after.planes) :
    after.planes.flowPlaneId = world.planes.flowPlaneId ∧
      after.planes.uiPlaneId = world.planes.uiPlaneId ∧
      after.planes.uiSurface = world.planes.uiSurface := by
  constructor
  · rcases flow with same | ⟨missing, beside⟩
    · exact same
    · rcases shown.flowPlaced committed with back | used
      · exact absurd (beside.symm.trans back) Bool.false_ne_true
      · exact absurd missing used
  · rcases ui with same | ⟨missing, surface, _⟩
    · exact same
    · exact absurd missing (shown.uiPlaced committed surface)

/-- The first phase keeps all of it, whether it succeeds or not. -/
theorem Consistent.prepared (consistent : Consistent setup world)
    (prepared : Prepared setup world after) (ui : UiStays world.planes after.planes)
    (beside : besidePicture after = besidePicture world) : Consistent setup after := by
  have solidUi : after.solidUi = world.solidUi := congrArg (fun parts => parts.2.1) beside
  have output : after.output = world.output := congrArg (fun parts => parts.2.2) beside
  have kept : FlowKept world after := flowKept_of_eq prepared.flow
  have shown := consistent.shown
  have current : Framed setup after world.flow.currentFramebuffer world.flow.currentBo :=
    consistent.current.kept kept
  have settled := fun committed => planes_settled shown committed prepared.planes ui
  refine ⟨prepared.base, ?_, ?_, fun back => ?_, ?_, ?_⟩
  · rw [prepared.flow]
    exact consistent.pending.kept kept
  · rw [prepared.flow]
    exact current
  · rcases prepared.planes with same | ⟨_, beside⟩
    · exact same.trans (consistent.readback back)
    · exact absurd (beside.symm.trans back) Bool.false_ne_true
  · rw [output]
    exact consistent.recording
  · refine ⟨fun first plane => ?_, fun later => ?_, fun later => ?_, fun later => ?_,
      fun later used => ?_⟩
    · rw [output] at first
      exact unshown_stays prepared.grown (shown.idle first plane)
    · rw [output] at later
      rw [HasFlowPlane, (settled later).1]
      exact shown.flowPlaced later
    · rw [output] at later
      rw [hasUiSurface, (settled later).2.1, (settled later).2.2]
      exact shown.uiPlaced later
    · rw [output] at later
      rw [(settled later).1, prepared.flow]
      intro used
      have before := shown.flow later used
      split at before
      · rename_i none_
        rw [if_pos none_]
        exact unshown_stays prepared.grown before
      · rename_i framed
        obtain ⟨content, exists_, other⟩ := framed_content prepared.base.held current framed
        rw [if_neg framed]
        exact shown_kept prepared.grown before exists_ other
    · rw [output] at later
      rw [uiUsed, solidUi, (settled later).2.1] at used
      have exists_ := prepared.base.held.exist _ (solidUi_held (solidUi ▸ used.1))
      rw [uiScanout, (settled later).2.1, (settled later).2.2, solidUi]
      rw [solidUi] at exists_
      exact shown_kept prepared.grown (shown.ui later used) exists_ id

/-- A phase that only handles Flow frames, and leaves the current one. -/
structure FlowHandled (setup : Setup) (world after : World) : Prop where
  held : Held setup after
  beside : besideFlow after = besideFlow world
  grown : Extends handlesFlowFrames world.calls after.calls
  pending : Framed setup after after.flow.pendingFramebuffer after.flow.pendingBo
  current : Framed setup after after.flow.currentFramebuffer after.flow.currentBo
  same : after.flow.currentFramebuffer = world.flow.currentFramebuffer

theorem Consistent.handled (consistent : Consistent setup world)
    (handled : FlowHandled setup world after) : Consistent setup after := by
  have planes : after.planes = world.planes := congrArg Prod.fst handled.beside
  have solidUi : after.solidUi = world.solidUi :=
    congrArg (fun parts => parts.2.2.1) handled.beside
  have output : after.output = world.output := congrArg (fun parts => parts.2.2.2) handled.beside
  refine ⟨consistent.base.flow handled.held planes handled.grown, handled.pending,
    handled.current, fun back => planes ▸ consistent.readback back,
    output ▸ consistent.recording, ?_⟩
  exact consistent.shown.same (scanoutOf_flow handled.grown) planes (output ▸ rfl) handled.same
    fun _ => solidUi

/-- A frame is locked together with its framebuffer, or nothing comes of it. -/
theorem lockFlowFramebuffer_handled (consistent : Consistent setup world) :
    Ends (lockFlowFramebuffer setup reply) world
      (fun flow after => FlowHandled setup world after ∧
        ∃ buffer, flow.bo = some buffer ∧
          Framed setup after flow.framebuffer (some buffer))
      (FlowHandled setup world) := by
  have held : Ends (lockFlowFramebuffer setup reply) world _ _ :=
    lockFlowFramebuffer_held consistent.base.held
  have calls := (lockFlowFramebuffer_grows setup reply).ends world
  have beside := (lockFlowFramebuffer_beside setup reply).ends world
  have stays : Ends (lockFlowFramebuffer setup reply) world
      (fun flow after => FlowStays world after ∧
        ∃ buffer, flow.bo = some buffer ∧
          Framed setup after flow.framebuffer (some buffer))
      (FlowStays world) := by
    refine Ends.bind ((lockFrontBuffer_spec reply world).imp (fun _ _ new => new)
      fun _ same => same ▸ flowStays_of_eq rfl) ?_
    rintro buffer middle ⟨_, _, rfl⟩
    refine Ends.bind ((frameLockedBuffer_spec setup buffer reply _).imp (fun _ _ framing => framing)
      fun _ same => same ▸ flowStays_of_eq rfl) ?_
    rintro framebuffer after framing
    obtain ⟨⟨cache, solid⟩, pending, current⟩ := framing.stays
    exact ends_pure ⟨⟨⟨cache, solid⟩, pending, current⟩, buffer, rfl, framing.framed⟩
  have handled : ∀ after, Held setup after → Extends handlesFlowFrames world.calls after.calls →
      besideFlow after = besideFlow world → FlowStays world after →
        FlowHandled setup world after := by
    intro after held grown beside stays
    refine ⟨held, beside, grown, ?_, ?_, stays.current.1⟩
    · rw [stays.pending.1, stays.pending.2]
      exact consistent.pending.kept stays.kept
    · rw [stays.current.1, stays.current.2]
      exact consistent.current.kept stays.kept
  refine ((held.and calls).and (beside.and stays)).imp ?_ ?_
  · rintro flow after ⟨⟨held, grown⟩, beside, stays, locked⟩
    exact ⟨handled after held grown beside stays, locked⟩
  · rintro after ⟨⟨held, grown⟩, beside, stays⟩
    exact handled after held grown beside stays

theorem acquireFlowFramebuffer_handled (consistent : Consistent setup world) :
    Ends (acquireFlowFramebuffer setup updateFlowFrame reply) world
      (fun flow after => FlowHandled setup world after ∧ Taken setup after flow)
      (FlowHandled setup world) := by
  have nothing : FlowHandled setup world world :=
    ⟨consistent.base.held, rfl, .same, consistent.pending, consistent.current, rfl⟩
  unfold acquireFlowFramebuffer
  split
  · rename_i back
    exact ends_pure ⟨nothing, .inr (.inr ⟨back, rfl⟩)⟩
  · split
    · refine (lockFlowFramebuffer_handled consistent).imp ?_ fun _ handled => handled
      rintro flow after ⟨handled, buffer, own, framed⟩
      have used : flow.framebuffer ≠ 0 :=
        framebuffer_used handled.held (handled.held.exist _ (flow_held framed))
      exact ⟨handled, .inr (.inl ⟨used, own ▸ framed⟩)⟩
    · refine (takePendingFlow_spec world).imp ?_ fun _ never => never.elim
      rintro flow after (⟨used, rfl, rfl⟩ | ⟨rfl, rfl⟩)
      · have kept : FlowKept world (withPending {} world) := ⟨List.Subset.refl _, .inl rfl⟩
        exact ⟨⟨withPending_held {} consistent.base.held, rfl, .same, .inl rfl,
          consistent.current.kept kept, rfl⟩, .inr (.inl ⟨used, consistent.pending.kept kept⟩)⟩
      · exact ⟨nothing, .inl ⟨rfl, rfl⟩⟩

end Kept

section Commits
variable {setup : Setup} {world after : World} {video : VideoPart} {flowFramebuffer : Nat}

/-- A commit turns recording neither on nor off. -/
theorem commit_recording (setup : Setup) (video : VideoPart) (flowFramebuffer : Nat)
    (nonblocking : Bool) (reply : CommitReply) :
    Leaves (commit setup video flowFramebuffer nonblocking reply)
      fun world => world.output.writeback.enabled := by
  have waits : Leaves (waitForPendingPageFlip reply)
      fun world => world.output.writeback.enabled := by
    intro world
    unfold waitForPendingPageFlip
    split
    · rfl
    · split <;> rfl
  have applies : ∀ request nonblocking, Leaves (applyRequest request nonblocking reply)
      fun world => world.output.writeback.enabled := by
    intro request nonblocking world
    unfold applyRequest
    split <;> rfl
  have finishes : ∀ capture, Leaves (finishWriteback capture reply)
      fun world => world.output.writeback.enabled := by
    intro capture
    unfold finishWriteback
    split
    · exact leaves_check.bind fun _ => leaves_check.bind fun _ => leaves_change fun _ => rfl
    · exact leaves_pure
  refine waits.bind fun _ => leaves_check.bind fun _ => leaves_read.bind fun world => ?_
  exact (applies _ _).bind fun _ => finishes _

/-- Without recording a commit is applied and succeeds, or changes nothing on display. -/
theorem commit_unrecorded (recording : world.output.writeback.enabled = false)
    (nonblocking : Bool) (reply : CommitReply) :
    Ends (commit setup video flowFramebuffer nonblocking reply) world
      (fun _ after => SameBuffers world after ∧ after.output.writeback.enabled = false ∧
        Applied setup video flowFramebuffer reply world after)
      (fun after => SameBuffers world after ∧ after.output.writeback.enabled = false ∧
        NotApplied setup video flowFramebuffer world after) := by
  have spec := commit_spec setup video flowFramebuffer nonblocking reply world
  have kept := (commit_recording setup video flowFramebuffer nonblocking reply).ends world
  refine (spec.and kept).imp ?_ ?_
  · rintro _ after ⟨⟨same, applied⟩, kept⟩
    exact ⟨same, kept.trans recording, applied⟩
  · rintro after ⟨⟨same, refused | ⟨⟨captures, _⟩, _⟩⟩, kept⟩
    · exact ⟨same, kept.trans recording, refused⟩
    · simp [captureWriteback, recording] at captures

/-- A commit that is refused leaves everything as it is. -/
theorem Consistent.refused (consistent : Consistent setup world) (held : Held setup after)
    (same : SameBuffers world after) (recording : after.output.writeback.enabled = false)
    (refused : NotApplied setup video flowFramebuffer world after) : Consistent setup after := by
  have planes : after.planes = world.planes := congrArg Prod.fst same.beside
  have flow : after.flow = world.flow := congrArg (fun parts => parts.2.2.1) same.beside
  have solidUi : after.solidUi = world.solidUi := congrArg (fun parts => parts.2.2.2) same.beside
  have calls : scanoutOf after.calls = scanoutOf world.calls ∧
      contentOf after.calls = contentOf world.calls := by
    rcases refused.calls with same | noted
    · rw [same]
      exact ⟨rfl, rfl⟩
    · rw [noted]
      exact ⟨rfl, rfl⟩
  refine ⟨⟨held, planes ▸ consistent.base.assigned, ?_⟩, ?_, ?_, ?_, recording, ?_⟩
  · intro plane scanout on
    rw [calls.1] at on
    rw [calls.2]
    exact consistent.base.backed plane scanout on
  · rw [flow]
    exact consistent.pending.kept (flowKept_of_eq flow)
  · rw [flow]
    exact consistent.current.kept (flowKept_of_eq flow)
  · rw [planes]
    exact consistent.readback
  · exact consistent.shown.same calls.1 planes refused.modeset (flow ▸ rfl) fun _ => solidUi

theorem Consistent.released (consistent : Consistent setup world) (buffer : Option LockedBuffer) :
    Consistent setup (releaseBuffer buffer world) := by
  have flow : (releaseBuffer buffer world).flow = world.flow :=
    part_of_state World.flow (fun _ => rfl) (releaseBuffer_state buffer world)
  refine consistent.handled ⟨releaseBuffer_held buffer consistent.base.held, ?_,
    releaseBuffer_grows buffer world, ?_, ?_, congrArg FlowBuffers.currentFramebuffer flow⟩
  · exact part_of_state besideFlow (fun _ => rfl) (releaseBuffer_state buffer world)
  · rw [flow]
    exact consistent.pending.kept (flowKept_of_eq flow)
  · rw [flow]
    exact consistent.current.kept (flowKept_of_eq flow)

end Commits

section Publishing
variable {setup : Setup} {world after : World}

/-- A buffer in memory comes, or comes and goes, and nothing on display changes. -/
theorem createDumbBuffer_scanouts (content : Content) (reply : DumbReply)
    (backed : Backed world.calls) :
    Ends (createDumbBuffer content reply) world
      (fun _ after => scanoutOf after.calls = scanoutOf world.calls)
      (fun after => scanoutOf after.calls = scanoutOf world.calls) := by
  refine (createDumbBuffer_spec content reply world).imp ?_ ?_
  · rintro buffer after ⟨_, _, rfl⟩
    rfl
  · rintro after (rfl | ⟨framebuffer, _, free, rfl⟩)
    · rfl
    · funext plane
      change (scanoutOf world.calls plane).filter (·.framebuffer ≠ framebuffer) =
        scanoutOf world.calls plane
      cases on : scanoutOf world.calls plane with
      | none => rfl
      | some scanout =>
        have exists_ := backed plane scanout on
        have other : scanout.framebuffer ≠ framebuffer := by
          intro same
          rw [same, free] at exists_
          cases exists_
        simp [other]

/-- The call leaves the planes and what they show, and the frames that are on their way. -/
structure Beside (world after : World) : Prop where
  planes : after.planes = world.planes
  output : after.output = world.output
  stays : FlowStays world after
  scanouts : scanoutOf after.calls = scanoutOf world.calls
  solidUi : world.output.modesetCommitted = true → after.solidUi = world.solidUi

theorem Consistent.beside (consistent : Consistent setup world) (beside : Beside world after)
    (held : Held setup after)
    (grown : Extends (handlesFramebuffers kind) world.calls after.calls) :
    Consistent setup after := by
  obtain ⟨planes, output, stays, scanouts, solidUi⟩ := beside
  refine ⟨⟨held, planes ▸ consistent.base.assigned, consistent.base.backed.framebuffers grown⟩,
    ?_, ?_, ?_, output ▸ consistent.recording, ?_⟩
  · rw [stays.pending.1, stays.pending.2]
    exact consistent.pending.kept stays.kept
  · rw [stays.current.1, stays.current.2]
    exact consistent.current.kept stays.kept
  · rw [planes]
    exact consistent.readback
  · exact consistent.shown.same scanouts planes (output ▸ rfl) stays.current.1 solidUi

/-- The pending frame makes way for a new one. -/
theorem Consistent.published (consistent : Consistent setup world) {flow : AcquiredFlow}
    (framed : Framed setup world flow.framebuffer flow.bo) :
    Consistent setup (publishFlow flow world) := by
  have released := consistent.released world.flow.pendingBo
  have same : (releaseBuffer world.flow.pendingBo world).flow = world.flow :=
    part_of_state World.flow (fun _ => rfl) (releaseBuffer_state _ world)
  have kept : FlowKept (releaseBuffer world.flow.pendingBo world) (publishFlow flow world) :=
    ⟨List.Subset.refl _, .inl rfl⟩
  refine released.handled ⟨withPending_held flow released.base.held, rfl, .same, ?_,
    released.current.kept kept, rfl⟩
  exact (framed.kept (flowKept_of_eq same)).kept kept

theorem publishRendered_consistent (consistent : Consistent setup world) :
    Ends (publishRenderedFlowFrame setup reply) world
      (fun _ after => Consistent setup after) (Consistent setup) := by
  refine Ends.bind ((lockFlowFramebuffer_handled consistent).imp (fun _ _ done => done)
    fun _ handled => consistent.handled handled) ?_
  rintro flow middle ⟨handled, buffer, own, framed⟩
  exact ends_change ((consistent.handled handled).published (own ▸ framed))

theorem ensureSolidFlow_consistent (consistent : Consistent setup world) :
    Ends (ensureSolidFlow reply) world
      (fun _ after => Consistent setup after) (Consistent setup) := by
  have held : Ends (ensureSolidFlow reply) world _ _ := ensureSolidFlow_held consistent.base.held
  have grown : Grows (ensureSolidFlow reply) World.calls (handlesFramebuffers (· = .solidFlow)) :=
    ensureSolidFlow_grows reply rfl
  have scanouts : Ends (ensureSolidFlow reply) world
      (fun _ after => scanoutOf after.calls = scanoutOf world.calls)
      (fun after => scanoutOf after.calls = scanoutOf world.calls) := by
    refine ends_read_bind ?_
    split
    · exact (createDumbBuffer_scanouts .solidFlow reply consistent.base.backed).bind
        fun _ _ same => ends_change same
    · exact ends_pure rfl
  have all := (held.and (grown.ends world)).and (scanouts.and
    ((ensureSolidFlow_stays reply world).and ((ensureSolidFlow_beside reply).ends world)))
  have goes : ∀ after, (Held setup after ∧
        Extends (handlesFramebuffers (· = .solidFlow)) world.calls after.calls) ∧
      scanoutOf after.calls = scanoutOf world.calls ∧ FlowStays world after ∧
        besideFlow after = besideFlow world → Consistent setup after := by
    rintro after ⟨⟨held, grown⟩, scanouts, stays, beside⟩
    exact consistent.beside ⟨congrArg Prod.fst beside, congrArg (fun parts => parts.2.2.2) beside,
      stays, scanouts, fun _ => congrArg (fun parts => parts.2.2.1) beside⟩ held grown
  exact all.imp (fun _ => goes) goes

theorem publishSolid_consistent (consistent : Consistent setup world) :
    Ends (publishSolidFlowFrame reply) world
      (fun _ after => Consistent setup after) (Consistent setup) := by
  refine (ensureSolidFlow_consistent consistent).bind fun _ after consistent => ends_read_bind ?_
  exact ends_check_bind (fun _ => ends_change (consistent.published (.inr rfl))) fun _ => consistent

/-- The UI buffer is created before anything is committed, or it is there. -/
theorem ensureSolidUi_consistent (consistent : Consistent setup world)
    (early : world.output.modesetCommitted = true → world.solidUi.framebuffer ≠ 0) :
    Ends (ensureSolidUi reply) world
      (fun _ after => Consistent setup after) (Consistent setup) := by
  have held : Ends (ensureSolidUi reply) world _ _ := ensureSolidUi_held consistent.base.held
  have grown : Grows (ensureSolidUi reply) World.calls (handlesFramebuffers (· = .solidUi)) :=
    ensureSolidUi_grows reply rfl
  have changes : Ends (ensureSolidUi reply) world
      (fun _ after => scanoutOf after.calls = scanoutOf world.calls ∧
        (world.output.modesetCommitted = true → after.solidUi = world.solidUi))
      (fun after => scanoutOf after.calls = scanoutOf world.calls ∧
        (world.output.modesetCommitted = true → after.solidUi = world.solidUi)) := by
    refine ends_read_bind ?_
    split
    · rename_i missing
      have first : ¬world.output.modesetCommitted = true :=
        fun committed => early committed (beq_iff_eq.1 missing)
      refine Ends.bind ((createDumbBuffer_scanouts .solidUi reply consistent.base.backed).imp
        (fun _ _ same => same) fun _ same => ⟨same, fun committed => absurd committed first⟩) ?_
      exact fun _ _ same => ends_change ⟨same, fun committed => absurd committed first⟩
    · exact ends_pure ⟨rfl, fun _ => rfl⟩
  have all := (held.and (grown.ends world)).and
    (changes.and ((ensureSolidUi_beside reply).ends world))
  have goes : ∀ after, (Held setup after ∧
        Extends (handlesFramebuffers (· = .solidUi)) world.calls after.calls) ∧
      (scanoutOf after.calls = scanoutOf world.calls ∧
        (world.output.modesetCommitted = true → after.solidUi = world.solidUi)) ∧
      besideUi after = besideUi world → Consistent setup after := by
    rintro after ⟨⟨held, grown⟩, ⟨scanouts, solidUi⟩, beside⟩
    exact consistent.beside ⟨congrArg Prod.fst beside, congrArg (fun parts => parts.2.2.2) beside,
      flowStays_of_eq (congrArg (fun parts => parts.2.2.1) beside), scanouts, solidUi⟩ held grown
  exact all.imp (fun _ => goes) goes

end Publishing

end Glide.DisplayConsistency
