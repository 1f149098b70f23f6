import Glide.DisplayConsistency

/-! Whether commits that leave out what is set already show what full ones would. Flow
and UI plane keep what the first commit gave them. The primary plane and the plane of the
video do so as long as the video stays where it is, and the UI as long as its buffer is
there from the start and its plane its own. -/
namespace Glide.IncrementalCommits
open Library Attempts Runs DrmCalls KmsPlanes KmsAtomicCompositor CompositorPhases ExclusivePlanes
open HeldFramebuffers FlowBufferOwnership FullCommits PreparedPlanes DisplayConsistency

/-- What a present that succeeds has to find on display, with the planes planned for it:
the primary buffer where it leaves the primary plane out, the UI plane apart from the one
for the video, and nothing on a plane that it neither uses nor clears. -/
structure Steady (setup : Setup) (world : World) (picture : Picture) (planned : PlaneAssignment) :
    Prop where
  primary : world.output.modesetCommitted = true →
    ¬(hasVideo world picture = true ∧ planned.videoOnPrimary = true) →
      scanoutOf world.calls setup.display.primary.id =
        some (scanoutFor setup.primaryFramebuffer setup.display.surface
          (fullSurface setup.display.surface))
  ui : uiUsed world → planned.videoPlaneId = world.planes.uiPlaneId →
    world.output.modesetCommitted = false ∧ hasVideo world picture = false
  others : ∀ plane scanout, scanoutOf world.calls plane = some scanout →
    plane = setup.display.primary.id ∨
      planned.videoPlaneId ≠ 0 ∧ plane = planned.videoPlaneId ∨
      world.planes.flowPlaneId ≠ 0 ∧ plane = world.planes.flowPlaneId ∨
      uiUsed world ∧ plane = world.planes.uiPlaneId ∨
      scanout.framebuffer ∈ droppedFramebuffers world picture

section Present
variable {setup : Setup} {world prepared after : World} {picture : Picture} {video : VideoPart}
  {flow : AcquiredFlow}

/-- What is steady before the call is set when it comes to its commit. -/
theorem setAlready_of_steady (consistent : Consistent setup world)
    (ready : Ready setup world picture report video prepared)
    (phase : Prepared setup world prepared) (beside : besidePicture prepared = besidePicture world)
    (settled : Consistent setup prepared) (handled : FlowHandled setup prepared after)
    (taken : Taken setup after flow)
    (steady : ∀ planned, plannedPlanes setup.display world.planes picture report = some planned →
      Steady setup world picture planned) :
    SetAlready setup after video flow.framebuffer := by
  obtain ⟨planned, planning, chosen⟩ := ready.planned
  have steady := steady planned planning
  have planes : after.planes = prepared.planes := congrArg Prod.fst handled.beside
  have output : after.output = world.output :=
    (congrArg (fun parts => parts.2.2.2) handled.beside).trans
      (congrArg (fun parts => parts.2.2) beside)
  have solidUi : after.solidUi = world.solidUi :=
    (congrArg (fun parts => parts.2.2.1) handled.beside).trans
      (congrArg (fun parts => parts.2.1) beside)
  have scanouts : scanoutOf after.calls = scanoutOf prepared.calls := scanoutOf_flow handled.grown
  have shown := (settled.handled handled).shown
  have now := fun committed => planes_settled consistent.shown committed phase.planes
    (chosen.ui.planned planning)
  refine ⟨fun committed elsewhere => ?_, fun committed again used => ?_, shown.ui,
    fun used same => ?_, fun plane scanout on => ?_⟩
  · rw [output] at committed
    rw [planes, chosen.onPrimary, ready.present] at elsewhere
    have before := steady.primary committed elsewhere
    have exists_ := phase.base.held.exist _ (mem_holdings.2 (.inl rfl))
    have background : primaryScanout setup after.planes video =
        scanoutFor setup.primaryFramebuffer setup.display.surface
          (fullSurface setup.display.surface) := by
      rw [primaryScanout, planes, chosen.onPrimary, ready.present]
      exact if_neg fun both => elsewhere (Bool.and_eq_true_iff.1 both)
    rw [scanouts, background]
    exact shown_kept phase.grown before exists_ id
  · have current := shown.flow committed used.2
    rw [if_neg used.1, ← again] at current
    exact current
  · rw [output]
    rw [planes] at same
    rcases chosen.ui with ⟨plane, _⟩ | ⟨_, _, apart⟩
    · rw [chosen.video, plane] at same
      have plane := plane.trans (planned_ui planning).1
      have before : uiUsed world := by
        rw [uiUsed, solidUi, planes, plane] at used
        exact used
      rw [ready.present]
      exact steady.ui before (same.trans (planned_ui planning).1)
    · exact absurd same.symm (apart (planes ▸ used.2))
  · have earlier : scanoutOf prepared.calls plane = some scanout := scanouts ▸ on
    have before := shown_before phase.grown earlier
    have committed : world.output.modesetCommitted = true := by
      apply Classical.byContradiction
      intro first
      rw [consistent.shown.idle (Bool.eq_false_iff.2 first) plane] at before
      cases before
    rcases steady.others plane scanout before with
      primary | video | ⟨placed, rfl⟩ | ⟨used, rfl⟩ | gone
    · exact .inl primary
    · rw [planes, chosen.video]
      exact .inr (.inl video)
    · have plane : after.planes.flowPlaneId = world.planes.flowPlaneId :=
        (congrArg PlaneAssignment.flowPlaneId planes).trans (now committed).1
      rw [← plane] at placed on
      have current := shown.flow (output ▸ committed) placed
      split at current
      · rw [current] at on
        cases on
      · rename_i framed
        refine .inr (.inr (.inl ⟨⟨?_, placed⟩, plane.symm⟩))
        rcases taken with ⟨again, _⟩ | ⟨other, _⟩ | ⟨back, _⟩
        · exact again ▸ framed
        · exact other
        · exact absurd ((settled.handled handled).readback back) placed
    · have plane : after.planes.uiPlaneId = world.planes.uiPlaneId :=
        (congrArg PlaneAssignment.uiPlaneId planes).trans (now committed).2.1
      rw [uiUsed, solidUi, plane]
      exact .inr (.inr (.inr ⟨used, rfl⟩))
    · obtain ⟨content, exists_⟩ := Option.isSome_iff_exists.1
        (phase.base.backed plane scanout earlier)
      have used := framebuffer_used phase.base.held exists_
      exact absurd gone (ready.off plane scanout earlier used)

/-- Where the state is shown in full, what the next call relies on is on display. -/
theorem onDisplay_of_fullyShown (apart : Apart setup.display world.planes)
    (full : FullyShown setup world) (committed : world.output.modesetCommitted = true)
    (has : HasFlowPlane setup world)
    (placed : hasUiSurface world.planes = true → world.planes.uiPlaneId ≠ 0) :
    OnDisplay setup world := by
  refine ⟨fun first => ?_, fun _ => has, fun _ => placed, fun _ used => ?_, fun _ => full.ui⟩
  · exact absurd (first.symm.trans committed) Bool.false_ne_true
  · split
    · rename_i none_
      exact full.off apart.flow (fun video => apart.flowVideo used video.2)
        (fun flow => flow.1.1 none_) fun ui => apart.flowUi used ui.2
    · rename_i framed
      exact full.flow ⟨framed, used⟩

/-- What is adopted after a commit, with the video that it showed. -/
structure Adopted (video : VideoPart) (flow : AcquiredFlow) (world after : World) : Prop where
  planes : after.planes = world.planes
  solidUi : after.solidUi = world.solidUi
  output : after.output = world.output
  video : currentVideo after = video
  flow : after.flow = if flow.framebuffer = world.flow.currentFramebuffer ∧ flow.bo = none then
    world.flow
    else { world.flow with
      currentFramebuffer := flow.framebuffer, currentBo := flow.bo,
      currentIsSolidDumb := flow.solidDumb }

theorem conclude_adopted (current : picture = .overlay → currentVideo world = video) :
    Adopted video flow world (conclude picture video flow true world) := by
  have adopts : ∀ world, currentVideo world = video →
      Adopted video flow world (adoptFlowFramebuffer flow world) := by
    intro world current
    have beside := adoptFlowFramebuffer_beside flow world
    refine ⟨congrArg Prod.fst beside, congrArg (fun parts => parts.2.2.1) beside,
      congrArg (fun parts => parts.2.2.2) beside, ?_, (adopt_state flow world).1⟩
    have kept : (adoptFlowFramebuffer flow world).video = world.video :=
      congrArg (fun parts => parts.2.1) beside
    rw [currentVideo, kept]
    exact current
  have remembered : Adopted video flow world
      (adoptFlowFramebuffer flow (rememberVideo video world)) :=
    let ⟨planes, solidUi, output, shown, flows⟩ := adopts (rememberVideo video world) rfl
    ⟨planes, solidUi, output, shown, flows⟩
  unfold conclude
  cases picture with
  | dmabuf frame => exact remembered
  | cpu frame => exact remembered
  | overlay => exact adopts world (current rfl)

theorem Adopted.current (adopted : Adopted video flow world after) :
    after.flow.currentFramebuffer = flow.framebuffer := by
  rw [adopted.flow]
  split
  · rename_i again
    exact again.1.symm
  · rfl

/-- The frames keep their buffers when one of them becomes current. -/
theorem Adopted.framed (adopted : Adopted video flow world after)
    (pending : Framed setup world world.flow.pendingFramebuffer world.flow.pendingBo)
    (current : Framed setup world world.flow.currentFramebuffer world.flow.currentBo)
    (taken : Taken setup world flow) :
    Framed setup after after.flow.pendingFramebuffer after.flow.pendingBo ∧
      Framed setup after after.flow.currentFramebuffer after.flow.currentBo := by
  have kept : FlowKept world after := by
    have flow := adopted.flow
    split at flow
    · exact flowKept_of_eq flow
    · exact ⟨flow ▸ List.Subset.refl _, .inl (flow ▸ rfl)⟩
  rw [adopted.flow]
  split
  · exact ⟨pending.kept kept, current.kept kept⟩
  · rename_i other
    refine ⟨pending.kept kept, ?_⟩
    rcases taken with again | ⟨_, framed⟩ | ⟨_, nothing⟩
    · exact absurd again other
    · exact framed.kept kept
    · subst nothing
      exact .inl rfl

/-- A commit that is applied shows the whole state, and leaves it consistent. -/
theorem applied_shown {committed : World} (consistent : Consistent setup world)
    (already : SetAlready setup world video flow.framebuffer) (has : HasFlowPlane setup world)
    (placed : hasUiSurface world.planes = true → world.planes.uiPlaneId ≠ 0)
    (taken : Taken setup world flow) (current : picture = .overlay → currentVideo world = video)
    (held : Held setup (conclude picture video flow true committed))
    (same : SameBuffers world committed) (recording : committed.output.writeback.enabled = false)
    (applied : Applied setup video flow.framebuffer reply world committed) :
    Consistent setup (conclude picture video flow true committed) ∧
      FullyShown setup (conclude picture video flow true committed) := by
  have planes : committed.planes = world.planes := congrArg Prod.fst same.beside
  have flows : committed.flow = world.flow := congrArg (fun parts => parts.2.2.1) same.beside
  have solidUi : committed.solidUi = world.solidUi :=
    congrArg (fun parts => parts.2.2.2) same.beside
  have kept : currentVideo committed = currentVideo world := by
    have videos : committed.video = world.video := congrArg (fun parts => parts.2.1) same.beside
    rw [currentVideo, videos]
    rfl
  have adopted : Adopted video flow committed (conclude picture video flow true committed) :=
    conclude_adopted fun overlay => kept.trans (current overlay)
  have grown : Extends handlesFlowFrames committed.calls
    (conclude picture video flow true committed).calls :=
    conclude_grows picture video flow true committed
  have assigned : (conclude picture video flow true committed).planes = world.planes :=
    adopted.planes.trans planes
  have stays : FlowKept world committed := flowKept_of_eq flows
  have shows : Shows setup world (conclude picture video flow true committed) video
      flow.framebuffer := by
    refine ⟨fun plane => ?_, assigned, adopted.video, adopted.current,
      adopted.solidUi.trans solidUi⟩
    rw [scanoutOf_flow grown, applied.calls]
    exact if_pos rfl
  have apart := consistent.base.assigned.apart
  have full := fullyShown_of_commit apart already shows
  obtain ⟨pending, shown⟩ := adopted.framed (by rw [flows]; exact consistent.pending.kept stays)
    (by rw [flows]; exact consistent.current.kept stays) (taken.kept stays (flows ▸ rfl))
  have backed : Backed committed.calls := by
    rw [applied.calls]
    exact consistent.base.backed.request (named_of_reached applied.reached)
  refine ⟨⟨⟨held, assigned ▸ consistent.base.assigned, backed.flow grown⟩, pending, shown, ?_,
    adopted.output ▸ recording, ?_⟩, full⟩
  · rw [assigned]
    exact consistent.readback
  · refine onDisplay_of_fullyShown (assigned ▸ apart) full (adopted.output ▸ applied.modeset) ?_ ?_
    · rw [HasFlowPlane, assigned]
      exact has
    · rw [assigned]
      exact placed

/-- A present keeps what the next one relies on. One that succeeds from a steady state
shows the whole state. -/
theorem present_consistent (consistent : Consistent setup world) :
    Ends (present setup picture updateFlowFrame reply) world
      (fun _ after => (∀ planned, plannedPlanes setup.display world.planes picture
          reply.videoPlanes = some planned → Steady setup world picture planned) →
        Consistent setup after ∧ FullyShown setup after)
      (Consistent setup) := by
  have spec := (prepare_ready consistent.base.held).and
    ((prepare_spec consistent.base).and ((prepare_beside setup picture reply).ends world))
  refine Ends.bind (spec.imp (fun _ _ done => done) fun after failed =>
    consistent.prepared failed.2.1 failed.1 failed.2.2) ?_
  rintro video prepared ⟨ready, ⟨phase, has⟩, beside⟩
  obtain ⟨planned, planning, chosen⟩ := ready.planned
  have settled := consistent.prepared phase (chosen.ui.planned planning) beside
  refine Ends.bind ((acquireFlowFramebuffer_handled settled).imp (fun _ _ done => done)
    fun _ handled => settled.handled handled) ?_
  rintro flow acquired ⟨handled, taken⟩
  have waiting := settled.handled handled
  have planes : acquired.planes = prepared.planes := congrArg Prod.fst handled.beside
  have videos : acquired.video = prepared.video := congrArg (fun parts => parts.2.1) handled.beside
  refine showPicture_ends (((commit_unrecorded waiting.recording _ _).and
    (commit_held waiting.base.held)).imp ?_ ?_)
  · rintro _ committed ⟨⟨same, recording, applied⟩, held⟩ steady
    have already := setAlready_of_steady consistent ready phase beside settled handled taken steady
    refine applied_shown waiting already ?_ ?_ taken (fun overlay => ?_)
      (conclude_held picture video flow true held) same recording applied
    · rw [HasFlowPlane, planes]
      exact has
    · rw [planes]
      exact chosen.placed
    · rw [currentVideo, videos]
      exact ready.current overlay
  · rintro after ⟨⟨same, recording, refused⟩, held⟩
    exact (waiting.refused held same recording refused).released flow.bo

end Present

/-- The call creates the UI buffer. -/
def createsUi (world : World) : Event → Bool
  | .publishSolidUiFrame _ => hasUiSurface world.planes && world.solidUi.framebuffer == 0
  | .publishUiFrameFromArgb hasPixels width height strideBytes _ =>
    hasPixels && hasUiSurface world.planes && width == world.planes.uiSurface.1 &&
      height == world.planes.uiSurface.2 && width * 4 % 2 ^ 32 ≤ strideBytes &&
      world.solidUi.framebuffer == 0
  | _ => false

/-- The call returns true. -/
def succeeds (setup : Setup) (world : World) (event : Event) : Bool :=
  (perform setup event world).1.isSome

/-- Where a present succeeds the planes were steady, and the UI buffer is created before
anything is committed. -/
def KeepsPlanes (setup : Setup) (world : World) : Event → Prop
  | .present picture updateFlowFrame reply =>
    succeeds setup world (.present picture updateFlowFrame reply) = true → ∀ planned,
      plannedPlanes setup.display world.planes picture reply.videoPlanes = some planned →
        Steady setup world picture planned
  | event => createsUi world event = true → world.output.modesetCommitted = false

/-- After a present that succeeds the planes show the whole state, as a full commit would
set them. -/
def ShownInFull (setup : Setup) (world : World) : Event → Prop
  | .present picture updateFlowFrame reply =>
    let event := Event.present picture updateFlowFrame reply
    succeeds setup world event = true → FullyShown setup (step setup world event) ∧
      ∀ plane, scanoutOf (step setup world event).calls plane =
        (updateOf (fullCommit setup (step setup world event)).updates plane).join
  | _ => True

/-- The call is about recording what is shown. -/
def records : Event → Bool
  | .enableWritebackRecording _ _ _ _ => true
  | _ => false

section Runs
variable {setup : Setup} {world : World}

theorem publishUi_consistent (consistent : Consistent setup world)
    (early : createsUi world (.publishSolidUiFrame reply) = true →
      world.output.modesetCommitted = false) :
    Ends (publishSolidUiFrame reply) world
      (fun _ after => Consistent setup after) (Consistent setup) := by
  refine ends_read_bind (ends_check_bind (fun surface => ?_) fun _ => consistent)
  refine (ensureSolidUi_consistent consistent fun committed none_ => ?_).bind
    fun _ _ consistent => ends_read_bind (ends_check (fun _ => consistent) fun _ => consistent)
  have first := early (by simp [createsUi, surface, none_])
  exact absurd (first.symm.trans committed) Bool.false_ne_true

theorem publishUiFromArgb_consistent (consistent : Consistent setup world)
    (early : createsUi world (.publishUiFrameFromArgb hasPixels width height strideBytes reply) =
      true → world.output.modesetCommitted = false) :
    Ends (publishUiFrameFromArgb hasPixels width height strideBytes reply) world
      (fun _ after => Consistent setup after) (Consistent setup) := by
  refine ends_check_bind (fun pixels => ends_read_bind ?_) fun _ => consistent
  split
  · rename_i surface
    refine ends_check_bind (fun sizes => ?_) fun _ => consistent
    refine ends_check_bind (fun stride => ?_) fun _ => consistent
    refine (ensureSolidUi_consistent consistent fun committed none_ => ?_).bind
      fun _ _ consistent => ends_read_bind (ends_check (fun _ => consistent) fun _ => consistent)
    have first := early (by
      simp only [createsUi, Bool.and_eq_true, beq_iff_eq, decide_eq_true_eq]
      exact ⟨⟨⟨⟨⟨pixels, surface⟩, sizes.1⟩, sizes.2⟩, stride⟩, none_⟩)
    exact absurd (first.symm.trans committed) Bool.false_ne_true
  · exact ends_pure consistent

/-- A present that succeeds from a steady state shows the state, and all stays consistent. -/
theorem present_shown (consistent : Consistent setup world)
    (kept : KeepsPlanes setup world (.present picture updateFlowFrame reply)) :
    Consistent setup (step setup world (.present picture updateFlowFrame reply)) ∧
      (succeeds setup world (.present picture updateFlowFrame reply) = true →
        FullyShown setup (step setup world (.present picture updateFlowFrame reply))) := by
  have spec : Ends (present setup picture updateFlowFrame reply) world _ _ :=
    present_consistent consistent
  unfold Ends at spec
  unfold KeepsPlanes at kept
  unfold succeeds step perform at *
  dsimp only at *
  cases made : present setup picture updateFlowFrame reply world with
  | mk result after =>
    rw [made] at spec kept
    cases result with
    | none => exact ⟨spec, fun done => nomatch done⟩
    | some _ => exact ⟨(spec (kept rfl)).1, fun _ => (spec (kept rfl)).2⟩

theorem step_consistent (event : Event) (consistent : Consistent setup world)
    (playing : records event = false) (kept : KeepsPlanes setup world event) :
    Consistent setup (step setup world event) := by
  cases event with
  | present picture updateFlowFrame reply => exact (present_shown consistent kept).1
  | publishRenderedFlowFrame reply => exact (publishRendered_consistent consistent).after
  | publishSolidFlowFrame reply => exact (publishSolid_consistent consistent).after
  | publishSolidUiFrame reply => exact (publishUi_consistent consistent kept).after
  | publishUiFrameFromArgb hasPixels width height strideBytes reply =>
    exact (publishUiFromArgb_consistent consistent kept).after
  | enableWritebackRecording hasPath everyNFrames maxFrames reply => cases playing
  | setVblankWaitEnabled enabled =>
    have held := step_held (.setVblankWaitEnabled enabled) consistent.base.held
    exact ⟨⟨held, consistent.base.assigned, consistent.base.backed⟩, consistent.pending,
      consistent.current, consistent.readback, consistent.recording,
      consistent.shown.same rfl rfl rfl rfl fun _ => rfl⟩

theorem step_shown (event : Event) (consistent : Consistent setup world)
    (playing : records event = false) (kept : KeepsPlanes setup world event) :
    ShownInFull setup world event := by
  have later := step_consistent event consistent playing kept
  cases event with
  | present picture updateFlowFrame reply =>
    intro done
    have full := (present_shown consistent kept).2 done
    exact ⟨full, full.agrees later.base.assigned.apart⟩
  | publishRenderedFlowFrame reply => trivial
  | publishSolidFlowFrame reply => trivial
  | publishSolidUiFrame reply => trivial
  | publishUiFrameFromArgb hasPixels width height strideBytes reply => trivial
  | enableWritebackRecording hasPath everyNFrames maxFrames reply => trivial
  | setVblankWaitEnabled enabled => trivial

theorem create_consistent (setup : Setup) (uiSurface : Nat × Nat) :
    Consistent setup (create setup uiSurface) where
  base := (start_sound setup uiSurface).base
  pending := .inl rfl
  current := .inl rfl
  readback := fun _ => rfl
  recording := rfl
  shown := by
    refine ⟨fun _ _ => rfl, fun committed => ?_, fun committed => ?_, fun committed => ?_,
      fun committed => ?_⟩
    all_goals cases committed

/-- Every present that succeeds leaves the planes as a full commit would set them, in
every run in which the planes were steady before each of them. -/
theorem planes_shown_in_full_while_steady (setup : Setup) (uiSurface : Nat × Nat)
    (events : List Event) (playing : ∀ event ∈ events, records event = false)
    (kept : Meets (step setup) (KeepsPlanes setup) (create setup uiSurface) events) :
    Meets (step setup) (ShownInFull setup) (create setup uiSurface) events :=
  meets_of_meets events
    (fun _ event among consistent => step_consistent event consistent (playing event among))
    (fun _ event among consistent => step_shown event consistent (playing event among))
    (create_consistent setup uiSurface) kept

end Runs

/-- The planes that requests have named so far. -/
def namedPlanes : List DeviceCall → List Nat
  | [] => []
  | .atomicRequest request _ :: earlier => request.updates.map (·.1) ++ namedPlanes earlier
  | _ :: earlier => namedPlanes earlier

/-- Only a plane that was named shows anything. -/
theorem shown_named (on : scanoutOf calls plane = some scanout) : plane ∈ namedPlanes calls := by
  induction calls generalizing scanout with
  | nil => cases on
  | cons call earlier ih =>
    cases call with
    | atomicRequest request applied =>
      rw [scanoutOf] at on
      split at on
      · cases updated : updateOf request.updates plane with
        | some new =>
          exact List.mem_append_left _ (List.mem_map.2 ⟨_, updateOf_mem updated, rfl⟩)
        | none =>
          rw [updated] at on
          exact List.mem_append_right _ (ih on)
      · exact List.mem_append_right _ (ih on)
    | removeFramebuffer removed named => exact ih (Option.filter_eq_some_iff.1 on).1
    | addFramebuffer added content => exact ih on
    | primeImport fd handle => exact ih on
    | gemClose handle => exact ih on
    | lockFrontBuffer buffer => exact ih on
    | releaseBuffer buffer flowPlane => exact ih on

theorem shown_all {holds : Nat → Scanout → Bool} :
    ((namedPlanes calls).all fun plane => (scanoutOf calls plane).all (holds plane)) = true ↔
      ∀ plane scanout, scanoutOf calls plane = some scanout → holds plane scanout = true := by
  simp only [List.all_eq_true, Option.all_eq_true]
  exact ⟨fun all plane scanout on => all plane (shown_named on) scanout on,
    fun all plane _ scanout on => all plane scanout on⟩

instance (world : World) : Decidable (uiUsed world) := inferInstanceAs (Decidable (_ ∧ _))

/-- Whether a plane is one that a present with these planes uses or clears. -/
def isTended (setup : Setup) (world : World) (picture : Picture) (planned : PlaneAssignment)
    (plane : Nat) (scanout : Scanout) : Bool :=
  plane == setup.display.primary.id ||
    planned.videoPlaneId != 0 && plane == planned.videoPlaneId ||
    world.planes.flowPlaneId != 0 && plane == world.planes.flowPlaneId ||
    decide (uiUsed world) && plane == world.planes.uiPlaneId ||
    (droppedFramebuffers world picture).contains scanout.framebuffer

theorem steady_iff (setup : Setup) (world : World) (picture : Picture) (planned : PlaneAssignment) :
    Steady setup world picture planned ↔
      (world.output.modesetCommitted = true →
        ¬(hasVideo world picture = true ∧ planned.videoOnPrimary = true) →
          scanoutOf world.calls setup.display.primary.id =
            some (scanoutFor setup.primaryFramebuffer setup.display.surface
              (fullSurface setup.display.surface))) ∧
      (uiUsed world → planned.videoPlaneId = world.planes.uiPlaneId →
        world.output.modesetCommitted = false ∧ hasVideo world picture = false) ∧
      ((namedPlanes world.calls).all fun plane => (scanoutOf world.calls plane).all
        (isTended setup world picture planned plane)) = true := by
  rw [shown_all]
  simp only [isTended, Bool.or_eq_true, Bool.and_eq_true, beq_iff_eq, bne_iff_ne,
    decide_eq_true_eq, List.contains_iff_mem, or_assoc]
  exact ⟨fun steady => ⟨steady.primary, steady.ui, steady.others⟩,
    fun ⟨primary, ui, others⟩ => ⟨primary, ui, others⟩⟩

instance (setup : Setup) (world : World) (picture : Picture) (planned : PlaneAssignment) :
    Decidable (Steady setup world picture planned) :=
  decidable_of_iff _ (steady_iff setup world picture planned).symm

instance (setup : Setup) (world : World) :
    (event : Event) → Decidable (KeepsPlanes setup world event)
  | .present picture updateFlowFrame reply =>
    inferInstanceAs (Decidable
      (succeeds setup world (.present picture updateFlowFrame reply) = true → ∀ planned ∈
        plannedPlanes setup.display world.planes picture reply.videoPlanes,
          Steady setup world picture planned))
  | .publishRenderedFlowFrame _ => inferInstanceAs (Decidable (_ → _))
  | .publishSolidFlowFrame _ => inferInstanceAs (Decidable (_ → _))
  | .publishSolidUiFrame _ => inferInstanceAs (Decidable (_ → _))
  | .publishUiFrameFromArgb _ _ _ _ _ => inferInstanceAs (Decidable (_ → _))
  | .enableWritebackRecording _ _ _ _ => inferInstanceAs (Decidable (_ → _))
  | .setVblankWaitEnabled _ => inferInstanceAs (Decidable (_ → _))

/-- With a UI buffer from the start, a CPU frame comes, a larger one, and the overlays alone. -/
def earlyUi : List Event :=
  [.publishSolidUiFrame {}, .publishSolidFlowFrame { framebuffer := some 2 },
    .present .overlay false {}, .present (.cpu ⟨640, 480, 2560, true⟩) false {},
    .present (.cpu ⟨800, 600, 3200, true⟩) false {}, .present .overlay false {}]

theorem early_ui_shown :
    Meets (step (plainSetup separatePlanes)) (ShownInFull (plainSetup separatePlanes))
      (create (plainSetup separatePlanes) (640, 360)) earlyUi := by
  apply planes_shown_in_full_while_steady
  · decide
  · decide +kernel

/-- The UI frame comes after the overlays were shown without it. -/
def lateUi : List Event :=
  [.present .overlay true {}, .publishSolidUiFrame {}, .present .overlay false {}]

theorem late_ui_not_shown :
    ¬Meets (step (plainSetup separatePlanes)) (ShownInFull (plainSetup separatePlanes))
      (create (plainSetup separatePlanes) (640, 360)) lateUi := by
  intro shown
  have last := (shown.2.2.1 (by decide +kernel)).1.ui (by decide +kernel)
  revert last
  decide +kernel

end Glide.IncrementalCommits
