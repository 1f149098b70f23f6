import Glide.AtomicRequests

/-! What a full commit of the compositor's state would set: every plane it uses with
what it is to show, and no other plane. The list of planes and the request that a first
commit builds come to the same. -/
namespace Glide.FullCommits
open Library Attempts DrmCalls KmsPlanes KmsAtomicCompositor CompositorPhases ExclusivePlanes
open AtomicRequests

/-- The video framebuffer that the compositor remembers, with the size of its frame. -/
def currentVideo (world : World) : VideoPart :=
  ⟨world.video.currentFramebuffer, world.video.currentWidth, world.video.currentHeight⟩

/-- The video has a plane of its own. -/
def videoBeside (planes : PlaneAssignment) (video : VideoPart) : Prop :=
  video.present = true ∧ planes.videoOnPrimary = false

/-- The Flow plane has a frame to show. -/
def flowUsed (world : World) : Prop :=
  world.flow.currentFramebuffer ≠ 0 ∧ world.planes.flowPlaneId ≠ 0

/-- There is a UI buffer, and a plane for it. -/
def uiUsed (world : World) : Prop := world.solidUi.framebuffer ≠ 0 ∧ world.planes.uiPlaneId ≠ 0

/-- Every plane in use shows what the state says, and no other plane is enabled. -/
structure FullyShown (setup : Setup) (world : World) : Prop where
  primary : scanoutOf world.calls setup.display.primary.id =
    some (primaryScanout setup world.planes (currentVideo world))
  video : videoBeside world.planes (currentVideo world) →
    scanoutOf world.calls world.planes.videoPlaneId = some (videoScanout setup (currentVideo world))
  flow : flowUsed world → scanoutOf world.calls world.planes.flowPlaneId =
    some (flowScanout setup world.flow.currentFramebuffer)
  ui : uiUsed world → scanoutOf world.calls world.planes.uiPlaneId =
    some (uiScanout world.planes world.solidUi.framebuffer)
  others : ∀ plane scanout, scanoutOf world.calls plane = some scanout →
    plane = setup.display.primary.id ∨
      videoBeside world.planes (currentVideo world) ∧ plane = world.planes.videoPlaneId ∨
      flowUsed world ∧ plane = world.planes.flowPlaneId ∨
      uiUsed world ∧ plane = world.planes.uiPlaneId

/-- The state with nothing taken for set already. -/
def uncommitted (world : World) : World :=
  withOutput { world.output with modesetCommitted := false } world

/-- The request that shows the whole state. -/
def fullCommit (setup : Setup) (world : World) : Request :=
  atomicRequest setup (uncommitted world) (currentVideo world) world.flow.currentFramebuffer

section Updates
variable {setup : Setup} {world : World} {video : VideoPart}

theorem primaryUpdate_named (named : world.output.modesetCommitted = false ∨
      video.present = true ∧ world.planes.videoOnPrimary = true) :
    primaryUpdate setup world video =
      [(setup.display.primary.id, some (primaryScanout setup world.planes video))] := by
  apply if_pos
  rcases named with first | ⟨shown, onPrimary⟩
  · simp [first]
  · simp [shown, onPrimary]

theorem primaryUpdate_skipped (committed : world.output.modesetCommitted = true)
    (elsewhere : ¬(video.present = true ∧ world.planes.videoOnPrimary = true)) :
    primaryUpdate setup world video = [] := by
  apply if_neg
  simpa [committed] using elsewhere

theorem videoUpdate_beside (beside : videoBeside world.planes video) :
    videoUpdate setup world video =
      [(world.planes.videoPlaneId, some (videoScanout setup video))] := by
  simp [videoUpdate, beside.1, beside.2]

/-- Without a plane of its own the video is at most turned off. -/
theorem videoUpdate_off (elsewhere : ¬videoBeside world.planes video) :
    videoUpdate setup world video =
      if world.planes.videoPlaneId ≠ 0 ∧ world.planes.videoOnPrimary = false then
        [(world.planes.videoPlaneId, none)] else [] := by
  unfold videoUpdate
  cases onPrimary : world.planes.videoOnPrimary with
  | true => simp [onPrimary]
  | false =>
    have absent : video.present = false :=
      Bool.eq_false_iff.2 fun shown => elsewhere ⟨shown, onPrimary⟩
    simp [onPrimary, absent]

theorem flowUpdate_named (used : flowFramebuffer ≠ 0) (placed : world.planes.flowPlaneId ≠ 0)
    (new : world.output.modesetCommitted = false ∨
      flowFramebuffer ≠ world.flow.currentFramebuffer) :
    flowUpdate setup world flowFramebuffer =
      [(world.planes.flowPlaneId, some (flowScanout setup flowFramebuffer))] := by
  apply if_pos
  simpa [used, placed] using new

theorem flowUpdate_skipped (same : flowFramebuffer = 0 ∨ world.planes.flowPlaneId = 0 ∨
      world.output.modesetCommitted = true ∧ flowFramebuffer = world.flow.currentFramebuffer) :
    flowUpdate setup world flowFramebuffer = [] := by
  apply if_neg
  rcases same with unused | unplaced | ⟨committed, again⟩
  · simp [unused]
  · simp [unplaced]
  · simp [committed, again]

theorem uiUpdate_named (used : uiUsed world) (first : world.output.modesetCommitted = false) :
    uiUpdate world = [(world.planes.uiPlaneId,
      some (uiScanout world.planes world.solidUi.framebuffer))] := by
  apply if_pos
  simp [used.1, used.2, first]

theorem uiUpdate_skipped (unused : ¬uiUsed world ∨ world.output.modesetCommitted = true) :
    uiUpdate world = [] := by
  apply if_neg
  rcases unused with unused | committed
  · simp only [uiUsed, ne_eq, not_and_or, not_not] at unused
    rcases unused with none_ | unplaced
    · simp [none_]
    · simp [unplaced]
  · simp [committed]

end Updates

theorem updateOf_other (other : plane ≠ wanted) : updateOf [(plane, new)] wanted = none :=
  if_neg other

section Agreement
variable {setup : Setup} {world : World}

theorem uiUpdate_elsewhere (other : ¬(uiUsed world ∧ plane = world.planes.uiPlaneId)) :
    updateOf (uiUpdate (uncommitted world)) plane = none :=
  updateOf_elsewhere fun update named same => by
    have used : uiUsed world := by
      apply Classical.byContradiction
      intro unused
      have none_ : uiUpdate (uncommitted world) = [] := uiUpdate_skipped (.inl unused)
      rw [none_] at named
      cases named
    exact other ⟨used, same.symm.trans (uiUpdate_plane named).1⟩

theorem flowUpdate_elsewhere (other : ¬(flowUsed world ∧ plane = world.planes.flowPlaneId)) :
    updateOf (flowUpdate setup (uncommitted world) world.flow.currentFramebuffer) plane = none :=
  updateOf_elsewhere fun update named same => by
    obtain ⟨placed, used⟩ := flowUpdate_plane named
    by_cases shown : world.flow.currentFramebuffer = 0
    · rw [flowUpdate_skipped (.inl shown)] at named
      cases named
    · exact other ⟨⟨shown, used⟩, same.symm.trans placed⟩

/-- A plane that nothing uses is off. -/
theorem FullyShown.off (shown : FullyShown setup world) (primary : plane ≠ setup.display.primary.id)
    (video : ¬(videoBeside world.planes (currentVideo world) ∧ plane = world.planes.videoPlaneId))
    (flow : ¬(flowUsed world ∧ plane = world.planes.flowPlaneId))
    (ui : ¬(uiUsed world ∧ plane = world.planes.uiPlaneId)) :
    scanoutOf world.calls plane = none := by
  cases on : scanoutOf world.calls plane with
  | none => rfl
  | some scanout =>
    rcases shown.others plane scanout on with same | same | same | same
    · exact absurd same primary
    · exact absurd same video
    · exact absurd same flow
    · exact absurd same ui

/-- Where every plane shows what it should, a full commit would change nothing. -/
theorem FullyShown.agrees (shown : FullyShown setup world)
    (apart : Apart setup.display world.planes) (plane : Nat) :
    scanoutOf world.calls plane = (updateOf (fullCommit setup world).updates plane).join := by
  rw [fullCommit, updateOf_request]
  by_cases onUi : uiUsed world ∧ plane = world.planes.uiPlaneId
  · obtain ⟨used, rfl⟩ := onUi
    have named : uiUpdate (uncommitted world) = [(world.planes.uiPlaneId,
        some (uiScanout world.planes world.solidUi.framebuffer))] := uiUpdate_named used rfl
    rw [named, updateOf_single, shown.ui used]
    rfl
  by_cases onFlow : flowUsed world ∧ plane = world.planes.flowPlaneId
  · obtain ⟨used, rfl⟩ := onFlow
    have named : flowUpdate setup (uncommitted world) world.flow.currentFramebuffer =
        [(world.planes.flowPlaneId, some (flowScanout setup world.flow.currentFramebuffer))] :=
      flowUpdate_named used.1 used.2 (.inl rfl)
    rw [uiUpdate_elsewhere onUi, Option.none_or, named, updateOf_single, shown.flow used]
    rfl
  rw [uiUpdate_elsewhere onUi, flowUpdate_elsewhere onFlow, Option.none_or, Option.none_or]
  have primary : primaryUpdate setup (uncommitted world) (currentVideo world) =
      [(setup.display.primary.id, some (primaryScanout setup world.planes (currentVideo world)))] :=
    primaryUpdate_named (.inl rfl)
  rw [primary]
  by_cases onPrimary : plane = setup.display.primary.id
  · subst onPrimary
    have video : updateOf (videoUpdate setup (uncommitted world) (currentVideo world))
        setup.display.primary.id = none := videoUpdate_not_primary apart
    rw [video, Option.none_or, updateOf_single, shown.primary]
    rfl
  rw [updateOf_other fun same => onPrimary same.symm, Option.or_none]
  by_cases beside : videoBeside world.planes (currentVideo world)
  · have named : videoUpdate setup (uncommitted world) (currentVideo world) =
        [(world.planes.videoPlaneId, some (videoScanout setup (currentVideo world)))] :=
      videoUpdate_beside beside
    rw [named]
    by_cases onVideo : plane = world.planes.videoPlaneId
    · subst onVideo
      rw [updateOf_single, shown.video beside]
      rfl
    · rw [updateOf_other fun same => onVideo same.symm]
      exact shown.off onPrimary (fun both => onVideo both.2) onFlow onUi
  · have left : videoUpdate setup (uncommitted world) (currentVideo world) =
        if world.planes.videoPlaneId ≠ 0 ∧ world.planes.videoOnPrimary = false then
          [(world.planes.videoPlaneId, none)] else [] := videoUpdate_off beside
    rw [left, shown.off onPrimary (fun both => beside both.1) onFlow onUi]
    split
    · by_cases onVideo : world.planes.videoPlaneId = plane
      · simp [updateOf, onVideo]
      · simp [updateOf, onVideo]
    · rfl

/-- What the planes show that the request of the state leaves out, or names twice. -/
structure SetAlready (setup : Setup) (world : World) (video : VideoPart) (flowFramebuffer : Nat) :
    Prop where
  primary : world.output.modesetCommitted = true →
    ¬(video.present = true ∧ world.planes.videoOnPrimary = true) →
      scanoutOf world.calls setup.display.primary.id =
        some (primaryScanout setup world.planes video)
  flow : world.output.modesetCommitted = true → flowFramebuffer = world.flow.currentFramebuffer →
    flowUsed world → scanoutOf world.calls world.planes.flowPlaneId =
      some (flowScanout setup flowFramebuffer)
  ui : world.output.modesetCommitted = true → uiUsed world →
    scanoutOf world.calls world.planes.uiPlaneId =
      some (uiScanout world.planes world.solidUi.framebuffer)
  uiApart : uiUsed world → world.planes.videoPlaneId = world.planes.uiPlaneId →
    world.output.modesetCommitted = false ∧ video.present = false
  others : ∀ plane scanout, scanoutOf world.calls plane = some scanout →
    plane = setup.display.primary.id ∨
      world.planes.videoPlaneId ≠ 0 ∧ plane = world.planes.videoPlaneId ∨
      (flowFramebuffer ≠ 0 ∧ world.planes.flowPlaneId ≠ 0) ∧ plane = world.planes.flowPlaneId ∨
      uiUsed world ∧ plane = world.planes.uiPlaneId

/-- The state after a commit, with what was committed for current. -/
structure Shows (setup : Setup) (world after : World) (video : VideoPart) (flowFramebuffer : Nat) :
    Prop where
  scanouts : ∀ plane, scanoutOf after.calls plane =
    (updateOf (atomicRequest setup world video flowFramebuffer).updates plane).getD
      (scanoutOf world.calls plane)
  planes : after.planes = world.planes
  video : currentVideo after = video
  flow : after.flow.currentFramebuffer = flowFramebuffer
  solidUi : after.solidUi = world.solidUi

section Committed
variable {after : World} {video : VideoPart} {flowFramebuffer : Nat}

theorem shown_primary (apart : Apart setup.display world.planes)
    (already : SetAlready setup world video flowFramebuffer)
    (shows : Shows setup world after video flowFramebuffer) :
    scanoutOf after.calls setup.display.primary.id =
      some (primaryScanout setup world.planes video) := by
  rw [shows.scanouts, primary_updated apart]
  by_cases named : world.output.modesetCommitted = false ∨
      video.present = true ∧ world.planes.videoOnPrimary = true
  · rw [primaryUpdate_named named, updateOf_single]
    rfl
  · rw [not_or, Bool.not_eq_false] at named
    rw [primaryUpdate_skipped named.1 named.2]
    exact already.primary named.1 named.2

/-- The UI plane is named by its own part or by none. -/
theorem ui_updated (apart : Apart setup.display world.planes) (used : uiUsed world)
    (uiApart : world.planes.videoPlaneId = world.planes.uiPlaneId →
      world.output.modesetCommitted = false) :
    updateOf (atomicRequest setup world video flowFramebuffer).updates world.planes.uiPlaneId =
      if world.output.modesetCommitted = true then none
      else some (some (uiScanout world.planes world.solidUi.framebuffer)) := by
  rw [updateOf_request]
  split
  · rename_i committed
    have flow : updateOf (flowUpdate setup world flowFramebuffer) world.planes.uiPlaneId = none :=
      updateOf_elsewhere fun _ named same =>
        apart.flowUi (flowUpdate_plane named).2 ((flowUpdate_plane named).1.symm.trans same)
    have beside : updateOf (videoUpdate setup world video) world.planes.uiPlaneId = none := by
      refine updateOf_elsewhere fun _ named same => ?_
      have first := uiApart ((videoUpdate_plane named).1.symm.trans same)
      exact absurd (first.symm.trans committed) Bool.false_ne_true
    have primary : updateOf (primaryUpdate setup world video) world.planes.uiPlaneId = none :=
      updateOf_elsewhere fun _ named same => apart.ui (same.symm.trans (primaryUpdate_plane named))
    rw [uiUpdate_skipped (.inr committed), flow, beside, primary]
    rfl
  · rename_i first
    rw [uiUpdate_named used (Bool.eq_false_iff.2 first), updateOf_single]
    rfl

theorem shown_ui (apart : Apart setup.display world.planes)
    (already : SetAlready setup world video flowFramebuffer)
    (shows : Shows setup world after video flowFramebuffer) (used : uiUsed world) :
    scanoutOf after.calls world.planes.uiPlaneId =
      some (uiScanout world.planes world.solidUi.framebuffer) := by
  rw [shows.scanouts, ui_updated apart used fun same => (already.uiApart used same).1]
  split
  · rename_i committed
    exact already.ui committed used
  · rfl

theorem shown_flow (apart : Apart setup.display world.planes)
    (already : SetAlready setup world video flowFramebuffer)
    (shows : Shows setup world after video flowFramebuffer) (used : flowFramebuffer ≠ 0)
    (placed : world.planes.flowPlaneId ≠ 0) :
    scanoutOf after.calls world.planes.flowPlaneId = some (flowScanout setup flowFramebuffer) := by
  rw [shows.scanouts, flow_updated apart placed]
  by_cases new : world.output.modesetCommitted = false ∨
      flowFramebuffer ≠ world.flow.currentFramebuffer
  · rw [flowUpdate_named used placed new, updateOf_single]
    rfl
  · rw [not_or, Bool.not_eq_false, not_not] at new
    rw [flowUpdate_skipped (.inr (.inr new))]
    exact already.flow new.1 new.2 ⟨new.2 ▸ used, placed⟩

theorem video_updated (apart : Apart setup.display world.planes)
    (beside : world.planes.videoOnPrimary = false)
    (uiApart : ∀ update ∈ uiUpdate world, world.planes.videoPlaneId ≠ world.planes.uiPlaneId) :
    updateOf (atomicRequest setup world video flowFramebuffer).updates world.planes.videoPlaneId =
      updateOf (videoUpdate setup world video) world.planes.videoPlaneId := by
  have ui : updateOf (uiUpdate world) world.planes.videoPlaneId = none :=
    updateOf_elsewhere fun _ named same =>
      uiApart _ named (same.symm.trans (uiUpdate_plane named).1)
  have flow : updateOf (flowUpdate setup world flowFramebuffer) world.planes.videoPlaneId = none :=
    updateOf_elsewhere fun _ named same =>
      apart.flowVideo (flowUpdate_plane named).2 ((flowUpdate_plane named).1.symm.trans same)
  have primary : updateOf (primaryUpdate setup world video) world.planes.videoPlaneId = none :=
    updateOf_elsewhere fun _ named same =>
      apart.video beside (same.symm.trans (primaryUpdate_plane named))
  rw [updateOf_request, ui, flow, primary, Option.none_or, Option.none_or, Option.or_none]

theorem shown_video (apart : Apart setup.display world.planes)
    (already : SetAlready setup world video flowFramebuffer)
    (shows : Shows setup world after video flowFramebuffer)
    (beside : videoBeside world.planes video) :
    scanoutOf after.calls world.planes.videoPlaneId = some (videoScanout setup video) := by
  have uiApart : ∀ update ∈ uiUpdate world,
      world.planes.videoPlaneId ≠ world.planes.uiPlaneId := by
    intro update named same
    by_cases used : uiUsed world
    · exact absurd ((already.uiApart used same).2.symm.trans beside.1) Bool.false_ne_true
    · rw [uiUpdate_skipped (.inl used)] at named
      cases named
  rw [shows.scanouts, video_updated apart beside.2 uiApart, videoUpdate_beside beside,
    updateOf_single]
  rfl

/-- What a request turns on is in use. -/
theorem updated_used
    (named : (plane, some scanout) ∈
      (atomicRequest setup world video flowFramebuffer).updates) :
    plane = setup.display.primary.id ∨
      videoBeside world.planes video ∧ plane = world.planes.videoPlaneId ∨
      (flowFramebuffer ≠ 0 ∧ world.planes.flowPlaneId ≠ 0) ∧ plane = world.planes.flowPlaneId ∨
      uiUsed world ∧ plane = world.planes.uiPlaneId := by
  simp only [atomicRequest, List.mem_append] at named
  rcases named with ((primary | video) | flow) | ui
  · exact .inl (primaryUpdate_plane primary)
  · refine .inr (.inl ⟨?_, (videoUpdate_plane video).1⟩)
    apply Classical.byContradiction
    intro elsewhere
    rw [videoUpdate_off elsewhere] at video
    split at video
    · cases List.mem_singleton.1 video
    · cases video
  · refine .inr (.inr (.inl ⟨⟨fun unused => ?_, (flowUpdate_plane flow).2⟩,
      (flowUpdate_plane flow).1⟩))
    rw [flowUpdate_skipped (.inl unused)] at flow
    cases flow
  · refine .inr (.inr (.inr ⟨?_, (uiUpdate_plane ui).1⟩))
    apply Classical.byContradiction
    intro unused
    rw [uiUpdate_skipped (.inl unused)] at ui
    cases ui

/-- A video plane that the request does not turn on is turned off. -/
theorem video_named (apart : Apart setup.display world.planes)
    (placed : world.planes.videoPlaneId ≠ 0)
    (unnamed : updateOf (atomicRequest setup world video flowFramebuffer).updates
      world.planes.videoPlaneId = none) :
    world.planes.videoPlaneId = setup.display.primary.id := by
  cases onPrimary : world.planes.videoOnPrimary with
  | true => exact apart.onPrimary onPrimary
  | false =>
    have updated : updateOf (videoUpdate setup world video) world.planes.videoPlaneId ≠ none := by
      by_cases beside : videoBeside world.planes video
      · rw [videoUpdate_beside beside, updateOf_single]
        exact Option.some_ne_none _
      · rw [videoUpdate_off beside, if_pos ⟨placed, onPrimary⟩, updateOf_single]
        exact Option.some_ne_none _
    rw [updateOf_request, Option.or_eq_none_iff, Option.or_eq_none_iff,
      Option.or_eq_none_iff] at unnamed
    exact absurd unnamed.2.2.1 updated

/-- A commit shows the whole state if what its request leaves out is shown already. -/
theorem fullyShown_of_commit (apart : Apart setup.display world.planes)
    (already : SetAlready setup world video flowFramebuffer)
    (shows : Shows setup world after video flowFramebuffer) : FullyShown setup after := by
  have ui : uiUsed after ↔ uiUsed world := by
    rw [uiUsed, uiUsed, shows.solidUi, shows.planes]
  have flow : flowUsed after ↔ flowFramebuffer ≠ 0 ∧ world.planes.flowPlaneId ≠ 0 := by
    rw [flowUsed, shows.flow, shows.planes]
  refine ⟨?_, fun beside => ?_, fun used => ?_, fun used => ?_, fun plane scanout on => ?_⟩
  · rw [shows.planes, shows.video]
    exact shown_primary apart already shows
  · rw [shows.planes, shows.video] at *
    exact shown_video apart already shows beside
  · rw [shows.planes, shows.flow]
    exact shown_flow apart already shows (flow.1 used).1 (flow.1 used).2
  · rw [shows.planes, shows.solidUi]
    exact shown_ui apart already shows (ui.1 used)
  · rw [ui, flow, shows.planes, shows.video]
    rw [shows.scanouts] at on
    cases updated : updateOf (atomicRequest setup world video flowFramebuffer).updates plane with
    | some new =>
      rw [updated] at on
      have same : new = some scanout := on
      exact updated_used (same ▸ updateOf_mem updated)
    | none =>
      rw [updated] at on
      rcases already.others plane scanout on with primary | ⟨placed, rfl⟩ | rest
      · exact .inl primary
      · exact .inl (video_named apart placed updated)
      · exact .inr (.inr rest)

end Committed

end Agreement

end Glide.FullCommits
