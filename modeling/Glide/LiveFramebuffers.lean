import Glide.ExclusivePlanes
import Glide.HeldFramebuffers

/-! The video framebuffer that `current_video_framebuffer_` names exists as long as
it is neither evicted from the cache nor replaced with the buffer for CPU frames,
and then no request names a dead one. -/
namespace Glide.LiveFramebuffers
open Library Attempts Runs DrmCalls KmsPlanes KmsAtomicCompositor CompositorPhases ExclusivePlanes
open HeldFramebuffers

/-- A request shows an existing video framebuffer, or none. What is removed is not
the current one. -/
def NamesLive : DeviceCall → List DeviceCall → Prop
  | .atomicRequest request _, earlier => request.video ≠ 0 →
    ∃ content, contentOf earlier request.video = some content ∧ isVideo content
  | .removeFramebuffer framebuffer named, _ => framebuffer ≠ named
  | _, _ => True

/-- The id is that of a cached frame. -/
def Cached (video : VideoBuffers) (framebuffer : Nat) : Prop :=
  ∃ entry ∈ video.cache, entry.imported.framebuffer = framebuffer

/-- The id is 0 or that of a buffer kept for video frames. -/
def Kept (video : VideoBuffers) (framebuffer : Nat) : Prop :=
  framebuffer = 0 ∨ framebuffer = video.cpuVideo.framebuffer ∨ Cached video framebuffer

structure Live (world : World) : Prop where
  current : Kept world.video world.video.currentFramebuffer
  calls : Throughout NamesLive world.calls

theorem Kept.content (held : Held setup world) (kept : Kept world.video framebuffer)
    (used : framebuffer ≠ 0) :
    ∃ content, contentOf world.calls framebuffer = some content ∧ isVideo content := by
  rcases kept with none_ | cpu | ⟨entry, cached, same⟩
  · exact absurd none_ used
  · subst cpu
    exact ⟨.cpuVideo, held.exist _ (cpuVideo_held used), trivial⟩
  · subst same
    exact ⟨.imported entry.key, held.exist _ (cached_held cached), trivial⟩

/-- A framebuffer that is not used yet is not the current one. -/
theorem Live.new_ne_current {added : Nat} (live : Live world) (held : Held setup world)
    (used : added ≠ 0) (free : contentOf world.calls added = none) :
    added ≠ world.video.currentFramebuffer := by
  intro same
  subst same
  obtain ⟨content, exists_, _⟩ := live.current.content held used
  rw [free] at exists_
  cases exists_

theorem namesLive_flow (call : DeviceCall) (earlier : List DeviceCall)
    (flow : handlesFlowFrames call earlier) : NamesLive call earlier := by
  cases call with
  | addFramebuffer framebuffer content => trivial
  | lockFrontBuffer buffer => trivial
  | releaseBuffer buffer flowPlane => trivial
  | removeFramebuffer framebuffer named => exact flow.elim
  | atomicRequest request applied => exact flow.elim
  | primeImport fd handle => trivial
  | gemClose handle => trivial

theorem namesLive_passing (call : DeviceCall) (earlier : List DeviceCall)
    (passing : passesHandles call earlier) : NamesLive call earlier := by
  cases call with
  | primeImport fd handle => trivial
  | gemClose handle => trivial
  | addFramebuffer framebuffer content => trivial
  | lockFrontBuffer buffer => trivial
  | releaseBuffer buffer flowPlane => trivial
  | removeFramebuffer framebuffer named => exact passing.elim
  | atomicRequest request applied => exact passing.elim

section Phases
variable {setup : Setup} {world : World}

/-- The video part and the calls are as they were, but for calls on Flow frames. -/
theorem Live.beside {after : World} (live : Live world) (video : after.video = world.video)
    (grown : Extends handlesFlowFrames world.calls after.calls) : Live after where
  current := video ▸ live.current
  calls := throughout_extends live.calls grown namesLive_flow

theorem Live.same {after : World} (live : Live world) (video : after.video = world.video)
    (calls : after.calls = world.calls) : Live after where
  current := video ▸ live.current
  calls := calls ▸ live.calls

theorem removeFramebuffer_namesLive (calls : Throughout NamesLive world.calls)
    (other : framebuffer ≠ 0 → framebuffer ≠ world.video.currentFramebuffer) :
    Throughout NamesLive (removeFramebuffer framebuffer world).calls := by
  unfold removeFramebuffer
  split
  · exact calls
  · rename_i used
    exact throughout_cons.2 ⟨other used, calls⟩

theorem destroyImported_namesLive (calls : Throughout NamesLive world.calls)
    (other : imported.framebuffer ≠ 0 → imported.framebuffer ≠ world.video.currentFramebuffer) :
    Throughout NamesLive (destroyImported imported world).calls :=
  throughout_extends (removeFramebuffer_namesLive calls other) (destroyImported_calls imported world)
    namesLive_passing

/-- With no current framebuffer any of them may go. -/
theorem destroyAll_namesLive (cached : List CachedFramebuffer)
    (calls : Throughout NamesLive world.calls) (none_ : world.video.currentFramebuffer = 0) :
    Throughout NamesLive (cached.foldl (fun world cached => destroyImported cached.imported world)
      world).calls ∧ (cached.foldl (fun world cached => destroyImported cached.imported world)
      world).video.currentFramebuffer = 0 := by
  induction cached generalizing world with
  | nil => exact ⟨calls, none_⟩
  | cons entry rest ih =>
    have current := part_of_state (fun world => world.video.currentFramebuffer) (fun _ => rfl)
      (destroyImported_state entry.imported world)
    exact ih (destroyImported_namesLive calls fun used => none_ ▸ used) (current.trans none_)

theorem destroyVideoFramebufferCache_live (live : Live world) :
    Live (destroyVideoFramebufferCache world) ∧
      (destroyVideoFramebufferCache world).video.currentFramebuffer = 0 ∧
      (destroyVideoFramebufferCache world).video.cache = [] := by
  have start : Throughout NamesLive (clearCurrent world).calls := live.calls
  obtain ⟨calls, none_⟩ := destroyAll_namesLive world.video.cache start rfl
  exact ⟨⟨.inl none_, calls⟩, none_, rfl⟩

/-- A new choice of the video plane forgets the current framebuffer and the cache. -/
theorem ensureVideoPlane_live (live : Live world) :
    Ends (ensureVideoPlane display report format modifier) world
      (fun _ after => Live after ∧
        (videoPlaneDiffers world.planes format modifier = false ∧ after = world ∨
          after.video.currentFramebuffer = 0 ∧ after.video.cache = []))
      Live := by
  refine ends_read_bind ?_
  split
  · have cleared : Live (withoutVideoPlane world) := live.same rfl rfl
    obtain ⟨live, none_, empty⟩ := destroyVideoFramebufferCache_live cleared
    refine ends_change_bind (ends_change_bind ?_)
    refine ((choose_beside _).ends _).imp (fun _ after same => ?_) fun after same => ?_
    · have video : after.video = (destroyVideoFramebufferCache (withoutVideoPlane world)).video :=
        congrArg Prod.fst same
      rw [← video] at none_ empty
      exact ⟨live.same video (congrArg (fun parts => parts.2.2) same), .inr ⟨none_, empty⟩⟩
    · exact live.same (congrArg Prod.fst same) (congrArg (fun parts => parts.2.2) same)
  · rename_i same
    exact ends_pure ⟨live, .inl ⟨Bool.eq_false_iff.2 same, rfl⟩⟩

theorem choosing_live {call : Attempt World Unit}
    (leaves : Leaves call fun world => (world.video, besidePicture world, world.calls))
    (live : Live world) :
    Ends call world (fun _ after => Live after ∧ after.video = world.video) Live := by
  refine (leaves.ends world).imp (fun _ after same => ?_) fun after same => ?_
  · have video := congrArg Prod.fst same
    exact ⟨live.same video (congrArg (fun parts => parts.2.2) same), video⟩
  · exact live.same (congrArg Prod.fst same) (congrArg (fun parts => parts.2.2) same)

/-- The buffers in memory are made and given up without touching the current one. -/
theorem createDumbBuffer_live (held : Held setup world) (live : Live world) :
    Ends (createDumbBuffer content reply) world (fun _ after => Live after) Live := by
  have same := (createDumbBuffer_state content reply).ends world
  refine ((createDumbBuffer_spec content reply world).and same).imp ?_ ?_
  · rintro buffer after ⟨⟨_, _, added⟩, _⟩
    subst added
    exact ⟨live.current, throughout_cons.2 ⟨trivial, live.calls⟩⟩
  · rintro after ⟨same | ⟨framebuffer, used, free, gone⟩, _⟩
    · exact same ▸ live
    · subst gone
      refine ⟨live.current, throughout_cons.2 ⟨?_, throughout_cons.2 ⟨trivial, live.calls⟩⟩⟩
      exact live.new_ne_current held used free

theorem importVideoFrame_live (live : Live world) :
    Ends (importVideoFrame frame key reply) world (fun _ after => Live after) Live := by
  have same := (importVideoFrame_state frame key reply).ends world
  refine ((importVideoFrame_spec frame key reply world).and same).imp ?_ ?_
  · rintro imported after ⟨⟨middle, passed, _, _, grown⟩, same⟩
    refine ⟨part_of_state (fun world => world.video) (fun _ => rfl) same ▸ live.current, ?_⟩
    rw [grown]
    exact throughout_cons.2 ⟨trivial, throughout_extends live.calls passed namesLive_passing⟩
  · rintro after ⟨passed, same⟩
    exact ⟨part_of_state (fun world => world.video) (fun _ => rfl) same ▸ live.current,
      throughout_extends live.calls passed namesLive_passing⟩

/-- The entry that makes room for a new frame. -/
def victim : List CachedFramebuffer → Option CachedFramebuffer
  | [] => none
  | first :: rest =>
    if (first :: rest).length < maxCachedFramebuffers then none
    else some (leastRecentlyUsed first rest)

theorem evict_live (live : Live world)
    (spared : ∀ entry, victim world.video.cache = some entry →
      entry.imported.framebuffer ≠ world.video.currentFramebuffer) :
    Live (evictVideoFramebufferIfNeeded world) := by
  rcases evict_cases world with same | ⟨first, rest, front, back, cache, full, parts, evicted⟩
  · exact same.symm ▸ live
  · have chosen : victim world.video.cache = some (leastRecentlyUsed first rest) := by
      rw [cache, victim, if_neg (Nat.not_lt.2 full)]
    have other := spared _ chosen
    have video := part_of_state (fun world => world.video) (fun _ => rfl)
      (destroyImported_state (leastRecentlyUsed first rest).imported world)
    rw [evicted]
    refine ⟨?_, destroyImported_namesLive live.calls fun _ => other⟩
    change Kept _ (destroyImported _ world).video.currentFramebuffer
    rw [video]
    rcases live.current with none_ | cpu | ⟨entry, cached, same⟩
    · exact .inl none_
    · exact .inr (.inl (cpu.trans (congrArg (·.cpuVideo.framebuffer) video).symm))
    · refine .inr (.inr ⟨entry, ?_, same⟩)
      rw [cache, parts] at cached
      rcases List.mem_append.1 cached with before | after
      · exact List.mem_append_left _ before
      · rcases List.mem_cons.1 after with itself | after
        · exact absurd (itself ▸ same) other
        · exact List.mem_append_right _ after

/-- The frame is not in the cache, and the entry that makes room for it is the
current framebuffer. -/
def Evicts (video : VideoBuffers) (frame : DmabufVideoFrame) (reply : ImportReply) : Prop :=
  (makeFrameKey frame reply).any (fun key => (video.cache.find? (·.key = key)).isNone) = true ∧
    (victim video.cache).any (fun entry => entry.imported.framebuffer = video.currentFramebuffer) = true

theorem findOrImport_live (live : Live world)
    (spares : ¬ Evicts world.video frame reply) :
    Ends (findOrImportVideoFramebuffer frame reply) world (fun _ after => Live after) Live := by
  unfold findOrImportVideoFramebuffer
  cases named : makeFrameKey frame reply with
  | none => exact ends_giveUp live
  | some key =>
    have counted : Live (countFrame world) := ⟨live.current, live.calls⟩
    refine ends_change_bind (ends_read_bind ?_)
    cases found : (countFrame world).video.cache.find? (·.key = key) with
    | some entry =>
      refine ends_change_bind (ends_pure ⟨?_, counted.calls⟩)
      rcases counted.current with none_ | cpu | ⟨shown, cached, same⟩
      · exact .inl none_
      · exact .inr (.inl cpu)
      · have kept : (shown.imported.framebuffer, Content.imported shown.key) ∈ cacheHoldings
            (touch key (countFrame world).video.frameSerial (countFrame world).video.cache) :=
          (touch_holdings _ _ _).symm ▸ List.mem_map_of_mem cached
        obtain ⟨touched, among, as⟩ := List.mem_map.1 kept
        exact .inr (.inr ⟨touched, among, (congrArg Prod.fst as).trans same⟩)
    | none =>
      have roomy : Live (evictVideoFramebufferIfNeeded (countFrame world)) := by
        refine evict_live counted fun entry chosen same => spares ⟨?_, ?_⟩
        · rw [named]
          exact congrArg Option.isNone found
        · have chosen : victim world.video.cache = some entry := chosen
          rw [chosen]
          exact decide_eq_true same
      refine ends_change_bind ((importVideoFrame_live roomy).bind fun imported after live => ?_)
      refine ends_change_bind (ends_pure ⟨?_, live.calls⟩)
      rcases live.current with none_ | cpu | ⟨shown, cached, same⟩
      · exact .inl none_
      · exact .inr (.inl cpu)
      · exact .inr (.inr ⟨shown, List.mem_append_left _ cached, same⟩)

/-- The buffer for CPU frames is replaced only while another framebuffer is current. -/
theorem ensureCpuVideoBuffer_live (held : Held setup world) (live : Live world)
    (spares : cpuVideoDiffers world.video width height = true → world.video.cpuVideo.framebuffer ≠ 0 →
      world.video.currentFramebuffer ≠ world.video.cpuVideo.framebuffer) :
    Ends (ensureCpuVideoBuffer width height reply) world (fun _ after => Live after) Live := by
  refine ends_read_bind ?_
  split
  · rename_i differs
    have removed := part_of_state (fun world => world.video) (fun _ => rfl)
      (removeFramebuffer_state world.video.cpuVideo.framebuffer world)
    have elsewhere : world.video.currentFramebuffer = 0 ∨
        Cached world.video world.video.currentFramebuffer := by
      rcases live.current with none_ | cpu | cached
      · exact .inl none_
      · by_cases used : world.video.cpuVideo.framebuffer = 0
        · exact .inl (cpu.trans used)
        · exact absurd cpu (spares differs used)
      · exact .inr cached
    have left : (destroyCpuVideoBuffer world).video.currentFramebuffer = 0 ∨
        Cached (destroyCpuVideoBuffer world).video
          (destroyCpuVideoBuffer world).video.currentFramebuffer := by
      change (removeFramebuffer _ world).video.currentFramebuffer = 0 ∨
        Cached (removeFramebuffer _ world).video (removeFramebuffer _ world).video.currentFramebuffer
      rw [removed]
      exact elsewhere
    have destroyed : Live (destroyCpuVideoBuffer world) :=
      ⟨left.imp id .inr, removeFramebuffer_namesLive live.calls fun used => (spares differs used).symm⟩
    refine ends_change_bind ?_
    have created : Ends (createDumbBuffer .cpuVideo reply) (destroyCpuVideoBuffer world) _ _ :=
      createDumbBuffer_live (destroyCpuVideoBuffer_held held) destroyed
    have same := (createDumbBuffer_state .cpuVideo reply).ends (destroyCpuVideoBuffer world)
    refine Ends.bind ((created.and same).imp (fun _ _ done => done) fun _ failed => failed.1) ?_
    rintro cpuVideo after ⟨live, same⟩
    refine ends_change ⟨?_, live.calls⟩
    have video : after.video = (destroyCpuVideoBuffer world).video :=
      part_of_state (fun world => world.video) (fun _ => rfl) same
    rw [← video] at left
    exact left.imp id .inr
  · exact ends_pure live

end Phases

/-- The call has a Flow plane, needs none or finds one. -/
def findsFlowPlane (display : Display) (report : PlaneReport) (planes : PlaneAssignment) : Bool :=
  display.primaryFlowReadback || planes.flowPlaneId != 0 ||
    (chooseFlowPlane display report planes).isSome

/-- The call removes the current framebuffer: to make room in the cache, or to
replace the buffer for CPU frames. A new choice of the video plane forgets it before. -/
def LosesCurrent (setup : Setup) (world : World) : Event → Prop
  | .present (.dmabuf frame) _ reply =>
    videoPlaneDiffers world.planes frame.drmFormat (frame.modifiers.getD 0 0) = false ∧
      findsFlowPlane setup.display reply.flowPlanes world.planes = true ∧
      Evicts world.video frame reply.imported
  | .present (.cpu frame) _ _ =>
    validCpuFrame frame = true ∧
      videoPlaneDiffers world.planes formatXrgb8888 modifierLinear = false ∧
      cpuVideoDiffers world.video frame.width frame.height = true ∧
      world.video.cpuVideo.framebuffer ≠ 0 ∧
      world.video.currentFramebuffer = world.video.cpuVideo.framebuffer
  | _ => False

instance (video : VideoBuffers) (frame : DmabufVideoFrame) (reply : ImportReply) :
    Decidable (Evicts video frame reply) := inferInstanceAs (Decidable (_ ∧ _))

instance (setup : Setup) (world : World) : (event : Event) → Decidable (LosesCurrent setup world event)
  | .present (.dmabuf _) _ _ => inferInstanceAs (Decidable (_ ∧ _ ∧ _))
  | .present (.cpu _) _ _ => inferInstanceAs (Decidable (_ ∧ _ ∧ _ ∧ _ ∧ _))
  | .present .overlay _ _ => isFalse id
  | .publishRenderedFlowFrame _ => isFalse id
  | .publishSolidFlowFrame _ => isFalse id
  | .publishSolidUiFrame _ => isFalse id
  | .publishUiFrameFromArgb _ _ _ _ _ => isFalse id
  | .enableWritebackRecording _ _ _ _ => isFalse id
  | .setVblankWaitEnabled _ => isFalse id

section Steps
variable {setup : Setup} {world : World}

theorem spared_after_choice (spares : ¬ LosesCurrent setup world
      (.present (.dmabuf frame) updateFlowFrame reply))
    (chosen : videoPlaneDiffers world.planes frame.drmFormat (frame.modifiers.getD 0 0) = false ∧
        middle = world ∨ middle.video.currentFramebuffer = 0 ∧ middle.video.cache = [])
    (finds : findsFlowPlane setup.display reply.flowPlanes middle.planes = true) :
    ¬ Evicts middle.video frame reply.imported := by
  rcases chosen with ⟨same, unchanged⟩ | ⟨_, empty⟩
  · subst unchanged
    exact fun evicts => spares ⟨same, finds, evicts⟩
  · intro evicts
    have someone := evicts.2
    rw [empty] at someone
    cases someone

theorem findsFlowPlane_of_ends
    (found : (display.primaryFlowReadback = true ∨ world.planes.flowPlaneId ≠ 0) ∧ after = world ∨
      display.primaryFlowReadback = false ∧ world.planes.flowPlaneId = 0 ∧
        chooseFlowPlane display report world.planes = some after.planes) :
    findsFlowPlane display report world.planes = true := by
  unfold findsFlowPlane
  rcases found with ⟨readback | has, _⟩ | ⟨_, _, chosen⟩
  · rw [readback]
    rfl
  · rw [bne_iff_ne.2 has, Bool.or_true]
    rfl
  · rw [chosen]
    exact Bool.or_true _

theorem prepare_live (held : Held setup world) (live : Live world)
    (spares : ¬ LosesCurrent setup world (.present picture updateFlowFrame reply)) :
    Ends (prepare setup picture reply) world
      (fun video after => Live after ∧ Kept after.video video.framebuffer) Live := by
  have flow := fun {world} (live : Live world) =>
    choosing_live (ensureFlowPlane_beside setup.display reply.flowPlanes) live
  have ui := fun {world} (live : Live world) =>
    choosing_live (ensureUiPlane_beside setup.display reply.uiPlanes) live
  cases picture with
  | dmabuf frame =>
    have chooses : Ends (ensureVideoPlane setup.display reply.videoPlanes frame.drmFormat
        (frame.modifiers.getD 0 0)) world _ _ := ensureVideoPlane_held held
    have planes := chooses.and (ensureVideoPlane_live live)
    refine Ends.bind (planes.imp (fun _ _ done => done) fun _ failed => failed.2) ?_
    rintro _ middle ⟨held, live, chosen⟩
    have found := ((choosing_held (ensureFlowPlane_beside setup.display reply.flowPlanes) held).and
      (flow live)).and (ensureFlowPlane_planes setup.display reply.flowPlanes middle)
    refine Ends.bind (found.imp (fun _ _ done => done) fun _ failed => failed.1.2) ?_
    rintro _ second ⟨⟨held, live, same⟩, found⟩
    have kept := spared_after_choice spares chosen (findsFlowPlane_of_ends found)
    rw [← same] at kept
    have chosen := (choosing_held (ensureUiPlane_beside setup.display reply.uiPlanes) held).and (ui live)
    refine Ends.bind (chosen.imp (fun _ _ done => done) fun _ failed => failed.2) ?_
    rintro _ third ⟨held, live, same⟩
    rw [← same] at kept
    have imported := (findOrImport_held held).and (findOrImport_live live kept)
    refine Ends.bind (imported.imp (fun _ _ done => done) fun _ failed => failed.2) ?_
    rintro framebuffer last ⟨⟨_, cached⟩, live⟩
    exact ends_pure ⟨live, .inr (.inr cached)⟩
  | cpu frame =>
    refine ends_check_bind (fun valid => ?_) fun _ => live
    have chooses : Ends (ensureVideoPlane setup.display reply.videoPlanes formatXrgb8888
        modifierLinear) world _ _ := ensureVideoPlane_held held
    have planes := chooses.and (ensureVideoPlane_live live)
    refine Ends.bind (planes.imp (fun _ _ done => done) fun _ failed => failed.2) ?_
    rintro _ middle ⟨held, live, chosen⟩
    have buffered : Ends (ensureCpuVideoBuffer frame.width frame.height reply.cpuVideo) middle
        (fun _ after => Live after) Live := by
      refine ensureCpuVideoBuffer_live held live fun differs used same => ?_
      rcases chosen with ⟨stays, unchanged⟩ | ⟨none_, _⟩
      · subst unchanged
        exact spares ⟨valid, stays, differs, used, same⟩
      · exact used (same.symm.trans none_)
    refine buffered.bind fun _ _ live => (flow live).bind fun _ _ live => ?_
    refine (ui live.1).bind fun _ last live => ends_read_bind (ends_pure ⟨live.1, .inr (.inl rfl)⟩)
  | overlay =>
    refine (flow live).bind fun _ _ live => ?_
    refine (ui live.1).bind fun _ last live => ends_read_bind (ends_pure ⟨live.1, live.1.current⟩)

/-- The commit names the video framebuffer it is given. -/
theorem request_namesLive {video : VideoPart} (held : Held setup world)
    (kept : Kept world.video video.framebuffer) (applied : Bool) :
    NamesLive (.atomicRequest (atomicRequest setup world video flowFramebuffer) applied)
      world.calls := by
  intro used
  cases present : video.present with
  | false => exact absurd (if_neg (present ▸ Bool.false_ne_true)) used
  | true =>
    have named : (atomicRequest setup world video flowFramebuffer).video = video.framebuffer :=
      if_pos present
    rw [named] at used ⊢
    exact kept.content held used

theorem commit_live {video : VideoPart} (held : Held setup world) (live : Live world)
    (kept : Kept world.video video.framebuffer) :
    Ends (commit setup video flowFramebuffer nonblocking reply) world
      (fun _ after => Live after ∧ after.video = world.video) Live := by
  refine (commit_spec setup video flowFramebuffer nonblocking reply world).imp ?_ ?_
  · rintro _ after ⟨same, applied⟩
    have video : after.video = world.video := congrArg (fun parts => parts.2.1) same.beside
    refine ⟨⟨video ▸ live.current, ?_⟩, video⟩
    rw [applied.calls]
    exact throughout_cons.2 ⟨request_namesLive held kept true, live.calls⟩
  · rintro after ⟨same, failed⟩
    have video : after.video = world.video := congrArg (fun parts => parts.2.1) same.beside
    refine ⟨video ▸ live.current, ?_⟩
    rcases failed with refused | ⟨_, applied⟩
    · rcases refused.calls with calls | calls
      · exact calls ▸ live.calls
      · rw [calls]
        exact throughout_cons.2 ⟨request_namesLive held kept false, live.calls⟩
    · rw [applied.calls]
      exact throughout_cons.2 ⟨request_namesLive held kept true, live.calls⟩

theorem releaseBuffer_live (buffer : Option LockedBuffer) (live : Live world) :
    Live (releaseBuffer buffer world) :=
  live.beside (part_of_state (fun world => world.video) (fun _ => rfl) (releaseBuffer_state buffer world))
    (releaseBuffer_grows buffer world)

theorem adoptFlowFramebuffer_live (acquired : AcquiredFlow) (live : Live world) :
    Live (adoptFlowFramebuffer acquired world) :=
  live.beside (congrArg (fun parts => parts.2.1) (adoptFlowFramebuffer_beside acquired world))
    (adoptFlowFramebuffer_grows acquired world)

theorem conclude_live {video : VideoPart} (committed : Bool) (live : Live world)
    (kept : Kept world.video video.framebuffer) :
    Live (conclude picture video acquired committed world) := by
  have remembered : Live (rememberVideo video world) := ⟨kept, live.calls⟩
  unfold conclude
  split
  · cases picture with
    | dmabuf frame => exact adoptFlowFramebuffer_live acquired remembered
    | cpu frame => exact adoptFlowFramebuffer_live acquired remembered
    | overlay => exact adoptFlowFramebuffer_live acquired live
  · exact releaseBuffer_live acquired.bo live

theorem present_live (held : Held setup world) (live : Live world)
    (spares : ¬ LosesCurrent setup world (.present picture updateFlowFrame reply)) :
    Ends (present setup picture updateFlowFrame reply) world (fun _ after => Live after) Live := by
  have prepared := (prepare_held held).and (prepare_live held live spares)
  refine Ends.bind (prepared.imp (fun _ _ done => done) fun _ failed => failed.2) ?_
  rintro video middle ⟨held, live, kept⟩
  have left := (acquireFlowFramebuffer_beside setup updateFlowFrame reply.locked).ends middle
  have grown := (acquireFlowFramebuffer_grows setup updateFlowFrame reply.locked).ends middle
  have acquires := ((acquireFlowFramebuffer_held held).and left).and grown
  refine Ends.bind (acquires.imp (fun _ _ done => done) ?_) ?_
  · rintro after ⟨⟨_, same⟩, grown⟩
    exact live.beside (congrArg (fun parts => parts.2.1) same) grown
  · rintro acquired after ⟨⟨held, same⟩, grown⟩
    have unchanged : after.video = middle.video := congrArg (fun parts => parts.2.1) same
    have live := live.beside unchanged grown
    rw [← unchanged] at kept
    have commits : Ends (commit setup video acquired.framebuffer
        (nonblockingAllowed picture updateFlowFrame acquired) reply.commit) after _ _ :=
      commit_live held live kept
    refine showPicture_ends (commits.imp ?_ ?_)
    · rintro _ last ⟨live, same⟩
      exact conclude_live true live (same ▸ kept)
    · intro last live
      exact releaseBuffer_live acquired.bo live

theorem publishFlow_live (acquired : AcquiredFlow) (live : Live world) :
    Live (publishFlow acquired world) :=
  (releaseBuffer_live world.flow.pendingBo live).same rfl rfl

theorem publishRenderedFlowFrame_live (live : Live world) :
    Ends (publishRenderedFlowFrame setup reply) world (fun _ after => Live after) Live := by
  have left := (lockFlowFramebuffer_beside setup reply).ends world
  have grown := (lockFlowFramebuffer_grows setup reply).ends world
  have locked : Ends (lockFlowFramebuffer setup reply) world (fun _ after => Live after) Live :=
    (left.and grown).imp
      (fun _ _ done => live.beside (congrArg (fun parts => parts.2.1) done.1) done.2)
      fun _ failed => live.beside (congrArg (fun parts => parts.2.1) failed.1) failed.2
  exact locked.bind fun acquired _ live => ends_change (publishFlow_live acquired live)

theorem publishSolidFlowFrame_live (held : Held setup world) (live : Live world) :
    Ends (publishSolidFlowFrame reply) world (fun _ after => Live after) Live := by
  have ensured : Ends (ensureSolidFlow reply) world (fun _ after => Live after) Live := by
    refine ends_read_bind ?_
    split
    · exact (createDumbBuffer_live held live).bind fun solid _ live => ends_change (live.same rfl rfl)
    · exact ends_pure live
  refine ensured.bind fun _ _ live => ends_read_bind ?_
  exact ends_check_bind (fun _ => ends_change (publishFlow_live _ live)) fun _ => live

theorem ensureSolidUi_live (held : Held setup world) (live : Live world) :
    Ends (ensureSolidUi reply) world (fun _ after => Live after) Live := by
  refine ends_read_bind ?_
  split
  · exact (createDumbBuffer_live held live).bind fun solid _ live => ends_change (live.same rfl rfl)
  · exact ends_pure live

theorem publishSolidUiFrame_live (held : Held setup world) (live : Live world) :
    Ends (publishSolidUiFrame reply) world (fun _ after => Live after) Live := by
  refine ends_read_bind (ends_check_bind (fun _ => ?_) fun _ => live)
  refine (ensureSolidUi_live held live).bind fun _ _ live => ends_read_bind ?_
  exact ends_check (fun _ => live) fun _ => live

theorem publishUiFrameFromArgb_live (held : Held setup world) (live : Live world) :
    Ends (publishUiFrameFromArgb hasPixels width height strideBytes reply) world
      (fun _ after => Live after) Live := by
  refine ends_check_bind (fun _ => ends_read_bind ?_) fun _ => live
  split
  · refine ends_check_bind (fun _ => ends_check_bind (fun _ => ?_) fun _ => live) fun _ => live
    refine (ensureSolidUi_live held live).bind fun _ _ live => ends_read_bind ?_
    exact ends_check (fun _ => live) fun _ => live
  · exact ends_pure live

/-- The writeback buffer is not a video framebuffer. -/
theorem destroyWritebackBuffer_live (held : Held setup world) (live : Live world) :
    Live (destroyWritebackBuffer world) := by
  have video := part_of_state (fun world => world.video) (fun _ => rfl)
    (removeFramebuffer_state world.output.writeback.buffer.framebuffer world)
  have calls : Throughout NamesLive
      (removeFramebuffer world.output.writeback.buffer.framebuffer world).calls := by
    refine removeFramebuffer_namesLive live.calls fun used same => ?_
    have own := held.exist _ (writeback_held used)
    obtain ⟨content, shown, isVideo⟩ := live.current.content held (same ▸ used)
    rw [← same, own] at shown
    cases shown
    exact isVideo
  exact ⟨video ▸ live.current, calls⟩

theorem enableWritebackRecording_live (held : Held setup world) (live : Live world) :
    Ends (enableWritebackRecording setup hasPath everyNFrames maxFrames reply) world
      (fun _ after => Live after) Live := by
  refine ends_check_bind (fun _ => ends_check_bind (fun _ => ?_) fun _ => live) fun _ => live
  have connected : Ends (chooseWritebackConnector reply) world (fun _ after => Live after) Live := by
    refine ends_read_bind ?_
    dsimp only
    split
    · cases reply.connector with
      | none => exact ends_giveUp live
      | some connectorId => exact ends_change (live.same rfl rfl)
    · exact ends_pure live
  have connects := (chooseWritebackConnector_held held).and connected
  refine Ends.bind (connects.imp (fun _ _ done => done) fun _ failed => failed.2) ?_
  rintro _ middle ⟨held, live⟩
  have buffered : Ends (createWritebackBuffer reply) middle (fun _ after => Live after) Live := by
    refine ends_read_bind ?_
    dsimp only
    split
    · exact (createDumbBuffer_live held live).bind fun buffer _ live => ends_change (live.same rfl rfl)
    · exact ends_pure live
  have buffers := (createWritebackBuffer_held held).and buffered
  refine Ends.bind (buffers.imp (fun _ _ done => done) fun _ failed => failed.2) ?_
  rintro _ after ⟨held, live⟩
  split
  · exact ends_change (live.same rfl rfl)
  · exact ends_change_bind (ends_giveUp (destroyWritebackBuffer_live held live))

theorem step_live (event : Event) (held : Held setup world) (live : Live world)
    (spares : ¬ LosesCurrent setup world event) : Live (step setup world event) := by
  cases event with
  | present picture updateFlowFrame reply => exact (present_live held live spares).after
  | publishRenderedFlowFrame reply => exact (publishRenderedFlowFrame_live live).after
  | publishSolidFlowFrame reply => exact (publishSolidFlowFrame_live held live).after
  | publishSolidUiFrame reply => exact (publishSolidUiFrame_live held live).after
  | publishUiFrameFromArgb hasPixels width height strideBytes reply =>
    exact (publishUiFrameFromArgb_live held live).after
  | enableWritebackRecording hasPath everyNFrames maxFrames reply =>
    exact (enableWritebackRecording_live held live).after
  | setVblankWaitEnabled enabled => exact live.same rfl rfl

end Steps

/-- What every step preserves that spares the current framebuffer. -/
def StaysLive (setup : Setup) (world : World) : Prop := Held setup world ∧ Live world

theorem create_live (setup : Setup) (uiSurface : Nat × Nat) : Live (create setup uiSurface) where
  current := .inl rfl
  calls := throughout_cons.2 ⟨trivial, throughout_nil⟩

/-- No request names a dead video framebuffer, and the current one is not removed,
in every run in which no call loses the current framebuffer. -/
theorem no_dead_framebuffer_while_current_spared (setup : Setup) (uiSurface : Nat × Nat)
    (events : List Event)
    (spares : Meets (step setup) (fun world event => ¬ LosesCurrent setup world event)
      (create setup uiSurface) events) :
    let world := events.foldl (step setup) (create setup uiSurface)
    Throughout NamesLive world.calls ∧ (world.video.currentFramebuffer ≠ 0 →
      ∃ content, contentOf world.calls world.video.currentFramebuffer = some content ∧
        isVideo content) := by
  have start : StaysLive setup (create setup uiSurface) :=
    ⟨create_held setup uiSurface, create_live setup uiSurface⟩
  have stays : StaysLive setup (events.foldl (step setup) (create setup uiSurface)) :=
    invariant_after_run events (fun world event stays spares =>
      ⟨step_held event stays.1, step_live event stays.1 stays.2 spares⟩) start spares
  exact ⟨stays.2.calls, fun used => stays.2.current.content stays.1 used⟩

/-- A frame in one plane without compression. -/
def decodedFrame : DmabufVideoFrame := ⟨640, 480, formatXrgb8888, 1, [5], [2560], [0], [modifierLinear]⟩

/-- The buffer for CPU frames is replaced while a decoded frame is shown. -/
def mixedFrames : List Event :=
  [.present (.cpu ⟨640, 480, 2560, true⟩) true {}, .present (.dmabuf decodedFrame) false {},
    .present .overlay true {}, .present (.cpu ⟨1280, 720, 5120, true⟩) false {},
    .present (.dmabuf decodedFrame) false {}]

theorem mixed_frames_live :
    let world := mixedFrames.foldl (step (plainSetup rgbPlanes)) (create (plainSetup rgbPlanes) (0, 0))
    Throughout NamesLive world.calls ∧ world.video.currentFramebuffer = 102 := by
  have spares : Meets (step (plainSetup rgbPlanes))
      (fun world event => ¬ LosesCurrent (plainSetup rgbPlanes) world event)
      (create (plainSetup rgbPlanes) (0, 0)) mixedFrames := by decide +kernel
  exact ⟨(no_dead_framebuffer_while_current_spared (plainSetup rgbPlanes) (0, 0) mixedFrames spares).1,
    by decide +kernel⟩

/-- The second frame is larger, but there is no buffer for it; then only the
overlays are shown anew. -/
def largerFrame : List Event :=
  [.present (.cpu ⟨640, 480, 2560, true⟩) true {},
    .present (.cpu ⟨1280, 720, 5120, true⟩) true { cpuVideo := { created := false } },
    .present .overlay false {}]

/-- The request of the last call names the framebuffer that the second one removed. -/
theorem larger_frame_leaves_dead_framebuffer :
    let world := largerFrame.foldl (step (plainSetup rgbPlanes)) (create (plainSetup rgbPlanes) (0, 0))
    ¬ Throughout NamesLive world.calls ∧ ∃ request applied earlier,
      world.calls = .atomicRequest request applied :: .removeFramebuffer 1 1 :: earlier ∧
        request.video = 1 := by
  refine ⟨fun live => ?_, _, _, _, rfl, rfl⟩
  obtain ⟨content, shown, _⟩ := live _ _ List.suffix_rfl (by decide +kernel)
  cases shown

end Glide.LiveFramebuffers
