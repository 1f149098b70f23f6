import Glide.AtomicRequests
import Glide.CompositorThreads
import Glide.HeldFramebuffers
import Glide.Library.Ownership

/-! Who owns the buffers of the Flow surface. A buffer that was locked waits to be
taken, is on its way in a call, or is current, until it is released; and as long
as no commit fails after it was applied, it is not released while it is shown. -/
namespace Glide.FlowBufferOwnership
open Library Attempts Runs Ownership DrmCalls KmsPlanes KmsAtomicCompositor CompositorPhases
open ExclusivePlanes AtomicRequests HeldFramebuffers CompositorThreads

/-- The buffers of the presenter's call. -/
def presenterBuffers : Presenter → List LockedBuffer
  | .idle | .prepared _ _ => []
  | .locked _ _ buffer => [buffer]
  | .acquired _ _ flow | .committed _ _ flow _ => flow.bo.toList

/-- The buffers of the Flow thread's call. -/
def flowThreadBuffers : FlowThread → List LockedBuffer
  | .idle => []
  | .locked _ buffer => [buffer]
  | .framed flow => flow.bo.toList

def owned (threads : Threads) : List LockedBuffer :=
  threads.world.flow.pendingBo.toList ++ (flowThreadBuffers threads.flowThread ++
    (presenterBuffers threads.presenter ++ threads.world.flow.currentBo.toList))

/-- Where a lock may be: given back, pending, in a call of one of the threads, or current. -/
def places (threads : Threads) : List (List Nat) :=
  [releasedLocks threads.world.calls, threads.world.flow.pendingBo.toList.map (·.lock),
    (flowThreadBuffers threads.flowThread).map (·.lock),
    (presenterBuffers threads.presenter).map (·.lock),
    threads.world.flow.currentBo.toList.map (·.lock)]

/-- A buffer is not released while the Flow plane shows its framebuffer. -/
def SparesFlowPlane (setup : Setup) : DeviceCall → List DeviceCall → Prop
  | .releaseBuffer buffer flowPlane, earlier => flowPlane ≠ 0 → ∀ scanout,
    scanoutOf earlier flowPlane = some scanout →
      contentOf earlier scanout.framebuffer ≠ some (.flow (setup.flowKey buffer.object))
  | _, _ => True

/-- The locked buffers are the owned ones, all of different objects, and every lock
is held or was given back. -/
structure Locks (calls : List DeviceCall) (owned : List LockedBuffer) : Prop where
  owned : (lockedBuffers calls).Perm owned
  objects : ((lockedBuffers calls).map (·.object)).Nodup
  accounted : Accounted (lockCount calls) [releasedLocks calls, (lockedBuffers calls).map (·.lock)]

section Locks
variable {calls after : List DeviceCall} {buffers others : List LockedBuffer} {buffer : LockedBuffer}

theorem Locks.perm (held : Locks calls buffers) (same : buffers.Perm others) : Locks calls others :=
  ⟨held.owned.trans same, held.objects, held.accounted⟩

theorem Locks.same (held : Locks calls buffers) (same : locks after = locks calls) :
    Locks after buffers := by
  have counted : lockCount after = lockCount calls := congrArg Prod.fst same
  have locked : lockedBuffers after = lockedBuffers calls := congrArg (fun parts => parts.2.1) same
  have released : releasedLocks after = releasedLocks calls := congrArg (fun parts => parts.2.2) same
  refine ⟨locked ▸ held.owned, locked ▸ held.objects, ?_⟩
  rw [counted, locked, released]
  exact held.accounted

theorem Locks.lock (held : Locks calls buffers) (free : buffer.object ∉ (lockedBuffers calls).map (·.object))
    (numbered : buffer.lock = lockCount calls) :
    Locks (.lockFrontBuffer buffer :: calls) (buffer :: buffers) where
  owned := held.owned.cons buffer
  objects := List.nodup_cons.2 ⟨free, held.objects⟩
  accounted := by
    refine held.accounted.obtain fun lock => ?_
    change (releasedLocks calls ++
      (buffer.lock :: (lockedBuffers calls).map LockedBuffer.lock ++ [])).count lock =
        (releasedLocks calls ++ ((lockedBuffers calls).map LockedBuffer.lock ++ [])).count lock + _
    rw [numbered, List.append_nil, List.append_nil, List.count_append, List.count_append,
      List.count_cons, List.count_singleton]
    omega

theorem Locks.release (held : Locks calls (buffer :: buffers)) :
    Locks (.releaseBuffer buffer flowPlane :: calls) buffers where
  owned := by
    have left := held.owned.erase buffer
    rwa [List.erase_cons_head] at left
  objects := held.objects.sublist (List.erase_sublist.map _)
  accounted := by
    have among : buffer ∈ lockedBuffers calls := held.owned.mem_iff.2 List.mem_cons_self
    have split_ := (List.perm_cons_erase among).map LockedBuffer.lock
    refine held.accounted.move fun lock => ?_
    change (buffer.lock :: releasedLocks calls ++
      (((lockedBuffers calls).erase buffer).map LockedBuffer.lock ++ [])).count lock =
        (releasedLocks calls ++ ((lockedBuffers calls).map LockedBuffer.lock ++ [])).count lock
    rw [List.append_nil, List.append_nil, List.count_append, List.count_append, split_.count_eq,
      List.map_cons, List.count_cons, List.count_cons]
    omega

/-- Two owned buffers are different objects. -/
theorem Locks.apart (held : Locks calls (buffer :: buffers)) (other : shown ∈ buffers) :
    shown.object ≠ buffer.object := by
  have objects := (held.owned.map (·.object)).nodup_iff.1 held.objects
  rw [List.map_cons, List.nodup_cons] at objects
  exact fun same => objects.1 (same ▸ List.mem_map_of_mem other)

end Locks

/-- The law of ownership follows from the calls. -/
theorem ownership_accounted {threads : Threads} (held : Locks threads.world.calls (owned threads)) :
    Accounted (lockCount threads.world.calls) (places threads) := by
  have owners := held.owned.map fun buffer => buffer.lock
  refine held.accounted.move fun lock => ?_
  have counted := owners.count_eq lock
  simp only [owned, List.map_append, List.count_append] at counted
  simp only [places, List.flatten_cons, List.flatten_nil, List.append_nil, List.count_append]
  omega

/-- A framebuffer on its way goes with its buffer, or shows none. -/
def Framed (setup : Setup) (world : World) (framebuffer : Nat) : Option LockedBuffer → Prop
  | some buffer => (setup.flowKey buffer.object, framebuffer) ∈ world.flow.cache
  | none => framebuffer = 0 ∨ framebuffer = world.flow.solid.framebuffer

/-- Where the Flow plane is, and that it shows none but these buffers. -/
structure FlowPlane (setup : Setup) (world : World) (shown : List LockedBuffer) : Prop where
  readback : setup.display.primaryFlowReadback = true → world.planes.flowPlaneId = 0
  unused : setup.display.primaryFlowReadback = false → world.planes.flowPlaneId = 0 →
    ∀ plane, scanoutOf world.calls plane = none
  shows : world.planes.flowPlaneId ≠ 0 → ∀ scanout key,
    scanoutOf world.calls world.planes.flowPlaneId = some scanout →
    contentOf world.calls scanout.framebuffer = some (.flow key) →
      ∃ buffer ∈ shown, key = setup.flowKey buffer.object

/-- What does not go through the Flow buffers: the framebuffers, the planes and that
what is shown exists. -/
structure Base (setup : Setup) (world : World) : Prop where
  held : Held setup world
  assigned : Assigned setup.display world.planes
  backed : Backed world.calls

section Shown
variable {setup : Setup} {world after : World} {shown : List LockedBuffer} {framebuffer : Nat}
  {bo : Option LockedBuffer}

theorem Framed.content (held : Held setup world) (framed : Framed setup world framebuffer bo)
    (content : contentOf world.calls framebuffer = some (.flow key)) :
    ∃ buffer ∈ bo.toList, key = setup.flowKey buffer.object := by
  cases bo with
  | some buffer =>
    have own := held.exist _ (flow_held framed)
    rw [own] at content
    cases content
    exact ⟨buffer, List.mem_singleton_self _, rfl⟩
  | none =>
    rcases framed with none_ | solid
    · rw [none_, held.zero] at content
      cases content
    · by_cases used : world.flow.solid.framebuffer = 0
      · rw [solid, used, held.zero] at content
        cases content
      · have own := held.exist _ (solidFlow_held used)
        rw [solid, own] at content
        cases content

/-- The Flow cache only grows, and the solid buffer stays once it is there. -/
structure FlowKept (world after : World) : Prop where
  cache : world.flow.cache ⊆ after.flow.cache
  solid : after.flow.solid = world.flow.solid ∨ world.flow.solid.framebuffer = 0

theorem Framed.kept (framed : Framed setup world framebuffer bo) (kept : FlowKept world after) :
    Framed setup after framebuffer bo := by
  cases bo with
  | some buffer => exact kept.cache framed
  | none =>
    rcases framed with none_ | solid
    · exact .inl none_
    · rcases kept.solid with same | unused
      · exact .inr (solid.trans (congrArg DumbBuffer.framebuffer same).symm)
      · exact .inl (solid.trans unused)

theorem FlowPlane.imp {others : List LockedBuffer} (plane : FlowPlane setup world shown)
    (more : shown ⊆ others) : FlowPlane setup world others where
  readback := plane.readback
  unused := plane.unused
  shows := fun used scanout key on content =>
    let ⟨buffer, among, same⟩ := plane.shows used scanout key on content
    ⟨buffer, more among, same⟩

/-- What is scanned out afterwards was so before and shows the same. -/
theorem FlowPlane.scanned (plane : FlowPlane setup world shown)
    (planes : after.planes.flowPlaneId = world.planes.flowPlaneId)
    (scanned : ∀ plane scanout, scanoutOf after.calls plane = some scanout →
      scanoutOf world.calls plane = some scanout ∧
        contentOf after.calls scanout.framebuffer = contentOf world.calls scanout.framebuffer) :
    FlowPlane setup after shown where
  readback := fun readback => planes.trans (plane.readback readback)
  unused := fun beside none_ id => by
    cases on : scanoutOf after.calls id with
    | none => rfl
    | some scanout =>
      have was := (scanned id scanout on).1
      rw [plane.unused beside (planes.symm.trans none_) id] at was
      cases was
  shows := fun used scanout key on content => by
    rw [planes] at used on
    obtain ⟨was, same⟩ := scanned _ scanout on
    exact plane.shows used scanout key was (same.symm.trans content)

theorem FlowPlane.framebuffers (plane : FlowPlane setup world shown) (backed : Backed world.calls)
    (planes : after.planes.flowPlaneId = world.planes.flowPlaneId)
    (grown : Extends (handlesFramebuffers kind) world.calls after.calls) :
    FlowPlane setup after shown :=
  plane.scanned planes (scanned_framebuffers grown backed)

theorem FlowPlane.flow (plane : FlowPlane setup world shown) (backed : Backed world.calls)
    (planes : after.planes.flowPlaneId = world.planes.flowPlaneId)
    (grown : Extends handlesFlowFrames world.calls after.calls) : FlowPlane setup after shown := by
  refine plane.scanned planes fun id scanout on => ?_
  rw [scanoutOf_flow grown] at on
  obtain ⟨content, exists_⟩ := Option.isSome_iff_exists.1 (backed id scanout on)
  exact ⟨on, (content_flow grown exists_).trans exists_.symm⟩

/-- A buffer is released safely if the Flow plane shows at most the other ones. -/
theorem released_apart (held : Locks world.calls (buffer :: buffers))
    (plane : FlowPlane setup world shown) (others : shown ⊆ buffers) :
    SparesFlowPlane setup (.releaseBuffer buffer world.planes.flowPlaneId) world.calls := by
  intro used scanout on content
  obtain ⟨other, among, same⟩ := plane.shows used scanout _ on content
  exact held.apart (others among) (setup.flowKeysDiffer _ _ same).symm

end Shown

/-- The frame a call took: again the current one, another one, or none to read back. -/
def Taken (setup : Setup) (world : World) (flow : AcquiredFlow) : Prop :=
  flow.framebuffer = world.flow.currentFramebuffer ∧ flow.bo = none ∨
    flow.framebuffer ≠ 0 ∧ Framed setup world flow.framebuffer flow.bo ∨
    setup.display.primaryFlowReadback = true ∧ flow = {}

def PresenterSound (setup : Setup) (world : World) : Presenter → Prop
  | .idle => True
  | .prepared _ _ | .locked _ _ _ => HasFlowPlane setup world
  | .acquired _ _ flow | .committed _ _ flow _ => HasFlowPlane setup world ∧ Taken setup world flow

def FlowThreadSound (setup : Setup) (world : World) : FlowThread → Prop
  | .framed flow => Framed setup world flow.framebuffer flow.bo
  | _ => True

/-- The buffers that the Flow plane may show: the current one, or the one of a call
that was committed. -/
def onDisplay (threads : Threads) : List LockedBuffer :=
  match threads.presenter with
  | .committed _ _ flow true =>
    if flow.framebuffer = threads.world.flow.currentFramebuffer then
      threads.world.flow.currentBo.toList
    else flow.bo.toList
  | _ => threads.world.flow.currentBo.toList

/-- What every phase preserves. -/
structure Sound (setup : Setup) (threads : Threads) : Prop where
  base : Base setup threads.world
  locks : Locks threads.world.calls (owned threads)
  plane : FlowPlane setup threads.world (onDisplay threads)
  spares : Throughout (SparesFlowPlane setup) threads.world.calls
  pending : Framed setup threads.world threads.world.flow.pendingFramebuffer
    threads.world.flow.pendingBo
  current : Framed setup threads.world threads.world.flow.currentFramebuffer
    threads.world.flow.currentBo
  presenter : PresenterSound setup threads.world threads.presenter
  flowThread : FlowThreadSound setup threads.world threads.flowThread

/-- No frame changes hands. -/
structure FlowStays (world after : World) : Prop where
  kept : FlowKept world after
  pending : after.flow.pendingFramebuffer = world.flow.pendingFramebuffer ∧
    after.flow.pendingBo = world.flow.pendingBo
  current : after.flow.currentFramebuffer = world.flow.currentFramebuffer ∧
    after.flow.currentBo = world.flow.currentBo

section Stays
variable {setup : Setup} {world after : World}

theorem flowKept_of_eq (same : after.flow = world.flow) : FlowKept world after := by
  refine ⟨?_, .inl (congrArg FlowBuffers.solid same)⟩
  rw [same]
  exact List.Subset.refl _

theorem flowStays_of_eq (same : after.flow = world.flow) : FlowStays world after := by
  refine ⟨flowKept_of_eq same, ?_, ?_⟩
  · rw [same]
    exact ⟨rfl, rfl⟩
  · rw [same]
    exact ⟨rfl, rfl⟩

theorem Taken.kept {flow : AcquiredFlow} (taken : Taken setup world flow)
    (kept : FlowKept world after)
    (current : after.flow.currentFramebuffer = world.flow.currentFramebuffer) :
    Taken setup after flow := by
  rcases taken with ⟨again, none_⟩ | ⟨used, framed⟩ | back
  · exact .inl ⟨again.trans current.symm, none_⟩
  · exact .inr (.inl ⟨used, framed.kept kept⟩)
  · exact .inr (.inr back)

theorem hasFlowPlane_kept (has : HasFlowPlane setup world)
    (planes : after.planes.flowPlaneId = world.planes.flowPlaneId) : HasFlowPlane setup after :=
  has.imp id fun used => planes ▸ used

theorem PresenterSound.kept {presenter : Presenter} (sound : PresenterSound setup world presenter)
    (kept : FlowKept world after)
    (current : after.flow.currentFramebuffer = world.flow.currentFramebuffer)
    (planes : after.planes.flowPlaneId = world.planes.flowPlaneId) :
    PresenterSound setup after presenter := by
  cases presenter with
  | idle => trivial
  | prepared call video => exact hasFlowPlane_kept sound planes
  | locked call video buffer => exact hasFlowPlane_kept sound planes
  | acquired call video flow => exact ⟨hasFlowPlane_kept sound.1 planes, sound.2.kept kept current⟩
  | committed call video flow succeeded =>
    exact ⟨hasFlowPlane_kept sound.1 planes, sound.2.kept kept current⟩

theorem FlowThreadSound.kept {flowThread : FlowThread}
    (sound : FlowThreadSound setup world flowThread) (kept : FlowKept world after) :
    FlowThreadSound setup after flowThread := by
  cases flowThread with
  | idle => trivial
  | locked reply buffer => trivial
  | framed flow => exact Framed.kept sound kept

theorem Base.flow (base : Base setup world) (held : Held setup after)
    (planes : after.planes = world.planes)
    (grown : Extends handlesFlowFrames world.calls after.calls) : Base setup after :=
  ⟨held, planes ▸ base.assigned, base.backed.flow grown⟩

theorem pending_stays {threads : Threads} (sound : Sound setup threads)
    (stays : FlowStays threads.world after) :
    Framed setup after after.flow.pendingFramebuffer after.flow.pendingBo := by
  rw [stays.pending.1, stays.pending.2]
  exact sound.pending.kept stays.kept

theorem current_stays {threads : Threads} (sound : Sound setup threads)
    (stays : FlowStays threads.world after) :
    Framed setup after after.flow.currentFramebuffer after.flow.currentBo := by
  rw [stays.current.1, stays.current.2]
  exact sound.current.kept stays.kept

end Stays

section Framing
variable {setup : Setup} {world : World} {buffer : LockedBuffer}

theorem addGbmFramebuffer_spec (key : FlowFramebufferKey) (reply : LockReply) (world : World) :
    Ends (addGbmFramebuffer key reply) world
      (fun framebuffer after => framebuffer ≠ 0 ∧ contentOf world.calls framebuffer = none ∧
        after = world.note (.addFramebuffer framebuffer (.flow key)))
      (fun after => after = world) := by
  unfold addGbmFramebuffer
  split
  · cases reply.withModifiers with
    | added proposed => exact addFramebuffer_spec _ _ _
    | invalidArgument => exact addFramebuffer_spec _ _ _
    | failed => exact ends_giveUp rfl
  · exact addFramebuffer_spec _ _ _

/-- What getting a framebuffer changes: one may be new, and kept with its key. -/
structure Framing (setup : Setup) (buffer : LockedBuffer) (world : World) (framebuffer : Nat)
    (after : World) : Prop where
  framed : Framed setup after framebuffer (some buffer)
  stays : FlowStays world after
  planes : after.planes = world.planes
  calls : after.calls = world.calls ∨ framebuffer ≠ 0 ∧ contentOf world.calls framebuffer = none ∧
    after.calls = .addFramebuffer framebuffer (.flow (setup.flowKey buffer.object)) :: world.calls

theorem Framing.locks {after : World} (framing : Framing setup buffer world framebuffer after) :
    DrmCalls.locks after.calls = DrmCalls.locks world.calls := by
  rcases framing.calls with same | ⟨_, _, added⟩
  · rw [same]
  · rw [added]
    rfl

theorem Framing.grown {after : World} (framing : Framing setup buffer world framebuffer after) :
    Extends handlesFlowFrames world.calls after.calls := by
  rcases framing.calls with same | ⟨used, free, added⟩
  · rw [same]
    exact .same
  · rw [added]
    exact .one ⟨used, free⟩

theorem Framing.spares {after : World} (framing : Framing setup buffer world framebuffer after)
    (spares : Throughout (SparesFlowPlane setup) world.calls) :
    Throughout (SparesFlowPlane setup) after.calls := by
  rcases framing.calls with same | ⟨_, _, added⟩
  · exact same ▸ spares
  · rw [added]
    exact throughout_cons.2 ⟨trivial, spares⟩

theorem findOrAddFlowFramebuffer_spec (setup : Setup) (buffer : LockedBuffer) (reply : LockReply)
    (world : World) :
    Ends (findOrAddFlowFramebuffer (setup.flowKey buffer.object) reply) world
      (fun framebuffer after => Framing setup buffer world framebuffer after)
      (fun after => after = world) := by
  refine ends_read_bind ?_
  cases found : world.flow.cache.lookup (setup.flowKey buffer.object) with
  | some framebuffer =>
    exact ends_pure ⟨mem_of_lookup found, flowStays_of_eq rfl, rfl, .inl rfl⟩
  | none =>
    refine Ends.bind ((addGbmFramebuffer_spec _ reply world).imp (fun _ _ new => new)
      fun _ same => same) ?_
    rintro framebuffer after ⟨used, free, same⟩
    subst same
    refine ends_change_bind (ends_pure ⟨List.mem_append_right _ List.mem_cons_self, ?_, rfl,
      .inr ⟨used, free, rfl⟩⟩)
    exact ⟨⟨List.subset_append_left _ _, .inl rfl⟩, ⟨rfl, rfl⟩, ⟨rfl, rfl⟩⟩

/-- A buffer without a framebuffer is released. -/
theorem frameLockedBuffer_spec (setup : Setup) (buffer : LockedBuffer) (reply : LockReply)
    (world : World) :
    Ends (frameLockedBuffer setup buffer reply) world
      (fun framebuffer after => Framing setup buffer world framebuffer after)
      (fun after => after = releaseBuffer (some buffer) world) := by
  have found := findOrAddFlowFramebuffer_spec setup buffer reply world
  unfold Ends at found
  unfold Ends frameLockedBuffer
  cases made : findOrAddFlowFramebuffer (setup.flowKey buffer.object) reply world with
  | mk framebuffer after =>
    rw [made] at found
    cases framebuffer with
    | some framebuffer => exact found
    | none => exact congrArg (releaseBuffer (some buffer)) found

end Framing

section Phases
variable {setup : Setup} {threads : Threads} {world : World}

/-- A buffer is locked by a call that was about to. -/
theorem Sound.locked {after : Threads} {buffer : LockedBuffer} (sound : Sound setup threads)
    (free : buffer.object ∉ (lockedBuffers threads.world.calls).map (·.object))
    (numbered : buffer.lock = lockCount threads.world.calls)
    (noted : after.world = threads.world.note (.lockFrontBuffer buffer))
    (owner : (buffer :: owned threads).Perm (owned after))
    (display : onDisplay after = onDisplay threads)
    (presenter : PresenterSound setup after.world after.presenter)
    (flowThread : FlowThreadSound setup after.world after.flowThread) : Sound setup after := by
  have grown : Extends handlesFlowFrames threads.world.calls after.world.calls := by
    rw [noted]
    exact .one ⟨free, numbered⟩
  have flow : after.world.flow = threads.world.flow := by rw [noted]; rfl
  have planes : after.world.planes = threads.world.planes := by rw [noted]; rfl
  have stays : FlowStays threads.world after.world := flowStays_of_eq flow
  refine ⟨?_, ?_, ?_, ?_, pending_stays sound stays, current_stays sound stays, presenter, flowThread⟩
  · have held : Held setup after.world := noted ▸ sound.base.held.neutral rfl rfl
    exact sound.base.flow held planes grown
  · rw [noted]
    exact (sound.locks.lock free numbered).perm owner
  · rw [display]
    exact sound.plane.flow sound.base.backed (congrArg _ planes) grown
  · rw [noted]
    exact throughout_cons.2 ⟨trivial, sound.spares⟩

/-- A buffer on its way gets its framebuffer. -/
theorem Sound.framed {after : Threads} {buffer : LockedBuffer} (sound : Sound setup threads)
    (framing : Framing setup buffer threads.world framebuffer after.world)
    (held : Held setup after.world) (owner : owned after = owned threads)
    (display : onDisplay after = onDisplay threads)
    (presenter : PresenterSound setup after.world after.presenter)
    (flowThread : FlowThreadSound setup after.world after.flowThread) : Sound setup after := by
  refine ⟨sound.base.flow held framing.planes framing.grown, ?_, ?_, ?_,
    pending_stays sound framing.stays, current_stays sound framing.stays, presenter, flowThread⟩
  · rw [owner]
    exact sound.locks.same framing.locks
  · rw [display]
    exact sound.plane.flow sound.base.backed (congrArg _ framing.planes) framing.grown
  · exact framing.spares sound.spares

/-- Frames change hands without a call. -/
theorem Sound.moved {after : Threads} (sound : Sound setup threads) (held : Held setup after.world)
    (calls : after.world.calls = threads.world.calls) (planes : after.world.planes = threads.world.planes)
    (owner : (owned threads).Perm (owned after)) (display : onDisplay after = onDisplay threads)
    (pending : Framed setup after.world after.world.flow.pendingFramebuffer after.world.flow.pendingBo)
    (current : Framed setup after.world after.world.flow.currentFramebuffer after.world.flow.currentBo)
    (presenter : PresenterSound setup after.world after.presenter)
    (flowThread : FlowThreadSound setup after.world after.flowThread) : Sound setup after := by
  have grown : Extends handlesFlowFrames threads.world.calls after.world.calls := calls ▸ .same
  refine ⟨sound.base.flow held planes grown, ?_, ?_, ?_, pending, current, presenter, flowThread⟩
  · rw [calls]
    exact sound.locks.perm owner
  · rw [display]
    exact sound.plane.flow sound.base.backed (congrArg _ planes) grown
  · rw [calls]
    exact sound.spares

/-- A buffer is released that is not on display. -/
theorem Sound.released {after : Threads} {buffer : LockedBuffer} (sound : Sound setup threads)
    (held : Held setup after.world)
    (calls : after.world.calls = (releaseBuffer (some buffer) threads.world).calls)
    (planes : after.world.planes = threads.world.planes)
    (owner : (owned threads).Perm (buffer :: owned after))
    (display : onDisplay after = onDisplay threads) (others : onDisplay threads ⊆ owned after)
    (pending : Framed setup after.world after.world.flow.pendingFramebuffer after.world.flow.pendingBo)
    (current : Framed setup after.world after.world.flow.currentFramebuffer after.world.flow.currentBo)
    (presenter : PresenterSound setup after.world after.presenter)
    (flowThread : FlowThreadSound setup after.world after.flowThread) : Sound setup after := by
  have grown : Extends handlesFlowFrames threads.world.calls after.world.calls := by
    rw [calls]
    exact .one trivial
  have locks := sound.locks.perm owner
  refine ⟨sound.base.flow held planes grown, ?_, ?_, ?_, pending, current, presenter, flowThread⟩
  · rw [calls]
    exact locks.release
  · rw [display]
    exact sound.plane.flow sound.base.backed (congrArg _ planes) grown
  · rw [calls]
    exact throughout_cons.2 ⟨released_apart locks sound.plane others, sound.spares⟩

theorem onDisplay_stays {presenter : Presenter} {after : World} (stays : FlowStays world after) :
    onDisplay ⟨after, presenter, others⟩ = onDisplay ⟨world, presenter, flowThread⟩ := by
  unfold onDisplay
  dsimp only
  rw [stays.current.1, stays.current.2]

/-- What is on display belongs to the presenter or is current. -/
theorem onDisplay_owned (threads : Threads) : onDisplay threads ⊆
    presenterBuffers threads.presenter ++ threads.world.flow.currentBo.toList := by
  obtain ⟨world, presenter, flowThread⟩ := threads
  cases presenter with
  | idle => exact List.subset_append_right _ _
  | prepared call video => exact List.subset_append_right _ _
  | locked call video buffer => exact List.subset_append_right _ _
  | acquired call video flow => exact List.subset_append_right _ _
  | committed call video flow succeeded =>
    cases succeeded with
    | false => exact List.subset_append_right _ _
    | true =>
      unfold onDisplay
      dsimp only
      split
      · exact List.subset_append_right _ _
      · exact List.subset_append_left _ _

/-- The Flow thread puts its frame in the place of the pending one. -/
theorem publishFlow_sound {flow : AcquiredFlow} {presenter : Presenter}
    {flowThread : FlowThread} (sound : Sound setup ⟨world, presenter, flowThread⟩)
    (buffers : flowThreadBuffers flowThread = flow.bo.toList)
    (framed : Framed setup world flow.framebuffer flow.bo) :
    Sound setup ⟨publishFlow flow world, presenter, .idle⟩ := by
  have held := publishFlow_held flow sound.base.held
  have owners : owned ⟨world, presenter, flowThread⟩ = world.flow.pendingBo.toList ++
      (flow.bo.toList ++ (presenterBuffers presenter ++ world.flow.currentBo.toList)) := by
    rw [← buffers]
    rfl
  have others : onDisplay ⟨world, presenter, flowThread⟩ ⊆ flow.bo.toList ++
      (presenterBuffers presenter ++ world.flow.currentBo.toList) :=
    List.Subset.trans (onDisplay_owned _) (List.subset_append_right _ _)
  unfold publishFlow at held ⊢
  cases pending : world.flow.pendingBo with
  | none =>
    rw [pending] at owners held
    have kept : FlowKept world (withPending flow world) := ⟨List.Subset.refl _, .inl rfl⟩
    exact sound.moved held rfl rfl (.of_eq owners) rfl (framed.kept kept) (sound.current.kept kept)
      (sound.presenter.kept kept rfl rfl) trivial
  | some buffer =>
    rw [pending] at owners held
    have kept : FlowKept world (withPending flow (releaseBuffer (some buffer) world)) :=
      ⟨List.Subset.refl _, .inl rfl⟩
    exact sound.released held rfl rfl (.of_eq owners) rfl others (framed.kept kept)
      (sound.current.kept kept) (sound.presenter.kept kept rfl rfl) trivial

theorem publishRendered_sound (sound : Sound setup threads) (reply : LockReply) :
    Sound setup (act setup threads (.publishRendered reply)) := by
  obtain ⟨world, presenter, flowThread⟩ := threads
  cases flowThread with
  | idle =>
    have ends := onward_ends FlowThread.idle (FlowThread.locked reply)
      (lockFrontBuffer_spec reply world)
    change Sound setup ⟨(onward _ _ (lockFrontBuffer reply) world).2, presenter,
      (onward .idle (.locked reply) (lockFrontBuffer reply) world).1⟩
    rcases ends with ⟨buffer, phase, free, numbered, same⟩ | ⟨phase, same⟩
    · rw [phase, same]
      refine sound.locked free numbered rfl ?_ rfl
        (sound.presenter.kept (flowKept_of_eq rfl) rfl rfl) trivial
      exact List.perm_middle.symm
    · rw [phase, same]
      exact sound
  | locked reply buffer => exact sound
  | framed flow => exact sound

theorem flowThreadGoesOn_sound (sound : Sound setup threads) :
    Sound setup (act setup threads .flowThreadGoesOn) := by
  obtain ⟨world, presenter, flowThread⟩ := threads
  cases flowThread with
  | idle => exact sound
  | locked reply buffer =>
    have framed := (frameLockedBuffer_spec setup buffer reply world).and
      (frameLockedBuffer_held sound.base.held)
    have ends := onward_ends FlowThread.idle
      (fun framebuffer => FlowThread.framed ⟨framebuffer, some buffer, false⟩) framed
    change Sound setup ⟨(onward _ _ (frameLockedBuffer setup buffer reply) world).2, presenter,
      (onward .idle (fun framebuffer => .framed ⟨framebuffer, some buffer, false⟩)
        (frameLockedBuffer setup buffer reply) world).1⟩
    rcases ends with ⟨framebuffer, phase, framing, held, _⟩ | ⟨phase, same, _⟩
    · rw [phase]
      refine sound.framed framing held ?_ (onDisplay_stays framing.stays)
        (sound.presenter.kept framing.stays.kept framing.stays.current.1 (congrArg _ framing.planes))
        framing.framed
      unfold owned
      dsimp only
      rw [framing.stays.pending.2, framing.stays.current.2]
      rfl
    · rw [phase, same]
      refine sound.released (releaseBuffer_held (some buffer) sound.base.held) rfl rfl
        List.perm_middle rfl ?_ sound.pending sound.current
        (sound.presenter.kept (flowKept_of_eq rfl) rfl rfl) trivial
      exact List.Subset.trans (onDisplay_owned _) (List.subset_append_right _ _)
  | framed flow => exact publishFlow_sound sound rfl sound.flowThread

/-- What the first phase of a call leaves, whether it succeeds or not. -/
structure Prepared (setup : Setup) (world after : World) : Prop where
  base : Base setup after
  flow : after.flow = world.flow
  planes : FlowPlaneStays setup.display world.planes after.planes
  grown : Extends (handlesFramebuffers isVideo) world.calls after.calls

theorem prepare_spec (base : Base setup world) :
    Ends (prepare setup picture reply) world
      (fun _ after => Prepared setup world after ∧ HasFlowPlane setup after)
      (fun after => Prepared setup world after) := by
  have assigned : Ends (prepare setup picture reply) world
      (fun _ after => Assigned setup.display after.planes)
      (fun after => Assigned setup.display after.planes) :=
    prepare_keeps (assigned_keptByOverlays setup.display) base.assigned
      (assigned_keptByVideo base.assigned)
  have parts := ((prepare_held base.held).and assigned).and
    ((prepare_beside setup picture reply).ends world)
  have calls := ((prepare_grows setup picture reply).ends world).and
    ((prepare_flowPlane setup picture reply world).and (prepare_hasFlowPlane setup picture reply world))
  refine (parts.and calls).imp ?_ ?_
  · rintro video after ⟨⟨⟨held, assigned⟩, beside⟩, grown, planes, has⟩
    exact ⟨⟨⟨held, assigned, base.backed.framebuffers grown⟩, congrArg Prod.fst beside, planes,
      grown⟩, has⟩
  · rintro after ⟨⟨⟨held, assigned⟩, beside⟩, grown, planes, _⟩
    exact ⟨⟨held, assigned, base.backed.framebuffers grown⟩, congrArg Prod.fst beside, planes, grown⟩

/-- The Flow plane is chosen before anything is shown. -/
theorem FlowPlane.prepared {after : World} {shown : List LockedBuffer}
    (plane : FlowPlane setup world shown) (backed : Backed world.calls)
    (prepared : Prepared setup world after) : FlowPlane setup after shown := by
  rcases prepared.planes with same | ⟨missing, beside⟩
  · exact plane.framebuffers backed same prepared.grown
  · have nothing : ∀ plane, scanoutOf after.calls plane = none := by
      intro id
      cases on : scanoutOf after.calls id with
      | none => rfl
      | some scanout =>
        have was := (scanned_framebuffers prepared.grown backed id scanout on).1
        rw [plane.unused beside missing id] at was
        cases was
    refine ⟨fun back => ?_, fun _ _ => nothing, fun _ scanout key on _ => ?_⟩
    · exact absurd (beside.symm.trans back) Bool.false_ne_true
    · rw [nothing] at on
      cases on

theorem spares_framebuffers {calls after : List DeviceCall}
    (spares : Throughout (SparesFlowPlane setup) calls)
    (grown : Extends (handlesFramebuffers kind) calls after) :
    Throughout (SparesFlowPlane setup) after :=
  throughout_extends spares grown fun call _ allows => by
    cases call with
    | addFramebuffer framebuffer content => trivial
    | removeFramebuffer framebuffer named => trivial
    | primeImport fd handle => trivial
    | gemClose handle => trivial
    | atomicRequest request applied => trivial
    | lockFrontBuffer buffer => trivial
    | releaseBuffer buffer flowPlane => exact allows.elim

theorem present_sound (sound : Sound setup threads) (call : PresentCall) :
    Sound setup (act setup threads (.present call)) := by
  obtain ⟨world, presenter, flowThread⟩ := threads
  cases presenter with
  | idle =>
    have spec : Ends (prepare setup call.picture call.reply) world _ _ := prepare_spec sound.base
    have ends := onward_ends Presenter.idle (Presenter.prepared call) spec
    have sounds : ∀ after phase, Prepared setup world after → PresenterSound setup after phase →
        presenterBuffers phase = [] → (∀ flowThread : FlowThread, onDisplay ⟨after, phase, flowThread⟩ =
          after.flow.currentBo.toList) → Sound setup ⟨after, phase, flowThread⟩ := by
      intro after phase prepared phaseSound empty display
      have stays : FlowStays world after := flowStays_of_eq prepared.flow
      refine ⟨prepared.base, ?_, ?_, spares_framebuffers sound.spares prepared.grown,
        pending_stays sound stays, current_stays sound stays, phaseSound,
        sound.flowThread.kept stays.kept⟩
      · have same : owned ⟨after, phase, flowThread⟩ = owned ⟨world, .idle, flowThread⟩ := by
          unfold owned
          dsimp only
          rw [empty, prepared.flow]
          rfl
        rw [same]
        exact sound.locks.same (locks_framebuffers prepared.grown)
      · rw [display, prepared.flow]
        exact sound.plane.prepared sound.base.backed prepared
    change Sound setup ⟨(onward Presenter.idle _ (prepare setup call.picture call.reply) world).2,
      (onward .idle (.prepared call) (prepare setup call.picture call.reply) world).1, flowThread⟩
    rcases ends with ⟨video, phase, prepared, has⟩ | ⟨phase, prepared⟩
    · rw [phase]
      exact sounds _ _ prepared has rfl fun _ => rfl
    · rw [phase]
      exact sounds _ _ prepared trivial rfl fun _ => rfl
  | prepared call video => exact sound
  | locked call video buffer => exact sound
  | acquired call video flow => exact sound
  | committed call video flow succeeded => exact sound

/-- The threads after a phase of the presenter. -/
abbrev wentOn (flowThread : FlowThread) (result : Presenter × World) : Threads :=
  ⟨result.2, result.1, flowThread⟩

/-- The presenter takes the pending frame, or again the current one. -/
theorem pending_taken {video : VideoPart} (sound : Sound setup ⟨world, .prepared call video, flowThread⟩) :
    Sound setup (wentOn flowThread (onward .idle (.acquired call video) takePendingFlow world)) := by
  have ends := onward_ends Presenter.idle (Presenter.acquired call video)
    (takePendingFlow_spec world)
  rcases ends with ⟨flow, phase, ⟨used, same, taken⟩ | ⟨same, taken⟩⟩ | ⟨_, never⟩
  · rw [wentOn, phase, same]
    have kept : FlowKept world (withPending {} world) := ⟨List.Subset.refl _, .inl rfl⟩
    subst taken
    refine sound.moved (withPending_held {} sound.base.held) rfl rfl ?_ rfl (.inl rfl)
      (sound.current.kept kept) ⟨sound.presenter, .inr (.inl ⟨used, sound.pending.kept kept⟩)⟩
      (sound.flowThread.kept kept)
    refine List.perm_iff_count.2 fun buffer => ?_
    simp only [owned, presenterBuffers, withPending, List.count_append, Option.toList_none,
      List.count_nil]
    omega
  · rw [wentOn, phase, same]
    subst taken
    exact sound.moved sound.base.held rfl rfl (.refl _) rfl sound.pending sound.current
      ⟨sound.presenter, .inl ⟨rfl, rfl⟩⟩ sound.flowThread
  · exact never.elim

theorem presenter_locks {video : VideoPart}
    (sound : Sound setup ⟨world, .prepared call video, flowThread⟩) :
    Sound setup (wentOn flowThread
      (onward .idle (.locked call video) (lockFrontBuffer reply) world)) := by
  have ends := onward_ends Presenter.idle (Presenter.locked call video)
    (lockFrontBuffer_spec reply world)
  rcases ends with ⟨buffer, phase, free, numbered, same⟩ | ⟨phase, same⟩
  · rw [wentOn, phase, same]
    refine sound.locked free numbered rfl ?_ rfl sound.presenter
      (sound.flowThread.kept (flowKept_of_eq rfl))
    refine List.perm_iff_count.2 fun other => ?_
    simp only [owned, presenterBuffers, World.note, List.count_append, List.count_cons,
      List.count_nil]
    omega
  · rw [wentOn, phase, same]
    exact sound.moved sound.base.held rfl rfl (.refl _) rfl sound.pending sound.current trivial
      sound.flowThread

theorem presenter_frames {video : VideoPart}
    (sound : Sound setup ⟨world, .locked call video buffer, flowThread⟩) (reply : LockReply) :
    Sound setup (wentOn flowThread
      (onward .idle (fun framebuffer => .acquired call video ⟨framebuffer, some buffer, false⟩)
        (frameLockedBuffer setup buffer reply) world)) := by
  have framed := (frameLockedBuffer_spec setup buffer reply world).and
    (frameLockedBuffer_held sound.base.held)
  have ends := onward_ends Presenter.idle
    (fun framebuffer => Presenter.acquired call video ⟨framebuffer, some buffer, false⟩) framed
  rcases ends with ⟨framebuffer, phase, framing, held, content⟩ | ⟨phase, same, _⟩
  · rw [wentOn, phase]
    have used : framebuffer ≠ 0 := fun none_ => by
      rw [none_, held.zero] at content
      cases content
    refine sound.framed framing held ?_ ?_ ⟨?_, .inr (.inl ⟨used, framing.framed⟩)⟩
      (sound.flowThread.kept framing.stays.kept)
    · unfold owned
      dsimp only
      rw [framing.stays.pending.2, framing.stays.current.2]
      rfl
    · exact congrArg Option.toList framing.stays.current.2
    · exact hasFlowPlane_kept sound.presenter (congrArg _ framing.planes)
  · rw [wentOn, phase, same]
    refine sound.released (releaseBuffer_held (some buffer) sound.base.held) rfl rfl ?_ rfl ?_
      sound.pending sound.current trivial (sound.flowThread.kept (flowKept_of_eq rfl))
    · refine List.perm_iff_count.2 fun other => ?_
      simp only [owned, presenterBuffers, releaseBuffer, World.note, List.count_append,
        List.count_cons, List.count_nil]
      omega
    · refine List.Subset.trans ?_ (List.subset_append_right _ _)
      exact List.Subset.trans (List.subset_append_right [] _) (List.subset_append_right _ _)

/-- What a call shows once its commit is applied. -/
def shownBy (world : World) (flow : AcquiredFlow) : List LockedBuffer :=
  if flow.framebuffer = world.flow.currentFramebuffer then world.flow.currentBo.toList
  else flow.bo.toList

theorem Taken.content {flow : AcquiredFlow} (taken : Taken setup world flow)
    (held : Held setup world)
    (current : Framed setup world world.flow.currentFramebuffer world.flow.currentBo)
    (content : contentOf world.calls flow.framebuffer = some (.flow key)) :
    ∃ buffer ∈ shownBy world flow, key = setup.flowKey buffer.object := by
  unfold shownBy
  split
  · rename_i same
    exact current.content held (same ▸ content)
  · rename_i different
    rcases taken with ⟨again, _⟩ | ⟨_, framed⟩ | ⟨_, nothing⟩
    · exact absurd again different
    · exact framed.content held content
    · rw [nothing, held.zero] at content
      cases content

/-- The request shows the frame it took, unless it is on display already. -/
theorem FlowPlane.applied {flow : AcquiredFlow} {after : World} (base : Base setup world)
    (plane : FlowPlane setup world world.flow.currentBo.toList)
    (current : Framed setup world world.flow.currentFramebuffer world.flow.currentBo)
    (has : HasFlowPlane setup world) (taken : Taken setup world flow)
    (planes : after.planes = world.planes)
    (calls : after.calls =
      .atomicRequest (atomicRequest setup world video flow.framebuffer) true :: world.calls) :
    FlowPlane setup after (shownBy world flow) where
  readback := fun back => planes ▸ plane.readback back
  unused := fun beside none_ => by
    rw [planes] at none_
    rcases has with back | used
    · exact absurd (beside.symm.trans back) Bool.false_ne_true
    · exact absurd none_ used
  shows := fun used scanout key on content => by
    rw [planes] at used on
    rw [calls] at on content
    have content : contentOf world.calls scanout.framebuffer = some (.flow key) := content
    rw [scanoutOf, if_pos rfl, flow_updated base.assigned.apart used, flowUpdate] at on
    split at on
    · rw [updateOf_single] at on
      cases on
      exact taken.content base.held current content
    · rename_i skipped
      have same : flow.framebuffer = world.flow.currentFramebuffer := by
        rcases taken with ⟨again, _⟩ | ⟨shown, _⟩ | ⟨back, _⟩
        · exact again
        · simp only [Bool.and_eq_true, bne_iff_ne, Bool.or_eq_true] at skipped
          exact Classical.byContradiction fun different =>
            skipped ⟨⟨shown, used⟩, .inr different⟩
        · exact absurd (plane.readback back) used
      rw [shownBy, if_pos same]
      exact plane.shows used scanout key on content

/-- A request that was not applied shows nothing new. -/
theorem unapplied {after : World}
    (spares : Throughout (SparesFlowPlane setup) world.calls)
    (refused : NotApplied setup video flowFramebuffer world after) :
    (∀ plane scanout, scanoutOf after.calls plane = some scanout →
      scanoutOf world.calls plane = some scanout ∧
        contentOf after.calls scanout.framebuffer = contentOf world.calls scanout.framebuffer) ∧
      locks after.calls = locks world.calls ∧ Throughout (SparesFlowPlane setup) after.calls := by
  rcases refused.calls with calls | calls
  · rw [calls]
    exact ⟨fun _ _ on => ⟨on, rfl⟩, rfl, spares⟩
  · rw [calls]
    exact ⟨fun _ _ on => ⟨on, rfl⟩, rfl, throughout_cons.2 ⟨trivial, spares⟩⟩

theorem committed_sound {flow : AcquiredFlow} {after : World} {video : VideoPart}
    (sound : Sound setup ⟨world, .acquired call video flow, flowThread⟩)
    (held : Held setup after) (same : SameBuffers world after)
    (backed : Backed after.calls) (locks : locks after.calls = locks world.calls)
    (spares : Throughout (SparesFlowPlane setup) after.calls)
    (plane : FlowPlane setup after (onDisplay ⟨after, .committed call video flow succeeded, flowThread⟩)) :
    Sound setup ⟨after, .committed call video flow succeeded, flowThread⟩ := by
  have planes : after.planes = world.planes := congrArg Prod.fst same.beside
  have flows : after.flow = world.flow := congrArg (fun parts => parts.2.2.1) same.beside
  have stays : FlowStays world after := flowStays_of_eq flows
  refine ⟨⟨held, planes ▸ sound.base.assigned, backed⟩, ?_, plane, spares, pending_stays sound stays,
    current_stays sound stays, ?_, sound.flowThread.kept stays.kept⟩
  · have owner : owned ⟨after, .committed call video flow succeeded, flowThread⟩ =
        owned ⟨world, .acquired call video flow, flowThread⟩ := by
      unfold owned
      dsimp only
      rw [flows]
      rfl
    rw [owner]
    exact sound.locks.same locks
  · have acquired : PresenterSound setup world (.acquired call video flow) := sound.presenter
    exact acquired.kept stays.kept stays.current.1 (congrArg _ planes)

theorem presenter_commits {flow : AcquiredFlow} {video : VideoPart}
    (sound : Sound setup ⟨world, .acquired call video flow, flowThread⟩)
    (spared : flow.bo.isSome = true →
      commitReached setup video flow.framebuffer call.reply.commit world = true →
        ¬ writebackFails world call.reply.commit) :
    Sound setup (wentOn flowThread (presenterPhase setup (.acquired call video flow) world)) := by
  have ends := (commit_spec setup video flow.framebuffer
    (nonblockingAllowed call.picture call.updateFlowFrame flow) call.reply.commit world).and
    (commit_held sound.base.held)
  have applies : ∀ {after}, SameBuffers world after →
      Applied setup video flow.framebuffer call.reply.commit world after →
      FlowPlane setup after (shownBy world flow) := fun same applied =>
    FlowPlane.applied sound.base sound.plane sound.current sound.presenter.1 sound.presenter.2
      (congrArg Prod.fst same.beside) applied.calls
  have showing : ∀ {after}, Applied setup video flow.framebuffer call.reply.commit world after →
      Backed after.calls ∧ locks after.calls = locks world.calls ∧
        Throughout (SparesFlowPlane setup) after.calls := by
    intro after applied
    rw [applied.calls]
    exact ⟨sound.base.backed.request (named_of_reached applied.reached), rfl,
      throughout_cons.2 ⟨trivial, sound.spares⟩⟩
  unfold Ends at ends
  cases made : commit setup video flow.framebuffer
      (nonblockingAllowed call.picture call.updateFlowFrame flow) call.reply.commit world with
  | mk result after =>
    have phase : presenterPhase setup (.acquired call video flow) world =
        (.committed call video flow result.isSome, after) := by
      simp only [presenterPhase, made]
      cases result <;> rfl
    rw [made] at ends
    rw [wentOn, phase]
    cases result with
    | some _ =>
      change Sound setup ⟨after, .committed call video flow true, flowThread⟩
      obtain ⟨⟨same, applied⟩, held⟩ := ends
      obtain ⟨backed, locks, spares⟩ := showing applied
      refine committed_sound sound held same backed locks spares ?_
      have flows : after.flow = world.flow := congrArg (fun parts => parts.2.2.1) same.beside
      have display : onDisplay ⟨after, .committed call video flow true, flowThread⟩ =
          shownBy world flow := by
        unfold onDisplay shownBy
        dsimp only
        rw [flows]
      rw [display]
      exact applies same applied
    | none =>
      change Sound setup ⟨after, .committed call video flow false, flowThread⟩
      obtain ⟨⟨same, failed⟩, held⟩ := ends
      have flows : after.flow = world.flow := congrArg (fun parts => parts.2.2.1) same.beside
      have display : onDisplay ⟨after, .committed call video flow false, flowThread⟩ =
          world.flow.currentBo.toList := by
        unfold onDisplay
        dsimp only
        rw [flows]
      rcases failed with refused | ⟨failed, applied⟩
      · obtain ⟨grown, locks, spares⟩ := unapplied sound.spares refused
        refine committed_sound sound held same (sound.base.backed.scanned grown) locks spares ?_
        exact display ▸ sound.plane.scanned (congrArg _ (congrArg Prod.fst same.beside)) grown
      · obtain ⟨backed, locks, spares⟩ := showing applied
        refine committed_sound sound held same backed locks spares ?_
        have noBuffer : flow.bo = none := by
          cases bo : flow.bo with
          | none => rfl
          | some buffer =>
            exact absurd failed (spared (by rw [bo]; rfl) applied.reached)
        refine display ▸ (applies same applied).imp ?_
        unfold shownBy
        rw [noBuffer]
        split
        · exact List.Subset.refl _
        · exact List.nil_subset _

theorem adopt_state (flow : AcquiredFlow) (world : World) :
    (adoptFlowFramebuffer flow world).flow =
        (if flow.framebuffer = world.flow.currentFramebuffer ∧ flow.bo = none then world.flow
          else { world.flow with
            currentFramebuffer := flow.framebuffer, currentBo := flow.bo,
            currentIsSolidDumb := flow.solidDumb }) ∧
      (adoptFlowFramebuffer flow world).calls =
        (if flow.framebuffer = world.flow.currentFramebuffer then world.calls
          else (releaseBuffer world.flow.currentBo world).calls) := by
  unfold adoptFlowFramebuffer
  dsimp only
  by_cases again : flow.framebuffer = world.flow.currentFramebuffer
  · by_cases nothing : flow.bo = none
    · simp [again, nothing]
    · simp [again, nothing, adoptFlow]
  · cases bo : world.flow.currentBo with
    | none => simp [again, adoptFlow, releaseBuffer]
    | some buffer => simp [again, adoptFlow, releaseBuffer, World.note]

/-- A frame of the same framebuffer as the current one has no buffer of its own. -/
theorem again_noBuffer {flow : AcquiredFlow} {video : VideoPart}
    (sound : Sound setup ⟨world, .committed call video flow true, flowThread⟩)
    (again : flow.framebuffer = world.flow.currentFramebuffer) : flow.bo = none := by
  cases bo : flow.bo with
  | none => rfl
  | some buffer =>
    have taken := sound.presenter.2
    have framed : Framed setup world flow.framebuffer (some buffer) := by
      rcases taken with ⟨_, nothing⟩ | ⟨_, framed⟩ | ⟨_, nothing⟩
      · rw [bo] at nothing
        cases nothing
      · exact bo ▸ framed
      · rw [nothing] at bo
        cases bo
    have own := sound.base.held.exist _ (flow_held framed)
    rw [again] at own
    obtain ⟨other, among, same⟩ := sound.current.content sound.base.held own
    have owners : (owned ⟨world, .committed call video flow true, flowThread⟩).Perm
        (buffer :: (world.flow.pendingBo.toList ++
          (flowThreadBuffers flowThread ++ world.flow.currentBo.toList))) := by
      refine List.perm_iff_count.2 fun item => ?_
      simp only [owned, presenterBuffers, bo, Option.toList_some, List.count_append,
        List.count_cons, List.count_nil]
      omega
    have apart := (sound.locks.perm owners).apart (List.mem_append_right _ (List.mem_append_right _ among))
    exact absurd (setup.flowKeysDiffer _ _ same).symm apart

/-- What was committed becomes current, and the buffer it replaces is released. -/
theorem adopted_sound {flow : AcquiredFlow} {video : VideoPart} {remembered : World}
    (sound : Sound setup ⟨world, .committed call video flow true, flowThread⟩)
    (held : Held setup (adoptFlowFramebuffer flow remembered))
    (flows : remembered.flow = world.flow) (assigned : remembered.planes = world.planes)
    (calls : remembered.calls = world.calls) :
    Sound setup ⟨adoptFlowFramebuffer flow remembered, .idle, flowThread⟩ := by
  obtain ⟨adopted, released⟩ := adopt_state flow remembered
  have planes : (adoptFlowFramebuffer flow remembered).planes = world.planes :=
    (congrArg Prod.fst (adoptFlowFramebuffer_beside flow remembered)).trans assigned
  rw [flows] at adopted released
  by_cases again : flow.framebuffer = world.flow.currentFramebuffer
  · have nothing := again_noBuffer sound again
    rw [if_pos ⟨again, nothing⟩] at adopted
    rw [if_pos again] at released
    have stays : FlowStays world (adoptFlowFramebuffer flow remembered) := flowStays_of_eq adopted
    refine sound.moved held (released.trans calls) planes (.of_eq ?_) ?_ (pending_stays sound stays)
      (current_stays sound stays) trivial (sound.flowThread.kept stays.kept)
    · unfold owned
      dsimp only
      rw [adopted, presenterBuffers, presenterBuffers, nothing]
      rfl
    · unfold onDisplay
      dsimp only
      rw [adopted, if_pos again]
  · rw [if_neg fun both => again both.1] at adopted
    rw [if_neg again] at released
    have kept : FlowKept world (adoptFlowFramebuffer flow remembered) := by
      refine ⟨?_, .inl ?_⟩
      · rw [adopted]
        exact List.Subset.refl _
      · rw [adopted]
    have pending : Framed setup (adoptFlowFramebuffer flow remembered)
        (adoptFlowFramebuffer flow remembered).flow.pendingFramebuffer
        (adoptFlowFramebuffer flow remembered).flow.pendingBo := by
      have same := sound.pending.kept kept
      rw [adopted]
      exact same
    have current : Framed setup (adoptFlowFramebuffer flow remembered)
        (adoptFlowFramebuffer flow remembered).flow.currentFramebuffer
        (adoptFlowFramebuffer flow remembered).flow.currentBo := by
      have framed : Framed setup world flow.framebuffer flow.bo := by
        rcases sound.presenter.2 with ⟨same, _⟩ | ⟨_, framed⟩ | ⟨_, nothing⟩
        · exact absurd same again
        · exact framed
        · rw [nothing]
          exact .inl rfl
      have same := framed.kept kept
      rw [adopted]
      exact same
    have display : onDisplay ⟨adoptFlowFramebuffer flow remembered, .idle, flowThread⟩ =
        onDisplay ⟨world, .committed call video flow true, flowThread⟩ := by
      unfold onDisplay
      dsimp only
      rw [adopted, if_neg again]
    have owners : owned ⟨adoptFlowFramebuffer flow remembered, .idle, flowThread⟩ =
        world.flow.pendingBo.toList ++ (flowThreadBuffers flowThread ++ flow.bo.toList) := by
      unfold owned
      dsimp only
      rw [adopted]
      rfl
    cases bo : world.flow.currentBo with
    | none =>
      rw [bo] at released
      refine sound.moved held (released.trans calls) planes ?_ display pending current trivial
        (sound.flowThread.kept kept)
      rw [owners]
      refine .of_eq ?_
      unfold owned
      dsimp only
      rw [bo, presenterBuffers, Option.toList_none, List.append_nil]
    | some buffer =>
      rw [bo] at released
      have noted : (releaseBuffer (some buffer) remembered).calls =
          (releaseBuffer (some buffer) world).calls := by
        change .releaseBuffer buffer remembered.planes.flowPlaneId :: remembered.calls = _
        rw [assigned, calls]
        rfl
      refine sound.released held (released.trans noted) planes ?_ display ?_ pending current trivial
        (sound.flowThread.kept kept)
      · rw [owners]
        refine List.perm_iff_count.2 fun item => ?_
        simp only [owned, presenterBuffers, bo, Option.toList_some, List.count_append,
          List.count_cons, List.count_nil]
        omega
      · rw [owners]
        have shown : onDisplay ⟨world, .committed call video flow true, flowThread⟩ =
            flow.bo.toList := if_neg again
        rw [shown]
        exact List.Subset.trans (List.subset_append_right _ _) (List.subset_append_right _ _)

theorem presenter_concludes {flow : AcquiredFlow} {video : VideoPart} (succeeded : Bool)
    (sound : Sound setup ⟨world, .committed call video flow succeeded, flowThread⟩) :
    Sound setup ⟨conclude call.picture video flow succeeded world, .idle, flowThread⟩ := by
  have held := conclude_held call.picture video flow succeeded sound.base.held
  cases succeeded with
  | true =>
    unfold conclude at held ⊢
    rw [if_pos rfl] at held ⊢
    cases picture : call.picture with
    | dmabuf frame =>
      rw [picture] at held
      exact adopted_sound sound held rfl rfl rfl
    | cpu frame =>
      rw [picture] at held
      exact adopted_sound sound held rfl rfl rfl
    | overlay =>
      rw [picture] at held
      exact adopted_sound sound held rfl rfl rfl
  | false =>
    change Held setup (releaseBuffer flow.bo world) at held
    change Sound setup ⟨releaseBuffer flow.bo world, .idle, flowThread⟩
    cases bo : flow.bo with
    | none =>
      refine sound.moved sound.base.held rfl rfl (.of_eq ?_) rfl sound.pending sound.current trivial
        sound.flowThread
      unfold owned
      dsimp only
      rw [presenterBuffers, presenterBuffers, bo]
      rfl
    | some buffer =>
      rw [bo] at held
      refine sound.released held rfl rfl ?_ rfl ?_ sound.pending sound.current trivial
        (sound.flowThread.kept (flowKept_of_eq rfl))
      · refine List.perm_iff_count.2 fun item => ?_
        simp only [owned, presenterBuffers, bo, releaseBuffer, World.note, Option.toList_some,
          List.count_append, List.count_cons, List.count_nil]
        omega
      · refine List.Subset.trans ?_ (List.subset_append_right _ _)
        exact List.Subset.trans (List.subset_append_right [] _) (List.subset_append_right _ _)

/-- The commit is applied and then fails, with a buffer on its way that it shows. -/
def FailsShowing (setup : Setup) (threads : Threads) : Act → Prop
  | .presenterGoesOn =>
    match threads.presenter with
    | .acquired call video flow => flow.bo.isSome = true ∧
      commitReached setup video flow.framebuffer call.reply.commit threads.world = true ∧
        writebackFails threads.world call.reply.commit
    | _ => False
  | _ => False

instance (setup : Setup) : (threads : Threads) → (action : Act) → Decidable (FailsShowing setup threads action)
  | ⟨_, .acquired _ _ _, _⟩, .presenterGoesOn => inferInstanceAs (Decidable (_ ∧ _ ∧ _ ∧ ¬ (_ ∧ _)))
  | ⟨_, .idle, _⟩, .presenterGoesOn | ⟨_, .prepared _ _, _⟩, .presenterGoesOn => isFalse id
  | ⟨_, .locked _ _ _, _⟩, .presenterGoesOn | ⟨_, .committed _ _ _ _, _⟩, .presenterGoesOn => isFalse id
  | _, .present _ | _, .publishRendered _ | _, .flowThreadGoesOn => isFalse id
  | _, .publishSolid _ | _, .call _ => isFalse id

theorem presenterGoesOn_sound (sound : Sound setup threads)
    (spared : ¬ FailsShowing setup threads .presenterGoesOn) :
    Sound setup (act setup threads .presenterGoesOn) := by
  obtain ⟨world, presenter, flowThread⟩ := threads
  change Sound setup (wentOn flowThread (presenterPhase setup presenter world))
  cases presenter with
  | idle => exact sound
  | prepared call video =>
    unfold presenterPhase
    dsimp only
    split
    · rename_i back
      exact sound.moved sound.base.held rfl rfl (.refl _) rfl sound.pending sound.current
        ⟨sound.presenter, .inr (.inr ⟨back, rfl⟩)⟩ sound.flowThread
    · split
      · exact presenter_locks sound
      · exact pending_taken sound
  | locked call video buffer => exact presenter_frames sound call.reply.locked
  | acquired call video flow =>
    exact presenter_commits sound fun some_ reached fails => spared ⟨some_, reached, fails⟩
  | committed call video flow succeeded => exact presenter_concludes succeeded sound

end Phases

section Runs
variable {setup : Setup} {threads : Threads} {world after : World} {kind : Content → Prop}

/-- A call beside the Flow frames. -/
theorem Sound.beside {presenter : Presenter} {flowThread : FlowThread}
    (sound : Sound setup ⟨world, presenter, flowThread⟩) (held : Held setup after)
    (planes : after.planes = world.planes) (stays : FlowStays world after)
    (grown : Extends (handlesFramebuffers kind) world.calls after.calls) :
    Sound setup ⟨after, presenter, flowThread⟩ := by
  refine ⟨⟨held, planes ▸ sound.base.assigned, sound.base.backed.framebuffers grown⟩, ?_, ?_,
    spares_framebuffers sound.spares grown, pending_stays sound stays, current_stays sound stays,
    sound.presenter.kept stays.kept stays.current.1 (congrArg _ planes),
    sound.flowThread.kept stays.kept⟩
  · have owner : owned ⟨after, presenter, flowThread⟩ = owned ⟨world, presenter, flowThread⟩ := by
      unfold owned
      dsimp only
      rw [stays.pending.2, stays.current.2]
    rw [owner]
    exact sound.locks.same (locks_framebuffers grown)
  · rw [onDisplay_stays stays]
    exact sound.plane.framebuffers sound.base.backed (congrArg _ planes) grown

/-- The solid buffer is only created while there is none. -/
theorem ensureSolidFlow_stays (reply : DumbReply) (world : World) :
    Ends (ensureSolidFlow reply) world (fun _ after => FlowStays world after) (FlowStays world) := by
  refine ends_read_bind ?_
  split
  · rename_i unused
    have created := (leaves_part World.flow (fun _ => rfl) (createDumbBuffer_state .solidFlow reply)).ends world
    refine (created.imp (fun _ _ same => same) fun _ same => flowStays_of_eq same).bind ?_
    intro solid after same
    have cache : world.flow.cache ⊆ after.flow.cache := by
      rw [same]
      exact List.Subset.refl _
    have pending := And.intro (congrArg FlowBuffers.pendingFramebuffer same)
      (congrArg FlowBuffers.pendingBo same)
    have current := And.intro (congrArg FlowBuffers.currentFramebuffer same)
      (congrArg FlowBuffers.currentBo same)
    exact ends_change ⟨⟨cache, .inr (beq_iff_eq.1 unused)⟩, pending, current⟩
  · exact ends_pure (flowStays_of_eq rfl)

theorem publishSolid_sound (sound : Sound setup threads) (reply : DumbReply) :
    Sound setup (act setup threads (.publishSolid reply)) := by
  obtain ⟨world, presenter, flowThread⟩ := threads
  cases flowThread with
  | idle =>
    have grown : Grows (ensureSolidFlow reply) World.calls (handlesFramebuffers (· = .solidFlow)) :=
      ensureSolidFlow_grows reply rfl
    have ensured := ((ensureSolidFlow_held sound.base.held).and (ensureSolidFlow_stays reply world)).and
      (((ensureSolidFlow_beside reply).ends world).and (grown.ends world))
    have sounds : ∀ after, (Held setup after ∧ FlowStays world after) ∧
        besideFlow after = besideFlow world ∧
          Extends (handlesFramebuffers (· = .solidFlow)) world.calls after.calls →
        Sound setup ⟨after, presenter, .idle⟩ := fun after ⟨⟨held, stays⟩, beside, grown⟩ =>
      sound.beside held (congrArg Prod.fst beside) stays grown
    have ends : Ends (publishSolidFlowFrame reply) world
        (fun _ after => Sound setup ⟨after, presenter, .idle⟩)
        (fun after => Sound setup ⟨after, presenter, .idle⟩) := by
      refine (ensured.imp (fun _ => sounds) sounds).bind fun _ after sound => ends_read_bind ?_
      exact ends_check_bind
        (fun _ => ends_change (publishFlow_sound sound rfl (.inr rfl))) fun _ => sound
    exact ends.after
  | locked reply buffer => exact sound
  | framed flow => exact sound

theorem call_sound (sound : Sound setup threads) (event : Event) :
    Sound setup (act setup threads (.call event)) := by
  obtain ⟨world, presenter, flowThread⟩ := threads
  have held := step_held event sound.base.held
  cases event with
  | present picture updateFlowFrame reply => exact sound
  | publishRenderedFlowFrame reply => exact sound
  | publishSolidFlowFrame reply => exact sound
  | publishSolidUiFrame reply =>
    have beside := publishSolidUiFrame_beside reply world
    have grown : Grows _ _ (handlesFramebuffers (· = .solidUi)) :=
      publishSolidUiFrame_grows reply rfl
    exact sound.beside held (congrArg Prod.fst beside)
      (flowStays_of_eq (congrArg (fun parts => parts.2.2.1) beside)) (grown world)
  | publishUiFrameFromArgb hasPixels width height strideBytes reply =>
    have beside := publishUiFrameFromArgb_beside hasPixels width height strideBytes reply world
    have grown : Grows _ _ (handlesFramebuffers (· = .solidUi)) :=
      publishUiFrameFromArgb_grows hasPixels width height strideBytes reply rfl
    exact sound.beside held (congrArg Prod.fst beside)
      (flowStays_of_eq (congrArg (fun parts => parts.2.2.1) beside)) (grown world)
  | enableWritebackRecording hasPath everyNFrames maxFrames reply =>
    have beside := enableWritebackRecording_beside setup hasPath everyNFrames maxFrames reply world
    have grown : Grows _ _ (handlesFramebuffers (· = .writeback)) :=
      enableWritebackRecording_grows setup hasPath everyNFrames maxFrames reply rfl
    exact sound.beside held (congrArg Prod.fst beside)
      (flowStays_of_eq (congrArg (fun parts => parts.2.2.1) beside)) (grown world)
  | setVblankWaitEnabled enabled =>
    have nothing : Extends (handlesFramebuffers isVideo) world.calls world.calls := .same
    exact sound.beside held rfl (flowStays_of_eq rfl) nothing

theorem act_sound (sound : Sound setup threads) (action : Act)
    (spared : ¬ FailsShowing setup threads action) : Sound setup (act setup threads action) := by
  cases action with
  | present call => exact present_sound sound call
  | presenterGoesOn => exact presenterGoesOn_sound sound spared
  | publishRendered reply => exact publishRendered_sound sound reply
  | flowThreadGoesOn => exact flowThreadGoesOn_sound sound
  | publishSolid reply => exact publishSolid_sound sound reply
  | call event => exact call_sound sound event

theorem start_sound (setup : Setup) (uiSurface : Nat × Nat) : Sound setup (start setup uiSurface) where
  base := {
    held := create_held setup uiSurface
    assigned := start_assigned setup.display uiSurface
    backed := fun _ _ shown => nomatch shown }
  locks := ⟨.refl _, List.nodup_nil, accounted_empty rfl⟩
  plane := ⟨fun _ => rfl, fun _ _ _ => rfl, fun used => absurd rfl used⟩
  spares := throughout_cons.2 ⟨trivial, throughout_nil⟩
  pending := .inl rfl
  current := .inl rfl
  presenter := trivial
  flowThread := trivial

/-- Every lock is in exactly one place, and no buffer is released while its
framebuffer is on the Flow plane, in every interleaving in which no commit fails
after it was applied while its call has a buffer of its own. -/
theorem flow_buffers_owned_and_spared (setup : Setup) (uiSurface : Nat × Nat) (actions : List Act)
    (spared : Meets (act setup) (fun threads action => ¬ FailsShowing setup threads action)
      (start setup uiSurface) actions) :
    let threads := actions.foldl (act setup) (start setup uiSurface)
    Accounted (lockCount threads.world.calls) (places threads) ∧
      Throughout (SparesFlowPlane setup) threads.world.calls := by
  have sound : Sound setup (actions.foldl (act setup) (start setup uiSurface)) :=
    invariant_after_run actions (fun _ action sound spared => act_sound sound action spared)
      (start_sound setup uiSurface) spared
  exact ⟨ownership_accounted sound.locks, sound.spares⟩

end Runs

/-- Two frames are rendered while a call is on its way, which takes the first one;
a second call takes the other one, and the first buffer is released. -/
def interleavedCalls : List Act :=
  [.publishRendered {}, .present ⟨.overlay, false, {}⟩, .flowThreadGoesOn, .flowThreadGoesOn,
    .presenterGoesOn, .publishRendered { front := some 1 }, .presenterGoesOn, .flowThreadGoesOn,
    .presenterGoesOn, .flowThreadGoesOn, .present ⟨.overlay, false, {}⟩, .presenterGoesOn,
    .presenterGoesOn, .presenterGoesOn]

theorem interleaved_calls_spare_shown_buffer :
    let threads := interleavedCalls.foldl (act (plainSetup rgbPlanes)) (start (plainSetup rgbPlanes) (0, 0))
    Accounted 2 [[0], [], [], [], [1]] ∧ places threads = [[0], [], [], [], [1]] ∧
      Throughout (SparesFlowPlane (plainSetup rgbPlanes)) threads.world.calls := by
  have spared : Meets (act (plainSetup rgbPlanes))
      (fun threads action => ¬ FailsShowing (plainSetup rgbPlanes) threads action)
      (start (plainSetup rgbPlanes) (0, 0)) interleavedCalls := by decide +kernel
  have run := flow_buffers_owned_and_spared (plainSetup rgbPlanes) (0, 0) interleavedCalls spared
  have counted : lockCount (interleavedCalls.foldl (act (plainSetup rgbPlanes))
      (start (plainSetup rgbPlanes) (0, 0))).world.calls = 2 := by decide +kernel
  have placed : places (interleavedCalls.foldl (act (plainSetup rgbPlanes))
      (start (plainSetup rgbPlanes) (0, 0))) = [[0], [], [], [], [1]] := by decide +kernel
  have accounted := run.1
  rw [counted, placed] at accounted
  exact ⟨accounted, placed, run.2⟩

/-- With writeback on, the commit of a call that locked its frame is applied, and
the fence never signals. -/
def failingWriteback : List Act :=
  [.call (.enableWritebackRecording true 1 0 {}),
    .present ⟨.overlay, true, { commit := { fenced := false } }⟩, .presenterGoesOn,
    .presenterGoesOn, .presenterGoesOn, .presenterGoesOn]

/-- The buffer is released while its framebuffer is on the Flow plane. -/
theorem failing_writeback_releases_shown_buffer :
    let threads := failingWriteback.foldl (act (plainSetup rgbPlanes)) (start (plainSetup rgbPlanes) (0, 0))
    ¬ Throughout (SparesFlowPlane (plainSetup rgbPlanes)) threads.world.calls ∧
      places threads = [[0], [], [], [], []] := by
  refine ⟨fun spares => ?_, by decide +kernel⟩
  have first := spares _ _ List.suffix_rfl
  exact first (by decide +kernel) _ rfl (by decide +kernel)

end Glide.FlowBufferOwnership
