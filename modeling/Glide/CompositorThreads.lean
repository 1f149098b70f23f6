import Glide.KmsAtomicCompositor

/-! The presenter and the Flow thread of one compositor. A call is taken phase by
phase, so that the phases of the other thread's call fall in between in any order;
a pending frame is taken or published in one phase, under the mutex. -/
namespace Glide.CompositorThreads
open Library Attempts DrmCalls KmsPlanes KmsAtomicCompositor

/-- A call of `present` or `present_overlay`. -/
structure PresentCall where
  picture : Picture
  updateFlowFrame : Bool
  reply : PresentReply

/-- How far the presenter's call is. -/
inductive Presenter where
  | idle
  | prepared (call : PresentCall) (video : VideoPart)
  | locked (call : PresentCall) (video : VideoPart) (buffer : LockedBuffer)
  | acquired (call : PresentCall) (video : VideoPart) (flow : AcquiredFlow)
  | committed (call : PresentCall) (video : VideoPart) (flow : AcquiredFlow) (succeeded : Bool)

/-- How far the call of `publish_rendered_flow_frame` is. -/
inductive FlowThread where
  | idle
  | locked (reply : LockReply) (buffer : LockedBuffer)
  | framed (flow : AcquiredFlow)

structure Threads where
  world : World
  presenter : Presenter := .idle
  flowThread : FlowThread := .idle

/-- The next phase starts with the value; a call that gives up is over. -/
def onward {α β : Type} (idle : β) (next : α → β) (phase : Attempt World α) (world : World) :
    β × World :=
  match phase world with
  | (some value, world) => (next value, world)
  | (none, world) => (idle, world)

def presenterPhase (setup : Setup) : Presenter → World → Presenter × World
  | .idle, world => (.idle, world)
  | .prepared call video, world =>
    if setup.display.primaryFlowReadback then (.acquired call video {}, world)
    else if call.updateFlowFrame then
      onward .idle (.locked call video) (lockFrontBuffer call.reply.locked) world
    else onward .idle (.acquired call video) takePendingFlow world
  | .locked call video buffer, world =>
    onward .idle (fun framebuffer => .acquired call video ⟨framebuffer, some buffer, false⟩)
      (frameLockedBuffer setup buffer call.reply.locked) world
  | .acquired call video flow, world =>
    match commit setup video flow.framebuffer
        (nonblockingAllowed call.picture call.updateFlowFrame flow) call.reply.commit world with
    | (some (), world) => (.committed call video flow true, world)
    | (none, world) => (.committed call video flow false, world)
  | .committed call video flow succeeded, world =>
    (.idle, conclude call.picture video flow succeeded world)

def flowThreadPhase (setup : Setup) : FlowThread → World → FlowThread × World
  | .idle, world => (.idle, world)
  | .locked reply buffer, world =>
    onward .idle (fun framebuffer => .framed ⟨framebuffer, some buffer, false⟩)
      (frameLockedBuffer setup buffer reply) world
  | .framed flow, world => (.idle, publishFlow flow world)

/-- Whether the call handles neither Flow frames nor the display. -/
def handlesNoFrames : Event → Bool
  | .present _ _ _ | .publishRenderedFlowFrame _ | .publishSolidFlowFrame _ => false
  | _ => true

/-- What may happen next: a thread starts a call or goes on with it, or a call is
made that no other one can fall into. -/
inductive Act where
  | present (call : PresentCall)
  | presenterGoesOn
  | publishRendered (reply : LockReply)
  | flowThreadGoesOn
  | publishSolid (reply : DumbReply)
  | call (event : Event)

/-- What is not up to its thread yet changes nothing. -/
def act (setup : Setup) (threads : Threads) : Act → Threads
  | .present call =>
    match threads.presenter with
    | .idle =>
      let (presenter, world) := onward .idle (.prepared call)
        (prepare setup call.picture call.reply) threads.world
      { threads with world, presenter }
    | _ => threads
  | .presenterGoesOn =>
    let (presenter, world) := presenterPhase setup threads.presenter threads.world
    { threads with world, presenter }
  | .publishRendered reply =>
    match threads.flowThread with
    | .idle =>
      let (flowThread, world) := onward .idle (.locked reply) (lockFrontBuffer reply) threads.world
      { threads with world, flowThread }
    | _ => threads
  | .flowThreadGoesOn =>
    let (flowThread, world) := flowThreadPhase setup threads.flowThread threads.world
    { threads with world, flowThread }
  | .publishSolid reply =>
    match threads.flowThread with
    | .idle => { threads with world := (publishSolidFlowFrame reply threads.world).2 }
    | _ => threads
  | .call event =>
    if handlesNoFrames event then { threads with world := step setup threads.world event } else threads

def start (setup : Setup) (uiSurface : Nat × Nat) : Threads where
  world := create setup uiSurface

section Alone
variable {α β : Type} {idle : β} {next : α → β}

theorem onward_some (made : phase world = (some value, after)) :
    onward idle next phase world = (next value, after) := by
  rw [onward, made]

theorem onward_none (made : phase world = (none, after)) :
    onward idle next phase world = (idle, after) := by
  rw [onward, made]

/-- The call goes on with what the phase left, or is over. -/
theorem onward_ends (idle : β) (next : α → β) {post : α → World → Prop} {left : World → Prop}
    (ends : Ends phase world post left) :
    (∃ value, (onward idle next phase world).1 = next value ∧
        post value (onward idle next phase world).2) ∨
      (onward idle next phase world).1 = idle ∧ left (onward idle next phase world).2 := by
  unfold Ends at ends
  unfold onward
  cases made : phase world with
  | mk result after =>
    rw [made] at ends
    cases result with
    | some value => exact .inl ⟨value, rfl, ends⟩
    | none => exact .inr ⟨rfl, ends⟩

end Alone

/-- Two phases end the call that has its Flow frame. -/
theorem shows_alone (setup : Setup) (world : World) (flowThread : FlowThread) (call : PresentCall)
    (video : VideoPart) (flow : AcquiredFlow) :
    [.presenterGoesOn, .presenterGoesOn].foldl (act setup)
        ⟨world, .acquired call video flow, flowThread⟩ =
      ⟨(showPicture setup call.picture video flow call.updateFlowFrame call.reply.commit world).2,
        .idle, flowThread⟩ := by
  unfold showPicture
  simp only [List.foldl, act, presenterPhase]
  cases made : commit setup video flow.framebuffer
      (nonblockingAllowed call.picture call.updateFlowFrame flow) call.reply.commit world with
  | mk result after => cases result <;> rfl

theorem lockFlowFramebuffer_bind (next : AcquiredFlow → Attempt World Unit) :
    (lockFlowFramebuffer setup reply >>= next) world =
      match lockFrontBuffer reply world with
      | (some buffer, middle) =>
        match frameLockedBuffer setup buffer reply middle with
        | (some framebuffer, after) => next ⟨framebuffer, some buffer, false⟩ after
        | (none, after) => (none, after)
      | (none, middle) => (none, middle) := by
  rw [bind_apply, lockFlowFramebuffer, bind_apply]
  cases lockFrontBuffer reply world with
  | mk result middle =>
    cases result with
    | none => rfl
    | some buffer =>
      dsimp only
      rw [bind_apply]
      cases frameLockedBuffer setup buffer reply middle with
      | mk result after => cases result <;> rfl

/-- Taking a Flow frame and showing it. -/
theorem takes_alone (setup : Setup) (world : World) (flowThread : FlowThread) (call : PresentCall)
    (video : VideoPart) :
    [.presenterGoesOn, .presenterGoesOn, .presenterGoesOn, .presenterGoesOn].foldl (act setup)
        ⟨world, .prepared call video, flowThread⟩ =
      ⟨((acquireFlowFramebuffer setup call.updateFlowFrame call.reply.locked >>= fun flow =>
        showPicture setup call.picture video flow call.updateFlowFrame call.reply.commit) world).2,
        .idle, flowThread⟩ := by
  have shown := fun world => shows_alone setup world flowThread call video
  simp only [List.foldl] at shown ⊢
  unfold acquireFlowFramebuffer
  by_cases readback : setup.display.primaryFlowReadback = true
  · have taken : act setup ⟨world, .prepared call video, flowThread⟩ .presenterGoesOn =
        ⟨world, .acquired call video {}, flowThread⟩ := by
      simp only [act, presenterPhase, if_pos readback]
    rw [taken, shown, if_pos readback]
    rfl
  · rw [if_neg readback]
    by_cases update : call.updateFlowFrame = true
    · rw [if_pos update, lockFlowFramebuffer_bind]
      cases locked : lockFrontBuffer call.reply.locked world with
      | mk result middle =>
        cases result with
        | none =>
          have left : act setup ⟨world, .prepared call video, flowThread⟩ .presenterGoesOn =
              ⟨middle, .idle, flowThread⟩ := by
            simp only [act, presenterPhase, if_neg readback, if_pos update, onward_none locked]
          rw [left]
          rfl
        | some buffer =>
          have taken : act setup ⟨world, .prepared call video, flowThread⟩ .presenterGoesOn =
              ⟨middle, .locked call video buffer, flowThread⟩ := by
            simp only [act, presenterPhase, if_neg readback, if_pos update, onward_some locked]
          rw [taken]
          dsimp only
          cases framed : frameLockedBuffer setup buffer call.reply.locked middle with
          | mk result after =>
            cases result with
            | none =>
              have left : act setup ⟨middle, .locked call video buffer, flowThread⟩
                  .presenterGoesOn = ⟨after, .idle, flowThread⟩ := by
                simp only [act, presenterPhase, onward_none framed]
              rw [left]
              rfl
            | some framebuffer =>
              have taken : act setup ⟨middle, .locked call video buffer, flowThread⟩
                  .presenterGoesOn =
                    ⟨after, .acquired call video ⟨framebuffer, some buffer, false⟩, flowThread⟩ := by
                simp only [act, presenterPhase, onward_some framed]
              rw [taken, shown]
    · rw [if_neg update, bind_apply]
      cases pending : takePendingFlow world with
      | mk result middle =>
        cases result with
        | none =>
          have left : act setup ⟨world, .prepared call video, flowThread⟩ .presenterGoesOn =
              ⟨middle, .idle, flowThread⟩ := by
            simp only [act, presenterPhase, if_neg readback, if_neg update, onward_none pending]
          rw [left]
          rfl
        | some flow =>
          have taken : act setup ⟨world, .prepared call video, flowThread⟩ .presenterGoesOn =
              ⟨middle, .acquired call video flow, flowThread⟩ := by
            simp only [act, presenterPhase, if_neg readback, if_neg update, onward_some pending]
          rw [taken, shown]
          rfl

/-- Alone, the presenter's phases are the call. -/
theorem present_alone (setup : Setup) (world : World) (flowThread : FlowThread) (call : PresentCall) :
    [.present call, .presenterGoesOn, .presenterGoesOn, .presenterGoesOn, .presenterGoesOn].foldl
        (act setup) ⟨world, .idle, flowThread⟩ =
      ⟨step setup world (.present call.picture call.updateFlowFrame call.reply), .idle, flowThread⟩ := by
  have taken := fun world => takes_alone setup world flowThread call
  rw [List.foldl_cons]
  unfold step perform present
  dsimp only
  rw [bind_apply]
  cases prepared : prepare setup call.picture call.reply world with
  | mk result middle =>
    cases result with
    | none =>
      have left : act setup ⟨world, .idle, flowThread⟩ (.present call) =
          ⟨middle, .idle, flowThread⟩ := by
        simp only [act, onward_none prepared]
      rw [left]
      rfl
    | some video =>
      have begun : act setup ⟨world, .idle, flowThread⟩ (.present call) =
          ⟨middle, .prepared call video, flowThread⟩ := by
        simp only [act, onward_some prepared]
      rw [begun]
      exact taken middle video

/-- Alone, the Flow thread's phases are the call. -/
theorem publishRendered_alone (setup : Setup) (world : World) (presenter : Presenter)
    (reply : LockReply) :
    [.publishRendered reply, .flowThreadGoesOn, .flowThreadGoesOn].foldl (act setup)
        ⟨world, presenter, .idle⟩ =
      ⟨step setup world (.publishRenderedFlowFrame reply), presenter, .idle⟩ := by
  simp only [List.foldl]
  unfold step perform publishRenderedFlowFrame
  dsimp only
  rw [lockFlowFramebuffer_bind]
  cases locked : lockFrontBuffer reply world with
  | mk result middle =>
    cases result with
    | none => simp only [act, onward_none locked, flowThreadPhase]
    | some buffer =>
      simp only [act, onward_some locked, flowThreadPhase]
      cases framed : frameLockedBuffer setup buffer reply middle with
      | mk result after =>
        cases result with
        | none => simp only [onward_none framed]
        | some framebuffer =>
          simp only [onward_some framed]
          rfl

end Glide.CompositorThreads
