import Glide.Library.Runs
import Glide.Library.SpacedTimes
import Glide.Library.TimedSignals

/-! The loop that shows video and overlays on a device. Each round polls the controls and asks the
decoder for a frame; a frame is presented, and without one the overlays are presented alone once the
video has been missing for some time. New Flow frames are drawn only so often. Times are in
nanoseconds of a clock that never goes back. -/
namespace Glide.PresentationLoop
open Library TimedSignals SpacedTimes

structure LoopOptions where
  /-- Video, Flow and the user interface are drawn by the GPU into one plane. -/
  singlePlaneGles : Bool
  atomicKms : Bool
  ipcEnabled : Bool
  flowOverlay : Bool
  uiOverlay : Bool
  /-- The time between two Flow frames, if it is limited. -/
  flowFrameInterval : Option Nat
  asyncFlow : Bool

def LoopOptions.overlays (options : LoopOptions) : Bool := options.flowOverlay || options.uiOverlay

def LoopOptions.useAtomicKms (options : LoopOptions) : Bool :=
  !options.singlePlaneGles && (options.atomicKms || options.overlays)

/-- Pictures are composed, not only played to the plane of a player. -/
def LoopOptions.composed (options : LoopOptions) : Bool :=
  options.useAtomicKms || options.singlePlaneGles

/-- Flow frames are drawn by a thread of their own. -/
def LoopOptions.decoupled (options : LoopOptions) : Bool :=
  options.useAtomicKms && options.overlays && options.asyncFlow

def videoSignalTimeout : Nat := 750000000
def telemetrySignalTimeout : Nat := 1500000000

/-- What was done: telemetry arrived, a frame was presented, the overlays were presented alone, or a
new deadline was set for Flow frames, after a decision that had to wait for the last one or not. -/
inductive Entry where
  | telemetry (time : Nat)
  | video (time : Nat)
  | overlay (time : Nat) (flow : Bool)
  | deadline (decided renewed : Nat) (due : Bool)
  deriving DecidableEq

/-- The clock as it was read last, by the presenter and in a poll of the controls, which may be made
by two threads. -/
structure LoopState where
  clock : Nat
  controlClock : Nat
  video : Signal := {}
  telemetry : Signal := {}
  nextFlowFrame : Nat
  presentedFrames : Nat := 0
  running : Bool := true
  log : List Entry := []

/-- A reading of the clock. -/
def advance (now : Nat) (state : LoopState) : LoopState :=
  { state with clock := max state.clock now }

def note (entry : Entry) (state : LoopState) : LoopState := { state with log := entry :: state.log }

def stop (state : LoopState) : LoopState := { state with running := false }

/-- `poll_control`. -/
def pollControl (options : LoopOptions) (now : Nat) (received : Bool) (state : LoopState) :
    LoopState :=
  if options.ipcEnabled then
    let state := { state with controlClock := max state.controlClock now }
    if received then
      note (.telemetry state.controlClock) { state with telemetry := .arrive state.controlClock }
    else
      { state with telemetry := state.telemetry.check telemetrySignalTimeout state.controlClock }
  else state

def shouldUpdateFlow (options : LoopOptions) (state : LoopState) : Bool :=
  if state.presentedFrames = 0 then true
  else if !options.overlays then false
  else
    match options.flowFrameInterval with
    | none => true
    | some _ => state.nextFlowFrame ≤ state.clock

def updateFlowDeadline (options : LoopOptions) (decided now : Nat) (due : Bool)
    (state : LoopState) : LoopState :=
  match options.flowFrameInterval with
  | none => state
  | some interval =>
    let state := advance now state
    note (.deadline decided state.clock due)
      { state with nextFlowFrame := state.clock + interval }

/-- When the clock is read during a call, whether the output took the picture, and whether with it a
recording was complete. -/
structure Reply where
  decided : Nat
  shown : Nat
  renewed : Nat
  accepted : Bool
  finished : Bool

def markVideo (now : Nat) (state : LoopState) : LoopState :=
  let state := advance now state
  note (.video state.clock) { state with video := .arrive state.clock }

def countFrame (state : LoopState) : LoopState :=
  { state with presentedFrames := state.presentedFrames + 1 }

/-- `present_video_frame`, `present_cpu_video_frame` and what the loop does then. -/
def presentVideoFrame (options : LoopOptions) (reply : Reply) (state : LoopState) : LoopState :=
  let state := advance reply.decided state
  if !reply.accepted then stop state
  else if options.singlePlaneGles then
    countFrame (updateFlowDeadline options state.clock reply.renewed false
      (markVideo reply.shown state))
  else if !options.useAtomicKms then countFrame state
  else
    let shown := markVideo reply.shown state
    let shown := if reply.finished then stop shown else shown
    if !options.decoupled && shouldUpdateFlow options state then
      countFrame (updateFlowDeadline options state.clock reply.renewed
        (state.presentedFrames ≠ 0) shown)
    else countFrame shown

/-- `present_waiting_overlay_frame`. -/
def presentWaitingOverlayFrame (options : LoopOptions) (updateFlow force : Bool) (reply : Reply)
    (state : LoopState) : LoopState :=
  if !options.composed then state
  else
    let state := advance reply.shown state
    if !force && options.flowFrameInterval.isSome && state.clock < state.nextFlowFrame then state
    else if options.useAtomicKms && !options.overlays then state
    else if reply.accepted then
      updateFlowDeadline options state.clock reply.renewed (!force)
        (note (.overlay state.clock updateFlow) state)
    else stop state

/-- `maybe_present_waiting_overlay`. -/
def maybePresentWaitingOverlay (options : LoopOptions) (reply : Reply) (state : LoopState) :
    LoopState :=
  if !options.composed then state
  else
    let state := advance reply.decided state
    let state := { state with video := state.video.check videoSignalTimeout state.clock }
    if state.video.present then state
    else presentWaitingOverlayFrame options (!options.decoupled) false reply state

/-- What happens next: the controls are polled, the decoder has a frame or none, the clock is read,
or the loop finds that it was asked to end. A thread of its own may poll the controls, so any order
is possible. -/
inductive Event where
  | control (now : Nat) (received : Bool)
  | frame (reply : Reply)
  | noFrame (reply : Reply)
  | read (now : Nat)
  | stop

def handle (options : LoopOptions) (state : LoopState) : Event → LoopState
  | .control now received => pollControl options now received state
  | .frame reply => presentVideoFrame options reply state
  | .noFrame reply => maybePresentWaitingOverlay options reply state
  | .read now => advance now state
  | .stop => stop state

def step (options : LoopOptions) (state : LoopState) (event : Event) : LoopState :=
  if state.running then handle options state event else state

/-- One of the overlay pictures before the loop begins. -/
def forceOverlay (options : LoopOptions) (state : LoopState) (reply : Reply) : LoopState :=
  if state.running then
    presentWaitingOverlayFrame options (!options.decoupled) true reply state
  else state

/-- Before the loop: one overlay picture, or twelve while the thread for Flow frames starts. -/
def startUp (options : LoopOptions) (now : Nat) (first : Reply) (others : List Reply) : LoopState :=
  let state := { clock := now, controlClock := now, nextFlowFrame := now }
  if options.decoupled then ((first :: others).take 12).foldl (forceOverlay options) state
  else forceOverlay options state first

/-! ### What holds between two rounds -/

def telemetryTime : Entry → Option Nat
  | .telemetry time => some time
  | _ => none

def videoTime : Entry → Option Nat
  | .video time => some time
  | _ => none

/-- The overlays are not presented alone while there is video. -/
def Uncovered (later earlier : Entry) : Prop :=
  match later, earlier with
  | .overlay time _, .video shown => shown + videoSignalTimeout ≤ time
  | _, _ => True

/-- A deadline that is renewed because it had come was not renewed for the time of a frame. -/
def Paced (interval : Nat) (later earlier : Entry) : Prop :=
  match later, earlier with
  | .deadline decided _ true, .deadline _ renewed _ => renewed + interval ≤ decided
  | _, _ => True

structure Sound (options : LoopOptions) (state : LoopState) : Prop where
  started : 0 < state.clock ∧ 0 < state.controlClock
  telemetry : Tracks telemetrySignalTimeout state.telemetry (state.log.filterMap telemetryTime)
    state.controlClock
  video : Tracks videoSignalTimeout state.video (state.log.filterMap videoTime) state.clock
  renewed : ∀ decided renewed due, .deadline decided renewed due ∈ state.log →
    decided ≤ renewed ∧ renewed ≤ state.clock
  deadline : ∀ interval, options.flowFrameInterval = some interval → ∀ decided renewed due,
    .deadline decided renewed due ∈ state.log → renewed + interval ≤ state.nextFlowFrame
  uncovered : state.log.Pairwise Uncovered
  paced : ∀ interval, options.flowFrameInterval = some interval →
    state.log.Pairwise (Paced interval)

section Rules
variable {options : LoopOptions} {state : LoopState}

theorem Sound.advance (sound : Sound options state) (now : Nat) :
    Sound options (advance now state) where
  started := ⟨Nat.lt_of_lt_of_le sound.started.1 (Nat.le_max_left _ _), sound.started.2⟩
  telemetry := sound.telemetry
  video := sound.video.advance (Nat.le_max_left _ _)
  renewed := fun decided renewed due logged =>
    (sound.renewed decided renewed due logged).imp_right fun past =>
      Nat.le_trans past (Nat.le_max_left _ _)
  deadline := sound.deadline
  uncovered := sound.uncovered
  paced := sound.paced

/-- What is done without a new entry. -/
theorem Sound.same {after : LoopState} (sound : Sound options state)
    (clock : after.clock = state.clock)
    (control : after.controlClock = state.controlClock) (video : after.video = state.video)
    (telemetry : after.telemetry = state.telemetry)
    (next : after.nextFlowFrame = state.nextFlowFrame) (log : after.log = state.log) :
    Sound options after := by
  obtain ⟨started, heard, seen, renewed, deadline, uncovered, paced⟩ := sound
  constructor <;> simp only [clock, control, video, telemetry, next, log] <;> assumption

theorem Sound.markVideo (sound : Sound options state) (now : Nat) :
    Sound options (markVideo now state) := by
  have advanced := sound.advance now
  refine ⟨advanced.started, advanced.telemetry, ?_, ?_, ?_, ?_, ?_⟩
  · exact advanced.video.arrive advanced.started.1
  · intro decided renewed due logged
    rcases List.mem_cons.mp logged with new | earlier
    · cases new
    · exact advanced.renewed decided renewed due earlier
  · intro interval limited decided renewed due logged
    rcases List.mem_cons.mp logged with new | earlier
    · cases new
    · exact advanced.deadline interval limited decided renewed due earlier
  · exact List.pairwise_cons.mpr ⟨fun _ _ => trivial, advanced.uncovered⟩
  · exact fun interval limited =>
      List.pairwise_cons.mpr ⟨fun _ _ => trivial, advanced.paced interval limited⟩

theorem mem_telemetryTimes {log : List Entry} :
    time ∈ log.filterMap telemetryTime ↔ .telemetry time ∈ log := by
  rw [List.mem_filterMap]
  constructor
  · rintro ⟨entry, logged, found⟩
    cases entry with
    | telemetry => cases found; exact logged
    | video | overlay | deadline => cases found
  · exact fun logged => ⟨_, logged, rfl⟩

theorem mem_videoTimes {log : List Entry} :
    time ∈ log.filterMap videoTime ↔ .video time ∈ log := by
  rw [List.mem_filterMap]
  constructor
  · rintro ⟨entry, logged, found⟩
    cases entry with
    | video => cases found; exact logged
    | telemetry | overlay | deadline => cases found
  · exact fun logged => ⟨_, logged, rfl⟩

/-- The signal is lowered, so every frame was long ago. -/
theorem Sound.overlay (sound : Sound options state) (low : state.video.present = false)
    (flow : Bool) : Sound options (note (.overlay state.clock flow) state) := by
  refine ⟨sound.started, sound.telemetry, sound.video, ?_, ?_, ?_, ?_⟩
  · intro decided renewed due logged
    rcases List.mem_cons.mp logged with new | earlier
    · cases new
    · exact sound.renewed decided renewed due earlier
  · intro interval limited decided renewed due logged
    rcases List.mem_cons.mp logged with new | earlier
    · cases new
    · exact sound.deadline interval limited decided renewed due earlier
  · refine List.pairwise_cons.mpr ⟨fun earlier logged => ?_, sound.uncovered⟩
    cases earlier with
    | video shown => exact sound.video.old low shown (mem_videoTimes.mpr logged)
    | telemetry | overlay | deadline => trivial
  · exact fun interval limited =>
      List.pairwise_cons.mpr ⟨fun _ _ => trivial, sound.paced interval limited⟩

/-- A deadline is set anew; if that had to wait, the last one had come when it was decided. -/
theorem Sound.updateFlowDeadline (sound : Sound options state) (decided now : Nat) (due : Bool)
    (past : decided ≤ state.clock)
    (come : due = true → options.flowFrameInterval.isSome = true → state.nextFlowFrame ≤ decided) :
    Sound options (updateFlowDeadline options decided now due state) := by
  unfold PresentationLoop.updateFlowDeadline
  cases limit : options.flowFrameInterval with
  | none => exact sound
  | some interval =>
    have advanced := sound.advance now
    have deadline := sound.deadline interval limit
    refine ⟨advanced.started, advanced.telemetry, advanced.video, ?_, ?_, ?_, ?_⟩
    · intro decided renewed due logged
      rcases List.mem_cons.mp logged with new | earlier
      · cases new
        exact ⟨Nat.le_trans past (Nat.le_max_left _ _), Nat.le_refl _⟩
      · exact advanced.renewed decided renewed due earlier
    · intro other limited decided renewed due logged
      obtain rfl := Option.some.inj (limit.symm.trans limited)
      rcases List.mem_cons.mp logged with new | earlier
      · cases new
        exact Nat.le_refl _
      · exact Nat.add_le_add_right (advanced.renewed decided renewed due earlier).2 interval
    · exact List.pairwise_cons.mpr ⟨fun _ _ => trivial, advanced.uncovered⟩
    · intro other limited
      obtain rfl := Option.some.inj (limit.symm.trans limited)
      refine List.pairwise_cons.mpr ⟨fun earlier logged => ?_, advanced.paced interval limit⟩
      cases earlier with
      | telemetry | video | overlay => cases due <;> trivial
      | deadline before renewed other =>
        cases due with
        | false => trivial
        | true =>
          have come := come rfl (by rw [limit]; rfl)
          exact Nat.le_trans (deadline before renewed other logged) come

theorem Sound.pollControl (sound : Sound options state) (now : Nat) (received : Bool) :
    Sound options (pollControl options now received state) := by
  unfold PresentationLoop.pollControl
  split
  · have later : state.controlClock ≤ max state.controlClock now := Nat.le_max_left _ _
    have started := Nat.lt_of_lt_of_le sound.started.2 later
    have advanced := sound.telemetry.advance later
    cases received with
    | true =>
      refine ⟨⟨sound.started.1, started⟩, advanced.arrive started, sound.video, ?_, ?_, ?_, ?_⟩
      · intro decided renewed due logged
        rcases List.mem_cons.mp logged with new | earlier
        · cases new
        · exact sound.renewed decided renewed due earlier
      · intro interval limited decided renewed due logged
        rcases List.mem_cons.mp logged with new | earlier
        · cases new
        · exact sound.deadline interval limited decided renewed due earlier
      · exact List.pairwise_cons.mpr ⟨fun _ _ => trivial, sound.uncovered⟩
      · exact fun interval limited =>
          List.pairwise_cons.mpr ⟨fun _ _ => trivial, sound.paced interval limited⟩
    | false =>
      exact ⟨⟨sound.started.1, started⟩, advanced.check, sound.video, sound.renewed, sound.deadline,
        sound.uncovered, sound.paced⟩
  · exact sound

theorem shouldUpdateFlow_come (should : shouldUpdateFlow options state = true)
    (shown : state.presentedFrames ≠ 0) (limited : options.flowFrameInterval.isSome = true) :
    state.nextFlowFrame ≤ state.clock := by
  obtain ⟨interval, limited⟩ := Option.isSome_iff_exists.mp limited
  unfold shouldUpdateFlow at should
  rw [if_neg shown, limited] at should
  split at should
  · cases should
  · exact of_decide_eq_true should

theorem Sound.stopIf (sound : Sound options state) (finished : Bool) :
    Sound options (if finished then stop state else state) := by
  cases finished with
  | true => exact sound.same rfl rfl rfl rfl rfl rfl
  | false => exact sound

theorem stopIf_clock (finished : Bool) :
    (if finished then stop state else state).clock = state.clock := by
  cases finished <;> rfl

theorem stopIf_nextFlowFrame (finished : Bool) :
    (if finished then stop state else state).nextFlowFrame = state.nextFlowFrame := by
  cases finished <;> rfl

theorem Sound.presentVideoFrame (sound : Sound options state) (reply : Reply) :
    Sound options (presentVideoFrame options reply state) := by
  have decided := sound.advance reply.decided
  have marked := decided.markVideo reply.shown
  unfold PresentationLoop.presentVideoFrame
  dsimp only
  split
  · exact decided.same rfl rfl rfl rfl rfl rfl
  · split
    · have renewed := marked.updateFlowDeadline (PresentationLoop.advance reply.decided state).clock
        reply.renewed false (Nat.le_max_left _ _) (fun due => nomatch due)
      exact renewed.same rfl rfl rfl rfl rfl rfl
    · split
      · exact decided.same rfl rfl rfl rfl rfl rfl
      · have ended := marked.stopIf reply.finished
        split
        · rename_i update
          have should := (Bool.and_eq_true_iff.mp update).2
          refine Sound.same (ended.updateFlowDeadline _ _ _ ?_ fun due limited => ?_)
            rfl rfl rfl rfl rfl rfl
          · rw [stopIf_clock]
            exact Nat.le_max_left _ _
          rw [stopIf_nextFlowFrame]
          exact shouldUpdateFlow_come should (of_decide_eq_true due) limited
        · exact ended.same rfl rfl rfl rfl rfl rfl

theorem Sound.presentWaitingOverlayFrame (sound : Sound options state)
    (low : state.video.present = false) (updateFlow force : Bool) (reply : Reply) :
    Sound options (presentWaitingOverlayFrame options updateFlow force reply state) := by
  have decided := sound.advance reply.shown
  unfold PresentationLoop.presentWaitingOverlayFrame
  dsimp only
  split
  · exact sound
  · split
    · exact decided
    · rename_i waited
      split
      · exact decided
      · split
        · refine (decided.overlay low updateFlow).updateFlowDeadline _ _ _ (Nat.le_refl _)
            fun due limited => ?_
          have free : force = false := by simpa using due
          rw [free, limited] at waited
          have come : (PresentationLoop.advance reply.shown state).nextFlowFrame ≤
              (PresentationLoop.advance reply.shown state).clock := by simpa using waited
          exact come
        · exact decided.same rfl rfl rfl rfl rfl rfl

theorem Sound.maybePresentWaitingOverlay (sound : Sound options state) (reply : Reply) :
    Sound options (maybePresentWaitingOverlay options reply state) := by
  have decided := sound.advance reply.decided
  unfold PresentationLoop.maybePresentWaitingOverlay
  dsimp only
  split
  · exact sound
  · have checked : Sound options { PresentationLoop.advance reply.decided state with
        video := state.video.check videoSignalTimeout (max state.clock reply.decided) } :=
      ⟨decided.started, decided.telemetry, decided.video.check, decided.renewed, decided.deadline,
        decided.uncovered, decided.paced⟩
    split
    · exact checked
    · rename_i low
      exact checked.presentWaitingOverlayFrame (Bool.eq_false_iff.mpr low) _ _ _

theorem Sound.step (sound : Sound options state) (event : Event) :
    Sound options (step options state event) := by
  unfold PresentationLoop.step
  split
  · cases event with
    | control now received => exact sound.pollControl now received
    | frame reply => exact sound.presentVideoFrame reply
    | noFrame reply => exact sound.maybePresentWaitingOverlay reply
    | read now => exact sound.advance now
    | stop => exact sound.same rfl rfl rfl rfl rfl rfl
  · exact sound

/-- An overlay picture leaves the signal of the video alone. -/
theorem presentWaitingOverlayFrame_video (updateFlow force : Bool) (reply : Reply) :
    (presentWaitingOverlayFrame options updateFlow force reply state).video = state.video := by
  unfold presentWaitingOverlayFrame updateFlowDeadline
  dsimp only
  repeat' split
  all_goals rfl

theorem Sound.forceOverlay (sound : Sound options state) (low : state.video.present = false)
    (reply : Reply) : Sound options (forceOverlay options state reply) ∧
      (forceOverlay options state reply).video.present = false := by
  unfold PresentationLoop.forceOverlay
  split
  · refine ⟨sound.presentWaitingOverlayFrame low _ _ reply, ?_⟩
    rw [presentWaitingOverlayFrame_video]
    exact low
  · exact ⟨sound, low⟩

theorem Sound.forceOverlays (replies : List Reply) (sound : Sound options state)
    (low : state.video.present = false) :
    Sound options (replies.foldl (PresentationLoop.forceOverlay options) state) := by
  induction replies generalizing state with
  | nil => exact sound
  | cons reply rest ih =>
    obtain ⟨sound, low⟩ := sound.forceOverlay low reply
    exact ih sound low

/-- A poll of the controls leaves the signal telling whether telemetry arrived lately. -/
theorem pollControl_tells (sound : Sound options state) (enabled : options.ipcEnabled = true)
    (now : Nat) (received : Bool) :
    (pollControl options now received state).telemetry.present = true ↔
      ∃ time, .telemetry time ∈ (pollControl options now received state).log ∧
        (pollControl options now received state).controlClock < time + telemetrySignalTimeout := by
  unfold pollControl
  rw [if_pos enabled]
  cases received with
  | true =>
    refine iff_of_true rfl ⟨max state.controlClock now, List.mem_cons_self, ?_⟩
    exact Nat.lt_add_of_pos_right (by decide)
  | false =>
    have exactly := (sound.telemetry.advance (Nat.le_max_left _ now)).exact
    simp only [mem_telemetryTimes] at exactly
    exact exactly

/-- A round without a frame leaves the signal telling whether one was shown lately. -/
theorem maybePresentWaitingOverlay_tells (sound : Sound options state)
    (composed : options.composed = true) (reply : Reply) :
    (maybePresentWaitingOverlay options reply state).video.present = true ↔
      ∃ time, .video time ∈ state.log ∧
        max state.clock reply.decided < time + videoSignalTimeout := by
  have exactly := (sound.video.advance (Nat.le_max_left _ reply.decided)).exact
  simp only [mem_videoTimes] at exactly
  rw [← exactly]
  unfold maybePresentWaitingOverlay
  rw [if_neg (by rw [composed]; decide)]
  dsimp only
  split
  · exact Iff.rfl
  · rw [presentWaitingOverlayFrame_video]
    exact Iff.rfl

theorem updateFlowDeadline_clock (decided now : Nat) (due : Bool) :
    state.clock ≤ (updateFlowDeadline options decided now due state).clock := by
  unfold updateFlowDeadline
  split
  · exact Nat.le_refl _
  · exact Nat.le_max_left _ _

theorem presentVideoFrame_clock (reply : Reply) :
    state.clock ≤ (presentVideoFrame options reply state).clock := by
  have decided : state.clock ≤ (PresentationLoop.advance reply.decided state).clock :=
    Nat.le_max_left _ _
  have shown : state.clock ≤
      (markVideo reply.shown (PresentationLoop.advance reply.decided state)).clock :=
    Nat.le_trans decided (Nat.le_max_left _ _)
  unfold presentVideoFrame
  dsimp only
  split
  · exact decided
  · split
    · exact Nat.le_trans shown (updateFlowDeadline_clock _ _ _)
    · split
      · exact decided
      · have ended := Nat.le_trans shown (Nat.le_of_eq (stopIf_clock reply.finished).symm)
        split
        · exact Nat.le_trans ended (updateFlowDeadline_clock _ _ _)
        · exact ended

theorem presentWaitingOverlayFrame_clock (updateFlow force : Bool) (reply : Reply) :
    state.clock ≤ (presentWaitingOverlayFrame options updateFlow force reply state).clock := by
  have read : state.clock ≤ (PresentationLoop.advance reply.shown state).clock :=
    Nat.le_max_left _ _
  have noted : state.clock ≤ (note (.overlay (PresentationLoop.advance reply.shown state).clock
      updateFlow) (PresentationLoop.advance reply.shown state)).clock := read
  unfold presentWaitingOverlayFrame
  dsimp only
  repeat' split
  · exact Nat.le_refl _
  · exact read
  · exact read
  · exact Nat.le_trans noted (updateFlowDeadline_clock _ _ _)
  · exact read

/-- The clock never goes back. -/
theorem clock_le_step (options : LoopOptions) (state : LoopState) (event : Event) :
    state.clock ≤ (PresentationLoop.step options state event).clock := by
  unfold PresentationLoop.step
  split
  · cases event with
    | control now received =>
      unfold handle pollControl
      dsimp only
      repeat' split
      all_goals exact Nat.le_refl _
    | frame reply => exact presentVideoFrame_clock reply
    | noFrame reply =>
      unfold handle maybePresentWaitingOverlay
      dsimp only
      have checked : state.clock ≤ ({ PresentationLoop.advance reply.decided state with
          video := state.video.check videoSignalTimeout (max state.clock reply.decided) } :
            LoopState).clock := Nat.le_max_left _ _
      repeat' split
      · exact Nat.le_refl _
      · exact checked
      · exact Nat.le_trans checked (presentWaitingOverlayFrame_clock _ _ _)
    | read now => exact Nat.le_max_left _ _
    | stop => exact Nat.le_refl _
  · exact Nat.le_refl _

/-- The times at which it was decided to draw a Flow frame because it was due. -/
def dueTime : Entry → Option Nat
  | .deadline decided _ true => some decided
  | _ => none

theorem Sound.spaced (sound : Sound options state)
    (limited : options.flowFrameInterval = some interval) :
    Spaced interval (state.log.filterMap dueTime).reverse := by
  refine List.pairwise_reverse.mpr (List.pairwise_filterMap.mpr ?_)
  refine (sound.paced interval limited).imp_of_mem ?_
  intro later earlier _ logged paced second decidedLater first decidedFirst
  cases later with
  | telemetry | video | overlay => cases decidedLater
  | deadline decided renewed due =>
    cases earlier with
    | telemetry | video | overlay => cases decidedFirst
    | deadline before renewedBefore dueBefore =>
      cases due with
      | false => cases decidedLater
      | true =>
        cases dueBefore with
        | false => cases decidedFirst
        | true =>
          obtain rfl := Option.some.inj decidedLater
          obtain rfl := Option.some.inj decidedFirst
          have ordered := (sound.renewed before renewedBefore true logged).1
          exact Nat.le_trans (Nat.add_le_add_right ordered interval) paced

end Rules

theorem start_sound (options : LoopOptions) (started : 0 < now) :
    Sound options { clock := now, controlClock := now, nextFlowFrame := now } where
  started := ⟨started, started⟩
  telemetry := tracks_none _ _
  video := tracks_none _ _
  renewed := fun _ _ _ absent => absurd absent List.not_mem_nil
  deadline := fun _ _ _ _ _ absent => absurd absent List.not_mem_nil
  uncovered := List.Pairwise.nil
  paced := fun _ _ => List.Pairwise.nil

theorem startUp_sound (options : LoopOptions) (started : 0 < now) (first : Reply)
    (others : List Reply) : Sound options (startUp options now first others) := by
  have start := start_sound options started
  unfold startUp
  dsimp only
  split
  · exact start.forceOverlays _ rfl
  · exact (start.forceOverlay rfl first).1

/-- What became of the loop after these events. -/
def run (options : LoopOptions) (now : Nat) (first : Reply) (others : List Reply)
    (events : List Event) : LoopState :=
  events.foldl (step options) (startUp options now first others)

theorem run_sound (options : LoopOptions) (started : 0 < now) (first : Reply)
    (others : List Reply) (events : List Event) :
    Sound options (run options now first others events) :=
  Runs.invariant_after_any_run events (fun _ event sound => sound.step event)
    (startUp_sound options started first others)

theorem step_running (running : state.running = true) (event : Event) :
    step options state event = handle options state event := if_pos running

/-- What the flags say at the end of any run. Between two checks a raised flag may be out of date, a
lowered one never is. -/
theorem signals_tell_recent_arrivals (options : LoopOptions) (now : Nat) (started : 0 < now)
    (first : Reply) (others : List Reply) (events : List Event) :
    let state := run options now first others events
    (state.running = true → options.ipcEnabled = true → ∀ time received,
      let polled := step options state (.control time received)
      (polled.telemetry.present = true ↔ ∃ arrived, .telemetry arrived ∈ polled.log ∧
        polled.controlClock < arrived + telemetrySignalTimeout)) ∧
    (state.running = true → options.composed = true → ∀ reply,
      ((step options state (.noFrame reply)).video.present = true ↔
        ∃ shown, .video shown ∈ state.log ∧
          max state.clock reply.decided < shown + videoSignalTimeout)) ∧
    (state.telemetry.present = false → ∀ arrived, .telemetry arrived ∈ state.log →
      arrived + telemetrySignalTimeout ≤ state.controlClock) ∧
    (state.video.present = false → ∀ shown, .video shown ∈ state.log →
      shown + videoSignalTimeout ≤ state.clock) := by
  intro state
  have sound : Sound options state := run_sound options started first others events
  refine ⟨fun running enabled time received => ?_, fun running composed reply => ?_,
    fun low arrived logged => ?_, fun low shown logged => ?_⟩
  · rw [step_running running]
    exact pollControl_tells sound enabled time received
  · rw [step_running running]
    exact maybePresentWaitingOverlay_tells sound composed reply
  · exact sound.telemetry.old low arrived (mem_telemetryTimes.mpr logged)
  · exact sound.video.old low shown (mem_videoTimes.mpr logged)

/-- Flow over the video, at most sixty times in a second. -/
def flowLoop : LoopOptions where
  singlePlaneGles := false
  atomicKms := true
  ipcEnabled := true
  flowOverlay := true
  uiOverlay := false
  flowFrameInterval := some 16666666
  asyncFlow := false

def promptReply (time : Nat) : Reply := ⟨time, time, time, true, false⟩

/-- A second after telemetry came, which a poll that found none did not change. -/
theorem telemetry_is_still_there :
    (step flowLoop (run flowLoop 1 (promptReply 1) [] [.control 2 true])
      (.control 1000000000 false)).telemetry.present = true :=
  ((signals_tell_recent_arrivals flowLoop 1 (by decide) (promptReply 1) [] [.control 2 true]).1
    rfl rfl 1000000000 false).mpr ⟨2, by decide, by decide⟩

/-- Overlays are presented alone only when the video is missing, and Flow frames only so often. -/
theorem overlays_wait_for_video (options : LoopOptions) (now : Nat) (started : 0 < now)
    (first : Reply) (others : List Reply) (events : List Event) :
    let log := (run options now first others events).log
    log.Pairwise Uncovered ∧
    ∀ interval, options.flowFrameInterval = some interval → 0 < interval → ∀ since stretch,
      (log.filterMap dueTime).countP (fun time => since ≤ time && time < since + stretch) ≤
        (stretch + interval - 1) / interval := by
  intro log
  have sound := run_sound options started first others events
  refine ⟨sound.uncovered, fun interval limited wide since stretch => ?_⟩
  have most := (sound.spaced limited).countP_le wide since stretch
  rw [List.countP_reverse] at most
  exact most

/-- Video stops, and the overlays are shown again. -/
def videoStops : List Event :=
  [.frame (promptReply 20000000), .noFrame (promptReply 30000000), .noFrame (promptReply 800000000)]

theorem overlays_are_shown_again :
    (run flowLoop 1 (promptReply 1) [] videoStops).log.Pairwise Uncovered :=
  (overlays_wait_for_video flowLoop 1 (by decide) (promptReply 1) [] videoStops).1

example : (run flowLoop 1 (promptReply 1) [] videoStops).log.head? =
    some (.deadline 800000000 800000000 true) := by decide

/-! ### The thread for Flow frames -/

/-- The times at which frames were drawn, the last one in front. -/
structure FlowThread where
  clock : Nat
  nextFrame : Nat
  drawn : List Nat := []

/-- When a round has drawn its frame, when it reads the clock then, and when it is woken if it
sleeps. -/
structure FlowRound where
  drawn : Nat
  read : Nat
  woken : Nat

def FlowRound.now (round : FlowRound) (thread : FlowThread) : Nat :=
  max (max thread.clock round.drawn) round.read

/-- A frame is drawn, and the thread sleeps until the next one unless that is late already. -/
def drawFlowFrame (interval : Nat) (thread : FlowThread) (round : FlowRound) : FlowThread :=
  let drawn := max thread.clock round.drawn :: thread.drawn
  let nextFrame := thread.nextFrame + interval
  let now := round.now thread
  let nextFrame := if now + interval < nextFrame then now + interval else nextFrame
  if now < nextFrame then ⟨max nextFrame round.woken, nextFrame, drawn⟩ else ⟨now, nextFrame, drawn⟩

/-- The thread is never ahead of its schedule, which no delay moves. -/
structure OnSchedule (interval start : Nat) (thread : FlowThread) : Prop where
  next : thread.nextFrame = start + thread.drawn.length * interval
  reached : thread.nextFrame ≤ thread.clock
  drawn : ∀ n time, thread.drawn.reverse[n]? = some time → start + n * interval ≤ time

theorem OnSchedule.now (schedule : OnSchedule interval start thread) (round : FlowRound) :
    thread.nextFrame ≤ max thread.clock round.drawn ∧
      max thread.clock round.drawn ≤ round.now thread := by
  have reached := schedule.reached
  unfold FlowRound.now
  omega

theorem OnSchedule.draw (schedule : OnSchedule interval start thread) (round : FlowRound) :
    OnSchedule interval start (drawFlowFrame interval thread round) := by
  obtain ⟨early, later⟩ := schedule.now round
  have next := schedule.next
  have kept : drawFlowFrame interval thread round =
      ⟨if round.now thread < thread.nextFrame + interval
        then max (thread.nextFrame + interval) round.woken else round.now thread,
        thread.nextFrame + interval, max thread.clock round.drawn :: thread.drawn⟩ := by
    -- the deadline is never put back, since the thread has slept until the last one
    have ahead : ¬round.now thread + interval < thread.nextFrame + interval := by omega
    unfold drawFlowFrame
    dsimp only
    rw [if_neg ahead]
    by_cases sleeps : round.now thread < thread.nextFrame + interval
    · rw [if_pos sleeps, if_pos sleeps]
    · rw [if_neg sleeps, if_neg sleeps]
  rw [kept]
  refine ⟨?_, ?_, fun n time found => ?_⟩
  · dsimp only
    rw [List.length_cons, Nat.succ_mul, next, Nat.add_assoc]
  · dsimp only
    split <;> omega
  · rw [List.reverse_cons] at found
    by_cases old : n < thread.drawn.reverse.length
    · rw [List.getElem?_append_left old] at found
      exact schedule.drawn n time found
    · have last : n = thread.drawn.reverse.length := by
        have bound := (List.getElem?_eq_some_iff.mp found).1
        rw [List.length_append, List.length_singleton] at bound
        omega
      subst last
      rw [List.getElem?_concat_length] at found
      obtain rfl := Option.some.inj found
      rw [List.length_reverse, ← next]
      exact early

theorem drawn_count (interval : Nat) (thread : FlowThread) (round : FlowRound) :
    (drawFlowFrame interval thread round).drawn.length = thread.drawn.length + 1 := by
  unfold drawFlowFrame
  dsimp only
  repeat' split
  all_goals rfl

def flowThread (interval start : Nat) (rounds : List FlowRound) : FlowThread :=
  rounds.foldl (drawFlowFrame interval) ⟨start, start, []⟩

theorem flowThread_onSchedule (interval start : Nat) (rounds : List FlowRound) :
    OnSchedule interval start (flowThread interval start rounds) := by
  refine Runs.invariant_after_any_run rounds (fun _ round schedule => schedule.draw round)
    ⟨?_, Nat.le_refl _, nofun⟩
  exact (Nat.add_eq_left.mpr (Nat.zero_mul _)).symm

theorem flowThread_count (interval start : Nat) (rounds : List FlowRound) :
    (flowThread interval start rounds).drawn.length = rounds.length := by
  induction rounds using List.reverseRecOn with
  | nil => rfl
  | append_singleton earlier round ih =>
    unfold flowThread at ih ⊢
    rw [List.foldl_concat, drawn_count, ih, List.length_append, List.length_singleton]

/-- No frame is early, however long frames take, and a delay is made up: a thread that sleeps has
drawn one frame more than whole intervals have passed since it was started. -/
theorem flow_frames_keep_schedule (interval start : Nat) (rounds : List FlowRound)
    (round : FlowRound) :
    let thread := flowThread interval start rounds
    thread.nextFrame = start + rounds.length * interval ∧
    (∀ n time, thread.drawn.reverse[n]? = some time → start + n * interval ≤ time) ∧
    (round.now thread < thread.nextFrame + interval →
      (flowThread interval start (rounds ++ [round])).drawn.length =
        (round.now thread - start) / interval + 1) := by
  intro thread
  have schedule : OnSchedule interval start thread := flowThread_onSchedule interval start rounds
  have count : thread.drawn.length = rounds.length := flowThread_count interval start rounds
  have next : thread.nextFrame = start + rounds.length * interval := count ▸ schedule.next
  refine ⟨next, schedule.drawn, fun sleeps => ?_⟩
  obtain ⟨early, later⟩ := schedule.now round
  have whole : (round.now thread - start) / interval = rounds.length := by
    refine Nat.div_eq_of_lt_le ?_ ?_
    · omega
    · rw [Nat.succ_mul]
      omega
  rw [flowThread_count, List.length_append, List.length_singleton, whole]

end Glide.PresentationLoop
