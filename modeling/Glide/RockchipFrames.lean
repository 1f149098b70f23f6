import Glide.Library.Ownership
import Glide.Library.Runs

/-! Decoded frames between the frame thread of the Rockchip decoder and the
presenter thread. Every step is one access of a thread to what the threads share;
a frame that a thread holds in a local variable between two of its steps is in
the state of that thread. -/
namespace Glide.RockchipFrames
open Library Ownership

/-- A frame, by its place in the order in which `decode_get_frame` handed them out. -/
abbrev Frame := Nat

/-- What `frame_loop` asks a frame about. -/
structure FrameFlags where
  infoChange : Bool := false
  errinfo : Bool := false
  discard : Bool := false
  hasBuffer : Bool := true
  deriving DecidableEq, Repr

/-- Where the frame thread is in `frame_loop`. -/
inductive FrameThread where
  | loopHead
  | decoding
  | returned (reply : Option (Frame × FrameFlags))
  | delivering (frame : Frame)
  | exited
  deriving DecidableEq, Repr

/-- Where the presenter thread is: in its loop or in one of the calls it makes. -/
inductive Presenter where
  | polling
  | selected (frame : Frame)
  | converting (frame : Frame)
  | presenting (frame : Frame)
  | marking (frame : Frame)
  | stopped
  deriving DecidableEq, Repr

structure State where
  frameThread : FrameThread := .loopHead
  presenter : Presenter := .polling
  running : Bool := true
  readyFrames : List Frame := []
  pendingPresentedFrame : Option Frame := none
  currentFrame : Option Frame := none
  /-- The frames obtained so far are the numbers below this one. -/
  obtained : Nat := 0
  released : List Frame := []
  delivered : List Frame := []
  marked : List Frame := []
  decodedFrames : Nat := 0
  droppedDecodedFrames : Nat := 0
  cleanedUp : Bool := false
  deriving DecidableEq, Repr

/-- One step of one of the threads, with what the environment answers it. A step of a
thread that is elsewhere does nothing. -/
inductive Step where
  | enterLoop
  | decodeGetFrame (reply : Option FrameFlags)
  | handleFrame (configured : Bool)
  | pushFrame
  | selectFrame
  | keepSelected
  | frameToDmabuf (succeeded : Bool)
  | present (succeeded : Bool)
  | markPresented
  | stopPresenter
  | clearRunning
  | cleanup
  deriving DecidableEq, Repr

/-! ### The frame thread -/

def enterLoop (state : State) : State :=
  match state.frameThread with
  | .loopHead => { state with frameThread := if state.running then .decoding else .exited }
  | _ => state

/-- A call that fails hands out no frame. -/
def decodeGetFrame (reply : Option FrameFlags) (state : State) : State :=
  match state.frameThread, reply with
  | .decoding, none => { state with frameThread := .returned none }
  | .decoding, some flags =>
    { state with frameThread := .returned (some (state.obtained, flags)),
                 obtained := state.obtained + 1 }
  | _, _ => state

/-- From the second look at `running_` to the lock. An information change that cannot
be configured ends the thread. -/
def handleFrame (configured : Bool) (state : State) : State :=
  match state.frameThread with
  | .returned none => { state with frameThread := if state.running then .loopHead else .exited }
  | .returned (some (frame, flags)) =>
    let released := state.released ++ [frame]
    if !state.running then { state with released, frameThread := .exited }
    else if flags.infoChange then
      if configured then { state with released, frameThread := .loopHead }
      else { state with released, frameThread := .exited, running := false }
    else if flags.errinfo || flags.discard then { state with released, frameThread := .loopHead }
    else if !flags.hasBuffer then { state with released, frameThread := .loopHead }
    else { state with frameThread := .delivering frame }
  | _ => state

/-- The locked section of `frame_loop`. -/
def pushFrame (state : State) : State :=
  match state.frameThread with
  | .delivering frame =>
    let (dropped, kept) := dropOldest 3 state.readyFrames
    { state with
      frameThread := .loopHead
      readyFrames := kept ++ [frame]
      released := state.released ++ dropped
      droppedDecodedFrames := state.droppedDecodedFrames + dropped.length
      decodedFrames := state.decodedFrames + 1 }
  | _ => state

/-! ### The presenter thread -/

/-- The locked section of `poll`. -/
def selectFrame (state : State) : State :=
  match state.presenter with
  | .polling =>
    let (dropped, kept) := dropOldest 2 state.readyFrames
    let state := { state with
      readyFrames := kept
      released := state.released ++ dropped
      droppedDecodedFrames := state.droppedDecodedFrames + dropped.length }
    match kept with
    | [] => state
    | frame :: rest => { state with readyFrames := rest, presenter := .selected frame }
  | _ => state

def keepSelected (state : State) : State :=
  match state.presenter with
  | .selected frame =>
    { state with
      released := state.released ++ state.pendingPresentedFrame.toList
      pendingPresentedFrame := some frame
      presenter := .converting frame }
  | _ => state

/-- The end of `poll`. A frame that cannot be described is released, and the error text
that goes with it makes the presenter stop. -/
def frameToDmabuf (succeeded : Bool) (state : State) : State :=
  match state.presenter with
  | .converting frame =>
    if succeeded then
      { state with presenter := .presenting frame, delivered := state.delivered ++ [frame] }
    else
      { state with
        released := state.released ++ state.pendingPresentedFrame.toList
        pendingPresentedFrame := none
        presenter := .stopped }
  | _ => state

def present (succeeded : Bool) (state : State) : State :=
  match state.presenter with
  | .presenting frame =>
    { state with presenter := if succeeded then .marking frame else .stopped }
  | _ => state

def markPresented (state : State) : State :=
  match state.presenter with
  | .marking _ =>
    { state with
      released := state.released ++ state.currentFrame.toList
      currentFrame := state.pendingPresentedFrame
      pendingPresentedFrame := none
      marked := state.marked ++ state.pendingPresentedFrame.toList
      presenter := .polling }
  | _ => state

/-- A stop request, an error of the decoder or one of the overlay, between two frames. -/
def stopPresenter (state : State) : State :=
  match state.presenter with
  | .polling => { state with presenter := .stopped }
  | _ => state

/-- The frames that `cleanup` releases once the threads have been joined. -/
def cleanup (state : State) : State :=
  match state.presenter, state.frameThread with
  | .stopped, .exited =>
    { state with
      released := state.released ++ state.readyFrames ++ state.pendingPresentedFrame.toList ++
        state.currentFrame.toList
      readyFrames := []
      pendingPresentedFrame := none
      currentFrame := none
      cleanedUp := true }
  | _, _ => state

def step (state : State) : Step → State
  | .enterLoop => enterLoop state
  | .decodeGetFrame reply => decodeGetFrame reply state
  | .handleFrame configured => handleFrame configured state
  | .pushFrame => pushFrame state
  | .selectFrame => selectFrame state
  | .keepSelected => keepSelected state
  | .frameToDmabuf succeeded => frameToDmabuf succeeded state
  | .present succeeded => present succeeded state
  | .markPresented => markPresented state
  | .stopPresenter => stopPresenter state
  -- the feed thread or the destructor stops the decoder
  | .clearRunning => { state with running := false }
  | .cleanup => cleanup state

/-- Any interleaving of the two threads, from the start of the decoder. -/
def run (steps : List Step) : State := steps.foldl step {}

/-! ### Every frame has one owner -/

/-- The frame in the local variable of `frame_loop`. -/
def FrameThread.held : FrameThread → List Frame
  | .returned (some (frame, _)) => [frame]
  | .delivering frame => [frame]
  | _ => []

/-- The frame in the local variable of `poll`. -/
def Presenter.held : Presenter → List Frame
  | .selected frame => [frame]
  | _ => []

/-- The frames that a step in progress moves from one place to the next. -/
def State.inHand (state : State) : List Frame := state.frameThread.held ++ state.presenter.held

/-- The frame that `poll` has taken from the queue and not yet delivered. -/
def Presenter.chosen : Presenter → List Frame
  | .selected frame => [frame]
  | .converting frame => [frame]
  | _ => []

/-- The frame that has to be in `pending_presented_frame_`. -/
def Presenter.pending : Presenter → Option Frame
  | .converting frame => some frame
  | .presenting frame => some frame
  | .marking frame => some frame
  | _ => none

/-- The frames from the one delivered first to the one obtained last. -/
def State.queue (state : State) : List Frame :=
  state.delivered ++ state.presenter.chosen ++ state.readyFrames ++ state.frameThread.held

def State.places (state : State) : List (List Frame) :=
  [state.released, state.inHand, state.readyFrames, state.pendingPresentedFrame.toList,
    state.currentFrame.toList]

structure Custody (state : State) : Prop where
  accounted : Accounted state.obtained state.places
  bounded : state.readyFrames.length ≤ 4
  ordered : InOrder state.obtained state.queue
  pending : ∀ frame, state.presenter.pending = some frame →
    state.pendingPresentedFrame = some frame
  marked : state.cleanedUp = false → state.marked.getLast? = state.currentFrame
  cleanedUp : state.cleanedUp = true → state.frameThread = .exited ∧ state.presenter = .stopped ∧
    state.readyFrames = [] ∧ state.pendingPresentedFrame = none ∧ state.currentFrame = none

theorem count_places (state : State) (item : Frame) : state.places.flatten.count item =
    state.released.count item + (state.frameThread.held.count item +
      state.presenter.held.count item) + state.readyFrames.count item +
      state.pendingPresentedFrame.toList.count item + state.currentFrame.toList.count item := by
  simp only [State.places, State.inHand, List.flatten_cons, List.flatten_nil, List.count_append,
    List.count_nil]
  omega

theorem start_custody : Custody {} := by
  refine ⟨accounted_empty rfl, Nat.zero_le _, ⟨List.Pairwise.nil, ?_⟩, ?_, fun _ => rfl, ?_⟩
  · intro frame held
    exact absurd held List.not_mem_nil
  · intro frame converting
    exact absurd converting.symm (Option.some_ne_none frame)
  · intro ended
    exact absurd ended Bool.false_ne_true

theorem Custody.not_cleanedUp (custody : Custody state)
    (working : state.frameThread ≠ .exited ∨ state.presenter ≠ .stopped) :
    state.cleanedUp = false := by
  by_contra ended
  have idle := custody.cleanedUp (by simpa using ended)
  rcases working with working | working
  · exact working idle.1
  · exact working idle.2.1

/-- A step of a thread that only passes frames on. -/
theorem Custody.move (custody : Custody before)
    (working : before.frameThread ≠ .exited ∨ before.presenter ≠ .stopped)
    (obtained : after.obtained = before.obtained) (cleanedUp : after.cleanedUp = before.cleanedUp)
    (same : ∀ item, after.places.flatten.count item = before.places.flatten.count item)
    (bounded : after.readyFrames.length ≤ 4) (queue : after.queue.Sublist before.queue)
    (pending : ∀ frame, after.presenter.pending = some frame →
      after.pendingPresentedFrame = some frame)
    (marked : after.marked.getLast? = after.currentFrame) : Custody after := by
  have unfinished : after.cleanedUp = false := cleanedUp.trans (custody.not_cleanedUp working)
  refine ⟨?_, bounded, ?_, pending, fun _ => marked, ?_⟩
  · rw [obtained]
    exact custody.accounted.move same
  · rw [obtained]
    exact custody.ordered.sublist queue
  · intro ended
    exact absurd (unfinished.symm.trans ended) Bool.false_ne_true

theorem enterLoop_custody (custody : Custody state) : Custody (enterLoop state) := by
  unfold enterLoop
  split
  · rename_i head
    have working : state.frameThread ≠ .exited := by simp [head]
    have held : (if state.running then FrameThread.decoding else .exited).held =
        state.frameThread.held := by
      rw [head]
      split <;> rfl
    refine custody.move (.inl working) rfl rfl ?_ custody.bounded ?_ custody.pending
      (custody.marked (custody.not_cleanedUp (.inl working)))
    · intro item
      rw [count_places, count_places, held]
    · simp only [State.queue, held, List.Sublist.refl]
  · exact custody

theorem decodeGetFrame_custody (reply : Option FrameFlags) (custody : Custody state) :
    Custody (decodeGetFrame reply state) := by
  unfold decodeGetFrame
  split
  · rename_i decoding
    have working : state.frameThread ≠ .exited := by simp [decoding]
    refine custody.move (.inl working) rfl rfl ?_ custody.bounded ?_ custody.pending
      (custody.marked (custody.not_cleanedUp (.inl working)))
    · intro item
      rw [count_places, count_places, decoding]
      rfl
    · simp [State.queue, decoding, FrameThread.held]
  · rename_i flags decoding
    have unfinished := custody.not_cleanedUp (.inl (by simp [decoding]))
    refine ⟨custody.accounted.obtain ?_, custody.bounded, ?_, custody.pending, custody.marked, ?_⟩
    · intro item
      rw [count_places, count_places, decoding]
      simp only [FrameThread.held, List.count_nil]
      omega
    · have next := custody.ordered.obtain
      simpa only [State.queue, decoding, FrameThread.held, List.append_nil] using next
    · intro ended
      exact absurd (unfinished.symm.trans ended) Bool.false_ne_true
  · exact custody

/-- The frame thread gives the frame it holds back. -/
private theorem release_custody {frame : Frame} {flags : FrameFlags} (custody : Custody state)
    (returned : state.frameThread = .returned (some (frame, flags))) (thread : FrameThread)
    (running : Bool) (free : thread.held = []) :
    Custody { state with released := state.released ++ [frame], frameThread := thread, running } := by
  have working : state.frameThread ≠ .exited := by simp [returned]
  refine custody.move (.inl working) rfl rfl ?_ custody.bounded ?_ custody.pending
    (custody.marked (custody.not_cleanedUp (.inl working)))
  · intro item
    rw [count_places, count_places, free, returned]
    simp only [FrameThread.held, List.count_append, List.count_nil]
    omega
  · simp [State.queue, free]

theorem handleFrame_custody (configured : Bool) (custody : Custody state) :
    Custody (handleFrame configured state) := by
  unfold handleFrame
  split
  · rename_i returned
    have working : state.frameThread ≠ .exited := by simp [returned]
    have held : (if state.running then FrameThread.loopHead else .exited).held =
        state.frameThread.held := by
      rw [returned]
      split <;> rfl
    refine custody.move (.inl working) rfl rfl ?_ custody.bounded ?_ custody.pending
      (custody.marked (custody.not_cleanedUp (.inl working)))
    · intro item
      rw [count_places, count_places, held]
    · simp only [State.queue, held, List.Sublist.refl]
  · rename_i frame flags returned
    have kept := release_custody custody returned
    split
    · exact kept .exited state.running rfl
    · split
      · split
        · exact kept .loopHead state.running rfl
        · exact kept .exited false rfl
      · split
        · exact kept .loopHead state.running rfl
        · split
          · exact kept .loopHead state.running rfl
          · have working : state.frameThread ≠ .exited := by simp [returned]
            refine custody.move (.inl working) rfl rfl ?_ custody.bounded ?_ custody.pending
              (custody.marked (custody.not_cleanedUp (.inl working)))
            · intro item
              rw [count_places, count_places, returned]
              rfl
            · simp [State.queue, returned, FrameThread.held]
  · exact custody

theorem pushFrame_custody (custody : Custody state) : Custody (pushFrame state) := by
  unfold pushFrame
  split
  · rename_i frame delivering
    have working : state.frameThread ≠ .exited := by simp [delivering]
    have room := dropOldest_length 3 state.readyFrames
    refine custody.move (.inl working) rfl rfl ?_ ?_ ?_ custody.pending
      (custody.marked (custody.not_cleanedUp (.inl working)))
    · intro item
      have split := dropOldest_count 3 state.readyFrames item
      rw [count_places, count_places, delivering]
      simp only [FrameThread.held, List.count_append, List.count_nil]
      omega
    · rw [List.length_append, List.length_singleton]
      omega
    · have kept := dropOldest_sublist 3 state.readyFrames
      simp only [State.queue, delivering, FrameThread.held, List.append_nil, List.append_assoc]
      exact ((kept.append (.refl _)).append_left _).append_left _
  · exact custody

theorem selectFrame_custody (custody : Custody state) : Custody (selectFrame state) := by
  unfold selectFrame
  split
  · rename_i polling
    have working : state.presenter ≠ .stopped := by simp [polling]
    have marked := custody.marked (custody.not_cleanedUp (.inr working))
    have kept := dropOldest_sublist 2 state.readyFrames
    have bound := dropOldest_length 2 state.readyFrames
    dsimp only
    split
    · rename_i none_left
      refine custody.move (.inr working) rfl rfl ?_ (Nat.le_trans bound (by omega)) ?_ custody.pending
        marked
      · intro item
        have split := dropOldest_count 2 state.readyFrames item
        rw [count_places, count_places]
        simp only [List.count_append]
        omega
      · simp only [State.queue]
        exact (kept.append_left _).append (.refl _)
    · rename_i frame rest first
      rw [first] at kept bound
      refine custody.move (.inr working) rfl rfl ?_ ?_ ?_ ?_ marked
      · intro item
        have split := dropOldest_count 2 state.readyFrames item
        rw [first, List.count_cons] at split
        rw [count_places, count_places, polling]
        simp only [Presenter.held, List.count_append, List.count_nil, List.count_singleton]
        omega
      · rw [List.length_cons] at bound
        show rest.length ≤ 4
        omega
      · simp only [State.queue, polling, Presenter.chosen, List.append_nil, List.append_assoc]
        exact (kept.append (.refl _)).append_left _
      · intro other chosen
        exact absurd chosen.symm (Option.some_ne_none other)
  · exact custody

theorem keepSelected_custody (custody : Custody state) : Custody (keepSelected state) := by
  unfold keepSelected
  split
  · rename_i frame selected
    have working : state.presenter ≠ .stopped := by simp [selected]
    refine custody.move (.inr working) rfl rfl ?_ custody.bounded ?_ (fun _ chosen => chosen)
      (custody.marked (custody.not_cleanedUp (.inr working)))
    · intro item
      rw [count_places, count_places, selected]
      simp only [Presenter.held, List.count_append, List.count_nil, Option.toList_some]
      omega
    · simp [State.queue, selected, Presenter.chosen]
  · exact custody

theorem frameToDmabuf_custody (succeeded : Bool) (custody : Custody state) :
    Custody (frameToDmabuf succeeded state) := by
  unfold frameToDmabuf
  split
  · rename_i frame converting
    have working : state.presenter ≠ .stopped := by simp [converting]
    have marked := custody.marked (custody.not_cleanedUp (.inr working))
    split
    · refine custody.move (.inr working) rfl rfl ?_ custody.bounded ?_ ?_ marked
      · intro item
        rw [count_places, count_places, converting]
        rfl
      · simp [State.queue, converting, Presenter.chosen]
      · intro other chosen
        exact custody.pending other (by rw [converting]; exact chosen)
    · refine custody.move (.inr working) rfl rfl ?_ custody.bounded ?_ ?_ marked
      · intro item
        rw [count_places, count_places, converting]
        simp only [Presenter.held, List.count_append, List.count_nil, Option.toList_none]
        omega
      · simp [State.queue, converting, Presenter.chosen]
      · intro other chosen
        exact absurd chosen.symm (Option.some_ne_none other)
  · exact custody

theorem present_custody (succeeded : Bool) (custody : Custody state) :
    Custody (present succeeded state) := by
  unfold present
  split
  · rename_i frame presenting
    have working : state.presenter ≠ .stopped := by simp [presenting]
    have waiting := custody.pending frame (by rw [presenting]; rfl)
    refine custody.move (.inr working) rfl rfl ?_ custody.bounded ?_ ?_
      (custody.marked (custody.not_cleanedUp (.inr working)))
    · intro item
      rw [count_places, count_places, presenting]
      cases succeeded <;> rfl
    · cases succeeded <;> simp [State.queue, presenting, Presenter.chosen]
    · intro other chosen
      cases succeeded
      · exact absurd chosen.symm (Option.some_ne_none other)
      · exact waiting.trans chosen
  · exact custody

theorem markPresented_custody (custody : Custody state) : Custody (markPresented state) := by
  unfold markPresented
  split
  · rename_i frame marking
    have working : state.presenter ≠ .stopped := by simp [marking]
    have waiting := custody.pending frame (by rw [marking]; rfl)
    refine custody.move (.inr working) rfl rfl ?_ custody.bounded ?_ ?_ ?_
    · intro item
      rw [count_places, count_places, marking]
      simp only [Presenter.held, List.count_append, List.count_nil, Option.toList_none]
      omega
    · simp [State.queue, marking, Presenter.chosen]
    · intro other chosen
      exact absurd chosen.symm (Option.some_ne_none other)
    · simp [waiting]
  · exact custody

theorem stopPresenter_custody (custody : Custody state) : Custody (stopPresenter state) := by
  unfold stopPresenter
  split
  · rename_i polling
    have working : state.presenter ≠ .stopped := by simp [polling]
    refine custody.move (.inr working) rfl rfl ?_ custody.bounded ?_ ?_
      (custody.marked (custody.not_cleanedUp (.inr working)))
    · intro item
      rw [count_places, count_places, polling]
      rfl
    · simp [State.queue, polling, Presenter.chosen]
    · intro other chosen
      exact absurd chosen.symm (Option.some_ne_none other)
  · exact custody

theorem cleanup_custody (custody : Custody state) : Custody (cleanup state) := by
  unfold cleanup
  split
  · rename_i stopped exited
    refine ⟨custody.accounted.move ?_, Nat.zero_le _, custody.ordered.sublist ?_, ?_, ?_, ?_⟩
    · intro item
      rw [count_places, count_places]
      simp only [List.count_append, List.count_nil, Option.toList_none]
      omega
    · simp [State.queue]
    · intro frame waiting
      rw [stopped] at waiting
      exact absurd waiting.symm (Option.some_ne_none frame)
    · intro unfinished
      exact absurd unfinished.symm Bool.false_ne_true
    · exact fun _ => ⟨exited, stopped, rfl, rfl, rfl⟩
  · exact custody

theorem step_custody (state : State) (event : Step) (custody : Custody state) :
    Custody (step state event) := by
  cases event with
  | enterLoop => exact enterLoop_custody custody
  | decodeGetFrame reply => exact decodeGetFrame_custody reply custody
  | handleFrame configured => exact handleFrame_custody configured custody
  | pushFrame => exact pushFrame_custody custody
  | selectFrame => exact selectFrame_custody custody
  | keepSelected => exact keepSelected_custody custody
  | frameToDmabuf succeeded => exact frameToDmabuf_custody succeeded custody
  | present succeeded => exact present_custody succeeded custody
  | markPresented => exact markPresented_custody custody
  | stopPresenter => exact stopPresenter_custody custody
  | clearRunning =>
    exact ⟨custody.accounted, custody.bounded, custody.ordered, custody.pending, custody.marked,
      custody.cleanedUp⟩
  | cleanup => exact cleanup_custody custody

theorem run_custody (steps : List Step) : Custody (run steps) :=
  Runs.invariant_after_any_run steps step_custody start_custody

/-- What is left when `running_` has been cleared: the frame thread comes back from the
call it is in, or from the lock, and leaves its loop. -/
def joinFrameThread (reply : Option FrameFlags) (configured : Bool) : List Step :=
  [.clearRunning, .decodeGetFrame reply, .handleFrame configured, .pushFrame, .enterLoop]

/-- The frame thread ends wherever it was. -/
theorem joinFrameThread_exited (reply : Option FrameFlags) (configured : Bool) (state : State) :
    ((joinFrameThread reply configured).foldl step state).frameThread = .exited ∧
      ((joinFrameThread reply configured).foldl step state).presenter = state.presenter := by
  obtain ⟨frameThread, presenter, running, readyFrames, pending, current, obtained, released,
    delivered, marked, decoded, dropped, cleanedUp⟩ := state
  simp only [joinFrameThread, List.foldl_cons, List.foldl_nil, step]
  cases frameThread with
  | loopHead => exact ⟨rfl, rfl⟩
  | decoding => cases reply <;> exact ⟨rfl, rfl⟩
  | returned handed => cases handed <;> exact ⟨rfl, rfl⟩
  | delivering frame => exact ⟨rfl, rfl⟩
  | exited => exact ⟨rfl, rfl⟩

/-- Every frame obtained so far has been released, once, and none is held anywhere. -/
def State.AllReleased (state : State) : Prop :=
  (∀ frame < state.obtained, state.released.count frame = 1) ∧
    state.inHand = [] ∧ state.readyFrames = [] ∧ state.pendingPresentedFrame = none ∧
    state.currentFrame = none

/-- The law of the decoded frames. A frame is in the hand of a thread only while that
thread moves it from one place to the next. When the presenter has stopped, joining the
frame thread and cleaning up releases everything, whatever the thread still comes back with. -/
structure Conserved (state : State) : Prop where
  onePlace : ∀ frame < state.obtained, frame ∉ state.inHand →
    InOnePlace frame [state.readyFrames, state.pendingPresentedFrame.toList,
      state.currentFrame.toList, state.released]
  moved : ∀ frame ∈ state.inHand, InOnePlace frame state.places
  releasedOnce : ∀ frame, state.released.count frame ≤ 1
  allReleased : state.cleanedUp = true → state.AllReleased
  cleanupReleases : state.presenter = .stopped → ∀ reply configured,
    (step ((joinFrameThread reply configured).foldl step state) .cleanup).AllReleased
  bounded : state.readyFrames.length ≤ 4
  decodeOrder : state.delivered.Pairwise (· < ·)
  scanOut : state.cleanedUp = false → ∀ frame, state.marked.getLast? = some frame →
    frame ∉ state.released

/-- Without a thread that holds a frame, `cleanup` leaves none unreleased. -/
theorem Custody.cleanup_releases (custody : Custody state) (exited : state.frameThread = .exited)
    (stopped : state.presenter = .stopped) : (step state .cleanup).AllReleased := by
  have cleaned : step state .cleanup = { state with
      released := state.released ++ state.readyFrames ++ state.pendingPresentedFrame.toList ++
        state.currentFrame.toList
      readyFrames := []
      pendingPresentedFrame := none
      currentFrame := none
      cleanedUp := true } := by
    simp only [step, cleanup, stopped, exited]
  rw [cleaned]
  refine ⟨?_, ?_, rfl, rfl, rfl⟩
  · intro frame known
    have once := custody.accounted.inOnePlace known
    rw [InOnePlace, count_places, exited, stopped] at once
    simp only [FrameThread.held, Presenter.held, List.count_nil] at once
    simp only [List.count_append]
    omega
  · rw [State.inHand, exited, stopped]
    rfl

theorem Custody.conserved (custody : Custody state) : Conserved state where
  onePlace := by
    intro frame known free
    have once := custody.accounted.inOnePlace known
    have absent := List.count_eq_zero.2 free
    simp only [State.places, InOnePlace, List.flatten_cons, List.flatten_nil, List.count_append,
      List.count_nil] at once ⊢
    omega
  moved := by
    intro frame held
    refine custody.accounted.inOnePlace (custody.accounted.known ?_)
    simp [State.places, held]
  releasedOnce := by
    intro frame
    have counted := custody.accounted frame
    rw [count_places] at counted
    split at counted <;> omega
  allReleased := by
    intro ended
    obtain ⟨exited, stopped, empty, no_pending, no_current⟩ := custody.cleanedUp ended
    refine ⟨?_, by rw [State.inHand, exited, stopped]; rfl, empty, no_pending, no_current⟩
    intro frame known
    have once := custody.accounted.inOnePlace known
    rw [InOnePlace, count_places, exited, stopped, empty, no_pending, no_current] at once
    exact once
  cleanupReleases := by
    intro stopped reply configured
    obtain ⟨exited, same⟩ := joinFrameThread_exited reply configured state
    exact (Runs.invariant_after_any_run _ step_custody custody).cleanup_releases exited
      (same.trans stopped)
  bounded := custody.bounded
  decodeOrder := by
    have ordered := custody.ordered.1
    simp only [State.queue, List.append_assoc] at ordered
    exact (List.pairwise_append.1 ordered).1
  scanOut := by
    intro unfinished frame last
    have shown := (custody.marked unfinished).symm.trans last
    refine custody.accounted.not_released ?_
    simp [shown]

/-- Whatever the two threads do in whatever order, no frame is lost, released twice or
released while it is on the screen. -/
theorem frames_are_conserved (steps : List Step) : Conserved (run steps) :=
  (run_custody steps).conserved

end Glide.RockchipFrames
