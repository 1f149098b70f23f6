import Glide.Library.Ownership
import Glide.Library.Runs

/-! The presenter loop around a decoder that shows one frame at a time: `poll` takes
a frame from the queue of decoded frames, `present` puts its buffer on the video
plane, and `mark_presented` returns it. The i.MX and the Cedar decoder have this loop. -/
namespace Glide.FramePresentation
open Library Ownership

/-- A decoded frame: its place in the order of decoding, the buffer it is in, and what
is wrong with it when it cannot be described to the display. -/
structure Frame where
  number : Nat
  buffer : Nat
  fault : Option String := none
  deriving DecidableEq, Repr

inductive Happening where
  | returned (frame : Frame)
  | deallocated (buffer : Nat)
  | shown (buffer : Nat)
  deriving DecidableEq, Repr

/-- The frames of a decoder and what has happened to them. Only the i.MX decoder has a
pool of its own. -/
structure Frames where
  ready : List Frame := []
  current : Option Frame := none
  obtained : Nat := 0
  pool : List Nat := []
  log : List Happening := []
  lastError : String := ""
  deriving DecidableEq, Repr

def fail (text : String) (frames : Frames) : Frames := { frames with lastError := text }

/-- `return_frame` on the current frame. -/
def returnCurrent (frames : Frames) : Frames :=
  { frames with current := none, log := frames.log ++ frames.current.toList.map .returned }

def returnReady (frames : Frames) : Frames :=
  { frames with ready := [], log := frames.log ++ frames.ready.map .returned }

def clearDecoderFrames (frames : Frames) : Frames := returnReady (returnCurrent frames)

def deallocatePool (frames : Frames) : Frames :=
  { frames with pool := [], log := frames.log ++ frames.pool.map .deallocated }

def enqueue (buffer : Nat) (fault : Option String) (frames : Frames) : Frames :=
  { frames with ready := frames.ready ++ [⟨frames.obtained, buffer, fault⟩]
                obtained := frames.obtained + 1 }

/-- At most six frames wait. -/
def dropStale (frames : Frames) : Frames :=
  { frames with ready := (dropOldest 6 frames.ready).2
                log := frames.log ++ (dropOldest 6 frames.ready).1.map .returned }

/-- The oldest frame becomes the current one; the result is the buffer to be shown. -/
def deliver (frames : Frames) : Option Nat × Frames :=
  match frames.ready with
  | [] => (none, frames)
  | frame :: rest =>
    let frames := { frames with ready := rest, current := some frame }
    match frame.fault with
    | some text => (none, fail text frames)
    | none => (some frame.buffer, frames)

/-- A decoder for the presenter loop. -/
structure Decoder (ι : Type) where
  poll : ι → Frames → Option Nat × Frames
  cleanup : Frames → Frames

/-- One turn of the loop: what the decoder meets in `poll`, whether the frame can then
be presented, and whether the waiting overlay can if there is none. -/
inductive Turn (ι : Type) where
  | iterate (input : ι) (presented overlaid : Bool)
  | stop
  deriving DecidableEq

structure Presenter where
  frames : Frames := {}
  running : Bool := true
  deriving DecidableEq, Repr

def finish (decoder : Decoder ι) (frames : Frames) : Presenter := ⟨decoder.cleanup frames, false⟩

/-- Whatever ends the loop destroys the decoder. -/
def step (decoder : Decoder ι) (presenter : Presenter) : Turn ι → Presenter
  | .stop => if presenter.running then finish decoder presenter.frames else presenter
  | .iterate input presented overlaid =>
    if !presenter.running then presenter
    else
      match decoder.poll input presenter.frames with
      | (none, frames) =>
        if frames.lastError ≠ "" then finish decoder frames
        else if overlaid then { presenter with frames } else finish decoder frames
      | (some buffer, frames) =>
        if presented then
          let frames := { frames with log := frames.log ++ [.shown buffer] }
          { presenter with frames := returnCurrent frames }
        else finish decoder frames

def run (decoder : Decoder ι) (turns : List (Turn ι)) : Presenter := turns.foldl (step decoder) {}

/-! ### What the display and the decoder may rely on -/

def returnedNumber : Happening → Option Nat
  | .returned frame => some frame.number
  | _ => none

def Frames.returned (frames : Frames) : List Nat := frames.log.filterMap returnedNumber

/-- No buffer is given back while it is the one on the video plane. -/
def ScanOutSafe (plane : Option Nat) : List Happening → Prop
  | [] => True
  | .shown buffer :: rest => ScanOutSafe (some buffer) rest
  | .returned frame :: rest => plane ≠ some frame.buffer ∧ ScanOutSafe plane rest
  | .deallocated buffer :: rest => plane ≠ some buffer ∧ ScanOutSafe plane rest

instance decidableScanOutSafe : ∀ plane log, Decidable (ScanOutSafe plane log)
  | _, [] => isTrue trivial
  | _, .shown buffer :: rest => decidableScanOutSafe (some buffer) rest
  | plane, .returned frame :: rest =>
    have := decidableScanOutSafe plane rest
    inferInstanceAs (Decidable (plane ≠ some frame.buffer ∧ ScanOutSafe plane rest))
  | plane, .deallocated buffer :: rest =>
    have := decidableScanOutSafe plane rest
    inferInstanceAs (Decidable (plane ≠ some buffer ∧ ScanOutSafe plane rest))

/-- Every decoded frame is returned once, and none while it is on the screen. -/
structure Safe (presenter : Presenter) : Prop where
  returnedOnce : ∀ number, presenter.frames.returned.count number ≤ 1
  allReturned : presenter.running = false →
    ∀ number < presenter.frames.obtained, presenter.frames.returned.count number = 1
  scanOut : ScanOutSafe none presenter.frames.log

/-- The turn does not put a frame on the video plane. -/
def ShowsNothing (decoder : Decoder ι) (presenter : Presenter) : Turn ι → Prop
  | .stop => True
  | .iterate input presented _ =>
    presenter.running = true → (decoder.poll input presenter.frames).1 ≠ none → presented = false

theorem scanOutSafe_append (safe : ScanOutSafe plane (earlier ++ later)) :
    ScanOutSafe plane earlier := by
  induction earlier generalizing plane with
  | nil => trivial
  | cons happening rest ih =>
    cases happening with
    | returned frame => exact ⟨safe.1, ih safe.2⟩
    | deallocated buffer => exact ⟨safe.1, ih safe.2⟩
    | shown buffer => exact @ih (some buffer) safe

/-- With nothing on the video plane, everything may be given back. -/
theorem scanOutSafe_of_unshown (unshown : ∀ buffer, Happening.shown buffer ∉ log) :
    ScanOutSafe none log := by
  induction log with
  | nil => trivial
  | cons happening rest ih =>
    have unshown_rest := fun buffer held => unshown buffer (List.mem_cons_of_mem _ held)
    cases happening with
    | returned frame => exact ⟨(Option.some_ne_none _).symm, ih unshown_rest⟩
    | deallocated buffer => exact ⟨(Option.some_ne_none _).symm, ih unshown_rest⟩
    | shown buffer => exact absurd List.mem_cons_self (unshown buffer)

theorem shown_and_returned (log : List Happening) (same : frame.buffer = buffer) :
    ¬ ScanOutSafe plane (log ++ [.shown buffer, .returned frame]) := by
  induction log generalizing plane with
  | nil => exact fun safe => safe.1 (congrArg some same.symm)
  | cons happening rest ih =>
    cases happening with
    | returned frame => exact fun safe => ih safe.2
    | deallocated buffer => exact fun safe => ih safe.2
    | shown buffer => exact fun safe => @ih (some buffer) safe

/-! ### What the operations on frames keep -/

def Frames.places (frames : Frames) : List (List Nat) :=
  [frames.returned, frames.ready.map Frame.number, frames.current.toList.map Frame.number]

/-- The frames stay accounted for and nothing is put on the video plane. -/
structure Keeps (before after : Frames) : Prop where
  accounted : Accounted before.obtained before.places → Accounted after.obtained after.places
  unshown : ∃ later, after.log = before.log ++ later ∧ ∀ buffer, Happening.shown buffer ∉ later

theorem Keeps.refl (frames : Frames) : Keeps frames frames where
  accounted := id
  unshown := ⟨[], (List.append_nil _).symm, fun _ => List.not_mem_nil⟩

theorem Keeps.trans (first : Keeps before between) (second : Keeps between after) :
    Keeps before after where
  accounted := second.accounted ∘ first.accounted
  unshown := by
    obtain ⟨early, early_log, early_unshown⟩ := first.unshown
    obtain ⟨late, late_log, late_unshown⟩ := second.unshown
    refine ⟨early ++ late, by rw [late_log, early_log, List.append_assoc], ?_⟩
    intro buffer held
    rcases List.mem_append.1 held with held | held
    · exact early_unshown buffer held
    · exact late_unshown buffer held

private theorem returned_map (given : List Frame) :
    (given.map Happening.returned).filterMap returnedNumber = given.map Frame.number := by
  induction given with
  | nil => rfl
  | cons frame rest ih => simp [returnedNumber, ih]

private theorem returned_unshown (given : List Frame) (buffer : Nat) :
    Happening.shown buffer ∉ given.map Happening.returned := by
  simp

theorem fail_keeps (text : String) (frames : Frames) : Keeps frames (fail text frames) :=
  ⟨id, (Keeps.refl frames).unshown⟩

/-- Frames that an operation returns leave their place for the log. -/
private theorem returns_keep (given : List Frame) (log : after.log = before.log ++ given.map .returned)
    (obtained : after.obtained = before.obtained)
    (moved : ∀ number, (given.map Frame.number).count number +
      (after.ready.map Frame.number).count number +
        (after.current.toList.map Frame.number).count number =
      (before.ready.map Frame.number).count number +
        (before.current.toList.map Frame.number).count number) : Keeps before after where
  accounted := by
    intro accounted
    rw [obtained]
    refine accounted.move ?_
    intro number
    have same := moved number
    simp only [Frames.places, Frames.returned, log, List.filterMap_append, returned_map,
      List.flatten_cons, List.flatten_nil, List.count_append, List.count_nil]
    omega
  unshown := ⟨given.map .returned, log, returned_unshown given⟩

theorem returnCurrent_keeps (frames : Frames) : Keeps frames (returnCurrent frames) := by
  refine returns_keep frames.current.toList rfl rfl ?_
  intro number
  simp only [returnCurrent, Option.toList_none, List.map_nil, List.count_nil]
  omega

theorem returnReady_keeps (frames : Frames) : Keeps frames (returnReady frames) := by
  refine returns_keep frames.ready rfl rfl ?_
  intro number
  simp only [returnReady, List.map_nil, List.count_nil]
  omega

theorem clearDecoderFrames_keeps (frames : Frames) : Keeps frames (clearDecoderFrames frames) :=
  (returnCurrent_keeps frames).trans (returnReady_keeps _)

theorem dropStale_keeps (frames : Frames) : Keeps frames (dropStale frames) := by
  refine returns_keep (dropOldest 6 frames.ready).1 rfl rfl ?_
  intro number
  have split := congrArg (fun queue => (queue.map Frame.number).count number)
    (dropOldest_append 6 frames.ready)
  simp only [List.map_append, List.count_append] at split
  simp only [dropStale]
  omega

theorem deallocatePool_keeps (frames : Frames) : Keeps frames (deallocatePool frames) where
  accounted := by
    intro accounted
    have nothing : (frames.pool.map Happening.deallocated).filterMap returnedNumber = [] := by
      induction frames.pool with
      | nil => rfl
      | cons buffer rest ih => simp [returnedNumber]
    refine accounted.move ?_
    intro number
    simp only [Frames.places, Frames.returned, deallocatePool, List.filterMap_append, nothing,
      List.append_nil]
  unshown := ⟨_, rfl, by simp⟩

theorem enqueue_keeps (buffer : Nat) (fault : Option String) (frames : Frames) :
    Keeps frames (enqueue buffer fault frames) where
  accounted := by
    intro accounted
    refine accounted.obtain ?_
    intro number
    simp only [Frames.places, Frames.returned, enqueue, List.map_append, List.map_cons,
      List.map_nil, List.flatten_cons, List.flatten_nil, List.count_append, List.count_nil]
    omega
  unshown := (Keeps.refl frames).unshown

theorem deliver_keeps (free : frames.current = none) : Keeps frames (deliver frames).2 := by
  have moves : ∀ frame rest, frames.ready = frame :: rest →
      Keeps frames { frames with ready := rest, current := some frame } := by
    intro frame rest first
    refine returns_keep [] (List.append_nil _).symm rfl ?_
    intro number
    simp only [first, free, Option.toList_none, Option.toList_some, List.map_cons, List.map_nil,
      List.count_cons, List.count_nil]
    omega
  unfold deliver
  split
  · exact Keeps.refl frames
  · rename_i frame rest first
    dsimp only
    split
    · exact (moves frame rest first).trans (fail_keeps _ _)
    · exact moves frame rest first

theorem deliver_current (delivered : (deliver frames).1 = some buffer) :
    ∃ frame, (deliver frames).2.current = some frame ∧ frame.buffer = buffer := by
  unfold deliver at delivered ⊢
  split at delivered
  · exact absurd delivered.symm (Option.some_ne_none _)
  · rename_i frame rest first
    dsimp only at delivered ⊢
    split at delivered
    · exact absurd delivered.symm (Option.some_ne_none _)
    · exact ⟨frame, rfl, Option.some.inj delivered⟩

/-! ### The presenter loop -/

/-- What the loop relies on in a decoder. -/
structure Lawful (decoder : Decoder ι) : Prop where
  poll : ∀ input frames, Keeps frames (decoder.poll input frames).2
  current : ∀ input frames buffer, (decoder.poll input frames).1 = some buffer →
    ∃ frame, (decoder.poll input frames).2.current = some frame ∧ frame.buffer = buffer
  cleanup : ∀ frames, Keeps frames (decoder.cleanup frames)
  empty : ∀ frames, (decoder.cleanup frames).ready = [] ∧ (decoder.cleanup frames).current = none

section
variable {ι : Type} {decoder : Decoder ι} {presenter : Presenter} {turn : Turn ι}

/-- A turn that shows nothing keeps the frames. -/
theorem step_unshown (lawful : Lawful decoder) (quiet : ShowsNothing decoder presenter turn) :
    Keeps presenter.frames (step decoder presenter turn).frames := by
  obtain ⟨frames, running⟩ := presenter
  cases running with
  | false => cases turn <;> exact Keeps.refl frames
  | true =>
    cases turn with
    | stop => exact lawful.cleanup frames
    | iterate input presented overlaid =>
      have unpresented := quiet rfl
      have kept := lawful.poll input frames
      simp only [step, Bool.not_true, Bool.false_eq_true, if_false]
      rcases polled : decoder.poll input frames with ⟨shown, after⟩
      rw [polled] at kept unpresented
      have finished := kept.trans (lawful.cleanup after)
      cases shown with
      | none =>
        dsimp only
        split
        · exact finished
        · split
          · exact kept
          · exact finished
      | some buffer =>
        rw [unpresented (Option.some_ne_none buffer)]
        exact finished

/-- Any other turn shows the current frame and returns it at once. -/
theorem step_shown (lawful : Lawful decoder) (shows : ¬ ShowsNothing decoder presenter turn) :
    ∃ frames frame, Keeps presenter.frames frames ∧ frames.current = some frame ∧
      step decoder presenter turn = ⟨returnCurrent { frames with
        log := frames.log ++ [.shown frame.buffer] }, true⟩ := by
  obtain ⟨frames, running⟩ := presenter
  cases turn with
  | stop => exact absurd trivial shows
  | iterate input presented overlaid =>
    simp only [ShowsNothing, Classical.not_imp] at shows
    obtain ⟨running_now, delivered, presented_now⟩ := shows
    have kept := lawful.poll input frames
    have current := lawful.current input frames
    rw [Bool.not_eq_false] at presented_now
    subst running_now presented_now
    simp only [step, Bool.not_true, Bool.false_eq_true, if_false]
    rcases polled : decoder.poll input frames with ⟨shown, after⟩
    rw [polled] at kept current delivered
    cases shown with
    | none => exact absurd rfl delivered
    | some buffer =>
      obtain ⟨frame, is_current, rfl⟩ := current buffer rfl
      exact ⟨after, frame, kept, is_current, rfl⟩

private theorem show_accounted (frames : Frames) (buffer : Nat)
    (accounted : Accounted frames.obtained frames.places) :
    Accounted frames.obtained
      { frames with log := frames.log ++ [.shown buffer] : Frames }.places := by
  refine accounted.move ?_
  intro number
  have nothing : [Happening.shown buffer].filterMap returnedNumber = [] := rfl
  simp [Frames.places, Frames.returned, nothing]

/-- The frames are accounted for, and none is left behind when the loop is over. -/
structure Custody (presenter : Presenter) : Prop where
  accounted : Accounted presenter.frames.obtained presenter.frames.places
  finished : presenter.running = false →
    presenter.frames.ready = [] ∧ presenter.frames.current = none

private theorem step_finished (lawful : Lawful decoder) (custody : Custody presenter)
    (turn : Turn ι) (ended : (step decoder presenter turn).running = false) :
    (step decoder presenter turn).frames.ready = [] ∧
      (step decoder presenter turn).frames.current = none := by
  obtain ⟨frames, running⟩ := presenter
  cases running with
  | false => cases turn <;> exact custody.finished rfl
  | true =>
    cases turn with
    | stop => exact lawful.empty frames
    | iterate input presented overlaid =>
      revert ended
      simp only [step, Bool.not_true, Bool.false_eq_true, if_false]
      split
      · split
        · exact fun _ => lawful.empty _
        · split
          · exact fun ended => absurd ended.symm Bool.false_ne_true
          · exact fun _ => lawful.empty _
      · split
        · exact fun ended => absurd ended.symm Bool.false_ne_true
        · exact fun _ => lawful.empty _

theorem step_custody (lawful : Lawful decoder) (presenter : Presenter) (turn : Turn ι)
    (custody : Custody presenter) : Custody (step decoder presenter turn) := by
  refine ⟨?_, step_finished lawful custody turn⟩
  by_cases quiet : ShowsNothing decoder presenter turn
  · exact (step_unshown lawful quiet).accounted custody.accounted
  · obtain ⟨frames, frame, kept, current, shown⟩ := step_shown lawful quiet
    rw [shown]
    exact (returnCurrent_keeps _).accounted (show_accounted frames _ (kept.accounted custody.accounted))

theorem run_custody (lawful : Lawful decoder) (turns : List (Turn ι)) :
    Custody (run decoder turns) := by
  refine Runs.invariant_after_any_run turns (step_custody lawful) ⟨accounted_empty rfl, ?_⟩
  exact fun ended => absurd ended.symm Bool.false_ne_true

theorem step_log (lawful : Lawful decoder) (presenter : Presenter) (turn : Turn ι) :
    ∃ later, (step decoder presenter turn).frames.log = presenter.frames.log ++ later := by
  by_cases quiet : ShowsNothing decoder presenter turn
  · obtain ⟨later, added, -⟩ := (step_unshown lawful quiet).unshown
    exact ⟨later, added⟩
  · obtain ⟨frames, frame, kept, current, shown⟩ := step_shown lawful quiet
    obtain ⟨later, added, -⟩ := kept.unshown
    rw [shown, returnCurrent, added, List.append_assoc, List.append_assoc]
    exact ⟨_, rfl⟩

theorem run_log (lawful : Lawful decoder) (turns : List (Turn ι)) (presenter : Presenter) :
    ∃ later, (turns.foldl (step decoder) presenter).frames.log = presenter.frames.log ++ later := by
  induction turns generalizing presenter with
  | nil => exact ⟨[], (List.append_nil _).symm⟩
  | cons turn rest ih =>
    obtain ⟨first, stepped⟩ := step_log lawful presenter turn
    obtain ⟨later, added⟩ := ih (step decoder presenter turn)
    exact ⟨first ++ later, by rw [List.foldl_cons, added, stepped, List.append_assoc]⟩

/-- A run that is safe on the screen has put nothing there. -/
theorem safe_shows_nothing (lawful : Lawful decoder) (turns : List (Turn ι)) (presenter : Presenter)
    (safe : ScanOutSafe none (turns.foldl (step decoder) presenter).frames.log) :
    Runs.Meets (step decoder) (ShowsNothing decoder) presenter turns := by
  induction turns generalizing presenter with
  | nil => trivial
  | cons turn rest ih =>
    refine ⟨?_, ih _ safe⟩
    by_contra shows
    obtain ⟨frames, frame, -, current, shown⟩ := step_shown lawful shows
    obtain ⟨later, added⟩ := run_log lawful rest (step decoder presenter turn)
    rw [List.foldl_cons, added] at safe
    have after_turn := scanOutSafe_append safe
    rw [shown, returnCurrent, current, List.append_assoc] at after_turn
    exact shown_and_returned frames.log (Eq.refl frame.buffer) after_turn

theorem unshown_after_run (lawful : Lawful decoder) (turns : List (Turn ι))
    (quiet : Runs.Meets (step decoder) (ShowsNothing decoder) {} turns) (buffer : Nat) :
    Happening.shown buffer ∉ (run decoder turns).frames.log := by
  have preserved : ∀ (presenter : Presenter) (turn : Turn ι),
      Happening.shown buffer ∉ presenter.frames.log → ShowsNothing decoder presenter turn →
      Happening.shown buffer ∉ (step decoder presenter turn).frames.log := by
    intro presenter turn unshown quiet
    obtain ⟨later, added, later_unshown⟩ := (step_unshown lawful quiet).unshown
    rw [added, List.mem_append, not_or]
    exact ⟨unshown, later_unshown buffer⟩
  exact Runs.invariant_after_run turns preserved List.not_mem_nil quiet

/-- Every frame is returned once in every run; the screen is safe in exactly those runs
that show nothing. -/
theorem safe_iff_shows_nothing (lawful : Lawful decoder) (turns : List (Turn ι)) :
    Safe (run decoder turns) ↔ Runs.Meets (step decoder) (ShowsNothing decoder) {} turns := by
  constructor
  · exact fun safe => safe_shows_nothing lawful turns {} safe.scanOut
  · intro quiet
    have custody := run_custody lawful turns
    refine ⟨?_, ?_, scanOutSafe_of_unshown (unshown_after_run lawful turns quiet)⟩
    · intro number
      have counted := custody.accounted number
      simp only [Frames.places, List.flatten_cons, List.count_append] at counted
      split at counted <;> omega
    · intro ended number known
      have once := custody.accounted.inOnePlace known
      obtain ⟨empty, no_current⟩ := custody.finished ended
      simpa [InOnePlace, Frames.places, empty, no_current] using once

end

end Glide.FramePresentation
