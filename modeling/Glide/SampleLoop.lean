import Glide.Library.Ownership
import Glide.PresentationLoop

/-! The loop that shows what GStreamer has decoded. It pulls samples and drops all but the newest
one; the sample whose picture is on the video plane is kept until another picture is, and every
sample is given back once. A video plane that does not wait for the display may be paced by the loop
itself. -/
namespace Glide.SampleLoop
open Library Ownership SpacedTimes PresentationLoop

structure SampleOptions where
  loop : LoopOptions
  useMjpeg : Bool
  vblankWait : Bool
  /-- The time between two frames, if a rate is requested. -/
  presentInterval : Option Nat

def SampleOptions.softwarePresentPacing (options : SampleOptions) : Option Nat :=
  if !options.loop.useAtomicKms && !options.vblankWait then options.presentInterval else none

def errorLimit : Nat := 30

/-- Samples are numbered as they are pulled. `turns` holds for each paced frame its slot and the
time it was taken, the last one in front. -/
structure SampleState where
  loop : LoopState
  pulled : Nat := 0
  scanout : Option Nat := none
  released : List Nat := []
  shown : List Nat := []
  consecutiveErrors : Nat := 0
  nextPresent : Nat
  turns : List (Nat × Nat) := []

/-- A sample is given back to the decoder. -/
def unref (sample : Nat) (state : SampleState) : SampleState :=
  { state with released := sample :: state.released }

def unrefScanout (state : SampleState) : SampleState :=
  { state with released := state.scanout.toList ++ state.released, scanout := none }

def setNextPresent (next : Nat) (state : SampleState) : SampleState :=
  { state with nextPresent := next }

def readClock (now : Nat) (state : SampleState) : SampleState :=
  { state with loop := advance now state.loop }

/-- So many newer samples are there, and each one replaces the one before. -/
def dropStale : Nat → Nat → SampleState → Nat × SampleState
  | 0, sample, state => (sample, state)
  | newer + 1, sample, state =>
    dropStale newer state.pulled (unref sample { state with pulled := state.pulled + 1 })

/-- A sample is pulled, and newer ones as long as there are any. -/
def pullNewest (newer : Nat) (state : SampleState) : Nat × SampleState :=
  dropStale newer state.pulled { state with pulled := state.pulled + 1 }

/-- When the clock is read, when the loop is woken if it sleeps, and what has come meanwhile. -/
structure Pace where
  now : Nat
  woken : Nat
  newer : Nat

/-- A slot too far ahead is put back. -/
def withinReach (interval now next : Nat) : Nat := if now + interval < next then now else next

def pacePresent (options : SampleOptions) (pace : Pace) (sample : Nat) (state : SampleState) :
    Nat × SampleState :=
  match options.softwarePresentPacing with
  | none => (sample, state)
  | some interval =>
    let state := readClock pace.now state
    let now := state.loop.clock
    let next := withinReach interval now state.nextPresent
    if now < next then
      dropStale pace.newer sample (readClock (max next pace.woken) (setNextPresent next state))
    else if interval < now - next then (sample, setNextPresent now state)
    else (sample, setNextPresent next state)

/-- The output has taken the picture of the sample. -/
def keepShown (options : SampleOptions) (sample : Nat) (state : SampleState) : SampleState :=
  let state :=
    if options.useMjpeg then unref sample state
    else { unrefScanout state with scanout := some sample }
  let state := { state with shown := sample :: state.shown }
  match options.softwarePresentPacing with
  | none => state
  | some interval =>
    { state with
      nextPresent := state.nextPresent + interval
      turns := (state.nextPresent, state.loop.clock) :: state.turns }

def presentSample (options : SampleOptions) (readable : Bool) (reply : Reply) (sample : Nat)
    (state : SampleState) : SampleState :=
  if !readable then
    let state := unref sample { state with consecutiveErrors := state.consecutiveErrors + 1 }
    if errorLimit ≤ state.consecutiveErrors then
      { state with loop := PresentationLoop.step options.loop state.loop .stop }
    else state
  else
    let presented := PresentationLoop.step options.loop state.loop (.frame reply)
    let state := { state with consecutiveErrors := 0 }
    if reply.accepted then { keepShown options sample state with loop := presented }
    else unref sample { state with loop := presented }

/-- A round: the controls are polled, and a sample is pulled or there is none. The loop ends when it
finds that it was asked to, also by a message of the pipeline. -/
inductive Round where
  | control (now : Nat) (received : Bool)
  | nothing (reply : Reply)
  | sample (newer : Nat) (pace : Pace) (readable : Bool) (reply : Reply)
  | ended

def handle (options : SampleOptions) (state : SampleState) : Round → SampleState
  | .control now received =>
    { state with loop := PresentationLoop.step options.loop state.loop (.control now received) }
  | .nothing reply =>
    { state with loop := PresentationLoop.step options.loop state.loop (.noFrame reply) }
  | .sample newer pace readable reply =>
    let pulled := pullNewest newer state
    let paced := pacePresent options pace pulled.1 pulled.2
    presentSample options readable reply paced.1 paced.2
  | .ended => { state with loop := PresentationLoop.step options.loop state.loop .stop }

def step (options : SampleOptions) (state : SampleState) (round : Round) : SampleState :=
  if state.loop.running then handle options state round else state

def start (now : Nat) (loop : LoopState) : SampleState :=
  { loop := advance now loop, nextPresent := (advance now loop).clock }

def run (options : SampleOptions) (now : Nat) (loop : LoopState) (rounds : List Round) :
    SampleState := rounds.foldl (step options) (start now loop)

/-- After the loop the sample on the plane is given back too. -/
def finish (state : SampleState) : SampleState := unrefScanout state

/-! ### Where the samples are -/

/-- Each sample was given back, is on the plane, or is the one in hand. -/
def places (hand : Option Nat) (state : SampleState) : List (List Nat) :=
  [state.released, state.scanout.toList, hand.toList]

structure Held (options : SampleOptions) (hand : Option Nat) (state : SampleState) : Prop where
  accounted : Accounted state.pulled (places hand state)
  plane : state.scanout = if options.useMjpeg then none else state.shown.head?
  ordered : state.shown.Pairwise (· > ·)
  ahead : ∀ earlier ∈ state.shown, earlier + hand.toList.length < state.pulled
  newest : ∀ sample ∈ hand, sample + 1 = state.pulled

section Rules
variable {options : SampleOptions} {state : SampleState}

/-- What touches no sample. -/
theorem Held.same {after : SampleState} (held : Held options hand state)
    (pulled : after.pulled = state.pulled) (scanout : after.scanout = state.scanout)
    (released : after.released = state.released) (shown : after.shown = state.shown) :
    Held options hand after := by
  obtain ⟨accounted, plane, ordered, ahead, newest⟩ := held
  unfold places at accounted
  constructor <;> simp only [places, pulled, scanout, released, shown] <;> assumption

theorem Held.pull (held : Held options none state) :
    Held options (some state.pulled) { state with pulled := state.pulled + 1 } where
  accounted := held.accounted.obtain fun item => by simp [places, Nat.add_assoc]
  plane := held.plane
  ordered := held.ordered
  ahead := fun earlier shown => Nat.succ_lt_succ (held.ahead earlier shown)
  newest := fun sample same => by rw [Option.mem_some_iff.mp same]

theorem Held.unref (held : Held options (some sample) state) :
    Held options none (unref sample state) where
  accounted := held.accounted.move fun item => by
    simp [places, SampleLoop.unref, List.count_cons]
    omega
  plane := held.plane
  ordered := held.ordered
  ahead := fun earlier shown => Nat.lt_of_succ_lt (held.ahead earlier shown)
  newest := nofun

theorem Held.dropStale (newer : Nat) (held : Held options (some sample) state) :
    Held options (some (dropStale newer sample state).1) (dropStale newer sample state).2 := by
  induction newer generalizing sample state with
  | zero => exact held
  | succ newer ih => exact ih held.unref.pull

theorem Held.readClock (held : Held options hand state) (now : Nat) :
    Held options hand (readClock now state) := held.same rfl rfl rfl rfl

theorem Held.setNextPresent (held : Held options hand state) (next : Nat) :
    Held options hand (setNextPresent next state) := held.same rfl rfl rfl rfl

theorem Held.pacePresent (held : Held options (some sample) state) (pace : Pace) :
    Held options (some (pacePresent options pace sample state).1)
      (pacePresent options pace sample state).2 := by
  unfold SampleLoop.pacePresent
  split
  · exact held
  · dsimp only
    have read := held.readClock pace.now
    split
    · exact ((read.setNextPresent _).readClock _).dropStale pace.newer
    · split
      · exact read.setNextPresent _
      · exact read.setNextPresent _

/-- A sample that was shown stays on the plane, and the one before it is given back. -/
theorem Held.keepShown (held : Held options (some sample) state) :
    Held options none (keepShown options sample state) := by
  have ahead : ∀ earlier ∈ state.shown, earlier < sample := by
    intro earlier shown
    have behind := held.ahead earlier shown
    rw [Option.toList_some, List.length_singleton, ← held.newest sample rfl] at behind
    exact Nat.lt_of_succ_lt_succ behind
  have pulled : sample < state.pulled := by
    rw [← held.newest sample rfl]
    exact Nat.lt_succ_self sample
  have below : ∀ earlier ∈ sample :: state.shown, earlier + 0 < state.pulled := by
    intro earlier shown
    rcases List.mem_cons.mp shown with rfl | before
    · exact pulled
    · exact Nat.lt_trans (ahead earlier before) pulled
  have kept : Held options none
      { (if options.useMjpeg then SampleLoop.unref sample state
          else { unrefScanout state with scanout := some sample }) with
        shown := sample :: state.shown } := by
    have plane := held.plane
    cases codec : options.useMjpeg with
    | true =>
      rw [codec] at plane
      exact ⟨held.unref.accounted, by rw [codec]; exact plane,
        List.pairwise_cons.mpr ⟨ahead, held.ordered⟩, below, nofun⟩
    | false =>
      refine ⟨held.accounted.move fun item => ?_, by rw [codec]; rfl,
        List.pairwise_cons.mpr ⟨ahead, held.ordered⟩, below, nofun⟩
      simp [places, unrefScanout]
      omega
  unfold SampleLoop.keepShown
  cases codec : options.useMjpeg <;> rw [codec] at kept <;> dsimp only <;> split <;>
    exact kept.same rfl rfl rfl rfl

theorem Held.presentSample (held : Held options (some sample) state) (readable : Bool)
    (reply : Reply) : Held options none (presentSample options readable reply sample state) := by
  unfold SampleLoop.presentSample
  dsimp only
  split
  · have dropped := held.unref
    split
    · exact dropped.same rfl rfl rfl rfl
    · exact dropped.same rfl rfl rfl rfl
  · split
    · have cleared : Held options (some sample) { state with consecutiveErrors := 0 } :=
        held.same rfl rfl rfl rfl
      exact cleared.keepShown.same rfl rfl rfl rfl
    · exact held.unref.same rfl rfl rfl rfl

theorem Held.step (held : Held options none state) (round : Round) :
    Held options none (step options state round) := by
  unfold SampleLoop.step
  split
  · cases round with
    | control | nothing | ended => exact held.same rfl rfl rfl rfl
    | sample newer pace readable reply =>
      exact ((held.pull.dropStale newer).pacePresent pace).presentSample readable reply
  · exact held

end Rules

theorem run_held (options : SampleOptions) (now : Nat) (loop : LoopState) (rounds : List Round) :
    Held options none (run options now loop rounds) := by
  refine Runs.invariant_after_any_run rounds (fun _ round held => held.step round) ?_
  exact ⟨accounted_empty rfl, by cases options.useMjpeg <;> rfl, .nil, nofun, nofun⟩


/-! ### What is shown -/

section Shown
variable {options : SampleOptions} {state : SampleState}

@[simp] theorem dropStale_shown (newer sample : Nat) (state : SampleState) :
    (dropStale newer sample state).2.shown = state.shown := by
  induction newer generalizing sample state with
  | zero => rfl
  | succ newer ih => exact ih _ _

@[simp] theorem pacePresent_shown (pace : Pace) (sample : Nat) :
    (pacePresent options pace sample state).2.shown = state.shown := by
  unfold pacePresent
  split
  · rfl
  · dsimp only
    split
    · exact dropStale_shown _ _ _
    · split <;> rfl

theorem keepShown_shown (options : SampleOptions) (sample : Nat) (state : SampleState) :
    (keepShown options sample state).pulled = state.pulled ∧
      (keepShown options sample state).shown = sample :: state.shown := by
  unfold keepShown
  cases options.useMjpeg <;> dsimp only <;> split <;> exact ⟨rfl, rfl⟩

theorem presentSample_shown (options : SampleOptions) (readable : Bool) (reply : Reply)
    (sample : Nat) (state : SampleState) :
    (presentSample options readable reply sample state).pulled = state.pulled ∧
      ((presentSample options readable reply sample state).shown = state.shown ∨
        (presentSample options readable reply sample state).shown = sample :: state.shown) := by
  unfold presentSample
  dsimp only
  split
  · split <;> exact ⟨rfl, .inl rfl⟩
  · split
    · obtain ⟨pulled, shown⟩ := keepShown_shown options sample { state with consecutiveErrors := 0 }
      exact ⟨pulled, .inr shown⟩
    · exact ⟨rfl, .inl rfl⟩

/-- A round shows nothing new, or the last sample that was pulled. -/
theorem shows_newest (held : Held options none state) (round : Round) :
    (step options state round).shown = state.shown ∨
      ∃ newest, newest + 1 = (step options state round).pulled ∧
        (step options state round).shown = newest :: state.shown := by
  unfold step
  split
  · cases round with
    | control | nothing | ended => exact .inl rfl
    | sample newer pace readable reply =>
      have ready := (held.pull.dropStale newer).pacePresent pace
      obtain ⟨pulled, shown⟩ := presentSample_shown options readable reply
        (pacePresent options pace (pullNewest newer state).1 (pullNewest newer state).2).1
        (pacePresent options pace (pullNewest newer state).1 (pullNewest newer state).2).2
      rw [pacePresent_shown] at shown
      have before : (pullNewest newer state).2.shown = state.shown := dropStale_shown _ _ _
      rw [before] at shown
      refine shown.imp id fun shown => ⟨_, ?_, shown⟩
      exact (ready.newest _ rfl).trans pulled.symm
  · exact .inl rfl

end Shown

/-- Whatever the display refuses and whatever cannot be read: each sample that was pulled was given
back once or is on the plane, where the sample shown last stays until another one is shown; only the
newest sample is shown, and after the loop all are given back. -/
theorem samples_given_back_once (options : SampleOptions) (now : Nat) (loop : LoopState)
    (rounds : List Round) :
    let state := run options now loop rounds
    (∀ sample < state.pulled, InOnePlace sample [state.released, state.scanout.toList]) ∧
    state.scanout = (if options.useMjpeg then none else state.shown.head?) ∧
    (∀ round, (step options state round).shown = state.shown ∨
      ∃ newest, newest + 1 = (step options state round).pulled ∧
        (step options state round).shown = newest :: state.shown) ∧
    state.shown.Pairwise (· > ·) ∧
    (∀ sample, (finish state).released.count sample = if sample < state.pulled then 1 else 0) := by
  intro state
  have held : Held options none state := run_held options now loop rounds
  have accounted := held.accounted
  simp only [places, Option.toList_none] at accounted
  refine ⟨fun sample known => ?_, held.plane, shows_newest held, held.ordered, fun sample => ?_⟩
  · have once := accounted.inOnePlace known
    simpa [InOnePlace] using once
  · rw [← accounted sample]
    simp [finish, unrefScanout, Nat.add_comm]

/-! ### Pacing -/

/-- The next slot is near, and each paced frame had a slot of its own that had come. -/
structure Timed (interval origin : Nat) (state : SampleState) : Prop where
  near : state.nextPresent ≤ state.loop.clock + interval
  begun : origin ≤ state.nextPresent
  behind : ∀ turn ∈ state.turns, turn.1 + interval ≤ state.nextPresent ∧ origin ≤ turn.1 ∧
    turn.1 ≤ turn.2 ∧ turn.2 ≤ state.loop.clock
  slotted : Slotted interval state.turns.reverse

/-- The slot has come, and no frame before was taken long after it. -/
structure Due (interval origin : Nat) (state : SampleState) : Prop
    extends Timed interval origin state where
  come : state.nextPresent ≤ state.loop.clock
  close : ∀ turn ∈ state.turns, turn.2 ≤ state.nextPresent + interval

section Turns
variable {options : SampleOptions} {state after : SampleState} {interval origin : Nat}

theorem Timed.later (timed : Timed interval origin state)
    (clock : state.loop.clock ≤ after.loop.clock) (next : after.nextPresent = state.nextPresent)
    (turns : after.turns = state.turns) : Timed interval origin after where
  near := by
    rw [next]
    exact Nat.le_trans timed.near (Nat.add_le_add_right clock interval)
  begun := by
    rw [next]
    exact timed.begun
  behind := by
    rw [next, turns]
    intro turn member
    obtain ⟨apart, since, reached, past⟩ := timed.behind turn member
    exact ⟨apart, since, reached, Nat.le_trans past clock⟩
  slotted := by
    rw [turns]
    exact timed.slotted

/-- A slot is moved to a later time that has come. -/
theorem Timed.put (timed : Timed interval origin state) (behind : state.nextPresent ≤ next)
    (come : next ≤ state.loop.clock) : Timed interval origin (setNextPresent next state) where
  near := Nat.le_trans come (Nat.le_add_right _ _)
  begun := Nat.le_trans timed.begun behind
  behind := by
    intro turn member
    obtain ⟨apart, rest⟩ := timed.behind turn member
    exact ⟨Nat.le_trans apart behind, rest⟩
  slotted := timed.slotted

theorem dropStale_timing (newer sample : Nat) (state : SampleState) :
    (dropStale newer sample state).2.loop = state.loop ∧
      (dropStale newer sample state).2.nextPresent = state.nextPresent ∧
      (dropStale newer sample state).2.turns = state.turns := by
  induction newer generalizing sample state with
  | zero => exact ⟨rfl, rfl, rfl⟩
  | succ newer ih => exact ih _ _

theorem Timed.dropStale (timed : Timed interval origin state) (newer sample : Nat) :
    Timed interval origin (dropStale newer sample state).2 := by
  obtain ⟨loop, next, turns⟩ := dropStale_timing newer sample state
  exact timed.later (Nat.le_of_eq (by rw [loop])) next turns

theorem Timed.pacePresent (timed : Timed interval origin state)
    (paced : options.softwarePresentPacing = some interval) (pace : Pace) (sample : Nat) :
    Due interval origin (pacePresent options pace sample state).2 := by
  have read : Timed interval origin (readClock pace.now state) :=
    timed.later (Nat.le_max_left _ _) rfl rfl
  have now : state.loop.clock ≤ (readClock pace.now state).loop.clock := Nat.le_max_left _ _
  have past : ∀ turn ∈ state.turns, turn.2 ≤ (readClock pace.now state).loop.clock :=
    fun turn member => Nat.le_trans (timed.behind turn member).2.2.2 now
  -- a slot is never too far ahead: it follows one that had come
  have reach : withinReach interval (readClock pace.now state).loop.clock
      (readClock pace.now state).nextPresent = state.nextPresent :=
    if_neg (Nat.not_lt.mpr read.near)
  unfold SampleLoop.pacePresent
  rw [paced]
  dsimp only
  rw [reach]
  split
  · rename_i sleeps
    obtain ⟨loop, next, turns⟩ := dropStale_timing pace.newer sample
      (readClock (max state.nextPresent pace.woken)
        (setNextPresent state.nextPresent (readClock pace.now state)))
    have woken : Timed interval origin (readClock (max state.nextPresent pace.woken)
        (setNextPresent state.nextPresent (readClock pace.now state))) :=
      read.later (Nat.le_max_left _ _) rfl rfl
    refine ⟨woken.dropStale _ _, ?_, ?_⟩
    · rw [loop, next]
      exact Nat.le_trans (Nat.le_max_left _ pace.woken) (Nat.le_max_right _ _)
    · rw [next, turns]
      exact fun turn member =>
        Nat.le_trans (past turn member) (Nat.le_trans (Nat.le_of_lt sleeps) (Nat.le_add_right _ _))
  · rename_i come
    split
    · refine ⟨read.put (Nat.not_lt.mp come) (Nat.le_refl _), Nat.le_refl _, fun turn member => ?_⟩
      exact Nat.le_trans (past turn member) (Nat.le_add_right _ _)
    · rename_i soon
      refine ⟨read.put (Nat.le_refl _) (Nat.not_lt.mp come), Nat.not_lt.mp come,
        fun turn member => ?_⟩
      have taken := past turn member
      have slot : (setNextPresent state.nextPresent (readClock pace.now state)).nextPresent =
        state.nextPresent := rfl
      rw [slot]
      omega

theorem keepShown_timing (paced : options.softwarePresentPacing = some interval) (sample : Nat)
    (state : SampleState) :
    (keepShown options sample state).loop = state.loop ∧
      (keepShown options sample state).nextPresent = state.nextPresent + interval ∧
      (keepShown options sample state).turns =
        (state.nextPresent, state.loop.clock) :: state.turns := by
  unfold keepShown
  rw [paced]
  cases options.useMjpeg <;> exact ⟨rfl, rfl, rfl⟩

/-- A frame takes the slot that has come. -/
theorem Due.keepShown (due : Due interval origin state)
    (paced : options.softwarePresentPacing = some interval) (sample : Nat) :
    Timed interval origin (keepShown options sample state) := by
  obtain ⟨loop, next, turns⟩ := keepShown_timing paced sample state
  refine ⟨?_, ?_, ?_, ?_⟩
  · rw [next, loop]
    exact Nat.add_le_add_right due.come interval
  · rw [next]
    exact Nat.le_trans due.begun (Nat.le_add_right _ _)
  · rw [next, turns, loop]
    intro turn member
    rcases List.mem_cons.mp member with rfl | before
    · exact ⟨Nat.le_refl _, due.begun, due.come, Nat.le_refl _⟩
    · obtain ⟨apart, rest⟩ := due.behind turn before
      exact ⟨Nat.le_trans apart (Nat.le_add_right _ _), rest⟩
  · rw [turns, List.reverse_cons]
    refine List.pairwise_append.mpr ⟨due.slotted, List.pairwise_singleton _ _, ?_⟩
    intro turn member newest same
    rw [List.mem_singleton.mp same]
    have before := List.mem_reverse.mp member
    exact ⟨(due.behind turn before).1, due.close turn before⟩

theorem Due.presentSample (due : Due interval origin state)
    (paced : options.softwarePresentPacing = some interval) (readable : Bool) (reply : Reply)
    (sample : Nat) : Timed interval origin (presentSample options readable reply sample state) := by
  have presented := clock_le_step options.loop state.loop (.frame reply)
  unfold SampleLoop.presentSample
  dsimp only
  split
  · split
    · exact due.toTimed.later (clock_le_step options.loop state.loop .stop) rfl rfl
    · exact due.toTimed.later (Nat.le_refl _) rfl rfl
  · split
    · have cleared : Due interval origin { state with consecutiveErrors := 0 } :=
        ⟨due.toTimed.later (Nat.le_refl _) rfl rfl, due.come, due.close⟩
      obtain ⟨loop, _⟩ := keepShown_timing paced sample { state with consecutiveErrors := 0 }
      refine (cleared.keepShown paced sample).later ?_ rfl rfl
      rw [loop]
      exact presented
    · exact due.toTimed.later presented rfl rfl

theorem Timed.step (timed : Timed interval origin state)
    (paced : options.softwarePresentPacing = some interval) (round : Round) :
    Timed interval origin (step options state round) := by
  unfold SampleLoop.step
  split
  · cases round with
    | control | nothing | ended => exact timed.later (clock_le_step _ _ _) rfl rfl
    | sample newer pace readable reply =>
      have pulled : Timed interval origin { state with pulled := state.pulled + 1 } :=
        timed.later (Nat.le_refl _) rfl rfl
      have dropped := pulled.dropStale newer state.pulled
      exact (dropped.pacePresent paced pace _).presentSample paced readable reply _
  · exact timed

end Turns

/-- A player that paces itself shows at most two frames more in any stretch of time than fit into
it, and never one before its time, however late it is woken and whatever it cannot show. -/
theorem presented_frames_are_paced (options : SampleOptions) (now : Nat) (loop : LoopState)
    (rounds : List Round) (interval : Nat)
    (paced : options.softwarePresentPacing = some interval) (wide : 0 < interval) :
    let turns := (run options now loop rounds).turns.reverse
    (∀ since stretch, turns.countP (fun turn => since ≤ turn.2 && turn.2 < since + stretch) ≤
      (stretch + interval - 1) / interval + 2) ∧
    (∀ n turn, turns[n]? = some turn → max loop.clock now + n * interval ≤ turn.2) := by
  intro turns
  have timed : Timed interval (max loop.clock now) (run options now loop rounds) := by
    refine Runs.invariant_after_any_run rounds (fun _ round timed => timed.step paced round) ?_
    exact ⟨Nat.le_add_right _ _, Nat.le_refl _, nofun, .nil⟩
  have behind : ∀ turn ∈ turns, max loop.clock now ≤ turn.1 ∧ turn.1 ≤ turn.2 := by
    intro turn member
    obtain ⟨_, since, reached, _⟩ := timed.behind turn (List.mem_reverse.mp member)
    exact ⟨since, reached⟩
  have reached : ∀ turn ∈ turns, turn.1 ≤ turn.2 := fun turn member => (behind turn member).2
  refine ⟨fun since stretch => timed.slotted.countP_le wide reached since stretch, ?_⟩
  intro n turn found
  exact timed.slotted.nth_le (fun turn member => (behind turn member).1) reached found

/-- A plane for the video alone, which is shown thirty times in a second. -/
def legacyPlayer : SampleOptions where
  loop := ⟨false, false, true, false, false, none, false⟩
  useMjpeg := false
  vblankWait := false
  presentInterval := some 33333333

/-- A loop that was started and has the clock at one second. -/
def started : LoopState := ⟨1000000000, 1000000000, {}, {}, 1000000000, 0, true, []⟩

/-- A sample at once and three more long before their time. -/
def burst : List Round :=
  List.replicate 4 (.sample 1 ⟨1000000000, 1000000000, 1⟩ true ⟨0, 0, 0, true, false⟩)

theorem burst_is_paced :
    (run legacyPlayer 5 started burst).turns.reverse.countP
      (fun turn => 1000000000 ≤ turn.2 && turn.2 < 1000000000 + 40000000) ≤
        (40000000 + 33333333 - 1) / 33333333 + 2 :=
  (presented_frames_are_paced legacyPlayer 5 started burst 33333333 rfl (by decide)).1 _ _

example : (run legacyPlayer 5 started burst).turns.map Prod.snd =
    [1099999999, 1066666666, 1033333333, 1000000000] := by decide

/-! ### The presentation loop inside -/

/-- The second state is reached from the first one by a run of the presentation loop. -/
def Follows (options : SampleOptions) (before after : LoopState) : Prop :=
  ∃ events : List Event, after = events.foldl (PresentationLoop.step options.loop) before

section Inside
variable {options : SampleOptions} {first second third : LoopState}

theorem Follows.refl (options : SampleOptions) (loop : LoopState) : Follows options loop loop :=
  ⟨[], rfl⟩

theorem Follows.trans (early : Follows options first second) (late : Follows options second third) :
    Follows options first third := by
  obtain ⟨events, rfl⟩ := early
  obtain ⟨more, rfl⟩ := late
  exact ⟨events ++ more, List.foldl_append.symm⟩

theorem follows_step (options : SampleOptions) (loop : LoopState) (event : Event) :
    Follows options loop (PresentationLoop.step options.loop loop event) := ⟨[event], rfl⟩

theorem follows_read (options : SampleOptions) (loop : LoopState) (running : loop.running = true)
    (now : Nat) : Follows options loop (advance now loop) :=
  ⟨[.read now], (step_running running (.read now)).symm⟩

theorem pacePresent_follows (options : SampleOptions) (pace : Pace) (sample : Nat)
    (state : SampleState) (running : state.loop.running = true) :
    Follows options state.loop (pacePresent options pace sample state).2.loop := by
  unfold pacePresent
  split
  · exact .refl options _
  · have read := follows_read options state.loop running pace.now
    dsimp only
    split
    · rw [(dropStale_timing _ _ _).1]
      exact read.trans (follows_read options (readClock pace.now state).loop running _)
    · split <;> exact read

theorem presentSample_follows (readable : Bool) (reply : Reply) (sample : Nat)
    (state : SampleState) :
    Follows options state.loop (presentSample options readable reply sample state).loop := by
  unfold presentSample
  dsimp only
  repeat' split
  · exact follows_step options _ .stop
  · exact .refl options _
  · exact follows_step options _ (.frame reply)
  · exact follows_step options _ (.frame reply)

theorem step_follows (options : SampleOptions) (state : SampleState) (round : Round) :
    Follows options state.loop (step options state round).loop := by
  unfold step
  split
  · rename_i running
    cases round with
    | control | nothing | ended => exact follows_step options _ _
    | sample newer pace readable reply =>
      have loop : (pullNewest newer state).2.loop = state.loop := (dropStale_timing _ _ _).1
      have paced := pacePresent_follows options pace (pullNewest newer state).1
        (pullNewest newer state).2 (by rw [loop]; exact running)
      rw [loop] at paced
      exact paced.trans (presentSample_follows readable reply _ _)
  · exact .refl options _

/-- Whatever holds of every run of the presentation loop holds of the one that shows samples. -/
theorem run_follows (options : SampleOptions) (rounds : List Round) (state : SampleState) :
    Follows options state.loop (rounds.foldl (step options) state).loop := by
  induction rounds generalizing state with
  | nil => exact .refl options _
  | cons round rest ih => exact (step_follows options state round).trans (ih _)

end Inside

end Glide.SampleLoop
