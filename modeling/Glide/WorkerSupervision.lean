import Mathlib.Data.List.Basic
import Glide.Library.Runs

/-! How the controller looks after its three workers on Linux: it starts them one by one, looks for
one that has ended, tells all of them to end and waits for each. A worker may end at any time. -/
namespace Glide.WorkerSupervision
open Library

inductive Worker where
  | view
  | flow
  | ui
  deriving DecidableEq

/-- `run_preview_stack` and `run_kms_stack` -/
inductive StackKind where
  | preview
  | kms
  deriving DecidableEq

/-- A process that has ended is kept until its parent has waited for it. After that another process
may have its number. -/
inductive Life where
  | absent
  | running
  | ended
  | reaped
  deriving DecidableEq

/-- What the controller is about to do. Behind its loop it has signals to send and workers to wait
for. -/
inductive Phase where
  | launching (worker : Worker)
  | looping
  | ending (signals waits : List Worker) (code : Nat)
  | waiting (waits : List Worker) (code : Nat)
  | returned (code : Nat)
  deriving DecidableEq

structure Stack where
  phase : Phase := .launching .view
  life : Worker → Life := fun _ => .absent
  signalled : List Worker := []
  /-- Signals to workers that had been waited for already. -/
  stray : List Worker := []
  exited : Option Worker := none

def Stack.turn (stack : Stack) (worker : Worker) (life : Life) : Stack :=
  { stack with life := fun other => if other = worker then life else stack.life other }

/-- The workers that are there when another one is started. -/
def launchedBefore : Worker → List Worker
  | .view => []
  | .flow => [.view]
  | .ui => [.view, .flow]

def afterLaunch : Worker → Phase
  | .view => .launching .flow
  | .flow => .launching .ui
  | .ui => .looping

/-- `launch_child`: a child that finds no program ends at once, which is its own move. -/
def launchChild (worker : Worker) (forked : Bool) (stack : Stack) : Stack :=
  if forked then { stack.turn worker .running with phase := afterLaunch worker }
  else { stack with phase := .ending (launchedBefore worker) [] 1 }

def terminateChild (worker : Worker) (stack : Stack) : Stack :=
  match stack.life worker with
  | .absent => stack
  | .reaped => { stack with stray := worker :: stack.stray }
  | _ => { stack with signalled := worker :: stack.signalled }

def everyone : List Worker := [.view, .ui, .flow]

/-- The workers that the loop signals before it ends because one of them has ended. -/
def signalsInLoop : StackKind → Worker → List Worker
  | .preview, .ui => [.view, .flow]
  | .preview, .flow => [.view, .ui]
  | .preview, .view => [.flow, .ui]
  | .kms, _ => everyone

/-- Without children `waitpid` fails. -/
def childless (stack : Stack) : Bool :=
  everyone.all fun worker => stack.life worker = .absent || stack.life worker = .reaped

/-- A turn of the loop. `waitpid` may find a worker that has ended. -/
def supervise (kind : StackKind) (stopRequested : Bool) (found : Option Worker) (stack : Stack) :
    Stack :=
  if stopRequested then { stack with phase := .ending everyone everyone 0 }
  else if childless stack then
    { stack with
      phase := .ending ((if kind = .kms then everyone else []) ++ everyone) everyone 0 }
  else
    match found with
    | some worker =>
      if stack.life worker = .ended then
        { stack.turn worker .reaped with
          exited := some worker
          phase := .ending (signalsInLoop kind worker ++ everyone) everyone 0 }
      else stack
    | none => stack

/-- `waitpid` for one worker: it blocks while the worker runs, and fails if it was waited for. -/
def waitFor (worker : Worker) (rest : List Worker) (code : Nat) (stack : Stack) : Stack :=
  match stack.life worker with
  | .running => stack
  | .ended => { stack.turn worker .reaped with phase := .waiting rest code }
  | _ => { stack with phase := .waiting rest code }

/-- A worker ends, or the controller goes on. -/
inductive Move where
  | ends (worker : Worker)
  | controller (forked stopRequested : Bool) (found : Option Worker)

def step (kind : StackKind) (stack : Stack) : Move → Stack
  | .ends worker =>
    if stack.life worker = .running then stack.turn worker .ended else stack
  | .controller forked stopRequested found =>
    match stack.phase with
    | .launching worker => launchChild worker forked stack
    | .looping => supervise kind stopRequested found stack
    | .ending [] waits code => { stack with phase := .waiting waits code }
    | .ending (worker :: rest) waits code =>
      terminateChild worker { stack with phase := .ending rest waits code }
    | .waiting [] code => { stack with phase := .returned code }
    | .waiting (worker :: rest) code => waitFor worker rest code stack
    | .returned _ => stack

/-! ### What holds in each phase -/

/-- The process is there, running or not. -/
def Present (life : Life) : Prop := life = .running ∨ life = .ended

/-- How often a worker that has ended by itself is signalled after that. -/
def repeats : StackKind → Nat
  | .preview => 1
  | .kms => 2

/-- Who is there has been signalled or will be. -/
def Told (signals : List Worker) (stack : Stack) : Prop :=
  ∀ worker, Present (stack.life worker) → worker ∈ signals ∨ worker ∈ stack.signalled

/-- The signals that go astray, those to come included. -/
def Astray (kind : StackKind) (signals : List Worker) (stack : Stack) : Prop :=
  ∀ worker, stack.stray.count worker +
    (if stack.exited = some worker then signals.count worker else 0) =
      if stack.exited = some worker then repeats kind else 0

def Fits (kind : StackKind) (stack : Stack) : Phase → Prop
  | .launching worker =>
    (∀ other ∈ launchedBefore worker, Present (stack.life other)) ∧
      (∀ other, other ∉ launchedBefore worker → stack.life other = .absent) ∧
      stack.exited = none ∧ stack.stray = []
  | .looping =>
    (∀ worker, Present (stack.life worker)) ∧ stack.exited = none ∧ stack.stray = []
  | .ending signals waits code =>
    Told signals stack ∧ Astray kind signals stack ∧
      (∀ worker, stack.life worker = .reaped ↔ stack.exited = some worker) ∧
      (code = 0 → ∀ worker, stack.life worker ≠ .absent ∧ worker ∈ waits)
  | .waiting waits code =>
    Told [] stack ∧ Astray kind [] stack ∧
      (code = 0 → ∀ worker, stack.life worker ≠ .absent ∧
        (worker ∈ waits ∨ stack.life worker = .reaped))
  | .returned code =>
    Told [] stack ∧ Astray kind [] stack ∧
      (code = 0 → ∀ worker, stack.life worker = .reaped)

def Sound (kind : StackKind) (stack : Stack) : Prop := Fits kind stack stack.phase

section Steps
variable {kind : StackKind} {stack : Stack} {worker : Worker}

@[simp] theorem turn_life (stack : Stack) (worker other : Worker) (life : Life) :
    (stack.turn worker life).life other = if other = worker then life else stack.life other := rfl

theorem mem_everyone (worker : Worker) : worker ∈ everyone := by cases worker <;> decide

@[simp] theorem turn_signalled (stack : Stack) (worker : Worker) (life : Life) :
    (stack.turn worker life).signalled = stack.signalled := rfl

@[simp] theorem turn_stray (stack : Stack) (worker : Worker) (life : Life) :
    (stack.turn worker life).stray = stack.stray := rfl

@[simp] theorem turn_exited (stack : Stack) (worker : Worker) (life : Life) :
    (stack.turn worker life).exited = stack.exited := rfl

theorem astray_turn (life : Life) (signals : List Worker) :
    Astray kind signals (stack.turn worker life) ↔ Astray kind signals stack := Iff.rfl

theorem absent_not_present : ¬Present .absent := by
  rintro (same | same) <;> cases same

theorem reaped_not_present : ¬Present .reaped := by
  rintro (same | same) <;> cases same

theorem not_reaped_of_present (present : Present life) : life ≠ .reaped := by
  rintro rfl
  exact reaped_not_present present

theorem not_absent_of_present (present : Present life) : life ≠ .absent := by
  rintro rfl
  exact absent_not_present present

theorem not_seen (unseen : stack.exited = none) (worker : Worker) :
    stack.exited ≠ some worker := by
  rw [unseen]
  exact (Option.some_ne_none worker).symm

/-- A phase does not ask whether a worker that is there still runs. -/
theorem Fits.ends {phase : Phase} (running : stack.life worker = .running)
    (fits : Fits kind stack phase) : Fits kind (stack.turn worker .ended) phase := by
  have present (other : Worker) :
      Present ((stack.turn worker .ended).life other) ↔ Present (stack.life other) := by
    rw [turn_life]
    split
    · rename_i same
      rw [same, running]
      exact ⟨fun _ => .inl rfl, fun _ => .inr rfl⟩
    · exact Iff.rfl
  have unchanged (other : Worker) {life : Life} (neither : ¬Present life) :
      (stack.turn worker .ended).life other = life ↔ stack.life other = life := by
    rw [turn_life]
    split
    · rename_i same
      rw [same, running]
      exact ⟨fun ended => absurd (.inr ended.symm) neither,
        fun running => absurd (.inl running.symm) neither⟩
    · exact Iff.rfl
  have absent (other : Worker) := unchanged other absent_not_present
  have reaped (other : Worker) := unchanged other reaped_not_present
  cases phase with
  | launching next =>
    simpa only [Fits, present, absent, turn_exited, turn_stray] using fits
  | looping => simpa only [Fits, present, turn_exited, turn_stray] using fits
  | ending signals waits code =>
    simpa only [Fits, Told, astray_turn, present, absent, reaped, ne_eq, turn_exited,
      turn_signalled] using fits
  | waiting waits code =>
    simpa only [Fits, Told, astray_turn, present, absent, reaped, ne_eq, turn_exited,
      turn_signalled] using fits
  | returned code =>
    simpa only [Fits, Told, astray_turn, present, reaped, turn_signalled] using fits

theorem launchChild_sound (forked : Bool) (fits : Fits kind stack (.launching worker)) :
    Sound kind (launchChild worker forked stack) := by
  obtain ⟨there, others, unseen, clean⟩ := fits
  cases forked with
  | false =>
    change Fits kind stack (.ending (launchedBefore worker) [] 1)
    have known (other : Worker) : stack.life other ≠ .reaped := by
      by_cases before : other ∈ launchedBefore worker
      · exact not_reaped_of_present (there other before)
      · rw [others other before]
        decide
    refine ⟨fun other present => .inl ?_, fun other => ?_, fun other => ?_, fun zero => ?_⟩
    · by_contra before
      rw [others other before] at present
      exact absent_not_present present
    · simp [unseen, clean]
    · exact ⟨fun reaped => absurd reaped (known other),
        fun same => absurd same (not_seen unseen other)⟩
    · cases zero
  | true =>
    have started : ∀ other ∈ launchedBefore worker ++ [worker],
        Present ((stack.turn worker .running).life other) := by
      intro other member
      rw [turn_life]
      split
      · exact .inl rfl
      · rename_i different
        rcases List.mem_append.mp member with before | last
        · exact there other before
        · exact absurd (List.mem_singleton.mp last) different
    have later : ∀ other, other ∉ launchedBefore worker ++ [worker] →
        (stack.turn worker .running).life other = .absent := by
      intro other outside
      rw [List.mem_append, List.mem_singleton, not_or] at outside
      rw [turn_life, if_neg outside.2]
      exact others other outside.1
    cases worker with
    | view => exact ⟨started, later, unseen, clean⟩
    | flow => exact ⟨started, later, unseen, clean⟩
    | ui => exact ⟨fun other => started other (by cases other <;> decide), unseen, clean⟩

theorem signalsInLoop_count (kind : StackKind) (worker : Worker) :
    (signalsInLoop kind worker ++ everyone).count worker = repeats kind := by
  cases kind <;> cases worker <;> rfl

theorem not_childless (there : ∀ worker, Present (stack.life worker)) :
    ¬childless stack = true := by
  intro none
  have gone := List.all_eq_true.mp none .view (mem_everyone .view)
  rcases there .view with running | ended
  · rw [running] at gone
    cases gone
  · rw [ended] at gone
    cases gone

/-- The loop has found that a worker has ended: only that one was waited for, and its signals are
all still to come. -/
theorem found_sound (worker : Worker) (fits : Fits kind stack .looping) :
    Sound kind { stack.turn worker .reaped with
      exited := some worker
      phase := .ending (signalsInLoop kind worker ++ everyone) everyone 0 } := by
  obtain ⟨there, unseen, clean⟩ := fits
  refine ⟨fun other _ => .inl ?_, fun other => ?_, fun other => ?_, fun _ other => ?_⟩
  · exact List.mem_append.mpr (.inr (mem_everyone other))
  · dsimp only
    rw [turn_stray, clean]
    split
    · rename_i same
      cases same
      rw [List.count_nil, Nat.zero_add, signalsInLoop_count]
    · rfl
  · rw [turn_life]
    split
    · rename_i same
      rw [same]
      exact ⟨fun _ => rfl, fun _ => rfl⟩
    · rename_i different
      exact ⟨fun reaped => absurd reaped (not_reaped_of_present (there other)),
        fun same => absurd (Option.some.inj same).symm different⟩
  · refine ⟨?_, mem_everyone other⟩
    rw [turn_life]
    split
    · decide
    · exact not_absent_of_present (there other)

theorem supervise_sound (stopRequested : Bool) (found : Option Worker)
    (looping : stack.phase = .looping) (fits : Fits kind stack .looping) :
    Sound kind (supervise kind stopRequested found stack) := by
  have idle : Sound kind stack := by
    rw [Sound, looping]
    exact fits
  have ⟨there, unseen, clean⟩ := fits
  unfold supervise
  split
  · refine ⟨fun other _ => .inl (mem_everyone other), fun other => ?_, fun other => ?_,
      fun _ other => ⟨not_absent_of_present (there other), mem_everyone other⟩⟩
    · simp [unseen, clean]
    · exact ⟨fun reaped => absurd reaped (not_reaped_of_present (there other)),
        fun same => absurd same (not_seen unseen other)⟩
  · rw [if_neg (not_childless there)]
    cases found with
    | none => exact idle
    | some worker =>
      dsimp only
      split
      · exact found_sound worker fits
      · exact idle

theorem Told.skip {signals : List Worker} (told : Told (worker :: signals) stack)
    (gone : ¬Present (stack.life worker)) : Told signals stack := by
  intro other present
  rcases told other present with member | signalled
  · rcases List.mem_cons.mp member with rfl | later
    · exact absurd present gone
    · exact .inl later
  · exact .inr signalled

theorem Astray.skip {signals : List Worker} (astray : Astray kind (worker :: signals) stack)
    (unseen : stack.exited ≠ some worker) : Astray kind signals stack := by
  intro other
  have whole := astray other
  by_cases seen : stack.exited = some other
  · have different : worker ≠ other := fun same => unseen (same ▸ seen)
    rwa [List.count_cons_of_ne different] at whole
  · simpa only [if_neg seen] using whole

theorem Astray.send {signals : List Worker} (astray : Astray kind (worker :: signals) stack)
    (seen : stack.exited = some worker) :
    Astray kind signals { stack with stray := worker :: stack.stray } := by
  intro other
  have whole := astray other
  dsimp only
  by_cases same : worker = other
  · subst same
    simp only [if_pos seen, List.count_cons_self] at whole ⊢
    omega
  · have different : stack.exited ≠ some other := by
      rw [seen]
      exact fun equal => same (Option.some.inj equal)
    simpa only [if_neg different, List.count_cons_of_ne same] using whole

theorem terminateChild_sound {signals waits : List Worker} {code : Nat}
    (fits : Fits kind stack (.ending (worker :: signals) waits code)) :
    Sound kind (terminateChild worker { stack with phase := .ending signals waits code }) := by
  obtain ⟨told, astray, reaped, rest⟩ := fits
  unfold terminateChild
  dsimp only
  split
  · rename_i absent
    have gone : ¬Present (stack.life worker) := by
      rw [absent]
      exact absent_not_present
    have unseen : stack.exited ≠ some worker := by
      intro seen
      rw [(reaped worker).mpr seen] at absent
      cases absent
    exact ⟨told.skip gone, astray.skip unseen, reaped, rest⟩
  · rename_i waited
    have gone : ¬Present (stack.life worker) := by
      rw [waited]
      exact reaped_not_present
    have seen := (reaped worker).mp waited
    exact ⟨told.skip gone, astray.send seen, reaped, rest⟩
  · rename_i absent waited
    have unseen : stack.exited ≠ some worker := fun seen => waited ((reaped worker).mpr seen)
    refine ⟨fun other present => ?_, astray.skip unseen, reaped, rest⟩
    rcases told other present with member | signalled
    · rcases List.mem_cons.mp member with rfl | later
      · exact .inr List.mem_cons_self
      · exact .inl later
    · exact .inr (List.mem_cons_of_mem _ signalled)

theorem waitFor_sound {waits : List Worker} {code : Nat}
    (waiting : stack.phase = .waiting (worker :: waits) code)
    (fits : Fits kind stack (.waiting (worker :: waits) code)) :
    Sound kind (waitFor worker waits code stack) := by
  have idle : Sound kind stack := by
    rw [Sound, waiting]
    exact fits
  obtain ⟨told, astray, rest⟩ := fits
  unfold waitFor
  split
  · exact idle
  · rename_i ended
    refine ⟨fun other present => ?_, astray, fun zero other => ?_⟩
    · dsimp only at present
      rw [turn_life] at present
      split at present
      · exact absurd present reaped_not_present
      · exact told other present
    · obtain ⟨there, handled⟩ := rest zero other
      dsimp only
      rw [turn_life]
      split
      · exact ⟨by decide, .inr rfl⟩
      · rename_i different
        exact ⟨there, handled.imp_left fun member =>
          (List.mem_cons.mp member).resolve_left different⟩
  · rename_i blocked ended
    refine ⟨told, astray, fun zero other => ?_⟩
    obtain ⟨there, handled⟩ := rest zero other
    refine ⟨there, handled.elim (fun member => ?_) .inr⟩
    rcases List.mem_cons.mp member with rfl | later
    · right
      dsimp only
      cases life : stack.life other with
      | absent => exact absurd life there
      | running => exact absurd life blocked
      | ended => exact absurd life ended
      | reaped => rfl
    · exact .inl later

theorem step_sound (move : Move) (sound : Sound kind stack) :
    Sound kind (step kind stack move) := by
  cases move with
  | ends worker =>
    unfold step
    dsimp only
    split
    · exact Fits.ends ‹_› sound
    · exact sound
  | controller forked stopRequested found =>
    unfold step
    dsimp only
    unfold Sound at sound
    split
    · rename_i phase
      rw [phase] at sound
      exact launchChild_sound forked sound
    · rename_i phase
      rw [phase] at sound
      exact supervise_sound stopRequested found phase sound
    · rename_i phase
      rw [phase] at sound
      obtain ⟨told, astray, reaped, rest⟩ := sound
      exact ⟨told, astray, fun zero other =>
        ⟨(rest zero other).1, .inl (rest zero other).2⟩⟩
    · rename_i phase
      rw [phase] at sound
      exact terminateChild_sound sound
    · rename_i phase
      rw [phase] at sound
      obtain ⟨told, astray, rest⟩ := sound
      exact ⟨told, astray, fun zero other =>
        (rest zero other).2.resolve_left List.not_mem_nil⟩
    · rename_i phase
      rw [phase] at sound
      exact waitFor_sound phase sound
    · exact sound

theorem run_sound (kind : StackKind) (moves : List Move) :
    Sound kind (moves.foldl (step kind) {}) := by
  refine Runs.invariant_after_any_run moves (fun _ move sound => step_sound move sound) ?_
  exact ⟨fun _ member => absurd member List.not_mem_nil, fun _ _ => rfl, rfl, rfl⟩

end Steps

/-! ### The end of the stack -/

section Returning
variable {kind : StackKind} {stack : Stack}

/-- A turn of the controller, behind its loop. -/
def goOn : Move := .controller false false none

/-- No worker runs any more. -/
def Quiet (stack : Stack) : Prop := ∀ worker, stack.life worker ≠ .running

theorem waitFor_quiet (worker : Worker) (waits : List Worker) (code : Nat) (quiet : Quiet stack) :
    (waitFor worker waits code stack).phase = .waiting waits code ∧
      Quiet (waitFor worker waits code stack) := by
  unfold waitFor
  split
  · exact absurd ‹_› (quiet worker)
  · refine ⟨rfl, fun other => ?_⟩
    rw [turn_life]
    split
    · decide
    · exact quiet other
  · exact ⟨rfl, quiet⟩

theorem waits_return {waits : List Worker} (waiting : stack.phase = .waiting waits code)
    (quiet : Quiet stack) :
    ((List.replicate (waits.length + 1) goOn).foldl (step kind) stack).phase = .returned code := by
  induction waits generalizing stack with
  | nil =>
    have next : step kind stack goOn = { stack with phase := .returned code } := by
      simp only [step, goOn, waiting]
    rw [List.length_nil, Nat.zero_add, List.replicate_one, List.foldl_cons, List.foldl_nil, next]
  | cons worker rest ih =>
    have next : step kind stack goOn = waitFor worker rest code stack := by
      simp only [step, goOn, waiting]
    obtain ⟨later, still⟩ := waitFor_quiet worker rest code quiet
    rw [List.length_cons, List.replicate_succ, List.foldl_cons, next]
    exact ih later still

theorem terminateChild_quiet (worker : Worker) (stack : Stack) (quiet : Quiet stack) :
    (terminateChild worker stack).phase = stack.phase ∧ Quiet (terminateChild worker stack) := by
  unfold terminateChild
  split <;> exact ⟨rfl, quiet⟩

theorem signals_return {signals waits : List Worker}
    (ending : stack.phase = .ending signals waits code) (quiet : Quiet stack) :
    ((List.replicate (signals.length + waits.length + 2) goOn).foldl (step kind) stack).phase =
      .returned code := by
  induction signals generalizing stack with
  | nil =>
    have next : step kind stack goOn = { stack with phase := .waiting waits code } := by
      simp only [step, goOn, ending]
    rw [List.length_nil, Nat.zero_add, List.replicate_succ, List.foldl_cons, next]
    exact waits_return rfl quiet
  | cons worker rest ih =>
    have next : step kind stack goOn =
        terminateChild worker { stack with phase := .ending rest waits code } := by
      simp only [step, goOn, ending]
    have turns : (worker :: rest).length + waits.length + 2 =
        rest.length + waits.length + 2 + 1 := by
      rw [List.length_cons]
      omega
    obtain ⟨later, still⟩ :=
      terminateChild_quiet worker { stack with phase := .ending rest waits code } quiet
    rw [turns, List.replicate_succ, List.foldl_cons, next]
    exact ih later still

end Returning

/-- In every run, whatever starts, ends and is found in whatever order. While the loop goes on all
three workers are there, so `waitpid` does not fail. The controller waits for no worker that runs
and was not told to end, and once none runs it returns. Then a worker that still runs was told to
end, and behind its loop none is left, not even as a process that nobody waited for. The worker
that the loop found to have ended is signalled again after it was waited for, once or twice, and no
other worker is. -/
theorem workers_are_looked_after (kind : StackKind) (moves : List Move) :
    let stack := moves.foldl (step kind) {}
    (stack.phase = .looping → ∀ worker, Present (stack.life worker)) ∧
    (∀ worker waits code, stack.phase = .waiting (worker :: waits) code →
      stack.life worker = .running → worker ∈ stack.signalled) ∧
    (∀ signals waits code, stack.phase = .ending signals waits code → Quiet stack →
      ((List.replicate (signals.length + waits.length + 2) goOn).foldl (step kind) stack).phase =
        .returned code) ∧
    (∀ waits code, stack.phase = .waiting waits code → Quiet stack →
      ((List.replicate (waits.length + 1) goOn).foldl (step kind) stack).phase = .returned code) ∧
    (∀ code, stack.phase = .returned code →
      (∀ worker, stack.life worker = .running → worker ∈ stack.signalled) ∧
      (∀ worker, stack.stray.count worker =
        if stack.exited = some worker then repeats kind else 0) ∧
      (code = 0 → ∀ worker, stack.life worker = .reaped)) := by
  intro stack
  have sound : Sound kind stack := run_sound kind moves
  unfold Sound at sound
  refine ⟨fun looping => ?_, fun worker waits code waiting running => ?_,
    fun _ _ _ ending quiet => signals_return ending quiet,
    fun _ _ waiting quiet => waits_return waiting quiet, fun code returned => ?_⟩
  · rw [looping] at sound
    exact sound.1
  · rw [waiting] at sound
    exact (sound.1 worker (.inl running)).resolve_left List.not_mem_nil
  · rw [returned] at sound
    obtain ⟨told, astray, finished⟩ := sound
    refine ⟨fun worker running => ?_, fun worker => ?_, finished⟩
    · exact (told worker (.inl running)).resolve_left List.not_mem_nil
    · have whole := astray worker
      rwa [List.count_nil, ite_self, Nat.add_zero] at whole

/-- glide-flow ends by itself in the stack on the planes, and its number is signalled twice after
it was waited for. -/
def flowEnds : List Move :=
  let turn := Move.controller true false (some .flow)
  [turn, turn, turn, .ends .flow, turn] ++ List.replicate 7 turn ++
    [.ends .view, turn, .ends .ui, turn, turn, turn]

theorem flow_is_signalled_twice :
    let stack := flowEnds.foldl (step .kms) {}
    stack.phase = .returned 0 ∧ stack.stray.count .flow = 2 ∧ stack.life .flow = .reaped := by
  intro stack
  have returned : stack.phase = .returned 0 := by decide
  obtain ⟨-, stray, finished⟩ := (workers_are_looked_after .kms flowEnds).2.2.2.2 0 returned
  exact ⟨returned, (stray .flow).trans (if_pos rfl), finished rfl .flow⟩

end Glide.WorkerSupervision
