import Glide.DiscoveryNetwork
import Glide.Library.SpacedTimes

/-! How often a scan probes. The time of the next probe and the end of the scan are looked at once
in a poll, at different places, so that the last probe may come when the scan is already over. -/
namespace Glide.ProbePacing
open Library DiscoveryNetwork SpacedTimes

def probeGap : Nat := milliseconds 450

/-- The probes of a scan that began and lasts so long, while no other one begins. -/
structure Paced (begun duration : Nat) (sent : List Nat) (station : Station) : Prop where
  clock : begun ≤ station.clock
  spaced : Spaced probeGap sent
  bounds : ∀ time ∈ sent, begun ≤ time ∧ time + probeGap ≤ station.nextProbe
  early : ∀ time ∈ sent.dropLast, time < begun + duration
  /-- Before the scan is over, only the probe of this poll may be late. -/
  running : station.scanUntil ≠ 0 → station.scanUntil = begun + duration ∧
    ∀ time ∈ sent, time < begun + duration ∨ station.polling = some time

theorem Paced.beginPoll (paced : Paced begun duration sent station) (idle : station.polling = none)
    (forward : station.clock ≤ now) :
    ∃ more, (beginPoll now station).probes = station.probes ++ more ∧
      Paced begun duration (sent ++ more) (beginPoll now station) := by
  have due := Nat.le_trans paced.clock forward
  have before : station.scanUntil ≠ 0 → ∀ time ∈ sent, time < begun + duration := by
    intro scanning time member
    refine ((paced.running scanning).2 time member).resolve_right fun polling => ?_
    rw [idle] at polling
    cases polling
  unfold DiscoveryNetwork.beginPoll
  split
  · rename_i ready
    obtain ⟨_, scanning, next⟩ := ready
    refine ⟨[now], rfl, due, ?_, ?_, ?_, ?_⟩
    · refine List.pairwise_append.mpr ⟨paced.spaced, List.pairwise_singleton _ _, ?_⟩
      intro time member last same
      rw [List.mem_singleton.mp same]
      exact Nat.le_trans (paced.bounds time member).2 next
    · intro time member
      dsimp only
      rcases List.mem_append.mp member with old | new
      · have bounds := paced.bounds time old
        exact ⟨bounds.1, by unfold probeGap at bounds ⊢; omega⟩
      · rw [List.mem_singleton.mp new]
        exact ⟨due, Nat.le_refl _⟩
    · rw [List.dropLast_concat]
      exact before scanning
    · intro _
      refine ⟨(paced.running scanning).1, fun time member => ?_⟩
      rcases List.mem_append.mp member with old | new
      · exact .inl (before scanning time old)
      · rw [List.mem_singleton.mp new]
        exact .inr rfl
  · refine ⟨[], (List.append_nil _).symm, ?_⟩
    rw [List.append_nil]
    exact ⟨due, paced.spaced, paced.bounds, paced.early, fun scanning =>
      ⟨(paced.running scanning).1, fun time member => .inl (before scanning time member)⟩⟩

theorem Paced.endPoll (paced : Paced begun duration sent station) :
    (endPoll station).probes = station.probes ∧ Paced begun duration sent (endPoll station) := by
  unfold DiscoveryNetwork.endPoll
  split
  · exact ⟨rfl, paced⟩
  · rename_i now polling
    split
    · exact ⟨rfl, paced.clock, paced.spaced, paced.bounds, paced.early, fun scanning =>
        absurd rfl scanning⟩
    · rename_i open_
      refine ⟨rfl, paced.clock, paced.spaced, paced.bounds, paced.early, fun scanning => ?_⟩
      obtain ⟨last, times⟩ := paced.running scanning
      refine ⟨last, fun time member => .inl ?_⟩
      rcases times time member with early | this
      · exact early
      · have same : now = time := by
          rw [polling] at this
          exact Option.some.inj this
        have unfinished : ¬station.scanUntil ≤ now := fun late => open_ ⟨scanning, late⟩
        rw [last] at unfinished
        omega

section
variable [DecidableEq ι] {network : Network ι} {world : ι → Station} {machine : ι}

/-- The event is not the beginning of another scan. -/
def Continues (machine : ι) : Event ι → Prop
  | .startScan other _ _ => other ≠ machine
  | _ => True

theorem paced_step (possible : Possible network world event) (continues : Continues machine event)
    (paced : Paced begun duration sent (world machine)) :
    ∃ more, (step world event machine).probes = (world machine).probes ++ more ∧
      Paced begun duration (sent ++ more) (step world event machine) := by
  unfold step
  by_cases same : machine = event.machine
  · subst same
    rw [Function.update_self]
    cases event with
    | startScan machine now length => exact absurd rfl continues
    | beginPoll machine now => exact paced.beginPoll possible.1 possible.2.1
    | receive machine localAddresses now payload address =>
      refine ⟨[], ?_, ?_⟩
      · dsimp only [Event.apply, Event.machine]
        unfold receive
        rw [List.append_nil]
        split <;> rfl
      · rw [List.append_nil]
        dsimp only [Event.apply, Event.machine] at paced ⊢
        unfold receive
        split
        · exact ⟨paced.clock, paced.spaced, paced.bounds, paced.early, paced.running⟩
        · exact paced
    | endPoll machine =>
      obtain ⟨probes, after⟩ := paced.endPoll
      exact ⟨[], by rw [List.append_nil]; exact probes, by rw [List.append_nil]; exact after⟩
  · rw [Function.update_of_ne same]
    exact ⟨[], (List.append_nil _).symm, by rw [List.append_nil]; exact paced⟩

theorem paced_run (events : List (Event ι))
    (possible : Runs.Meets step (Possible network) world events)
    (continues : ∀ event ∈ events, Continues machine event)
    (paced : Paced begun duration sent (world machine)) :
    ∃ more, (events.foldl step world machine).probes = (world machine).probes ++ more ∧
      Paced begun duration (sent ++ more) (events.foldl step world machine) := by
  induction events generalizing world sent with
  | nil => exact ⟨[], (List.append_nil _).symm, by rw [List.append_nil]; exact paced⟩
  | cons event rest ih =>
    obtain ⟨first, added, paced⟩ := paced_step possible.1 (continues event List.mem_cons_self) paced
    obtain ⟨more, probes, paced⟩ := ih possible.2
      (fun event later => continues event (List.mem_cons_of_mem _ later)) paced
    refine ⟨first ++ more, ?_, ?_⟩
    · rw [List.foldl_cons, probes, added, List.append_assoc]
    · rw [← List.append_assoc]
      exact paced

theorem startScan_paced (started : (world machine).running = true) (begun duration : Nat) :
    (step world (.startScan machine begun duration) machine).probes = (world machine).probes ∧
      Paced begun duration [] (step world (.startScan machine begun duration) machine) := by
  unfold step
  dsimp only [Event.machine, Event.apply]
  rw [Function.update_self]
  unfold startScan
  rw [if_pos started]
  exact ⟨rfl, Nat.le_refl _, .nil, fun _ none => absurd none List.not_mem_nil,
    fun _ none => absurd none List.not_mem_nil,
    fun _ => ⟨rfl, fun _ none => absurd none List.not_mem_nil⟩⟩

/-- What a scan has sent, until another one begins, whatever it receives meanwhile. -/
structure ScanTraffic (begun duration : Nat) (sent : List Nat) : Prop where
  spaced : Spaced probeGap sent
  started : ∀ time ∈ sent, begun ≤ time
  early : ∀ time ∈ sent.dropLast, time < begun + duration
  few : sent.length ≤ (duration + probeGap - 1) / probeGap + 1

theorem scan_probes_are_paced (network : Network ι) (bound : ι → Bool) (machine : ι)
    (before after : List (Event ι)) (begun duration : Nat) (made : bound machine = true)
    (possible : Runs.Meets step (Possible network) (startOf network bound)
      (before ++ .startScan machine begun duration :: after))
    (continues : ∀ event ∈ after, Continues machine event) :
    ∃ sent,
      (run network bound (before ++ .startScan machine begun duration :: after) machine).probes =
        (run network bound before machine).probes ++ sent ∧
      ScanTraffic begun duration sent := by
  obtain ⟨_, second⟩ := Runs.meets_append.mp possible
  have started : (run network bound before machine).running = true := by
    rw [run_running]
    exact made
  obtain ⟨kept, paced⟩ := startScan_paced started begun duration
  obtain ⟨sent, probes, paced⟩ := paced_run after second.2 continues paced
  rw [List.nil_append] at paced
  refine ⟨sent, ?_, paced.spaced, fun time member => (paced.bounds time member).1, paced.early, ?_⟩
  · unfold run
    rw [List.foldl_append, List.foldl_cons, probes]
    exact congrArg (· ++ sent) kept
  · have most := Spaced.length_le (paced.spaced.sublist (List.dropLast_sublist sent)) (by decide)
      (fun time member => (paced.bounds time (List.mem_of_mem_dropLast member)).1) paced.early
    rw [List.length_dropLast] at most
    omega

end

/-- A scan of one second with six polls: the second one is too early for a probe, the fifth one
probes when the time is over, and behind it the scan has ended. -/
def polledScan : List (Event Bool) :=
  [.beginPoll true 2, .endPoll true, .beginPoll true (milliseconds 200), .endPoll true,
    .beginPoll true (milliseconds 460), .endPoll true, .beginPoll true (milliseconds 920),
    .endPoll true, .beginPoll true (milliseconds 1400), .endPoll true,
    .beginPoll true (milliseconds 1900), .endPoll true]

theorem polledScan_possible : Runs.Meets step (Possible pair) (startOf pair fun _ => true)
    ([] ++ .startScan true 1 (milliseconds 1000) :: polledScan) := by
  have idle (now : Nat) : some now ≠ none := Option.some_ne_none now
  exact ⟨⟨rfl, by decide +kernel, by decide⟩, ⟨rfl, by decide +kernel, by decide⟩, idle _,
    ⟨rfl, by decide +kernel, by decide⟩, idle _, ⟨rfl, by decide +kernel, by decide⟩, idle _,
    ⟨rfl, by decide +kernel, by decide⟩, idle _, ⟨rfl, by decide +kernel, by decide⟩, idle _,
    ⟨rfl, by decide +kernel, by decide⟩, idle _, trivial⟩

/-- As many probes as a scan of one second may have. -/
theorem cable_scan_is_paced :
    (∃ sent, (run pair (fun _ => true) ([] ++ .startScan true 1 (milliseconds 1000) :: polledScan)
        true).probes = (run pair (fun _ => true) [] true).probes ++ sent ∧
      ScanTraffic 1 (milliseconds 1000) sent) ∧
    (run pair (fun _ => true) ([] ++ .startScan true 1 (milliseconds 1000) :: polledScan) true).probes =
      [2, milliseconds 460, milliseconds 920, milliseconds 1400] :=
  ⟨scan_probes_are_paced pair (fun _ => true) true [] polledScan 1 (milliseconds 1000) rfl
    polledScan_possible (by simp [polledScan, Continues]), by decide +kernel⟩

end Glide.ProbePacing
