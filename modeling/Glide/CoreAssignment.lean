import Mathlib.Data.List.Sort

/-! The processor cores of the three workers. The cores are ranked by their speed, and the workers
take them in the order of their importance. -/
namespace Glide.CoreAssignment

structure CpuCoreInfo where
  logicalId : Nat
  currentFrequencyKhz : Option Nat
  maxFrequencyKhz : Option Nat
  online : Bool
  deriving DecidableEq, Repr

structure WorkerCoreAssignment where
  workerName : String
  logicalCore : Nat
  sharesCore : Bool
  reason : String
  deriving DecidableEq, Repr

structure CoreAssignmentOptions where
  avoidCore0 : Bool

def rankingFrequency (core : CpuCoreInfo) : Nat :=
  match core.maxFrequencyKhz with
  | some frequency => frequency
  | none => core.currentFrequencyKhz.getD 0

/-- The order `std::sort` is given. -/
def ranksBefore (left right : CpuCoreInfo) : Bool :=
  if rankingFrequency left ≠ rankingFrequency right then
    decide (rankingFrequency right < rankingFrequency left)
  else decide (left.logicalId < right.logicalId)

def Ranked (left right : CpuCoreInfo) : Prop := ranksBefore right left = false

instance (left right : CpuCoreInfo) : Decidable (Ranked left right) :=
  inferInstanceAs (Decidable (ranksBefore right left = false))

def onlineCores (cores : List CpuCoreInfo) (options : CoreAssignmentOptions) : List CpuCoreInfo :=
  (cores.filter fun core => core.online && !(options.avoidCore0 && core.logicalId == 0)).insertionSort
    Ranked

/-- The cores the workers are placed on: all that are online if only core 0 is. -/
def chosenCores (cores : List CpuCoreInfo) (options : CoreAssignmentOptions) : List CpuCoreInfo :=
  let chosen := onlineCores cores options
  if chosen.isEmpty && options.avoidCore0 then onlineCores cores ⟨false⟩ else chosen

def viewAssignment (options : CoreAssignmentOptions) (core : Nat) : WorkerCoreAssignment :=
  ⟨"glide-view", core, false,
    if options.avoidCore0 && core != 0 then
      "highest priority worker on fastest online non-core0 because OpenHD is running"
    else "highest priority worker on fastest online core"⟩

def assignWorkerCores (cores : List CpuCoreInfo) (options : CoreAssignmentOptions) :
    List WorkerCoreAssignment :=
  match chosenCores cores options with
  | [] => []
  | [view] =>
    [viewAssignment options view.logicalId,
      ⟨"glide-flow", view.logicalId, true,
        "no non-view core available; single-core systems are not a target"⟩,
      ⟨"glide-ui", view.logicalId, true,
        "no non-view core available; single-core systems are not a target"⟩]
  | [view, flow] =>
    [viewAssignment options view.logicalId,
      ⟨"glide-flow", flow.logicalId, false, "second priority worker on next fastest online core"⟩,
      ⟨"glide-ui", flow.logicalId, true,
        "only one non-view core available; sharing with glide-flow keeps glide-view isolated"⟩]
  | view :: flow :: ui :: _ =>
    [viewAssignment options view.logicalId,
      ⟨"glide-flow", flow.logicalId, false, "second priority worker on next fastest online core"⟩,
      ⟨"glide-ui", ui.logicalId, false,
        "lowest priority worker, but enough cores are available for a fast isolated core"⟩]

/-! ### What is asked of an assignment -/

/-- A topology that has every core once. -/
structure Topology where
  cores : List CpuCoreInfo
  distinct : (cores.map (·.logicalId)).Nodup

/-- The cores that are online, without core 0 where it is avoided and is not the only one. -/
def usable (cores : List CpuCoreInfo) (options : CoreAssignmentOptions) : List CpuCoreInfo :=
  cores.filter fun core => core.online &&
    !(options.avoidCore0 && core.logicalId == 0 &&
      cores.any fun other => other.online && other.logicalId != 0)

def without (cores : List CpuCoreInfo) (ids : List Nat) : List CpuCoreInfo :=
  cores.filter fun core => !ids.contains core.logicalId

/-- The core is one of these, and none of these is faster. -/
def FastestOf (cores : List CpuCoreInfo) (id : Nat) : Prop :=
  ∃ core ∈ cores, core.logicalId = id ∧
    ∀ other ∈ cores, rankingFrequency other ≤ rankingFrequency core

/-- Each worker is on a usable core, and takes the fastest of those nobody has as long as there are
any. -/
structure Placed (cores : List CpuCoreInfo) (view flow ui : WorkerCoreAssignment) : Prop where
  names : [view, flow, ui].map (·.workerName) = ["glide-view", "glide-flow", "glide-ui"]
  onUsable : ∀ assignment ∈ [view, flow, ui],
    ∃! core, core ∈ cores ∧ core.logicalId = assignment.logicalCore
  view_fastest : FastestOf cores view.logicalCore
  flow_fastest : without cores [view.logicalCore] ≠ [] →
    FastestOf (without cores [view.logicalCore]) flow.logicalCore
  ui_fastest : without cores [view.logicalCore, flow.logicalCore] ≠ [] →
    FastestOf (without cores [view.logicalCore, flow.logicalCore]) ui.logicalCore
  view_isolated : view.logicalCore = flow.logicalCore ∨ view.logicalCore = ui.logicalCore →
    cores.length = 1
  view_first : view.sharesCore = false
  flow_shares : flow.sharesCore = true ↔ flow.logicalCore = view.logicalCore
  ui_shares : ui.sharesCore = true ↔ ui.logicalCore = view.logicalCore ∨ ui.logicalCore = flow.logicalCore

/-! ### The ranking -/

theorem ranked_iff (left right : CpuCoreInfo) : Ranked left right ↔
    rankingFrequency right < rankingFrequency left ∨
      rankingFrequency left = rankingFrequency right ∧ left.logicalId ≤ right.logicalId := by
  simp only [Ranked, ranksBefore]
  split <;> simp only [decide_eq_false_iff_not] <;> omega

instance : Std.Total Ranked where
  total left right := by
    simp only [ranked_iff]
    omega

instance : IsTrans CpuCoreInfo Ranked where
  trans first second third := by
    simp only [ranked_iff]
    omega

theorem onlineCores_ranked (cores : List CpuCoreInfo) (options : CoreAssignmentOptions) :
    (onlineCores cores options).Pairwise Ranked := List.pairwise_insertionSort ..

theorem onlineCores_perm (cores : List CpuCoreInfo) (options : CoreAssignmentOptions) :
    (onlineCores cores options).Perm
      (cores.filter fun core => core.online && !(options.avoidCore0 && core.logicalId == 0)) :=
  List.perm_insertionSort ..

theorem mem_usable (core : CpuCoreInfo) (cores : List CpuCoreInfo) (options : CoreAssignmentOptions) :
    core ∈ usable cores options ↔ core ∈ cores ∧ core.online = true ∧
      (options.avoidCore0 = true → core.logicalId = 0 →
        ∀ other ∈ cores, other.online = true → other.logicalId = 0) := by
  simp only [usable, List.mem_filter, Bool.and_eq_true, Bool.not_eq_true', Bool.and_eq_false_iff,
    beq_eq_false_iff_ne, List.any_eq_false, bne_iff_ne, not_and, not_not]
  grind

/-- The code looks for the cores without core 0 first, and for all only if it finds none. -/
theorem chosenCores_perm (cores : List CpuCoreInfo) (options : CoreAssignmentOptions) :
    (chosenCores cores options).Perm (usable cores options) := by
  by_cases others : ∃ core ∈ cores, core.online = true ∧ core.logicalId ≠ 0
  · obtain ⟨core, member, online, other⟩ := others
    have listed : core ∈ onlineCores cores options := by
      rw [(onlineCores_perm cores options).mem_iff, List.mem_filter]
      simp [member, online, other]
    have found : ¬((onlineCores cores options).isEmpty && options.avoidCore0) = true := by
      simp [List.ne_nil_of_mem listed]
    have any : (cores.any fun other => other.online && other.logicalId != 0) = true := by
      simpa using ⟨core, member, online, other⟩
    unfold chosenCores usable
    simp only [if_neg found, any, Bool.and_true]
    exact onlineCores_perm cores options
  · have none : (cores.any fun other => other.online && other.logicalId != 0) = false := by
      simpa [List.any_eq_false] using others
    unfold chosenCores usable
    simp only [none, Bool.and_false, Bool.not_false, Bool.and_true]
    cases avoided : options.avoidCore0 with
    | false => simpa [avoided] using onlineCores_perm cores options
    | true =>
      have nothing : onlineCores cores options = [] := by
        apply List.eq_nil_iff_forall_not_mem.mpr
        intro core listed
        rw [(onlineCores_perm cores options).mem_iff, List.mem_filter] at listed
        simp only [avoided, Bool.true_and, Bool.and_eq_true, Bool.not_eq_true',
          beq_eq_false_iff_ne] at listed
        exact others ⟨core, listed.1, listed.2⟩
      simpa [nothing] using onlineCores_perm cores ⟨false⟩

theorem chosenCores_ranked (cores : List CpuCoreInfo) (options : CoreAssignmentOptions) :
    (chosenCores cores options).Pairwise Ranked := by
  unfold chosenCores
  dsimp only
  split
  · exact onlineCores_ranked cores _
  · exact onlineCores_ranked cores options

/-! ### The workers' cores -/

variable {cores later : List CpuCoreInfo} {options : CoreAssignmentOptions}

theorem fastestOf_first (ranked : (first :: later).Pairwise Ranked)
    (same : ∀ core, core ∈ cores ↔ core ∈ first :: later) : FastestOf cores first.logicalId := by
  refine ⟨first, (same first).mpr (List.mem_cons_self ..), rfl, ?_⟩
  intro other member
  rcases List.mem_cons.mp ((same other).mp member) with rfl | behind
  · exact Nat.le_refl _
  · have order := (ranked_iff first other).mp (List.rel_of_pairwise_cons ranked behind)
    omega

/-- With the cores that are taken left out, those behind them are left. -/
theorem mem_without (taken later : List CpuCoreInfo) (perm : (taken ++ later).Perm cores)
    (distinct : (cores.map (·.logicalId)).Nodup) (core : CpuCoreInfo) :
    core ∈ without cores (taken.map (·.logicalId)) ↔ core ∈ later := by
  have apart : ((taken ++ later).map (·.logicalId)).Nodup :=
    (perm.map (·.logicalId)).nodup_iff.mpr distinct
  rw [List.map_append, List.nodup_append] at apart
  simp only [without, List.mem_filter, ← perm.mem_iff, List.mem_append, Bool.not_eq_true',
    List.contains_eq_mem, decide_eq_false_iff_not]
  constructor
  · rintro ⟨inTaken | inLater, absent⟩
    · exact absurd (List.mem_map_of_mem inTaken) absent
    · exact inLater
  · intro inLater
    refine ⟨.inr inLater, fun inTaken => ?_⟩
    exact apart.2.2 _ inTaken _ (List.mem_map_of_mem inLater) rfl

theorem without_ne (taken later : List CpuCoreInfo) (perm : (taken ++ later).Perm cores)
    (distinct : (cores.map (·.logicalId)).Nodup)
    (some : without cores (taken.map (·.logicalId)) ≠ []) : later ≠ [] := by
  obtain ⟨core, member⟩ := List.exists_mem_of_ne_nil _ some
  exact List.ne_nil_of_mem ((mem_without taken later perm distinct core).mp member)

theorem onlyOne {core : CpuCoreInfo} (distinct : (cores.map (·.logicalId)).Nodup)
    (member : core ∈ cores) : ∃! found, found ∈ cores ∧ found.logicalId = core.logicalId :=
  ⟨core, ⟨member, rfl⟩, fun _ found => List.inj_on_of_nodup_map distinct found.1 member found.2⟩

theorem placed_one {view : CpuCoreInfo} (perm : [view].Perm cores)
    (distinct : (cores.map (·.logicalId)).Nodup) (flowReason uiReason : String) :
    Placed cores (viewAssignment options view.logicalId)
      ⟨"glide-flow", view.logicalId, true, flowReason⟩
      ⟨"glide-ui", view.logicalId, true, uiReason⟩ := by
  have same : ∀ core, core ∈ cores ↔ core ∈ [view] := fun core => perm.mem_iff.symm
  have member := (same view).mpr (List.mem_cons_self ..)
  have alone := without_ne [view] [] perm distinct
  constructor
  · rfl
  · intro assignment listed
    have placed : assignment.logicalCore = view.logicalId := by
      simp only [viewAssignment, List.mem_cons, List.not_mem_nil, or_false] at listed
      rcases listed with rfl | rfl | rfl <;> rfl
    rw [placed]
    exact onlyOne distinct member
  · exact fastestOf_first (List.pairwise_singleton _ _) same
  · intro some
    exact absurd rfl (alone some)
  · intro some
    have left : without cores [view.logicalId] ≠ [] := by
      simpa [without, viewAssignment] using some
    exact absurd rfl (alone left)
  · intro _
    exact perm.symm.length_eq
  · rfl
  · simp [viewAssignment]
  · simp [viewAssignment]

theorem placed_two {view flow : CpuCoreInfo} (perm : [view, flow].Perm cores)
    (distinct : (cores.map (·.logicalId)).Nodup) (ranked : [view, flow].Pairwise Ranked)
    (flowReason uiReason : String) :
    Placed cores (viewAssignment options view.logicalId)
      ⟨"glide-flow", flow.logicalId, false, flowReason⟩
      ⟨"glide-ui", flow.logicalId, true, uiReason⟩ := by
  have same : ∀ core, core ∈ cores ↔ core ∈ [view, flow] := fun core => perm.mem_iff.symm
  have apart := (perm.map (·.logicalId)).nodup_iff.mpr distinct
  have other : view.logicalId ≠ flow.logicalId := by simpa using apart
  constructor
  · rfl
  · intro assignment listed
    simp only [viewAssignment, List.mem_cons, List.not_mem_nil, or_false] at listed
    rcases listed with rfl | rfl | rfl
    · exact onlyOne distinct ((same view).mpr (by simp))
    · exact onlyOne distinct ((same flow).mpr (by simp))
    · exact onlyOne distinct ((same flow).mpr (by simp))
  · exact fastestOf_first ranked same
  · intro _
    exact fastestOf_first ranked.tail (mem_without [view] _ perm distinct)
  · intro some
    exact absurd rfl (without_ne [view, flow] [] perm distinct some)
  · rintro (equal | equal)
    · exact absurd equal other
    · exact absurd equal other
  · rfl
  · simp [viewAssignment, Ne.symm other]
  · simp

theorem placed_more {view flow ui : CpuCoreInfo} {others : List CpuCoreInfo}
    (perm : (view :: flow :: ui :: others).Perm cores) (distinct : (cores.map (·.logicalId)).Nodup)
    (ranked : (view :: flow :: ui :: others).Pairwise Ranked) (flowReason uiReason : String) :
    Placed cores (viewAssignment options view.logicalId)
      ⟨"glide-flow", flow.logicalId, false, flowReason⟩
      ⟨"glide-ui", ui.logicalId, false, uiReason⟩ := by
  have same : ∀ core, core ∈ cores ↔ core ∈ view :: flow :: ui :: others :=
    fun core => perm.mem_iff.symm
  have apart := (perm.map (·.logicalId)).nodup_iff.mpr distinct
  obtain ⟨viewFlow, viewUi, flowUi⟩ : view.logicalId ≠ flow.logicalId ∧
      view.logicalId ≠ ui.logicalId ∧ flow.logicalId ≠ ui.logicalId := by
    simp only [List.map_cons, List.nodup_cons, List.mem_cons, not_or] at apart
    exact ⟨apart.1.1, apart.1.2.1, apart.2.1.1⟩
  constructor
  · rfl
  · intro assignment listed
    simp only [viewAssignment, List.mem_cons, List.not_mem_nil, or_false] at listed
    rcases listed with rfl | rfl | rfl
    · exact onlyOne distinct ((same view).mpr (by simp))
    · exact onlyOne distinct ((same flow).mpr (by simp))
    · exact onlyOne distinct ((same ui).mpr (by simp))
  · exact fastestOf_first ranked same
  · intro _
    exact fastestOf_first ranked.tail (mem_without [view] _ perm distinct)
  · intro _
    exact fastestOf_first ranked.tail.tail (mem_without [view, flow] _ perm distinct)
  · rintro (equal | equal)
    · exact absurd equal viewFlow
    · exact absurd equal viewUi
  · rfl
  · simp [viewAssignment, Ne.symm viewFlow]
  · simp [viewAssignment, Ne.symm viewUi, Ne.symm flowUi]

/-- The three workers, by how many cores there are. -/
theorem placed_chosen (cores : List CpuCoreInfo) (options : CoreAssignmentOptions)
    (distinct : ((usable cores options).map (·.logicalId)).Nodup) (some : usable cores options ≠ []) :
    ∃ view flow ui, assignWorkerCores cores options = [view, flow, ui] ∧
      Placed (usable cores options) view flow ui := by
  have perm := chosenCores_perm cores options
  have ranked := chosenCores_ranked cores options
  unfold assignWorkerCores
  generalize chosenCores cores options = chosen at perm ranked
  rcases chosen with _ | ⟨view, _ | ⟨flow, _ | ⟨ui, others⟩⟩⟩
  · exact absurd perm.symm.eq_nil some
  · exact ⟨_, _, _, rfl, placed_one perm distinct _ _⟩
  · exact ⟨_, _, _, rfl, placed_two perm distinct ranked _ _⟩
  · exact ⟨_, _, _, rfl, placed_more perm distinct ranked _ _⟩

/-! ### Any topology -/

theorem usable_distinct (topology : Topology) (options : CoreAssignmentOptions) :
    ((usable topology.cores options).map (·.logicalId)).Nodup :=
  topology.distinct.sublist (List.filter_sublist.map _)

theorem usable_eq_nil_iff (cores : List CpuCoreInfo) (options : CoreAssignmentOptions) :
    usable cores options = [] ↔ ∀ core ∈ cores, core.online = false := by
  constructor
  · intro nothing core member
    by_contra offline
    have online : core.online = true := by simpa using offline
    have absent : ∀ core, core ∉ usable cores options := by simp [nothing]
    by_cases others : ∃ other ∈ cores, other.online = true ∧ other.logicalId ≠ 0
    · obtain ⟨other, listed, otherOnline, apart⟩ := others
      exact absent other ((mem_usable ..).mpr
        ⟨listed, otherOnline, fun _ zero => absurd zero apart⟩)
    · refine absent core ((mem_usable ..).mpr ⟨member, online, fun _ _ other listed onlineToo => ?_⟩)
      by_contra apart
      exact others ⟨other, listed, onlineToo, apart⟩
  · intro offline
    apply List.eq_nil_iff_forall_not_mem.mpr
    intro core member
    obtain ⟨listed, online, _⟩ := (mem_usable ..).mp member
    exact absurd online (by simp [offline core listed])

/-- Two lists of the same cores are ranked alike: no two cores of one topology rank the same. -/
theorem chosenCores_eq (topology : Topology) (perm : topology.cores.Perm other)
    (options : CoreAssignmentOptions) :
    chosenCores topology.cores options = chosenCores other options := by
  have sameUsable : (usable topology.cores options).Perm (usable other options) := by
    have any : (topology.cores.any fun core => core.online && core.logicalId != 0) =
        other.any fun core => core.online && core.logicalId != 0 := perm.any_eq
    unfold usable
    rw [any]
    exact perm.filter _
  have same := ((chosenCores_perm topology.cores options).trans sameUsable).trans
    (chosenCores_perm other options).symm
  refine same.eq_of_pairwise ?_ (chosenCores_ranked ..) (chosenCores_ranked ..)
  intro left right inLeft inRight leftFirst rightFirst
  have leftUsable := (chosenCores_perm topology.cores options).mem_iff.mp inLeft
  have rightUsable := (chosenCores_perm topology.cores options).mem_iff.mp (same.mem_iff.mpr inRight)
  have sameId : left.logicalId = right.logicalId := by
    rw [ranked_iff] at leftFirst rightFirst
    omega
  exact List.inj_on_of_nodup_map (usable_distinct topology options) leftUsable rightUsable sameId

/-- The workers' cores, for every topology and with or without core 0 avoided. The order the cores
are listed in has no part in it. -/
theorem assignWorkerCores_placed (topology : Topology) (options : CoreAssignmentOptions) :
    ((∀ core ∈ topology.cores, core.online = false) → assignWorkerCores topology.cores options = []) ∧
    ((∃ core ∈ topology.cores, core.online = true) → ∃ view flow ui,
      assignWorkerCores topology.cores options = [view, flow, ui] ∧
        Placed (usable topology.cores options) view flow ui) ∧
    ∀ other, topology.cores.Perm other →
      assignWorkerCores other options = assignWorkerCores topology.cores options := by
  refine ⟨?_, ?_, ?_⟩
  · intro offline
    have nothing := (usable_eq_nil_iff topology.cores options).mpr offline
    have chosen := (nothing ▸ chosenCores_perm topology.cores options).eq_nil
    unfold assignWorkerCores
    rw [chosen]
  · rintro ⟨core, listed, online⟩
    apply placed_chosen _ _ (usable_distinct topology options)
    intro nothing
    have offline := (usable_eq_nil_iff topology.cores options).mp nothing core listed
    exact absurd online (by simp [offline])
  · intro other perm
    unfold assignWorkerCores
    rw [chosenCores_eq topology perm options]

end Glide.CoreAssignment
