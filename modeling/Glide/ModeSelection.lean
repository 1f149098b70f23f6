import Mathlib.Data.List.Induction
import Glide.Library.AsciiText
import Glide.Library.MachineArithmetic

/-! The display mode that is selected for a requested size and refresh rate, in one pass
over the modes of the connector. -/
namespace Glide.ModeSelection
open Glide.Library.AsciiText (ascii)
open Glide.Library.MachineArithmetic

/-- `drmModeModeInfo`. -/
structure ModeInfo where
  clock : UInt32 := 0
  hdisplay : UInt16
  hsyncStart : UInt16 := 0
  hsyncEnd : UInt16 := 0
  htotal : UInt16 := 0
  hskew : UInt16 := 0
  vdisplay : UInt16
  vsyncStart : UInt16 := 0
  vsyncEnd : UInt16 := 0
  vtotal : UInt16 := 0
  vscan : UInt16 := 0
  vrefresh : UInt32
  flags : UInt32 := 0
  type : UInt32 := 0
  name : List UInt8 := []
deriving DecidableEq

/-- A refresh rate of 0 stands for any. -/
structure Request where
  width : UInt32
  height : UInt32
  refreshHz : UInt32
deriving DecidableEq

def vesa1280x960At60 : ModeInfo where
  clock := 108000
  hdisplay := 1280
  hsyncStart := 1376
  hsyncEnd := 1488
  htotal := 1800
  vdisplay := 960
  vsyncStart := 961
  vsyncEnd := 964
  vtotal := 1000
  vrefresh := 60
  flags := 5
  type := 32
  name := ascii "1280x960"

/-- `can_use_builtin_mode`, with the mode that it sets. -/
def builtinMode (request : Request) : Option ModeInfo :=
  if request.width = 1280 ∧ request.height = 960 ∧
      (request.refreshHz = 0 ∨ request.refreshHz = 60) then some vesa1280x960At60 else none

def hasSize (request : Request) (mode : ModeInfo) : Prop :=
  mode.hdisplay.toUInt32 = request.width ∧ mode.vdisplay.toUInt32 = request.height

instance (request : Request) : DecidablePred (hasSize request) :=
  fun _ => inferInstanceAs (Decidable (_ ∧ _))

def hasRefresh (request : Request) (mode : ModeInfo) : Prop :=
  request.refreshHz ≠ 0 ∧ mode.vrefresh = request.refreshHz

instance (request : Request) : DecidablePred (hasRefresh request) :=
  fun _ => inferInstanceAs (Decidable (_ ∧ _))

/-- How far a mode of the requested refresh rate is from the requested size, in the 64
bits of the source. -/
def refreshFallbackScore (request : Request) (mode : ModeInfo) : Nat :=
  let aspectError := ((mode.hdisplay.toNat * request.height.toNat : Int) -
    request.width.toNat * mode.vdisplay.toNat).natAbs
  let area := mode.hdisplay.toNat * mode.vdisplay.toNat
  let requestedArea := request.width.toNat * request.height.toNat
  let areaError := if area > requestedArea then area - requestedArea else requestedArea - area
  (add 64 (mul 64 aspectError 100000000).value areaError).value

/-- The variables of the pass. -/
structure Scan where
  selected : ModeInfo
  highest : ModeInfo
  foundResolution : Bool := false
  foundExactRefresh : Bool := false
  foundRefreshFallback : Bool := false
  bestScore : Nat := 2 ^ 64 - 1

def noteHighest (candidate : ModeInfo) (scan : Scan) : Scan :=
  if candidate.vrefresh > scan.highest.vrefresh then { scan with highest := candidate } else scan

/-- A mode of the requested refresh rate is a fallback when it is nearer than those before. -/
def offerFallback (request : Request) (candidate : ModeInfo) (scan : Scan) : Scan :=
  if hasRefresh request candidate ∧ (scan.foundRefreshFallback = false ∨
      refreshFallbackScore request candidate < scan.bestScore) then
    { scan with
      selected := candidate, bestScore := refreshFallbackScore request candidate,
      foundRefreshFallback := true }
  else scan

def takeSize (candidate : ModeInfo) (scan : Scan) : Scan :=
  if scan.foundResolution then scan
  else { scan with selected := candidate, foundResolution := true }

def takeHigher (candidate : ModeInfo) (scan : Scan) : Scan :=
  if candidate.vrefresh > scan.selected.vrefresh then { scan with selected := candidate } else scan

/-- The pass over the modes. The compositor offers each mode as a fallback first. -/
def scanModes (offer : ModeInfo → Scan → Scan) (request : Request) :
    Scan → List ModeInfo → Scan
  | scan, [] => scan
  | scan, candidate :: rest =>
    let scan := offer candidate (noteHighest candidate scan)
    if ¬ hasSize request candidate then scanModes offer request scan rest
    else
      let scan := takeSize candidate scan
      if hasRefresh request candidate then
        { scan with selected := candidate, foundExactRefresh := true }
      else scanModes offer request (takeHigher candidate scan) rest

/-- What is selected in the end. -/
def conclude (request : Request) (first : ModeInfo) (scan : Scan) : ModeInfo :=
  if request.width = 0 ∨ request.height = 0 then first
  else if scan.foundResolution then scan.selected
  else
    match builtinMode request with
    | some mode => mode
    | none => if request.refreshHz = 0 then scan.highest else scan.selected

/-- The modes of a connector are given by the first and the others. -/
def selectMode (offer : ModeInfo → Scan → Scan) (request : Request) (first : ModeInfo)
    (rest : List ModeInfo) : ModeInfo :=
  conclude request first
    (scanModes offer request { selected := first, highest := first } (first :: rest))

/-- As `KmsAtomicCompositor::choose_connector_and_mode` selects. -/
def compositorMode (request : Request) (first : ModeInfo) (rest : List ModeInfo) : ModeInfo :=
  selectMode (offerFallback request) request first rest

/-- As `KmsDmabufVideoPlane::choose_connector_and_mode` selects. -/
def legacyPlaneMode (request : Request) (first : ModeInfo) (rest : List ModeInfo) : ModeInfo :=
  selectMode (fun _ scan => scan) request first rest

/-- The size is kept to, the refresh rate too where a mode has both, else it is the
highest of the size. -/
structure Honours (request : Request) (modes : List ModeInfo) (selected : ModeInfo) : Prop where
  exactly : (∃ mode ∈ modes, hasSize request mode ∧ hasRefresh request mode) →
    selected ∈ modes ∧ hasSize request selected ∧ hasRefresh request selected
  highest : (¬ ∃ mode ∈ modes, hasSize request mode ∧ hasRefresh request mode) →
    (∃ mode ∈ modes, hasSize request mode) →
    selected ∈ modes ∧ hasSize request selected ∧
      ∀ mode ∈ modes, hasSize request mode → mode.vrefresh ≤ selected.vrefresh

/-- A mode of the requested refresh rate stands behind one of the requested size and is a
nearer fallback than those before it. -/
def Overrides (request : Request) (before : List ModeInfo) (fallback : ModeInfo) : Prop :=
  hasRefresh request fallback ∧ (∃ mode ∈ before, hasSize request mode) ∧
    ∀ mode ∈ before, hasRefresh request mode →
      refreshFallbackScore request fallback < refreshFallbackScore request mode

/-- Behind the fallback comes the highest mode of the size, and it is above the requested
refresh rate. -/
def Recovers (request : Request) (modes after : List ModeInfo) : Prop :=
  ∃ mode ∈ after, hasSize request mode ∧ request.refreshHz < mode.vrefresh ∧
    ∀ other ∈ modes, hasSize request other → other.vrefresh ≤ mode.vrefresh

section Pass
variable {request : Request} {offer : ModeInfo → Scan → Scan} {modes : List ModeInfo}
  {overrides : List ModeInfo → ModeInfo → Prop} {candidate selected : ModeInfo} {scan : Scan}

/-- What the pass does with a mode that does not end it. -/
def consider (offer : ModeInfo → Scan → Scan) (request : Request) (scan : Scan)
    (candidate : ModeInfo) : Scan :=
  let scan := offer candidate (noteHighest candidate scan)
  if hasSize request candidate then takeHigher candidate (takeSize candidate scan) else scan

theorem scanModes_eq_foldl
    (inexact : ¬ ∃ mode ∈ modes, hasSize request mode ∧ hasRefresh request mode) :
    scanModes offer request scan modes = modes.foldl (consider offer request) scan := by
  induction modes generalizing scan with
  | nil => rfl
  | cons candidate rest ih =>
    have later : ¬ ∃ mode ∈ rest, hasSize request mode ∧ hasRefresh request mode :=
      fun ⟨mode, member, fits⟩ => inexact ⟨mode, .tail _ member, fits⟩
    rw [scanModes, List.foldl_cons, consider]
    by_cases sized : hasSize request candidate
    · have other : ¬ hasRefresh request candidate :=
        fun same => inexact ⟨candidate, List.mem_cons_self, sized, same⟩
      simp only [sized, other, not_true_eq_false, if_true, if_false, ih later]
    · simp only [sized, not_false_eq_true, if_true, if_false, ih later]

@[simp] theorem takeSize_found (candidate : ModeInfo) (scan : Scan) :
    (takeSize candidate scan).foundResolution = true := by
  unfold takeSize
  split
  · assumption
  · rfl

@[simp] theorem takeHigher_found (candidate : ModeInfo) (scan : Scan) :
    (takeHigher candidate scan).foundResolution = scan.foundResolution := by
  unfold takeHigher
  split <;> rfl

theorem takeHigher_selected (candidate : ModeInfo) (scan : Scan) :
    (takeHigher candidate scan).selected =
      if candidate.vrefresh > scan.selected.vrefresh then candidate else scan.selected := by
  unfold takeHigher
  split <;> rfl

@[simp] theorem noteHighest_selected (candidate : ModeInfo) (scan : Scan) :
    (noteHighest candidate scan).selected = scan.selected := by
  unfold noteHighest
  split <;> rfl

@[simp] theorem noteHighest_found (candidate : ModeInfo) (scan : Scan) :
    (noteHighest candidate scan).foundResolution = scan.foundResolution := by
  unfold noteHighest
  split <;> rfl

/-- The first mode that has both ends the pass. -/
theorem scanModes_exact
    (listed : ∃ mode ∈ modes, hasSize request mode ∧ hasRefresh request mode) :
    (scanModes offer request scan modes).foundResolution = true ∧
      ∃ mode ∈ modes, hasSize request mode ∧ hasRefresh request mode ∧
        (scanModes offer request scan modes).selected = mode := by
  induction modes generalizing scan with
  | nil => exact absurd listed (by simp)
  | cons candidate rest ih =>
    rw [scanModes]
    by_cases exactly : hasSize request candidate ∧ hasRefresh request candidate
    · simp only [exactly.1, exactly.2, not_true_eq_false, if_true, if_false]
      exact ⟨takeSize_found _ _, candidate, List.mem_cons_self, exactly.1, exactly.2, rfl⟩
    · have later : ∃ mode ∈ rest, hasSize request mode ∧ hasRefresh request mode := by
        obtain ⟨mode, member, fits⟩ := listed
        rcases List.mem_cons.1 member with rfl | member
        · exact absurd fits exactly
        · exact ⟨mode, member, fits⟩
      by_cases sized : hasSize request candidate
      · have other : ¬ hasRefresh request candidate := fun same => exactly ⟨sized, same⟩
        simp only [sized, other, not_true_eq_false, if_false]
        obtain ⟨found, mode, member, fits⟩ := ih later
        exact ⟨found, mode, .tail _ member, fits⟩
      · simp only [sized, not_false_eq_true, if_true]
        obtain ⟨found, mode, member, fits⟩ := ih later
        exact ⟨found, mode, .tail _ member, fits⟩

/-- What stands as selected after the modes that the pass has seen. A mode that
`overrides` those before it replaces the selected one whatever its size. -/
inductive Standing (overrides : List ModeInfo → ModeInfo → Prop) (request : Request)
    (modes : List ModeInfo) (selected : ModeInfo) : Prop where
  | unmatched (other : ∀ mode ∈ modes, ¬ hasSize request mode)
  | highest (member : selected ∈ modes) (sized : hasSize request selected)
      (top : ∀ mode ∈ modes, hasSize request mode → mode.vrefresh ≤ selected.vrefresh)
      (undisturbed : ∀ before fallback after, modes = before ++ fallback :: after →
        ¬ overrides before fallback)
  | overridden (before after : List ModeInfo) (split : modes = before ++ selected :: after)
      (wins : overrides before selected)
      (last : ∀ before' fallback after', modes = before' ++ fallback :: after' →
        overrides before' fallback → after.length ≤ after'.length)
      (top : ∀ mode ∈ after, hasSize request mode → mode.vrefresh ≤ selected.vrefresh)
  | recovered (before after : List ModeInfo) (fallback : ModeInfo)
      (split : modes = before ++ fallback :: after) (wins : overrides before fallback)
      (last : ∀ before' fallback' after', modes = before' ++ fallback' :: after' →
        overrides before' fallback' → after.length ≤ after'.length)
      (member : selected ∈ after) (sized : hasSize request selected)
      (above : fallback.vrefresh < selected.vrefresh)
      (top : ∀ mode ∈ after, hasSize request mode → mode.vrefresh ≤ selected.vrefresh)

/-- Where a mode stands in a list that has grown by one. -/
theorem split_snoc {before after : List ModeInfo} {fallback : ModeInfo}
    (split : modes ++ [candidate] = before ++ fallback :: after) :
    (after = [] ∧ before = modes ∧ fallback = candidate) ∨
      ∃ earlier, after = earlier ++ [candidate] ∧ modes = before ++ fallback :: earlier := by
  rcases List.eq_nil_or_concat after with rfl | ⟨earlier, final, rfl⟩
  · obtain ⟨same, last⟩ := List.append_inj' split rfl
    rw [List.cons.injEq] at last
    exact .inl ⟨rfl, same.symm, last.1.symm⟩
  · rw [List.concat_eq_append, ← List.cons_append, ← List.append_assoc] at split
    obtain ⟨same, last⟩ := List.append_inj' split rfl
    rw [List.cons.injEq] at last
    exact .inr ⟨earlier, by rw [List.concat_eq_append, last.1], same⟩

theorem undisturbed_snoc
    (undisturbed : ∀ before fallback after, modes = before ++ fallback :: after →
      ¬ overrides before fallback)
    (calm : ¬ overrides modes candidate) :
    ∀ before fallback after, modes ++ [candidate] = before ++ fallback :: after →
      ¬ overrides before fallback := by
  intro before fallback after split wins
  obtain ⟨_, rfl, rfl⟩ | ⟨earlier, _, same⟩ := split_snoc split
  · exact calm wins
  · exact undisturbed before fallback earlier same wins

theorem last_snoc {behind : List ModeInfo}
    (last : ∀ before fallback after, modes = before ++ fallback :: after →
      overrides before fallback → behind.length ≤ after.length)
    (calm : ¬ overrides modes candidate) :
    ∀ before fallback after, modes ++ [candidate] = before ++ fallback :: after →
      overrides before fallback → (behind ++ [candidate]).length ≤ after.length := by
  intro before fallback after split wins
  obtain ⟨_, rfl, rfl⟩ | ⟨earlier, rfl, same⟩ := split_snoc split
  · exact absurd wins calm
  · rw [List.length_append, List.length_append]
    exact Nat.add_le_add_right (last before fallback earlier same wins) _

theorem forall_snoc {holds : ModeInfo → Prop} (before : ∀ mode ∈ modes, holds mode)
    (final : holds candidate) : ∀ mode ∈ modes ++ [candidate], holds mode := by
  simp only [List.mem_append, List.mem_singleton]
  rintro mode (member | rfl)
  · exact before mode member
  · exact final

theorem Standing.override (wins : overrides modes candidate) :
    Standing overrides request (modes ++ [candidate]) candidate :=
  .overridden modes [] rfl wins (fun _ _ _ _ _ => Nat.zero_le _) (by simp)

/-- A mode of another size that overrides nothing leaves the selected mode as it is. -/
theorem Standing.skip (standing : Standing overrides request modes selected)
    (other : ¬ hasSize request candidate) (calm : ¬ overrides modes candidate) :
    Standing overrides request (modes ++ [candidate]) selected := by
  cases standing with
  | unmatched none => exact .unmatched (forall_snoc none other)
  | highest member sized top undisturbed =>
    exact .highest (List.mem_append_left _ member) sized
      (forall_snoc top fun same => absurd same other) (undisturbed_snoc undisturbed calm)
  | overridden before after split wins last top =>
    exact .overridden before (after ++ [candidate]) (by rw [split]; simp) wins
      (last_snoc last calm) (forall_snoc top fun same => absurd same other)
  | recovered before after fallback split wins last member sized above top =>
    exact .recovered before (after ++ [candidate]) fallback (by rw [split]; simp) wins
      (last_snoc last calm) (List.mem_append_left _ member) sized above
      (forall_snoc top fun same => absurd same other)

/-- The first mode of the size is selected. -/
theorem Standing.first (none : ∀ mode ∈ modes, ¬ hasSize request mode)
    (same : hasSize request candidate) (calm : ¬ overrides modes candidate)
    (behind : ∀ before fallback, overrides before fallback →
      ∃ mode ∈ before, hasSize request mode) :
    Standing overrides request (modes ++ [candidate]) candidate := by
  refine .highest (by simp) same
    (forall_snoc (fun mode member sized => absurd sized (none mode member))
      fun _ => UInt32.le_refl _)
    (undisturbed_snoc (fun before fallback after split wins => ?_) calm)
  obtain ⟨mode, member, sized⟩ := behind before fallback wins
  exact none mode (split ▸ List.mem_append_left _ member) sized

/-- Each further mode of the size is selected when it is higher. -/
theorem Standing.size (standing : Standing overrides request modes selected)
    (present : ∃ mode ∈ modes, hasSize request mode)
    (same : hasSize request candidate) (calm : ¬ overrides modes candidate) :
    Standing overrides request (modes ++ [candidate])
      (if candidate.vrefresh > selected.vrefresh then candidate else selected) := by
  have final : candidate ∈ modes ++ [candidate] := by simp
  by_cases higher : candidate.vrefresh > selected.vrefresh
  · rw [if_pos higher]
    have raised : ∀ mode : ModeInfo, mode.vrefresh ≤ selected.vrefresh →
        mode.vrefresh ≤ candidate.vrefresh :=
      fun mode below => UInt32.le_trans below (UInt32.le_of_lt higher)
    have itself : hasSize request candidate → candidate.vrefresh ≤ candidate.vrefresh :=
      fun _ => UInt32.le_refl _
    cases standing with
    | unmatched none =>
      obtain ⟨mode, member, sized⟩ := present
      exact absurd sized (none mode member)
    | highest member sized top undisturbed =>
      exact .highest final same
        (forall_snoc (fun mode member sized => raised mode (top mode member sized)) itself)
        (undisturbed_snoc undisturbed calm)
    | overridden before after split wins last top =>
      exact .recovered before (after ++ [candidate]) selected (by rw [split]; simp) wins
        (last_snoc last calm) (by simp) same higher
        (forall_snoc (fun mode member sized => raised mode (top mode member sized)) itself)
    | recovered before after fallback split wins last member sized above top =>
      exact .recovered before (after ++ [candidate]) fallback (by rw [split]; simp) wins
        (last_snoc last calm) (by simp) same (UInt32.lt_trans above higher)
        (forall_snoc (fun mode member sized => raised mode (top mode member sized)) itself)
  · rw [if_neg higher]
    have lower : hasSize request candidate → candidate.vrefresh ≤ selected.vrefresh :=
      fun _ => UInt32.not_lt.1 higher
    cases standing with
    | unmatched none =>
      obtain ⟨mode, member, sized⟩ := present
      exact absurd sized (none mode member)
    | highest member sized top undisturbed =>
      exact .highest (List.mem_append_left _ member) sized (forall_snoc top lower)
        (undisturbed_snoc undisturbed calm)
    | overridden before after split wins last top =>
      exact .overridden before (after ++ [candidate]) (by rw [split]; simp) wins
        (last_snoc last calm) (forall_snoc top lower)
    | recovered before after fallback split wins last member sized above top =>
      exact .recovered before (after ++ [candidate]) fallback (by rw [split]; simp) wins
        (last_snoc last calm) (List.mem_append_left _ member) sized above
        (forall_snoc top lower)

/-- What the pass knows after the modes it has seen, with what it does to a mode that
overrides. -/
structure Seen (overrides : List ModeInfo → ModeInfo → Prop) (request : Request)
    (modes : List ModeInfo) (scan : Scan) : Prop where
  found : scan.foundResolution = true ↔ ∃ mode ∈ modes, hasSize request mode
  standing : Standing overrides request modes scan.selected

/-- The offered mode is selected when it overrides, and nothing is otherwise if a mode of
the size was found. -/
structure Offered (overrides : List ModeInfo → ModeInfo → Prop) (request : Request)
    (modes : List ModeInfo) (candidate : ModeInfo) (scan offered : Scan) : Prop where
  found : offered.foundResolution = scan.foundResolution
  wins : overrides modes candidate → offered.selected = candidate
  calm : ¬ overrides modes candidate → (∃ mode ∈ modes, hasSize request mode) →
    offered.selected = scan.selected

theorem Seen.consider (seen : Seen overrides request modes scan)
    (offered : Offered overrides request modes candidate scan
      (offer candidate (noteHighest candidate scan)))
    (behind : ∀ before fallback, overrides before fallback →
      ∃ mode ∈ before, hasSize request mode)
    (inexact : overrides modes candidate → ¬ hasSize request candidate) :
    Seen overrides request (modes ++ [candidate]) (consider offer request scan candidate) := by
  unfold ModeSelection.consider
  generalize offer candidate (noteHighest candidate scan) = next at offered
  by_cases sized : hasSize request candidate
  · have calm : ¬ overrides modes candidate := fun wins => inexact wins sized
    simp only [sized, if_true]
    refine ⟨by simp [sized], ?_⟩
    by_cases earlier : ∃ mode ∈ modes, hasSize request mode
    · have known : next.foundResolution = true := offered.found.trans (seen.found.2 earlier)
      have kept : takeSize candidate next = next := if_pos known
      rw [kept, takeHigher_selected, offered.calm calm earlier]
      exact seen.standing.size earlier sized calm
    · have unknown : ¬ next.foundResolution = true := fun known =>
        earlier (seen.found.1 (offered.found.symm.trans known))
      have taken : (takeSize candidate next).selected = candidate := by
        rw [takeSize, if_neg unknown]
      rw [takeHigher_selected, taken, ite_self]
      exact Standing.first (fun mode member same => earlier ⟨mode, member, same⟩) sized calm
        behind
  · simp only [sized, if_false]
    constructor
    · rw [offered.found, seen.found]
      simp [sized]
    · by_cases wins : overrides modes candidate
      · rw [offered.wins wins]
        exact Standing.override wins
      · by_cases earlier : ∃ mode ∈ modes, hasSize request mode
        · rw [offered.calm wins earlier]
          exact seen.standing.skip sized wins
        · exact .unmatched
            (forall_snoc (fun mode member same => earlier ⟨mode, member, same⟩) sized)

/-- A fallback is nearer than those before exactly when the pass takes it for that. -/
def Nearest (request : Request) (modes : List ModeInfo) (scan : Scan) : Prop :=
  ∀ mode, (scan.foundRefreshFallback = false ∨
      refreshFallbackScore request mode < scan.bestScore) ↔
    ∀ other ∈ modes, hasRefresh request other →
      refreshFallbackScore request mode < refreshFallbackScore request other

theorem Nearest.same {next : Scan} (nearest : Nearest request modes scan)
    (flag : next.foundRefreshFallback = scan.foundRefreshFallback)
    (score : next.bestScore = scan.bestScore) : Nearest request modes next := by
  intro mode
  rw [flag, score]
  exact nearest mode

theorem Nearest.note (nearest : Nearest request modes scan) (candidate : ModeInfo) :
    Nearest request modes (noteHighest candidate scan) := by
  unfold noteHighest
  split
  · exact nearest
  · exact nearest

theorem Nearest.take (nearest : Nearest request modes scan) (candidate : ModeInfo) :
    Nearest request modes (takeHigher candidate (takeSize candidate scan)) := by
  unfold takeHigher takeSize
  split <;> split <;> exact nearest

theorem Nearest.offered (nearest : Nearest request modes scan) (candidate : ModeInfo) :
    Nearest request (modes ++ [candidate]) (offerFallback request candidate scan) := by
  have itself := nearest candidate
  unfold offerFallback
  by_cases same : hasRefresh request candidate
  · by_cases nearer : scan.foundRefreshFallback = false ∨
        refreshFallbackScore request candidate < scan.bestScore
    · rw [if_pos ⟨same, nearer⟩]
      intro mode
      simp only [Bool.true_eq_false, false_or]
      constructor
      · exact fun below => forall_snoc
          (fun other member matched => below.trans (itself.1 nearer other member matched))
          fun _ => below
      · exact fun all => all candidate (by simp) same
    · rw [if_neg fun taken => nearer taken.2]
      intro mode
      rw [nearest mode]
      constructor
      · intro all
        refine forall_snoc all fun _ => ?_
        have known := (nearest mode).2 all
        rw [not_or, Bool.not_eq_false, Nat.not_lt] at nearer
        exact (known.resolve_left (by simp [nearer.1])).trans_le nearer.2
      · exact fun all other member => all other (List.mem_append_left _ member)
  · rw [if_neg fun taken => same taken.1]
    intro mode
    rw [nearest mode]
    constructor
    · exact fun all => forall_snoc all fun matched => absurd matched same
    · exact fun all other member => all other (List.mem_append_left _ member)

theorem offerFallback_offered (nearest : Nearest request modes scan) (candidate : ModeInfo) :
    Offered (Overrides request) request modes candidate scan
      (offerFallback request candidate (noteHighest candidate scan)) := by
  have nearer := nearest.note candidate candidate
  constructor
  · unfold offerFallback
    split <;> exact noteHighest_found candidate scan
  · intro wins
    rw [offerFallback, if_pos ⟨wins.1, nearer.2 wins.2.2⟩]
  · intro calm earlier
    rw [offerFallback, if_neg fun taken => calm ⟨taken.1, earlier, nearer.1 taken.2⟩]
    exact noteHighest_selected candidate scan

section Runs
variable (inexact : ¬ ∃ mode ∈ modes, hasSize request mode ∧ hasRefresh request mode)
include inexact

theorem fallback_run_seen (first : ModeInfo) :
    Seen (Overrides request) request modes (modes.foldl (consider (offerFallback request) request)
        { selected := first, highest := first }) ∧
      Nearest request modes (modes.foldl (consider (offerFallback request) request)
        { selected := first, highest := first }) := by
  induction modes using List.reverseRecOn with
  | nil => exact ⟨⟨by simp, .unmatched (by simp)⟩, fun mode => by simp⟩
  | append_singleton modes candidate ih =>
    obtain ⟨seen, nearest⟩ := ih fun ⟨mode, member, fits⟩ =>
      inexact ⟨mode, List.mem_append_left _ member, fits⟩
    rw [List.foldl_append, List.foldl_cons, List.foldl_nil]
    refine ⟨seen.consider (offerFallback_offered nearest candidate) (fun _ _ wins => wins.2.1)
      fun wins sized => inexact ⟨candidate, by simp, sized, wins.1⟩, ?_⟩
    have offered := (nearest.note candidate).offered candidate
    unfold ModeSelection.consider
    by_cases sized : hasSize request candidate
    · simp only [sized, if_true]
      exact offered.take candidate
    · simp only [sized, if_false]
      exact offered

theorem plain_run_seen (first : ModeInfo) :
    Seen (fun _ _ => False) request modes
      (modes.foldl (consider (fun _ scan => scan) request)
        { selected := first, highest := first }) := by
  induction modes using List.reverseRecOn with
  | nil => exact ⟨by simp, .unmatched (by simp)⟩
  | append_singleton modes candidate ih =>
    have seen := ih fun ⟨mode, member, fits⟩ =>
      inexact ⟨mode, List.mem_append_left _ member, fits⟩
    rw [List.foldl_append, List.foldl_cons, List.foldl_nil]
    exact seen.consider
      ⟨noteHighest_found candidate _, False.elim, fun _ _ => noteHighest_selected candidate _⟩
      (fun _ _ => False.elim) False.elim

end Runs

section Outcome
variable (inexact : ¬ ∃ mode ∈ modes, hasSize request mode ∧ hasRefresh request mode)
  (present : ∃ mode ∈ modes, hasSize request mode)

theorem honours_of_highest (member : selected ∈ modes) (sized : hasSize request selected)
    (top : ∀ mode ∈ modes, hasSize request mode → mode.vrefresh ≤ selected.vrefresh)
    (inexact : ¬ ∃ mode ∈ modes, hasSize request mode ∧ hasRefresh request mode) :
    Honours request modes selected :=
  ⟨fun listed => absurd listed inexact, fun _ _ => ⟨member, sized, top⟩⟩

include inexact present in
/-- Without a mode that has both, the request is honoured if every fallback that overrides
is made up for. -/
theorem Standing.honours_iff (standing : Standing overrides request modes selected)
    (refresh : ∀ before fallback, overrides before fallback → hasRefresh request fallback) :
    Honours request modes selected ↔
      ∀ before fallback after, modes = before ++ fallback :: after →
        overrides before fallback → Recovers request modes after := by
  cases standing with
  | unmatched none =>
    obtain ⟨mode, member, sized⟩ := present
    exact absurd sized (none mode member)
  | highest member sized top undisturbed =>
    exact iff_of_true (honours_of_highest member sized top inexact)
      fun before fallback after split wins => absurd wins (undisturbed before fallback after split)
  | overridden before after split wins last top =>
    have matched := refresh before selected wins
    have member : selected ∈ modes := by simp [split]
    refine iff_of_false (fun honours => ?_) fun recovers => ?_
    · exact inexact ⟨selected, member, (honours.highest inexact present).2.1, matched⟩
    · obtain ⟨mode, behind, sized, above, _⟩ := recovers before selected after split wins
      rw [← matched.2] at above
      exact UInt32.not_lt.2 (top mode behind sized) above
  | recovered before after fallback split wins last member sized above top =>
    constructor
    · intro honours before' fallback' after' split' wins'
      have behind : after <:+ modes := ⟨before ++ [fallback], by simp [split]⟩
      have behind' : after' <:+ modes := ⟨before' ++ [fallback'], by simp [split']⟩
      have within := List.suffix_of_suffix_length_le behind behind'
        (last before' fallback' after' split' wins')
      refine ⟨selected, within.subset member, sized, ?_, (honours.highest inexact present).2.2⟩
      rwa [← (refresh before fallback wins).2]
    · intro recovers
      obtain ⟨mode, behind, same, _, highest⟩ := recovers before fallback after split wins
      refine honours_of_highest (by rw [split]; simp [member]) sized
        (fun other listed fits => ?_) inexact
      exact UInt32.le_trans (highest other listed fits) (top mode behind same)

end Outcome

theorem honours_of_unmatched (none : ¬ ∃ mode ∈ modes, hasSize request mode)
    (selected : ModeInfo) : Honours request modes selected :=
  ⟨fun ⟨mode, member, fits⟩ => absurd ⟨mode, member, fits.1⟩ none,
    fun _ present => absurd present none⟩

end Pass

section Selection
variable {request : Request} {first : ModeInfo} {rest : List ModeInfo}
  {offer : ModeInfo → Scan → Scan} {overrides : List ModeInfo → ModeInfo → Prop}

theorem conclude_found (shown : request.width ≠ 0 ∧ request.height ≠ 0) {scan : Scan}
    (found : scan.foundResolution = true) : conclude request first scan = scan.selected := by
  rw [conclude, if_neg (not_or.2 shown), if_pos found]

/-- A mode that has the size and the refresh rate is selected by both. -/
theorem selectMode_exact (shown : request.width ≠ 0 ∧ request.height ≠ 0)
    (listed : ∃ mode ∈ first :: rest, hasSize request mode ∧ hasRefresh request mode) :
    Honours request (first :: rest) (selectMode offer request first rest) := by
  obtain ⟨found, mode, member, sized, matched, selected⟩ :
      (scanModes offer request { selected := first, highest := first }
          (first :: rest)).foundResolution = true ∧
        ∃ mode ∈ first :: rest, hasSize request mode ∧ hasRefresh request mode ∧
          (scanModes offer request { selected := first, highest := first }
            (first :: rest)).selected = mode := scanModes_exact listed
  have chosen : selectMode offer request first rest = mode :=
    (conclude_found shown found).trans selected
  rw [chosen]
  exact ⟨fun _ => ⟨member, sized, matched⟩, fun inexact => absurd listed inexact⟩

/-- Without such a mode what stands at the end of the pass is selected. -/
theorem selectMode_honours_iff (shown : request.width ≠ 0 ∧ request.height ≠ 0)
    (inexact : ¬ ∃ mode ∈ first :: rest, hasSize request mode ∧ hasRefresh request mode)
    (seen : Seen overrides request (first :: rest)
      ((first :: rest).foldl (consider offer request) { selected := first, highest := first }))
    (behind : ∀ before fallback, overrides before fallback →
      hasRefresh request fallback ∧ ∃ mode ∈ before, hasSize request mode) :
    Honours request (first :: rest) (selectMode offer request first rest) ↔
      ∀ before fallback after, first :: rest = before ++ fallback :: after →
        overrides before fallback → Recovers request (first :: rest) after := by
  by_cases present : ∃ mode ∈ first :: rest, hasSize request mode
  · rw [selectMode, scanModes_eq_foldl inexact, conclude_found shown (seen.found.2 present)]
    exact seen.standing.honours_iff inexact present fun before fallback wins =>
      (behind before fallback wins).1
  · refine iff_of_true (honours_of_unmatched present _) fun before fallback after split wins => ?_
    obtain ⟨mode, member, sized⟩ := (behind before fallback wins).2
    exact absurd ⟨mode, split ▸ List.mem_append_left _ member, sized⟩ present

end Selection

/-- The legacy plane honours every request. The compositor does unless no mode has both the
size and the refresh rate, and a mode of the refresh rate overrides one of the size that
is not made up for. -/
theorem selection_honours_iff (request : Request) (first : ModeInfo) (rest : List ModeInfo)
    (shown : request.width ≠ 0 ∧ request.height ≠ 0) :
    Honours request (first :: rest) (legacyPlaneMode request first rest) ∧
    (Honours request (first :: rest) (compositorMode request first rest) ↔
      (∃ mode ∈ first :: rest, hasSize request mode ∧ hasRefresh request mode) ∨
      ∀ before fallback after, first :: rest = before ++ fallback :: after →
        Overrides request before fallback → Recovers request (first :: rest) after) := by
  by_cases listed : ∃ mode ∈ first :: rest, hasSize request mode ∧ hasRefresh request mode
  · exact ⟨selectMode_exact shown listed,
      iff_of_true (selectMode_exact shown listed) (.inl listed)⟩
  · constructor
    · exact (selectMode_honours_iff shown listed (plain_run_seen listed first)
        fun _ _ => False.elim).2 fun _ _ _ _ => False.elim
    · rw [or_iff_right listed]
      exact selectMode_honours_iff shown listed (fallback_run_seen listed first).1
        fun _ _ wins => ⟨wins.1, wins.2.1⟩

def fullHdAt50 : ModeInfo := { hdisplay := 1920, vdisplay := 1080, vrefresh := 50 }

def hdAt60 : ModeInfo := { hdisplay := 1280, vdisplay := 720, vrefresh := 60 }

theorem selection_honours_native :
    Honours ⟨1920, 1080, 50⟩ [fullHdAt50, hdAt60]
      (legacyPlaneMode ⟨1920, 1080, 50⟩ fullHdAt50 [hdAt60]) ∧
    (Honours ⟨1920, 1080, 50⟩ [fullHdAt50, hdAt60]
        (compositorMode ⟨1920, 1080, 50⟩ fullHdAt50 [hdAt60]) ↔
      (∃ mode ∈ [fullHdAt50, hdAt60], hasSize ⟨1920, 1080, 50⟩ mode ∧
        hasRefresh ⟨1920, 1080, 50⟩ mode) ∨
      ∀ before fallback after, [fullHdAt50, hdAt60] = before ++ fallback :: after →
        Overrides ⟨1920, 1080, 50⟩ before fallback →
          Recovers ⟨1920, 1080, 50⟩ [fullHdAt50, hdAt60] after) :=
  selection_honours_iff ⟨1920, 1080, 50⟩ fullHdAt50 [hdAt60] (by decide)

/-- Full HD at 60 Hz is requested, and HD is selected although Full HD is there. -/
theorem fallback_replaces_size :
    ¬ Honours ⟨1920, 1080, 60⟩ [fullHdAt50, hdAt60]
      (compositorMode ⟨1920, 1080, 60⟩ fullHdAt50 [hdAt60]) := by
  intro honours
  have selected : compositorMode ⟨1920, 1080, 60⟩ fullHdAt50 [hdAt60] = hdAt60 := by decide
  have sized := (honours.highest (by decide) (by decide)).2.1
  rw [selected] at sized
  exact absurd sized (by decide)

end Glide.ModeSelection
