import Mathlib.Data.List.Basic

/-! Times, the first one in front, that are some time apart from each other. -/
namespace Glide.Library.SpacedTimes

def Spaced (gap : Nat) (times : List Nat) : Prop :=
  times.Pairwise fun first second => first + gap ≤ second

theorem Spaced.length_lt (spaced : Spaced gap times) (some : times ≠ [])
    (start : ∀ time ∈ times, first ≤ time) (early : ∀ time ∈ times, time < last) :
    first + times.length * gap < last + gap := by
  induction times generalizing first with
  | nil => exact absurd rfl some
  | cons time rest ih =>
    obtain ⟨later, spaced⟩ := List.pairwise_cons.mp spaced
    have begun := start time List.mem_cons_self
    rw [List.length_cons, Nat.succ_mul]
    by_cases none : rest = []
    · subst none
      have soon := early time List.mem_cons_self
      rw [List.length_nil, Nat.zero_mul]
      omega
    · have behind : ∀ next ∈ rest, first + gap ≤ next := fun next member =>
        Nat.le_trans (Nat.add_le_add_right begun gap) (later next member)
      have least := ih spaced none behind fun next member =>
        early next (List.mem_cons_of_mem _ member)
      omega

/-- So many times, so far apart, fit into a stretch. -/
theorem Spaced.length_le (spaced : Spaced gap times) (wide : 0 < gap)
    (start : ∀ time ∈ times, first ≤ time) (early : ∀ time ∈ times, time < first + stretch) :
    times.length ≤ (stretch + gap - 1) / gap := by
  rw [Nat.le_div_iff_mul_le wide]
  by_cases none : times = []
  · subst none
    rw [List.length_nil, Nat.zero_mul]
    exact Nat.zero_le _
  · have least := spaced.length_lt none start early
    omega

/-- No stretch holds more of them than that. -/
theorem Spaced.countP_le (spaced : Spaced gap times) (wide : 0 < gap) (first stretch : Nat) :
    times.countP (fun time => first ≤ time && time < first + stretch) ≤
      (stretch + gap - 1) / gap := by
  rw [List.countP_eq_length_filter]
  have inside : ∀ time ∈ times.filter (fun time => first ≤ time && time < first + stretch),
      first ≤ time ∧ time < first + stretch := by
    intro time member
    simpa using (List.mem_filter.mp member).2
  exact Spaced.length_le (spaced.sublist List.filter_sublist) wide
    (fun time member => (inside time member).1) (fun time member => (inside time member).2)

/-- The nth is not before n gaps have passed. -/
theorem Spaced.nth_le (spaced : Spaced gap times) (start : ∀ time ∈ times, first ≤ time)
    (found : times[n]? = some time) : first + n * gap ≤ time := by
  induction times generalizing first n with
  | nil => cases found
  | cons head rest ih =>
    obtain ⟨later, spaced⟩ := List.pairwise_cons.mp spaced
    have begun := start head List.mem_cons_self
    cases n with
    | zero =>
      obtain rfl := Option.some.inj found
      rw [Nat.zero_mul]
      exact begun
    | succ n =>
      have behind : ∀ next ∈ rest, first + gap ≤ next := fun next member =>
        Nat.le_trans (Nat.add_le_add_right begun gap) (later next member)
      have least := ih spaced behind found
      rw [Nat.succ_mul]
      omega

/-! ### Turns that may come late -/

/-- Turns with the slot of each and the time it was taken. Slots are some time apart, and none is
further behind the turns before it. -/
def Slotted (gap : Nat) (turns : List (Nat × Nat)) : Prop :=
  turns.Pairwise fun first second => first.1 + gap ≤ second.1 ∧ first.2 ≤ second.1 + gap

theorem Slotted.spaced (slotted : Slotted gap turns) (shift : Nat) :
    Spaced gap (turns.map fun turn => turn.1 + shift) := by
  refine List.pairwise_map.mpr (slotted.imp fun apart => ?_)
  have slots := apart.1
  omega

/-- Turns that came late may be close to each other, but a stretch holds at most two more than fit
into it. -/
theorem Slotted.countP_le (slotted : Slotted gap turns) (wide : 0 < gap)
    (reached : ∀ turn ∈ turns, turn.1 ≤ turn.2) (first stretch : Nat) :
    turns.countP (fun turn => first ≤ turn.2 && turn.2 < first + stretch) ≤
      (stretch + gap - 1) / gap + 2 := by
  rw [List.countP_eq_length_filter]
  have inside : ∀ turn ∈ turns.filter (fun turn => first ≤ turn.2 && turn.2 < first + stretch),
      turn.1 ≤ turn.2 ∧ first ≤ turn.2 ∧ turn.2 < first + stretch := by
    intro turn member
    obtain ⟨known, within⟩ := List.mem_filter.mp member
    exact ⟨reached turn known, by simpa using within⟩
  have kept := slotted.sublist (List.filter_sublist
    (p := fun turn => first ≤ turn.2 && turn.2 < first + stretch))
  generalize turns.filter (fun turn => first ≤ turn.2 && turn.2 < first + stretch) = held at *
  cases held with
  | nil => exact Nat.zero_le _
  | cons turn rest =>
    obtain ⟨later, spaced⟩ := List.pairwise_cons.mp kept
    have begun := (inside turn List.mem_cons_self).2.1
    have start : ∀ slot ∈ rest.map (fun turn => turn.1 + gap), first ≤ slot := by
      intro slot member
      obtain ⟨next, known, rfl⟩ := List.mem_map.mp member
      exact Nat.le_trans begun (later next known).2
    have early : ∀ slot ∈ rest.map (fun turn => turn.1 + gap), slot < first + (stretch + gap) := by
      intro slot member
      obtain ⟨next, known, rfl⟩ := List.mem_map.mp member
      obtain ⟨reached, _, ended⟩ := inside next (List.mem_cons_of_mem _ known)
      omega
    have most := Spaced.length_le (Slotted.spaced spaced gap) wide start early
    have more : stretch + gap + gap - 1 = stretch + gap - 1 + gap := by omega
    rw [List.length_map, more, Nat.add_div_right _ wide] at most
    rw [List.length_cons]
    omega

/-- The nth turn is not taken before n gaps have passed. -/
theorem Slotted.nth_le (slotted : Slotted gap turns) (start : ∀ turn ∈ turns, first ≤ turn.1)
    (reached : ∀ turn ∈ turns, turn.1 ≤ turn.2) (found : turns[n]? = some turn) :
    first + n * gap ≤ turn.2 := by
  have begun : ∀ slot ∈ turns.map (fun turn => turn.1 + 0), first ≤ slot := by
    intro slot member
    obtain ⟨next, known, rfl⟩ := List.mem_map.mp member
    exact start next known
  have slot : (turns.map fun turn => turn.1 + 0)[n]? = some turn.1 := by
    rw [List.getElem?_map, found]
    rfl
  have due := (slotted.spaced 0).nth_le begun slot
  exact Nat.le_trans due (reached turn (List.mem_of_getElem? found))

end Glide.Library.SpacedTimes
