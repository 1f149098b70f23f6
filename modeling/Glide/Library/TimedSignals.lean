import Mathlib.Data.List.Basic

/-! A signal that is there while something keeps arriving. It is raised when something arrives and
lowered by a check that finds the last arrival too long ago; between two checks it may be out of date,
but a check leaves it telling exactly whether something arrived within the time allowed. -/
namespace Glide.Library.TimedSignals

/-- The flag, and the time of the last arrival, 0 for none. -/
structure Signal where
  present : Bool := false
  last : Nat := 0

def Signal.arrive (now : Nat) : Signal := ⟨true, now⟩

def Signal.check (timeout now : Nat) (signal : Signal) : Signal :=
  if signal.last ≠ 0 ∧ timeout ≤ now - signal.last then { signal with present := false } else signal

/-- The signal stems from these arrivals, the last one in front, as the clock shows some time. -/
structure Tracks (timeout : Nat) (signal : Signal) (arrivals : List Nat) (clock : Nat) : Prop where
  last : signal.last = arrivals.headD 0
  past : ∀ time ∈ arrivals, 0 < time ∧ time ≤ signal.last
  now : signal.last ≤ clock
  raised : signal.present = true → signal.last ≠ 0
  lowered : signal.present = false → signal.last = 0 ∨ signal.last + timeout ≤ clock

variable {timeout clock now : Nat} {signal : Signal} {arrivals : List Nat}

theorem tracks_none (timeout clock : Nat) : Tracks timeout {} [] clock where
  last := rfl
  past := fun _ absent => absurd absent List.not_mem_nil
  now := Nat.zero_le _
  raised := nofun
  lowered := fun _ => .inl rfl

theorem Tracks.advance (tracks : Tracks timeout signal arrivals clock) (later : clock ≤ now) :
    Tracks timeout signal arrivals now where
  last := tracks.last
  past := tracks.past
  now := Nat.le_trans tracks.now later
  raised := tracks.raised
  lowered := fun low => (tracks.lowered low).imp_right fun old => Nat.le_trans old later

theorem Tracks.arrive (tracks : Tracks timeout signal arrivals clock) (started : 0 < clock) :
    Tracks timeout (Signal.arrive clock) (clock :: arrivals) clock where
  last := rfl
  past := by
    intro time member
    rcases List.mem_cons.mp member with rfl | earlier
    · exact ⟨started, Nat.le_refl _⟩
    · obtain ⟨positive, before⟩ := tracks.past time earlier
      exact ⟨positive, Nat.le_trans before tracks.now⟩
  now := Nat.le_refl _
  raised := fun _ => Nat.ne_of_gt started
  lowered := nofun

theorem Tracks.check (tracks : Tracks timeout signal arrivals clock) :
    Tracks timeout (signal.check timeout clock) arrivals clock := by
  unfold Signal.check
  split
  · rename_i old
    have now := tracks.now
    refine ⟨tracks.last, tracks.past, now, nofun, fun _ => .inr ?_⟩
    dsimp only
    omega
  · exact tracks

/-- A lowered signal stands for arrivals that are all too long ago. -/
theorem Tracks.old (tracks : Tracks timeout signal arrivals clock) (low : signal.present = false) :
    ∀ time ∈ arrivals, time + timeout ≤ clock := by
  intro time member
  obtain ⟨positive, before⟩ := tracks.past time member
  rcases tracks.lowered low with none_ | old
  · omega
  · omega

/-- After a check the flag tells whether something arrived within the time allowed. -/
theorem Tracks.exact (tracks : Tracks timeout signal arrivals clock) :
    (signal.check timeout clock).present = true ↔
      ∃ time ∈ arrivals, clock < time + timeout := by
  have checked := tracks.check
  constructor
  · intro high
    have raised := checked.raised high
    have last := checked.last
    cases arrivals with
    | nil => exact absurd last raised
    | cons time rest =>
      refine ⟨time, List.mem_cons_self, ?_⟩
      by_contra old
      unfold Signal.check at high raised last
      split at high
      · cases high
      · rename_i recent
        have last : signal.last = time := tracks.last
        have used : signal.last ≠ 0 := tracks.raised high
        omega
  · rintro ⟨time, member, recent⟩
    by_contra low
    have old := checked.old (Bool.eq_false_iff.mpr low) time member
    omega

end Glide.Library.TimedSignals
