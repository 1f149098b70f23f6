import Mathlib.Data.List.Induction

/-! Runs of a system that takes one event at a time. A run may be restricted
by a condition on each event in the state it arrives in; whatever one such step
preserves holds at the end of every such run. -/
namespace Glide.Library.Runs

/-- Every event of the run meets the condition in the state it arrives in. -/
def Meets (step : σ → ε → σ) (condition : σ → ε → Prop) : σ → List ε → Prop
  | _, [] => True
  | state, event :: rest => condition state event ∧ Meets step condition (step state event) rest

instance decidableMeets (step : σ → ε → σ) (condition : σ → ε → Prop)
    [decide : ∀ state event, Decidable (condition state event)] :
    ∀ state events, Decidable (Meets step condition state events)
  | _, [] => isTrue trivial
  | state, event :: rest =>
    have := decidableMeets step condition (step state event) rest
    inferInstanceAs (Decidable (condition state event ∧
      Meets step condition (step state event) rest))

@[simp] theorem meets_nil : Meets step condition state [] := trivial

@[simp] theorem meets_cons : Meets step condition state (event :: rest) ↔
    condition state event ∧ Meets step condition (step state event) rest := Iff.rfl

theorem meets_append : Meets step condition state (first ++ second) ↔
    Meets step condition state first ∧ Meets step condition (first.foldl step state) second := by
  induction first generalizing state with
  | nil => exact ⟨fun meets => ⟨trivial, meets⟩, And.right⟩
  | cons event rest ih =>
    rw [List.cons_append, meets_cons, ih, meets_cons, and_assoc, List.foldl_cons]

/-- A condition that always holds restricts no run. -/
theorem meets_of_always {condition : σ → ε → Prop} (always : ∀ state event, condition state event)
    (events : List ε) (state : σ) : Meets step condition state events := by
  induction events generalizing state with
  | nil => trivial
  | cons event rest ih => exact ⟨always state event, ih _⟩

/-- What one admitted step preserves holds after every admitted run. -/
theorem invariant_after_run {invariant : σ → Prop} (events : List ε)
    (preserved : ∀ state event, invariant state → condition state event →
      invariant (step state event))
    (start : invariant state) (meets : Meets step condition state events) :
    invariant (events.foldl step state) := by
  induction events generalizing state with
  | nil => exact start
  | cons event rest ih =>
    exact ih (preserved state event start meets.1) meets.2

/-- The same where a step is only known to preserve it for the events of the run. -/
theorem invariant_over_events {invariant : σ → Prop} (events : List ε)
    (preserved : ∀ state, ∀ event ∈ events, invariant state → condition state event →
      invariant (step state event))
    (start : invariant state) (meets : Meets step condition state events) :
    invariant (events.foldl step state) := by
  induction events generalizing state with
  | nil => exact start
  | cons event rest ih =>
    have kept := preserved state event List.mem_cons_self start meets.1
    exact ih (fun state event later => preserved state event (.tail _ later)) kept meets.2

/-- The same without a condition on the events. -/
theorem invariant_after_any_run {invariant : σ → Prop} (events : List ε)
    (preserved : ∀ state event, invariant state → invariant (step state event))
    (start : invariant state) : invariant (events.foldl step state) := by
  induction events generalizing state with
  | nil => exact start
  | cons event rest ih => exact ih (preserved state event start)

/-- What each event of a run meets in view of an invariant that the run keeps. -/
theorem meets_of_meets {invariant : σ → Prop} (events : List ε)
    (preserved : ∀ state, ∀ event ∈ events, invariant state → condition state event →
      invariant (step state event))
    (implied : ∀ state, ∀ event ∈ events, invariant state → condition state event →
      property state event)
    (start : invariant state) (meets : Meets step condition state events) :
    Meets step property state events := by
  induction events generalizing state with
  | nil => trivial
  | cons event rest ih =>
    refine ⟨implied state event List.mem_cons_self start meets.1, ?_⟩
    exact ih (fun state event later => preserved state event (.tail _ later))
      (fun state event later => implied state event (.tail _ later))
      (preserved state event List.mem_cons_self start meets.1) meets.2

/-- In runs that keep an invariant and stay in a domain, what is equivalent there for one event is
so for the events of the run. -/
theorem meets_iff_meets {invariant : σ → Prop} {domain first second : σ → ε → Prop}
    (events : List ε) (preserved : ∀ state event, invariant state → invariant (step state event))
    (same : ∀ state event, invariant state → domain state event →
      (first state event ↔ second state event))
    (start : invariant state) (inside : Meets step domain state events) :
    Meets step first state events ↔ Meets step second state events := by
  induction events generalizing state with
  | nil => exact Iff.rfl
  | cons event rest ih =>
    exact and_congr (same state event start inside.1) (ih (preserved state event start) inside.2)

/-- Two systems that stay related step by step are related after every run. -/
theorem related_after_run {related : σ → τ → Prop} (events : List ε)
    (preserved : ∀ concrete abstract event, related concrete abstract →
      related (step concrete event) (abstractStep abstract event))
    (start : related concrete abstract) :
    related (events.foldl step concrete) (events.foldl abstractStep abstract) := by
  induction events generalizing concrete abstract with
  | nil => exact start
  | cons event rest ih => exact ih (preserved concrete abstract event start)

/-- A run stays related to the run of what others see of its events, if an event that none
of them sees keeps the relation and the others keep it together. -/
theorem related_to_seen {related : σ → τ → Prop} {seen : ε → Option δ} (events : List ε)
    (hidden : ∀ state other event, related state other → condition state event →
      seen event = none → related (step state event) other)
    (shared : ∀ state other event visible, related state other → condition state event →
      seen event = some visible → related (step state event) (otherStep other visible))
    (start : related state other) (meets : Meets step condition state events) :
    related (events.foldl step state) ((events.filterMap seen).foldl otherStep other) := by
  induction events generalizing state other with
  | nil => exact start
  | cons event rest ih =>
    cases sight : seen event with
    | none =>
      rw [List.filterMap_cons_none sight]
      exact ih (hidden state other event start meets.1 sight) meets.2
    | some visible =>
      rw [List.filterMap_cons_some sight]
      exact ih (shared state other event visible start meets.1 sight) meets.2

/-- A property begins to hold with the start of a run or with its last event. -/
def Begins (step : σ → ε → σ) (property : σ → Prop) (state : σ) (events : List ε) : Prop :=
  property (events.foldl step state) ∧
    (events = [] ∨ ∃ earlier event, events = earlier ++ [event] ∧
      ¬property (earlier.foldl step state))

/-- What holds at the end of a run has begun in it and has held ever since. -/
theorem begun_since {property : σ → Prop} (events : List ε)
    (now : property (events.foldl step state)) :
    ∃ first since, events = first ++ since ∧ Begins step property state first ∧
      ∀ part, part <+: since → property ((first ++ part).foldl step state) := by
  induction events using List.reverseRecOn with
  | nil =>
    refine ⟨[], [], rfl, ⟨now, .inl rfl⟩, fun part none => ?_⟩
    rw [List.prefix_nil.1 none]
    exact now
  | append_singleton earlier event ih =>
    by_cases before : property (earlier.foldl step state)
    · obtain ⟨first, since, rfl, begins, held⟩ := ih before
      refine ⟨first, since ++ [event], by rw [List.append_assoc], begins, fun part inside => ?_⟩
      rcases List.prefix_concat_iff.1 inside with rfl | inside
      · rw [← List.append_assoc]
        exact now
      · exact held part inside
    · refine ⟨earlier ++ [event], [], (List.append_nil _).symm,
        ⟨now, .inr ⟨earlier, event, rfl, before⟩⟩, fun part none => ?_⟩
      rw [List.prefix_nil.1 none, List.append_nil]
      exact now

end Glide.Library.Runs
