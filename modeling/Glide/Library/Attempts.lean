/-! Calls that change a state and may give up. What such a call changed before
it gave up stays changed. There is one rule for each way to put calls together:
what holds of the state a call leaves follows from what its parts leave, whether
it gave up on the way or not. -/
namespace Glide.Library.Attempts

/-- The value, or nothing if the call gave up, and the state it left. -/
def Attempt (σ α : Type) := σ → Option α × σ

instance : Monad (Attempt σ) where
  pure value := fun state => (some value, state)
  bind first next := fun state =>
    match first state with
    | (some value, left) => next value left
    | (none, left) => (none, left)

def giveUp : Attempt σ α := fun state => (none, state)

def read (view : σ → α) : Attempt σ α := fun state => (some (view state), state)

def change (update : σ → σ) : Attempt σ Unit := fun state => (some (), update state)

theorem bind_apply (first : Attempt σ α) (next : α → Attempt σ β) (state : σ) :
    (first >>= next) state =
      match first state with
      | (some value, left) => next value left
      | (none, left) => (none, left) := rfl

/-- Goes on only if the condition holds. -/
def check (condition : Prop) [Decidable condition] : Attempt σ Unit :=
  if condition then pure () else giveUp

/-- From the state the call ends in `post` with its value, or gives up and
leaves `left`. -/
def Ends (call : Attempt σ α) (state : σ) (post : α → σ → Prop) (left : σ → Prop) : Prop :=
  match call state with
  | (some value, after) => post value after
  | (none, after) => left after

section Rules
variable {σ α β γ : Type} {state : σ} {first : Attempt σ α} {next : α → Attempt σ β}
  {left : σ → Prop}

theorem ends_pure {post : α → σ → Prop} {value : α} (holds : post value state) :
    Ends (pure value) state post left := holds

theorem ends_giveUp {post : α → σ → Prop} (holds : left state) :
    Ends (giveUp : Attempt σ α) state post left := holds

theorem ends_change {update : σ → σ} {post : Unit → σ → Prop}
    (holds : post () (update state)) : Ends (change update) state post left := holds

theorem ends_check {condition : Prop} [Decidable condition] {post : Unit → σ → Prop}
    (passed : condition → post () state) (failed : ¬ condition → left state) :
    Ends (check condition) state post left := by
  unfold check
  split
  · exact passed ‹_›
  · exact failed ‹_›

theorem Ends.bind {between : α → σ → Prop} {post : β → σ → Prop}
    (start : Ends first state between left)
    (rest : ∀ value after, between value after → Ends (next value) after post left) :
    Ends (first >>= next) state post left := by
  unfold Ends at start
  change match (first >>= next) state with
    | (some value, after) => post value after
    | (none, after) => left after
  rw [bind_apply]
  cases found : first state with
  | mk value after =>
    rw [found] at start
    cases value with
    | none => exact start
    | some value => exact rest value after start

theorem ends_read_bind {view : σ → γ} {next : γ → Attempt σ β} {post : β → σ → Prop}
    (rest : Ends (next (view state)) state post left) :
    Ends (read view >>= next) state post left := rest

theorem ends_change_bind {update : σ → σ} {next : Unit → Attempt σ β} {post : β → σ → Prop}
    (rest : Ends (next ()) (update state) post left) :
    Ends (change update >>= next) state post left := rest

theorem ends_check_bind {condition : Prop} [Decidable condition] {next : Unit → Attempt σ β}
    {post : β → σ → Prop} (passed : condition → Ends (next ()) state post left)
    (failed : ¬ condition → left state) : Ends (check condition >>= next) state post left := by
  by_cases holds : condition
  · have same : (check condition : Attempt σ Unit) = pure () := if_pos holds
    rw [same]
    exact passed holds
  · have same : (check condition : Attempt σ Unit) = giveUp := if_neg holds
    rw [same]
    exact failed holds

theorem Ends.imp {post post' : α → σ → Prop} {left' : σ → Prop} (ends : Ends first state post left)
    (kept : ∀ value after, post value after → post' value after)
    (given : ∀ after, left after → left' after) : Ends first state post' left' := by
  unfold Ends at ends ⊢
  cases found : first state with
  | mk value after =>
    rw [found] at ends
    cases value with
    | none => exact given after ends
    | some value => exact kept value after ends

theorem Ends.and {post post' : α → σ → Prop} {left' : σ → Prop} (ends : Ends first state post left)
    (also : Ends first state post' left') :
    Ends first state (fun value after => post value after ∧ post' value after)
      (fun after => left after ∧ left' after) := by
  unfold Ends at ends also ⊢
  cases found : first state with
  | mk value after =>
    rw [found] at ends also
    cases value with
    | none => exact ⟨ends, also⟩
    | some value => exact ⟨ends, also⟩

theorem ends_any (call : Attempt σ α) (state : σ) :
    Ends call state (fun _ _ => True) (fun _ => True) := by
  unfold Ends
  cases call state with
  | mk value after => cases value <;> trivial

/-- The call ends in what it computes. -/
theorem ends_self (call : Attempt σ α) (state : σ) :
    Ends call state (fun value after => call state = (some value, after))
      (fun after => call state = (none, after)) := by
  unfold Ends
  cases call state with
  | mk value after => cases value <;> rfl

/-- What holds either way holds of the state the call leaves. -/
theorem Ends.after (ends : Ends first state (fun _ => left) left) : left (first state).2 := by
  unfold Ends at ends
  cases found : first state with
  | mk value after =>
    rw [found] at ends
    cases value with
    | none => exact ends
    | some value => exact ends

theorem Ends.returned {post : α → σ → Prop} {value : α} (ends : Ends first state post left)
    (returned : (first state).1 = some value) : post value (first state).2 := by
  unfold Ends at ends
  cases found : first state with
  | mk result after =>
    rw [found] at ends returned
    subst returned
    exact ends

end Rules

/-- The call leaves this part of the state as it was. -/
def Leaves (call : Attempt σ α) (view : σ → β) : Prop := ∀ state, view (call state).2 = view state

section Parts
variable {σ α β γ : Type} {first : Attempt σ α} {next : α → Attempt σ γ} {view : σ → β}

theorem leaves_pure {value : α} : Leaves (pure value : Attempt σ α) view := fun _ => rfl

theorem leaves_giveUp : Leaves (giveUp : Attempt σ α) view := fun _ => rfl

theorem leaves_read {part : σ → α} : Leaves (read part) view := fun _ => rfl

theorem leaves_change {update : σ → σ}
    (kept : ∀ state, view (update state) = view state) :
    Leaves (change update) view := kept

theorem leaves_check {condition : Prop} [Decidable condition] :
    Leaves (check condition : Attempt σ Unit) view := by
  intro state
  unfold check
  split <;> rfl

theorem Leaves.bind (start : Leaves first view) (rest : ∀ value, Leaves (next value) view) :
    Leaves (first >>= next) view := by
  intro state
  have same := start state
  rw [bind_apply]
  cases found : first state with
  | mk value after =>
    rw [found] at same
    cases value with
    | none => exact same
    | some value => exact (rest value after).trans same

theorem Leaves.ends (leaves : Leaves first view) (state : σ) :
    Ends first state (fun _ after => view after = view state) (fun after => view after = view state) := by
  have same := leaves state
  unfold Ends
  cases found : first state with
  | mk value after =>
    rw [found] at same
    cases value with
    | none => exact same
    | some value => exact same

end Parts

/-- A list grew at its front by items that were each allowed on what was there. -/
inductive Extends (allowed : ε → List ε → Prop) (before : List ε) : List ε → Prop
  | same : Extends allowed before before
  | more (item : ε) (items : List ε) : Extends allowed before items → allowed item items →
    Extends allowed before (item :: items)

section Extension
variable {ε : Type} {allowed : ε → List ε → Prop} {before middle after : List ε}

theorem Extends.trans (first : Extends allowed before middle) (second : Extends allowed middle after) :
    Extends allowed before after := by
  induction second with
  | same => exact first
  | more item items _ allows ih => exact .more item items ih allows

theorem Extends.one {item : ε} (allows : allowed item before) :
    Extends allowed before (item :: before) := .more item before .same allows

theorem Extends.imp {weaker : ε → List ε → Prop} (extends_ : Extends allowed before after)
    (implied : ∀ item items, allowed item items → weaker item items) : Extends weaker before after := by
  induction extends_ with
  | same => exact .same
  | more item items _ allows ih => exact .more item items ih (implied item items allows)

/-- What every allowed item preserves is preserved. -/
theorem Extends.preserves {holds : List ε → Prop} (extends_ : Extends allowed before after)
    (start : holds before)
    (step : ∀ item items, holds items → allowed item items → holds (item :: items)) : holds after := by
  induction extends_ with
  | same => exact start
  | more item items _ allows ih => exact step item items ih allows

end Extension

/-- The call only puts allowed items in front of this list. -/
def Grows (call : Attempt σ α) (view : σ → List ε) (allowed : ε → List ε → Prop) : Prop :=
  ∀ state, Extends allowed (view state) (view (call state).2)

section Growth
variable {σ α γ ε : Type} {first : Attempt σ α} {next : α → Attempt σ γ} {view : σ → List ε}
  {allowed : ε → List ε → Prop}

theorem Leaves.grows (leaves : Leaves first view) : Grows first view allowed := by
  intro state
  rw [leaves state]
  exact .same

theorem Grows.bind (start : Grows first view allowed) (rest : ∀ value, Grows (next value) view allowed) :
    Grows (first >>= next) view allowed := by
  intro state
  have grown := start state
  rw [bind_apply]
  cases found : first state with
  | mk value after =>
    rw [found] at grown
    cases value with
    | none => exact grown
    | some value => exact grown.trans (rest value after)

theorem Grows.ends (grows : Grows first view allowed) (state : σ) :
    Ends first state (fun _ after => Extends allowed (view state) (view after))
      (fun after => Extends allowed (view state) (view after)) := by
  have grown := grows state
  unfold Ends
  cases found : first state with
  | mk value after =>
    rw [found] at grown
    cases value with
    | none => exact grown
    | some value => exact grown

end Growth

end Glide.Library.Attempts
