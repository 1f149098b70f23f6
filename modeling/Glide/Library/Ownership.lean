import Mathlib.Data.List.Count

/-! Items that pass from one owner to the next. Items are numbered as they are
obtained, every owner holds a list of them, and the law of such a system is that
each item obtained so far is in exactly one list, once. -/
namespace Glide.Library.Ownership

/-- The item is in exactly one of the places, and there once. -/
abbrev InOnePlace (item : Nat) (places : List (List Nat)) : Prop :=
  places.flatten.count item = 1

/-- The places hold every item obtained so far once, and nothing else. -/
def Accounted (obtained : Nat) (places : List (List Nat)) : Prop :=
  ∀ item, places.flatten.count item = if item < obtained then 1 else 0

theorem accounted_empty (empty : places.flatten = []) : Accounted 0 places := by
  intro item
  simp [empty]

/-- Items change places. -/
theorem Accounted.move (accounted : Accounted obtained before)
    (same : ∀ item, after.flatten.count item = before.flatten.count item) :
    Accounted obtained after :=
  fun item => (same item).trans (accounted item)

/-- The next item enters one of the places. -/
theorem Accounted.obtain (accounted : Accounted obtained before)
    (entered : ∀ item, after.flatten.count item = before.flatten.count item + [obtained].count item) :
    Accounted (obtained + 1) after := by
  intro item
  rw [entered, accounted item, List.count_singleton]
  by_cases new : item = obtained
  · simp [new]
  · have apart : ¬ obtained = item := Ne.symm new
    have still : item < obtained + 1 ↔ item < obtained := by omega
    simp [apart, still]

theorem Accounted.inOnePlace (accounted : Accounted obtained places) (known : item < obtained) :
    InOnePlace item places := by
  rw [InOnePlace, accounted item, if_pos known]

theorem Accounted.known (accounted : Accounted obtained places) (held : item ∈ places.flatten) :
    item < obtained := by
  have counted := List.count_pos_iff.2 held
  rw [accounted item] at counted
  split at counted
  · assumption
  · omega

/-- An item in one of the places is not in another. -/
theorem Accounted.not_released (accounted : Accounted obtained (released :: places))
    (held : item ∈ places.flatten) : item ∉ released := by
  intro given
  have once := accounted.inOnePlace (accounted.known (List.mem_append_right _ held))
  have first := List.count_pos_iff.2 given
  have second := List.count_pos_iff.2 held
  rw [InOnePlace, List.flatten_cons, List.count_append] at once
  omega

/-- Items obtained so far, in the order in which they were obtained. -/
def InOrder (obtained : Nat) (items : List Nat) : Prop :=
  items.Pairwise (· < ·) ∧ ∀ item ∈ items, item < obtained

theorem InOrder.sublist (ordered : InOrder obtained items) (kept : remaining.Sublist items) :
    InOrder obtained remaining :=
  ⟨ordered.1.sublist kept, fun item held => ordered.2 item (kept.subset held)⟩

theorem InOrder.obtain (ordered : InOrder obtained items) :
    InOrder (obtained + 1) (items ++ [obtained]) := by
  refine ⟨List.pairwise_append.2 ⟨ordered.1, List.pairwise_singleton _ _, ?_⟩, ?_⟩
  · intro item held last newest
    rw [List.mem_singleton.1 newest]
    exact ordered.2 item held
  · intro item held
    rcases List.mem_append.1 held with held | newest
    · exact Nat.lt_succ_of_lt (ordered.2 item held)
    · exact List.mem_singleton.1 newest ▸ Nat.lt_succ_self _

/-- Takes items from the front until no more than `limit` remain: first the items
taken, then those that remain. -/
def dropOldest (limit : Nat) : List α → List α × List α
  | [] => ([], [])
  | oldest :: rest =>
    if limit < (oldest :: rest).length then
      (oldest :: (dropOldest limit rest).1, (dropOldest limit rest).2)
    else ([], oldest :: rest)

theorem dropOldest_append (limit : Nat) (queue : List α) :
    (dropOldest limit queue).1 ++ (dropOldest limit queue).2 = queue := by
  induction queue with
  | nil => rfl
  | cons oldest rest ih =>
    unfold dropOldest
    split
    · exact congrArg (oldest :: ·) ih
    · rfl

theorem dropOldest_length (limit : Nat) (queue : List α) :
    (dropOldest limit queue).2.length ≤ limit := by
  induction queue with
  | nil => exact Nat.zero_le _
  | cons oldest rest ih =>
    unfold dropOldest
    split
    · exact ih
    · rename_i fits
      exact Nat.not_lt.1 fits

theorem dropOldest_count [DecidableEq α] (limit : Nat) (queue : List α) (item : α) :
    (dropOldest limit queue).1.count item + (dropOldest limit queue).2.count item =
      queue.count item := by
  rw [← List.count_append, dropOldest_append]

theorem dropOldest_sublist (limit : Nat) (queue : List α) :
    (dropOldest limit queue).2.Sublist queue := by
  conv_rhs => rw [← dropOldest_append limit queue]
  exact List.sublist_append_right _ _

end Glide.Library.Ownership
