import Mathlib.Data.List.Basic

/-! Loops that write into a buffer of fixed length. A loop whose steps change each cell by itself
does so as a whole, and where only one of its turns reaches a cell, that turn decides. -/
namespace Glide.Library.CellLoops

/-- A step that changes each cell by itself. -/
def Cellwise (step : List α → List α) (change : Nat → α → α) : Prop :=
  ∀ cells index, (step cells)[index]? = cells[index]?.map (change index)

theorem Cellwise.length {change : Nat → α → α} (cellwise : Cellwise step change) (cells : List α) :
    (step cells).length = cells.length := by
  have same (index : Nat) : (step cells).length ≤ index ↔ cells.length ≤ index := by
    rw [← List.getElem?_eq_none_iff, ← List.getElem?_eq_none_iff, cellwise, Option.map_eq_none_iff]
  exact Nat.le_antisymm ((same _).2 (Nat.le_refl _)) ((same _).1 (Nat.le_refl _))

/-- `std::copy_n`. -/
def copyN (source : List α) (start count : Nat) (target : List α) (offset : Nat) : List α :=
  target.mapIdx fun index old =>
    if offset ≤ index ∧ index < offset + count then source.getD (start + (index - offset)) old
    else old

theorem cellwise_copyN (source : List α) (start count offset : Nat) :
    Cellwise (copyN source start count · offset) fun index old =>
      if offset ≤ index ∧ index < offset + count then source.getD (start + (index - offset)) old
      else old :=
  fun _ _ => List.getElem?_mapIdx

theorem cellwise_id : Cellwise (fun cells : List α => cells) fun _ old => old :=
  fun _ _ => Option.map_id'.symm

/-- A loop of such steps goes over each cell by itself. -/
theorem cellwise_foldl {step : List α → ι → List α} {change : ι → Nat → α → α} (items : List ι)
    (each : ∀ item, Cellwise (step · item) (change item)) :
    Cellwise (fun cells => items.foldl step cells) fun index old =>
      items.foldl (fun old item => change item index old) old := by
  induction items with
  | nil => exact cellwise_id
  | cons item rest ih =>
    intro cells index
    dsimp only
    rw [List.foldl_cons]
    have later := ih (step cells item) index
    dsimp only at later
    rw [later, each item cells index, Option.map_map]
    rfl

/-- A loop of which one turn does something. -/
theorem foldl_at {step : α → Nat → α} (old : α) (inside : place < count)
    (others : ∀ old other, other < count → other ≠ place → step old other = old) :
    (List.range count).foldl step old = step old place := by
  induction count with
  | zero => omega
  | succ count ih =>
    rw [List.range_succ, List.foldl_append, List.foldl_cons, List.foldl_nil]
    by_cases last : place = count
    · have idle : (List.range count).foldl step old = old := by
        rw [List.foldl_ext step (fun old _ => old) old fun old other member => ?_, List.foldl_fixed]
        have below := List.mem_range.1 member
        exact others old other (by omega) (by omega)
      rw [idle, last]
    · rw [ih (by omega) fun old other below => others old other (by omega)]
      exact others _ count (Nat.lt_succ_self _) (Ne.symm last)

end Glide.Library.CellLoops
