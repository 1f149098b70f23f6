import Glide.Library.RecencyLists

/-! A cache in a list. An entry is stamped when it is used, and where there is no room the entry
with the least stamp is taken out. From the newest entry to the oldest, such a cache has the keys
that were used last. -/
namespace Glide.Library.StampedCaches
open RecencyLists

/-- The first wanted entry is changed. -/
def updateFirst (wanted : α → Bool) (update : α → α) : List α → List α
  | [] => []
  | entry :: rest =>
    if wanted entry then update entry :: rest else entry :: updateFirst wanted update rest

/-- The first entry with the least stamp, and the others. -/
def takeOldest (stamp : α → Nat) : List α → Option (α × List α)
  | [] => none
  | entry :: rest =>
    match takeOldest stamp rest with
    | none => some (entry, [])
    | some (victim, others) =>
      if stamp victim < stamp entry then some (victim, entry :: others) else some (entry, rest)

/-- A loop that takes the oldest entry out while there are more than the limit: those that were
taken out, and the others. It has at most as many turns as there are entries. -/
def takeExcess (stamp : α → Nat) (limit : Nat) : (turns : Nat) → List α → List α × List α
  | 0, entries => ([], entries)
  | turns + 1, entries =>
    if limit < entries.length then
      match takeOldest stamp entries with
      | none => ([], entries)
      | some (victim, others) =>
        let (taken, left) := takeExcess stamp limit turns others
        (victim :: taken, left)
    else ([], entries)

variable {stamp : α → Nat} {entries others : List α} {victim entry : α}

/-! ### What is changed -/

theorem map_updateFirst (view : α → β) (update : α → α) (wanted : α → Bool)
    (same : ∀ entry, view (update entry) = view entry) (entries : List α) :
    (updateFirst wanted update entries).map view = entries.map view := by
  induction entries with
  | nil => rfl
  | cons first rest ih =>
    unfold updateFirst
    split
    · rw [List.map_cons, same, List.map_cons]
    · rw [List.map_cons, ih, List.map_cons]

theorem mem_updateFirst {wanted : α → Bool} {update : α → α}
    (member : entry ∈ updateFirst wanted update entries) :
    entry ∈ entries ∨ ∃ held ∈ entries, entry = update held := by
  induction entries with
  | nil => cases member
  | cons first rest ih =>
    unfold updateFirst at member
    split at member
    · rcases List.mem_cons.mp member with rfl | later
      · exact .inr ⟨first, List.mem_cons_self, rfl⟩
      · exact .inl (List.mem_cons_of_mem _ later)
    · rcases List.mem_cons.mp member with rfl | later
      · exact .inl List.mem_cons_self
      · rcases ih later with held | ⟨held, listed, same⟩
        · exact .inl (List.mem_cons_of_mem _ held)
        · exact .inr ⟨held, List.mem_cons_of_mem _ listed, same⟩

/-- The entry that a search finds is the one that is changed. -/
theorem find_updateFirst {wanted : α → Bool} (update : α → α)
    (found : entries.find? wanted = some entry) :
    update entry ∈ updateFirst wanted update entries := by
  induction entries with
  | nil => cases found
  | cons first rest ih =>
    unfold updateFirst
    by_cases hit : wanted first = true
    · rw [List.find?_cons_of_pos hit] at found
      rw [if_pos hit, Option.some.inj found]
      exact List.mem_cons_self
    · rw [List.find?_cons_of_neg hit] at found
      rw [if_neg hit]
      exact List.mem_cons_of_mem _ (ih found)

theorem updateFirst_congr {wanted other : α → Bool} (update : α → α)
    (same : ∀ entry ∈ entries, wanted entry = other entry) :
    updateFirst wanted update entries = updateFirst other update entries := by
  induction entries with
  | nil => rfl
  | cons first rest ih =>
    unfold updateFirst
    rw [same first List.mem_cons_self,
      ih fun entry member => same entry (List.mem_cons_of_mem _ member)]

/-! ### What is taken out -/

theorem takeOldest_some (stamp : α → Nat) (nonempty : entries ≠ []) :
    ∃ victim others, takeOldest stamp entries = some (victim, others) := by
  cases entries with
  | nil => exact absurd rfl nonempty
  | cons first rest =>
    unfold takeOldest
    split
    · exact ⟨_, _, rfl⟩
    · split <;> exact ⟨_, _, rfl⟩

theorem takeOldest_none (none : takeOldest stamp entries = none) : entries = [] := by
  by_contra nonempty
  obtain ⟨victim, others, taken⟩ := takeOldest_some stamp nonempty
  rw [taken] at none
  cases none

theorem takeOldest_perm (taken : takeOldest stamp entries = some (victim, others)) :
    (victim :: others).Perm entries := by
  induction entries generalizing victim others with
  | nil => cases taken
  | cons first rest ih =>
    unfold takeOldest at taken
    split at taken
    · rename_i last
      obtain ⟨rfl, rfl⟩ := Prod.mk.inj (Option.some.inj taken)
      rw [takeOldest_none last]
    · rename_i least left found
      split at taken
      · obtain ⟨rfl, rfl⟩ := Prod.mk.inj (Option.some.inj taken)
        exact (List.Perm.swap ..).trans ((ih found).cons first)
      · obtain ⟨rfl, rfl⟩ := Prod.mk.inj (Option.some.inj taken)
        exact List.Perm.refl _

theorem takeOldest_le (taken : takeOldest stamp entries = some (victim, others))
    (member : entry ∈ entries) : stamp victim ≤ stamp entry := by
  induction entries generalizing victim others with
  | nil => cases taken
  | cons first rest ih =>
    unfold takeOldest at taken
    split at taken
    · rename_i last
      obtain ⟨rfl, _⟩ := Prod.mk.inj (Option.some.inj taken)
      rw [takeOldest_none last] at member
      exact Nat.le_of_eq (congrArg stamp (List.mem_singleton.mp member).symm)
    · rename_i least left found
      split at taken
      · rename_i less
        obtain ⟨rfl, _⟩ := Prod.mk.inj (Option.some.inj taken)
        rcases List.mem_cons.mp member with rfl | later
        · exact Nat.le_of_lt less
        · exact ih found later
      · rename_i more
        obtain ⟨rfl, _⟩ := Prod.mk.inj (Option.some.inj taken)
        rcases List.mem_cons.mp member with rfl | later
        · exact Nat.le_refl _
        · exact Nat.le_trans (Nat.le_of_not_lt more) (ih found later)

theorem takeExcess_perm (stamp : α → Nat) (limit turns : Nat) (entries : List α) :
    ((takeExcess stamp limit turns entries).1 ++ (takeExcess stamp limit turns entries).2).Perm
      entries := by
  induction turns generalizing entries with
  | zero => exact List.Perm.refl _
  | succ turns ih =>
    unfold takeExcess
    split
    · split
      · exact List.Perm.refl _
      · rename_i found
        exact ((ih _).cons _).trans (takeOldest_perm found)
    · exact List.Perm.refl _

theorem length_takeExcess_le (stamp : α → Nat) (limit : Nat) {turns : Nat} {entries : List α}
    (enough : entries.length ≤ turns) :
    (takeExcess stamp limit turns entries).2.length ≤ limit := by
  induction turns generalizing entries with
  | zero => exact Nat.le_trans enough (Nat.zero_le _)
  | succ turns ih =>
    unfold takeExcess
    split
    · split
      · rename_i none
        rw [takeOldest_none none]
        exact Nat.zero_le _
      · rename_i found
        have length := (takeOldest_perm found).length_eq
        rw [List.length_cons] at length
        exact ih (by omega)
    · rename_i fits
      exact Nat.le_of_not_lt fits

/-- A newest entry at the end stays there as long as there is another one. -/
theorem takeOldest_concat (newest : ∀ older ∈ entries, stamp older < stamp entry)
    (taken : takeOldest stamp entries = some (victim, others)) :
    takeOldest stamp (entries ++ [entry]) = some (victim, others ++ [entry]) := by
  induction entries generalizing victim others with
  | nil => cases taken
  | cons first rest ih =>
    have behind : ∀ older ∈ rest, stamp older < stamp entry :=
      fun older member => newest older (List.mem_cons_of_mem _ member)
    have more := newest first List.mem_cons_self
    rw [List.cons_append]
    unfold takeOldest at taken ⊢
    split at taken
    · rename_i last
      obtain ⟨rfl, rfl⟩ := Prod.mk.inj (Option.some.inj taken)
      rw [takeOldest_none last]
      simp [takeOldest, Nat.lt_asymm more]
    · rename_i found
      rw [ih behind found]
      dsimp only
      split at taken
      · rename_i less
        obtain ⟨rfl, rfl⟩ := Prod.mk.inj (Option.some.inj taken)
        rw [if_pos less, List.cons_append]
      · rename_i least
        obtain ⟨rfl, rfl⟩ := Prod.mk.inj (Option.some.inj taken)
        rw [if_neg least]

theorem takeExcess_concat (limit : Nat) (room : 0 < limit) (turns : Nat)
    (newest : ∀ older ∈ entries, stamp older < stamp entry) :
    ∃ taken left,
      takeExcess stamp limit turns (entries ++ [entry]) = (taken, left ++ [entry]) := by
  induction turns generalizing entries with
  | zero => exact ⟨[], entries, rfl⟩
  | succ turns ih =>
    unfold takeExcess
    split
    · rename_i full
      have nonempty : entries ≠ [] := by
        rintro rfl
        rw [List.nil_append, List.length_singleton] at full
        omega
      obtain ⟨victim, others, found⟩ := takeOldest_some stamp nonempty
      have part : ∀ older ∈ others, stamp older < stamp entry := fun older member =>
        newest older ((takeOldest_perm found).mem_iff.mp (List.mem_cons_of_mem _ member))
      obtain ⟨taken, left, same⟩ := ih part
      rw [takeOldest_concat newest found]
      dsimp only
      rw [same]
      exact ⟨victim :: taken, left, rfl⟩
    · exact ⟨[], entries, rfl⟩

/-! ### Keys in the order of their last use -/

variable {key : α → κ} {keys : List κ} {wanted : κ}

/-- From the newest entry to the oldest the cache has these keys. -/
def Keeps (key : α → κ) (stamp : α → Nat) (entries : List α) (keys : List κ) : Prop :=
  ∃ order : List α, order.Perm entries ∧ order.map key = keys ∧
    order.Pairwise fun newer older => stamp older < stamp newer

theorem keeps_nil (key : α → κ) (stamp : α → Nat) : Keeps key stamp [] [] :=
  ⟨[], List.Perm.refl _, rfl, List.Pairwise.nil⟩

theorem Keeps.perm (keeps : Keeps key stamp entries keys) : (entries.map key).Perm keys := by
  obtain ⟨order, perm, same, _⟩ := keeps
  rw [← same]
  exact (perm.map key).symm

theorem Keeps.length_eq (keeps : Keeps key stamp entries keys) : entries.length = keys.length := by
  rw [← keeps.perm.length_eq, List.length_map]

theorem Keeps.mem_iff (keeps : Keeps key stamp entries keys) :
    wanted ∈ keys ↔ ∃ entry ∈ entries, key entry = wanted := by
  rw [← keeps.perm.mem_iff, List.mem_map]

/-- Of entries with distinct keys the wanted one is changed. -/
theorem updateFirst_perm [DecidableEq κ] (update : α → α) (distinct : (entries.map key).Nodup)
    (hit : entry ∈ entries) :
    (update entry :: entries.filter (key · ≠ key entry)).Perm
      (updateFirst (key · == key entry) update entries) := by
  induction entries with
  | nil => cases hit
  | cons first rest ih =>
    obtain ⟨absent, distinct⟩ := List.nodup_cons.mp distinct
    unfold updateFirst
    rcases List.mem_cons.mp hit with rfl | later
    · have apart : ∀ other ∈ rest, key other ≠ key entry := fun other member same =>
        absent (List.mem_map.mpr ⟨other, member, same⟩)
      have kept : rest.filter (key · ≠ key entry) = rest :=
        List.filter_eq_self.mpr fun other member => by simpa using apart other member
      rw [if_pos (by simp), List.filter_cons_of_neg (by simp), kept]
    · have other : key first ≠ key entry := fun same =>
        absent (List.mem_map.mpr ⟨entry, later, same.symm⟩)
      rw [if_neg (by simpa using other), List.filter_cons_of_pos (by simpa using other)]
      exact (List.Perm.swap ..).trans ((ih distinct later).cons first)

/-- An entry that is used becomes the newest. -/
theorem Keeps.touch [DecidableEq κ] (keeps : Keeps key stamp entries keys) (distinct : keys.Nodup)
    (present : wanted ∈ keys) (update : α → α) (named : ∀ entry, key (update entry) = key entry)
    (later : ∀ used, ∀ entry ∈ entries, stamp entry < stamp (update used)) :
    Keeps key stamp (updateFirst (key · == wanted) update entries)
      (wanted :: keys.filter (· ≠ wanted)) := by
  obtain ⟨hit, held, rfl⟩ := keeps.mem_iff.mp present
  have perm := updateFirst_perm update (keeps.perm.nodup_iff.mpr distinct) held
  obtain ⟨order, listed, same, newest⟩ := keeps
  refine ⟨update hit :: order.filter (key · ≠ key hit), ?_, ?_, ?_⟩
  · exact ((listed.filter _).cons _).trans perm
  · rw [List.map_cons, named, ← same, List.filter_map]
    rfl
  · refine List.pairwise_cons.mpr ⟨fun older member => ?_, newest.sublist List.filter_sublist⟩
    exact later hit older (listed.mem_iff.mp (List.mem_of_mem_filter member))

/-- A new entry becomes the newest. -/
theorem Keeps.push (keeps : Keeps key stamp entries keys)
    (later : ∀ older ∈ entries, stamp older < stamp entry) :
    Keeps key stamp (entries ++ [entry]) (key entry :: keys) := by
  obtain ⟨order, listed, same, newest⟩ := keeps
  refine ⟨entry :: order, ?_, ?_, ?_⟩
  · exact (listed.cons entry).trans (List.perm_append_singleton entry entries).symm
  · rw [List.map_cons, same]
  · refine List.pairwise_cons.mpr ⟨fun older member => ?_, newest⟩
    exact later older (listed.mem_iff.mp member)

/-- The entry that makes room is the one with the last key. -/
theorem Keeps.takeOldest (keeps : Keeps key stamp entries (keys ++ [wanted])) :
    ∃ victim others, takeOldest stamp entries = some (victim, others) ∧ key victim = wanted ∧
      Keeps key stamp others keys := by
  obtain ⟨order, listed, same, newest⟩ := keeps
  obtain ⟨front, last, rfl, rfl, lastKey⟩ := List.map_eq_append_iff.mp same
  obtain ⟨oldest, rest, rfl, rfl, none⟩ := List.map_eq_cons_iff.mp lastKey
  have rest := List.map_eq_nil_iff.mp none
  subst rest
  have some : entries ≠ [] := by
    rintro rfl
    exact absurd listed.eq_nil (by simp)
  obtain ⟨victim, others, taken⟩ := takeOldest_some stamp some
  have perm := takeOldest_perm taken
  have least : stamp victim ≤ stamp oldest :=
    takeOldest_le taken (listed.mem_iff.mp (List.mem_append_right _ (List.mem_singleton_self _)))
  have victimOldest : victim = oldest := by
    have member := listed.mem_iff.mpr (perm.mem_iff.mp List.mem_cons_self)
    rcases List.mem_append.mp member with newer | same
    · have more := (List.pairwise_append.mp newest).2.2 _ newer _ (List.mem_singleton_self _)
      omega
    · exact List.mem_singleton.mp same
  subst victimOldest
  refine ⟨victim, others, taken, rfl, front, ?_, rfl, (List.pairwise_append.mp newest).1⟩
  have moved := (List.perm_append_singleton victim front).symm.trans (listed.trans perm.symm)
  exact moved.cons_inv

/-- The loop keeps the entries that were used last. -/
theorem Keeps.takeExcess (limit : Nat) (keeps : Keeps key stamp entries keys)
    (enough : entries.length ≤ turns) :
    Keeps key stamp (takeExcess stamp limit turns entries).2 (keys.take limit) := by
  induction turns generalizing entries keys with
  | zero =>
    have none := List.length_eq_zero_iff.mp (Nat.le_zero.mp enough)
    have length := keeps.length_eq
    subst none
    rw [List.length_eq_zero_iff.mp length.symm, List.take_nil]
    exact keeps_nil key stamp
  | succ turns ih =>
    have length := keeps.length_eq
    unfold StampedCaches.takeExcess
    split
    · rename_i full
      rcases List.eq_nil_or_concat keys with rfl | ⟨front, last, rfl⟩
      · rw [length] at full
        exact absurd full (Nat.not_lt_zero _)
      · rw [List.concat_eq_append] at keeps length ⊢
        obtain ⟨victim, others, taken, _, left⟩ := keeps.takeOldest
        have fewer := left.length_eq
        rw [List.length_append, List.length_singleton] at length
        rw [taken]
        dsimp only
        rw [List.take_append_of_le_length (by omega)]
        exact ih left (by omega)
    · rw [List.take_of_length_le (by omega)]
      exact keeps

end Glide.Library.StampedCaches
