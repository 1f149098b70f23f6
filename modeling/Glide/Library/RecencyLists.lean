import Mathlib.Data.List.Dedup
import Mathlib.Data.List.Perm.Basic
import Mathlib.Data.List.Nodup

/-! Caches that keep what was used last. A bounded cache is right if it holds the most recent ones
of the distinct keys that were asked for; an entry's stamp tells when that was, and the entry with
the least stamp makes room. -/
namespace Glide.Library.RecencyLists

/-! ### Recent keys -/

section Keys

variable [DecidableEq κ] {key : κ} {requests : List κ}

/-- The last distinct keys of the requests, the last one in front. -/
def recent (limit : Nat) (requests : List κ) : List κ := requests.dedup.reverse.take limit

theorem nodup_recent (limit : Nat) (requests : List κ) : (recent limit requests).Nodup :=
  (List.nodup_reverse.mpr (List.nodup_dedup requests)).sublist (List.take_sublist _ _)

theorem length_recent_le (limit : Nat) (requests : List κ) :
    (recent limit requests).length ≤ limit := by
  unfold recent
  rw [List.length_take]
  exact Nat.min_le_left _ _

theorem dedup_concat (requests : List κ) (key : κ) :
    (requests ++ [key]).dedup = requests.dedup.filter (· ≠ key) ++ [key] := by
  induction requests with
  | nil => rfl
  | cons first rest ih =>
    by_cases later : first ∈ rest
    · rw [List.cons_append, List.dedup_cons_of_mem (List.mem_append_left _ later),
        List.dedup_cons_of_mem later, ih]
    · rw [List.cons_append, List.dedup_cons_of_notMem later]
      by_cases same : first = key
      · subst same
        rw [List.dedup_cons_of_mem (List.mem_append_right _ (List.mem_singleton_self _)), ih]
        simp
      · rw [List.dedup_cons_of_notMem (by simp [later, same]), ih]
        simp [same]

/-- What is not within the limit now is not within it after a further request. -/
theorem take_filter_take (keys : List κ) (distinct : keys.Nodup) (limit : Nat) :
    (key :: keys.filter (· ≠ key)).take limit =
      (key :: (keys.take limit).filter (· ≠ key)).take limit := by
  cases limit with
  | zero => rfl
  | succ limit =>
    rw [List.take_succ_cons, List.take_succ_cons]
    congr 1
    induction keys generalizing limit with
    | nil => simp
    | cons first rest ih =>
      obtain ⟨absent, others⟩ := List.nodup_cons.mp distinct
      by_cases same : first = key
      · subst same
        have kept : ∀ list : List κ, (∀ other ∈ list, other ∈ rest) →
            list.filter (· ≠ first) = list := by
          intro list part
          apply List.filter_eq_self.mpr
          intro other member
          simpa using fun equal : other = first => absent (equal ▸ part other member)
        rw [List.take_succ_cons, List.filter_cons_of_neg (by simp), List.filter_cons_of_neg (by simp),
          kept rest fun _ member => member, kept _ fun _ => List.mem_of_mem_take, List.take_take,
          Nat.min_self]
      · rw [List.take_succ_cons, List.filter_cons_of_pos (by simpa using same),
          List.filter_cons_of_pos (by simpa using same)]
        cases limit with
        | zero => rfl
        | succ limit => rw [List.take_succ_cons, List.take_succ_cons, ih others]

/-- A request puts its key in front of the others. -/
theorem recent_concat (limit : Nat) (requests : List κ) (key : κ) :
    recent limit (requests ++ [key]) =
      (key :: (recent limit requests).filter (· ≠ key)).take limit := by
  unfold recent
  rw [dedup_concat, List.reverse_append, List.reverse_singleton, List.singleton_append,
    ← List.filter_reverse]
  exact take_filter_take _ (List.nodup_reverse.mpr (List.nodup_dedup requests)) limit

end Keys

/-! ### Stamps -/

variable {stamp : α → Nat} {entries order : List α} {entry first : α}

/-- The first of the entries with the least stamp. -/
def leastFrom (stamp : α → Nat) (first : α) (entries : List α) : α :=
  entries.foldl (fun victim entry => if stamp entry < stamp victim then entry else victim) first

theorem leastFrom_mem (stamp : α → Nat) (first : α) (entries : List α) :
    leastFrom stamp first entries ∈ first :: entries := by
  induction entries generalizing first with
  | nil => exact List.mem_singleton_self first
  | cons entry rest ih =>
    have member := ih (if stamp entry < stamp first then entry else first)
    show leastFrom stamp (if stamp entry < stamp first then entry else first) rest ∈ _
    split at member
    · rename_i less
      rw [if_pos less]
      exact List.mem_cons_of_mem _ member
    · rename_i more
      rw [if_neg more]
      rcases List.mem_cons.mp member with same | later
      · rw [same]
        exact List.mem_cons_self ..
      · exact List.mem_cons_of_mem _ (List.mem_cons_of_mem _ later)

theorem leastFrom_le (member : entry ∈ first :: entries) :
    stamp (leastFrom stamp first entries) ≤ stamp entry := by
  induction entries generalizing first entry with
  | nil => exact Nat.le_of_eq (congrArg stamp (List.mem_singleton.mp member).symm)
  | cons next rest ih =>
    show stamp (leastFrom stamp (if stamp next < stamp first then next else first) rest) ≤ _
    by_cases less : stamp next < stamp first
    · rw [if_pos less]
      rcases List.mem_cons.mp member with rfl | later
      · exact Nat.le_trans (ih (List.mem_cons_self ..)) (Nat.le_of_lt less)
      · exact ih later
    · rw [if_neg less]
      rcases List.mem_cons.mp member with rfl | later
      · exact ih (List.mem_cons_self ..)
      · rcases List.mem_cons.mp later with rfl | behind
        · exact Nat.le_trans (ih (List.mem_cons_self ..)) (Nat.le_of_not_lt less)
        · exact ih (List.mem_cons_of_mem _ behind)

/-- Of entries in the order of their stamps, the last one has the least. -/
theorem leastFrom_last (perm : (order ++ [entry]).Perm (first :: entries))
    (ordered : (order ++ [entry]).Pairwise fun newer older => stamp older < stamp newer) :
    leastFrom stamp first entries = entry := by
  have member := perm.mem_iff.mpr (leastFrom_mem stamp first entries)
  have least : stamp (leastFrom stamp first entries) ≤ stamp entry :=
    leastFrom_le (perm.mem_iff.mp (List.mem_append_right _ (List.mem_singleton_self _)))
  rcases List.mem_append.mp member with newer | same
  · have more := (List.pairwise_append.mp ordered).2.2 _ newer _ (List.mem_singleton_self _)
    omega
  · exact List.mem_singleton.mp same

end Glide.Library.RecencyLists
