import Mathlib.Data.List.Nodup

/-! Lists with one entry for a key. -/
namespace Glide.Library.KeyedLists

variable [DecidableEq κ] {key : α → κ} {value other : α} {entries : List α}

/-- The first entry with the key of the value makes room for it, or the value becomes the last. -/
def upsert (key : α → κ) (value : α) : List α → List α
  | [] => [value]
  | first :: rest => if key first = key value then value :: rest else first :: upsert key value rest

theorem mem_upsert (key : α → κ) (value : α) (entries : List α) : value ∈ upsert key value entries := by
  induction entries with
  | nil => exact List.mem_singleton_self value
  | cons first rest ih =>
    unfold upsert
    split
    · exact List.mem_cons_self ..
    · exact List.mem_cons_of_mem _ ih

/-- Every entry is the value or was there before. -/
theorem mem_of_upsert (member : other ∈ upsert key value entries) :
    other ∈ entries ∨ other = value := by
  induction entries with
  | nil => exact .inr (List.mem_singleton.mp member)
  | cons first rest ih =>
    unfold upsert at member
    split at member
    · exact (List.mem_cons.mp member).symm.imp_left (List.mem_cons_of_mem _)
    · rcases List.mem_cons.mp member with rfl | later
      · exact .inl List.mem_cons_self
      · exact (ih later).imp_left (List.mem_cons_of_mem _)

theorem map_upsert (key : α → κ) (value : α) (entries : List α) :
    (upsert key value entries).map key =
      if key value ∈ entries.map key then entries.map key else entries.map key ++ [key value] := by
  induction entries with
  | nil => rfl
  | cons first rest ih =>
    unfold upsert
    by_cases same : key first = key value
    · simp [same]
    · have different : ¬key value = key first := Ne.symm same
      rw [if_neg same, List.map_cons, ih]
      by_cases later : key value ∈ rest.map key
      · simp only [later, List.map_cons, List.mem_cons, different, false_or, ↓reduceIte]
      · simp only [later, List.map_cons, List.mem_cons, different, false_or, ↓reduceIte,
          List.cons_append]

/-- No key comes to stand twice. -/
theorem nodup_upsert (distinct : (entries.map key).Nodup) :
    ((upsert key value entries).map key).Nodup := by
  rw [map_upsert]
  split
  · exact distinct
  · rename_i absent
    rw [List.nodup_append]
    refine ⟨distinct, List.nodup_singleton _, ?_⟩
    rintro held member _ single rfl
    rw [List.mem_singleton.mp single] at member
    exact absent member

/-- The entries of other keys stay, in their order. -/
theorem filter_upsert (key : α → κ) (value : α) (entries : List α) :
    (upsert key value entries).filter (key · ≠ key value) = entries.filter (key · ≠ key value) := by
  induction entries with
  | nil => simp [upsert]
  | cons first rest ih =>
    unfold upsert
    by_cases same : key first = key value
    · simp [same]
    · rw [if_neg same]
      simp only [ne_eq, List.filter_cons]
      rw [ih]

/-- The value stands where its key stood first, or at the end. -/
theorem upsert_cases (key : α → κ) (value : α) (entries : List α) :
    (∀ entry ∈ entries, key entry ≠ key value) ∧ upsert key value entries = entries ++ [value] ∨
    ∃ front old back, entries = front ++ old :: back ∧ (∀ entry ∈ front, key entry ≠ key value) ∧
      key old = key value ∧ upsert key value entries = front ++ value :: back := by
  induction entries with
  | nil => exact .inl ⟨fun _ none => absurd none List.not_mem_nil, rfl⟩
  | cons first rest ih =>
    unfold upsert
    by_cases same : key first = key value
    · exact .inr ⟨[], first, rest, rfl, fun _ none => absurd none List.not_mem_nil, same, if_pos same⟩
    · rw [if_neg same]
      have front {before : List α} (apart : ∀ entry ∈ before, key entry ≠ key value) :
          ∀ entry ∈ first :: before, key entry ≠ key value := fun entry member =>
        (List.mem_cons.mp member).elim (fun head => head ▸ same) (apart entry)
      rcases ih with ⟨apart, added⟩ | ⟨before, old, back, rfl, apart, key, replaced⟩
      · exact .inl ⟨front apart, by rw [added]; rfl⟩
      · exact .inr ⟨first :: before, old, back, rfl, front apart, key, by rw [replaced]; rfl⟩

/-- Only where the key of the value stands is looked at. -/
theorem upsert_congr [DecidableEq ν] {other : α → ν}
    (same : ∀ entry ∈ entries, key entry = key value ↔ other entry = other value) :
    upsert key value entries = upsert other value entries := by
  induction entries with
  | nil => rfl
  | cons first rest ih =>
    have here := same first List.mem_cons_self
    unfold upsert
    rw [ih fun entry later => same entry (List.mem_cons_of_mem _ later)]
    by_cases equal : key first = key value
    · rw [if_pos equal, if_pos (here.mp equal)]
    · rw [if_neg equal, if_neg fun matched => equal (here.mpr matched)]

/-- The value is the only entry of its key. -/
theorem eq_of_upsert (distinct : (entries.map key).Nodup) (member : other ∈ upsert key value entries)
    (same : key other = key value) : other = value :=
  List.inj_on_of_nodup_map (nodup_upsert distinct) member (mem_upsert key value entries) same

end Glide.Library.KeyedLists
