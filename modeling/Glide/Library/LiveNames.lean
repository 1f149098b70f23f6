import Mathlib.Data.List.Nodup
import Mathlib.Data.List.Perm.Basic

/-! Names that an outside party gives out and takes back, and a program's record of them. The record
is exact if it holds each name that is alive once, with what it stands for, and no other: then
nothing is used after it was given back, and nothing is forgotten. -/
namespace Glide.Library.LiveNames

/-- The record holds the names that are alive, each once. -/
structure Exact (live : ι → Option κ) (record : List (ι × κ)) : Prop where
  same : ∀ name kind, live name = some kind ↔ (name, kind) ∈ record
  once : (record.map (·.1)).Nodup

variable {live after : ι → Option κ} {record front back : List (ι × κ)} {name : ι} {kind : κ}

theorem Exact.perm (exact : Exact live record) (perm : record.Perm other) : Exact live other where
  same name kind := (exact.same name kind).trans perm.mem_iff
  once := (perm.map (·.1)).nodup_iff.mp exact.once

theorem Exact.alive (exact : Exact live record) (member : (name, kind) ∈ record) :
    live name = some kind := (exact.same name kind).mpr member

theorem Exact.absent (exact : Exact live record) (dead : live name = none) :
    name ∉ record.map (·.1) := by
  intro member
  obtain ⟨entry, recorded, same⟩ := List.mem_map.mp member
  have alive : live entry.1 = some entry.2 := exact.alive recorded
  rw [same, dead] at alive
  cases alive

variable [DecidableEq ι]

/-- A name that was not alive is given out and recorded. -/
theorem Exact.add (exact : Exact live record) (fresh : live name = none)
    (given : ∀ wanted, after wanted = if name = wanted then some kind else live wanted) :
    Exact after ((name, kind) :: record) where
  same wanted other := by
    rw [given, List.mem_cons]
    by_cases own : name = wanted
    · subst own
      rw [if_pos rfl]
      constructor
      · intro named
        exact .inl (congrArg (name, ·) (Option.some.inj named).symm)
      · rintro (new | old)
        · exact congrArg some (congrArg Prod.snd new).symm
        · exact absurd (List.mem_map_of_mem old) (exact.absent fresh)
    · rw [if_neg own, exact.same]
      exact ⟨.inr, Or.rec (fun new => absurd (congrArg Prod.fst new).symm own) id⟩
  once := by
    rw [List.map_cons, List.nodup_cons]
    exact ⟨exact.absent fresh, exact.once⟩

/-- A recorded name is given back and forgotten. -/
theorem Exact.remove (exact : Exact live (front ++ (name, kind) :: back))
    (given : ∀ wanted, after wanted = if name = wanted then none else live wanted) :
    Exact after (front ++ back) := by
  have once := exact.once
  rw [List.map_append, List.map_cons, List.nodup_middle, List.nodup_cons, ← List.map_append] at once
  refine ⟨fun wanted other => ?_, once.2⟩
  rw [given]
  by_cases own : name = wanted
  · subst own
    rw [if_pos rfl]
    exact ⟨nofun, fun member => absurd (List.mem_map_of_mem member) once.1⟩
  · rw [if_neg own, exact.same, List.mem_append, List.mem_append, List.mem_cons]
    refine or_congr_right ⟨?_, .inr⟩
    rintro (same | later)
    · exact absurd (congrArg Prod.fst same).symm own
    · exact later

end Glide.Library.LiveNames
