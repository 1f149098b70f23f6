import Glide.ExclusivePlanes

/-! What a request says of each plane. The planes of different uses are apart, UI and
video aside, so each part of the request speaks of its own plane alone. -/
namespace Glide.AtomicRequests
open Library Attempts DrmCalls KmsPlanes KmsAtomicCompositor CompositorPhases ExclusivePlanes

theorem updateOf_append (first second : List (Nat × Option Scanout)) (plane : Nat) :
    updateOf (first ++ second) plane = (updateOf second plane).or (updateOf first plane) := by
  induction first with
  | nil => exact Option.or_none.symm
  | cons update rest ih =>
    obtain ⟨other, new⟩ := update
    rw [List.cons_append, updateOf, ih, updateOf]
    cases updateOf second plane with
    | some later => rfl
    | none => rfl

theorem updateOf_elsewhere (elsewhere : ∀ update ∈ updates, update.1 ≠ plane) :
    updateOf updates plane = none := by
  cases updated : updateOf updates plane with
  | none => rfl
  | some new => exact absurd rfl (elsewhere _ (updateOf_mem updated))

theorem updateOf_single (plane : Nat) (new : Option Scanout) :
    updateOf [(plane, new)] plane = some new := if_pos rfl

section Parts
variable {setup : Setup} {world : World} {video : VideoPart} {update : Nat × Option Scanout}

theorem primaryUpdate_plane (named : update ∈ primaryUpdate setup world video) :
    update.1 = setup.display.primary.id := by
  unfold primaryUpdate at named
  split at named
  · exact congrArg Prod.fst (List.mem_singleton.1 named)
  · exact absurd named List.not_mem_nil

theorem videoUpdate_plane (named : update ∈ videoUpdate setup world video) :
    update.1 = world.planes.videoPlaneId ∧ world.planes.videoOnPrimary = false := by
  unfold videoUpdate at named
  dsimp only at named
  split at named
  · rename_i beside
    rw [Bool.and_eq_true, Bool.not_eq_true'] at beside
    exact ⟨congrArg Prod.fst (List.mem_singleton.1 named), beside.2⟩
  · split at named
    · rename_i beside
      rw [Bool.and_eq_true, Bool.and_eq_true, Bool.not_eq_true', Bool.not_eq_true'] at beside
      exact ⟨congrArg Prod.fst (List.mem_singleton.1 named), beside.2⟩
    · exact absurd named List.not_mem_nil

theorem flowUpdate_plane (named : update ∈ flowUpdate setup world flowFramebuffer) :
    update.1 = world.planes.flowPlaneId ∧ world.planes.flowPlaneId ≠ 0 := by
  unfold flowUpdate at named
  split at named
  · rename_i shown
    rw [Bool.and_eq_true, Bool.and_eq_true, bne_iff_ne, bne_iff_ne] at shown
    exact ⟨congrArg Prod.fst (List.mem_singleton.1 named), shown.1.2⟩
  · exact absurd named List.not_mem_nil

theorem uiUpdate_plane (named : update ∈ uiUpdate world) :
    update.1 = world.planes.uiPlaneId ∧ world.planes.uiPlaneId ≠ 0 := by
  unfold uiUpdate at named
  dsimp only at named
  split at named
  · rename_i shown
    rw [Bool.and_eq_true, Bool.and_eq_true, bne_iff_ne, bne_iff_ne] at shown
    exact ⟨congrArg Prod.fst (List.mem_singleton.1 named), shown.1.2⟩
  · exact absurd named List.not_mem_nil

/-- The parts of the request in the order in which they count. -/
theorem updateOf_request (plane : Nat) :
    updateOf (atomicRequest setup world video flowFramebuffer).updates plane =
      (updateOf (uiUpdate world) plane).or ((updateOf (flowUpdate setup world flowFramebuffer) plane).or
        ((updateOf (videoUpdate setup world video) plane).or
          (updateOf (primaryUpdate setup world video) plane))) := by
  rw [atomicRequest, updateOf_append, updateOf_append, updateOf_append]

section Apart
variable (apart : Apart setup.display world.planes)
include apart

theorem videoUpdate_not_primary : updateOf (videoUpdate setup world video) setup.display.primary.id = none :=
  updateOf_elsewhere fun _ named same =>
    apart.video (videoUpdate_plane named).2 ((videoUpdate_plane named).1.symm.trans same)

theorem primary_updated :
    updateOf (atomicRequest setup world video flowFramebuffer).updates setup.display.primary.id =
      updateOf (primaryUpdate setup world video) setup.display.primary.id := by
  have ui : updateOf (uiUpdate world) setup.display.primary.id = none :=
    updateOf_elsewhere fun _ named same => apart.ui ((uiUpdate_plane named).1.symm.trans same)
  have flow : updateOf (flowUpdate setup world flowFramebuffer) setup.display.primary.id = none :=
    updateOf_elsewhere fun _ named same => apart.flow ((flowUpdate_plane named).1.symm.trans same)
  rw [updateOf_request, ui, flow, videoUpdate_not_primary apart]
  rfl

theorem flow_updated (used : world.planes.flowPlaneId ≠ 0) :
    updateOf (atomicRequest setup world video flowFramebuffer).updates world.planes.flowPlaneId =
      updateOf (flowUpdate setup world flowFramebuffer) world.planes.flowPlaneId := by
  have ui : updateOf (uiUpdate world) world.planes.flowPlaneId = none :=
    updateOf_elsewhere fun _ named same =>
      apart.flowUi used (same.symm.trans (uiUpdate_plane named).1)
  have shown : updateOf (videoUpdate setup world video) world.planes.flowPlaneId = none :=
    updateOf_elsewhere fun _ named same =>
      apart.flowVideo used (same.symm.trans (videoUpdate_plane named).1)
  have primary : updateOf (primaryUpdate setup world video) world.planes.flowPlaneId = none :=
    updateOf_elsewhere fun _ named same => apart.flow (same.symm.trans (primaryUpdate_plane named))
  rw [updateOf_request, ui, shown, primary, Option.none_or, Option.none_or, Option.or_none]

end Apart

end Parts

end Glide.AtomicRequests
