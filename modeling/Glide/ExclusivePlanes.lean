import Mathlib.Data.List.Nodup
import Glide.CompositorPhases
import Glide.Library.Runs

/-! Which planes the compositor holds at once. Each choice leaves out some of the
planes in use, so the planes stay apart as long as no choice of a video plane
stops at the UI plane, the one it does not leave out. -/
namespace Glide.ExclusivePlanes
open Library Attempts Runs DrmCalls KmsPlanes KmsAtomicCompositor CompositorPhases

/-- A plane of the device with this id can be used on the selected CRTC and
supports the format. -/
def Suited (display : Display) (id format : Nat) : Prop :=
  ∃ plane ∈ display.planes, plane.id = id ∧ usableOnCrtc display.crtcIndex plane = true ∧
    planeSupportsFormat plane format = true

def primaryFormat (display : Display) : Nat :=
  if display.primaryFlowReadback then formatArgb8888 else formatXrgb8888

/-- The planes in use. Video on the primary plane has no plane of its own. -/
def planesInUse (display : Display) (planes : PlaneAssignment) : List Nat :=
  [if planes.videoOnPrimary then 0 else planes.videoPlaneId, planes.flowPlaneId,
    planes.uiPlaneId, display.primary.id].filter (· ≠ 0)

/-- What the choices guarantee by themselves. -/
structure Apart (display : Display) (planes : PlaneAssignment) : Prop where
  flow : planes.flowPlaneId ≠ display.primary.id
  ui : planes.uiPlaneId ≠ display.primary.id
  video : planes.videoOnPrimary = false → planes.videoPlaneId ≠ display.primary.id
  onPrimary : planes.videoOnPrimary = true → planes.videoPlaneId = display.primary.id
  flowVideo : planes.flowPlaneId ≠ 0 → planes.flowPlaneId ≠ planes.videoPlaneId
  flowUi : planes.flowPlaneId ≠ 0 → planes.flowPlaneId ≠ planes.uiPlaneId

def UiApart (planes : PlaneAssignment) : Prop :=
  planes.uiPlaneId ≠ 0 → planes.uiPlaneId ≠ planes.videoPlaneId

structure AllSuited (display : Display) (planes : PlaneAssignment) : Prop where
  video : planes.videoPlaneId ≠ 0 → Suited display planes.videoPlaneId planes.videoPlaneFormat
  flow : planes.flowPlaneId ≠ 0 → Suited display planes.flowPlaneId formatArgb8888
  ui : planes.uiPlaneId ≠ 0 → Suited display planes.uiPlaneId formatArgb8888

theorem planesInUse_nodup (apart : Apart display planes) (uiApart : UiApart planes) :
    (planesInUse display planes).Nodup := by
  have flow := apart.flow
  have ui := apart.ui
  have flowVideo := apart.flowVideo
  have flowUi := apart.flowUi
  unfold UiApart at uiApart
  unfold planesInUse
  rw [List.Nodup, List.pairwise_filter]
  cases onPrimary : planes.videoOnPrimary with
  | true => simp [flow, ui]; grind
  | false =>
    have video := apart.video onPrimary
    simp [flow, ui, video]
    grind

section Reported
variable {display : Display} {report : PlaneReport} {planeId : Nat}

/-- What is read of a plane is a plane of the device, its properties apart. -/
theorem getPlane_some (got : getPlane display report planeId = some plane) :
    ∃ real ∈ display.planes, real.id = planeId ∧ plane.id = planeId ∧ plane.formats = real.formats ∧
      plane.possibleCrtcs = real.possibleCrtcs := by
  unfold getPlane at got
  split at got
  · obtain ⟨real, found, seen⟩ := Option.map_eq_some_iff.1 got
    have named : real.id = planeId := of_decide_eq_true (List.find?_some found :)
    refine ⟨real, List.mem_of_find?_eq_some found, named, ?_⟩
    split at seen
    · subst seen
      exact ⟨named, rfl, rfl⟩
    · subst seen
      exact ⟨named, rfl, rfl⟩
  · cases got

theorem suited_of_getPlane (got : getPlane display report planeId = some plane)
    (usable : usableOnCrtc display.crtcIndex plane = true)
    (supports : planeSupportsFormat plane format = true) : Suited display plane.id format := by
  obtain ⟨real, known, named, same, formats, crtcs⟩ := getPlane_some got
  refine ⟨real, known, named.trans same.symm, ?_, ?_⟩
  · rwa [usableOnCrtc, ← crtcs]
  · rwa [planeSupportsFormat, ← formats]

theorem getPlane_of_listed (listed : plane ∈ listedPlanes display report) :
    getPlane display report plane.id = some plane := by
  obtain ⟨real, known, got⟩ := List.mem_filterMap.1 listed
  obtain ⟨_, _, _, same, _⟩ := getPlane_some got
  rwa [same]

/-- The plane taken was read, and it was accepted. -/
theorem preferredOr_some {search : List Plane → Option Plane}
    (sound : ∀ planes plane, search planes = some plane → plane ∈ planes ∧ accepted plane = true)
    (found : preferredOr display report preferred accepted search = some plane) :
    getPlane display report plane.id = some plane ∧ accepted plane = true := by
  unfold preferredOr at found
  split at found
  · obtain ⟨got, accepts⟩ := Option.filter_eq_some_iff.1 found
    obtain ⟨_, _, _, same, _⟩ := getPlane_some got
    exact ⟨by rwa [same], accepts⟩
  · obtain ⟨listed, accepts⟩ := sound _ _ found
    exact ⟨getPlane_of_listed listed, accepts⟩

theorem find_sound {accepted : Plane → Bool} (planes : List Plane) (plane : Plane)
    (found : planes.find? (fun plane => !planeIsVop2SecondaryArea plane && accepted plane) =
      some plane) : plane ∈ planes ∧ accepted plane = true := by
  have accepts := List.find?_some found
  rw [Bool.and_eq_true] at accepts
  exact ⟨List.mem_of_find?_eq_some found, accepts.2⟩

theorem searchFlowPlane_sound (planes : List Plane) :
    searchFlowPlane accepted first planes = some plane →
      first = some plane ∨ plane ∈ planes ∧ accepted plane = true := by
  induction planes generalizing first with
  | nil => exact Or.inl
  | cons head rest ih =>
    intro found
    unfold searchFlowPlane at found
    split at found
    · rename_i accepts
      rw [Bool.and_eq_true] at accepts
      split at found
      · rcases ih found with same | later
        · cases same
          exact .inr ⟨List.mem_cons_self, accepts.2⟩
        · exact .inr ⟨List.mem_cons_of_mem _ later.1, later.2⟩
      · cases found
        exact .inr ⟨List.mem_cons_self, accepts.2⟩
    · rcases ih found with same | later
      · exact .inl same
      · exact .inr ⟨List.mem_cons_of_mem _ later.1, later.2⟩

end Reported

/-- The choice of a video plane stops at this plane: it can show the video, and it
is the plane asked for or, if none is, no plane before it in the list can. -/
def StopsAt (display : Display) (report : PlaneReport) (planes : PlaneAssignment)
    (format modifier : Nat) (plane : Plane) : Prop :=
  tryVideoPlane display planes format modifier plane = true ∧
    if 0 ≤ display.preferredVideoPlaneId then
      getPlane display report display.preferredVideoPlaneId.toNat = some plane
    else
      planeIsVop2SecondaryArea plane = false ∧
        ∃ before after, listedPlanes display report = before ++ plane :: after ∧
          ∀ other ∈ before, planeIsVop2SecondaryArea other = true ∨
            tryVideoPlane display planes format modifier other = false

section Choices
variable {display : Display} {report : PlaneReport} {planes after : PlaneAssignment}
  {format modifier : Nat}

theorem primary_suited (display : Display) : Suited display display.primary.id (primaryFormat display) := by
  have accepts := List.find?_some display.chosen
  rw [Bool.and_eq_true, Bool.and_eq_true] at accepts
  exact ⟨_, List.mem_of_find?_eq_some display.chosen, rfl, accepts.1.1, accepts.1.2⟩

theorem unique_plane {first second : Plane} (left : first ∈ display.planes)
    (right : second ∈ display.planes) (same : first.id = second.id) : first = second :=
  List.inj_on_of_nodup_map display.distinct left right same

theorem suited_primary (supports : supportsOnPrimary display report format modifier = true) :
    Suited display display.primary.id format := by
  unfold supportsOnPrimary at supports
  cases got : getPlane display report display.primary.id with
  | none =>
    rw [got] at supports
    cases supports
  | some plane =>
    rw [got, Bool.and_eq_true] at supports
    obtain ⟨real, known, named, same, formats, crtcs⟩ := getPlane_some got
    obtain ⟨primary, listed, primaryNamed, usable, _⟩ := primary_suited display
    have unique := unique_plane known listed (named.trans primaryNamed.symm)
    refine ⟨real, known, named, unique ▸ usable, ?_⟩
    rw [planeSupportsFormat, ← formats]
    exact supports.1

theorem preferredOr_stops
    (found : preferredOr display report display.preferredVideoPlaneId
      (tryVideoPlane display planes format modifier) (List.find? fun plane =>
        !planeIsVop2SecondaryArea plane && tryVideoPlane display planes format modifier plane) =
      some plane) : StopsAt display report planes format modifier plane := by
  have accepts := (preferredOr_some find_sound found).2
  refine ⟨accepts, ?_⟩
  unfold preferredOr at found
  split
  · rename_i preferred
    rw [if_pos preferred] at found
    exact (Option.filter_eq_some_iff.1 found).1
  · rename_i free
    rw [if_neg free] at found
    obtain ⟨stops, before, rest, listed, none⟩ := List.find?_eq_some_iff_append.1 found
    rw [Bool.and_eq_true, Bool.not_eq_true'] at stops
    refine ⟨stops.1, before, rest, listed, fun other earlier => ?_⟩
    have refused := none other earlier
    cases secondary : planeIsVop2SecondaryArea other with
    | true => exact .inl rfl
    | false =>
      rw [secondary, Bool.not_false, Bool.true_and, Bool.not_eq_true'] at refused
      exact .inr refused

/-- The video goes to the primary plane or to the plane the choice stops at. -/
theorem chooseVideoPlane_cases
    (chosen : chooseVideoPlane display report format modifier planes = some after) :
    after = withVideoOnPrimary display planes format modifier ∧
        Suited display display.primary.id format ∨
      ∃ plane, after = withVideoPlane planes plane.id format modifier ∧
        getPlane display report plane.id = some plane ∧
        StopsAt display report planes format modifier plane := by
  unfold chooseVideoPlane at chosen
  split at chosen
  · cases chosen
  · split at chosen
    · split at chosen
      · rename_i supports
        cases chosen
        exact .inl ⟨rfl, suited_primary supports⟩
      · cases chosen
    · dsimp only at chosen
      split at chosen
      · rename_i plane found
        cases chosen
        exact .inr ⟨plane, rfl, (preferredOr_some find_sound found).1, preferredOr_stops found⟩
      · split at chosen
        · cases chosen
        · split at chosen
          · rename_i supports
            cases chosen
            exact .inl ⟨rfl, suited_primary supports⟩
          · cases chosen

theorem chooseFlowPlane_cases (chosen : chooseFlowPlane display report planes = some after) :
    ∃ plane, after = { planes with flowPlaneId := plane.id } ∧
      getPlane display report plane.id = some plane ∧ tryFlowPlane display planes plane = true := by
  unfold chooseFlowPlane at chosen
  split at chosen
  · cases chosen
  · obtain ⟨plane, found, same⟩ := Option.map_eq_some_iff.1 chosen
    have sound := preferredOr_some (fun planes plane found => by
      rcases searchFlowPlane_sound planes found with none | listed
      · cases none
      · exact listed) found
    exact ⟨plane, same.symm, sound.1, sound.2⟩

theorem chooseUiPlane_cases (chosen : chooseUiPlane display report planes = some after) :
    ∃ plane, after = { planes with uiPlaneId := plane.id } ∧
      getPlane display report plane.id = some plane ∧ tryUiPlane display planes plane = true := by
  unfold chooseUiPlane at chosen
  split at chosen
  · cases chosen
  · obtain ⟨plane, found, same⟩ := Option.map_eq_some_iff.1 chosen
    have sound := preferredOr_some find_sound found
    exact ⟨plane, same.symm, sound.1, sound.2⟩

theorem tryVideoPlane_facts {plane : Plane}
    (accepts : tryVideoPlane display planes format modifier plane = true) :
    usableOnCrtc display.crtcIndex plane = true ∧ plane.id ≠ display.primary.id ∧
      plane.id ≠ planes.flowPlaneId ∧ planeSupportsFormat plane format = true := by
  simp only [tryVideoPlane, Bool.and_eq_true, bne_iff_ne] at accepts
  obtain ⟨⟨⟨usable, ⟨primary, flow⟩, _⟩, supports⟩, _⟩ := accepts
  exact ⟨usable, primary, flow, supports⟩

theorem tryFlowPlane_facts {plane : Plane} (accepts : tryFlowPlane display planes plane = true) :
    usableOnCrtc display.crtcIndex plane = true ∧ plane.id ≠ display.primary.id ∧
      plane.id ≠ planes.videoPlaneId ∧ plane.id ≠ planes.uiPlaneId ∧
      planeSupportsFormat plane formatArgb8888 = true := by
  simp only [tryFlowPlane, Bool.and_eq_true, bne_iff_ne] at accepts
  obtain ⟨⟨⟨usable, ⟨⟨primary, video⟩, ui⟩, _⟩, supports⟩, _⟩ := accepts
  exact ⟨usable, primary, video, ui, supports⟩

theorem tryUiPlane_facts {plane : Plane} (accepts : tryUiPlane display planes plane = true) :
    usableOnCrtc display.crtcIndex plane = true ∧ plane.id ≠ display.primary.id ∧
      plane.id ≠ planes.videoPlaneId ∧ plane.id ≠ planes.flowPlaneId ∧
      planeSupportsFormat plane formatArgb8888 = true := by
  simp only [tryUiPlane, Bool.and_eq_true, bne_iff_ne] at accepts
  obtain ⟨⟨⟨⟨⟨usable, ⟨primary, video⟩, flow⟩, supports⟩, _⟩, _⟩, _⟩ := accepts
  exact ⟨usable, primary, video, flow, supports⟩

/-- What every choice keeps: the planes are apart, UI and video aside, and suited. -/
structure Assigned (display : Display) (planes : PlaneAssignment) : Prop where
  apart : Apart display planes
  suited : AllSuited display planes

theorem withoutVideo_assigned (assigned : Assigned display planes) :
    Assigned display (withoutVideo planes) where
  apart := {
    flow := assigned.apart.flow
    ui := assigned.apart.ui
    video := fun _ same => display.primary.known same.symm
    onPrimary := fun onPrimary => nomatch onPrimary
    flowVideo := fun flow same => flow same
    flowUi := assigned.apart.flowUi }
  suited := {
    video := fun video => absurd rfl video
    flow := assigned.suited.flow
    ui := assigned.suited.ui }

theorem chooseVideoPlane_assigned (assigned : Assigned display planes)
    (cleared : planes.videoOnPrimary = false)
    (chosen : chooseVideoPlane display report format modifier planes = some after) :
    Assigned display after := by
  rcases chooseVideoPlane_cases chosen with ⟨same, suited⟩ | ⟨plane, same, got, stops⟩
  · subst same
    exact {
      apart := {
        flow := assigned.apart.flow
        ui := assigned.apart.ui
        video := fun elsewhere => nomatch elsewhere
        onPrimary := fun _ => rfl
        flowVideo := fun _ => assigned.apart.flow
        flowUi := assigned.apart.flowUi }
      suited := { video := fun _ => suited, flow := assigned.suited.flow, ui := assigned.suited.ui } }
  · obtain ⟨usable, primary, flow, supports⟩ := tryVideoPlane_facts stops.1
    subst same
    exact {
      apart := {
        flow := assigned.apart.flow
        ui := assigned.apart.ui
        video := fun _ => primary
        onPrimary := fun onPrimary => absurd (cleared.symm.trans onPrimary) Bool.false_ne_true
        flowVideo := fun _ => flow.symm
        flowUi := assigned.apart.flowUi }
      suited := {
        video := fun _ => suited_of_getPlane got usable supports
        flow := assigned.suited.flow
        ui := assigned.suited.ui } }

theorem chooseFlowPlane_assigned (assigned : Assigned display planes)
    (chosen : chooseFlowPlane display report planes = some after) : Assigned display after := by
  obtain ⟨plane, same, got, accepts⟩ := chooseFlowPlane_cases chosen
  obtain ⟨usable, primary, video, ui, supports⟩ := tryFlowPlane_facts accepts
  subst same
  exact {
    apart := {
      flow := primary
      ui := assigned.apart.ui
      video := assigned.apart.video
      onPrimary := assigned.apart.onPrimary
      flowVideo := fun _ => video
      flowUi := fun _ => ui }
    suited := {
      video := assigned.suited.video
      flow := fun _ => suited_of_getPlane got usable supports
      ui := assigned.suited.ui } }

theorem chooseUiPlane_assigned (assigned : Assigned display planes)
    (chosen : chooseUiPlane display report planes = some after) :
    Assigned display after ∧ UiApart after := by
  obtain ⟨plane, same, got, accepts⟩ := chooseUiPlane_cases chosen
  obtain ⟨usable, primary, video, flow, supports⟩ := tryUiPlane_facts accepts
  subst same
  refine ⟨?_, fun _ => video⟩
  exact {
    apart := {
      flow := assigned.apart.flow
      ui := primary
      video := assigned.apart.video
      onPrimary := assigned.apart.onPrimary
      flowVideo := assigned.apart.flowVideo
      flowUi := fun _ => flow.symm }
    suited := {
      video := assigned.suited.video
      flow := assigned.suited.flow
      ui := fun _ => suited_of_getPlane got usable supports } }

end Choices

section Calls
variable (display : Display) (report : PlaneReport) (format modifier : Nat) (world : World)

theorem choose_planes (choice : PlaneAssignment → Option PlaneAssignment) :
    Ends (choose choice) world (fun _ after => choice world.planes = some after.planes)
      (fun after => choice world.planes = none ∧ after = world) := by
  unfold Ends choose
  cases found : choice world.planes with
  | none => exact ⟨rfl, rfl⟩
  | some planes => rfl

/-- The plane stays, or a new one is chosen after the old one is given up. -/
theorem ensureVideoPlane_planes : Ends (ensureVideoPlane display report format modifier) world
    (fun _ after =>
      videoPlaneDiffers world.planes format modifier = false ∧ after = world ∨
      videoPlaneDiffers world.planes format modifier = true ∧
        chooseVideoPlane display report format modifier (withoutVideo world.planes) =
          some after.planes)
    (fun after => after.planes = withoutVideo world.planes) := by
  refine ends_read_bind ?_
  split
  · rename_i differs
    have kept : (destroyVideoFramebufferCache (withoutVideoPlane world)).planes =
        withoutVideo world.planes :=
      congrArg Prod.fst (destroyVideoFramebufferCache_beside (withoutVideoPlane world))
    refine ends_change_bind (ends_change_bind ?_)
    refine (choose_planes _ _).imp ?_ ?_
    · intro _ after chosen
      rw [kept] at chosen
      exact .inr ⟨differs, chosen⟩
    · rintro after ⟨_, same⟩
      rw [same]
      exact kept
  · rename_i same
    exact ends_pure (.inl ⟨Bool.eq_false_iff.2 same, rfl⟩)

theorem ensureFlowPlane_planes : Ends (ensureFlowPlane display report) world
    (fun _ after =>
      (display.primaryFlowReadback = true ∨ world.planes.flowPlaneId ≠ 0) ∧ after = world ∨
      display.primaryFlowReadback = false ∧ world.planes.flowPlaneId = 0 ∧
        chooseFlowPlane display report world.planes = some after.planes)
    (fun after => after = world) := by
  refine ends_read_bind ?_
  split
  · rename_i missing
    rw [Bool.and_eq_true, Bool.not_eq_true', beq_iff_eq] at missing
    refine (choose_planes _ _).imp ?_ ?_
    · exact fun _ after chosen => .inr ⟨missing.1, missing.2, chosen⟩
    · exact fun after failed => failed.2
  · rename_i present
    refine ends_pure (.inl ⟨?_, rfl⟩)
    rw [Bool.and_eq_true, beq_iff_eq, not_and_or, Bool.not_eq_true', Bool.not_eq_false] at present
    exact present

theorem ensureUiPlane_planes : Ends (ensureUiPlane display report) world
    (fun _ after =>
      (hasUiSurface world.planes = true → world.planes.uiPlaneId ≠ 0) ∧ after = world ∨
      world.planes.uiPlaneId = 0 ∧
        (after.planes = { world.planes with uiSurface := (0, 0) } ∨
          chooseUiPlane display report world.planes = some after.planes))
    (fun _ => False) := by
  refine ends_change ?_
  dsimp only
  split
  · rename_i missing
    cases chosen : chooseUiPlane display report world.planes with
    | none => exact .inr ⟨missing.2.2, .inl rfl⟩
    | some planes => exact .inr ⟨missing.2.2, .inr rfl⟩
  · rename_i present
    refine .inl ⟨fun surface none => present ?_, rfl⟩
    rw [hasUiSurface, Bool.and_eq_true, bne_iff_ne, bne_iff_ne] at surface
    exact ⟨surface.1, surface.2, none⟩

end Calls

/-- The format of the frame, if the call looks for a plane for it. -/
def formatOf : Picture → Option (Nat × Nat)
  | .dmabuf frame => some (frame.drmFormat, frame.modifiers.getD 0 0)
  | .cpu frame => if validCpuFrame frame = true then some (formatXrgb8888, modifierLinear) else none
  | .overlay => none

/-- A property of the assignment that the choices of Flow and UI planes keep. -/
structure KeptByOverlays (display : Display) (kept : PlaneAssignment → Prop) : Prop where
  flow : ∀ report planes after, kept planes → display.primaryFlowReadback = false →
    planes.flowPlaneId = 0 → chooseFlowPlane display report planes = some after → kept after
  ui : ∀ report planes after, kept planes → planes.uiPlaneId = 0 →
    chooseUiPlane display report planes = some after → kept after
  noUi : ∀ planes, kept planes → kept { planes with uiSurface := (0, 0) }

/-- The property also holds with the video plane given up and with the new one. -/
def KeptByVideo (display : Display) (picture : Picture) (report : PlaneReport)
    (kept : PlaneAssignment → Prop) (planes : PlaneAssignment) : Prop :=
  ∀ format modifier, formatOf picture = some (format, modifier) →
    videoPlaneDiffers planes format modifier = true →
      kept (withoutVideo planes) ∧ ∀ after, chooseVideoPlane display report format modifier
        (withoutVideo planes) = some after → kept after

section Kept
variable {display : Display} {setup : Setup} {kept : PlaneAssignment → Prop} {world : World}

theorem ensureVideoPlane_keeps (holds : kept world.planes)
    (new : videoPlaneDiffers world.planes format modifier = true →
      kept (withoutVideo world.planes) ∧ ∀ after, chooseVideoPlane display report format modifier
        (withoutVideo world.planes) = some after → kept after) :
    Ends (ensureVideoPlane display report format modifier) world
      (fun _ after => kept after.planes) (fun after => kept after.planes) := by
  cases differs : videoPlaneDiffers world.planes format modifier with
  | true =>
    refine (ensureVideoPlane_planes display report format modifier world).imp ?_ ?_
    · rintro _ after (⟨same, _⟩ | ⟨_, chosen⟩)
      · exact absurd (same.symm.trans differs) Bool.false_ne_true
      · exact (new differs).2 _ chosen
    · intro after cleared
      rw [cleared]
      exact (new differs).1
  | false =>
    refine ends_read_bind ?_
    split
    · rename_i found
      exact absurd (differs.symm.trans found) Bool.false_ne_true
    · exact ends_pure holds

theorem ensureFlowPlane_keeps (overlays : KeptByOverlays display kept) (holds : kept world.planes) :
    Ends (ensureFlowPlane display report) world
      (fun _ after => kept after.planes) (fun after => kept after.planes) := by
  refine (ensureFlowPlane_planes display report world).imp ?_ ?_
  · rintro _ after (⟨_, same⟩ | ⟨beside, missing, chosen⟩)
    · exact same ▸ holds
    · exact overlays.flow _ _ _ holds beside missing chosen
  · exact fun after same => same ▸ holds

theorem ensureUiPlane_keeps (overlays : KeptByOverlays display kept) (holds : kept world.planes) :
    Ends (ensureUiPlane display report) world
      (fun _ after => kept after.planes) (fun after => kept after.planes) := by
  refine (ensureUiPlane_planes display report world).imp ?_ fun _ never => never.elim
  rintro _ after (⟨_, same⟩ | ⟨missing, given | chosen⟩)
  · exact same ▸ holds
  · exact given ▸ overlays.noUi _ holds
  · exact overlays.ui _ _ _ holds missing chosen

/-- What a call leaves of the assignment after its first phase stays. -/
theorem leaves_keeps {call : Attempt World α} (leaves : Leaves call World.planes)
    (holds : kept world.planes) :
    Ends call world (fun _ after => kept after.planes) (fun after => kept after.planes) :=
  (leaves.ends world).imp (fun _ _ same => same ▸ holds) fun _ same => same ▸ holds

theorem prepare_keeps (overlays : KeptByOverlays setup.display kept) (holds : kept world.planes)
    (video : KeptByVideo setup.display picture reply.videoPlanes kept world.planes) :
    Ends (prepare setup picture reply) world
      (fun _ after => kept after.planes) (fun after => kept after.planes) := by
  cases picture with
  | dmabuf frame =>
    refine (ensureVideoPlane_keeps holds (video _ _ rfl)).bind fun _ _ holds => ?_
    refine (ensureFlowPlane_keeps overlays holds).bind fun _ _ holds => ?_
    refine (ensureUiPlane_keeps overlays holds).bind fun _ _ holds => ?_
    exact (leaves_keeps (Leaves.through (findOrImport_beside _ _) Prod.fst) holds).bind
      fun _ _ holds => ends_pure holds
  | cpu frame =>
    refine ends_check_bind (fun valid => ?_) fun _ => holds
    refine (ensureVideoPlane_keeps holds (video _ _ (if_pos valid))).bind fun _ _ holds => ?_
    refine (leaves_keeps (Leaves.through (ensureCpuVideoBuffer_beside _ _ _) Prod.fst) holds).bind
      fun _ _ holds => ?_
    refine (ensureFlowPlane_keeps overlays holds).bind fun _ _ holds => ?_
    refine (ensureUiPlane_keeps overlays holds).bind fun _ _ holds => ?_
    exact ends_read_bind (ends_pure holds)
  | overlay =>
    refine (ensureFlowPlane_keeps overlays holds).bind fun _ _ holds => ?_
    refine (ensureUiPlane_keeps overlays holds).bind fun _ _ holds => ?_
    exact ends_read_bind (ends_pure holds)

theorem present_keeps (overlays : KeptByOverlays setup.display kept) (holds : kept world.planes)
    (video : KeptByVideo setup.display picture reply.videoPlanes kept world.planes) :
    Ends (present setup picture updateFlowFrame reply) world
      (fun _ after => kept after.planes) (fun after => kept after.planes) := by
  refine (prepare_keeps overlays holds video).bind fun part _ holds => ?_
  refine (leaves_keeps (Leaves.through (acquireFlowFramebuffer_beside _ _ _) Prod.fst) holds).bind
    fun acquired after holds => ?_
  have committed := leaves_keeps (Leaves.through (commit_beside setup part acquired.framebuffer
    (nonblockingAllowed picture updateFlowFrame acquired) reply.commit) Prod.fst) holds
  refine showPicture_ends (committed.imp (fun _ world kept => ?_) fun world kept => ?_)
  · rwa [conclude_planes]
  · rwa [conclude_planes]

/-- Only `present` and `present_overlay` assign planes. -/
theorem step_keeps (overlays : KeptByOverlays setup.display kept) (event : Event)
    (holds : kept world.planes)
    (video : ∀ picture updateFlowFrame reply, event = .present picture updateFlowFrame reply →
      KeptByVideo setup.display picture reply.videoPlanes kept world.planes) :
    kept (step setup world event).planes := by
  cases event with
  | present picture updateFlowFrame reply =>
    exact (present_keeps overlays holds (video _ _ _ rfl)).after
  | publishRenderedFlowFrame reply =>
    exact (leaves_keeps (Leaves.through (publishRenderedFlowFrame_beside setup reply) Prod.fst)
      holds).after
  | publishSolidFlowFrame reply =>
    exact (leaves_keeps (Leaves.through (publishSolidFlowFrame_beside reply) Prod.fst) holds).after
  | publishSolidUiFrame reply =>
    exact (leaves_keeps (Leaves.through (publishSolidUiFrame_beside reply) Prod.fst) holds).after
  | publishUiFrameFromArgb hasPixels width height strideBytes reply =>
    exact (leaves_keeps (Leaves.through
      (publishUiFrameFromArgb_beside hasPixels width height strideBytes reply) Prod.fst) holds).after
  | enableWritebackRecording hasPath everyNFrames maxFrames reply =>
    exact (leaves_keeps (Leaves.through
      (enableWritebackRecording_beside setup hasPath everyNFrames maxFrames reply) Prod.fst)
      holds).after
  | setVblankWaitEnabled enabled => exact holds

end Kept

theorem assigned_keptByOverlays (display : Display) : KeptByOverlays display (Assigned display) where
  flow := fun _ _ _ assigned _ _ chosen => chooseFlowPlane_assigned assigned chosen
  ui := fun _ _ _ assigned _ chosen => (chooseUiPlane_assigned assigned chosen).1
  noUi := fun _ assigned =>
    ⟨⟨assigned.apart.flow, assigned.apart.ui, assigned.apart.video, assigned.apart.onPrimary,
      assigned.apart.flowVideo, assigned.apart.flowUi⟩,
      ⟨assigned.suited.video, assigned.suited.flow, assigned.suited.ui⟩⟩

theorem assigned_keptByVideo (assigned : Assigned display planes) :
    KeptByVideo display picture report (Assigned display) planes :=
  fun _ _ _ _ => ⟨withoutVideo_assigned assigned, fun _ chosen =>
    chooseVideoPlane_assigned (withoutVideo_assigned assigned) rfl chosen⟩

theorem start_assigned (display : Display) (uiSurface : Nat × Nat) :
    Assigned display { uiSurface } where
  apart := {
    flow := fun same => display.primary.known same.symm
    ui := fun same => display.primary.known same.symm
    video := fun _ same => display.primary.known same.symm
    onPrimary := fun onPrimary => nomatch onPrimary
    flowVideo := fun flow => absurd rfl flow
    flowUi := fun flow => absurd rfl flow }
  suited := {
    video := fun video => absurd rfl video
    flow := fun flow => absurd rfl flow
    ui := fun ui => absurd rfl ui }

/-- Without any condition: the planes are suited and, UI and video aside, apart. -/
theorem step_assigned (setup : Setup) (world : World) (event : Event)
    (assigned : Assigned setup.display world.planes) :
    Assigned setup.display (step setup world event).planes :=
  step_keeps (assigned_keptByOverlays setup.display) event assigned
    fun _ _ _ _ => assigned_keptByVideo assigned

/-- UI and video included. -/
structure Exclusive (display : Display) (planes : PlaneAssignment) : Prop where
  assigned : Assigned display planes
  uiApart : UiApart planes

theorem exclusive_keptByOverlays (display : Display) : KeptByOverlays display (Exclusive display) where
  flow := fun _ _ _ exclusive _ _ chosen => by
    refine ⟨chooseFlowPlane_assigned exclusive.assigned chosen, ?_⟩
    obtain ⟨plane, same, _⟩ := chooseFlowPlane_cases chosen
    subst same
    exact exclusive.uiApart
  ui := fun _ _ _ exclusive _ chosen => by
    obtain ⟨assigned, uiApart⟩ := chooseUiPlane_assigned exclusive.assigned chosen
    exact ⟨assigned, uiApart⟩
  noUi := fun _ exclusive =>
    ⟨(assigned_keptByOverlays display).noUi _ exclusive.assigned, exclusive.uiApart⟩

/-- If the call looks for a video plane, it does not stop at the UI plane. -/
def SparesUiPlane (setup : Setup) (world : World) : Event → Prop
  | .present picture _ reply => ∀ format modifier, formatOf picture = some (format, modifier) →
    videoPlaneDiffers world.planes format modifier = true → ∀ plane, plane.id = world.planes.uiPlaneId →
      ¬ StopsAt setup.display reply.videoPlanes world.planes format modifier plane
  | _ => True

theorem spared_keptByVideo (exclusive : Exclusive setup.display world.planes)
    (spares : SparesUiPlane setup world (.present picture updateFlowFrame reply)) :
    KeptByVideo setup.display picture reply.videoPlanes (Exclusive setup.display) world.planes := by
  intro format modifier wanted differs
  have cleared := withoutVideo_assigned exclusive.assigned
  refine ⟨⟨cleared, fun known same => known same⟩, fun after chosen => ?_⟩
  refine ⟨chooseVideoPlane_assigned cleared rfl chosen, ?_⟩
  rcases chooseVideoPlane_cases chosen with ⟨same, _⟩ | ⟨plane, same, _, stops⟩
  · subst same
    exact fun _ => exclusive.assigned.apart.ui
  · subst same
    exact fun _ taken => spares format modifier wanted differs plane taken.symm stops

def HoldsExclusive (setup : Setup) (world : World) : Prop := Exclusive setup.display world.planes

theorem step_exclusive (setup : Setup) (world : World) (event : Event)
    (exclusive : HoldsExclusive setup world) (spares : SparesUiPlane setup world event) :
    HoldsExclusive setup (step setup world event) := by
  refine step_keeps (exclusive_keptByOverlays setup.display) event exclusive ?_
  intro picture updateFlowFrame reply same
  subst same
  exact spared_keptByVideo exclusive spares

/-- Plane assignment is exclusive, and every plane suits its use, in every run in
which no choice of a video plane stops at the UI plane. -/
theorem planes_exclusive_while_ui_spared (setup : Setup) (uiSurface : Nat × Nat)
    (events : List Event)
    (spares : Meets (step setup) (SparesUiPlane setup) (create setup uiSurface) events) :
    let planes := (events.foldl (step setup) (create setup uiSurface)).planes
    (planesInUse setup.display planes).Nodup ∧ AllSuited setup.display planes ∧
      Suited setup.display setup.display.primary.id (primaryFormat setup.display) := by
  have start : HoldsExclusive setup (create setup uiSurface) :=
    ⟨start_assigned setup.display uiSurface, fun ui => absurd rfl ui⟩
  have exclusive : HoldsExclusive setup (events.foldl (step setup) (create setup uiSurface)) :=
    invariant_after_run events (step_exclusive setup) start spares
  exact ⟨planesInUse_nodup exclusive.assigned.apart exclusive.uiApart, exclusive.assigned.suited,
    primary_suited setup.display⟩

/-- The Flow plane stays, or is chosen where there was none and one is needed. -/
def FlowPlaneStays (display : Display) (before after : PlaneAssignment) : Prop :=
  after.flowPlaneId = before.flowPlaneId ∨
    before.flowPlaneId = 0 ∧ display.primaryFlowReadback = false

theorem flowPlaneStays_keptByOverlays (display : Display) (start : PlaneAssignment) :
    KeptByOverlays display (FlowPlaneStays display start) where
  flow := fun _ _ _ stays beside missing _ => .inr (by
    rcases stays with same | new
    · exact ⟨same.symm.trans missing, beside⟩
    · exact new)
  ui := fun _ _ _ stays _ chosen => by
    obtain ⟨plane, same, _⟩ := chooseUiPlane_cases chosen
    exact same ▸ stays
  noUi := fun _ stays => stays

theorem flowPlaneStays_keptByVideo (stays : FlowPlaneStays display start planes) :
    KeptByVideo display picture report (FlowPlaneStays display start) planes :=
  fun _ _ _ _ => ⟨stays, fun after chosen => by
    rcases chooseVideoPlane_cases chosen with ⟨same, _⟩ | ⟨plane, same, _⟩
    · exact same ▸ stays
    · exact same ▸ stays⟩

theorem prepare_flowPlane (setup : Setup) (picture : Picture) (reply : PresentReply) (world : World) :
    Ends (prepare setup picture reply) world
      (fun _ after => FlowPlaneStays setup.display world.planes after.planes)
      (fun after => FlowPlaneStays setup.display world.planes after.planes) :=
  prepare_keeps (flowPlaneStays_keptByOverlays setup.display world.planes) (.inl rfl)
    (flowPlaneStays_keptByVideo (.inl rfl))

/-- A call that gets past its first phase has a Flow plane or reads the Flow frame back. -/
def HasFlowPlane (setup : Setup) (world : World) : Prop :=
  setup.display.primaryFlowReadback = true ∨ world.planes.flowPlaneId ≠ 0

theorem ensureFlowPlane_has (setup : Setup) (report : PlaneReport) (world : World) :
    Ends (ensureFlowPlane setup.display report) world
      (fun _ after => HasFlowPlane setup after) (fun _ => True) := by
  refine (ensureFlowPlane_planes setup.display report world).imp ?_ fun _ _ => trivial
  rintro _ after (⟨has, same⟩ | ⟨_, _, chosen⟩)
  · exact same ▸ has
  · obtain ⟨plane, same, _⟩ := chooseFlowPlane_cases chosen
    exact .inr (same ▸ plane.known)

theorem ensureUiPlane_has (report : PlaneReport) (has : HasFlowPlane setup world) :
    Ends (ensureUiPlane setup.display report) world
      (fun _ after => HasFlowPlane setup after) (fun _ => True) := by
  refine (ensureUiPlane_planes setup.display report world).imp ?_ fun _ _ => trivial
  rintro _ after (⟨_, same⟩ | ⟨_, given | chosen⟩)
  · exact same ▸ has
  · exact has.imp id fun used => given ▸ used
  · obtain ⟨plane, same, _⟩ := chooseUiPlane_cases chosen
    exact has.imp id fun used => same ▸ used

theorem prepare_hasFlowPlane (setup : Setup) (picture : Picture) (reply : PresentReply)
    (world : World) : Ends (prepare setup picture reply) world
      (fun _ after => HasFlowPlane setup after) (fun _ => True) := by
  cases picture with
  | dmabuf frame =>
    refine (ends_any _ world).bind fun _ middle _ => ?_
    refine (ensureFlowPlane_has setup reply.flowPlanes middle).bind fun _ second has => ?_
    refine (ensureUiPlane_has reply.uiPlanes has).bind fun _ third has => ?_
    have planes := Leaves.through (findOrImport_beside frame reply.imported) Prod.fst
    refine ((planes.ends third).imp (fun _ _ same => same) fun _ _ => trivial).bind ?_
    intro _ last same
    have planes : last.planes = third.planes := same
    exact ends_pure (has.imp id fun used => planes ▸ used)
  | cpu frame =>
    refine ends_check_bind (fun _ => ?_) fun _ => trivial
    refine (ends_any _ world).bind fun _ middle _ => (ends_any _ middle).bind fun _ second _ => ?_
    refine (ensureFlowPlane_has setup reply.flowPlanes second).bind fun _ third has => ?_
    exact (ensureUiPlane_has reply.uiPlanes has).bind fun _ _ has => ends_read_bind (ends_pure has)
  | overlay =>
    refine (ensureFlowPlane_has setup reply.flowPlanes world).bind fun _ middle has => ?_
    exact (ensureUiPlane_has reply.uiPlanes has).bind fun _ _ has => ends_read_bind (ends_pure has)

/-- A plane on the first CRTC with both RGB formats. -/
def rgbPlane (id : Nat) (known : id ≠ 0) (type : Nat) : Plane where
  id
  known
  possibleCrtcs := 1
  formats := [formatXrgb8888, formatArgb8888]
  type

/-- A primary plane, two overlays with alpha and one for opaque pixels only. -/
def separatePlanes : Display where
  planes := [rgbPlane 1 (by decide) planeTypePrimary,
    { rgbPlane 2 (by decide) planeTypeOverlay with formats := [formatArgb8888] },
    { rgbPlane 3 (by decide) planeTypeOverlay with formats := [formatArgb8888] },
    { rgbPlane 4 (by decide) planeTypeOverlay with formats := [formatXrgb8888] }]
  crtcIndex := 0
  surface := (1280, 720)
  flowSurface := (1280, 720)
  primary := rgbPlane 1 (by decide) planeTypePrimary
  chosen := rfl

def overlayThenCpuFrame : List Event :=
  [.present .overlay true {}, .present (.cpu ⟨640, 480, 2560, true⟩) false {}]

/-- The UI has a plane when the video gets one, and keeps it. -/
theorem opaque_plane_spares_ui :
    let planes := (overlayThenCpuFrame.foldl (step (plainSetup separatePlanes))
      (create (plainSetup separatePlanes) (640, 360))).planes
    planes.uiPlaneId = 3 ∧ planes.videoPlaneId = 4 ∧
      (planesInUse separatePlanes planes).Nodup := by
  have spares : Meets (step (plainSetup separatePlanes)) (SparesUiPlane (plainSetup separatePlanes))
      (create (plainSetup separatePlanes) (640, 360)) overlayThenCpuFrame := by
    refine ⟨(fun _ _ wanted => nomatch wanted), ?_, trivial⟩
    intro format modifier wanted _ plane taken stops
    cases wanted
    obtain ⟨_, before, after, listed, _⟩ := stops.2
    have shown : plane ∈ listedPlanes separatePlanes {} :=
      listed ▸ List.mem_append_right before List.mem_cons_self
    have onUi : plane.id = 3 := taken
    have refused : ∀ plane ∈ listedPlanes separatePlanes {}, plane.id = 3 →
        planeSupportsFormat plane formatXrgb8888 = false := by decide
    have supports := (tryVideoPlane_facts stops.1).2.2.2
    rw [refused plane shown onUi] at supports
    cases supports
  refine ⟨by decide +kernel, by decide +kernel, ?_⟩
  exact (planes_exclusive_while_ui_spared (plainSetup separatePlanes) (640, 360)
    overlayThenCpuFrame spares).1

/-- A primary plane and two overlays, all with both RGB formats. -/
def rgbPlanes : Display where
  planes := [rgbPlane 1 (by decide) planeTypePrimary, rgbPlane 2 (by decide) planeTypeOverlay,
    rgbPlane 3 (by decide) planeTypeOverlay]
  crtcIndex := 0
  surface := (1280, 720)
  flowSurface := (1280, 720)
  primary := rgbPlane 1 (by decide) planeTypePrimary
  chosen := rfl

/-- The first video frame after the overlays goes to the plane of the UI. -/
theorem video_takes_ui_plane :
    let planes := (overlayThenCpuFrame.foldl (step (plainSetup rgbPlanes))
      (create (plainSetup rgbPlanes) (640, 360))).planes
    planes.uiPlaneId = 3 ∧ planes.videoPlaneId = 3 ∧ planes.videoOnPrimary = false ∧
      ¬ (planesInUse rgbPlanes planes).Nodup := by
  decide +kernel

end Glide.ExclusivePlanes
