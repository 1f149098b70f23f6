import Mathlib.Data.List.Infix
import Glide.Library.Attempts

/-! What the compositor asks of DRM and GBM, call by call. The framebuffers that
exist, what each plane scans out and which buffer objects are locked follow from
the calls made so far. A plane that a commit does not name keeps its state, and
removing a framebuffer disables the planes that show it. -/
namespace Glide.DrmCalls
open Library.Attempts

/-- What a decoded frame is recognised by. -/
structure FrameKey where
  width : Nat
  height : Nat
  drmFormat : Nat
  planeCount : Nat
  deviceIds : List Nat
  inodes : List Nat
  strides : List Nat
  offsets : List Nat
  modifiers : List Nat
deriving DecidableEq

/-- What a buffer object of the Flow surface is recognised by. -/
structure FlowFramebufferKey where
  width : Nat
  height : Nat
  format : Nat
  planeCount : Nat
  modifier : Nat
  handles : List Nat
  strides : List Nat
  offsets : List Nat
deriving DecidableEq

/-- What a framebuffer was created from. -/
inductive Content where
  | primary
  | solidFlow
  | solidUi
  | cpuVideo
  | writeback
  | imported (key : FrameKey)
  | flow (key : FlowFramebufferKey)
deriving DecidableEq

structure PlaneRect where
  x : Nat
  y : Nat
  width : Nat
  height : Nat
deriving DecidableEq

/-- An enabled plane: its framebuffer, the part of it that is read and where on
the display it goes. -/
structure Scanout where
  framebuffer : Nat
  sourceWidth : Nat
  sourceHeight : Nat
  destination : PlaneRect
deriving DecidableEq

/-- An atomic request: the planes it names with their new state, and the video
framebuffer among them, 0 without one. -/
structure Request where
  updates : List (Nat × Option Scanout)
  video : Nat
deriving DecidableEq

/-- A buffer object of the Flow surface, and which lock of a front buffer it
came from. The code holds the pointer alone. -/
structure LockedBuffer where
  object : Nat
  lock : Nat
deriving DecidableEq

/-- The calls that matter, as they succeed; an atomic request is noted when it is
built, with whether it was applied. A removal also notes what
`current_video_framebuffer_` named, a release which plane was the Flow plane. -/
inductive DeviceCall where
  | addFramebuffer (framebuffer : Nat) (content : Content)
  | removeFramebuffer (framebuffer named : Nat)
  | atomicRequest (request : Request) (applied : Bool)
  | primeImport (fd : Int) (handle : Nat)
  | gemClose (handle : Nat)
  | lockFrontBuffer (buffer : LockedBuffer)
  | releaseBuffer (buffer : LockedBuffer) (flowPlane : Nat)
deriving DecidableEq

/-- What the framebuffer was created from, if it exists. The calls are listed
with the latest first, here and below. -/
def contentOf : List DeviceCall → Nat → Option Content
  | [], _ => none
  | .addFramebuffer framebuffer content :: earlier, wanted =>
    if framebuffer = wanted then some content else contentOf earlier wanted
  | .removeFramebuffer framebuffer _ :: earlier, wanted =>
    if framebuffer = wanted then none else contentOf earlier wanted
  | _ :: earlier, wanted => contentOf earlier wanted

/-- The new state of a plane; of two updates the later one counts. -/
def updateOf : List (Nat × Option Scanout) → Nat → Option (Option Scanout)
  | [], _ => none
  | (plane, new) :: rest, wanted =>
    match updateOf rest wanted with
    | some later => some later
    | none => if plane = wanted then some new else none

/-- What the plane scans out. -/
def scanoutOf : List DeviceCall → Nat → Option Scanout
  | [], _ => none
  | .removeFramebuffer framebuffer _ :: earlier, plane =>
    (scanoutOf earlier plane).filter (·.framebuffer ≠ framebuffer)
  | .atomicRequest request applied :: earlier, plane =>
    if applied then (updateOf request.updates plane).getD (scanoutOf earlier plane)
    else scanoutOf earlier plane
  | _ :: earlier, plane => scanoutOf earlier plane

/-- The buffers locked and not yet released. -/
def lockedBuffers : List DeviceCall → List LockedBuffer
  | [] => []
  | .lockFrontBuffer buffer :: earlier => buffer :: lockedBuffers earlier
  | .releaseBuffer buffer _ :: earlier => (lockedBuffers earlier).erase buffer
  | _ :: earlier => lockedBuffers earlier

/-- How often a front buffer has been locked. -/
def lockCount : List DeviceCall → Nat
  | [] => 0
  | .lockFrontBuffer _ :: earlier => lockCount earlier + 1
  | _ :: earlier => lockCount earlier

/-- The locks that were given back, the latest first. -/
def releasedLocks : List DeviceCall → List Nat
  | [] => []
  | .releaseBuffer buffer _ :: earlier => buffer.lock :: releasedLocks earlier
  | _ :: earlier => releasedLocks earlier

/-- The highest framebuffer id given out so far. -/
def highestFramebuffer : List DeviceCall → Nat
  | [] => 0
  | .addFramebuffer framebuffer _ :: earlier => max framebuffer (highestFramebuffer earlier)
  | _ :: earlier => highestFramebuffer earlier

/-- The id of a new framebuffer: any id that none of the existing ones has, 0 apart. -/
def newFramebuffer (calls : List DeviceCall) (proposed : Nat) : Nat :=
  if proposed ≠ 0 ∧ contentOf calls proposed = none then proposed else highestFramebuffer calls + 1

theorem contentOf_above (above : highestFramebuffer calls < framebuffer) :
    contentOf calls framebuffer = none := by
  induction calls with
  | nil => rfl
  | cons call earlier ih =>
    cases call with
    | addFramebuffer added content =>
      rw [highestFramebuffer] at above
      rw [contentOf, if_neg (by omega)]
      exact ih (by omega)
    | removeFramebuffer removed named =>
      rw [contentOf]
      split
      · rfl
      · exact ih above
    | atomicRequest request applied => exact ih above
    | primeImport fd handle => exact ih above
    | gemClose handle => exact ih above
    | lockFrontBuffer buffer => exact ih above
    | releaseBuffer buffer flowPlane => exact ih above

theorem newFramebuffer_ne_zero (calls : List DeviceCall) (proposed : Nat) :
    newFramebuffer calls proposed ≠ 0 := by
  unfold newFramebuffer
  split
  · rename_i free
    exact free.1
  · omega

theorem newFramebuffer_free (calls : List DeviceCall) (proposed : Nat) :
    contentOf calls (newFramebuffer calls proposed) = none := by
  unfold newFramebuffer
  split
  · rename_i free
    exact free.2
  · exact contentOf_above (Nat.lt_succ_self _)

/-- What the framebuffer of a video frame is created from. -/
def isVideo : Content → Prop
  | .imported _ | .cpuVideo => True
  | _ => False

/-- A call that only passes handles of buffers around. -/
def passesHandles (call : DeviceCall) (_ : List DeviceCall) : Prop :=
  match call with
  | .primeImport _ _ | .gemClose _ => True
  | _ => False

/-- A call on a Flow frame: it gets a framebuffer, is locked or is released. A
framebuffer id is given out again only after it was removed, and a buffer object
is locked only once. -/
def handlesFlowFrames : DeviceCall → List DeviceCall → Prop
  | .addFramebuffer framebuffer _, earlier => framebuffer ≠ 0 ∧ contentOf earlier framebuffer = none
  | .lockFrontBuffer buffer, earlier =>
    buffer.object ∉ (lockedBuffers earlier).map (·.object) ∧ buffer.lock = lockCount earlier
  | .releaseBuffer _ _, _ => True
  | _, _ => False

/-- A call on framebuffers of some kinds: they come and go, handles are passed. -/
def handlesFramebuffers (kind : Content → Prop) : DeviceCall → List DeviceCall → Prop
  | .addFramebuffer framebuffer content, earlier =>
    framebuffer ≠ 0 ∧ contentOf earlier framebuffer = none ∧ kind content
  | .removeFramebuffer _ _, _ | .primeImport _ _, _ | .gemClose _, _ => True
  | _, _ => False

section Passing
variable {calls after : List DeviceCall}

theorem contentOf_passing (passed : Extends passesHandles calls after) :
    contentOf after = contentOf calls := by
  induction passed with
  | same => rfl
  | more call calls _ passes ih =>
    cases call with
    | primeImport fd handle => exact ih
    | gemClose handle => exact ih
    | addFramebuffer framebuffer content => exact passes.elim
    | removeFramebuffer framebuffer named => exact passes.elim
    | atomicRequest request applied => exact passes.elim
    | lockFrontBuffer buffer => exact passes.elim
    | releaseBuffer buffer flowPlane => exact passes.elim

end Passing

/-- Every framebuffer that is scanned out exists. -/
def Backed (calls : List DeviceCall) : Prop :=
  ∀ plane scanout, scanoutOf calls plane = some scanout →
    (contentOf calls scanout.framebuffer).isSome = true

section Framebuffers
variable {kind : Content → Prop} {calls after : List DeviceCall}

theorem content_of_added {added : Nat} (free : contentOf calls added = none)
    (exists_ : contentOf calls framebuffer = some kept) :
    contentOf (.addFramebuffer added content :: calls) framebuffer = some kept := by
  rw [contentOf, if_neg]
  · exact exists_
  · intro same
    rw [same, exists_] at free
    cases free

/-- What is still scanned out was so before, and shows what it showed. -/
theorem scanned_framebuffers (grown : Extends (handlesFramebuffers kind) calls after)
    (backed : Backed calls) :
    ∀ plane scanout, scanoutOf after plane = some scanout → scanoutOf calls plane = some scanout ∧
      contentOf after scanout.framebuffer = contentOf calls scanout.framebuffer := by
  induction grown with
  | same => exact fun plane scanout shown => ⟨shown, rfl⟩
  | more call items _ allows ih =>
    cases call with
    | addFramebuffer added content =>
      intro plane scanout shown
      obtain ⟨was, same⟩ := ih plane scanout shown
      refine ⟨was, ?_⟩
      obtain ⟨kept, exists_⟩ := Option.isSome_iff_exists.1 (backed plane scanout was)
      rw [exists_] at same ⊢
      exact content_of_added allows.2.1 same
    | removeFramebuffer removed named =>
      intro plane scanout shown
      obtain ⟨still, other⟩ := Option.filter_eq_some_iff.1 shown
      obtain ⟨was, same⟩ := ih plane scanout still
      refine ⟨was, ?_⟩
      rw [contentOf, if_neg fun gone => of_decide_eq_true other gone.symm]
      exact same
    | primeImport fd handle => exact ih
    | gemClose handle => exact ih
    | atomicRequest request applied => exact allows.elim
    | lockFrontBuffer buffer => exact allows.elim
    | releaseBuffer buffer flowPlane => exact allows.elim

theorem Backed.scanned (backed : Backed calls)
    (scanned : ∀ plane scanout, scanoutOf after plane = some scanout →
      scanoutOf calls plane = some scanout ∧
        contentOf after scanout.framebuffer = contentOf calls scanout.framebuffer) :
    Backed after := by
  intro plane scanout shown
  obtain ⟨was, same⟩ := scanned plane scanout shown
  rw [same]
  exact backed plane scanout was

theorem Backed.framebuffers (backed : Backed calls)
    (grown : Extends (handlesFramebuffers kind) calls after) : Backed after :=
  backed.scanned (scanned_framebuffers grown backed)

/-- What shows a framebuffer of another kind goes on showing it as long as it exists. -/
theorem shown_kept (grown : Extends (handlesFramebuffers kind) calls after)
    (shown : scanoutOf calls plane = some scanout)
    (exists_ : contentOf after scanout.framebuffer = some content) (other : ¬ kind content) :
    scanoutOf after plane = some scanout := by
  induction grown with
  | same => exact shown
  | more call items _ allows ih =>
    cases call with
    | addFramebuffer added new =>
      rw [contentOf] at exists_
      split at exists_
      · cases exists_
        exact absurd allows.2.2 other
      · exact ih exists_
    | removeFramebuffer removed named =>
      rw [contentOf] at exists_
      split at exists_
      · cases exists_
      · rename_i different
        rw [scanoutOf, ih exists_]
        exact Option.filter_eq_some_iff.2 ⟨rfl, decide_eq_true fun same => different same.symm⟩
    | primeImport fd handle => exact ih exists_
    | gemClose handle => exact ih exists_
    | atomicRequest request applied => exact allows.elim
    | lockFrontBuffer buffer => exact allows.elim
    | releaseBuffer buffer flowPlane => exact allows.elim

/-- The locks that were made, those that hold and those given back. -/
abbrev locks (calls : List DeviceCall) : Nat × List LockedBuffer × List Nat :=
  (lockCount calls, lockedBuffers calls, releasedLocks calls)

theorem locks_framebuffers (grown : Extends (handlesFramebuffers kind) calls after) :
    locks after = locks calls := by
  induction grown with
  | same => rfl
  | more call items _ allows ih =>
    cases call with
    | addFramebuffer added content => exact ih
    | removeFramebuffer removed named => exact ih
    | primeImport fd handle => exact ih
    | gemClose handle => exact ih
    | atomicRequest request applied => exact allows.elim
    | lockFrontBuffer buffer => exact allows.elim
    | releaseBuffer buffer flowPlane => exact allows.elim

end Framebuffers

section FlowFrames
variable {calls after : List DeviceCall}

/-- Calls on Flow frames turn no plane on or off. -/
theorem scanoutOf_flow (grown : Extends handlesFlowFrames calls after) :
    scanoutOf after = scanoutOf calls := by
  induction grown with
  | same => rfl
  | more call items _ allows ih =>
    cases call with
    | addFramebuffer added content => exact ih
    | lockFrontBuffer buffer => exact ih
    | releaseBuffer buffer flowPlane => exact ih
    | removeFramebuffer removed named => exact allows.elim
    | primeImport fd handle => exact allows.elim
    | gemClose handle => exact allows.elim
    | atomicRequest request applied => exact allows.elim

theorem content_flow (grown : Extends handlesFlowFrames calls after)
    (exists_ : contentOf calls framebuffer = some content) :
    contentOf after framebuffer = some content := by
  induction grown with
  | same => exact exists_
  | more call items _ allows ih =>
    cases call with
    | addFramebuffer added new => exact content_of_added allows.2 ih
    | lockFrontBuffer buffer => exact ih
    | releaseBuffer buffer flowPlane => exact ih
    | removeFramebuffer removed named => exact allows.elim
    | primeImport fd handle => exact allows.elim
    | gemClose handle => exact allows.elim
    | atomicRequest request applied => exact allows.elim

theorem Backed.flow (backed : Backed calls) (grown : Extends handlesFlowFrames calls after) :
    Backed after := by
  intro plane scanout shown
  rw [scanoutOf_flow grown] at shown
  obtain ⟨content, exists_⟩ := Option.isSome_iff_exists.1 (backed plane scanout shown)
  rw [content_flow grown exists_]
  rfl

end FlowFrames

theorem updateOf_mem (updated : updateOf updates plane = some new) : (plane, new) ∈ updates := by
  induction updates with
  | nil => cases updated
  | cons update rest ih =>
    obtain ⟨other, state⟩ := update
    rw [updateOf] at updated
    cases later : updateOf rest plane with
    | some found =>
      rw [later] at updated
      cases updated
      exact List.mem_cons_of_mem _ (ih later)
    | none =>
      rw [later] at updated
      dsimp only at updated
      split at updated
      · rename_i same
        cases updated
        exact same ▸ List.mem_cons_self
      · cases updated

/-- A request that is applied names existing framebuffers only. -/
theorem Backed.request {request : Request} (backed : Backed calls)
    (named : ∀ plane scanout, (plane, some scanout) ∈ request.updates →
      (contentOf calls scanout.framebuffer).isSome = true) :
    Backed (.atomicRequest request applied :: calls) := by
  intro plane scanout shown
  rw [scanoutOf] at shown
  cases applied with
  | false => exact backed plane scanout shown
  | true =>
    cases updated : updateOf request.updates plane with
    | none =>
      rw [updated] at shown
      exact backed plane scanout shown
    | some new =>
      rw [updated] at shown
      cases shown
      exact named plane scanout (updateOf_mem updated)

/-- What holds of every call, in view of the calls before it. -/
def Throughout (good : DeviceCall → List DeviceCall → Prop) (calls : List DeviceCall) : Prop :=
  ∀ call earlier, call :: earlier <:+ calls → good call earlier

theorem throughout_nil : Throughout good [] :=
  fun _ _ within => absurd (List.suffix_nil.1 within) (List.cons_ne_nil _ _)

theorem throughout_cons : Throughout good (call :: calls) ↔ good call calls ∧ Throughout good calls := by
  constructor
  · intro all
    exact ⟨all call calls List.suffix_rfl, fun one earlier within =>
      all one earlier (within.trans (List.suffix_cons call calls))⟩
  · rintro ⟨first, rest⟩ one earlier within
    rcases List.suffix_cons_iff.1 within with same | later
    · cases same
      exact first
    · exact rest one earlier later

/-- Calls that are good wherever they are allowed. -/
theorem throughout_extends (all : Throughout good calls) (grown : Extends allowed calls after)
    (allows : ∀ call earlier, allowed call earlier → good call earlier) : Throughout good after :=
  grown.preserves all fun call earlier all allowed_ => throughout_cons.2 ⟨allows call earlier allowed_, all⟩

end Glide.DrmCalls
