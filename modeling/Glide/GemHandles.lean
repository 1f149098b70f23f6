import Mathlib.Data.Option.Basic
import Glide.ExclusivePlanes
import Glide.HeldFramebuffers
import Glide.Library.Runs

/-! The GEM handles of imported frames. The kernel answers the second import of a buffer
with the handle that the first one got. So a frame that gets a handle which an entry of
the cache lists shares a buffer with the frame of that entry. -/
namespace Glide.GemHandles
open DrmCalls KmsPlanes KmsAtomicCompositor CompositorPhases HeldFramebuffers ExclusivePlanes
open Library.Attempts Library.Runs

/-- A decoded frame that is presented. The kernel gives no handle the number 0. -/
structure Presented where
  frame : DmabufVideoFrame
  updateFlowFrame : Bool := false
  reply : PresentReply := {}
  nonzero : ∀ plane handle, reply.imported.handles plane = some handle → handle ≠ 0

def step (setup : Setup) (world : World) (presented : Presented) : World :=
  (present setup (.dmabuf presented.frame) presented.updateFlowFrame presented.reply world).2

/-- Whether a handle was imported and not closed since. -/
def IsOpen : List DeviceCall → Nat → Prop
  | [], _ => False
  | .primeImport _ handle :: earlier, wanted => handle = wanted ∨ IsOpen earlier wanted
  | .gemClose handle :: earlier, wanted => handle ≠ wanted ∧ IsOpen earlier wanted
  | _ :: earlier, wanted => IsOpen earlier wanted

/-- Whatever is closed was open. -/
def ClosesOpen : List DeviceCall → Prop
  | [] => True
  | .gemClose handle :: earlier => IsOpen earlier handle ∧ ClosesOpen earlier
  | _ :: earlier => ClosesOpen earlier

/-- Whether one of the owners lists the handle. -/
def Listed (owners : List (List Nat)) (handle : Nat) : Prop := ∃ handles ∈ owners, handle ∈ handles

/-- Every open handle is listed by one owner, no owner lists another, and each handle was
closed once at most. -/
structure Accounts (calls : List DeviceCall) (owners : List (List Nat)) : Prop where
  used : ∀ handle, IsOpen calls handle ↔ Listed owners handle
  apart : owners.Pairwise fun first second => ∀ handle ∈ first, handle ∉ second
  nonzero : ∀ handle, Listed owners handle → handle ≠ 0
  closes : ClosesOpen calls

/-- The owners are the entries of the cache. -/
def owners (cache : List CachedFramebuffer) : List (List Nat) := cache.map (·.imported.handles)

abbrev Accounted (world : World) : Prop := Accounts world.calls (owners world.video.cache)

/-- The calls close nothing that one of these owners lists. -/
def ClosesUnlisted (owners : List (List Nat)) : List DeviceCall → List DeviceCall → Prop :=
  Extends fun call _ => ∀ handle, call = .gemClose handle → ¬ Listed owners handle

/-- The handles that the loop over the planes gets from the kernel. -/
def obtained (reply : ImportReply) (known : List (Int × Nat)) (count : Nat) : List Int → List Nat
  | [] => []
  | fd :: rest =>
    match known.lookup fd with
    | some _ => obtained reply known (count + 1) rest
    | none =>
      match reply.handles count with
      | none => []
      | some handle => handle :: obtained reply (known ++ [(fd, handle)]) (count + 1) rest

def planeFds (frame : DmabufVideoFrame) : List Int :=
  (List.range frame.planeCount).map fun plane => frame.fds.getD plane (-1)

/-- The entries left once one made way for a new frame. -/
def staying (cache : List CachedFramebuffer) : List CachedFramebuffer :=
  match cache with
  | [] => []
  | first :: rest =>
    if (first :: rest).length < maxCachedFramebuffers then first :: rest
    else (first :: rest).erase (leastRecentlyUsed first rest)

/-- A frame that needs another video plane empties the cache. -/
def emptiesCache (presented : Presented) (world : World) : Bool :=
  videoPlaneDiffers world.planes presented.frame.drmFormat (presented.frame.modifiers.getD 0 0)

/-- The entries that are in the cache while the frame is imported. -/
def kept (presented : Presented) (world : World) : List CachedFramebuffer :=
  if emptiesCache presented world then [] else staying world.video.cache

def FrameUnshared (frame : DmabufVideoFrame) (reply : ImportReply)
    (cache remaining : List CachedFramebuffer) : Prop :=
  ∀ key ∈ makeFrameKey frame reply, cache.find? (·.key = key) = none →
    ∀ handle ∈ obtained reply [] 0 (planeFds frame), ¬ Listed (owners remaining) handle

/-- A frame that gets to its import and is not in the cache shares no buffer with an entry
that stays there. -/
def Unshared (setup : Setup) (world : World) (presented : Presented) : Prop :=
  (ensureFlowPlane setup.display presented.reply.flowPlanes world).1 = some () →
    FrameUnshared presented.frame presented.reply.imported world.video.cache (kept presented world)

theorem eraseDups_nodup (handles : List Nat) : handles.eraseDups.Nodup := by
  induction size : handles.length using Nat.strong_induction_on generalizing handles with
  | _ size ih =>
    cases handles with
    | nil => exact List.nodup_nil
    | cons handle rest =>
      rw [List.eraseDups_cons, List.nodup_cons]
      have shorter := List.length_filter_le (fun other => !other == handle) rest
      refine ⟨fun again => ?_, ih _ (by rw [← size, List.length_cons]; omega) _ rfl⟩
      have kept := (List.mem_filter.1 (List.mem_eraseDups.1 again)).2
      simp at kept

theorem mem_handlesToClose {handles : List Nat} :
    handle ∈ handlesToClose handles ↔ handle ∈ handles ∧ handle ≠ 0 := by
  unfold handlesToClose
  rw [List.mem_eraseDups, List.mem_filter, decide_eq_true_eq]

/-- A call that passes no handles. -/
def passesNone (call : DeviceCall) (_ : List DeviceCall) : Prop := ¬ passesHandles call []

section Accounts
variable {calls after : List DeviceCall} {listed front back : List (List Nat)} {handles : List Nat}

theorem listed_middle : Listed (front ++ handles :: back) handle ↔
    handle ∈ handles ∨ Listed (front ++ back) handle := by
  simp only [Listed, List.mem_append, List.mem_cons]
  constructor
  · rintro ⟨others, inFront | same | inBack, member⟩
    · exact .inr ⟨others, .inl inFront, member⟩
    · exact .inl (same ▸ member)
    · exact .inr ⟨others, .inr inBack, member⟩
  · rintro (member | ⟨others, inFront | inBack, member⟩)
    · exact ⟨handles, .inr (.inl rfl), member⟩
    · exact ⟨others, .inl inFront, member⟩
    · exact ⟨others, .inr (.inr inBack), member⟩

theorem listed_last :
    Listed (front ++ [handles]) handle ↔ handle ∈ handles ∨ Listed front handle := by
  rw [listed_middle, List.append_nil]

theorem not_listed_nil : ¬ Listed [] handle := fun ⟨_, member, _⟩ => nomatch member

/-- Without owners nothing is wrong to close. -/
theorem closesUnlisted_nil {allowed : DeviceCall → List DeviceCall → Prop}
    (grown : Extends allowed calls after) : ClosesUnlisted [] calls after :=
  grown.imp fun _ _ _ _ _ => not_listed_nil

theorem closesUnlisted_none (grown : Extends passesNone calls after) :
    ClosesUnlisted listed calls after :=
  grown.imp fun _ _ passes handle same => absurd (by rw [same]; trivial) passes

/-- Calls that pass no handles leave the accounts as they are. -/
theorem Accounts.neutral (accounts : Accounts calls listed)
    (grown : Extends passesNone calls after) : Accounts after listed := by
  induction grown with
  | same => exact accounts
  | more call items _ passes ih =>
    cases call with
    | primeImport fd handle => exact absurd trivial passes
    | gemClose handle => exact absurd trivial passes
    | addFramebuffer framebuffer content => exact ⟨ih.used, ih.apart, ih.nonzero, ih.closes⟩
    | removeFramebuffer framebuffer named => exact ⟨ih.used, ih.apart, ih.nonzero, ih.closes⟩
    | atomicRequest request applied => exact ⟨ih.used, ih.apart, ih.nonzero, ih.closes⟩
    | lockFrontBuffer buffer => exact ⟨ih.used, ih.apart, ih.nonzero, ih.closes⟩
    | releaseBuffer buffer flowPlane => exact ⟨ih.used, ih.apart, ih.nonzero, ih.closes⟩

/-- A new owner starts without handles. -/
theorem Accounts.begin (accounts : Accounts calls listed) : Accounts calls (listed ++ [[]]) where
  used := fun handle => by
    rw [accounts.used, listed_last]
    exact (or_iff_right List.not_mem_nil).symm
  apart := by
    refine List.pairwise_append.2 ⟨accounts.apart, List.pairwise_singleton _ _, ?_⟩
    intro first _ last isLast handle _
    rw [List.mem_singleton.1 isLast]
    exact List.not_mem_nil
  nonzero := fun handle inside => accounts.nonzero handle
    ((listed_last.1 inside).resolve_left List.not_mem_nil)
  closes := accounts.closes

/-- A handle that the newest owner has is noted once more. -/
theorem Accounts.repeated (accounts : Accounts calls (listed ++ [handles]))
    (had : handle ∈ handles) : Accounts calls (listed ++ [handles ++ [handle]]) := by
  have members : ∀ other, other ∈ handles ++ [handle] ↔ other ∈ handles := by
    intro other
    rw [List.mem_append, List.mem_singleton]
    exact or_iff_left_of_imp fun same => same ▸ had
  obtain ⟨earlier, _, new⟩ := List.pairwise_append.1 accounts.apart
  refine ⟨fun other => ?_, ?_, fun other inside => ?_, accounts.closes⟩
  · rw [accounts.used, listed_last, listed_last, members]
  · refine List.pairwise_append.2 ⟨earlier, List.pairwise_singleton _ _, ?_⟩
    intro first isFirst last isLast other member
    rw [List.mem_singleton.1 isLast, members]
    exact new first isFirst handles List.mem_cons_self other member
  · refine accounts.nonzero other (listed_last.2 ?_)
    rw [← members]
    exact listed_last.1 inside

/-- The newest owner gets a handle that no other lists. -/
theorem Accounts.imported (accounts : Accounts calls (listed ++ [handles])) (nonzero : handle ≠ 0)
    (unshared : ¬ Listed listed handle) :
    Accounts (.primeImport fd handle :: calls) (listed ++ [handles ++ [handle]]) := by
  obtain ⟨earlier, _, new⟩ := List.pairwise_append.1 accounts.apart
  refine ⟨fun other => ?_, ?_, fun other inside => ?_, accounts.closes⟩
  · change handle = other ∨ IsOpen calls other ↔ _
    rw [accounts.used, listed_last, listed_last, List.mem_append, List.mem_singleton,
      eq_comm (a := handle), or_assoc, or_left_comm]
  · refine List.pairwise_append.2 ⟨earlier, List.pairwise_singleton _ _, ?_⟩
    intro first isFirst last isLast other member inLast
    rw [List.mem_singleton.1 isLast] at inLast
    rcases List.mem_append.1 inLast with had | added
    · exact new first isFirst handles List.mem_cons_self other member had
    · exact unshared ⟨first, isFirst, List.mem_singleton.1 added ▸ member⟩
  · rcases listed_last.1 inside with own | others
    · rcases List.mem_append.1 own with had | added
      · exact accounts.nonzero other (listed_last.2 (.inl had))
      · exact List.mem_singleton.1 added ▸ nonzero
    · exact accounts.nonzero other (listed_last.2 (.inr others))

/-- What one owner lists, no other does. -/
theorem Accounts.own_unlisted (accounts : Accounts calls (front ++ handles :: back))
    (member : handle ∈ handles) : ¬ Listed (front ++ back) handle := by
  obtain ⟨_, later, between⟩ := List.pairwise_append.1 accounts.apart
  rintro ⟨others, among, inOthers⟩
  rcases List.mem_append.1 among with inFront | inBack
  · exact between others inFront handles List.mem_cons_self handle inOthers member
  · exact (List.pairwise_cons.1 later).1 others inBack handle member inOthers

end Accounts

section Closing
variable {world : World} {listed front back : List (List Nat)} {handles : List Nat}

/-- Open handles are closed one by one, each once. -/
theorem closeHandles_spec (distinct : handles.Nodup)
    (opened : ∀ handle ∈ handles, IsOpen world.calls handle) (closes : ClosesOpen world.calls)
    (unlisted : ∀ handle ∈ handles, ¬ Listed listed handle) :
    let after := handles.foldl (fun world handle => world.note (.gemClose handle)) world
    ClosesOpen after.calls ∧
      (∀ handle, IsOpen after.calls handle ↔ IsOpen world.calls handle ∧ handle ∉ handles) ∧
      ClosesUnlisted listed world.calls after.calls := by
  induction handles generalizing world with
  | nil => exact ⟨closes, fun handle => (and_iff_left List.not_mem_nil).symm, .same⟩
  | cons first rest ih =>
    obtain ⟨fresh, distinct⟩ := List.nodup_cons.1 distinct
    have stillOpen : ∀ handle ∈ rest, IsOpen (world.note (.gemClose first)).calls handle :=
      fun handle member => ⟨fun same => fresh (same ▸ member), opened handle (.tail _ member)⟩
    obtain ⟨closes, left, unlistedRest⟩ := ih distinct stillOpen
      ⟨opened first List.mem_cons_self, closes⟩
      fun handle member => unlisted handle (.tail _ member)
    have closed : ClosesUnlisted listed world.calls (world.note (.gemClose first)).calls :=
      .one fun handle same => by
        cases same
        exact unlisted first List.mem_cons_self
    refine ⟨closes, fun handle => ?_, closed.trans unlistedRest⟩
    rw [List.foldl_cons, left handle]
    change (first ≠ handle ∧ IsOpen world.calls handle) ∧ handle ∉ rest ↔ _
    rw [List.mem_cons, not_or, ne_comm, and_assoc, and_left_comm]

theorem removeFramebuffer_passes (framebuffer : Nat) (world : World) :
    Extends passesNone world.calls (removeFramebuffer framebuffer world).calls := by
  unfold removeFramebuffer
  split
  · exact .same
  · exact .one id

/-- One owner is destroyed. The others keep their handles. -/
theorem destroyImported_accounts {imported : ImportedFramebuffer}
    (accounts : Accounts world.calls (front ++ imported.handles :: back)) :
    Accounts (destroyImported imported world).calls (front ++ back) ∧
      ClosesUnlisted (front ++ back) world.calls (destroyImported imported world).calls := by
  have passed := removeFramebuffer_passes imported.framebuffer world
  have removed := accounts.neutral passed
  have own : ∀ handle ∈ handlesToClose imported.handles, ¬ Listed (front ++ back) handle :=
    fun handle member => accounts.own_unlisted (mem_handlesToClose.1 member).1
  have opened : ∀ handle ∈ handlesToClose imported.handles,
      IsOpen (removeFramebuffer imported.framebuffer world).calls handle :=
    fun handle member =>
      (removed.used handle).2 (listed_middle.2 (.inl (mem_handlesToClose.1 member).1))
  obtain ⟨closes, left, unlisted⟩ :=
    closeHandles_spec (eraseDups_nodup _) opened removed.closes own
  refine ⟨⟨fun handle => ?_, ?_, fun handle inside => ?_, closes⟩,
    (closesUnlisted_none passed).trans unlisted⟩
  · refine (left handle).trans ?_
    rw [removed.used, listed_middle]
    constructor
    · rintro ⟨mine | others, open_⟩
      · have nonzero := accounts.nonzero handle (listed_middle.2 (.inl mine))
        exact absurd (mem_handlesToClose.2 ⟨mine, nonzero⟩) open_
      · exact others
    · exact fun others => ⟨.inr others, fun closed => own handle closed others⟩
  · obtain ⟨inFront, later, between⟩ := List.pairwise_append.1 accounts.apart
    refine List.pairwise_append.2 ⟨inFront, (List.pairwise_cons.1 later).2, ?_⟩
    exact fun first isFirst second isSecond => between first isFirst second (.tail _ isSecond)
  · exact accounts.nonzero handle (listed_middle.2 (.inr inside))

/-- An import that fails destroys the newest owner, which has no framebuffer. -/
theorem destroyNewest_accounts (accounts : Accounts world.calls (listed ++ [handles])) :
    Accounts (destroyImported ⟨0, handles⟩ world).calls listed ∧
      ClosesUnlisted listed world.calls (destroyImported ⟨0, handles⟩ world).calls := by
  have newest : Accounts world.calls
      (listed ++ (⟨0, handles⟩ : ImportedFramebuffer).handles :: []) := accounts
  have destroyed := destroyImported_accounts newest
  rw [List.append_nil] at destroyed
  exact destroyed

theorem destroyAll_accounts (cached : List CachedFramebuffer)
    (accounts : Accounts world.calls (owners cached)) :
    Accounts (cached.foldl (fun world cached => destroyImported cached.imported world) world).calls
      [] := by
  induction cached generalizing world with
  | nil => exact accounts
  | cons entry rest ih =>
    have first : Accounts world.calls ([] ++ entry.imported.handles :: owners rest) := accounts
    exact ih (destroyImported_accounts first).1

/-- Emptying the cache closes everything. -/
theorem destroyCache_accounts (accounts : Accounted world) :
    Accounts (destroyVideoFramebufferCache world).calls [] := by
  have cleared : Accounts (clearCurrent world).calls (owners world.video.cache) := accounts
  exact destroyAll_accounts world.video.cache cleared

theorem evict_cache (world : World) :
    (evictVideoFramebufferIfNeeded world).video.cache = staying world.video.cache := by
  unfold evictVideoFramebufferIfNeeded staying
  cases cache : world.video.cache with
  | nil => exact cache
  | cons first rest =>
    dsimp only
    split
    · exact cache
    · rfl

theorem evict_accounts (accounts : Accounted world) :
    Accounts (evictVideoFramebufferIfNeeded world).calls (owners (staying world.video.cache)) ∧
      ClosesUnlisted (owners (staying world.video.cache)) world.calls
        (evictVideoFramebufferIfNeeded world).calls := by
  rw [← evict_cache]
  rcases evict_cases world with same | ⟨first, rest, front, back, cache, _, parts, evicted⟩
  · rw [same]
    exact ⟨accounts, .same⟩
  · unfold Accounted at accounts
    rw [cache, parts, owners, List.map_append, List.map_cons] at accounts
    rw [evicted]
    have destroyed := destroyImported_accounts accounts
    rw [← List.map_append] at destroyed
    exact destroyed

end Closing

section Importing
variable {world : World} {reply : ImportReply} {listed : List (List Nat)}

/-- What a call closes, none of these owners lists, and the accounts are right after it. -/
def Settles (listed : List (List Nat)) (world : World) (owned : List (List Nat)) (after : World) :
    Prop :=
  Accounts after.calls owned ∧ ClosesUnlisted listed world.calls after.calls

theorem known_had {known : List (Int × Nat)} {handles : List Nat}
    (had : ∀ fd handle, known.lookup fd = some handle → handle ∈ handles)
    (fd other : Int) (new handle : Nat)
    (found : (known ++ [(fd, new)]).lookup other = some handle) : handle ∈ handles ++ [new] := by
  rw [List.lookup_append, Option.or_eq_some_iff] at found
  rcases found with earlier | ⟨_, last⟩
  · exact List.mem_append_left _ (had other handle earlier)
  · rw [List.lookup_cons] at last
    split at last
    · cases last
      exact List.mem_append_right _ (List.mem_singleton_self _)
    · cases last

/-- The loop over the planes. The handles it has so far are the newest owner. -/
theorem importHandles_settles (known : List (Int × Nat)) (handles : List Nat) (fds : List Int)
    (valid : ∀ fd ∈ fds, 0 ≤ fd)
    (nonzero : ∀ plane handle, reply.handles plane = some handle → handle ≠ 0)
    (had : ∀ fd handle, known.lookup fd = some handle → handle ∈ handles)
    (unshared : ∀ handle ∈ obtained reply known handles.length fds, ¬ Listed listed handle)
    (accounts : Accounts world.calls (listed ++ [handles])) :
    Ends (importHandles reply known handles fds) world
      (fun got after => Settles listed world (listed ++ [got]) after)
      (fun after => Settles listed world listed after) := by
  induction fds generalizing known handles world with
  | nil => exact ends_pure ⟨accounts, .same⟩
  | cons fd rest ih =>
    have later := fun other member => valid other (List.mem_cons_of_mem fd member)
    unfold importHandles
    refine ends_check_bind (fun _ => ?_)
      fun negative => absurd (valid fd List.mem_cons_self) negative
    unfold obtained at unshared
    cases seen : known.lookup fd with
    | some handle =>
      rw [seen] at unshared
      refine ih known (handles ++ [handle]) later (fun other known_ found => ?_) ?_
        (accounts.repeated (had fd handle seen))
      · exact List.mem_append_left _ (had other known_ found)
      · rw [List.length_append]
        exact unshared
    | none =>
      rw [seen] at unshared
      cases answer : reply.handles handles.length with
      | none =>
        exact ends_change_bind (ends_giveUp (destroyNewest_accounts accounts))
      | some handle =>
        rw [answer] at unshared
        have imported : Accounts (world.note (.primeImport fd handle)).calls
            (listed ++ [handles ++ [handle]]) :=
          accounts.imported (nonzero _ _ answer) (unshared handle List.mem_cons_self)
        have noted : ClosesUnlisted listed world.calls
            (world.note (.primeImport fd handle)).calls := .one (by
          intro _ same
          cases same)
        refine ends_change_bind ((ih (known ++ [(fd, handle)]) (handles ++ [handle]) later
          (fun other new found => known_had had fd other handle new found) ?_ imported).imp
            (fun _ _ settled => ⟨settled.1, noted.trans settled.2⟩)
            fun _ settled => ⟨settled.1, noted.trans settled.2⟩)
        rw [List.length_append]
        exact fun other member => unshared other (List.mem_cons_of_mem _ member)

theorem mapM_defined {items : List α} {image : α → Option β}
    (made : items.mapM image = some images) : ∀ item ∈ items, image item ≠ none := by
  induction items generalizing images with
  | nil => exact fun item member => nomatch member
  | cons first rest ih =>
    rw [List.mapM_cons] at made
    obtain ⟨value, found, made⟩ := Option.bind_eq_some_iff.1 made
    obtain ⟨values, foundRest, _⟩ := Option.bind_eq_some_iff.1 made
    intro item member
    rcases List.mem_cons.1 member with same | later
    · rw [same, found]
      exact Option.some_ne_none value
    · exact ih foundRest item later

/-- A frame with a key has planes, and an fd for each. -/
theorem fds_valid (keyed : makeFrameKey frame reply = some key) :
    (frame.planeCount ≠ 0 ∧ frame.planeCount ≤ 4) ∧ ∀ fd ∈ planeFds frame, 0 ≤ fd := by
  unfold makeFrameKey at keyed
  obtain ⟨_, guarded, keyed⟩ := Option.bind_eq_some_iff.1 keyed
  obtain ⟨identities, identified, _⟩ := Option.bind_eq_some_iff.1 keyed
  refine ⟨(Option.guard_eq_some' _).1 guarded, fun fd member => ?_⟩
  obtain ⟨plane, counted, same⟩ := List.mem_map.1 member
  have defined := mapM_defined identified plane counted
  by_contra negative
  rw [if_pos (by omega)] at defined
  exact defined rfl

/-- An import adds one owner, or closes what it got. -/
theorem importVideoFrame_settles (keyed : makeFrameKey frame reply = some key)
    (nonzero : ∀ plane handle, reply.handles plane = some handle → handle ≠ 0)
    (unshared : ∀ handle ∈ obtained reply [] 0 (planeFds frame), ¬ Listed listed handle)
    (accounts : Accounts world.calls listed) :
    Ends (importVideoFrame frame key reply) world
      (fun imported after => Settles listed world (listed ++ [imported.handles]) after)
      (fun after => Settles listed world listed after) := by
  obtain ⟨planes, valid⟩ := fds_valid keyed
  refine ends_check_bind (fun _ => ?_) fun wrong => absurd planes wrong
  have loop := importHandles_settles [] [] (planeFds frame) valid nonzero
    (fun _ _ found => nomatch found) unshared accounts.begin
  refine Ends.bind loop ?_
  intro handles middle settled
  cases reply.framebuffer with
  | none =>
    have destroyed := destroyNewest_accounts settled.1
    exact ends_change_bind (ends_giveUp ⟨destroyed.1, settled.2.trans destroyed.2⟩)
  | some proposed =>
    have added : Extends passesNone middle.calls (middle.note
        (.addFramebuffer (newFramebuffer middle.calls proposed) (.imported key))).calls := .one id
    exact ⟨settled.1.neutral added, settled.2.trans (closesUnlisted_none added)⟩

theorem touch_owners (key : FrameKey) (serial : Nat) (cache : List CachedFramebuffer) :
    owners (touch key serial cache) = owners cache := by
  induction cache with
  | nil => rfl
  | cons entry rest ih =>
    unfold touch
    split
    · rfl
    · exact congrArg (entry.imported.handles :: ·) ih

/-- The accounts are right, and the calls since closed nothing that these owners list. -/
def Keeps (listed : List (List Nat)) (world after : World) : Prop :=
  Settles listed world (owners after.video.cache) after

theorem findOrImport_keeps
    (nonzero : ∀ plane handle, reply.handles plane = some handle → handle ≠ 0)
    (unshared : FrameUnshared frame reply world.video.cache (staying world.video.cache))
    (accounts : Accounted world) :
    Ends (findOrImportVideoFramebuffer frame reply) world
      (fun _ after => Keeps (owners (staying world.video.cache)) world after)
      (fun after => Keeps (owners (staying world.video.cache)) world after) := by
  unfold findOrImportVideoFramebuffer
  cases keyed : makeFrameKey frame reply with
  | none => exact ends_giveUp ⟨accounts, .same⟩
  | some key =>
    refine ends_change_bind (ends_read_bind ?_)
    rw [show (countFrame world).video.cache = world.video.cache from rfl]
    cases found : world.video.cache.find? (·.key = key) with
    | some entry =>
      refine ends_change_bind (ends_pure ⟨?_, .same⟩)
      change Accounts world.calls (owners (touch key _ world.video.cache))
      rw [touch_owners]
      exact accounts
    | none =>
      have counted : Accounts (countFrame world).calls (owners (countFrame world).video.cache) :=
        accounts
      obtain ⟨evicted, unlisted⟩ := evict_accounts counted
      have cache := evict_cache (countFrame world)
      have imports := importVideoFrame_settles keyed nonzero (unshared key keyed found) evicted
      have still : ∀ after, ownState after =
          ownState (evictVideoFramebufferIfNeeded (countFrame world)) →
          after.video.cache = staying world.video.cache := fun after same =>
        (part_of_state (fun world => world.video.cache) (fun _ => rfl) same).trans cache
      have both := imports.and ((importVideoFrame_state frame key reply).ends _)
      refine ends_change_bind (Ends.bind (both.imp (fun _ _ done => done) ?_) ?_)
      · rintro after ⟨settled, same⟩
        unfold Keeps
        rw [still after same]
        exact ⟨settled.1, unlisted.trans settled.2⟩
      · rintro imported after ⟨settled, same⟩
        refine ends_change_bind (ends_pure ⟨?_, unlisted.trans settled.2⟩)
        change Accounts after.calls (owners (after.video.cache ++ [_]))
        rw [owners, List.map_append, still after same]
        exact settled.1

end Importing

section Presenting
variable {setup : Setup} {world : World} {listed : List (List Nat)}

theorem Keeps.trans {middle after : World} (first : Keeps listed world middle)
    (passed : Extends passesNone middle.calls after.calls)
    (cache : after.video.cache = middle.video.cache) : Keeps listed world after := by
  unfold Keeps
  rw [cache]
  exact ⟨first.1.neutral passed, first.2.trans (closesUnlisted_none passed)⟩

theorem flow_passes {calls after : List DeviceCall}
    (grown : Extends handlesFlowFrames calls after) : Extends passesNone calls after :=
  grown.imp fun call _ handles passes => by
    cases call with
    | primeImport fd handle => exact handles.elim
    | gemClose handle => exact handles.elim
    | addFramebuffer framebuffer content => exact passes.elim
    | removeFramebuffer framebuffer named => exact passes.elim
    | atomicRequest request applied => exact passes.elim
    | lockFrontBuffer buffer => exact passes.elim
    | releaseBuffer buffer flowPlane => exact passes.elim

theorem commit_passes (setup : Setup) (video : VideoPart) (flowFramebuffer : Nat)
    (nonblocking : Bool) (reply : CommitReply) (world : World) :
    Ends (commit setup video flowFramebuffer nonblocking reply) world
      (fun _ after => Extends passesNone world.calls after.calls)
      (fun after => Extends passesNone world.calls after.calls) := by
  have one : ∀ request applied (after : World),
      after.calls = .atomicRequest request applied :: world.calls →
      Extends passesNone world.calls after.calls := by
    intro request applied after calls
    rw [calls]
    exact .one id
  refine (commit_spec setup video flowFramebuffer nonblocking reply world).imp ?_ ?_
  · exact fun _ after spec => one _ _ after spec.2.calls
  · rintro after ⟨_, failed | ⟨_, applied⟩⟩
    · rcases failed.calls with same | noted
      · rw [same]
        exact .same
      · exact one _ _ after noted
    · exact one _ _ after applied.calls

theorem conclude_cache (picture : Picture) (video : VideoPart) (acquired : AcquiredFlow)
    (committed : Bool) (world : World) :
    (conclude picture video acquired committed world).video.cache = world.video.cache := by
  unfold conclude
  split
  · have adopted := fun after =>
      congrArg (fun parts => parts.2.1.cache) (adoptFlowFramebuffer_beside acquired after)
    cases picture with
    | dmabuf frame => exact adopted (rememberVideo video world)
    | cpu frame => exact adopted (rememberVideo video world)
    | overlay => exact adopted world
  · exact part_of_state (fun world => world.video.cache) (fun _ => rfl)
      (releaseBuffer_state acquired.bo world)

/-- What follows the first phase leaves the handles alone. -/
theorem shown_keeps {middle : World} (keeps : Keeps listed world middle) :
    Ends (acquireFlowFramebuffer setup updateFlowFrame locked >>= fun acquired =>
        showPicture setup picture video acquired updateFlowFrame reply) middle
      (fun _ after => Keeps listed world after) (fun after => Keeps listed world after) := by
  have acquiring := ((acquireFlowFramebuffer_grows setup updateFlowFrame locked).ends middle).and
    ((acquireFlowFramebuffer_beside setup updateFlowFrame locked).ends middle)
  have taken : ∀ after, Extends handlesFlowFrames middle.calls after.calls ∧
      besideFlow after = besideFlow middle → Keeps listed world after := by
    rintro after ⟨grown, beside⟩
    exact keeps.trans (flow_passes grown) (congrArg (fun parts => parts.2.1.cache) beside)
  refine (acquiring.imp (fun _ after => taken after) taken).bind fun acquired after keeps => ?_
  have committing := (commit_passes setup video acquired.framebuffer
    (nonblockingAllowed picture updateFlowFrame acquired) reply after).and
      ((commit_beside setup video acquired.framebuffer
        (nonblockingAllowed picture updateFlowFrame acquired) reply).ends after)
  have concluded : ∀ committed last, Extends passesNone after.calls last.calls ∧
      besideOutput last = besideOutput after →
      Keeps listed world (conclude picture video acquired committed last) := by
    rintro committed last ⟨passed, beside⟩
    have kept := keeps.trans passed (congrArg (fun parts => parts.2.1.cache) beside)
    exact kept.trans (flow_passes (conclude_grows picture video acquired committed last))
      (conclude_cache picture video acquired committed last)
  exact showPicture_ends (committing.imp (fun _ last => concluded true last) (concluded false))

/-- What holds once the video plane is chosen. -/
structure Ready (setup : Setup) (presented : Presented) (world after : World) : Prop where
  keeps : Keeps (owners (kept presented world)) world after
  stays : staying after.video.cache = kept presented world
  unshared : (ensureFlowPlane setup.display presented.reply.flowPlanes after).1 = some () →
    FrameUnshared presented.frame presented.reply.imported after.video.cache (kept presented world)

theorem ensureVideoPlane_ready {presented : Presented} (unshared : Unshared setup world presented)
    (accounts : Accounted world) :
    Ends (ensureVideoPlane setup.display presented.reply.videoPlanes presented.frame.drmFormat
        (presented.frame.modifiers.getD 0 0)) world
      (fun _ after => Ready setup presented world after)
      (fun after => Keeps (owners (kept presented world)) world after) := by
  by_cases empties : emptiesCache presented world = true
  · have none_ : kept presented world = [] := if_pos empties
    have without : Accounted (withoutVideoPlane world) := accounts
    have destroyed := destroyCache_accounts without
    have removed : Grows (change destroyVideoFramebufferCache) World.calls
        (handlesFramebuffers isVideo) := destroyVideoFramebufferCache_grows
    have grown := closesUnlisted_nil (removed (withoutVideoPlane world))
    have emptied : ∀ after : World, (after.video, besidePicture after, after.calls) =
        ((destroyVideoFramebufferCache (withoutVideoPlane world)).video,
          besidePicture (destroyVideoFramebufferCache (withoutVideoPlane world)),
          (destroyVideoFramebufferCache (withoutVideoPlane world)).calls) →
        after.video.cache = [] ∧ Keeps (owners (kept presented world)) world after := by
      intro after same
      have cache : after.video.cache = [] := congrArg (fun parts => parts.1.cache) same
      have calls : after.calls = (destroyVideoFramebufferCache (withoutVideoPlane world)).calls :=
        congrArg (fun parts => parts.2.2) same
      unfold Keeps Settles
      rw [none_, cache, calls]
      exact ⟨rfl, destroyed, grown⟩
    unfold emptiesCache at empties
    refine ends_read_bind ?_
    rw [if_pos empties]
    refine ends_change_bind (ends_change_bind (((choose_beside _).ends _).imp ?_ ?_))
    · intro _ after same
      obtain ⟨cache, keeps⟩ := emptied after same
      exact ⟨keeps, by rw [none_, cache]; rfl, fun _ key _ _ handle _ => none_ ▸ not_listed_nil⟩
    · exact fun after same => (emptied after same).2
  · have all : kept presented world = staying world.video.cache := if_neg empties
    unfold emptiesCache at empties
    refine ends_read_bind ?_
    rw [if_neg empties]
    exact ends_pure ⟨⟨accounts, .same⟩, all.symm, unshared⟩

theorem prepare_keeps {presented : Presented} (unshared : Unshared setup world presented)
    (accounts : Accounted world) :
    Ends (prepare setup (.dmabuf presented.frame) presented.reply) world
      (fun _ after => Keeps (owners (kept presented world)) world after)
      (fun after => Keeps (owners (kept presented world)) world after) := by
  have same : ∀ {middle after : World}, (after.video, besidePicture after, after.calls) =
      (middle.video, besidePicture middle, middle.calls) →
      after.video.cache = middle.video.cache ∧ after.calls = middle.calls := fun same =>
    ⟨congrArg (fun parts => parts.1.cache) same, congrArg (fun parts => parts.2.2) same⟩
  refine (ensureVideoPlane_ready unshared accounts).bind fun _ chosen ready => ?_
  have flow := ((ensureFlowPlane_beside setup.display presented.reply.flowPlanes).ends chosen).and
    (ends_self (ensureFlowPlane setup.display presented.reply.flowPlanes) chosen)
  have left : ∀ after, after.video.cache = chosen.video.cache ∧ after.calls = chosen.calls →
      Keeps (owners (kept presented world)) world after := by
    rintro after ⟨cache, calls⟩
    unfold Keeps Settles
    rw [cache, calls]
    exact ready.keeps
  refine (flow.imp (fun _ _ done => done) fun after done => left after (same done.1)).bind ?_
  rintro _ planned ⟨kept_, found⟩
  have fresh := ready.unshared (congrArg Prod.fst found)
  refine (((ensureUiPlane_beside setup.display presented.reply.uiPlanes).ends planned).imp
    (fun _ _ done => done) ?_).bind ?_
  · intro after done
    exact left after ⟨(same done).1.trans (same kept_).1, (same done).2.trans (same kept_).2⟩
  · intro _ last done
    have cache := (same done).1.trans (same kept_).1
    have calls := (same done).2.trans (same kept_).2
    have keeps := left last ⟨cache, calls⟩
    have stays : staying last.video.cache = kept presented world := cache ▸ ready.stays
    have unshared : FrameUnshared presented.frame presented.reply.imported last.video.cache
        (staying last.video.cache) := stays ▸ cache ▸ fresh
    have importing := findOrImport_keeps presented.nonzero unshared keeps.1
    rw [stays] at importing
    have through : ∀ after, Keeps (owners (kept presented world)) last after →
        Keeps (owners (kept presented world)) world after :=
      fun after later => ⟨later.1, keeps.2.trans later.2⟩
    exact (importing.imp (fun _ => through) through).bind fun _ _ keeps => ends_pure keeps

theorem step_keeps {presented : Presented} (unshared : Unshared setup world presented)
    (accounts : Accounted world) :
    Keeps (owners (kept presented world)) world (step setup world presented) :=
  ((prepare_keeps unshared accounts).bind fun _ _ keeps => shown_keeps keeps).after

end Presenting

/-- Whichever entry of the cache is destroyed, the others list nothing that is closed. -/
def DestroysOwn (cache : List CachedFramebuffer) : Prop :=
  ∀ front entry back, cache = front ++ entry :: back →
    ∀ handle ∈ handlesToClose entry.imported.handles, ¬ Listed (owners (front ++ back)) handle

/-- Handles are closed once, and not while another entry lists them: before the next frame,
when it is presented, and when the cache is emptied. -/
structure ClosedOnce (setup : Setup) (world : World) (presented : Presented) : Prop where
  before : Accounted world
  after : Accounted (step setup world presented)
  others : ClosesUnlisted (owners (kept presented world)) world.calls
    (step setup world presented).calls
  destroys : DestroysOwn world.video.cache
  emptied : Accounts (destroyVideoFramebufferCache world).calls []

theorem accounts_destroysOwn {calls : List DeviceCall} (accounts : Accounts calls (owners cache)) :
    DestroysOwn cache := by
  intro front entry back parts handle closed
  rw [parts, owners, List.map_append, List.map_cons] at accounts
  have unlisted := accounts.own_unlisted (mem_handlesToClose.1 closed).1
  rw [← List.map_append] at unlisted
  exact unlisted

theorem create_accounts (setup : Setup) (uiSurface : Nat × Nat) :
    Accounted (create setup uiSurface) where
  used := fun _ => ⟨False.elim, not_listed_nil⟩
  apart := .nil
  nonzero := fun _ listed => absurd listed not_listed_nil
  closes := trivial

/-- As long as no frame that is imported shares a buffer with an entry that stays. -/
theorem handles_closed_once (setup : Setup) (uiSurface : Nat × Nat) (run : List Presented)
    (presented : Presented) (meets : Meets (step setup) (Unshared setup) (create setup uiSurface)
      (run ++ [presented])) :
    ClosedOnce setup (run.foldl (step setup) (create setup uiSurface)) presented := by
  obtain ⟨meets, unshared, _⟩ := meets_append.1 meets
  have stays : ∀ world presented, Accounted world → Unshared setup world presented →
      Accounted (step setup world presented) :=
    fun _ _ accounts unshared => (step_keeps unshared accounts).1
  have accounts := invariant_after_run run stays (create_accounts setup uiSurface) meets
  have keeps := step_keeps unshared accounts
  exact ⟨accounts, keeps.1, keeps.2, accounts_destroysOwn accounts, destroyCache_accounts accounts⟩

/-- A frame in the buffer `buffer`, from a byte of it on. The handle is the buffer's. -/
def pooledFrame (buffer offset : Nat) (framebuffer : Option Nat) : Presented where
  frame := ⟨640, 480, formatXrgb8888, 1, [buffer], [2560], [offset], [modifierLinear]⟩
  reply.imported := {
    identities := fun _ => some (0, buffer), handles := fun _ => some (buffer + 1), framebuffer }
  nonzero := fun _ _ same => by
    cases same
    exact Nat.succ_ne_zero _

instance (listed : List (List Nat)) (handle : Nat) : Decidable (Listed listed handle) :=
  inferInstanceAs (Decidable (∃ handles ∈ listed, handle ∈ handles))

instance (frame : DmabufVideoFrame) (reply : ImportReply)
    (cache remaining : List CachedFramebuffer) :
    Decidable (FrameUnshared frame reply cache remaining) :=
  inferInstanceAs (Decidable (∀ key ∈ makeFrameKey frame reply, cache.find? (·.key = key) = none →
    ∀ handle ∈ obtained reply [] 0 (planeFds frame), ¬ Listed (owners remaining) handle))

instance (setup : Setup) (world : World) (presented : Presented) :
    Decidable (Unshared setup world presented) :=
  inferInstanceAs (Decidable (_ → _))

theorem two_buffers_closed_once :
    let run := [pooledFrame 5 0 (some 1), pooledFrame 6 0 (some 1), pooledFrame 5 0 (some 1)]
    ClosedOnce (plainSetup rgbPlanes) (run.foldl (step (plainSetup rgbPlanes))
      (create (plainSetup rgbPlanes) (0, 0))) (pooledFrame 7 0 none) :=
  handles_closed_once (plainSetup rgbPlanes) (0, 0) _ _ (by decide +kernel)

theorem not_open_once_closed {calls : List DeviceCall}
    (last : calls.head? = some (.gemClose handle)) : ¬ IsOpen calls handle := by
  obtain ⟨earlier, same⟩ := List.head?_eq_some_iff.1 last
  subst same
  exact fun open_ => open_.1 rfl

/-- Two pictures in one buffer: no framebuffer is created for the second, and its handle is
closed, which is the handle of the first. -/
theorem failed_import_closes_shared :
    ¬ ClosedOnce (plainSetup rgbPlanes) ([pooledFrame 5 0 (some 1)].foldl
      (step (plainSetup rgbPlanes)) (create (plainSetup rgbPlanes) (0, 0)))
      (pooledFrame 5 4096 none) := by
  intro closed
  have open_ := (closed.after.used 6).2 (by decide +kernel)
  exact not_open_once_closed (by decide +kernel) open_

end Glide.GemHandles
