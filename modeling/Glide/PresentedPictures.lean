import Glide.HeldFramebuffers
import Glide.KmsDmabufVideoPlane
import Glide.Library.LiveNames
import Glide.Library.Runs

/-! What the planes of the player show. A frame that is presented takes the place of the one before,
and a frame that cannot be presented leaves it, unless its plane or its buffer had to go first. No
framebuffer is forgotten, and no eviction takes one that is shown. -/
namespace Glide.PresentedPictures
open Library Attempts DrmCalls LiveNames CompositorPhases HeldFramebuffers KmsDmabufVideoPlane
open KmsPlanes (PlaneAssignment PlaneReport withVideoPlane formatXrgb8888 modifierLinear)
open KmsAtomicCompositor (World DmabufVideoFrame CpuVideoFrame CachedFramebuffer ImportedFramebuffer
  ImportReply DumbReply maxCachedFramebuffers touch countFrame withCache clearCurrent emptyCache
  choose makeFrameKey importVideoFrame destroyImported removeFramebuffer createDumbBuffer
  withCpuVideo destroyCpuVideoBuffer cpuVideoDiffers ensureCpuVideoBuffer videoPlaneDiffers
  sourceSize scanoutFor scaledVideoDestination)

/-- What a plane shows: of what, which part of it and where. -/
structure Shown where
  content : Content
  source : Nat × Nat
  destination : PlaneRect
deriving DecidableEq

def shown (calls : List DeviceCall) (plane : Nat) : Option Shown :=
  (scanoutOf calls plane).bind fun scanout =>
    (contentOf calls scanout.framebuffer).map fun content =>
      ⟨content, (scanout.sourceWidth, scanout.sourceHeight), scanout.destination⟩

/-! ### Calls that show nothing else -/

section Calls
variable {calls after : List DeviceCall}

/-- Every plane shows what it showed, or nothing. -/
def Fewer (calls after : List DeviceCall) : Prop :=
  ∀ plane, shown after plane = shown calls plane ∨ shown after plane = none

theorem Fewer.trans (first : Fewer before middle) (second : Fewer middle after) :
    Fewer before after := by
  intro plane
  rcases second plane with same | dark
  · rw [same]
    exact first plane
  · exact .inr dark

theorem fewer_of_same (same : shown after = shown calls) : Fewer calls after :=
  fun plane => .inl (congrFun same plane)

theorem fewer_of_scanned (scanned : ∀ plane scanout, scanoutOf after plane = some scanout →
    scanoutOf calls plane = some scanout ∧
      contentOf after scanout.framebuffer = contentOf calls scanout.framebuffer) :
    Fewer calls after := by
  intro plane
  unfold shown
  cases found : scanoutOf after plane with
  | none => exact .inr rfl
  | some scanout =>
    obtain ⟨was, same⟩ := scanned plane scanout found
    rw [was, Option.bind_some, Option.bind_some, same]
    exact .inl rfl

theorem shown_congr (scanouts : scanoutOf after = scanoutOf calls)
    (contents : ∀ plane scanout, scanoutOf calls plane = some scanout →
      contentOf after scanout.framebuffer = contentOf calls scanout.framebuffer) :
    shown after = shown calls := by
  funext plane
  unfold shown
  rw [scanouts]
  cases found : scanoutOf calls plane with
  | none => rfl
  | some scanout => rw [Option.bind_some, Option.bind_some, contents plane scanout found]

theorem scanoutOf_passing (passed : Extends passesHandles calls after) :
    scanoutOf after = scanoutOf calls := by
  induction passed with
  | same => rfl
  | more call calls _ passes ih =>
    cases call with
    | primeImport fd handle => exact ih
    | gemClose handle => exact ih
    | addFramebuffer framebuffer content => exact passes.elim
    | removeFramebuffer framebuffer named => exact passes.elim
    | atomicRequest request applied => exact passes.elim
    | lockFrontBuffer buffer => exact passes.elim
    | releaseBuffer buffer flowPlane => exact passes.elim

theorem shown_passing (passed : Extends passesHandles calls after) : shown after = shown calls :=
  shown_congr (scanoutOf_passing passed) fun _ _ _ => by rw [contentOf_passing passed]

theorem shown_added (backed : Backed calls) (free : contentOf calls framebuffer = none) :
    shown (.addFramebuffer framebuffer content :: calls) = shown calls := by
  refine shown_congr rfl fun plane scanout scanned => ?_
  obtain ⟨kept, exists_⟩ := Option.isSome_iff_exists.mp (backed plane scanout scanned)
  rw [exists_]
  exact content_of_added free exists_

/-- A framebuffer that no plane shows is removed. -/
theorem shown_removed (hidden : ∀ plane scanout, scanoutOf calls plane = some scanout →
    scanout.framebuffer ≠ framebuffer) :
    shown (.removeFramebuffer framebuffer named :: calls) = shown calls := by
  refine shown_congr (funext fun plane => ?_) fun plane scanout scanned => ?_
  · rw [scanoutOf]
    cases found : scanoutOf calls plane with
    | none => rfl
    | some scanout =>
      exact Option.filter_eq_some_iff.mpr ⟨rfl, decide_eq_true (hidden plane scanout found)⟩
  · rw [contentOf, if_neg fun same => hidden plane scanout scanned same.symm]

theorem destroyImported_shown (imported : ImportedFramebuffer) (world : World)
    (hidden : ∀ plane scanout, scanoutOf world.calls plane = some scanout →
      scanout.framebuffer ≠ imported.framebuffer) :
    shown (destroyImported imported world).calls = shown world.calls := by
  rw [shown_passing (destroyImported_calls imported world)]
  unfold removeFramebuffer
  split
  · rfl
  · exact shown_removed hidden

end Calls

/-! ### What holds between two calls -/

/-- The framebuffers that the player has a record of. -/
def kept (device : Device) (world : World) : List (Nat × Content) :=
  (device.primaryFramebuffer, .primary) ::
    (dumbHolding .cpuVideo world.video.cpuVideo ++ cacheHoldings world.video.cache)

structure Sound (device : Device) (world : World) : Prop where
  exact : Exact (contentOf world.calls) (kept device world)
  zero : contentOf world.calls 0 = none
  room : world.video.cache.length ≤ maxCachedFramebuffers
  /-- Only the buffer in memory can be left on a plane that is no longer used. -/
  drawn : ∀ plane scanout, scanoutOf world.calls plane = some scanout →
    contentOf world.calls scanout.framebuffer = some .cpuVideo ∨
      plane = world.planes.videoPlaneId ∧
        scanout.framebuffer = world.video.currentFramebuffer ∧
        ∃ key, contentOf world.calls scanout.framebuffer = some (.imported key)

section Rules
variable {device : Device} {world before after : World}

theorem Sound.backed (sound : Sound device world) : Backed world.calls := by
  intro plane scanout scanned
  rcases sound.drawn plane scanout scanned with cpu | ⟨_, _, _, imported⟩
  · rw [cpu]
    rfl
  · rw [imported]
    rfl

theorem cached_kept {entry : CachedFramebuffer} (cached : entry ∈ world.video.cache) :
    (entry.imported.framebuffer, .imported entry.key) ∈ kept device world :=
  List.mem_cons_of_mem _ (List.mem_append_right _ (List.mem_map_of_mem cached))

theorem cpuVideo_kept (used : world.video.cpuVideo.framebuffer ≠ 0) :
    (world.video.cpuVideo.framebuffer, .cpuVideo) ∈ kept device world := by
  refine List.mem_cons_of_mem _ (List.mem_append_left _ ?_)
  unfold dumbHolding
  rw [if_neg used]
  exact List.mem_singleton_self _

theorem Sound.cached (sound : Sound device world) {entry : CachedFramebuffer}
    (cached : entry ∈ world.video.cache) :
    contentOf world.calls entry.imported.framebuffer = some (.imported entry.key) :=
  sound.exact.alive (cached_kept cached)

/-- The planes show no more than before, and the player assigns them as before. -/
theorem Sound.later (sound : Sound device before)
    (scanned : ∀ plane scanout, scanoutOf after.calls plane = some scanout →
      scanoutOf before.calls plane = some scanout ∧
        contentOf after.calls scanout.framebuffer = contentOf before.calls scanout.framebuffer)
    (planes : after.planes = before.planes)
    (current : after.video.currentFramebuffer = before.video.currentFramebuffer)
    (exact : Exact (contentOf after.calls) (kept device after))
    (zero : contentOf after.calls 0 = none)
    (room : after.video.cache.length ≤ maxCachedFramebuffers) : Sound device after := by
  refine ⟨exact, zero, room, fun plane scanout scans => ?_⟩
  obtain ⟨was, same⟩ := scanned plane scanout scans
  rw [same, planes, current]
  exact sound.drawn plane scanout was

/-- A change that the device does not notice. -/
theorem Sound.same (sound : Sound device before) (calls : after.calls = before.calls)
    (planes : after.planes = before.planes)
    (current : after.video.currentFramebuffer = before.video.currentFramebuffer)
    (cpuVideo : after.video.cpuVideo = before.video.cpuVideo)
    (cache : cacheHoldings after.video.cache = cacheHoldings before.video.cache) :
    Sound device after := by
  have length : after.video.cache.length = before.video.cache.length := by
    have lengths := congrArg List.length cache
    unfold cacheHoldings at lengths
    rwa [List.length_map, List.length_map] at lengths
  refine sound.later (fun plane scanout scanned => ?_) planes current ?_ ?_ (length ▸ sound.room)
  · rw [calls] at scanned ⊢
    exact ⟨scanned, rfl⟩
  · unfold kept
    rw [calls, cpuVideo, cache]
    exact sound.exact
  · rw [calls]
    exact sound.zero

end Rules

theorem start_sound (device : Device) : Sound device (start device) where
  exact := by
    refine ⟨fun name kind => ?_, List.nodup_singleton _⟩
    change contentOf [.addFramebuffer device.primaryFramebuffer .primary] name = some kind ↔
      (name, kind) ∈ [(device.primaryFramebuffer, Content.primary)]
    rw [contentOf, List.mem_singleton]
    by_cases own : device.primaryFramebuffer = name
    · rw [if_pos own, own]
      exact ⟨fun same => by rw [Option.some.inj same],
        fun same => congrArg some (congrArg Prod.snd same).symm⟩
    · rw [if_neg own]
      refine ⟨fun none => ?_, fun same => absurd (congrArg Prod.fst same).symm own⟩
      cases none
  zero := if_neg device.primaryExists
  room := Nat.zero_le _
  drawn := by
    intro plane scanout drawn
    cases drawn

/-! ### Eviction -/

section Eviction
variable {device : Device} {world : World}

theorem leastRecentlyUsedHidden_spec (current : Nat) (victim : Option CachedFramebuffer)
    (entries : List CachedFramebuffer) :
    match leastRecentlyUsedHidden current victim entries with
    | some found => victim = some found ∨ found ∈ entries ∧ found.imported.framebuffer ≠ current
    | none => victim = none ∧ ∀ entry ∈ entries, entry.imported.framebuffer = current := by
  induction entries generalizing victim with
  | nil =>
    unfold leastRecentlyUsedHidden
    cases victim with
    | none => exact ⟨rfl, fun _ member => absurd member List.not_mem_nil⟩
    | some found => exact .inl rfl
  | cons entry rest ih =>
    unfold leastRecentlyUsedHidden
    have later := ih (if entry.imported.framebuffer ≠ current &&
      victim.all (entry.lastUsed < ·.lastUsed) then some entry else victim)
    by_cases taken : (decide (entry.imported.framebuffer ≠ current) &&
        victim.all (entry.lastUsed < ·.lastUsed)) = true
    · rw [if_pos taken] at later ⊢
      have hidden : entry.imported.framebuffer ≠ current :=
        of_decide_eq_true (Bool.and_eq_true_iff.mp taken).1
      split at later
      · rcases later with same | ⟨member, other⟩
        · obtain rfl := Option.some.inj same
          exact .inr ⟨List.mem_cons_self, hidden⟩
        · exact .inr ⟨List.mem_cons_of_mem _ member, other⟩
      · cases later.1
    · rw [if_neg taken] at later ⊢
      split at later
      · rcases later with same | ⟨member, other⟩
        · exact .inl same
        · exact .inr ⟨List.mem_cons_of_mem _ member, other⟩
      · obtain ⟨none_, rest_current⟩ := later
        subst none_
        refine ⟨rfl, fun other member => ?_⟩
        rcases List.mem_cons.mp member with rfl | behind
        · by_contra hidden
          exact taken (by simp [hidden])
        · exact rest_current other behind

/-- The entries of the cache have framebuffers of their own. -/
theorem Sound.framebuffers_nodup (sound : Sound device world) :
    (world.video.cache.map (·.imported.framebuffer)).Nodup := by
  have once := sound.exact.once
  unfold kept at once
  rw [List.map_cons, List.nodup_cons, List.map_append, List.nodup_append] at once
  have cached := once.2.2.1
  unfold cacheHoldings at cached
  rwa [List.map_map] at cached

/-- In a full cache there is an entry that is not shown, so the first entry never has to go for want
of one. -/
theorem victimOf_hidden (sound : Sound device world)
    (full : maxCachedFramebuffers ≤ world.video.cache.length) :
    ∃ victim ∈ world.video.cache, victimOf world = some victim ∧
      victim.imported.framebuffer ≠ world.video.currentFramebuffer := by
  have spec := leastRecentlyUsedHidden_spec world.video.currentFramebuffer none world.video.cache
  unfold victimOf
  split at spec
  · rename_i victim found
    rw [found]
    obtain ⟨member, hidden⟩ := spec.resolve_left nofun
    exact ⟨victim, member, rfl, hidden⟩
  · have all_shown : world.video.cache.map (·.imported.framebuffer) =
        List.replicate world.video.cache.length world.video.currentFramebuffer := by
      refine List.eq_replicate_iff.mpr ⟨List.length_map _, fun framebuffer member => ?_⟩
      obtain ⟨entry, cached, same⟩ := List.mem_map.mp member
      exact same ▸ spec.2 entry cached
    have nodup := sound.framebuffers_nodup
    rw [all_shown, List.nodup_replicate] at nodup
    unfold maxCachedFramebuffers at full
    omega

/-- The calls of a removal, after which the handles of the import are passed back. -/
theorem destroyImported_scanned (imported : ImportedFramebuffer) (world : World)
    (backed : Backed world.calls) :
    ∀ plane scanout, scanoutOf (destroyImported imported world).calls plane = some scanout →
      scanoutOf world.calls plane = some scanout ∧
        contentOf (destroyImported imported world).calls scanout.framebuffer =
          contentOf world.calls scanout.framebuffer := by
  have grown : Extends (handlesFramebuffers isVideo) world.calls
      (destroyImported imported world).calls := destroyImported_grows imported world
  exact scanned_framebuffers grown backed

/-- One entry of the record is destroyed and taken out. -/
theorem destroyImported_exact {front back : List (Nat × Content)} {entry : CachedFramebuffer}
    (exact : Exact (contentOf world.calls)
      (front ++ (entry.imported.framebuffer, .imported entry.key) :: back))
    (zero : contentOf world.calls 0 = none) :
    Exact (contentOf (destroyImported entry.imported world).calls) (front ++ back) ∧
      contentOf (destroyImported entry.imported world).calls 0 = none := by
  have used : entry.imported.framebuffer ≠ 0 := by
    intro none_
    have alive := exact.alive (List.mem_append_right _ List.mem_cons_self)
    rw [none_, zero] at alive
    cases alive
  refine ⟨exact.remove fun wanted => ?_, ?_⟩
  · rw [destroyImported_content]
    by_cases own : entry.imported.framebuffer = wanted
    · rw [if_pos ⟨used, own⟩, if_pos own]
    · rw [if_neg fun both => own both.2, if_neg own]
  · rw [destroyImported_content, if_neg fun both => used both.2]
    exact zero

/-- An eviction disturbs no plane. -/
theorem evict_sound (sound : Sound device world) :
    Sound device (evictCachedFramebufferIfNeeded world) ∧
      shown (evictCachedFramebufferIfNeeded world).calls = shown world.calls ∧
      (evictCachedFramebufferIfNeeded world).video.cache.length < maxCachedFramebuffers ∧
      (evictCachedFramebufferIfNeeded world).planes = world.planes := by
  unfold evictCachedFramebufferIfNeeded
  split
  · rename_i room
    exact ⟨sound, rfl, room, rfl⟩
  · rename_i full
    have full : maxCachedFramebuffers ≤ world.video.cache.length := Nat.not_lt.mp full
    obtain ⟨victim, cached, chosen, hidden⟩ := victimOf_hidden sound full
    obtain ⟨front, back, _, parts, erased⟩ := List.exists_erase_eq cached
    have state := destroyImported_state victim.imported world
    have planes := part_of_state (fun world => world.planes) (fun _ => rfl) state
    have current := part_of_state (fun world => world.video.currentFramebuffer) (fun _ => rfl) state
    have cpuVideo := part_of_state (fun world => world.video.cpuVideo) (fun _ => rfl) state
    have apart : ∀ plane scanout, scanoutOf world.calls plane = some scanout →
        scanout.framebuffer ≠ victim.imported.framebuffer := by
      intro plane scanout scanned same
      rcases sound.drawn plane scanout scanned with cpu | ⟨_, shows, _⟩
      · rw [same, sound.cached cached] at cpu
        cases cpu
      · exact hidden (same.symm.trans shows)
    have record : kept device world =
        ((device.primaryFramebuffer, Content.primary) ::
          (dumbHolding .cpuVideo world.video.cpuVideo ++ cacheHoldings front)) ++
        (victim.imported.framebuffer, Content.imported victim.key) :: cacheHoldings back := by
      unfold kept cacheHoldings
      rw [parts, List.map_append, List.map_cons, List.cons_append, List.append_assoc]
    obtain ⟨exact, zero⟩ := destroyImported_exact (record ▸ sound.exact) sound.zero
    have fewer : (front ++ back).length < world.video.cache.length := by
      rw [parts, List.length_append, List.length_append, List.length_cons]
      omega
    rw [chosen]
    dsimp only
    rw [erased]
    refine ⟨?_, destroyImported_shown _ _ apart, Nat.lt_of_lt_of_le fewer sound.room, planes⟩
    refine sound.later (destroyImported_scanned _ _ sound.backed) planes current ?_ zero
      (Nat.le_of_lt (Nat.lt_of_lt_of_le fewer sound.room))
    have after : kept device (withCache (front ++ back) (destroyImported victim.imported world)) =
        ((device.primaryFramebuffer, Content.primary) ::
          (dumbHolding .cpuVideo world.video.cpuVideo ++ cacheHoldings front)) ++
        cacheHoldings back := by
      change _ :: (dumbHolding .cpuVideo (destroyImported victim.imported world).video.cpuVideo ++
        cacheHoldings (front ++ back)) = _
      unfold cacheHoldings
      rw [cpuVideo, List.map_append, List.cons_append, List.append_assoc]
    rw [after]
    exact exact

end Eviction

/-! ### The framebuffer of a frame -/

section Framebuffers
variable {device : Device} {world : World}

theorem handlesVideo_passing {before after : List DeviceCall}
    (passed : Extends passesHandles before after) (backed : Backed before) :
    ∀ plane scanout, scanoutOf after plane = some scanout → scanoutOf before plane = some scanout ∧
      contentOf after scanout.framebuffer = contentOf before scanout.framebuffer := by
  have grown : Extends (handlesFramebuffers isVideo) before after := passing_framebuffers passed
  exact scanned_framebuffers grown backed

theorem importVideoFrame_sound (frame : DmabufVideoFrame) (key : FrameKey) (reply : ImportReply)
    (sound : Sound device world) (room : world.video.cache.length < maxCachedFramebuffers)
    (serial : Nat) :
    Ends (importVideoFrame frame key reply) world
      (fun imported after =>
        Sound device (withCache (after.video.cache ++ [⟨key, imported, serial⟩]) after) ∧
          shown after.calls = shown world.calls ∧ after.planes = world.planes ∧
          contentOf after.calls imported.framebuffer = some (.imported key))
      (fun after => Sound device after ∧ shown after.calls = shown world.calls) := by
  have state := (importVideoFrame_state frame key reply).ends world
  refine ((importVideoFrame_spec frame key reply world).and state).imp ?_ ?_
  · rintro imported after ⟨⟨middle, passed, used, free, calls⟩, state⟩
    have planes := part_of_state (fun world => world.planes) (fun _ => rfl) state
    have current := part_of_state (fun world => world.video.currentFramebuffer) (fun _ => rfl) state
    have cpuVideo := part_of_state (fun world => world.video.cpuVideo) (fun _ => rfl) state
    have cache := part_of_state (fun world => world.video.cache) (fun _ => rfl) state
    have contents : contentOf middle = contentOf world.calls := contentOf_passing passed
    have scanouts : scanoutOf middle = scanoutOf world.calls := scanoutOf_passing passed
    have backed : Backed middle := by
      intro plane scanout scanned
      rw [scanouts] at scanned
      rw [contents]
      exact sound.backed plane scanout scanned
    have new : contentOf after.calls imported.framebuffer = some (.imported key) := by
      rw [calls, contentOf, if_pos rfl]
    have pictures : shown after.calls = shown world.calls := by
      rw [calls, shown_added backed free, shown_passing passed]
    refine ⟨?_, pictures, planes, new⟩
    refine sound.later (fun plane scanout scanned => ?_) planes current ?_ ?_ ?_
    · change scanoutOf after.calls plane = some scanout at scanned
      change _ ∧ contentOf after.calls _ = _
      rw [calls] at scanned ⊢
      have was : scanoutOf world.calls plane = some scanout := scanouts ▸ scanned
      obtain ⟨content, exists_⟩ := Option.isSome_iff_exists.mp (backed plane scanout scanned)
      rw [content_of_added free exists_, ← contents]
      exact ⟨was, exists_.symm⟩
    · have added : Exact (contentOf after.calls)
          ((imported.framebuffer, .imported key) :: kept device world) := by
        refine sound.exact.add (contents ▸ free) fun wanted => ?_
        rw [calls, contentOf, contents]
      refine added.perm ?_
      change List.Perm _ (_ :: (dumbHolding .cpuVideo after.video.cpuVideo ++
        cacheHoldings (after.video.cache ++ [⟨key, imported, serial⟩])))
      unfold kept cacheHoldings
      rw [cpuVideo, cache, List.map_append, ← List.append_assoc]
      exact (List.perm_append_singleton _ (_ :: _)).symm
    · change contentOf after.calls 0 = none
      rw [calls, contentOf, if_neg used, contents]
      exact sound.zero
    · change (after.video.cache ++ [_]).length ≤ _
      rw [cache, List.length_append]
      exact room
  · rintro after ⟨passed, state⟩
    have planes := part_of_state (fun world => world.planes) (fun _ => rfl) state
    have video := part_of_state (fun world => world.video) (fun _ => rfl) state
    have contents : contentOf after.calls = contentOf world.calls := contentOf_passing passed
    refine ⟨?_, shown_passing passed⟩
    refine sound.later (handlesVideo_passing passed sound.backed) planes
      (congrArg (·.currentFramebuffer) video) ?_ (contents ▸ sound.zero) (video ▸ sound.room)
    unfold kept
    rw [contents, video]
    exact sound.exact

theorem findOrImport_sound (sound : Sound device world) :
    Ends (findOrImportCachedFramebuffer frame reply) world
      (fun framebuffer after => Sound device after ∧ shown after.calls = shown world.calls ∧
        after.planes = world.planes ∧ ∃ key, makeFrameKey frame reply = some key ∧
          contentOf after.calls framebuffer = some (.imported key))
      (fun after => Sound device after ∧ shown after.calls = shown world.calls) := by
  unfold findOrImportCachedFramebuffer
  cases named : makeFrameKey frame reply with
  | none => exact ends_giveUp ⟨sound, rfl⟩
  | some key =>
    have counted : Sound device (countFrame world) := sound.same rfl rfl rfl rfl rfl
    refine ends_change_bind (ends_read_bind ?_)
    cases found : (countFrame world).video.cache.find? (·.key = key) with
    | some entry =>
      have cached : entry ∈ (countFrame world).video.cache := List.mem_of_find?_eq_some found
      have same : entry.key = key := by simpa using List.find?_some found
      refine ends_change_bind (ends_pure ⟨?_, rfl, rfl, key, rfl, ?_⟩)
      · exact counted.same rfl rfl rfl rfl (touch_holdings _ _ _)
      · exact same ▸ counted.cached cached
    | none =>
      obtain ⟨evicted, pictures, room, planes⟩ := evict_sound counted
      refine ends_change_bind ?_
      have imports := importVideoFrame_sound frame key reply evicted room
        (countFrame world).video.frameSerial
      refine Ends.bind (imports.imp (fun _ _ done => done) ?_) ?_
      · rintro after ⟨kept, same⟩
        exact ⟨kept, same.trans pictures⟩
      · rintro imported after ⟨kept, same, assigned, content⟩
        exact ends_change_bind (ends_pure
          ⟨kept, same.trans pictures, assigned.trans planes, key, rfl, content⟩)

end Framebuffers

/-! ### Showing a framebuffer -/

section Showing
variable {device : Device} {world : World}

theorem scanoutOf_setPlane (scanout : Option Scanout) (applied : Bool) (world : World)
    (plane : Nat) : scanoutOf (setPlane scanout applied world).calls plane =
      if applied = true ∧ world.planes.videoPlaneId = plane then scanout
      else scanoutOf world.calls plane := by
  change scanoutOf (.atomicRequest ⟨[(_, scanout)], _⟩ applied :: world.calls) plane = _
  rw [scanoutOf]
  cases applied with
  | false => rw [if_neg Bool.false_ne_true, if_neg fun both => Bool.false_ne_true both.1]
  | true =>
    rw [if_pos rfl, updateOf, updateOf]
    dsimp only
    by_cases own : world.planes.videoPlaneId = plane
    · rw [if_pos own, if_pos ⟨rfl, own⟩, Option.getD_some]
    · rw [if_neg own, if_neg fun both => own both.2, Option.getD_none]

theorem disableVideoPlane_sound (sound : Sound device world) (disabled : Bool) :
    Sound device (disableVideoPlane disabled world) ∧
      Fewer world.calls (disableVideoPlane disabled world).calls := by
  unfold disableVideoPlane
  split
  · exact ⟨sound, fewer_of_same rfl⟩
  · have scanned : ∀ plane scanout,
        scanoutOf (setPlane none disabled world).calls plane = some scanout →
          scanoutOf world.calls plane = some scanout ∧
            contentOf (setPlane none disabled world).calls scanout.framebuffer =
              contentOf world.calls scanout.framebuffer := by
      intro plane scanout shows
      rw [scanoutOf_setPlane] at shows
      split at shows
      · cases shows
      · exact ⟨shows, rfl⟩
    exact ⟨sound.later scanned rfl rfl sound.exact sound.zero sound.room, fewer_of_scanned scanned⟩

/-- The video plane shows the framebuffer, or everything stays. -/
theorem showFramebuffer_sound (sound : Sound device world)
    (exists_ : contentOf world.calls framebuffer = some content) (video : isVideo content) :
    Ends (showFramebuffer device framebuffer width height applied) world
      (fun _ after => Sound device after ∧ after.planes = world.planes ∧
        ∀ plane, shown after.calls plane =
          if world.planes.videoPlaneId = plane then
            some ⟨content, (sourceSize width, sourceSize height),
              scaledVideoDestination device.size width height⟩
          else shown world.calls plane)
      (fun after => Sound device after ∧ shown after.calls = shown world.calls) := by
  let scanout := scanoutFor framebuffer (width, height)
    (scaledVideoDestination device.size width height)
  have scanouts := scanoutOf_setPlane (some scanout) applied world
  refine ends_change_bind (ends_check_bind (fun accepted => ?_) fun refused => ?_)
  · subst accepted
    refine ends_change ⟨?_, rfl, fun plane => ?_⟩
    · refine ⟨sound.exact, sound.zero, sound.room, fun plane found scanned => ?_⟩
      have scanned : scanoutOf (setPlane (some scanout) true world).calls plane = some found :=
        scanned
      rw [scanouts] at scanned
      change contentOf world.calls found.framebuffer = _ ∨ plane = world.planes.videoPlaneId ∧
        found.framebuffer = framebuffer ∧ ∃ key, contentOf world.calls found.framebuffer = _
      by_cases own : world.planes.videoPlaneId = plane
      · rw [if_pos ⟨rfl, own⟩] at scanned
        obtain rfl := Option.some.inj scanned
        change contentOf world.calls framebuffer = _ ∨ _ ∧ _ ∧
          ∃ key, contentOf world.calls framebuffer = _
        cases content with
        | cpuVideo => exact .inl exists_
        | imported key => exact .inr ⟨own.symm, rfl, key, exists_⟩
        | primary | solidFlow | solidUi | writeback | flow key => exact video.elim
      · rw [if_neg fun both => own both.2] at scanned
        rcases sound.drawn plane found scanned with cpu | ⟨assigned, _⟩
        · exact .inl cpu
        · exact absurd assigned.symm own
    · change shown (setPlane (some scanout) true world).calls plane = _
      unfold shown
      rw [scanouts]
      by_cases own : world.planes.videoPlaneId = plane
      · have content_now : contentOf (setPlane (some scanout) true world).calls
            scanout.framebuffer = some content := exists_
        rw [if_pos ⟨rfl, own⟩, if_pos own, Option.bind_some, content_now]
        rfl
      · rw [if_neg fun both => own both.2, if_neg own]
        rfl
  · have same : scanoutOf (setPlane (some scanout) applied world).calls =
        scanoutOf world.calls := by
      funext plane
      rw [scanouts, if_neg fun both => refused both.1]
    refine ⟨?_, shown_congr same fun _ _ _ => rfl⟩
    exact sound.later (fun plane found scanned => ⟨same ▸ scanned, rfl⟩) rfl rfl sound.exact
      sound.zero sound.room

end Showing

/-! ### A new plane, and a new buffer in memory -/

section Changing
variable {device : Device} {world : World}

private theorem destroyAll_exact (cached : List CachedFramebuffer) (front : List (Nat × Content))
    (exact : Exact (contentOf world.calls) (front ++ cacheHoldings cached))
    (zero : contentOf world.calls 0 = none) :
    let after := cached.foldl (fun world cached => destroyImported cached.imported world) world
    Exact (contentOf after.calls) front ∧ contentOf after.calls 0 = none ∧
      ownState after = ownState world ∧
      Extends (handlesFramebuffers isVideo) world.calls after.calls := by
  induction cached generalizing world with
  | nil => exact ⟨(List.append_nil front) ▸ exact, zero, rfl, .same⟩
  | cons entry rest ih =>
    have recorded : Exact (contentOf world.calls) (front ++
        (entry.imported.framebuffer, .imported entry.key) :: cacheHoldings rest) := exact
    obtain ⟨removed, zero⟩ := destroyImported_exact recorded zero
    obtain ⟨exact, zero, state, grown⟩ := ih removed zero
    exact ⟨exact, zero, state.trans (destroyImported_state _ _),
      (destroyImported_grows entry.imported world).trans grown⟩

/-- Without the cached frames only the buffer in memory can be shown. -/
theorem destroyFramebufferCache_sound (sound : Sound device world) :
    Sound device (destroyFramebufferCache world) ∧
      Fewer world.calls (destroyFramebufferCache world).calls ∧
      ∀ plane scanout, scanoutOf (destroyFramebufferCache world).calls plane = some scanout →
        contentOf (destroyFramebufferCache world).calls scanout.framebuffer = some .cpuVideo := by
  obtain ⟨exact, zero, state, grown⟩ := destroyAll_exact world.video.cache
    ((device.primaryFramebuffer, .primary) :: dumbHolding .cpuVideo world.video.cpuVideo)
    sound.exact sound.zero
  have planes := part_of_state (fun world => world.planes) (fun _ => rfl) state
  have video := part_of_state (fun world => world.video) (fun _ => rfl) state
  have scanned := scanned_framebuffers grown sound.backed
  have record : kept device (destroyFramebufferCache world) =
      (device.primaryFramebuffer, .primary) :: dumbHolding .cpuVideo world.video.cpuVideo := by
    have cpuVideo : (destroyFramebufferCache world).video.cpuVideo = world.video.cpuVideo :=
      congrArg (·.cpuVideo) video
    change _ :: (dumbHolding .cpuVideo (destroyFramebufferCache world).video.cpuVideo ++ []) = _
    rw [cpuVideo, List.append_nil]
  have after : Sound device (destroyFramebufferCache world) := by
    have current := congrArg (·.currentFramebuffer) video
    refine sound.later scanned planes current ?_ zero (Nat.zero_le _)
    rw [record]
    exact exact
  refine ⟨after, fewer_of_scanned scanned, fun plane scanout shows => ?_⟩
  rcases after.drawn plane scanout shows with cpu | ⟨_, _, key, imported⟩
  · exact cpu
  · have recorded := (after.exact.same _ _).mp imported
    rw [record] at recorded
    rcases List.mem_cons.mp recorded with primary | cpu
    · exact absurd (congrArg Prod.snd primary) nofun
    · exact absurd (congrArg Prod.snd (mem_dumbHolding cpu).2) nofun

theorem choose_spec (choice : PlaneAssignment → Option PlaneAssignment) (world : World) :
    Ends (choose choice) world (fun _ after => ∃ planes, after = { world with planes })
      (fun after => after = world) := by
  unfold choose Ends
  dsimp only
  cases choice world.planes with
  | none => rfl
  | some planes => exact ⟨planes, rfl⟩

/-- A plane that stays is not touched; for a new one everything that was shown may go. -/
theorem ensureVideoPlane_sound (sound : Sound device world) :
    Ends (ensureVideoPlane device reply format modifier) world
      (fun _ after => Sound device after ∧ Fewer world.calls after.calls ∧
        (videoPlaneDiffers world.planes format modifier = false → after = world))
      (fun after => Sound device after ∧ Fewer world.calls after.calls ∧
        videoPlaneDiffers world.planes format modifier = true) := by
  refine ends_read_bind ?_
  split
  · rename_i differs
    obtain ⟨dark, fewer⟩ := disableVideoPlane_sound sound reply.disabled
    obtain ⟨empty, fewer', only⟩ := destroyFramebufferCache_sound dark
    let cleared := clearCurrent (destroyFramebufferCache (disableVideoPlane reply.disabled world))
    have assigned (planes : PlaneAssignment) : Sound device { cleared with planes } :=
      ⟨empty.exact, empty.zero, empty.room, fun plane scanout shows =>
        .inl (only plane scanout shows)⟩
    refine ends_change_bind (ends_change_bind (ends_change_bind ?_))
    refine (choose_spec _ _).imp ?_ ?_
    · rintro _ after ⟨planes, rfl⟩
      refine ⟨assigned planes, fewer.trans fewer', fun same => ?_⟩
      rw [differs] at same
      cases same
    · rintro after rfl
      exact ⟨assigned _, fewer.trans fewer', differs⟩
  · exact ends_pure ⟨sound, fewer_of_same rfl, fun _ => rfl⟩

theorem destroyCpuVideoBuffer_exact {front back : List (Nat × Content)}
    (exact : Exact (contentOf world.calls)
      (front ++ (dumbHolding .cpuVideo world.video.cpuVideo ++ back))) :
    Exact (contentOf (destroyCpuVideoBuffer world).calls) (front ++ back) := by
  have contents := removeFramebuffer_content world.video.cpuVideo.framebuffer world
  unfold dumbHolding at exact
  by_cases used : world.video.cpuVideo.framebuffer = 0
  · rw [if_pos used, List.nil_append] at exact
    have same : contentOf (destroyCpuVideoBuffer world).calls = contentOf world.calls := by
      funext wanted
      exact (contents wanted).trans (if_neg fun both => both.1 used)
    rw [same]
    exact exact
  · rw [if_neg used] at exact
    have recorded : Exact (contentOf world.calls)
        (front ++ (world.video.cpuVideo.framebuffer, .cpuVideo) :: back) := exact
    refine recorded.remove fun wanted => ?_
    refine (contents wanted).trans ?_
    by_cases own : world.video.cpuVideo.framebuffer = wanted
    · rw [if_pos ⟨used, own⟩, if_pos own]
    · rw [if_neg fun both => own both.2, if_neg own]

/-- The buffer in memory goes, and with it what is shown of it. -/
theorem destroyCpuVideoBuffer_sound (sound : Sound device world) :
    Sound device (destroyCpuVideoBuffer world) ∧
      ∀ plane, shown (destroyCpuVideoBuffer world).calls plane = shown world.calls plane ∨
        shown (destroyCpuVideoBuffer world).calls plane = none ∧
          (shown world.calls plane).map (·.content) = some .cpuVideo := by
  have grown : Extends (handlesFramebuffers isVideo) world.calls
      (destroyCpuVideoBuffer world).calls :=
    removeFramebuffer_grows world.video.cpuVideo.framebuffer world
  have scanned := scanned_framebuffers grown sound.backed
  have contents := removeFramebuffer_content world.video.cpuVideo.framebuffer world
  have state := removeFramebuffer_state world.video.cpuVideo.framebuffer world
  have planes := part_of_state (fun world => world.planes) (fun _ => rfl) state
  have current := part_of_state (fun world => world.video.currentFramebuffer) (fun _ => rfl) state
  have cache := part_of_state (fun world => world.video.cache) (fun _ => rfl) state
  have record : kept device (destroyCpuVideoBuffer world) =
      (device.primaryFramebuffer, .primary) :: cacheHoldings world.video.cache := by
    change _ :: ([] ++ cacheHoldings (removeFramebuffer _ world).video.cache) = _
    rw [cache, List.nil_append]
  have zero : contentOf (destroyCpuVideoBuffer world).calls 0 = none := by
    change contentOf (removeFramebuffer _ world).calls 0 = none
    rw [contents, if_neg fun both => both.1 both.2]
    exact sound.zero
  refine ⟨?_, fun plane => ?_⟩
  · refine sound.later scanned planes current ?_ zero (cache ▸ sound.room)
    rw [record]
    have recorded : Exact (contentOf world.calls) ([(device.primaryFramebuffer, Content.primary)] ++
        (dumbHolding .cpuVideo world.video.cpuVideo ++ cacheHoldings world.video.cache)) :=
      sound.exact
    exact destroyCpuVideoBuffer_exact recorded
  · by_cases other : (shown world.calls plane).map (·.content) = some .cpuVideo
    · exact (fewer_of_scanned scanned plane).imp_right fun dark => ⟨dark, other⟩
    refine .inl ?_
    unfold shown at other ⊢
    cases found : scanoutOf world.calls plane with
    | none =>
      cases later : scanoutOf (destroyCpuVideoBuffer world).calls plane with
      | none => rfl
      | some scanout =>
        have was := (scanned plane scanout later).1
        rw [found] at was
        cases was
    | some scanout =>
      have apart : ¬(world.video.cpuVideo.framebuffer ≠ 0 ∧
          world.video.cpuVideo.framebuffer = scanout.framebuffer) := by
        rintro ⟨used, same⟩
        refine other ?_
        rw [found, Option.bind_some, ← same, sound.exact.alive (cpuVideo_kept used)]
        rfl
      have content : contentOf (destroyCpuVideoBuffer world).calls scanout.framebuffer =
          contentOf world.calls scanout.framebuffer := by
        change contentOf (removeFramebuffer _ world).calls _ = _
        rw [contents, if_neg apart]
      have still : scanoutOf (destroyCpuVideoBuffer world).calls plane = some scanout := by
        change scanoutOf (removeFramebuffer _ world).calls plane = _
        unfold removeFramebuffer
        split
        · exact found
        · rename_i used
          change (scanoutOf world.calls plane).filter _ = _
          rw [found]
          exact Option.filter_eq_some_iff.mpr
            ⟨rfl, decide_eq_true fun same => apart ⟨used, same.symm⟩⟩
      rw [still, Option.bind_some, Option.bind_some, content]


theorem createDumbBuffer_sound (sound : Sound device world) (width height : Nat)
    (none_ : world.video.cpuVideo.framebuffer = 0) :
    Ends (createDumbBuffer .cpuVideo reply) world
      (fun cpuVideo after => Sound device (withCpuVideo cpuVideo width height after) ∧
        shown after.calls = shown world.calls ∧ after.planes = world.planes ∧
        cpuVideo.framebuffer ≠ 0)
      (fun after => Sound device after ∧ shown after.calls = shown world.calls) := by
  have record : kept device world =
      (device.primaryFramebuffer, .primary) :: cacheHoldings world.video.cache := by
    unfold kept dumbHolding
    rw [if_pos none_, List.nil_append]
  refine (createDumbBuffer_spec .cpuVideo reply world).imp ?_ ?_
  · rintro cpuVideo after ⟨used, free, rfl⟩
    refine ⟨?_, shown_added sound.backed free, rfl, used⟩
    refine sound.later (fun plane scanout shows => ⟨shows, ?_⟩) rfl rfl ?_ ?_ sound.room
    · obtain ⟨content, exists_⟩ := Option.isSome_iff_exists.mp (sound.backed plane scanout shows)
      rw [exists_]
      exact content_of_added free exists_
    · have added : Exact (contentOf (.addFramebuffer cpuVideo.framebuffer .cpuVideo :: world.calls))
          ((cpuVideo.framebuffer, .cpuVideo) :: kept device world) :=
        sound.exact.add free fun wanted => by rw [contentOf]
      rw [record] at added
      refine added.perm ?_
      change List.Perm _ (_ :: (dumbHolding .cpuVideo cpuVideo ++ cacheHoldings world.video.cache))
      unfold dumbHolding
      rw [if_neg used]
      exact List.Perm.swap ..
    · change contentOf (.addFramebuffer cpuVideo.framebuffer .cpuVideo :: world.calls) 0 = none
      rw [contentOf, if_neg used]
      exact sound.zero
  · rintro after (rfl | ⟨framebuffer, used, free, rfl⟩)
    · exact ⟨sound, rfl⟩
    · have contents : contentOf (.removeFramebuffer framebuffer world.video.currentFramebuffer ::
          .addFramebuffer framebuffer .cpuVideo :: world.calls) = contentOf world.calls := by
        funext wanted
        rw [contentOf, contentOf]
        split
        · rename_i same
          rw [← same, free]
        · rfl
      have scanouts : scanoutOf (.removeFramebuffer framebuffer world.video.currentFramebuffer ::
          .addFramebuffer framebuffer .cpuVideo :: world.calls) = scanoutOf world.calls := by
        funext plane
        change (scanoutOf world.calls plane).filter _ = _
        cases found : scanoutOf world.calls plane with
        | none => rfl
        | some scanout =>
          refine Option.filter_eq_some_iff.mpr ⟨rfl, decide_eq_true fun same => ?_⟩
          have backed := sound.backed plane scanout found
          rw [same, free] at backed
          cases backed
      refine ⟨sound.later (fun plane scanout shows => ?_) rfl rfl ?_ ?_ sound.room,
        shown_congr scanouts fun _ _ _ => congrFun contents _⟩
      · exact ⟨(congrFun scanouts plane).symm.trans shows, congrFun contents _⟩
      · change Exact (contentOf (.removeFramebuffer framebuffer world.video.currentFramebuffer ::
          .addFramebuffer framebuffer .cpuVideo :: world.calls)) (kept device world)
        rw [contents]
        exact sound.exact
      · exact (congrFun contents 0).trans sound.zero

/-- A buffer of the right size stays, else what is shown of it goes. -/
def SparesOthers (world after : World) (width height : Nat) : Prop :=
  ∀ plane, shown after.calls plane = shown world.calls plane ∨ shown after.calls plane = none ∧
    cpuVideoDiffers world.video width height = true ∧
      (shown world.calls plane).map (·.content) = some .cpuVideo

theorem ensureCpuVideoBuffer_sound (sound : Sound device world) :
    Ends (ensureCpuVideoBuffer width height reply) world
      (fun _ after => Sound device after ∧ SparesOthers world after width height ∧
        after.planes = world.planes ∧ after.video.cpuVideo.framebuffer ≠ 0)
      (fun after => Sound device after ∧ SparesOthers world after width height) := by
  refine ends_read_bind ?_
  split
  · rename_i differs
    obtain ⟨destroyed, others⟩ := destroyCpuVideoBuffer_sound sound
    have spares {after : World}
        (same : shown after.calls = shown (destroyCpuVideoBuffer world).calls) :
        SparesOthers world after width height := by
      intro plane
      rw [same]
      exact (others plane).imp_right fun ⟨dark, cpu⟩ => ⟨dark, differs, cpu⟩
    have planes := part_of_state (fun world => world.planes) (fun _ => rfl)
      (removeFramebuffer_state world.video.cpuVideo.framebuffer world)
    refine ends_change_bind ?_
    refine Ends.bind ((createDumbBuffer_sound destroyed width height rfl).imp
      (fun _ _ done => done) ?_) ?_
    · rintro after ⟨kept, same⟩
      exact ⟨kept, spares same⟩
    · rintro cpuVideo after ⟨kept, same, assigned, used⟩
      exact ends_change ⟨kept, spares same, assigned.trans planes, used⟩
  · rename_i same
    refine ends_pure ⟨sound, fun _ => .inl rfl, rfl, fun none_ => same ?_⟩
    unfold cpuVideoDiffers
    rw [none_]
    rfl

end Changing

/-! ### Runs -/

/-- What a plane shows once the frame is presented on it. -/
def picture (device : Device) : Event → Option Shown
  | .dmabuf frame reply =>
    (makeFrameKey frame reply.importing).map fun key =>
      ⟨.imported key, (sourceSize frame.width, sourceSize frame.height),
        scaledVideoDestination device.size frame.width frame.height⟩
  | .cpu frame _ =>
    some ⟨.cpuVideo, (sourceSize frame.width, sourceSize frame.height),
      scaledVideoDestination device.size frame.width frame.height⟩

/-- What has to go before the frame can be presented: all that is shown if its plane is chosen anew,
and the buffer in memory if the frame does not fit into it. -/
def inTheWay (world : World) (before : Option Shown) : Event → Prop
  | .dmabuf frame _ =>
    videoPlaneDiffers world.planes frame.drmFormat (frame.modifiers.getD 0 0) = true
  | .cpu frame _ =>
    videoPlaneDiffers world.planes formatXrgb8888 modifierLinear = true ∨
      cpuVideoDiffers world.video frame.width frame.height = true ∧
        before.map (·.content) = some .cpuVideo

/-- How a call of `present` ends. -/
structure Presented (device : Device) (event : Event) (world after : World) : Prop where
  sound : Sound device after
  some : (picture device event).isSome = true
  shows : shown after.calls after.planes.videoPlaneId = picture device event
  others : ∀ plane, plane ≠ after.planes.videoPlaneId →
    shown after.calls plane = shown world.calls plane ∨ shown after.calls plane = none

structure GaveUp (device : Device) (event : Event) (world after : World) : Prop where
  sound : Sound device after
  stays : ∀ plane, shown after.calls plane = shown world.calls plane ∨
    shown after.calls plane = none ∧ inTheWay world (shown world.calls plane) event

section Presenting
variable {device : Device} {world : World}

theorem presentDmabuf_ends (sound : Sound device world) (frame : DmabufVideoFrame)
    (reply : PresentReply) : Ends (presentDmabuf device frame reply) world
      (fun _ after => Presented device (.dmabuf frame reply) world after)
      (GaveUp device (.dmabuf frame reply) world) := by
  refine Ends.bind ((ensureVideoPlane_sound sound).imp (fun _ _ done => done) ?_) ?_
  · rintro after ⟨kept, fewer, differs⟩
    exact ⟨kept, fun plane => (fewer plane).imp_right fun dark => ⟨dark, differs⟩⟩
  rintro _ planned ⟨planned_sound, fewer, same⟩
  -- Once the plane is there, nothing that is shown goes before the frame takes its place.
  have stays {after : World} (pictures : shown after.calls = shown planned.calls) (plane : Nat) :
      shown after.calls plane = shown world.calls plane ∨ shown after.calls plane = none ∧
        inTheWay world (shown world.calls plane) (.dmabuf frame reply) := by
    rw [pictures]
    cases differs : videoPlaneDiffers world.planes frame.drmFormat (frame.modifiers.getD 0 0) with
    | false =>
      rw [same differs]
      exact .inl rfl
    | true => exact (fewer plane).imp_right fun dark => ⟨dark, differs⟩
  refine Ends.bind ((findOrImport_sound planned_sound).imp (fun _ _ done => done) ?_) ?_
  · rintro after ⟨kept, pictures⟩
    exact ⟨kept, stays pictures⟩
  rintro framebuffer found ⟨found_sound, pictures, planes, key, named, content⟩
  refine (showFramebuffer_sound found_sound content trivial).imp ?_ ?_
  · rintro _ after ⟨kept, assigned, shows⟩
    have whole : picture device (.dmabuf frame reply) = some ⟨.imported key,
        (sourceSize frame.width, sourceSize frame.height),
        scaledVideoDestination device.size frame.width frame.height⟩ := by
      change (makeFrameKey frame reply.importing).map _ = _
      rw [named]
      rfl
    refine ⟨kept, by rw [whole]; rfl, ?_, fun plane other => ?_⟩
    · rw [shows, assigned, if_pos rfl, whole]
    · rw [shows, if_neg fun own => other (own.symm.trans (congrArg (·.videoPlaneId) assigned.symm)),
        pictures]
      exact fewer plane
  · rintro after ⟨kept, unchanged⟩
    exact ⟨kept, stays (unchanged.trans pictures)⟩

theorem presentCpu_ends (sound : Sound device world) (frame : CpuVideoFrame)
    (reply : PresentReply) : Ends (presentCpu device frame reply) world
      (fun _ after => Presented device (.cpu frame reply) world after)
      (GaveUp device (.cpu frame reply) world) := by
  refine ends_check_bind (fun _ => ?_) fun _ => ⟨sound, fun _ => .inl rfl⟩
  refine Ends.bind ((ensureVideoPlane_sound sound).imp (fun _ _ done => done) ?_) ?_
  · rintro after ⟨kept, fewer, differs⟩
    exact ⟨kept, fun plane => (fewer plane).imp_right fun dark => ⟨dark, .inl differs⟩⟩
  rintro _ planned ⟨planned_sound, fewer, same⟩
  have stays {after : World} (spares : SparesOthers planned after frame.width frame.height)
      (plane : Nat) : shown after.calls plane = shown world.calls plane ∨
        shown after.calls plane = none ∧
          inTheWay world (shown world.calls plane) (.cpu frame reply) := by
    cases differs : videoPlaneDiffers world.planes formatXrgb8888 modifierLinear with
    | false =>
      rw [same differs] at spares
      exact (spares plane).imp_right fun ⟨dark, size⟩ => ⟨dark, .inr size⟩
    | true =>
      rcases spares plane with unchanged | ⟨dark, _⟩
      · rw [unchanged]
        exact (fewer plane).imp_right fun dark => ⟨dark, .inl differs⟩
      · exact .inr ⟨dark, .inl differs⟩
  refine Ends.bind ((ensureCpuVideoBuffer_sound planned_sound).imp (fun _ _ done => done) ?_) ?_
  · rintro after ⟨kept, spares⟩
    exact ⟨kept, stays spares⟩
  rintro _ found ⟨found_sound, spares, planes, used⟩
  refine ends_read_bind ?_
  have content := found_sound.exact.alive (cpuVideo_kept used)
  refine (showFramebuffer_sound found_sound content trivial).imp ?_ ?_
  · rintro _ after ⟨kept, assigned, shows⟩
    refine ⟨kept, rfl, ?_, fun plane other => ?_⟩
    · rw [shows, assigned, if_pos rfl]
      rfl
    · rw [shows, if_neg fun own => other (own.symm.trans (congrArg (·.videoPlaneId) assigned.symm))]
      exact (stays spares plane).imp_right And.left
  · rintro after ⟨kept, unchanged⟩
    refine ⟨kept, fun plane => ?_⟩
    rw [unchanged]
    exact stays spares plane

theorem perform_ends (sound : Sound device world) (event : Event) :
    Ends (perform device event) world (fun _ after => Presented device event world after)
      (GaveUp device event world) := by
  cases event with
  | dmabuf frame reply => exact presentDmabuf_ends sound frame reply
  | cpu frame reply => exact presentCpu_ends sound frame reply

theorem step_sound (sound : Sound device world) (event : Event) :
    Sound device (step device world event) := by
  have ends := (perform_ends sound event).imp (fun _ _ presented => presented.sound)
    fun _ gave => gave.sound
  exact ends.after

theorem run_sound (device : Device) (events : List Event) :
    Sound device (events.foldl (step device) (start device)) :=
  Runs.invariant_after_any_run events (fun _ event sound => step_sound sound event)
    (start_sound device)

end Presenting

/-- In every run, a frame that is presented is shown on the plane of the video and no other plane
shows anything new; a frame that could not be presented leaves every plane as it was, but for those
that are dark because their frames were in the way. -/
theorem presented_frames_are_shown (device : Device) (events : List Event) (event : Event) :
    let world := events.foldl (step device) (start device)
    let after := step device world event
    if (perform device event world).1.isSome then
      (picture device event).isSome = true ∧
        shown after.calls after.planes.videoPlaneId = picture device event ∧
        ∀ plane, plane ≠ after.planes.videoPlaneId →
          shown after.calls plane = shown world.calls plane ∨ shown after.calls plane = none
    else
      ∀ plane, shown after.calls plane = shown world.calls plane ∨
        shown after.calls plane = none ∧ inTheWay world (shown world.calls plane) event := by
  intro world after
  have ends := perform_ends (run_sound device events) event
  unfold Ends at ends
  have left : after = (perform device event world).2 := rfl
  cases performed : perform device event world with
  | mk result state =>
    rw [performed] at ends left
    cases result with
    | none =>
      rw [left]
      exact ends.stays
    | some value =>
      rw [left]
      exact ⟨ends.some, ends.shows, ends.others⟩

/-! ### The end -/

theorem dumbHolding_length (content : Content) (buffer : KmsAtomicCompositor.DumbBuffer) :
    (dumbHolding content buffer).length ≤ 1 := by
  unfold dumbHolding
  split
  · exact Nat.zero_le _
  · exact Nat.le_refl _

theorem kept_length (sound : Sound device world) : (kept device world).length ≤ 14 := by
  have room := sound.room
  have cpuVideo := dumbHolding_length .cpuVideo world.video.cpuVideo
  unfold maxCachedFramebuffers at room
  unfold kept cacheHoldings
  rw [List.length_cons, List.length_append, List.length_map]
  omega

theorem cleanup_gone (sound : Sound device world) (disabled : Bool) (framebuffer : Nat) :
    contentOf (cleanup device disabled world).calls framebuffer = none := by
  obtain ⟨dark, _⟩ := disableVideoPlane_sound sound disabled
  let cleared := clearCurrent (disableVideoPlane disabled world)
  have recorded : Exact (contentOf cleared.calls) (([(device.primaryFramebuffer, .primary)] ++
      dumbHolding .cpuVideo cleared.video.cpuVideo) ++ cacheHoldings cleared.video.cache) :=
    dark.exact
  obtain ⟨exact, _, state, _⟩ := destroyAll_exact cleared.video.cache _ recorded dark.zero
  have cpuVideo := part_of_state (fun world => world.video.cpuVideo) (fun _ => rfl) state
  rw [← cpuVideo, ← List.append_nil (_ ++ _), List.append_assoc] at exact
  have emptied : Exact (contentOf (destroyFramebufferCache cleared).calls)
      ([(device.primaryFramebuffer, .primary)] ++
        (dumbHolding .cpuVideo (destroyFramebufferCache cleared).video.cpuVideo ++ [])) := exact
  have only : Exact (contentOf (destroyCpuVideoBuffer (destroyFramebufferCache cleared)).calls)
      ([(device.primaryFramebuffer, .primary)] ++ []) := destroyCpuVideoBuffer_exact emptied
  have single : Exact (contentOf (destroyCpuVideoBuffer (destroyFramebufferCache cleared)).calls)
      ([] ++ (device.primaryFramebuffer, .primary) :: []) := only
  have none_ : Exact (contentOf (cleanup device disabled world).calls) [] := by
    refine single.remove fun wanted => ?_
    refine (removeFramebuffer_content device.primaryFramebuffer _ wanted).trans ?_
    by_cases own : device.primaryFramebuffer = wanted
    · rw [if_pos ⟨device.primaryExists, own⟩, if_pos own]
    · rw [if_neg fun both => own both.2, if_neg own]
  cases left : contentOf (cleanup device disabled world).calls framebuffer with
  | none => rfl
  | some content => exact absurd ((none_.same _ _).mp left) List.not_mem_nil

/-- In every run the framebuffers that exist are those that the player has a record of, at most 14,
and after the cleanup none is left. -/
theorem framebuffers_are_accounted_for (device : Device) (events : List Event) (disabled : Bool) :
    let world := events.foldl (step device) (start device)
    (∀ framebuffer content, contentOf world.calls framebuffer = some content ↔
      (framebuffer, content) ∈ kept device world) ∧
    (kept device world).length ≤ 14 ∧
    ∀ framebuffer, contentOf (cleanup device disabled world).calls framebuffer = none :=
  have sound := run_sound device events
  ⟨sound.exact.same, kept_length sound, cleanup_gone sound disabled⟩

end Glide.PresentedPictures
