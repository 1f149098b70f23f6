import Mathlib.Data.List.Nodup
import Glide.CompositorPhases

/-! The framebuffers the compositor holds. Every id it keeps, in a buffer or in a
cache, names an existing framebuffer, created for just that use. So two uses
never share a framebuffer, and removing one leaves the others as they are. -/
namespace Glide.HeldFramebuffers
open Library Attempts DrmCalls KmsPlanes KmsAtomicCompositor CompositorPhases

def dumbHolding (content : Content) (buffer : DumbBuffer) : List (Nat × Content) :=
  if buffer.framebuffer = 0 then [] else [(buffer.framebuffer, content)]

def cacheHoldings (cache : List CachedFramebuffer) : List (Nat × Content) :=
  cache.map fun entry => (entry.imported.framebuffer, .imported entry.key)

def flowHoldings (cache : List (FlowFramebufferKey × Nat)) : List (Nat × Content) :=
  cache.map fun entry => (entry.2, .flow entry.1)

/-- The framebuffer ids kept, and what each was created for. -/
def holdings (setup : Setup) (world : World) : List (Nat × Content) :=
  (setup.primaryFramebuffer, .primary) :: (dumbHolding .solidFlow world.flow.solid ++
    dumbHolding .solidUi world.solidUi ++ dumbHolding .cpuVideo world.video.cpuVideo ++
    dumbHolding .writeback world.output.writeback.buffer ++ cacheHoldings world.video.cache ++
    flowHoldings world.flow.cache)

structure Held (setup : Setup) (world : World) : Prop where
  exist : ∀ holding ∈ holdings setup world, contentOf world.calls holding.1 = some holding.2
  keys : (world.video.cache.map (·.key)).Nodup
  zero : contentOf world.calls 0 = none

section Rules
variable {setup : Setup} {before after : World}

/-- Nothing kept is lost as long as the calls leave its framebuffer. -/
theorem Held.calls (held : Held setup before) (same : ownState after = ownState before)
    (left : ∀ holding ∈ holdings setup before, contentOf after.calls holding.1 =
      contentOf before.calls holding.1)
    (zero : contentOf after.calls 0 = none) : Held setup after where
  exist := fun holding now => by
    have earlier : holding ∈ holdings setup before :=
      part_of_state (holdings setup) (fun _ => rfl) same ▸ now
    exact (left holding earlier).trans (held.exist holding earlier)
  keys := by
    rw [part_of_state (fun world => world.video.cache) (fun _ => rfl) same]
    exact held.keys
  zero

theorem cached_held {world : World} {entry : CachedFramebuffer} (cached : entry ∈ world.video.cache) :
    (entry.imported.framebuffer, .imported entry.key) ∈ holdings setup world := by
  have kept : (entry.imported.framebuffer, Content.imported entry.key) ∈
      cacheHoldings world.video.cache := List.mem_map_of_mem cached
  simp [holdings, kept]

theorem cpuVideo_held {world : World} (used : world.video.cpuVideo.framebuffer ≠ 0) :
    (world.video.cpuVideo.framebuffer, .cpuVideo) ∈ holdings setup world := by
  simp [holdings, dumbHolding, used]

theorem solidFlow_held {world : World} (used : world.flow.solid.framebuffer ≠ 0) :
    (world.flow.solid.framebuffer, .solidFlow) ∈ holdings setup world := by
  simp [holdings, dumbHolding, used]

theorem solidUi_held {world : World} (used : world.solidUi.framebuffer ≠ 0) :
    (world.solidUi.framebuffer, .solidUi) ∈ holdings setup world := by
  simp [holdings, dumbHolding, used]

theorem writeback_held {world : World} (used : world.output.writeback.buffer.framebuffer ≠ 0) :
    (world.output.writeback.buffer.framebuffer, .writeback) ∈ holdings setup world := by
  simp [holdings, dumbHolding, used]

theorem flow_held {world : World} (cached : (key, framebuffer) ∈ world.flow.cache) :
    (framebuffer, .flow key) ∈ holdings setup world := by
  have kept : (framebuffer, Content.flow key) ∈ flowHoldings world.flow.cache :=
    List.mem_map.2 ⟨_, cached, rfl⟩
  simp [holdings, kept]

theorem Held.added {added : Nat} (held : Held setup before) (used : added ≠ 0)
    (free : contentOf before.calls added = none) :
    Held setup (before.note (.addFramebuffer added content)) := by
  refine held.calls rfl (fun holding kept => ?_) ?_
  · have exists_ := held.exist holding kept
    rw [exists_]
    exact content_of_added free exists_
  · change contentOf (.addFramebuffer added content :: before.calls) 0 = none
    rw [contentOf, if_neg used]
    exact held.zero

theorem Held.neutral (held : Held setup before) (same : ownState after = ownState before)
    (left : contentOf after.calls = contentOf before.calls) : Held setup after :=
  held.calls same (fun _ _ => by rw [left]) (left ▸ held.zero)

end Rules

theorem removeFramebuffer_content (framebuffer : Nat) (world : World) (wanted : Nat) :
    contentOf (removeFramebuffer framebuffer world).calls wanted =
      if framebuffer ≠ 0 ∧ framebuffer = wanted then none else contentOf world.calls wanted := by
  unfold removeFramebuffer
  by_cases none_ : framebuffer = 0
  · rw [if_pos none_, if_neg fun used => used.1 none_]
  · rw [if_neg none_]
    change contentOf (.removeFramebuffer framebuffer _ :: world.calls) wanted = _
    rw [contentOf]
    by_cases same : framebuffer = wanted
    · rw [if_pos same, if_pos ⟨none_, same⟩]
    · rw [if_neg same, if_neg fun both => same both.2]

theorem destroyImported_content (imported : ImportedFramebuffer) (world : World) (wanted : Nat) :
    contentOf (destroyImported imported world).calls wanted =
      if imported.framebuffer ≠ 0 ∧ imported.framebuffer = wanted then none
      else contentOf world.calls wanted := by
  rw [contentOf_passing (destroyImported_calls imported world)]
  exact removeFramebuffer_content _ _ _

section Attempts
variable {setup : Setup} {world : World}

theorem addFramebuffer_spec (content : Content) (proposed : Option Nat) (world : World) :
    Ends (addFramebuffer content proposed) world
      (fun framebuffer after => framebuffer ≠ 0 ∧ contentOf world.calls framebuffer = none ∧
        after = world.note (.addFramebuffer framebuffer content))
      (fun after => after = world) := by
  cases proposed with
  | none => exact rfl
  | some id => exact ⟨newFramebuffer_ne_zero _ _, newFramebuffer_free _ _, rfl⟩

theorem addFramebuffer_held (held : Held setup world) :
    Ends (addFramebuffer content proposed) world
      (fun framebuffer after => Held setup after ∧ framebuffer ≠ 0 ∧
        contentOf after.calls framebuffer = some content)
      (Held setup) := by
  refine (addFramebuffer_spec content proposed world).imp ?_ fun _ same => same ▸ held
  rintro framebuffer after ⟨used, free, same⟩
  subst same
  refine ⟨held.added used free, used, ?_⟩
  change contentOf (.addFramebuffer framebuffer content :: world.calls) framebuffer = some content
  rw [contentOf, if_pos rfl]

/-- Either the buffer is new, or its framebuffer came and went. -/
theorem createDumbBuffer_spec (content : Content) (reply : DumbReply) (world : World) :
    Ends (createDumbBuffer content reply) world
      (fun buffer after => buffer.framebuffer ≠ 0 ∧ contentOf world.calls buffer.framebuffer = none ∧
        after = world.note (.addFramebuffer buffer.framebuffer content))
      (fun after => after = world ∨ ∃ framebuffer, framebuffer ≠ 0 ∧
        contentOf world.calls framebuffer = none ∧
        after = (world.note (.addFramebuffer framebuffer content)).note
          (.removeFramebuffer framebuffer world.video.currentFramebuffer)) := by
  refine ends_check_bind (fun _ => ?_) fun _ => .inl rfl
  refine Ends.bind ((addFramebuffer_spec content reply.framebuffer world).imp (fun _ _ new => new)
    fun _ same => .inl same) ?_
  rintro framebuffer after ⟨used, free, same⟩
  split
  · exact ends_pure ⟨used, free, same⟩
  · refine ends_change_bind (ends_giveUp (.inr ⟨framebuffer, used, free, ?_⟩))
    rw [same, removeFramebuffer, if_neg used]
    rfl

theorem createDumbBuffer_held (held : Held setup world) :
    Ends (createDumbBuffer content reply) world
      (fun buffer after => Held setup after ∧ contentOf after.calls buffer.framebuffer = some content)
      (Held setup) := by
  refine (createDumbBuffer_spec content reply world).imp ?_ ?_
  · rintro buffer after ⟨used, free, same⟩
    subst same
    refine ⟨held.added used free, ?_⟩
    change contentOf (.addFramebuffer buffer.framebuffer content :: world.calls) _ = some content
    rw [contentOf, if_pos rfl]
  · rintro after (same | ⟨framebuffer, used, free, same⟩)
    · exact same ▸ held
    · subst same
      refine held.neutral rfl (funext fun wanted => ?_)
      change contentOf (.removeFramebuffer framebuffer _ ::
        .addFramebuffer framebuffer content :: world.calls) wanted = contentOf world.calls wanted
      rw [contentOf, contentOf]
      split
      · rename_i same
        rw [← same, free]
      · rfl

/-- An import adds one framebuffer; else it only passes handles. -/
theorem importVideoFrame_spec (frame : DmabufVideoFrame) (key : FrameKey) (reply : ImportReply)
    (world : World) : Ends (importVideoFrame frame key reply) world
      (fun imported after => ∃ middle, Extends passesHandles world.calls middle ∧
        imported.framebuffer ≠ 0 ∧ contentOf middle imported.framebuffer = none ∧
        after.calls = .addFramebuffer imported.framebuffer (.imported key) :: middle)
      (fun after => Extends passesHandles world.calls after.calls) := by
  refine ends_check_bind (fun _ => ?_) fun _ => .same
  have passed := importHandles_grows reply [] []
    ((List.range frame.planeCount).map fun plane => frame.fds.getD plane (-1))
  refine (Grows.ends passed world).bind ?_
  intro handles middle grown
  cases reply.framebuffer with
  | none =>
    exact ends_change_bind (ends_giveUp
      (grown.trans (destroyImported_calls ⟨0, handles⟩ middle)))
  | some proposed =>
    refine Ends.bind ((addFramebuffer_spec (.imported key) (some proposed) middle).imp
      (fun _ _ new => new) fun _ same => same ▸ grown) ?_
    rintro framebuffer after ⟨used, free, same⟩
    exact ends_pure ⟨middle.calls, grown, used, free, congrArg World.calls same⟩

theorem importVideoFrame_held (held : Held setup world) :
    Ends (importVideoFrame frame key reply) world
      (fun imported after => Held setup after ∧
        contentOf after.calls imported.framebuffer = some (.imported key))
      (Held setup) := by
  have same := (importVideoFrame_state frame key reply).ends world
  refine ((importVideoFrame_spec frame key reply world).and same).imp ?_ ?_
  · rintro imported after ⟨⟨middle, passed, used, free, grown⟩, same⟩
    have contents := contentOf_passing passed
    rw [contents] at free
    have new : contentOf after.calls imported.framebuffer = some (.imported key) := by
      rw [grown, contentOf, if_pos rfl]
    refine ⟨held.calls same (fun holding kept => ?_) ?_, new⟩
    · have exists_ := held.exist holding kept
      rw [exists_, grown]
      refine content_of_added ?_ (contents ▸ exists_)
      rw [contents]
      exact free
    · rw [grown, contentOf, if_neg used, contents]
      exact held.zero
  · rintro after ⟨passed, same⟩
    exact held.neutral same (contentOf_passing passed)

end Attempts

section Parts
variable {setup : Setup} {world : World} {holding : Nat × Content}

theorem mem_dumbHolding {content : Content} {buffer : DumbBuffer}
    (kept : holding ∈ dumbHolding content buffer) :
    buffer.framebuffer ≠ 0 ∧ holding = (buffer.framebuffer, content) := by
  unfold dumbHolding at kept
  split at kept
  · exact absurd kept List.not_mem_nil
  · rename_i used
    exact ⟨used, List.mem_singleton.1 kept⟩

theorem mem_holdings : holding ∈ holdings setup world ↔
    holding = (setup.primaryFramebuffer, .primary) ∨
    holding ∈ dumbHolding .solidFlow world.flow.solid ∨
    holding ∈ dumbHolding .solidUi world.solidUi ∨
    holding ∈ dumbHolding .cpuVideo world.video.cpuVideo ∨
    holding ∈ dumbHolding .writeback world.output.writeback.buffer ∨
    holding ∈ cacheHoldings world.video.cache ∨ holding ∈ flowHoldings world.flow.cache := by
  simp [holdings]

/-- Where framebuffers of a kind are kept. -/
def keptFor (setup : Setup) (world : World) : Content → List (Nat × Content)
  | .primary => [(setup.primaryFramebuffer, .primary)]
  | .solidFlow => dumbHolding .solidFlow world.flow.solid
  | .solidUi => dumbHolding .solidUi world.solidUi
  | .cpuVideo => dumbHolding .cpuVideo world.video.cpuVideo
  | .writeback => dumbHolding .writeback world.output.writeback.buffer
  | .imported _ => cacheHoldings world.video.cache
  | .flow _ => flowHoldings world.flow.cache

theorem holding_kept (kept : holding ∈ holdings setup world) :
    holding ∈ keptFor setup world holding.2 := by
  rcases mem_holdings.1 kept with primary | solidFlow | solidUi | cpuVideo | writeback | cached | flow
  · subst primary
    exact List.mem_singleton_self _
  · have content : holding.2 = .solidFlow := congrArg Prod.snd (mem_dumbHolding solidFlow).2
    rw [content]
    exact solidFlow
  · have content : holding.2 = .solidUi := congrArg Prod.snd (mem_dumbHolding solidUi).2
    rw [content]
    exact solidUi
  · have content : holding.2 = .cpuVideo := congrArg Prod.snd (mem_dumbHolding cpuVideo).2
    rw [content]
    exact cpuVideo
  · have content : holding.2 = .writeback := congrArg Prod.snd (mem_dumbHolding writeback).2
    rw [content]
    exact writeback
  · obtain ⟨entry, _, same⟩ := List.mem_map.1 cached
    subst same
    exact cached
  · obtain ⟨entry, _, same⟩ := List.mem_map.1 flow
    subst same
    exact flow

/-- Nothing else is kept there. -/
theorem holding_of_kept (kept : holding ∈ keptFor setup world content) :
    holding ∈ holdings setup world := by
  cases content with
  | primary => exact mem_holdings.2 (.inl (List.mem_singleton.1 kept))
  | solidFlow => exact mem_holdings.2 (.inr (.inl kept))
  | solidUi => exact mem_holdings.2 (.inr (.inr (.inl kept)))
  | cpuVideo => exact mem_holdings.2 (.inr (.inr (.inr (.inl kept))))
  | writeback => exact mem_holdings.2 (.inr (.inr (.inr (.inr (.inl kept)))))
  | imported key => exact mem_holdings.2 (.inr (.inr (.inr (.inr (.inr (.inl kept))))))
  | flow key => exact mem_holdings.2 (.inr (.inr (.inr (.inr (.inr (.inr kept))))))

/-- Where framebuffers of some kinds are kept anew, and they exist, the rest stays. -/
theorem Held.replace {before after : World} (held : Held setup before) (changed : Content → Prop)
    (calls : after.calls = before.calls)
    (others : ∀ content, ¬ changed content → keptFor setup after content = keptFor setup before content)
    (new : ∀ holding, changed holding.2 → holding ∈ keptFor setup after holding.2 →
      contentOf before.calls holding.1 = some holding.2)
    (keys : (after.video.cache.map (·.key)).Nodup) : Held setup after where
  exist := fun holding kept => by
    rw [calls]
    by_cases replaced : changed holding.2
    · exact new holding replaced (holding_kept kept)
    · have earlier : holding ∈ keptFor setup before holding.2 :=
        others _ replaced ▸ holding_kept kept
      exact held.exist holding (holding_of_kept earlier)
  keys
  zero := calls ▸ held.zero

/-- A framebuffer that is given up is removed, and nothing else is. -/
theorem Held.remove {before after : World} (held : Held setup before) (changed : Content → Prop)
    (removed : Nat) (calls : ∀ wanted, contentOf after.calls wanted =
      if removed ≠ 0 ∧ removed = wanted then none else contentOf before.calls wanted)
    (others : ∀ content, ¬ changed content → keptFor setup after content = keptFor setup before content)
    (was : removed ≠ 0 → ∃ content, changed content ∧ contentOf before.calls removed = some content)
    (fewer : ∀ holding, changed holding.2 → holding ∈ keptFor setup after holding.2 →
      holding ∈ keptFor setup before holding.2 ∧ removed ≠ holding.1)
    (keys : (after.video.cache.map (·.key)).Nodup) : Held setup after where
  exist := fun holding kept => by
    have now := holding_kept kept
    rw [calls]
    by_cases given : changed holding.2
    · obtain ⟨earlier, other⟩ := fewer holding given now
      rw [if_neg fun both => other both.2]
      exact held.exist holding (holding_of_kept earlier)
    · rw [others _ given] at now
      have stays := held.exist holding (holding_of_kept now)
      rw [if_neg, stays]
      rintro ⟨used, same⟩
      obtain ⟨content, gone, was⟩ := was used
      rw [same, stays] at was
      cases was
      exact given gone
  keys
  zero := by
    rw [calls]
    split
    · rfl
    · exact held.zero

end Parts

/-- Only imported frames are kept in the cache. -/
def isImported : Content → Prop
  | .imported _ => True
  | _ => False

section Cache
variable {setup : Setup} {world : World}

theorem withCache_others (cache : List CachedFramebuffer) (world : World) (content : Content)
    (other : ¬ isImported content) :
    keptFor setup (withCache cache world) content = keptFor setup world content := by
  cases content with
  | imported key => exact absurd trivial other
  | primary => rfl
  | solidFlow => rfl
  | solidUi => rfl
  | cpuVideo => rfl
  | writeback => rfl
  | flow key => rfl

theorem keptFor_of_state {before after : World} (same : ownState after = ownState before)
    (content : Content) : keptFor setup after content = keptFor setup before content := by
  cases content with
  | primary => rfl
  | solidFlow => exact part_of_state (fun world => dumbHolding .solidFlow world.flow.solid) (fun _ => rfl) same
  | solidUi => exact part_of_state (fun world => dumbHolding .solidUi world.solidUi) (fun _ => rfl) same
  | cpuVideo => exact part_of_state (fun world => dumbHolding .cpuVideo world.video.cpuVideo) (fun _ => rfl) same
  | writeback =>
    exact part_of_state (fun world => dumbHolding .writeback world.output.writeback.buffer) (fun _ => rfl) same
  | imported key => exact part_of_state (fun world => cacheHoldings world.video.cache) (fun _ => rfl) same
  | flow key => exact part_of_state (fun world => flowHoldings world.flow.cache) (fun _ => rfl) same

/-- One entry of the cache is destroyed and taken out. -/
theorem destroyed_held {entry : CachedFramebuffer} {front rest : List CachedFramebuffer}
    (held : Held setup world) (cache : world.video.cache = front ++ entry :: rest) :
    Held setup (withCache (front ++ rest) (destroyImported entry.imported world)) := by
  have keys := held.keys
  rw [cache, List.map_append, List.map_cons, List.nodup_middle, List.nodup_cons,
    ← List.map_append] at keys
  have cached : entry ∈ world.video.cache := cache ▸ List.mem_append_right _ List.mem_cons_self
  have own := held.exist _ (cached_held cached)
  refine held.remove isImported entry.imported.framebuffer
    (destroyImported_content entry.imported world) (fun content other => ?_)
    (fun _ => ⟨.imported entry.key, trivial, own⟩) (fun holding imported kept => ?_) keys.2
  · rw [withCache_others _ _ _ other]
    exact keptFor_of_state (destroyImported_state _ _) content
  · obtain ⟨framebuffer, content⟩ := holding
    cases content with
    | imported key =>
      have kept : (framebuffer, Content.imported key) ∈ cacheHoldings (front ++ rest) := kept
      obtain ⟨other, among, same⟩ := List.mem_map.1 kept
      cases same
      have earlier : other ∈ world.video.cache := by
        rw [cache]
        rcases List.mem_append.1 among with before | after
        · exact List.mem_append_left _ before
        · exact List.mem_append_right _ (List.mem_cons_of_mem _ after)
      refine ⟨List.mem_map_of_mem earlier, fun same => keys.1 ?_⟩
      have shared := held.exist _ (cached_held earlier)
      rw [← same, own] at shared
      have named : entry.key = other.key := Content.imported.inj (Option.some.inj shared)
      exact named ▸ List.mem_map_of_mem among
    | primary => exact imported.elim
    | solidFlow => exact imported.elim
    | solidUi => exact imported.elim
    | cpuVideo => exact imported.elim
    | writeback => exact imported.elim
    | flow key => exact imported.elim

theorem leastRecentlyUsed_mem (victim : CachedFramebuffer) (rest : List CachedFramebuffer) :
    leastRecentlyUsed victim rest ∈ victim :: rest := by
  induction rest generalizing victim with
  | nil => exact List.mem_cons_self
  | cons entry rest ih =>
    unfold leastRecentlyUsed
    split
    · exact List.mem_cons_of_mem _ (ih entry)
    · rcases List.mem_cons.1 (ih victim) with same | later
      · exact List.mem_cons.2 (.inl same)
      · exact List.mem_cons_of_mem _ (List.mem_cons_of_mem _ later)

/-- The cache loses nothing but the entry that is evicted. -/
theorem evict_cases (world : World) :
    evictVideoFramebufferIfNeeded world = world ∨
      ∃ first rest front back, world.video.cache = first :: rest ∧
        maxCachedFramebuffers ≤ (first :: rest).length ∧
        first :: rest = front ++ leastRecentlyUsed first rest :: back ∧
        evictVideoFramebufferIfNeeded world =
          withCache (front ++ back) (destroyImported (leastRecentlyUsed first rest).imported world) := by
  unfold evictVideoFramebufferIfNeeded
  cases cache : world.video.cache with
  | nil => exact .inl rfl
  | cons first rest =>
    dsimp only
    split
    · exact .inl rfl
    · rename_i full
      obtain ⟨front, back, _, split_, erased⟩ :=
        List.exists_erase_eq (leastRecentlyUsed_mem first rest)
      exact .inr ⟨first, rest, front, back, rfl, Nat.not_lt.1 full, split_, by rw [erased]⟩

theorem evict_held (held : Held setup world) : Held setup (evictVideoFramebufferIfNeeded world) := by
  rcases evict_cases world with same | ⟨first, rest, front, back, cache, _, parts, evicted⟩
  · rw [same]
    exact held
  · rw [evicted]
    exact destroyed_held held (cache.trans parts)

theorem evict_keys (world : World) :
    (evictVideoFramebufferIfNeeded world).video.cache.Sublist world.video.cache := by
  rcases evict_cases world with same | ⟨first, rest, front, back, cache, _, parts, evicted⟩
  · rw [same]
  · rw [evicted, cache, parts]
    exact (List.Sublist.refl front).append (List.sublist_cons_self _ _)

theorem touch_keys (key : FrameKey) (serial : Nat) (cache : List CachedFramebuffer) :
    (touch key serial cache).map (·.key) = cache.map (·.key) := by
  induction cache with
  | nil => rfl
  | cons entry rest ih =>
    unfold touch
    split
    · rfl
    · exact congrArg (entry.key :: ·) ih

theorem touch_holdings (key : FrameKey) (serial : Nat) (cache : List CachedFramebuffer) :
    cacheHoldings (touch key serial cache) = cacheHoldings cache := by
  induction cache with
  | nil => rfl
  | cons entry rest ih =>
    unfold touch
    split
    · rfl
    · exact congrArg ((entry.imported.framebuffer, Content.imported entry.key) :: ·) ih

private theorem closeHandles_withCache (handles : List Nat) (cache : List CachedFramebuffer)
    (world : World) :
    handles.foldl (fun world handle => world.note (.gemClose handle)) (withCache cache world) =
      withCache cache (handles.foldl (fun world handle => world.note (.gemClose handle)) world) := by
  induction handles generalizing world with
  | nil => rfl
  | cons handle rest ih => exact ih (world.note (.gemClose handle))

theorem destroyImported_withCache (imported : ImportedFramebuffer) (cache : List CachedFramebuffer)
    (world : World) : destroyImported imported (withCache cache world) =
      withCache cache (destroyImported imported world) := by
  have removed : removeFramebuffer imported.framebuffer (withCache cache world) =
      withCache cache (removeFramebuffer imported.framebuffer world) := by
    unfold removeFramebuffer
    split <;> rfl
  unfold destroyImported
  rw [removed]
  exact closeHandles_withCache _ _ _

theorem destroyAll_held (cached : List CachedFramebuffer) (held : Held setup (withCache cached world)) :
    Held setup (emptyCache (cached.foldl (fun world cached => destroyImported cached.imported world)
      world)) := by
  induction cached generalizing world with
  | nil => exact held
  | cons entry rest ih =>
    refine ih ?_
    have cache : (withCache (entry :: rest) world).video.cache = [] ++ entry :: rest := rfl
    have destroyed := destroyed_held held cache
    rw [destroyImported_withCache] at destroyed
    exact destroyed

end Cache

section Phases
variable {setup : Setup} {world : World}

/-- A change that touches no buffer and no cache. -/
theorem Held.same_parts {before after : World} (held : Held setup before)
    (calls : contentOf after.calls = contentOf before.calls)
    (parts : ∀ content, keptFor setup after content = keptFor setup before content)
    (keys : after.video.cache.map (·.key) = before.video.cache.map (·.key)) : Held setup after where
  exist := fun holding kept => by
    rw [calls]
    have earlier : holding ∈ keptFor setup before holding.2 := parts _ ▸ holding_kept kept
    exact held.exist holding (holding_of_kept earlier)
  keys := keys ▸ held.keys
  zero := calls ▸ held.zero

theorem destroyVideoFramebufferCache_held (held : Held setup world) :
    Held setup (destroyVideoFramebufferCache world) := by
  have cleared : Held setup (withCache world.video.cache (clearCurrent world)) :=
    held.same_parts rfl (fun content => by cases content <;> rfl) rfl
  exact destroyAll_held world.video.cache cleared

theorem withoutVideoPlane_held (held : Held setup world) : Held setup (withoutVideoPlane world) :=
  held.same_parts rfl (fun content => by cases content <;> rfl) rfl

/-- Choosing planes touches neither buffers nor calls. -/
theorem Held.chosen {after : World} (held : Held setup world)
    (same : (after.video, besidePicture after, after.calls) =
      (world.video, besidePicture world, world.calls)) : Held setup after := by
  have video : after.video = world.video := congrArg Prod.fst same
  have beside : besidePicture after = besidePicture world := congrArg (fun parts => parts.2.1) same
  have calls : after.calls = world.calls := congrArg (fun parts => parts.2.2) same
  refine held.same_parts (congrArg contentOf calls) (fun content => ?_)
    (congrArg (fun video => video.cache.map (·.key)) video)
  cases content with
  | primary => rfl
  | solidFlow => exact congrArg (fun parts => dumbHolding .solidFlow parts.1.solid) beside
  | solidUi => exact congrArg (fun parts => dumbHolding .solidUi parts.2.1) beside
  | cpuVideo => exact congrArg (fun video => dumbHolding .cpuVideo video.cpuVideo) video
  | writeback =>
    exact congrArg (fun parts => dumbHolding .writeback parts.2.2.writeback.buffer) beside
  | imported key => exact congrArg (fun video => cacheHoldings video.cache) video
  | flow key => exact congrArg (fun parts => flowHoldings parts.1.cache) beside

theorem choosing_held {call : Attempt World Unit}
    (leaves : Leaves call fun world => (world.video, besidePicture world, world.calls))
    (held : Held setup world) : Ends call world (fun _ after => Held setup after) (Held setup) :=
  (leaves.ends world).imp (fun _ _ same => held.chosen same) fun _ same => held.chosen same

theorem ensureVideoPlane_held (held : Held setup world) :
    Ends (ensureVideoPlane setup.display report format modifier) world
      (fun _ after => Held setup after) (Held setup) := by
  refine ends_read_bind ?_
  split
  · refine ends_change_bind (ends_change_bind ?_)
    exact choosing_held (choose_beside _)
      (destroyVideoFramebufferCache_held (withoutVideoPlane_held held))
  · exact ends_pure held

theorem findOrImport_held (held : Held setup world) :
    Ends (findOrImportVideoFramebuffer frame reply) world
      (fun framebuffer after => Held setup after ∧
        ∃ entry ∈ after.video.cache, entry.imported.framebuffer = framebuffer)
      (Held setup) := by
  unfold findOrImportVideoFramebuffer
  cases makeFrameKey frame reply with
  | none => exact ends_giveUp held
  | some key =>
    have counted : Held setup (countFrame world) :=
      held.same_parts rfl (fun content => by cases content <;> rfl) rfl
    refine ends_change_bind (ends_read_bind ?_)
    cases found : (countFrame world).video.cache.find? (·.key = key) with
    | some entry =>
      have cached : entry ∈ (countFrame world).video.cache := List.mem_of_find?_eq_some found
      refine ends_change_bind (ends_pure ⟨?_, ?_⟩)
      · refine counted.same_parts rfl (fun content => ?_) (touch_keys _ _ _)
        cases content with
        | imported other => exact touch_holdings _ _ _
        | primary => rfl
        | solidFlow => rfl
        | solidUi => rfl
        | cpuVideo => rfl
        | writeback => rfl
        | flow other => rfl
      · have kept : (entry.imported.framebuffer, Content.imported entry.key) ∈ cacheHoldings
            (touch key (countFrame world).video.frameSerial (countFrame world).video.cache) :=
          (touch_holdings _ _ _).symm ▸ List.mem_map_of_mem cached
        obtain ⟨touched, among, same⟩ := List.mem_map.1 kept
        exact ⟨touched, among, congrArg Prod.fst same⟩
    | none =>
      have unknown : key ∉ (countFrame world).video.cache.map (·.key) := by
        intro known
        obtain ⟨entry, cached, same⟩ := List.mem_map.1 known
        exact (List.find?_eq_none.1 found entry cached) (decide_eq_true same)
      refine ends_change_bind ?_
      have imports := (importVideoFrame_held (evict_held counted)).and ((importVideoFrame_state frame key reply).ends _)
      refine Ends.bind (imports.imp (fun _ _ done => done) fun _ failed => failed.1) ?_
      rintro imported after ⟨⟨held, content⟩, same⟩
      have cache : after.video.cache =
          (evictVideoFramebufferIfNeeded (countFrame world)).video.cache :=
        part_of_state (fun world => world.video.cache) (fun _ => rfl) same
      refine ends_change_bind (ends_pure ⟨?_, ?_⟩)
      · refine held.replace isImported rfl (withCache_others _ _) (fun holding kind kept => ?_) ?_
        · obtain ⟨framebuffer, content⟩ := holding
          cases content with
          | imported other =>
            have kept : (framebuffer, Content.imported other) ∈
                cacheHoldings (after.video.cache ++ [⟨key, imported, _⟩]) := kept
            obtain ⟨entry, among, same⟩ := List.mem_map.1 kept
            rcases List.mem_append.1 among with earlier | new
            · exact same ▸ held.exist _ (cached_held earlier)
            · rw [List.mem_singleton.1 new] at same
              cases same
              assumption
          | primary => exact kind.elim
          | solidFlow => exact kind.elim
          | solidUi => exact kind.elim
          | cpuVideo => exact kind.elim
          | writeback => exact kind.elim
          | flow key => exact kind.elim
        · change ((after.video.cache ++ [_]).map CachedFramebuffer.key).Nodup
          rw [List.map_append, List.nodup_append]
          refine ⟨held.keys, List.nodup_singleton _, fun known earlier new last same => unknown ?_⟩
          have named : known = key := same.trans (List.mem_singleton.1 last)
          rw [cache] at earlier
          exact named ▸ ((evict_keys _).map CachedFramebuffer.key).subset earlier
      · exact ⟨_, List.mem_append_right _ List.mem_cons_self, rfl⟩

theorem destroyCpuVideoBuffer_held (held : Held setup world) :
    Held setup (destroyCpuVideoBuffer world) := by
  refine held.remove (· = .cpuVideo) world.video.cpuVideo.framebuffer
    (removeFramebuffer_content _ _) (fun content other => ?_)
    (fun used => ⟨_, rfl, held.exist _ (cpuVideo_held used)⟩) (fun holding only kept => ?_) ?_
  · have same := @keptFor_of_state setup _ _
      (removeFramebuffer_state world.video.cpuVideo.framebuffer world) content
    cases content with
    | cpuVideo => exact absurd rfl other
    | primary => exact same
    | solidFlow => exact same
    | solidUi => exact same
    | writeback => exact same
    | imported key => exact same
    | flow key => exact same
  · rw [only] at kept
    exact absurd kept List.not_mem_nil
  · have cache := part_of_state (fun world => world.video.cache) (fun _ => rfl)
      (removeFramebuffer_state world.video.cpuVideo.framebuffer world)
    exact (congrArg (List.map CachedFramebuffer.key) cache).symm ▸ held.keys

/-- A buffer in memory is put where nothing of its kind was. -/
theorem Held.keepDumb {after : World} {buffer : DumbBuffer} {content : Content}
    (held : Held setup world) (calls : after.calls = world.calls)
    (exists_ : contentOf world.calls buffer.framebuffer = some content)
    (others : ∀ other, other ≠ content → keptFor setup after other = keptFor setup world other)
    (own : keptFor setup after content = dumbHolding content buffer)
    (cache : after.video.cache = world.video.cache) : Held setup after := by
  refine held.replace (· = content) calls others (fun holding only kept => ?_) (cache ▸ held.keys)
  rw [only, own] at kept
  rw [(mem_dumbHolding kept).2]
  exact exists_

theorem ensureCpuVideoBuffer_held (held : Held setup world) :
    Ends (ensureCpuVideoBuffer width height reply) world
      (fun _ after => Held setup after) (Held setup) := by
  refine ends_read_bind ?_
  split
  · refine ends_change_bind ?_
    refine (createDumbBuffer_held (destroyCpuVideoBuffer_held held)).bind ?_
    rintro cpuVideo after ⟨held, content⟩
    refine ends_change (held.keepDumb rfl content (fun other different => ?_) rfl rfl)
    cases other with
    | cpuVideo => exact absurd rfl different
    | primary => rfl
    | solidFlow => rfl
    | solidUi => rfl
    | writeback => rfl
    | imported key => rfl
    | flow key => rfl
  · exact ends_pure held

theorem prepare_held (held : Held setup world) :
    Ends (prepare setup picture reply) world (fun _ after => Held setup after) (Held setup) := by
  have flow := fun {world} (held : Held setup world) =>
    choosing_held (ensureFlowPlane_beside setup.display reply.flowPlanes) held
  have ui := fun {world} (held : Held setup world) =>
    choosing_held (ensureUiPlane_beside setup.display reply.uiPlanes) held
  cases picture with
  | dmabuf frame =>
    refine (ensureVideoPlane_held held).bind fun _ _ held => ?_
    refine (flow held).bind fun _ _ held => (ui held).bind fun _ _ held => ?_
    exact (findOrImport_held held).bind fun _ _ done => ends_pure done.1
  | cpu frame =>
    refine ends_check_bind (fun _ => ?_) fun _ => held
    refine (ensureVideoPlane_held held).bind fun _ _ held => ?_
    refine (ensureCpuVideoBuffer_held held).bind fun _ _ held => ?_
    exact (flow held).bind fun _ _ held => (ui held).bind fun _ _ held =>
      ends_read_bind (ends_pure held)
  | overlay =>
    exact (flow held).bind fun _ _ held => (ui held).bind fun _ _ held =>
      ends_read_bind (ends_pure held)

theorem releaseBuffer_held (buffer : Option LockedBuffer) (held : Held setup world) :
    Held setup (releaseBuffer buffer world) := by
  refine held.neutral (releaseBuffer_state _ _) ?_
  cases buffer <;> rfl

theorem lockFrontBuffer_spec (reply : LockReply) (world : World) :
    Ends (lockFrontBuffer reply) world
      (fun buffer after => buffer.object ∉ (lockedBuffers world.calls).map (·.object) ∧
        buffer.lock = lockCount world.calls ∧ after = world.note (.lockFrontBuffer buffer))
      (fun after => after = world) := by
  unfold Ends lockFrontBuffer
  cases reply.swapped with
  | false => exact rfl
  | true =>
    cases reply.front with
    | none => exact rfl
    | some object =>
      by_cases locked : object ∈ (lockedBuffers world.calls).map (·.object)
      · simp only [Bool.not_true, Bool.false_eq_true, if_false, if_pos locked]
      · simp only [Bool.not_true, Bool.false_eq_true, if_false, if_neg locked]
        exact ⟨locked, trivial, trivial⟩

theorem addGbmFramebuffer_held (held : Held setup world) :
    Ends (addGbmFramebuffer key reply) world
      (fun framebuffer after => Held setup after ∧ framebuffer ≠ 0 ∧
        contentOf after.calls framebuffer = some (.flow key)) (Held setup) := by
  unfold addGbmFramebuffer
  split
  · cases reply.withModifiers with
    | added proposed => exact addFramebuffer_held held
    | invalidArgument => exact addFramebuffer_held held
    | failed => exact ends_giveUp held
  · exact addFramebuffer_held held

theorem mem_of_lookup {cache : List (FlowFramebufferKey × Nat)} {framebuffer : Nat}
    (found : cache.lookup key = some framebuffer) : (key, framebuffer) ∈ cache := by
  induction cache with
  | nil => cases found
  | cons entry rest ih =>
    obtain ⟨other, held⟩ := entry
    rw [List.lookup_cons] at found
    split at found
    · rename_i same
      cases found
      rw [beq_iff_eq.1 same]
      exact List.mem_cons_self
    · exact List.mem_cons_of_mem _ (ih found)

/-- The framebuffer of a Flow buffer shows just that buffer. -/
theorem findOrAddFlowFramebuffer_held (held : Held setup world) :
    Ends (findOrAddFlowFramebuffer key reply) world
      (fun framebuffer after => Held setup after ∧
        contentOf after.calls framebuffer = some (.flow key)) (Held setup) := by
  refine ends_read_bind ?_
  cases found : world.flow.cache.lookup key with
  | some framebuffer => exact ends_pure ⟨held, held.exist _ (flow_held (mem_of_lookup found))⟩
  | none =>
    refine (addGbmFramebuffer_held held).bind ?_
    rintro framebuffer after ⟨held, _, content⟩
    refine ends_change_bind (ends_pure ⟨?_, content⟩)
    refine held.replace (fun content => ∃ key, content = .flow key) rfl (fun other different => ?_)
      (fun holding kind kept => ?_) held.keys
    · cases other with
      | flow key => exact absurd ⟨key, rfl⟩ different
      | primary => rfl
      | solidFlow => rfl
      | solidUi => rfl
      | cpuVideo => rfl
      | writeback => rfl
      | imported key => rfl
    · obtain ⟨other, kind⟩ := kind
      have kept : holding ∈ flowHoldings (after.flow.cache ++ [(key, framebuffer)]) := by
        rw [kind] at kept
        exact kept
      obtain ⟨entry, among, same⟩ := List.mem_map.1 kept
      rcases List.mem_append.1 among with earlier | new
      · exact same ▸ held.exist _ (flow_held earlier)
      · rw [List.mem_singleton.1 new] at same
        exact same ▸ content

theorem frameLockedBuffer_held {buffer : LockedBuffer} (held : Held setup world) :
    Ends (frameLockedBuffer setup buffer reply) world
      (fun framebuffer after => Held setup after ∧
        contentOf after.calls framebuffer = some (.flow (setup.flowKey buffer.object)))
      (Held setup) := by
  have found : Ends (findOrAddFlowFramebuffer (setup.flowKey buffer.object) reply) world _ _ :=
    findOrAddFlowFramebuffer_held held
  unfold Ends at found
  unfold Ends frameLockedBuffer
  cases made : findOrAddFlowFramebuffer (setup.flowKey buffer.object) reply world with
  | mk framebuffer after =>
    rw [made] at found
    cases framebuffer with
    | some framebuffer => exact found
    | none => exact releaseBuffer_held (some buffer) found

theorem lockFlowFramebuffer_held (held : Held setup world) :
    Ends (lockFlowFramebuffer setup reply) world (fun _ after => Held setup after) (Held setup) := by
  refine Ends.bind ((lockFrontBuffer_spec reply world).imp (fun _ _ new => new)
    fun _ same => same ▸ held) ?_
  rintro buffer after ⟨_, _, same⟩
  subst same
  have locked : Held setup (world.note (.lockFrontBuffer buffer)) := held.neutral rfl rfl
  exact (frameLockedBuffer_held locked).bind fun _ _ done => ends_pure done.1

/-- Either the pending frame is taken, or again the current one. -/
theorem takePendingFlow_spec (world : World) :
    Ends takePendingFlow world
      (fun flow after =>
        world.flow.pendingFramebuffer ≠ 0 ∧ after = withPending {} world ∧
          flow = ⟨world.flow.pendingFramebuffer, world.flow.pendingBo,
            world.flow.pendingIsSolidDumb⟩ ∨
        after = world ∧
          flow = ⟨world.flow.currentFramebuffer, none, world.flow.currentIsSolidDumb⟩)
      (fun _ => False) := by
  unfold Ends takePendingFlow
  by_cases pending : world.flow.pendingFramebuffer ≠ 0
  · simp only [if_pos pending]
    exact .inl ⟨pending, rfl, trivial⟩
  · simp only [if_neg pending]
    exact .inr ⟨trivial, trivial⟩

theorem withPending_held (flow : AcquiredFlow) (held : Held setup world) :
    Held setup (withPending flow world) :=
  held.same_parts rfl (fun content => by cases content <;> rfl) rfl

theorem acquireFlowFramebuffer_held (held : Held setup world) :
    Ends (acquireFlowFramebuffer setup updateFlowFrame reply) world
      (fun _ after => Held setup after) (Held setup) := by
  unfold acquireFlowFramebuffer
  split
  · exact ends_pure held
  · split
    · exact lockFlowFramebuffer_held held
    · refine (takePendingFlow_spec world).imp ?_ fun _ never => never.elim
      rintro flow after (⟨_, same, _⟩ | ⟨same, _⟩)
      · exact same ▸ withPending_held {} held
      · exact same ▸ held

/-- Neither buffers nor caches nor framebuffers are touched. -/
theorem Held.turned {after : World} (held : Held setup world) (same : SameBuffers world after)
    (calls : contentOf after.calls = contentOf world.calls) : Held setup after := by
  have beside := same.beside
  refine held.same_parts calls (fun content => ?_)
    (congrArg (fun parts => parts.2.1.cache.map (·.key)) beside)
  cases content with
  | primary => rfl
  | solidFlow => exact congrArg (fun parts => dumbHolding .solidFlow parts.2.2.1.solid) beside
  | solidUi => exact congrArg (fun parts => dumbHolding .solidUi parts.2.2.2) beside
  | cpuVideo => exact congrArg (fun parts => dumbHolding .cpuVideo parts.2.1.cpuVideo) beside
  | writeback => exact congrArg (dumbHolding .writeback) same.buffer
  | imported key => exact congrArg (fun parts => cacheHoldings parts.2.1.cache) beside
  | flow key => exact congrArg (fun parts => flowHoldings parts.2.2.1.cache) beside

theorem commit_held {video : VideoPart} (held : Held setup world) :
    Ends (commit setup video flowFramebuffer nonblocking reply) world
      (fun _ after => Held setup after) (Held setup) := by
  refine (commit_spec setup video flowFramebuffer nonblocking reply world).imp ?_ ?_
  · rintro _ after ⟨same, applied⟩
    exact held.turned same (applied.calls ▸ rfl)
  · rintro after ⟨same, refused | ⟨_, applied⟩⟩
    · rcases refused.calls with calls | calls
      · exact held.turned same (calls ▸ rfl)
      · exact held.turned same (calls ▸ rfl)
    · exact held.turned same (applied.calls ▸ rfl)

theorem adoptFlowFramebuffer_held (acquired : AcquiredFlow) (held : Held setup world) :
    Held setup (adoptFlowFramebuffer acquired world) := by
  have adopts : ∀ {world}, Held setup world → Held setup (adoptFlow acquired world) :=
    fun held => held.same_parts rfl (fun content => by cases content <;> rfl) rfl
  unfold adoptFlowFramebuffer
  dsimp only
  split
  · exact held
  · split
    · exact adopts (releaseBuffer_held _ held)
    · exact adopts held

theorem conclude_held (picture : Picture) (video : VideoPart) (acquired : AcquiredFlow)
    (committed : Bool) (held : Held setup world) :
    Held setup (conclude picture video acquired committed world) := by
  have remembered : Held setup (rememberVideo video world) :=
    held.same_parts rfl (fun content => by cases content <;> rfl) rfl
  unfold conclude
  split
  · cases picture with
    | dmabuf frame => exact adoptFlowFramebuffer_held acquired remembered
    | cpu frame => exact adoptFlowFramebuffer_held acquired remembered
    | overlay => exact adoptFlowFramebuffer_held acquired held
  · exact releaseBuffer_held _ held

theorem present_held (held : Held setup world) :
    Ends (present setup picture updateFlowFrame reply) world
      (fun _ after => Held setup after) (Held setup) := by
  refine (prepare_held held).bind fun video _ held => ?_
  refine (acquireFlowFramebuffer_held held).bind fun acquired _ held => ?_
  exact showPicture_ends ((commit_held held).imp
    (fun _ _ held => conclude_held picture video acquired true held)
    fun _ held => conclude_held picture video acquired false held)

theorem publishFlow_held (acquired : AcquiredFlow) (held : Held setup world) :
    Held setup (publishFlow acquired world) :=
  withPending_held acquired (releaseBuffer_held world.flow.pendingBo held)

theorem publishRenderedFlowFrame_held (held : Held setup world) :
    Ends (publishRenderedFlowFrame setup reply) world (fun _ after => Held setup after) (Held setup) :=
  (lockFlowFramebuffer_held held).bind fun acquired _ held =>
    ends_change (publishFlow_held acquired held)

theorem ensureSolidFlow_held (held : Held setup world) :
    Ends (ensureSolidFlow reply) world (fun _ after => Held setup after) (Held setup) := by
  refine ends_read_bind ?_
  split
  · refine (createDumbBuffer_held held).bind ?_
    rintro solid after ⟨held, content⟩
    refine ends_change (held.keepDumb rfl content (fun other different => ?_) rfl rfl)
    cases other with
    | solidFlow => exact absurd rfl different
    | primary => rfl
    | solidUi => rfl
    | cpuVideo => rfl
    | writeback => rfl
    | imported key => rfl
    | flow key => rfl
  · exact ends_pure held

theorem publishSolidFlowFrame_held (held : Held setup world) :
    Ends (publishSolidFlowFrame reply) world (fun _ after => Held setup after) (Held setup) := by
  refine (ensureSolidFlow_held held).bind fun _ after held => ends_read_bind ?_
  exact ends_check_bind (fun _ => ends_change (publishFlow_held _ held)) fun _ => held

theorem ensureSolidUi_held (held : Held setup world) :
    Ends (ensureSolidUi reply) world (fun _ after => Held setup after) (Held setup) := by
  refine ends_read_bind ?_
  split
  · refine (createDumbBuffer_held held).bind ?_
    rintro solidUi after ⟨held, content⟩
    refine ends_change (held.keepDumb rfl content (fun other different => ?_) rfl rfl)
    cases other with
    | solidUi => exact absurd rfl different
    | primary => rfl
    | solidFlow => rfl
    | cpuVideo => rfl
    | writeback => rfl
    | imported key => rfl
    | flow key => rfl
  · exact ends_pure held

theorem publishUiFrameFromArgb_held (held : Held setup world) :
    Ends (publishUiFrameFromArgb hasPixels width height strideBytes reply) world
      (fun _ after => Held setup after) (Held setup) := by
  refine ends_check_bind (fun _ => ends_read_bind ?_) fun _ => held
  split
  · refine ends_check_bind (fun _ => ?_) fun _ => held
    refine ends_check_bind (fun _ => ?_) fun _ => held
    refine (ensureSolidUi_held held).bind fun _ after held => ends_read_bind ?_
    exact ends_check (fun _ => held) fun _ => held
  · exact ends_pure held

theorem publishSolidUiFrame_held (held : Held setup world) :
    Ends (publishSolidUiFrame reply) world (fun _ after => Held setup after) (Held setup) := by
  refine ends_read_bind (ends_check_bind (fun _ => ?_) fun _ => held)
  refine (ensureSolidUi_held held).bind fun _ after held => ends_read_bind ?_
  exact ends_check (fun _ => held) fun _ => held

theorem destroyWritebackBuffer_held (held : Held setup world) :
    Held setup (destroyWritebackBuffer world) := by
  refine held.remove (· = .writeback) world.output.writeback.buffer.framebuffer
    (removeFramebuffer_content _ _) (fun content other => ?_)
    (fun used => ⟨_, rfl, held.exist _ (writeback_held used)⟩) (fun holding only kept => ?_) ?_
  · have same := @keptFor_of_state setup _ _
      (removeFramebuffer_state world.output.writeback.buffer.framebuffer world) content
    cases content with
    | writeback => exact absurd rfl other
    | primary => exact same
    | solidFlow => exact same
    | solidUi => exact same
    | cpuVideo => exact same
    | imported key => exact same
    | flow key => exact same
  · rw [only] at kept
    exact absurd kept List.not_mem_nil
  · have cache := part_of_state (fun world => world.video.cache) (fun _ => rfl)
      (removeFramebuffer_state world.output.writeback.buffer.framebuffer world)
    exact (congrArg (List.map CachedFramebuffer.key) cache).symm ▸ held.keys

theorem chooseWritebackConnector_held (held : Held setup world) :
    Ends (chooseWritebackConnector reply) world (fun _ after => Held setup after) (Held setup) := by
  refine ends_read_bind ?_
  dsimp only
  split
  · cases reply.connector with
    | none => exact ends_giveUp held
    | some connectorId =>
      exact ends_change (held.same_parts rfl (fun content => by cases content <;> rfl) rfl)
  · exact ends_pure held

theorem createWritebackBuffer_held (held : Held setup world) :
    Ends (createWritebackBuffer reply) world (fun _ after => Held setup after) (Held setup) := by
  refine ends_read_bind ?_
  dsimp only
  split
  · refine (createDumbBuffer_held held).bind ?_
    rintro buffer after ⟨held, content⟩
    refine ends_change (held.keepDumb rfl content (fun other different => ?_) rfl rfl)
    cases other with
    | writeback => exact absurd rfl different
    | primary => rfl
    | solidFlow => rfl
    | solidUi => rfl
    | cpuVideo => rfl
    | imported key => rfl
    | flow key => rfl
  · exact ends_pure held

theorem enableWritebackRecording_held (held : Held setup world) :
    Ends (enableWritebackRecording setup hasPath everyNFrames maxFrames reply) world
      (fun _ after => Held setup after) (Held setup) := by
  refine ends_check_bind (fun _ => ?_) fun _ => held
  refine ends_check_bind (fun _ => ?_) fun _ => held
  refine (chooseWritebackConnector_held held).bind fun _ middle held => ?_
  refine (createWritebackBuffer_held held).bind fun _ after held => ?_
  split
  · exact ends_change (held.same_parts rfl (fun content => by cases content <;> rfl) rfl)
  · exact ends_change_bind (ends_giveUp (destroyWritebackBuffer_held held))

/-- No call leaves an id behind that names no framebuffer or one of another use. -/
theorem step_held (event : Event) (held : Held setup world) : Held setup (step setup world event) := by
  cases event with
  | present picture updateFlowFrame reply => exact (present_held held).after
  | publishRenderedFlowFrame reply => exact (publishRenderedFlowFrame_held held).after
  | publishSolidFlowFrame reply => exact (publishSolidFlowFrame_held held).after
  | publishSolidUiFrame reply => exact (publishSolidUiFrame_held held).after
  | publishUiFrameFromArgb hasPixels width height strideBytes reply =>
    exact (publishUiFrameFromArgb_held held).after
  | enableWritebackRecording hasPath everyNFrames maxFrames reply =>
    exact (enableWritebackRecording_held held).after
  | setVblankWaitEnabled enabled =>
    exact held.same_parts rfl (fun content => by cases content <;> rfl) rfl

theorem create_held (setup : Setup) (uiSurface : Nat × Nat) : Held setup (create setup uiSurface) where
  exist := fun holding kept => by
    have only : holding = (setup.primaryFramebuffer, .primary) := List.mem_singleton.1 kept
    rw [only]
    exact if_pos rfl
  keys := List.nodup_nil
  zero := if_neg setup.primaryExists

end Phases

end Glide.HeldFramebuffers
