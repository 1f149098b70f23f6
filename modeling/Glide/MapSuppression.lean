import Glide.CoordinatesPreference

/-! Whether the map is shown, whether it hides the coordinates and whether a start is to open it
again are told by three members, which change in pairs, and the file tells the same as long as it
can be written. -/
namespace Glide.MapSuppression
open Library Runs AsciiText NumberText StringConversions PreviewControl MavlinkState UserInterface
open CoordinatesPreference

inductive Event where
  /-- A line of a key, as it is given by the keyboard or the file of keys. -/
  | key (line : List UInt8)
  /-- A line from the controller. -/
  | line (now : Nat) (line : List UInt8)
  | finishPoll (now : Nat)
  | environment (environment : Environment)

/-- `poll_local_key_file` and `dispatch_key` -/
def applyKeyLine (line : List UInt8) (ui : UiState) : Except CppException UiState :=
  if (ascii "ui key ").isPrefixOf line then applyTerminalKey line ui
  else applyTerminalKey (ascii "ui key " ++ line) ui

def step (platform : Platform) (readers : Readers) (process : Except CppException UiState) :
    Event → Except CppException UiState
  | .key line => process.bind (applyKeyLine line)
  | .line now line => process.bind (pollIpcLine platform readers now line)
  | .finishPoll now => process.map (finishPoll now)
  | .environment environment => process.map fun ui => { ui with environment }

/-- A run from a start with any files. -/
def run (platform : Platform) (readers : Readers) (before : UiState) (events : List Event) :
    Except CppException UiState := events.foldl (step platform readers) (start before)

/-! ### What an event does to the map -/

/-- The members agree with one another, and with the file unless it could not be written. -/
structure Paired (map : MapState) : Prop where
  shown : map.overlayMode = .minimap ↔ map.suppressed = true
  restoreOpen : map.restoreOpen = map.suppressed
  persisted : map.unsaved = false → map.persisted = map.suppressed

inductive Moved (map : MapState) : MapState → Prop
  | step (choice : Option Bool) (step : Step map choice after) : Moved map after
  | told (value saved : Bool) : Moved map { map with coordinates := value, saved }

theorem Moved.quiet (same : mapState after = mapState ui) :
    Moved (mapState ui) (mapState after) := .step none (.quiet same)

theorem pressed_moved (line : List UInt8) (pressed : applyTerminalKey line ui = .ok after) :
    Moved (mapState ui) (mapState after) := by
  rw [applyTerminalKey_eq] at pressed
  cases thrown : lineThrows line ui.overlayMode ui.environment with
  | error exception =>
    rw [thrown] at pressed
    cases pressed
  | ok _ =>
    rw [thrown] at pressed
    cases pressed
    exact .step _ (pressLine_moves line ui)

theorem line_moved (platform : Platform) (readers : Readers) (now : Nat) (line : List UInt8)
    (taken : pollIpcLine platform readers now line ui = .ok after) :
    Moved (mapState ui) (mapState after) := by
  rcases pollIpcLine_cases platform readers line with
    ⟨setting, value, told, answer⟩ | ⟨_, ⟨_, exception, fails⟩ | answers⟩
  · rw [answer] at taken
    cases taken
    by_cases coords : setting = .coords
    · subst coords
      obtain ⟨saved, same⟩ := mapState_told (value = ascii "1") ui
      rw [← coords_flag told] at same
      rw [same]
      exact .told _ saved
    · exact .quiet (mapState_updateSetting coords value ui)
  · rw [fails] at taken
    cases taken
  · rcases answers now ui with ⟨_, answer, _, effect⟩ | pressed
    · rw [answer] at taken
      cases taken
      exact .quiet (mapState_effect effect)
    · rw [pressed, ← applyTerminalKey_eq] at taken
      exact pressed_moved line taken

theorem event_moved (platform : Platform) (readers : Readers) (event : Event)
    (taken : step platform readers (.ok ui) event = .ok after) :
    Moved (mapState ui) (mapState after) ∨
      ∃ environment, event = .environment environment ∧ after = { ui with environment } := by
  cases event with
  | key line =>
    change applyKeyLine line ui = .ok after at taken
    unfold applyKeyLine at taken
    split at taken
    · exact .inl (pressed_moved _ taken)
    · exact .inl (pressed_moved _ taken)
  | line now line => exact .inl (line_moved platform readers now line taken)
  | finishPoll now =>
    cases taken
    exact .inl (.quiet (mapState_finishPoll now ui))
  | environment environment =>
    cases taken
    exact .inr ⟨environment, rfl, rfl⟩

theorem persist_agrees {map : MapState} (same : map.restoreOpen = map.suppressed) :
    map.persist.unsaved = false → map.persist.persisted = map.suppressed := by
  intro saved
  have writable : map.mapWritable = true := by simpa [MapState.persist] using saved
  simp [MapState.persist, writable, same]

theorem paired_suppress (map : MapState) (closed : map.suppressed = false)
    (shown : map.overlayMode = .minimap) : Paired map.suppress ∧ map.suppress.coordinates = false := by
  unfold MapState.suppress
  rw [if_neg (by simp [closed])]
  have agrees := @persist_agrees
    { map with before := map.coordinates, suppressed := true, restoreOpen := true } rfl
  dsimp only
  split
  · exact ⟨⟨by simp [MapState.choose, MapState.persist, shown], rfl, agrees⟩, rfl⟩
  · rename_i off
    exact ⟨⟨by simp [MapState.persist, shown], rfl, agrees⟩, Bool.eq_false_iff.2 off⟩

theorem paired_restore (map : MapState) (opened : map.suppressed = true) (other : mode ≠ .minimap) :
    Paired { map.restore with overlayMode := mode } := by
  unfold MapState.restore
  rw [if_pos opened]
  have agrees := @persist_agrees { map with suppressed := false, restoreOpen := false } rfl
  dsimp only
  split
  · exact ⟨by simp [MapState.choose, MapState.persist, other], rfl, agrees⟩
  · exact ⟨by simp [MapState.persist, other], rfl, agrees⟩

theorem Paired.turnTo (paired : Paired map) (other : mode ≠ .minimap) :
    Paired (map.turnTo mode) := by
  unfold MapState.turnTo
  split
  · exact paired
  · by_cases opened : map.overlayMode = .minimap
    · rw [if_pos opened]
      exact paired_restore map (paired.shown.1 opened) other
    · rw [if_neg opened]
      exact { paired with shown := by simp [other, ← paired.shown, opened] }

theorem Paired.toggleMap (paired : Paired map) : Paired map.toggleMap := by
  unfold MapState.toggleMap
  split
  · rename_i opened
    exact paired_restore map (paired.shown.1 opened) (by decide)
  · rename_i hidden
    have closed : map.suppressed = false :=
      Bool.eq_false_iff.2 fun opened => hidden (paired.shown.2 opened)
    rw [suppress_turned]
    exact (paired_suppress { map with overlayMode := .minimap } closed rfl).1

/-- No event takes the members apart. -/
theorem Paired.moved (paired : Paired map) (moved : Moved map after) : Paired after := by
  cases moved with
  | step choice step =>
    cases step with
    | stay => exact paired
    | turn mode other => exact paired.turnTo other
    | toggle => exact paired.toggleMap
    | persist => exact ⟨paired.shown, paired.restoreOpen, persist_agrees paired.restoreOpen⟩
    | choose value shown => exact ⟨paired.shown, paired.restoreOpen, paired.persisted⟩
  | told value saved => exact ⟨paired.shown, paired.restoreOpen, paired.persisted⟩

theorem turnTo_closed {map : MapState} (closed : map.suppressed = false) :
    (map.turnTo mode).suppressed = false := by
  have restored : map.restore = map := if_neg (by simp [closed])
  unfold MapState.turnTo
  rw [restored]
  split
  · exact closed
  · split
    · exact closed
    · exact closed

/-- The map opens with the coordinates switched off. -/
theorem opened_off (paired : Paired map) (moved : Moved map after)
    (closed : map.suppressed = false) (opened : after.suppressed = true) :
    after.coordinates = false := by
  cases moved with
  | step choice step =>
    cases step with
    | stay => exact absurd opened (by simp [closed])
    | turn mode other => exact absurd opened (by simp [turnTo_closed closed])
    | toggle =>
      unfold MapState.toggleMap at opened ⊢
      have hidden : map.overlayMode ≠ .minimap := fun shown => by simp [paired.shown.1 shown] at closed
      rw [if_neg hidden, suppress_turned]
      exact (paired_suppress { map with overlayMode := .minimap } closed rfl).2
    | persist => exact absurd opened (by simp [MapState.persist, closed])
    | choose value shown => exact absurd opened (by simp [MapState.choose, closed])
  | told value saved => exact absurd opened (by simp [closed])

/-- The file of the map can be written, and was when it was last tried. -/
structure Saved (map : MapState) : Prop where
  writable : map.mapWritable = true
  kept : map.unsaved = false

theorem saved_persist {map : MapState} (writable : map.mapWritable = true) : Saved map.persist :=
  ⟨writable, by simp [MapState.persist, writable]⟩

theorem Saved.suppress (saved : Saved map) : Saved map.suppress := by
  unfold MapState.suppress
  have persisted := @saved_persist
    { map with before := map.coordinates, suppressed := true, restoreOpen := true } saved.writable
  dsimp only
  split
  · exact saved
  · split
    · exact ⟨persisted.writable, persisted.kept⟩
    · exact persisted

theorem Saved.restore (saved : Saved map) : Saved map.restore := by
  unfold MapState.restore
  have persisted := @saved_persist { map with suppressed := false, restoreOpen := false }
    saved.writable
  dsimp only
  split
  · split
    · exact ⟨persisted.writable, persisted.kept⟩
    · exact persisted
  · exact saved

theorem Saved.moved (saved : Saved map) (moved : Moved map after) : Saved after := by
  have restored := saved.restore
  have suppressed := saved.suppress
  cases moved with
  | step choice step =>
    cases step with
    | stay => exact saved
    | turn mode other =>
      unfold MapState.turnTo
      split
      · exact saved
      · split
        · exact ⟨restored.writable, restored.kept⟩
        · exact ⟨saved.writable, saved.kept⟩
    | toggle =>
      unfold MapState.toggleMap
      split
      · exact ⟨restored.writable, restored.kept⟩
      · exact ⟨suppressed.writable, suppressed.kept⟩
    | persist => exact saved_persist saved.writable
    | choose value shown => exact ⟨saved.writable, saved.kept⟩
  | told value saved_ => exact ⟨saved.writable, saved.kept⟩

theorem saved_restart {map : MapState} (writable : map.mapWritable = true) : Saved map.restart := by
  have saved : Saved map.reload := ⟨writable, rfl⟩
  unfold MapState.restart
  split
  · exact Saved.suppress ⟨writable, rfl⟩
  · exact saved

/-! ### Runs -/

/-- A start opens the map as the file tells, with the coordinates switched off. -/
theorem paired_restart (map : MapState) :
    Paired map.restart ∧ (map.restart.suppressed = true → map.restart.coordinates = false) := by
  unfold MapState.restart
  split
  · have opened := paired_suppress { map.reload with overlayMode := .minimap } rfl rfl
    exact ⟨opened.1, fun _ => opened.2⟩
  · rename_i closed
    have persisted : map.persisted = false := Bool.eq_false_iff.2 closed
    exact ⟨⟨by simp [MapState.reload], persisted, fun _ => persisted⟩, fun opened => by cases opened⟩

def Sound : Except CppException UiState → Prop
  | .ok ui => Paired (mapState ui)
  | .error _ => True

theorem run_sound (platform : Platform) (readers : Readers) (before : UiState)
    (events : List Event) : Sound (run platform readers before events) := by
  refine invariant_after_any_run events (fun process event sound => ?_) ?_
  · cases process with
    | error exception => cases event <;> trivial
    | ok ui =>
      cases taken : step platform readers (.ok ui) event with
      | error exception => trivial
      | ok after =>
        rcases event_moved platform readers event taken with moved | ⟨environment, rfl, rfl⟩
        · exact Paired.moved sound moved
        · exact ⟨sound.shown, sound.restoreOpen, sound.persisted⟩
  · rcases start_eq before with begins | ⟨exception, fails⟩
    · rw [begins]
      change Paired (mapState (started before))
      rw [mapState_started]
      exact (paired_restart _).1
    · rw [fails]
      trivial

def Kept : Except CppException UiState → Prop
  | .ok ui => Saved (mapState ui)
  | .error _ => True

/-- As long as the file can be written, every attempt to write it succeeds. -/
theorem run_kept (platform : Platform) (readers : Readers) (before : UiState)
    (writable : before.environment.mapWritable = true) (events : List Event)
    (always : ∀ environment, .environment environment ∈ events → environment.mapWritable = true) :
    Kept (run platform readers before events) := by
  refine invariant_over_events events (fun process event member kept _ => ?_) ?_
    (meets_of_always (fun _ _ => trivial) _ _)
  · cases process with
    | error exception => cases event <;> trivial
    | ok ui =>
      cases taken : step platform readers (.ok ui) event with
      | error exception => trivial
      | ok after =>
        rcases event_moved platform readers event taken with moved | ⟨environment, rfl, rfl⟩
        · exact Saved.moved kept moved
        · exact ⟨always environment member, kept.kept⟩
  · rcases start_eq before with begins | ⟨exception, fails⟩
    · rw [begins]
      change Saved (mapState (started before))
      rw [mapState_started]
      exact saved_restart writable
    · rw [fails]
      trivial

/-- The program runs and the map hides the coordinates. -/
def Suppressed (process : Except CppException UiState) : Prop :=
  ∃ ui, process = .ok ui ∧ ui.mapCoordinatesSuppressed = true

theorem begins_off (platform : Platform) (readers : Readers) (before : UiState)
    (begins : Begins (step platform readers) Suppressed (start before) events) :
    ∃ ui, run platform readers before events = .ok ui ∧ ui.controls.coordinatesEnabled = false := by
  obtain ⟨⟨ui, reached, suppressed⟩, rfl | ⟨earlier, event, rfl, unsuppressed⟩⟩ := begins
  · rcases start_eq before with starts | ⟨exception, fails⟩
    · obtain rfl : started before = ui := Except.ok.inj (starts.symm.trans reached)
      have opened : (mapState (started before)).suppressed = true := suppressed
      rw [mapState_started] at opened
      have off := (paired_restart (mapState before)).2 opened
      rw [← mapState_started] at off
      exact ⟨_, starts, off⟩
    · cases fails.symm.trans reached
  · have sound := run_sound platform readers before earlier
    rw [List.foldl_append, List.foldl_cons, List.foldl_nil] at reached
    change step platform readers (run platform readers before earlier) event = .ok ui at reached
    refine ⟨ui, by rw [run, List.foldl_append]; exact reached, ?_⟩
    cases previous : run platform readers before earlier with
    | error exception =>
      rw [previous] at reached
      cases event <;> cases reached
    | ok shown =>
      rw [previous] at reached sound
      have closed : shown.mapCoordinatesSuppressed = false :=
        Bool.eq_false_iff.2 fun opened => unsuppressed ⟨shown, previous, opened⟩
      rcases event_moved platform readers event reached with moved | ⟨environment, rfl, rfl⟩
      · exact opened_off sound moved closed suppressed
      · exact absurd suppressed (Bool.eq_false_iff.1 closed)

/-- After every run the map is shown exactly while it hides the coordinates, which is what a start
is to restore and what the file tells, unless it could not be written when that was last tried; the
coordinates were switched off when it was opened. -/
theorem map_suppression_invariant (platform : Platform) (readers : Readers) (before : UiState)
    (events : List Event) (reached : run platform readers before events = .ok ui) :
    (ui.overlayMode = .minimap ↔ ui.mapCoordinatesSuppressed = true) ∧
    ui.mapRestoreOpen = ui.mapCoordinatesSuppressed ∧
    (ui.mapUnsaved = false → persistedOpen ui.mapFile = ui.mapCoordinatesSuppressed) ∧
    (before.environment.mapWritable = true →
      (∀ environment, .environment environment ∈ events → environment.mapWritable = true) →
      ui.mapUnsaved = false) ∧
    (ui.mapCoordinatesSuppressed = true → ∃ opening since, events = opening ++ since ∧
      Begins (step platform readers) Suppressed (start before) opening ∧
      (∃ opened, run platform readers before opening = .ok opened ∧
        opened.controls.coordinatesEnabled = false) ∧
      ∀ part, part <+: since → Suppressed (run platform readers before (opening ++ part))) := by
  have sound : Sound (.ok ui) := reached ▸ run_sound platform readers before events
  have kept writable always : Kept (.ok ui) :=
    reached ▸ run_kept platform readers before writable events always
  refine ⟨sound.shown, sound.restoreOpen, sound.persisted,
    fun writable always => (kept writable always).kept, fun suppressed => ?_⟩
  obtain ⟨opening, since, shape, begins, held⟩ := @begun_since _ _ (step platform readers)
    (start before) Suppressed events ⟨ui, reached, suppressed⟩
  exact ⟨opening, since, shape, begins, begins_off platform readers before begins, held⟩

/-- The map is opened again by the start, closed by a key and opened by another one. -/
theorem reopened_map_suppresses : ∃ ui,
    run platform64 noReaders { mapFile := [ascii "MAP_OPEN=1"] }
      [.key (ascii "m"), .line 0 (ascii "state coords 0"), .key (ascii "ui key map")] = .ok ui ∧
      (ui.overlayMode = .minimap ↔ ui.mapCoordinatesSuppressed = true) ∧
      persistedOpen ui.mapFile = ui.mapCoordinatesSuppressed := by
  refine ⟨_, rfl, ?_⟩
  have invariant := map_suppression_invariant platform64 noReaders { mapFile := [ascii "MAP_OPEN=1"] }
    [.key (ascii "m"), .line 0 (ascii "state coords 0"), .key (ascii "ui key map")] rfl
  exact ⟨invariant.1, invariant.2.2.1 (invariant.2.2.2.1 rfl (by simp))⟩

/-- A file that cannot be written does not tell that the map is open. -/
theorem unwritable_file_differs : ∃ ui,
    run platform64 noReaders { environment := { mapWritable := false } } [.key (ascii "n")] =
      .ok ui ∧
      ui.mapRestoreOpen = true ∧ persistedOpen ui.mapFile = false :=
  ⟨_, rfl, rfl, rfl⟩

end Glide.MapSuppression
