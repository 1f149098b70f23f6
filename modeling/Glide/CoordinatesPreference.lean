import Glide.Library.Runs
import Glide.UserInterface

/-! The coordinates are hidden while the map is shown, and come back with what was chosen
before. `MapState` is what this rests on, in the program and in its two files. -/
namespace Glide.CoordinatesPreference
open Library Runs AsciiText NumberText StringConversions PreviewControl MavlinkState
  RuntimeControls UserInterface
open ControlClients (OverlayMode SidebarPanel osdRow)

structure MapState where
  coordinates : Bool
  /-- What the control file tells of the coordinates. -/
  saved : Bool
  before : Bool
  suppressed : Bool
  restoreOpen : Bool
  /-- What a start would read of the map being open. -/
  persisted : Bool
  unsaved : Bool
  /-- Whether the two files can be written. -/
  coordinatesWritable : Bool
  mapWritable : Bool
  overlayMode : OverlayMode
  deriving DecidableEq, Repr

/-- Whether a start finds in the file of the map that it is open. -/
def persistedOpen (file : List (List UInt8)) : Bool :=
  (loadMapSettings { mapFile := file }).mapRestoreOpen

def mapState (ui : UiState) : MapState where
  coordinates := ui.controls.coordinatesEnabled
  saved := ui.controlFiles.coordinatesEnabled
  before := ui.coordinatesBeforeMap
  suppressed := ui.mapCoordinatesSuppressed
  restoreOpen := ui.mapRestoreOpen
  persisted := persistedOpen ui.mapFile
  unsaved := ui.mapUnsaved
  coordinatesWritable := ui.environment.controlWritable .coords
  mapWritable := ui.environment.mapWritable
  overlayMode := ui.overlayMode

namespace MapState

def choose (value : Bool) (map : MapState) : MapState :=
  { map with coordinates := value, saved := if map.coordinatesWritable then value else map.saved }

def persist (map : MapState) : MapState :=
  { map with
    persisted := if map.mapWritable then map.restoreOpen else map.persisted
    unsaved := !map.mapWritable }

def suppress (map : MapState) : MapState :=
  if map.suppressed then map
  else
    let opened := persist { map with
      before := map.coordinates, suppressed := true, restoreOpen := true }
    if map.coordinates then opened.choose false else opened

def restore (map : MapState) : MapState :=
  if map.suppressed then
    let closed := persist { map with suppressed := false, restoreOpen := false }
    if map.coordinates ≠ map.before then closed.choose map.before else closed
  else map

/-- Another overlay than the map is shown. -/
def turnTo (mode : OverlayMode) (map : MapState) : MapState :=
  if map.overlayMode = mode then map
  else { (if map.overlayMode = .minimap then map.restore else map) with overlayMode := mode }

def toggleMap (map : MapState) : MapState :=
  if map.overlayMode = .minimap then { map.restore with overlayMode := .hidden }
  else { map.suppress with overlayMode := .minimap }

/-- What another program reads from the two files. -/
def reload (map : MapState) : MapState :=
  { map with
    coordinates := map.saved, before := true, suppressed := false, restoreOpen := map.persisted
    unsaved := false, overlayMode := .hidden }

def restart (map : MapState) : MapState :=
  if map.persisted then { map.reload with overlayMode := .minimap }.suppress else map.reload

end MapState

/-! ### The map of the user interface -/

/-- Two programs agree on whether the map is to be opened again. -/
def SameOpen (one other : UiState) : Prop := one.mapRestoreOpen = other.mapRestoreOpen

theorem loadMapLine_sameOpen (one other : UiState) (line : List UInt8)
    (same : SameOpen one other) : SameOpen (loadMapLine one line) (loadMapLine other line) := by
  unfold loadMapLine
  dsimp only
  split
  · split <;> exact same
  · split
    · rfl
    · exact same

theorem loadMapSettings_restoreOpen (closed : ui.mapRestoreOpen = false) :
    (loadMapSettings ui).mapRestoreOpen = persistedOpen ui.mapFile :=
  related_after_run ui.mapFile loadMapLine_sameOpen
    (show SameOpen ui { mapFile := ui.mapFile } from closed)

theorem loadMapLine_flag (ui : UiState) (opened : Bool) :
    (loadMapLine ui (ascii "MAP_OPEN=" ++ flag opened)).mapRestoreOpen = opened := by
  cases opened <;> rfl

/-- What is kept of the map is read back. -/
theorem persistedOpen_persisted (ui : UiState) :
    persistedOpen (persistMapSettings ui).mapFile =
      if ui.environment.mapWritable then ui.mapRestoreOpen else persistedOpen ui.mapFile := by
  unfold persistMapSettings
  split
  · exact loadMapLine_flag _ ui.mapRestoreOpen
  · rfl

theorem loadMapSettings_eq (ui : UiState) :
    ∃ position opened,
      loadMapSettings ui = { ui with mapPosition := position, mapRestoreOpen := opened } := by
  have kept : ∀ (after : UiState) line,
      (∃ position opened, after = { ui with mapPosition := position, mapRestoreOpen := opened }) →
      ∃ position opened, loadMapLine after line =
        { ui with mapPosition := position, mapRestoreOpen := opened } := by
    rintro _ line ⟨position, opened, rfl⟩
    unfold loadMapLine
    dsimp only
    split
    · split <;> exact ⟨_, _, rfl⟩
    · split <;> exact ⟨_, _, rfl⟩
  exact invariant_after_any_run ui.mapFile kept ⟨_, _, rfl⟩

theorem loadTelemetrySettings_eq (ui : UiState) :
    ∃ host, loadTelemetrySettings ui = { ui with telemetryHost := host } := by
  have kept : ∀ (after : UiState) line, (∃ host, after = { ui with telemetryHost := host }) →
      ∃ host, loadTelemetryLine after line = { ui with telemetryHost := host } := by
    rintro _ line ⟨host, rfl⟩
    unfold loadTelemetryLine
    dsimp only
    split
    · split <;> exact ⟨_, rfl⟩
    · exact ⟨_, rfl⟩
  exact invariant_after_any_run ui.telemetryFile kept ⟨_, rfl⟩

theorem mapState_sendLine (line : List UInt8) (ui : UiState) :
    mapState (sendLine line ui) = mapState ui := by
  unfold sendLine ControlClients.sendLine
  split <;> rfl

theorem mapState_rebuildUi (ui : UiState) : mapState (rebuildUi ui) = mapState ui := by
  unfold rebuildUi buildOverlay
  split <;> rfl

theorem mapState_setActivePanel (panel : SidebarPanel) (ui : UiState) :
    mapState (setActivePanel panel ui) = mapState ui := mapState_rebuildUi _

theorem keepSetting_other (other : setting ≠ .coords) (value : List UInt8) (ui : UiState) :
    (keepSetting setting value ui).coordinatesEnabled = ui.controlFiles.coordinatesEnabled := by
  unfold keepSetting
  split
  · cases setting with
    | coords => exact absurd rfl other
    | _ => rfl
  · rfl

theorem mapState_changeSetting (other : setting ≠ .coords) (value : List UInt8) (ui : UiState) :
    mapState (changeSetting setting value ui) = mapState ui := by
  unfold changeSetting ControlClients.changeSetting ControlClients.sendSetting
    ControlClients.sendLine
  have kept := keepSetting_other other value ui
  simp only [mapState, kept]
  cases setting with
  | coords => exact absurd rfl other
  | _ => split <;> rfl

theorem flag_told (value : Bool) : decide (flag value = ascii "1") = value := by
  cases value <;> rfl

theorem keepSetting_coords (value : Bool) (ui : UiState) :
    (keepSetting .coords (flag value) ui).coordinatesEnabled =
      if ui.environment.controlWritable .coords then value
      else ui.controlFiles.coordinatesEnabled := by
  unfold keepSetting
  split
  · exact flag_told value
  · rfl

theorem mapState_choose (value : Bool) (ui : UiState) :
    mapState (changeSetting .coords (flag value) ui) = (mapState ui).choose value := by
  have told := flag_told value
  have kept := keepSetting_coords value ui
  unfold changeSetting ControlClients.changeSetting ControlClients.sendSetting
    ControlClients.sendLine
  split
  · simp only [mapState, MapState.choose, RuntimeControlState.assign, told, kept]
    rfl
  · simp only [mapState, MapState.choose, RuntimeControlState.assign, told, kept]
    rfl

theorem mapState_persist (ui : UiState) :
    mapState (persistMapSettings ui) = (mapState ui).persist := by
  have read := persistedOpen_persisted ui
  simp only [mapState, read]
  unfold persistMapSettings MapState.persist
  split
  · rename_i writable
    simp only [writable]
    rfl
  · rename_i writable
    simp only [writable]
    rfl

theorem mapState_ite {condition : Prop} [Decidable condition]
    (yes : condition → mapState one = first) (no : ¬ condition → mapState other = second) :
    mapState (if condition then one else other) = if condition then first else second := by
  split
  · exact yes ‹_›
  · exact no ‹_›

theorem persist_controls (ui : UiState) : (persistMapSettings ui).controls = ui.controls :=
  congrArg (·.controls) (persistMapSettings_base ui)

theorem persist_before (ui : UiState) :
    (persistMapSettings ui).coordinatesBeforeMap = ui.coordinatesBeforeMap :=
  congrArg (·.before) (mapState_persist ui)

theorem mapState_suppress (ui : UiState) :
    mapState (suppressSeparateCoordinatesForMap ui) = (mapState ui).suppress := by
  unfold suppressSeparateCoordinatesForMap MapState.suppress
  refine mapState_ite (fun _ => rfl) fun _ => ?_
  dsimp only
  rw [persist_controls]
  refine mapState_ite (fun _ => ?_) fun _ => mapState_persist _
  rw [show ascii "0" = flag false from rfl, mapState_choose, mapState_persist]
  rfl

theorem mapState_restore (ui : UiState) :
    mapState (restoreSeparateCoordinatesAfterMap ui) = (mapState ui).restore := by
  unfold restoreSeparateCoordinatesAfterMap MapState.restore
  refine mapState_ite (fun _ => ?_) fun _ => rfl
  dsimp only
  rw [persist_controls, persist_before]
  refine mapState_ite (fun _ => ?_) fun _ => mapState_persist _
  rw [mapState_choose, mapState_persist]
  rfl

theorem mapState_leaveMap (ui : UiState) :
    mapState (leaveMap ui) =
      if ui.overlayMode = .minimap then (mapState ui).restore else mapState ui :=
  mapState_ite (fun _ => mapState_restore ui) fun _ => rfl

theorem mapState_turned (mode : OverlayMode) (ui : UiState) :
    mapState (rebuildUi { ui with overlayMode := mode, focusPanel := false }) =
      { mapState ui with overlayMode := mode } := mapState_rebuildUi _

theorem mapState_showMenu (ui : UiState) : mapState (showMenu ui) = (mapState ui).turnTo .menu :=
  mapState_ite (fun _ => rfl) fun _ => by rw [mapState_turned, mapState_leaveMap]; rfl

theorem mapState_hideOverlay (ui : UiState) :
    mapState (hideOverlay ui) = (mapState ui).turnTo .hidden :=
  mapState_ite (fun _ => rfl) fun _ => by rw [mapState_turned, mapState_leaveMap]; rfl

theorem mapState_toggleMap (ui : UiState) :
    mapState (toggleMap ui) = (mapState ui).toggleMap := by
  refine mapState_ite (fun _ => ?_) fun _ => ?_
  · rw [mapState_turned, mapState_restore]
  · rw [mapState_turned, mapState_suppress]

theorem mapState_nextMapPosition (ui : UiState) :
    mapState (nextMapPosition ui) = (mapState ui).persist :=
  mapState_persist _

theorem mapState_loaded (closed : ui.mapRestoreOpen = false) :
    mapState (loadMapSettings (loadTelemetrySettings ui)) =
      { mapState ui with restoreOpen := (mapState ui).persisted } := by
  obtain ⟨host, telemetry⟩ := loadTelemetrySettings_eq ui
  obtain ⟨position, opened, map⟩ := loadMapSettings_eq (loadTelemetrySettings ui)
  have read := @loadMapSettings_restoreOpen (loadTelemetrySettings ui)
    (by rw [telemetry]; exact closed)
  rw [map, telemetry] at read ⊢
  exact congrArg (fun opened => { mapState ui with restoreOpen := opened }) read

theorem mapState_buildOverlay (ui : UiState) : mapState (buildOverlay ui) = mapState ui := by
  unfold buildOverlay
  split <;> rfl

theorem mapState_started (ui : UiState) : mapState (started ui) = (mapState ui).restart := by
  unfold started
  rw [mapState_buildOverlay]
  generalize loaded : load ui = after
  have kept : mapState after = (mapState ui).reload := by
    rw [← loaded, load, mapState_loaded rfl]
    rfl
  have opened : (mapState ui).persisted = after.mapRestoreOpen :=
    (congrArg (·.restoreOpen) kept).symm
  unfold MapState.restart
  rw [opened]
  refine mapState_ite (fun _ => ?_) fun _ => kept
  rw [mapState_suppress, ← kept]
  rfl

/-! ### What a key does to the map -/

/-- A step, with the value that it chooses for the coordinates. -/
inductive Step (map : MapState) : Option Bool → MapState → Prop
  | stay : Step map none map
  | turn (mode : OverlayMode) (other : mode ≠ .minimap) : Step map none (map.turnTo mode)
  | toggle : Step map none map.toggleMap
  | persist : Step map none map.persist
  | choose (value : Bool) (shown : map.overlayMode = .menu) :
    Step map (some value) (map.choose value)

/-- Enter on the row of the coordinates. -/
def chosenByKey (key : List UInt8) (ui : UiState) : Option Bool :=
  if key = ascii "enter" ∧ ui.overlayMode = .menu ∧ ui.focusPanel = true ∧
      ui.activePanel = .osd ∧ ui.selectedRow = 3 then
    some !ui.controls.coordinatesEnabled
  else none

theorem Step.quiet (same : mapState after = mapState ui) :
    Step (mapState ui) none (mapState after) := by
  rw [same]
  exact .stay

theorem mapState_persistDeviceSettings (ui : UiState) :
    mapState (persistDeviceSettingsAndRestart ui) = mapState ui := by
  unfold persistDeviceSettingsAndRestart
  split
  · rfl
  · split <;> rfl

theorem mapState_enterRow (other : ui.activePanel ≠ .osd) :
    mapState (enterRow ui) = mapState ui := by
  unfold enterRow
  split
  case h_1 =>
    split
    · split <;> exact mapState_sendLine _ ui
    · split
      · exact mapState_sendLine _ ui
      · rfl
  case h_2 =>
    iterate 5 (split; exact mapState_sendLine _ ui)
    rfl
  case h_3 =>
    iterate 4 (split; exact mapState_persistDeviceSettings _)
    rfl
  case h_4 panel => exact absurd panel other
  case h_5 =>
    iterate 2 (split; exact mapState_sendLine _ _)
    rfl
  case h_6 =>
    iterate 4 (split; exact mapState_sendLine _ ui)
    rfl
  case h_7 =>
    iterate 3 (split; exact mapState_sendLine _ ui)
    rfl
  case h_8 =>
    split
    · exact mapState_rebuildUi _
    · rfl
  case h_9 => rfl
  case h_10 => rfl

theorem osdRow_coords (row : Int) : osdRow row = some .coords ↔ row = 3 := by
  unfold osdRow
  split
  · simp [*]
  · split
    · simp [*]
    · split
      · simp [*]
      · split
        · simp [*]
        · split <;> simp [*]

theorem enterRow_moves (menu : ui.overlayMode = .menu) (focus : ui.focusPanel = true) :
    Step (mapState ui) (chosenByKey (ascii "enter") ui) (mapState (enterRow ui)) := by
  by_cases panel : ui.activePanel = .osd
  · by_cases coords : ui.selectedRow = 3
    · have pressed : enterRow ui =
          changeSetting .coords (flag !ui.controls.coordinatesEnabled) ui := by
        simp [enterRow, panel, coords, osdRow, ControlClients.nextValue]
      rw [chosenByKey, if_pos ⟨rfl, menu, focus, panel, coords⟩, pressed, mapState_choose]
      exact .choose _ menu
    · rw [chosenByKey, if_neg (by simp [coords])]
      simp only [enterRow, panel]
      split
      · rw [mapState_nextMapPosition]
        exact .persist
      · cases row : osdRow ui.selectedRow with
        | none => exact .stay
        | some setting =>
          have other : setting ≠ .coords := by
            rintro rfl
            exact coords ((osdRow_coords _).1 row)
          exact .quiet (mapState_changeSetting other _ ui)
  · rw [chosenByKey, if_neg (by simp [panel])]
    exact .quiet (mapState_enterRow panel)

theorem menuKey_moves (key : List UInt8) (menu : ui.overlayMode = .menu) :
    Step (mapState ui) (chosenByKey key ui) (mapState (menuKey key ui)) := by
  by_cases enter : key = ascii "enter"
  · subst enter
    by_cases focus : ui.focusPanel = true
    · have pressed : menuKey (ascii "enter") ui = enterRow ui := by
        simp [menuKey, focus, ascii]
      rw [pressed]
      exact enterRow_moves menu focus
    · rw [chosenByKey, if_neg (by simp [focus])]
      have pressed : menuKey (ascii "enter") ui =
          rebuildUi { ui with focusPanel := true, selectedRow := 0 } := by
        simp [menuKey, focus, ascii]
      rw [pressed]
      exact .quiet (mapState_rebuildUi _)
  · rw [chosenByKey, if_neg (by simp [enter])]
    unfold menuKey
    split
    · split
      · exact .quiet (mapState_rebuildUi _)
      · exact .quiet (mapState_setActivePanel _ ui)
    · split
      · split
        · exact .quiet (mapState_rebuildUi _)
        · exact .quiet (mapState_setActivePanel _ ui)
      · split
        · split
          · exact .quiet (mapState_rebuildUi _)
          · rw [mapState_hideOverlay]
            exact .turn .hidden (by decide)
        · split
          · exact .quiet (mapState_rebuildUi _)
          · exact .stay

theorem menuToggled_moves (ui : UiState) :
    Step (mapState ui) none (mapState (cycleOverlayFromMenuKey ui)) := by
  unfold cycleOverlayFromMenuKey
  split
  · rw [mapState_hideOverlay]
    exact .turn .hidden (by decide)
  · rw [mapState_showMenu]
    exact .turn .menu (by decide)

theorem pressKey_moves (key : List UInt8) (ui : UiState) :
    Step (mapState ui) (chosenByKey key ui) (mapState (pressKey key ui)) := by
  by_cases menu : ui.overlayMode = .menu
  · unfold pressKey
    split
    · rename_i named
      rw [chosenByKey, if_neg (by rcases named with rfl | rfl <;> simp [ascii])]
      exact menuToggled_moves ui
    · split
      · rename_i named
        rw [chosenByKey, if_neg (by rcases named with rfl | rfl <;> simp [ascii]),
          mapState_toggleMap]
        exact .toggle
      · rw [if_neg (by simp [menu]), if_neg (by simp [menu]), if_neg (by simp [menu])]
        exact menuKey_moves key menu
  · rw [chosenByKey, if_neg (by simp [menu])]
    unfold pressKey
    split
    · exact menuToggled_moves ui
    · split
      · rw [mapState_toggleMap]
        exact .toggle
      · split
        · exact .stay
        · split
          · exact .quiet (mapState_rebuildUi _)
          · split
            · rw [mapState_showMenu]
              exact .turn .menu (by decide)
            · exact .stay

theorem pressLine_moves (line : List UInt8) (ui : UiState) :
    Step (mapState ui)
      (if (ascii "ui key ").isPrefixOf line then chosenByKey (line.drop 7) ui else none)
      (mapState (pressLine line ui)) := by
  unfold pressLine
  by_cases keyed : (ascii "ui key ").isPrefixOf line = true
  · have named : ∀ word ∈ [ascii "ui show", ascii "ui menu", ascii "ui hide", ascii "ui close",
        ascii "ui toggle"], line ≠ word := by
      rintro word member rfl
      revert keyed
      revert line
      decide
    rw [if_pos keyed, if_neg (by simp [named]), if_neg (by simp [named]),
      if_neg (by simp [named]), if_pos keyed]
    exact pressKey_moves _ ui
  · rw [if_neg keyed, if_neg keyed]
    split
    · rw [mapState_showMenu]
      exact .turn .menu (by decide)
    · split
      · rw [mapState_hideOverlay]
        exact .turn .hidden (by decide)
      · split
        · exact menuToggled_moves ui
        · exact .stay

theorem mapState_updateSetting (other : setting ≠ .coords) (value : List UInt8) (ui : UiState) :
    mapState (updateSetting setting value ui) = mapState ui := by
  unfold updateSetting
  split
  · rfl
  · have kept := keepSetting_other other value ui
    simp only [mapState, kept]
    cases setting with
    | coords => exact absurd rfl other
    | _ => rfl

theorem flag_injective : ∀ one other : Bool, flag one = flag other → one = other := by
  decide

theorem mapState_told (value : Bool) (ui : UiState) :
    ∃ saved, mapState (updateSetting .coords (flag value) ui) =
      { mapState ui with coordinates := value, saved } := by
  have told := flag_told value
  unfold updateSetting
  split
  · rename_i same
    have same : ui.controls.coordinatesEnabled = value := flag_injective _ _ same
    refine ⟨(mapState ui).saved, ?_⟩
    rw [← same]
    rfl
  · refine ⟨(keepSetting .coords (flag value) ui).coordinatesEnabled, ?_⟩
    simp only [mapState, RuntimeControlState.assign, told]

theorem mapState_requestIfShown (uses : SidebarPanel → Bool) (now : Nat) (ui : UiState) :
    mapState (requestIfShown uses now ui) = mapState ui := by
  unfold requestIfShown
  split <;> rfl

theorem mapState_effect (effect : LineEffect now ui after) : mapState after = mapState ui := by
  cases effect with
  | theme theme files => rfl
  | network status net scanning peers => exact mapState_requestIfShown _ _ _
  | mavlink mavlink => exact mapState_requestIfShown _ _ _

theorem mapState_finishPoll (now : Nat) (ui : UiState) :
    mapState (finishPoll now ui) = mapState ui := by
  have rebuilt : mapState (rebuildPendingPanel now ui) = mapState ui := by
    unfold rebuildPendingPanel
    split
    · exact mapState_setActivePanel _ ui
    · rfl
  unfold finishPoll reconnectTelemetry
  split
  · exact (mapState_sendLine _ _).trans rebuilt
  · exact rebuilt

theorem mapState_pollControlFiles (ui : UiState) :
    mapState (pollControlFiles ui) =
      if ui.connected then mapState ui
      else { mapState ui with coordinates := (mapState ui).saved } :=
  mapState_ite (fun _ => rfl) fun _ => rfl

/-! ### The choice is kept -/

/-- While the map is shown the choice is remembered, and otherwise it is what is shown. -/
structure Kept (map : MapState) (chosen : Bool) : Prop where
  shown : map.suppressed = true ↔ map.overlayMode = .minimap
  remembers : (if map.suppressed then map.before else map.coordinates) = chosen

theorem Kept.unsuppressed (kept : Kept map chosen) (closed : map.overlayMode ≠ .minimap) :
    map.suppressed = false := by
  simpa using fun suppressed => closed (kept.shown.1 suppressed)

theorem Kept.coordinates (kept : Kept map chosen) (closed : map.overlayMode ≠ .minimap) :
    map.coordinates = chosen := by
  have remembers := kept.remembers
  rw [if_neg (by simp [kept.unsuppressed closed])] at remembers
  exact remembers

theorem Kept.before (kept : Kept map chosen) (opened : map.overlayMode = .minimap) :
    map.before = chosen := by
  have remembers := kept.remembers
  rw [if_pos (kept.shown.2 opened)] at remembers
  exact remembers

theorem suppress_remembers {map : MapState} (unsuppressed : map.suppressed = false) :
    Kept { map.suppress with overlayMode := .minimap } map.coordinates := by
  unfold MapState.suppress MapState.choose
  rw [if_neg (by simp [unsuppressed])]
  dsimp only
  split
  · exact ⟨by simp [MapState.persist], rfl⟩
  · exact ⟨by simp [MapState.persist], rfl⟩

theorem suppress_turned (mode : OverlayMode) (map : MapState) :
    { map.suppress with overlayMode := mode } =
      MapState.suppress { map with overlayMode := mode } := by
  unfold MapState.suppress MapState.choose MapState.persist
  dsimp only
  split
  · rfl
  · split <;> rfl

theorem restore_shows {map : MapState} (suppressed : map.suppressed = true) (other : mode ≠ .minimap) :
    Kept { map.restore with overlayMode := mode } map.before := by
  unfold MapState.restore MapState.choose
  rw [if_pos suppressed]
  dsimp only
  split
  · exact ⟨by simp [MapState.persist, other], rfl⟩
  · rename_i same
    exact ⟨by simp [MapState.persist, other], of_not_not same⟩

theorem Kept.turnTo (kept : Kept map chosen) (other : mode ≠ .minimap) :
    Kept (map.turnTo mode) chosen := by
  unfold MapState.turnTo
  split
  · exact kept
  · by_cases opened : map.overlayMode = .minimap
    · rw [if_pos opened, ← kept.before opened]
      exact restore_shows (kept.shown.2 opened) other
    · rw [if_neg opened]
      exact { kept with shown := by simp [other, kept.unsuppressed opened] }

theorem Kept.toggleMap (kept : Kept map chosen) : Kept map.toggleMap chosen := by
  unfold MapState.toggleMap
  split
  · rename_i opened
    rw [← kept.before opened]
    exact restore_shows (kept.shown.2 opened) (by decide)
  · rename_i closed
    rw [← kept.coordinates closed]
    exact suppress_remembers (kept.unsuppressed closed)

theorem Kept.choose (kept : Kept map chosen) (closed : map.overlayMode ≠ .minimap) :
    Kept (map.choose value) value where
  shown := kept.shown
  remembers := if_neg (by simp [MapState.choose, kept.unsuppressed closed])

theorem Kept.step (kept : Kept map chosen) (step : Step map choice after) :
    Kept after (choice.getD chosen) := by
  cases step with
  | stay => exact kept
  | turn mode other => exact kept.turnTo other
  | toggle => exact kept.toggleMap
  | persist => exact ⟨kept.shown, kept.remembers⟩
  | choose value shown => exact kept.choose (by simp [shown])

/-- What is told of the coordinates while the map is shown is as good as the value that is
remembered, if another client chose it; otherwise it is to be what is shown already. -/
def Agrees (anew value : Bool) (map : MapState) : Prop :=
  if anew then map.overlayMode = .minimap → value = map.before
  else map.overlayMode ≠ .minimap → value = map.coordinates

theorem Kept.told (kept : Kept map chosen) (agrees : Agrees anew value map) (saved : Bool) :
    Kept { map with coordinates := value, saved } (if anew then value else chosen) where
  shown := kept.shown
  remembers := by
    unfold Agrees at agrees
    by_cases opened : map.overlayMode = .minimap
    · rw [if_pos (kept.shown.2 opened), kept.before opened]
      cases anew with
      | true => exact ((agrees opened).trans (kept.before opened)).symm
      | false => rfl
    · rw [if_neg (by simp [kept.unsuppressed opened])]
      cases anew with
      | true => rfl
      | false => exact (agrees opened).trans (kept.coordinates opened)

/-- A program that starts shows what is saved, or remembers it. -/
theorem restart_kept (map : MapState) : Kept map.restart map.saved := by
  unfold MapState.restart
  split
  · rw [← suppress_turned]
    exact suppress_remembers rfl
  · exact ⟨by simp [MapState.reload], rfl⟩

/-! ### Runs -/

/-- Where something is told of the coordinates, `anew` says that another client chose it. If
not, the controller answers what this program has sent or asked, or the file holds what this
program or the controller has written. -/
inductive Event where
  /-- A line from the controller or a key. -/
  | line (anew : Bool) (now : Nat) (line : List UInt8)
  /-- The switch on the panel is moved. -/
  | switch (value : Bool)
  | finishPoll (now : Nat)
  | environment (environment : Environment)
  | connection (connected : Bool)
  /-- Another program writes the control files. -/
  | written (controls : RuntimeControlState)
  | pollFiles (anew : Bool)
  | restart

/-- The user interface, and what was last chosen. -/
structure Preference where
  ui : UiState
  chosen : Bool

/-- What a line chooses, from another client or as a key. -/
def chosenByLine (anew : Bool) (line : List UInt8) (ui : UiState) : Option Bool :=
  match ControlClients.stateSetting line with
  | some (setting, value) => if setting = .coords ∧ anew then some (value = ascii "1") else none
  | none => if (ascii "ui key ").isPrefixOf line then chosenByKey (line.drop 7) ui else none

def Preference.receive (platform : Platform) (readers : Readers) (anew : Bool) (now : Nat)
    (line : List UInt8) (preference : Preference) : Except CppException Preference := do
  let ui ← pollIpcLine platform readers now line preference.ui
  return { ui, chosen := (chosenByLine anew line preference.ui).getD preference.chosen }

/-- There is a switch only where its panel is shown. -/
def Preference.switch (value : Bool) (preference : Preference) : Preference :=
  if preference.ui.overlayMode = .menu ∧ preference.ui.activePanel = .osd ∧
      preference.ui.compact = false then
    { ui := changeSetting .coords (flag value) preference.ui, chosen := value }
  else preference

/-- The files are read only while there is no connection. -/
def Preference.pollFiles (anew : Bool) (preference : Preference) : Preference where
  ui := pollControlFiles preference.ui
  chosen :=
    if anew ∧ preference.ui.connected = false then preference.ui.controlFiles.coordinatesEnabled
    else preference.chosen

def Preference.restart (preference : Preference) : Except CppException Preference := do
  return { preference with ui := ← start preference.ui }

def step (platform : Platform) (readers : Readers) (process : Except CppException Preference) :
    Event → Except CppException Preference
  | .line anew now line => process.bind (Preference.receive platform readers anew now line)
  | .switch value => process.map (Preference.switch value)
  | .finishPoll now => process.map fun preference =>
    { preference with ui := finishPoll now preference.ui }
  | .environment environment => process.map fun preference =>
    { preference with ui := { preference.ui with environment } }
  | .connection connected => process.map fun preference =>
    { preference with ui := { preference.ui with connected } }
  | .written controls => process.map fun preference =>
    { preference with ui := { preference.ui with controlFiles := controls } }
  | .pollFiles anew => process.map (Preference.pollFiles anew)
  | .restart => process.bind Preference.restart

/-- What the control file tells at the first start is taken for the choice. -/
def begun (before : UiState) : Except CppException Preference :=
  Preference.restart { ui := before, chosen := before.controlFiles.coordinatesEnabled }

def run (platform : Platform) (readers : Readers) (before : UiState) (events : List Event) :
    Except CppException Preference := events.foldl (step platform readers) (begun before)

/-- Whatever is told of the coordinates agrees with what is shown or remembered, and a restart
finds it in the control file. -/
def Reconciled : Except CppException Preference → Event → Prop
  | .ok preference, .line anew _ line =>
    ∀ value, ControlClients.stateSetting line = some (.coords, flag value) →
      Agrees anew value (mapState preference.ui)
  | .ok preference, .pollFiles anew => preference.ui.connected = false →
    Agrees anew preference.ui.controlFiles.coordinatesEnabled (mapState preference.ui)
  | .ok preference, .restart =>
    preference.ui.controlFiles.coordinatesEnabled =
      if preference.ui.overlayMode = .minimap then preference.ui.coordinatesBeforeMap
      else preference.ui.controls.coordinatesEnabled
  | _, _ => True

/-- The choice is kept as long as the program runs. -/
def Keeps : Except CppException Preference → Prop
  | .ok preference => Kept (mapState preference.ui) preference.chosen
  | .error _ => True

theorem coords_flag (told : ControlClients.stateSetting line = some (.coords, value)) :
    value = flag (value = ascii "1") := by
  have allowed := (ControlClients.stateSetting_some told).1
  simp only [Setting.values, List.mem_cons, List.not_mem_nil, or_false] at allowed
  rcases allowed with rfl | rfl <;> rfl

theorem receive_keeps (platform : Platform) (readers : Readers) (now : Nat)
    (kept : Keeps (.ok preference)) (reconciled : Reconciled (.ok preference) (.line anew now line)) :
    Keeps (preference.receive platform readers anew now line) := by
  have kept : Kept (mapState preference.ui) preference.chosen := kept
  rcases pollIpcLine_cases platform readers line with
    ⟨setting, value, told, answer⟩ | ⟨told, ⟨_, exception, fails⟩ | answers⟩
  · rw [Preference.receive, answer, chosenByLine, told]
    by_cases coords : setting = .coords
    · subst coords
      have number := coords_flag told
      rw [number] at told
      obtain ⟨saved, same⟩ := mapState_told (value = ascii "1") preference.ui
      rw [← number] at same
      have agreed := kept.told (reconciled _ told) saved
      rw [← same] at agreed
      cases anew with
      | true => exact agreed
      | false => exact agreed
    · dsimp only
      rw [if_neg fun named => coords named.1]
      change Kept (mapState (updateSetting setting value preference.ui)) preference.chosen
      rw [mapState_updateSetting coords]
      exact kept
  · simp only [Preference.receive, fails]
    trivial
  · rcases answers now preference.ui with ⟨after, answer, plain, effect⟩ | pressed
    · have unkeyed : ¬ (ascii "ui key ").isPrefixOf line = true :=
        fun start => plain (head_when_prefixed start)
      rw [Preference.receive, answer, chosenByLine, told]
      dsimp only
      rw [if_neg unkeyed]
      change Kept (mapState after) preference.chosen
      rw [mapState_effect effect]
      exact kept
    · rw [Preference.receive, pressed, chosenByLine, told]
      cases lineThrows line preference.ui.overlayMode preference.ui.environment with
      | error exception => trivial
      | ok _ => exact kept.step (pressLine_moves line preference.ui)

theorem restart_keeps {preference : Preference}
    (saved : preference.ui.controlFiles.coordinatesEnabled = preference.chosen) :
    Keeps preference.restart := by
  unfold Preference.restart
  rcases start_eq preference.ui with begins | ⟨exception, fails⟩
  · rw [begins]
    change Kept (mapState (started preference.ui)) preference.chosen
    rw [mapState_started, ← saved]
    exact restart_kept _
  · rw [fails]
    trivial

theorem pollFiles_keeps {preference : Preference}
    (kept : Kept (mapState preference.ui) preference.chosen)
    (reconciled : preference.ui.connected = false →
      Agrees anew preference.ui.controlFiles.coordinatesEnabled (mapState preference.ui)) :
    Keeps (.ok (preference.pollFiles anew)) := by
  change Kept (mapState (pollControlFiles preference.ui)) (if _ then _ else _)
  rw [mapState_pollControlFiles]
  by_cases online : preference.ui.connected = true
  · rw [if_pos online, if_neg fun read => by simp [online] at read]
    exact kept
  · have offline : preference.ui.connected = false := Bool.eq_false_of_not_eq_true online
    have agreed := kept.told (reconciled offline) (mapState preference.ui).saved
    rw [if_neg online]
    cases anew with
    | true =>
      rw [if_pos ⟨rfl, offline⟩]
      exact agreed
    | false => exact agreed

theorem step_keeps (platform : Platform) (readers : Readers)
    (process : Except CppException Preference) (event : Event) (kept : Keeps process)
    (reconciled : Reconciled process event) : Keeps (step platform readers process event) := by
  cases process with
  | error exception => cases event <;> trivial
  | ok preference =>
    have kept : Kept (mapState preference.ui) preference.chosen := kept
    cases event with
    | line anew now line => exact receive_keeps platform readers now kept reconciled
    | switch value =>
      change Kept (mapState (preference.switch value).ui) (preference.switch value).chosen
      unfold Preference.switch
      split
      · rename_i shown
        rw [mapState_choose]
        exact kept.choose (by simp [mapState, shown.1])
      · exact kept
    | finishPoll now =>
      change Kept (mapState (finishPoll now preference.ui)) preference.chosen
      rw [mapState_finishPoll]
      exact kept
    | environment environment => exact ⟨kept.shown, kept.remembers⟩
    | connection connected => exact kept
    | written controls => exact ⟨kept.shown, kept.remembers⟩
    | pollFiles anew => exact pollFiles_keeps kept reconciled
    | restart =>
      refine restart_keeps (Eq.trans reconciled ?_)
      split
      · rename_i opened
        exact kept.before opened
      · rename_i closed
        exact kept.coordinates closed

theorem run_keeps (platform : Platform) (readers : Readers) (before : UiState)
    (reconciled : Meets (step platform readers) Reconciled (begun before) events) :
    Keeps (run platform readers before events) :=
  invariant_after_run events (step_keeps platform readers) (restart_keeps rfl) reconciled

/-- Where the map is not shown, the coordinates are as they were last chosen, whatever happened
while the map was shown. -/
theorem closed_map_shows_choice (platform : Platform) (readers : Readers) (before : UiState)
    (reconciled : Meets (step platform readers) Reconciled (begun before) events)
    (reached : run platform readers before events = .ok preference)
    (closed : preference.ui.overlayMode ≠ .minimap) :
    preference.ui.controls.coordinatesEnabled = preference.chosen := by
  have kept : Keeps (.ok preference) := reached ▸ run_keeps platform readers before reconciled
  exact Kept.coordinates kept closed

def platform64 : Platform where
  longBits := 64
  nanFraction := fun _ => 0

/-- The map is opened and closed, with the answers of the controller. Another client chooses, and
the map is opened once more, across a restart. -/
def connectedSession : List Event :=
  [.line false 0 (ascii "ui key n"), .line false 20 (ascii "state coords 0"),
    .line false 40 (ascii "ui key n"), .line false 60 (ascii "state coords 1"),
    .line true 80 (ascii "state coords 0"), .line false 100 (ascii "ui key n"), .restart,
    .line false 10 (ascii "ui key n")]

/-- The program is started anew while the map is shown. -/
def restartedMeanwhile : List Event :=
  [.line false 0 (ascii "ui key n"), .restart, .line false 10 (ascii "ui key n")]

theorem connected_session_reconciled :
    Meets (step platform64 noReaders) Reconciled (begun {}) connectedSession := by
  refine ⟨?_, ?_, ?_, ?_, ?_, ?_, rfl, ?_, trivial⟩
  -- the keys tell nothing
  case refine_1 | refine_3 | refine_6 | refine_7 =>
    intro value told
    cases told
  -- the first answer comes while the map is shown, the second one tells what is shown
  case refine_2 =>
    intro value told shown
    exact absurd rfl shown
  case refine_4 =>
    intro value told _
    exact (flag_injective true value (by cases value <;> first | rfl | cases told)).symm
  case refine_5 =>
    intro value told shown
    cases shown

theorem connected_session_shown : ∃ preference,
    run platform64 noReaders {} connectedSession = .ok preference ∧
      preference.ui.controls.coordinatesEnabled = preference.chosen := by
  refine ⟨_, rfl, ?_⟩
  apply closed_map_shows_choice platform64 noReaders {} connected_session_reconciled rfl
  intro opened
  cases opened

/-- The hidden coordinates stay hidden. -/
theorem restarted_meanwhile_loses : ∃ preference,
    run platform64 noReaders {} restartedMeanwhile = .ok preference ∧
      preference.ui.overlayMode ≠ .minimap ∧
      preference.ui.controls.coordinatesEnabled ≠ preference.chosen := by
  refine ⟨_, rfl, ?_, ?_⟩
  · intro opened
    cases opened
  · intro same
    cases same

end Glide.CoordinatesPreference
