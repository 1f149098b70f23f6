import Glide.MavlinkState
import Glide.RuntimeControls

/-! The programs at the other end of the control protocol: what the lines of the controller mean
to the user interface, its headless worker and the overlay, and what the user interface sends. -/
namespace Glide.ControlClients
open Library AsciiText NumberText StringConversions PreviewControl MavlinkState RuntimeControls

inductive OverlayMode where
  | menu
  | minimap
  | hidden
  deriving DecidableEq, Repr

inductive SidebarPanel where
  | dashboard
  | link
  | video
  | camera
  | osd
  | telemetry
  | recording
  | system
  | developer
  | colors
  deriving DecidableEq, Repr

/-- The part of the user interface that lines and settings are about. -/
structure UiState where
  controls : RuntimeControlState := {}
  /-- The colors of the four known keys. -/
  theme : List UInt8 → UInt32 := defaultThemeColor
  files : ThemeFiles := {}
  mavlink : Snapshot := {}
  telemetryStatus : List UInt8 := ascii "Disconnected"
  netStatus : List UInt8 := ascii "Idle"
  netScanning : Bool := false
  netPeers : List (List UInt8) := []
  connected : Bool := true
  sent : List (List UInt8) := []

def sendLine (line : List UInt8) (ui : UiState) : UiState :=
  if ui.connected then { ui with sent := ui.sent ++ [line] } else ui

/-- `send_fps_state` and its siblings. -/
def sendSetting (setting : Setting) (ui : UiState) : UiState :=
  sendLine (setLine setting (ui.controls.value setting)) ui

/-- A change of a setting is shown at once and then sent. -/
def changeSetting (setting : Setting) (value : List UInt8) (ui : UiState) : UiState :=
  sendSetting setting { ui with controls := ui.controls.assign value setting }

/-- The value that the row of a setting changes to. -/
def nextValue (controls : RuntimeControlState) : Setting → List UInt8
  | .fps => flag !controls.fpsEnabled
  | .coords => flag !controls.coordinatesEnabled
  | .compact => flag !controls.compactReadouts
  | .topbar => flag !controls.topBarEnabled
  | .osd =>
    if controls.osdLayout = ascii "drone" then ascii "rocket"
    else if controls.osdLayout = ascii "rocket" then ascii "rover"
    else if controls.osdLayout = ascii "rover" then ascii "ship"
    else ascii "drone"

def rotationPresets : List Int := [0, 90, 180, 270]

/-- The next value after `current`, or the first at the end; between two values the upper one. -/
def nextValueInCycle (current first : Int) : List Int → Int
  | [] => first
  | value :: rest =>
    if current = value then rest.headD first
    else if current < value then value
    else nextValueInCycle current first rest

def nextRotationValue (current : List UInt8) : Int :=
  nextValueInCycle (caught 0 (stoi current)) 0 rotationPresets

/-! ### The menu -/

def SidebarPanel.all : List SidebarPanel :=
  [.dashboard, .link, .video, .camera, .osd, .telemetry, .recording, .system, .developer, .colors]

/-- The panel `offset` places further in the list, or the last one on that side. -/
def neighbour (panel : SidebarPanel) (offset : Int) : SidebarPanel :=
  let index := max 0 (min 9 ((SidebarPanel.all.idxOf panel : Nat) + offset))
  SidebarPanel.all.getD index.toNat panel

/-- The setting that a row of the OSD panel changes. -/
def osdRow (row : Int) : Option Setting :=
  if row = 0 then some .osd
  else if row = 1 then some .topbar
  else if row = 2 then some .fps
  else if row = 3 then some .coords
  else if row = 5 then some .compact
  else none

/-- The keys that zoom the map while it is shown. -/
def zoomKeys : List (List UInt8) :=
  [ascii "+", ascii "=", ascii ">", ascii "right", ascii "zoom-in",
    ascii "-", ascii "_", ascii "<", ascii "left", ascii "zoom-out"]

/-! ### Lines from the controller -/

/-- The setting and the value of a "state" line. -/
def stateSetting (line : List UInt8) : Option (Setting × List UInt8) :=
  settings.findSome? fun setting =>
    (setting.values.find? fun value => line = stateLine setting value).map
      fun value => (setting, value)

def stateThemeCommand : List UInt8 := ascii "state theme "

/-- The value is converted without a check of its digits. -/
def applyThemeStateLine (platform : Platform) (line : List UInt8) (ui : UiState) :
    Except CppException (Bool × UiState) :=
  if !stateThemeCommand.isPrefixOf line then .ok (false, ui)
  else
    match keyAndValue (line.drop stateThemeCommand.length) with
    | none => .ok (true, ui)
    | some (key, value) =>
      if value.length = 6 then do
        let rgb := UInt32.ofNat (← stoulHex platform value)
        if key ∈ themeKeys then
          return (true, { ui with
            theme := Function.update ui.theme key rgb, files := setThemeColor ui.files key rgb })
        else return (true, ui)
      else .ok (true, ui)

/-- The text of a discovered peer, if the line names an address. -/
def peerText (line : List UInt8) : Option (List UInt8) :=
  let (_, stream) := nextWord line
  let (_, stream) := nextWord stream
  let (_, stream) := nextWord stream
  let (address, stream) := nextWord stream
  let (hostname, stream) := nextWord stream
  let (port, _) := nextWord stream
  if address = [] then none
  else if hostname = [] then some address
  else some (hostname ++ [32] ++ address ++ [58] ++ port)

def applyNetworkStateLine (line : List UInt8) (ui : UiState) : Except CppException (Bool × UiState) :=
  if (ascii "state telemetry ").isPrefixOf line then do
    return (true, { ui with telemetryStatus := ← substr line 16 })
  else if line = ascii "state net idle" then
    .ok (true, { ui with netScanning := false, netStatus := ascii "Idle" })
  else if line = ascii "state net scanning" then
    .ok (true, { ui with netScanning := true, netStatus := ascii "Scanning", netPeers := [] })
  else if (ascii "state net peer ").isPrefixOf line then
    match peerText line with
    | some text =>
      let netPeers := if text ∈ ui.netPeers then ui.netPeers else ui.netPeers ++ [text]
      .ok (true, { ui with netPeers, netStatus := ascii "Peer found" })
    | none => .ok (true, ui)
  else if (ascii "state net done ").isPrefixOf line then
    .ok (true, { ui with
      netScanning := false
      netStatus := if ui.netPeers = [] then ascii "No peers" else ascii "Ready" })
  else if (ascii "state net p2p ").isPrefixOf line then do
    return (true, { ui with netStatus := ← substr line 14 })
  else .ok (false, ui)

/-- The headless worker keeps the settings and the theme in files only. -/
structure HeadlessUi where
  controls : RuntimeControlState := {}
  files : ThemeFiles := {}
  mavlink : Snapshot := {}

/-- The chain of tests in `run_headless_ui` for one line. -/
def headlessLine (platform : Platform) (readers : Readers) (line : List UInt8) (ui : HeadlessUi) :
    Except CppException HeadlessUi :=
  match stateSetting line with
  | some (setting, value) => .ok { ui with controls := ui.controls.assign value setting }
  | none =>
    if stateThemeCommand.isPrefixOf line then
      match keyAndValue (line.drop stateThemeCommand.length) with
      | none => .ok ui
      | some (key, value) =>
        if value.length = 6 then do
          let rgb ← stoulHex platform value
          return { ui with files := setThemeColor ui.files key (UInt32.ofNat rgb) }
        else .ok ui
    else .ok { ui with mavlink := (applyIpcLine readers line ui.mavlink).2 }

/-- The overlay; `theme` holds the colors of the known keys as they were last loaded. -/
structure FlowState where
  controls : RuntimeControlState := {}
  files : ThemeFiles := {}
  theme : List UInt32 := themeKeys.map defaultThemeColor
  mavlink : Snapshot := {}
  udpVideo : Bool := false
  activeVideoStream : Nat := 0

def toggleVideoStream (flow : FlowState) : FlowState :=
  if flow.udpVideo then
    { flow with activeVideoStream := if flow.activeVideoStream = 0 then 1 else 0 }
  else flow

def loadTheme (platform : Platform) (files : ThemeFiles) : Except CppException (List UInt32) :=
  themeKeys.mapM (themeColor platform files)

def applyThemeLine (platform : Platform) (line : List UInt8) (files : ThemeFiles) :
    Except CppException (Bool × ThemeFiles) :=
  if !stateThemeCommand.isPrefixOf line then .ok (false, files)
  else
    match keyAndValue (line.drop stateThemeCommand.length) with
    | none => .ok (true, files)
    | some (key, value) =>
      if value.length = 6 then do
        let rgb ← stoulHex platform value
        return (true, setThemeColor files key (UInt32.ofNat rgb))
      else .ok (true, files)

/-- The chain of tests in the overlay's loop for one line; a map line matches no later test. -/
def flowLine (platform : Platform) (readers : Readers) (line : List UInt8) (flow : FlowState) :
    Except CppException FlowState :=
  if line = ascii "ui key space" then .ok (toggleVideoStream flow)
  else do
    let numbers ← mapNumbers line
    if numbers.isSome then return flow
    match stateSetting line with
    | some (.fps, _) => return flow
    | some (setting, value) => return { flow with controls := flow.controls.assign value setting }
    | none =>
      let (handled, files) ← applyThemeLine platform line flow.files
      if handled then return { flow with files, theme := ← loadTheme platform files }
      return { flow with
        mavlink := (lines line).foldl (fun mavlink line => (applyIpcLine readers line mavlink).2)
          flow.mavlink }

/-! ### What is sent -/

/-- A setting that is changed is sent, and no greeting is. -/
structure SendStep (before after : UiState) : Prop where
  connected : after.connected = before.connected
  sends : ∃ lines, after.sent = before.sent ++ lines ∧
    (∀ line ∈ lines, (ascii "hello ").isPrefixOf line = false) ∧
    (before.connected = true → ∀ setting,
      after.controls.value setting = before.controls.value setting ∨
        ∃ value ∈ setting.values, setLine setting value ∈ lines)

theorem SendStep.quiet (connected : after.connected = before.connected)
    (sent : after.sent = before.sent) (controls : after.controls = before.controls) :
    SendStep before after where
  connected := connected
  sends := ⟨[], by simp [sent], fun line member => absurd member List.not_mem_nil,
    fun _ setting => .inl (by rw [controls])⟩

theorem SendStep.refl (ui : UiState) : SendStep ui ui := .quiet rfl rfl rfl

theorem SendStep.trans (first : SendStep before middle) (second : SendStep middle after) :
    SendStep before after where
  connected := second.connected.trans first.connected
  sends := by
    obtain ⟨early, early_sent, early_plain, early_changed⟩ := first.sends
    obtain ⟨late, late_sent, late_plain, late_changed⟩ := second.sends
    refine ⟨early ++ late, by rw [late_sent, early_sent, List.append_assoc], ?_, ?_⟩
    · intro line member
      rcases List.mem_append.mp member with member | member
      · exact early_plain line member
      · exact late_plain line member
    · intro connected setting
      rcases late_changed (first.connected.trans connected) setting with same | ⟨value, allowed, sent⟩
      · rcases early_changed connected setting with kept | ⟨value, allowed, sent⟩
        · exact .inl (same.trans kept)
        · exact .inr ⟨value, allowed, List.mem_append_left _ sent⟩
      · exact .inr ⟨value, allowed, List.mem_append_right _ sent⟩

theorem sendLine_step (plain : (ascii "hello ").isPrefixOf line = false) (ui : UiState) :
    SendStep ui (sendLine line ui) := by
  unfold sendLine
  split
  · refine ⟨rfl, [line], rfl, ?_, fun _ setting => .inl rfl⟩
    intro other member
    rw [List.mem_singleton.mp member]
    exact plain
  · exact .refl ui

/-- A setting that is assigned another one's value keeps its own. -/
theorem value_assign_other (state : RuntimeControlState) (value : List UInt8)
    (other : setting ≠ changed) :
    (state.assign value changed).value setting = state.value setting := by
  cases setting <;> cases changed <;> first | rfl | exact absurd rfl other

theorem value_assign (state : RuntimeControlState) (allowed : value ∈ Setting.values setting) :
    (state.assign value setting).value setting = value := by
  cases setting
  case osd => rfl
  all_goals
    rcases List.mem_cons.mp allowed with rfl | one
    · rfl
    · rw [List.mem_singleton.mp one]
      rfl

theorem setLine_no_hello (setting : Setting) (value : List UInt8) :
    (ascii "hello ").isPrefixOf (setLine setting value) = false := by
  cases setting <;> rfl

theorem changeSetting_step (ui : UiState) (allowed : value ∈ Setting.values setting) :
    SendStep ui (changeSetting setting value ui) := by
  unfold changeSetting sendSetting sendLine
  dsimp only
  rw [value_assign ui.controls allowed]
  split
  · refine ⟨rfl, [setLine setting value], rfl, ?_, ?_⟩
    · intro line member
      rw [List.mem_singleton.mp member]
      exact setLine_no_hello setting value
    · intro _ other
      by_cases same : other = setting
      · subst same
        exact .inr ⟨value, allowed, List.mem_singleton_self _⟩
      · exact .inl (value_assign_other ui.controls value same)
  · rename_i offline
    exact ⟨rfl, [], by simp, fun line member => absurd member List.not_mem_nil,
      fun online => absurd online offline⟩

theorem flag_allowed (enabled : Bool) : flag enabled ∈ Setting.values .fps := by
  cases enabled <;> decide

theorem nextValue_allowed (controls : RuntimeControlState) (setting : Setting) :
    nextValue controls setting ∈ setting.values := by
  cases setting
  case osd =>
    dsimp only [nextValue]
    split
    · decide
    · split
      · decide
      · split <;> decide
  all_goals exact flag_allowed _

theorem stateSetting_some (found : stateSetting line = some (setting, value)) :
    value ∈ setting.values ∧ line = stateLine setting value := by
  obtain ⟨other, _, found⟩ := List.exists_of_findSome?_eq_some found
  obtain ⟨allowed, found, same⟩ := Option.map_eq_some_iff.mp found
  cases same
  have same := List.find?_some found
  exact ⟨List.mem_of_find?_eq_some found, of_decide_eq_true same⟩

theorem stateSetting_stateLine (allowed : value ∈ Setting.values setting) :
    stateSetting (stateLine setting value) = some (setting, value) := by
  revert value
  cases setting <;> decide

end Glide.ControlClients
