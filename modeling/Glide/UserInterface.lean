import Mathlib.Data.List.Infix
import Glide.ControlClients

/-! The user interface with its menu: the rows of each panel, what keys and clicks do, which
lines change the state, what is kept in files and how a start reads it back. What is drawn
is left out, and so are the position and the zoom of the map; of building and drawing the map,
what may throw is there. -/
namespace Glide.UserInterface
open Library AsciiText NumberText StringConversions PreviewControl MavlinkState RuntimeControls
open ControlClients (OverlayMode SidebarPanel nextValue nextValueInCycle nextRotationValue
  neighbour osdRow zoomKeys stateSetting stateThemeCommand applyThemeStateLine
  applyNetworkStateLine SendStep)

/-- The settings that are kept in the device's own configuration file. -/
structure VideoMode where
  glideWidth : Nat := 1920
  glideHeight : Nat := 1080
  displayHz : Nat := 120
  flowFps : Nat := 60
  flowScalePercent : Nat := 50
  deriving DecidableEq, Repr

/-- What the program finds around it: two variables, what looking up files of the map throws,
if anything, and which of its own files can be written. -/
structure Environment where
  /-- `GLIDE_MINIMAP_ZOOM` and `GLIDE_MINIMAP_GRID` -/
  minimapZoom : Option (List UInt8) := none
  minimapGrid : Option (List UInt8) := none
  /-- The packages that are looked for when the map is built. -/
  packageLookups : Option CppException := none
  /-- The tiles that are looked for when a key draws the map anew. -/
  tileLookups : Option CppException := none
  controlWritable : Setting → Bool := fun _ => true
  mapWritable : Bool := true
  telemetryWritable : Bool := true
  deviceWritable : Bool := true

/-- The state, and the files it is kept in. Times are in milliseconds. -/
structure UiState extends ControlClients.UiState where
  environment : Environment := {}
  overlayMode : OverlayMode := .hidden
  activePanel : SidebarPanel := .dashboard
  focusPanel : Bool := false
  selectedRow : Int := 0
  rowCount : Int := 0
  coordinatesBeforeMap : Bool := true
  mapCoordinatesSuppressed : Bool := false
  mapExpanded : Bool := false
  mapPosition : List UInt8 := ascii "right"
  mapRestoreOpen : Bool := false
  telemetryHost : List UInt8 := ascii "192.168.1.42"
  telemetryAutoConnect : Bool := false
  nextTelemetryReconnect : Nat := 0
  advancedVisible : Bool := false
  panelRebuildPending : Bool := false
  nextPanelRebuild : Nat := 0
  videoMode : VideoMode := {}
  /-- The screen is too narrow for a panel beside the menu. -/
  compact : Bool := false
  /-- What the control files tell. -/
  controlFiles : RuntimeControlState := {}
  mapFile : List (List UInt8) := []
  /-- Whether the last attempt to write that file failed; the program does not keep this. -/
  mapUnsaved : Bool := false
  telemetryFile : List (List UInt8) := []
  /-- What the configuration file tells, if it has all the settings. -/
  savedVideoMode : Option VideoMode := none
  /-- How often the service was restarted. -/
  restarts : Nat := 0

def sendLine (line : List UInt8) (ui : UiState) : UiState :=
  { ui with toUiState := ControlClients.sendLine line ui.toUiState }

/-- The control files after a setting was written to its own, where that can be opened. -/
def keepSetting (setting : Setting) (value : List UInt8) (ui : UiState) : RuntimeControlState :=
  if ui.environment.controlWritable setting then ui.controlFiles.assign value setting
  else ui.controlFiles

/-- A change of a setting is kept in its file and sent. -/
def changeSetting (setting : Setting) (value : List UInt8) (ui : UiState) : UiState :=
  { ui with
    toUiState := ControlClients.changeSetting setting value ui.toUiState
    controlFiles := keepSetting setting value ui }

/-! ### The files of the user interface -/

/-- The blanks that `trim` takes off both ends. -/
def isBlank (byte : UInt8) : Bool := byte = 32 || byte = 9 || byte = 13 || byte = 10

def trim (value : List UInt8) : List UInt8 :=
  ((value.dropWhile isBlank).reverse.dropWhile isBlank).reverse

def mapPositionValues : List (List UInt8) :=
  [ascii "top_left", ascii "top", ascii "top_right", ascii "left", ascii "right",
    ascii "bottom_left", ascii "bottom", ascii "bottom_right"]

def mapPositionIndex (value : List UInt8) : Nat :=
  if value ∈ mapPositionValues then mapPositionValues.idxOf value else 4

def loadMapLine (ui : UiState) (line : List UInt8) : UiState :=
  if (ascii "POSITION=").isPrefixOf line then
    let value := trim (line.drop 9)
    if value ∈ mapPositionValues then { ui with mapPosition := value } else ui
  else if line = ascii "MAP_OPEN=1" ∨ line = ascii "MAP_OPEN=0" then
    { ui with mapRestoreOpen := line = ascii "MAP_OPEN=1" }
  else ui

def loadMapSettings (ui : UiState) : UiState := ui.mapFile.foldl loadMapLine ui

/-- Nothing is said where the file cannot be written. -/
def persistMapSettings (ui : UiState) : UiState :=
  if ui.environment.mapWritable then
    { ui with
      mapFile := [ascii "POSITION=" ++ ui.mapPosition, ascii "MAP_OPEN=" ++ flag ui.mapRestoreOpen]
      mapUnsaved := false }
  else { ui with mapUnsaved := true }

def loadTelemetryLine (ui : UiState) (line : List UInt8) : UiState :=
  if (ascii "TCP_IP=").isPrefixOf line then
    let value := trim (line.drop 7)
    if value ≠ [] ∧ value.all (!isBlank ·) then { ui with telemetryHost := value } else ui
  else ui

def loadTelemetrySettings (ui : UiState) : UiState := ui.telemetryFile.foldl loadTelemetryLine ui

def persistTelemetryHost (ui : UiState) : UiState :=
  if ui.environment.telemetryWritable then
    { ui with telemetryFile := [ascii "TCP_IP=" ++ ui.telemetryHost] }
  else ui

/-- The file is written, and the service restarted, if a setting in it is another and the file
can be replaced. -/
def persistDeviceSettingsAndRestart (ui : UiState) : UiState :=
  if ui.savedVideoMode = some ui.videoMode then ui
  else if ui.environment.deviceWritable then
    { ui with savedVideoMode := some ui.videoMode, restarts := ui.restarts + 1 }
  else ui

/-! ### The rows of the panels -/

inductive Button where
  | resetArtosyn
  | pairArtosyn
  | findAirUnit
  | scanEthernet
  | p2pGround
  | p2pAir
  | cycleChannelWidth
  | cycleMcs
  | cycleTxPower
  | pitOn
  | pitOff
  | cycleResolution
  | cycleRotation
  | intraOff
  | intraCyclic
  | recordingOff
  | recordingOn
  | recordOnArming
  | connectTcp
  | disconnectTelemetry
  | advanced
  deriving DecidableEq, Repr

/-- The dropdowns, switches and sliders. -/
inductive SettingRow where
  | resolution
  | displayHz
  | flowFps
  | flowScale
  | control (setting : Setting)
  | mapPosition
  | theme (index : Fin 4)
  deriving DecidableEq, Repr

inductive Row where
  | readOut
  | button (button : Button)
  | setting (setting : SettingRow)
  deriving DecidableEq, Repr

def artosynLink (snapshot : Snapshot) : Bool :=
  ascii "ARTOSYN" <:+: snapshot.airChipset ∨ ascii "ARTOSYN" <:+: snapshot.groundChipset

def buildDashboardPanel (ui : UiState) : List Row :=
  List.replicate 4 .readOut ++
    if artosynLink ui.mavlink then [.button .resetArtosyn, .button .pairArtosyn]
    else [.button .findAirUnit]

def buildOsdPanel : List Row :=
  [.setting (.control .osd), .setting (.control .topbar), .setting (.control .fps),
    .setting (.control .coords), .setting .mapPosition, .setting (.control .compact)]

def buildColorsPanel : List Row :=
  [.setting (.theme 0), .setting (.theme 1), .setting (.theme 2), .setting (.theme 3)]

def buildSystemPanel : List Row := List.replicate 4 .readOut

/-- The discovery row is followed by one row for each peer, or by one that says there is none. -/
def buildLinkPanel (ui : UiState) : List Row :=
  List.replicate 9 .readOut ++ List.replicate (max 1 ui.netPeers.length) .readOut ++
    [.button .scanEthernet, .button .p2pGround, .button .p2pAir] ++
    if artosynLink ui.mavlink then [.button .resetArtosyn, .button .pairArtosyn]
    else [.button .cycleChannelWidth, .button .cycleMcs, .button .cycleTxPower, .button .pitOn,
      .button .pitOff]

def buildVideoPanel : List Row :=
  [.setting .resolution, .setting .displayHz, .setting .flowFps, .setting .flowScale] ++
    List.replicate 4 .readOut

/-- The buttons that steer a gimbal are no rows. -/
def buildCameraPanel : List Row :=
  List.replicate 3 .readOut ++
    [.button .cycleResolution, .button .cycleRotation, .button .intraOff, .button .intraCyclic]

def buildRecordingPanel : List Row :=
  List.replicate 2 .readOut ++
    [.button .recordingOff, .button .recordingOn, .button .recordOnArming]

def buildRcPanel (ui : UiState) : List Row :=
  let shown (valid : Bool) : List Row := if valid then [.readOut] else []
  List.replicate 3 .readOut ++ shown ui.mavlink.attitudeValid ++ shown ui.mavlink.altitudeValid ++
    shown ui.mavlink.speedValid ++ shown ui.mavlink.batteryValid ++
    shown ui.mavlink.positionValid ++ List.replicate 5 .readOut

def buildStatusPanel (ui : UiState) : List Row :=
  [.readOut, .button .connectTcp, .button .disconnectTelemetry] ++ List.replicate 6 .readOut ++
    [.button .advanced] ++
    if ui.advancedVisible then ui.mavlink.messages.map fun _ => .readOut else []

/-- The rows of the active panel. -/
def panelRows (ui : UiState) : List Row :=
  match ui.activePanel with
  | .dashboard => buildDashboardPanel ui
  | .link => buildLinkPanel ui
  | .video => buildVideoPanel
  | .camera => buildCameraPanel
  | .osd => buildOsdPanel
  | .telemetry => buildRcPanel ui
  | .recording => buildRecordingPanel
  | .system => buildSystemPanel
  | .developer => buildStatusPanel ui
  | .colors => buildColorsPanel

/-- `build_overlay` and `clear_panel`, as far as they concern the rows. -/
def buildOverlay (ui : UiState) : UiState :=
  if ui.overlayMode = .menu ∧ ui.compact = false then
    { ui with rowCount := (panelRows ui).length, selectedRow := max 0 ui.selectedRow }
  else { ui with rowCount := 0 }

/-- Where the map is not shown. -/
def rebuildUi (ui : UiState) : UiState := { buildOverlay ui with panelRebuildPending := false }

/-- A number in the environment is converted without a handler around it. -/
def readNumber : Option (List UInt8) → Except CppException Unit
  | some text => do
    let _ ← stoi text
    return ()
  | none => .ok ()

def lookUp : Option CppException → Except CppException Unit
  | some exception => .error exception
  | none => .ok ()

/-- `build_minimap_card`, as far as it may throw. -/
def buildMinimapCard (environment : Environment) : Except CppException Unit := do
  readNumber environment.minimapZoom
  readNumber environment.minimapGrid
  lookUp environment.packageLookups

/-- `rebuild_ui` where the map is shown. -/
def rebuildMap (ui : UiState) : Except CppException UiState := do
  buildMinimapCard ui.environment
  return rebuildUi ui

/-- Where a panel is shown only its own rows are built anew, which comes to the same. -/
def setActivePanel (panel : SidebarPanel) (ui : UiState) : UiState :=
  rebuildUi { ui with activePanel := panel, selectedRow := 0, focusPanel := false }

/-! ### The overlays -/

def suppressSeparateCoordinatesForMap (ui : UiState) : UiState :=
  if ui.mapCoordinatesSuppressed then ui
  else
    let ui := persistMapSettings { ui with
      coordinatesBeforeMap := ui.controls.coordinatesEnabled
      mapCoordinatesSuppressed := true
      mapRestoreOpen := true }
    if ui.controls.coordinatesEnabled then changeSetting .coords (ascii "0") ui else ui

def restoreSeparateCoordinatesAfterMap (ui : UiState) : UiState :=
  if ui.mapCoordinatesSuppressed then
    let ui := persistMapSettings { ui with
      mapCoordinatesSuppressed := false, mapRestoreOpen := false, mapExpanded := false }
    if ui.controls.coordinatesEnabled ≠ ui.coordinatesBeforeMap then
      changeSetting .coords (flag ui.coordinatesBeforeMap) ui
    else ui
  else ui

def leaveMap (ui : UiState) : UiState :=
  if ui.overlayMode = .minimap then restoreSeparateCoordinatesAfterMap ui else ui

def showMenu (ui : UiState) : UiState :=
  if ui.overlayMode = .menu then ui
  else rebuildUi { leaveMap ui with overlayMode := .menu, focusPanel := false }

def hideOverlay (ui : UiState) : UiState :=
  if ui.overlayMode = .hidden then ui
  else rebuildUi { leaveMap ui with overlayMode := .hidden, focusPanel := false }

def cycleOverlayFromMenuKey (ui : UiState) : UiState :=
  if ui.overlayMode = .menu then hideOverlay ui else showMenu ui

def cycleOverlayFromMapKey (ui : UiState) : Except CppException UiState :=
  if ui.overlayMode = .minimap then
    .ok (rebuildUi { restoreSeparateCoordinatesAfterMap ui with
      overlayMode := .hidden, focusPanel := false })
  else
    rebuildMap { suppressSeparateCoordinatesForMap ui with
      overlayMode := .minimap, focusPanel := false }

/-! ### What buttons do -/

def sendOpenhdParam (target param value : List UInt8) (ui : UiState) : UiState :=
  sendLine (ascii "mav set " ++ target ++ [32] ++ param ++ [32] ++ value) ui

def sendArtosynAction (param : List UInt8) (ui : UiState) : UiState :=
  sendOpenhdParam (ascii "air") param (ascii "1") ui

def findAirUnit (ui : UiState) : UiState :=
  sendLine (ascii "mav command scan bands=openhd width=" ++
    signedDecimal ui.mavlink.channelWidthMhz) ui

def nextChannelWidthValue (current : Int) : Int := if 40 ≤ current then 20 else 40

def nextMcsValue (current : Int) : Int := if 4 ≤ current then 0 else max 0 (current + 1)

def txPowerPresetsMw : List Int := [25, 200, 1200, 2000]

def nextTxPowerValue (current : Int) : Int := nextValueInCycle current 25 txPowerPresetsMw

def cycleChannelWidth (ui : UiState) : UiState :=
  sendOpenhdParam (ascii "air") (ascii "WB_CHANNEL_W")
    (signedDecimal (nextChannelWidthValue ui.mavlink.channelWidthMhz)) ui

def cycleMcs (ui : UiState) : UiState :=
  sendOpenhdParam (ascii "air") (ascii "WB_MCS_INDEX")
    (signedDecimal (nextMcsValue ui.mavlink.mcsIndex)) ui

def cycleTxPower (ui : UiState) : UiState :=
  sendOpenhdParam (ascii "air") (ascii "TX_POWER_MW")
    (signedDecimal (nextTxPowerValue ui.mavlink.txPowerMw)) ui

def setPitMode (value : List UInt8) (ui : UiState) : UiState :=
  sendOpenhdParam (ascii "air") (ascii "WB_PIT_MODE") value ui

def openhdResolutionFpsPresets : List (List UInt8) :=
  [ascii "1920x1080@120", ascii "1920x1080@60", ascii "1280x720@120", ascii "1280x720@60",
    ascii "0x0@0"]

/-- The preset after the first one that the current text mentions. -/
def nextResolutionFpsValue (current : List UInt8) : List UInt8 :=
  match openhdResolutionFpsPresets.findIdx? (· <:+: current) with
  | some index =>
    openhdResolutionFpsPresets.getD ((index + 1) % openhdResolutionFpsPresets.length) []
  | none => ascii "1920x1080@120"

def setCameraParam (param value : List UInt8) (ui : UiState) : UiState :=
  sendOpenhdParam (ascii "camera1") param value ui

def cycleResolution (ui : UiState) : UiState :=
  setCameraParam (ascii "RESOLUTION_FPS") (nextResolutionFpsValue ui.mavlink.resolutionFps) ui

def cycleRotation (ui : UiState) : UiState :=
  setCameraParam (ascii "ROTATION_DEG") (signedDecimal (nextRotationValue ui.mavlink.rotation)) ui

def scanEthernet (ui : UiState) : UiState :=
  setActivePanel .link (sendLine (ascii "net scan")
    { ui with netScanning := true, netStatus := ascii "Scanning", netPeers := [] })

/-- The address is the text of the input field. -/
def connectTcp (input : List UInt8) (now : Nat) (ui : UiState) : UiState :=
  let ui := { ui with telemetryHost := trim input }
  if ui.telemetryHost = [] then ui
  else
    let ui := persistTelemetryHost ui
    sendLine (ascii "net telemetry connect tcp " ++ ui.telemetryHost) { ui with
      telemetryAutoConnect := true
      nextTelemetryReconnect := now + 3000
      telemetryStatus := ascii "Connecting..." }

/-- A click at some time, while the input field has some text. -/
def click (input : List UInt8) (now : Nat) (ui : UiState) : Button → UiState
  | .resetArtosyn => sendArtosynAction (ascii "AR_RESET_CMD") ui
  | .pairArtosyn => sendArtosynAction (ascii "AR_PAIR_CMD") ui
  | .findAirUnit => findAirUnit ui
  | .scanEthernet => scanEthernet ui
  | .p2pGround => sendLine (ascii "net p2p ground eth0") ui
  | .p2pAir => sendLine (ascii "net p2p air eth0") ui
  | .cycleChannelWidth => cycleChannelWidth ui
  | .cycleMcs => cycleMcs ui
  | .cycleTxPower => cycleTxPower ui
  | .pitOn => setPitMode (ascii "1") ui
  | .pitOff => setPitMode (ascii "0") ui
  | .cycleResolution => cycleResolution ui
  | .cycleRotation => cycleRotation ui
  | .intraOff => setCameraParam (ascii "INTRA_REFRESH") (ascii "0") ui
  | .intraCyclic => setCameraParam (ascii "INTRA_REFRESH") (ascii "1") ui
  | .recordingOff => setCameraParam (ascii "AIR_RECORDING_E") (ascii "0") ui
  | .recordingOn => setCameraParam (ascii "AIR_RECORDING_E") (ascii "1") ui
  | .recordOnArming => setCameraParam (ascii "AIR_RECORDING_E") (ascii "2") ui
  | .connectTcp => connectTcp input now ui
  | .disconnectTelemetry =>
    sendLine (ascii "net telemetry disconnect") { ui with telemetryAutoConnect := false }
  | .advanced => setActivePanel .developer { ui with advancedVisible := !ui.advancedVisible }

/-! ### What enter does to a setting -/

def resolutionPresets : List (Nat × Nat) := [(1920, 1080), (1600, 900), (1280, 720), (960, 540)]

def resolutionIndex (mode : VideoMode) : Nat :=
  (resolutionPresets.findIdx? (· = (mode.glideWidth, mode.glideHeight))).getD 0

def setResolutionPreset (index : Nat) (ui : UiState) : UiState :=
  let (width, height) := resolutionPresets.getD (min index 3) (960, 540)
  persistDeviceSettingsAndRestart
    { ui with videoMode := { ui.videoMode with glideWidth := width, glideHeight := height } }

def nextDisplayHz (current : Nat) : Nat :=
  if 120 ≤ current then 60 else if 100 ≤ current then 120 else 100

def nextFlowFps (current : Nat) : Nat := if 60 ≤ current then 30 else 60

def nextFlowScale (current : Nat) : Nat := if 100 ≤ current then 25 else current + 25

def nextMapPosition (ui : UiState) : UiState :=
  let next := (mapPositionIndex ui.mapPosition + 1) % mapPositionValues.length
  persistMapSettings { ui with mapPosition := mapPositionValues.getD next [] }

def colorPresets : List UInt32 :=
  [0x000000, 0xffd447, 0xfff4d6, 0xebf5ff, 0x70f4ff, 0x55a8ff, 0x2456ff, 0x02070a, 0x0e1318]

def themeKey (index : Fin 4) : List UInt8 := themeKeys.getD index []

def presetRgbForIndex (key : List UInt8) (preset : Nat) : UInt32 :=
  if preset = 0 then defaultThemeColor key else colorPresets.getD (min preset 8) 0

def presetIndexForRgb (key : List UInt8) (rgb : UInt32) : Nat :=
  let normalized := rgb &&& 0xffffff
  if normalized = defaultThemeColor key then 0
  else
    match (colorPresets.drop 1).findIdx? (· = normalized) with
    | some index => index + 1
    | none => 0

def changeThemeColor (key : List UInt8) (rgb : UInt32) (ui : UiState) : UiState :=
  sendLine (ascii "set theme " ++ key ++ [32] ++ rgbHex rgb) { ui with
    theme := Function.update ui.theme key rgb, files := setThemeColor ui.files key rgb }

def nextThemeColor (index : Fin 4) (ui : UiState) : UiState :=
  let key := themeKey index
  let next := (presetIndexForRgb key (ui.theme key) + 1) % colorPresets.length
  changeThemeColor key (presetRgbForIndex key next) ui

/-- Enter on a row of the panel in focus. The rows are told apart by their numbers. -/
def enterRow (ui : UiState) : UiState :=
  match ui.activePanel with
  | .dashboard =>
    if ui.selectedRow = 4 then
      if artosynLink ui.mavlink then sendArtosynAction (ascii "AR_RESET_CMD") ui
      else findAirUnit ui
    else if ui.selectedRow = 5 ∧ artosynLink ui.mavlink then
      sendArtosynAction (ascii "AR_PAIR_CMD") ui
    else ui
  | .link =>
    if ui.selectedRow = 4 then cycleChannelWidth ui
    else if ui.selectedRow = 5 then cycleMcs ui
    else if ui.selectedRow = 6 then cycleTxPower ui
    else if ui.selectedRow = 7 then setPitMode (ascii "1") ui
    else if ui.selectedRow = 8 then setPitMode (ascii "0") ui
    else ui
  | .video =>
    if ui.selectedRow = 0 then
      setResolutionPreset ((resolutionIndex ui.videoMode + 1) % resolutionPresets.length) ui
    else if ui.selectedRow = 1 then
      persistDeviceSettingsAndRestart { ui with
        videoMode := { ui.videoMode with displayHz := nextDisplayHz ui.videoMode.displayHz } }
    else if ui.selectedRow = 2 then
      persistDeviceSettingsAndRestart { ui with
        videoMode := { ui.videoMode with flowFps := nextFlowFps ui.videoMode.flowFps } }
    else if ui.selectedRow = 3 then
      persistDeviceSettingsAndRestart { ui with
        videoMode := { ui.videoMode with
          flowScalePercent := nextFlowScale ui.videoMode.flowScalePercent } }
    else ui
  | .osd =>
    if ui.selectedRow = 4 then nextMapPosition ui
    else
      match osdRow ui.selectedRow with
      | some setting => changeSetting setting (nextValue ui.controls setting) ui
      | none => ui
  | .colors =>
    if ui.selectedRow = 0 then nextThemeColor 0 ui
    else if ui.selectedRow = 1 then nextThemeColor 1 ui
    else ui
  | .camera =>
    if ui.selectedRow = 3 then cycleResolution ui
    else if ui.selectedRow = 4 then cycleRotation ui
    else if ui.selectedRow = 5 then setCameraParam (ascii "INTRA_REFRESH") (ascii "0") ui
    else if ui.selectedRow = 6 then setCameraParam (ascii "INTRA_REFRESH") (ascii "1") ui
    else ui
  | .recording =>
    if ui.selectedRow = 2 then setCameraParam (ascii "AIR_RECORDING_E") (ascii "0") ui
    else if ui.selectedRow = 3 then setCameraParam (ascii "AIR_RECORDING_E") (ascii "1") ui
    else if ui.selectedRow = 4 then setCameraParam (ascii "AIR_RECORDING_E") (ascii "2") ui
    else ui
  | .developer =>
    if ui.selectedRow = 5 then rebuildUi { ui with advancedVisible := !ui.advancedVisible } else ui
  | .telemetry => ui
  | .system => ui

/-! ### Keys -/

/-- A key while the menu is shown. -/
def menuKey (key : List UInt8) (ui : UiState) : UiState :=
  if key = ascii "up" then
    if ui.focusPanel then rebuildUi { ui with selectedRow := max 0 (ui.selectedRow - 1) }
    else setActivePanel (neighbour ui.activePanel (-1)) ui
  else if key = ascii "down" then
    if ui.focusPanel then
      rebuildUi { ui with selectedRow := min (max 0 (ui.rowCount - 1)) (ui.selectedRow + 1) }
    else setActivePanel (neighbour ui.activePanel 1) ui
  else if key = ascii "left" ∨ key = ascii "back" then
    if ui.focusPanel then rebuildUi { ui with focusPanel := false } else hideOverlay ui
  else if key = ascii "right" then rebuildUi { ui with focusPanel := true, selectedRow := 0 }
  else if key = ascii "enter" then
    if ui.focusPanel then enterRow ui
    else rebuildUi { ui with focusPanel := true, selectedRow := 0 }
  else ui

/-- The zoom of the map is left out, but not what drawing it anew may throw. -/
def uiKey (key : List UInt8) (ui : UiState) : Except CppException UiState :=
  if key = ascii "m" ∨ key = ascii "menu" then .ok (cycleOverlayFromMenuKey ui)
  else if key = ascii "n" ∨ key = ascii "map" then cycleOverlayFromMapKey ui
  else if key ∈ zoomKeys ∧ ui.overlayMode = .minimap then do
    lookUp ui.environment.tileLookups
    return ui
  else if key = ascii "enter" ∧ ui.overlayMode = .minimap then
    rebuildMap { ui with mapExpanded := !ui.mapExpanded }
  else if ui.overlayMode = .hidden ∧ key = ascii "enter" then .ok (showMenu ui)
  else if ui.overlayMode = .menu then .ok (menuKey key ui)
  else .ok ui

/-- Keys come as "ui key" lines, from the controller and from the keyboard alike. -/
def applyTerminalKey (line : List UInt8) (ui : UiState) : Except CppException UiState :=
  if line = ascii "ui show" ∨ line = ascii "ui menu" then .ok (showMenu ui)
  else if line = ascii "ui hide" ∨ line = ascii "ui close" then .ok (hideOverlay ui)
  else if line = ascii "ui toggle" then .ok (cycleOverlayFromMenuKey ui)
  else if (ascii "ui key ").isPrefixOf line then do
    uiKey (← substr line 7) ui
  else .ok ui

/-! ### Lines from the controller -/

def panelUsesMavlink : SidebarPanel → Bool
  | .dashboard | .link | .video | .camera | .telemetry | .recording | .system => true
  | .osd | .developer | .colors => false

def panelUsesNetwork : SidebarPanel → Bool
  | .link | .system | .developer => true
  | _ => false

def requestPanelRebuild (now : Nat) (ui : UiState) : UiState :=
  { ui with
    panelRebuildPending := true
    nextPanelRebuild := if ui.nextPanelRebuild ≤ now then now + 100 else ui.nextPanelRebuild }

/-- The shown panel is built anew later if it uses what has changed. -/
def requestIfShown (uses : SidebarPanel → Bool) (now : Nat) (ui : UiState) : UiState :=
  if ui.overlayMode = .menu ∧ uses ui.activePanel then requestPanelRebuild now ui else ui

/-- A setting that is told anew is left alone. -/
def updateSetting (setting : Setting) (value : List UInt8) (ui : UiState) : UiState :=
  if ui.controls.value setting = value then ui
  else { ui with
    controls := ui.controls.assign value setting
    controlFiles := keepSetting setting value ui }

/-- The chain of tests in `poll_ipc` for one line. -/
def pollIpcLine (platform : Platform) (readers : Readers) (now : Nat) (line : List UInt8)
    (ui : UiState) : Except CppException UiState :=
  match stateSetting line with
  | some (setting, value) => .ok (updateSetting setting value ui)
  | none => do
    let (handled, toUiState) ← applyThemeStateLine platform line ui.toUiState
    if handled then return { ui with toUiState }
    let (handled, toUiState) ← applyNetworkStateLine line ui.toUiState
    if handled then return requestIfShown panelUsesNetwork now { ui with toUiState }
    let (handled, mavlink) := applyIpcLine readers line ui.mavlink
    if handled then return requestIfShown panelUsesMavlink now { ui with mavlink }
    applyTerminalKey line ui

def rebuildPendingPanel (now : Nat) (ui : UiState) : UiState :=
  if ui.panelRebuildPending ∧ ui.nextPanelRebuild ≤ now then setActivePanel ui.activePanel ui
  else ui

def reconnectTelemetry (now : Nat) (ui : UiState) : UiState :=
  if ui.telemetryAutoConnect ∧ ui.connected ∧ !(ascii "TCP ").isPrefixOf ui.telemetryStatus ∧
      ui.nextTelemetryReconnect ≤ now then
    sendLine (ascii "net telemetry connect tcp " ++ ui.telemetryHost) { ui with
      nextTelemetryReconnect := now + 3000, telemetryStatus := ascii "Connecting..." }
  else ui

/-- What `poll_ipc` does behind the lines. -/
def finishPoll (now : Nat) (ui : UiState) : UiState :=
  reconnectTelemetry now (rebuildPendingPanel now ui)

/-- While there is no controller, what the control files tell is shown. -/
def pollControlFiles (ui : UiState) : UiState :=
  if ui.connected then ui else { ui with controls := ui.controlFiles, theme := shownColor ui.files }

/-! ### Start -/

/-- What a start reads from the files; of the state before it, they are what is left. -/
def load (before : UiState) : UiState :=
  loadMapSettings (loadTelemetrySettings {
    environment := before.environment
    controls := before.controlFiles
    theme := shownColor before.files
    files := before.files
    connected := before.connected
    videoMode := before.videoMode
    compact := before.compact
    controlFiles := before.controlFiles
    mapFile := before.mapFile
    telemetryFile := before.telemetryFile
    savedVideoMode := before.savedVideoMode })

/-- The map is built where it was open. -/
def start (before : UiState) : Except CppException UiState :=
  let ui := load before
  if ui.mapRestoreOpen then do
    let ui := suppressSeparateCoordinatesForMap { ui with overlayMode := .minimap }
    buildMinimapCard ui.environment
    return buildOverlay ui
  else .ok (buildOverlay ui)

/-! ### What a key throws, and what it does -/

/-- What `cycleOverlayFromMapKey` does where nothing is thrown. -/
def toggleMap (ui : UiState) : UiState :=
  if ui.overlayMode = .minimap then
    rebuildUi { restoreSeparateCoordinatesAfterMap ui with
      overlayMode := .hidden, focusPanel := false }
  else
    rebuildUi { suppressSeparateCoordinatesForMap ui with
      overlayMode := .minimap, focusPanel := false }

/-- What `uiKey` does where nothing is thrown. -/
def pressKey (key : List UInt8) (ui : UiState) : UiState :=
  if key = ascii "m" ∨ key = ascii "menu" then cycleOverlayFromMenuKey ui
  else if key = ascii "n" ∨ key = ascii "map" then toggleMap ui
  else if key ∈ zoomKeys ∧ ui.overlayMode = .minimap then ui
  else if key = ascii "enter" ∧ ui.overlayMode = .minimap then
    rebuildUi { ui with mapExpanded := !ui.mapExpanded }
  else if ui.overlayMode = .hidden ∧ key = ascii "enter" then showMenu ui
  else if ui.overlayMode = .menu then menuKey key ui
  else ui

/-- What `applyTerminalKey` does where nothing is thrown. -/
def pressLine (line : List UInt8) (ui : UiState) : UiState :=
  if line = ascii "ui show" ∨ line = ascii "ui menu" then showMenu ui
  else if line = ascii "ui hide" ∨ line = ascii "ui close" then hideOverlay ui
  else if line = ascii "ui toggle" then cycleOverlayFromMenuKey ui
  else if (ascii "ui key ").isPrefixOf line then pressKey (line.drop 7) ui
  else ui

/-- A key throws only where it builds the map or draws it anew. -/
def keyThrows (key : List UInt8) (overlayMode : OverlayMode) (environment : Environment) :
    Except CppException Unit :=
  if (key = ascii "n" ∨ key = ascii "map") ∧ overlayMode ≠ .minimap ∨
      key = ascii "enter" ∧ overlayMode = .minimap then
    buildMinimapCard environment
  else if key ∈ zoomKeys ∧ overlayMode = .minimap then lookUp environment.tileLookups
  else .ok ()

def lineThrows (line : List UInt8) (overlayMode : OverlayMode) (environment : Environment) :
    Except CppException Unit :=
  if (ascii "ui key ").isPrefixOf line then keyThrows (line.drop 7) overlayMode environment
  else .ok ()

theorem suppress_environment (ui : UiState) :
    (suppressSeparateCoordinatesForMap ui).environment = ui.environment := by
  unfold suppressSeparateCoordinatesForMap persistMapSettings
  split
  · rfl
  · dsimp only
    split <;> split <;> rfl

theorem rebuildMap_eq (ui : UiState) :
    rebuildMap ui = (buildMinimapCard ui.environment).map fun _ => rebuildUi ui := rfl

theorem uiKey_eq (key : List UInt8) (ui : UiState) :
    uiKey key ui =
      (keyThrows key ui.overlayMode ui.environment).map fun _ => pressKey key ui := by
  unfold uiKey keyThrows pressKey
  by_cases menu : key = ascii "m" ∨ key = ascii "menu"
  · rw [if_pos menu, if_pos menu, if_neg, if_neg]
    · rfl
    · rcases menu with rfl | rfl <;> simp [zoomKeys, ascii]
    · rcases menu with rfl | rfl <;> simp [ascii]
  · rw [if_neg menu, if_neg menu]
    by_cases map : key = ascii "n" ∨ key = ascii "map"
    · rw [if_pos map, if_pos map]
      have plain : key ≠ ascii "enter" ∧ key ∉ zoomKeys := by
        rcases map with rfl | rfl <;> simp [zoomKeys, ascii]
      unfold cycleOverlayFromMapKey toggleMap
      by_cases shown : ui.overlayMode = .minimap
      · simp only [shown, map, plain.1, plain.2, ne_eq, not_true_eq_false, and_false, false_and,
          or_self, if_true, if_false]
        rfl
      · simp only [shown, map, ne_eq, not_false_eq_true, and_self, true_or, if_true, if_false]
        rw [rebuildMap_eq]
        dsimp only
        rw [suppress_environment]
    · rw [if_neg map, if_neg map]
      by_cases zoom : key ∈ zoomKeys ∧ ui.overlayMode = .minimap
      · have other : key ≠ ascii "enter" := by
          rintro rfl
          exact absurd zoom.1 (by decide)
        rw [if_pos zoom, if_pos zoom, if_neg (by simp [map, other]), if_pos zoom]
        rfl
      · rw [if_neg zoom, if_neg zoom, if_neg zoom]
        by_cases expand : key = ascii "enter" ∧ ui.overlayMode = .minimap
        · rw [if_pos expand, if_pos expand, if_pos (.inr expand)]
          rfl
        · have silent : ¬((key = ascii "n" ∨ key = ascii "map") ∧ ui.overlayMode ≠ .minimap ∨
              key = ascii "enter" ∧ ui.overlayMode = .minimap) :=
            fun shown => shown.elim (fun named => map named.1) expand
          rw [if_neg expand, if_neg expand, if_neg silent]
          split
          · rfl
          · split <;> rfl

/-- The prefix that selects a key is as long as what is cut off. -/
theorem applyTerminalKey_eq (line : List UInt8) (ui : UiState) :
    applyTerminalKey line ui =
      (lineThrows line ui.overlayMode ui.environment).map fun _ => pressLine line ui := by
  unfold applyTerminalKey lineThrows pressLine
  have plain {word : List UInt8} (same : line = word)
      (other : (ascii "ui key ").isPrefixOf word = false) :
      ¬(ascii "ui key ").isPrefixOf line = true := by
    rw [same, other]
    exact Bool.false_ne_true
  by_cases menu : line = ascii "ui show" ∨ line = ascii "ui menu"
  · rw [if_pos menu, if_pos menu, if_neg (menu.elim (plain · rfl) (plain · rfl))]
    rfl
  · rw [if_neg menu, if_neg menu]
    by_cases hide : line = ascii "ui hide" ∨ line = ascii "ui close"
    · rw [if_pos hide, if_pos hide, if_neg (hide.elim (plain · rfl) (plain · rfl))]
      rfl
    · rw [if_neg hide, if_neg hide]
      by_cases toggle : line = ascii "ui toggle"
      · rw [if_pos toggle, if_pos toggle, if_neg (plain toggle rfl)]
        rfl
      · rw [if_neg toggle, if_neg toggle]
        by_cases start : (ascii "ui key ").isPrefixOf line = true
        · rw [if_pos start, if_pos start, if_pos start, ← uiKey_eq,
            show substr line 7 = _ from substr_when_prefixed start]
          rfl
        · rw [if_neg start, if_neg start, if_neg start]
          rfl

/-- What `start` does where nothing is thrown. -/
def started (before : UiState) : UiState :=
  buildOverlay (if (load before).mapRestoreOpen then
    suppressSeparateCoordinatesForMap { load before with overlayMode := .minimap }
  else load before)

theorem start_eq (before : UiState) :
    start before = .ok (started before) ∨ ∃ exception, start before = .error exception := by
  unfold start started
  dsimp only
  split
  · generalize suppressSeparateCoordinatesForMap _ = ui
    cases buildMinimapCard ui.environment with
    | error exception => exact .inr ⟨exception, rfl⟩
    | ok _ => exact .inl rfl
  · exact .inl rfl

/-! ### What a line can do -/

theorem head_when_prefixed {byte : UInt8} (start : (byte :: word).isPrefixOf line = true) :
    line.head? = some byte := by
  obtain ⟨rest, rfl⟩ := List.isPrefixOf_iff_prefix.1 start
  rfl

/-- Keys come in lines that start with a "u". -/
theorem lineThrows_plain (plain : line.head? ≠ some 117) (overlayMode : OverlayMode)
    (environment : Environment) : lineThrows line overlayMode environment = .ok () :=
  if_neg fun start => plain (head_when_prefixed start)

theorem setting_head (told : stateSetting line = some (setting, value)) :
    line.head? = some 115 := by
  rw [(ControlClients.stateSetting_some told).2]
  rfl

/-- What a line that is no setting and no key can do. -/
inductive LineEffect (now : Nat) (ui : UiState) : UiState → Prop
  | theme (theme : List UInt8 → UInt32) (files : ThemeFiles) :
    LineEffect now ui { ui with theme, files }
  | network (telemetryStatus netStatus : List UInt8) (netScanning : Bool)
      (netPeers : List (List UInt8)) :
    LineEffect now ui (requestIfShown panelUsesNetwork now
      { ui with telemetryStatus, netStatus, netScanning, netPeers })
  | mavlink (mavlink : Snapshot) :
    LineEffect now ui (requestIfShown panelUsesMavlink now { ui with mavlink })

theorem requestIfShown_base (uses : SidebarPanel → Bool) (now : Nat) (ui : UiState) :
    (requestIfShown uses now ui).toUiState = ui.toUiState := by
  unfold requestIfShown
  split <;> rfl

/-- Nothing is sent. -/
theorem LineEffect.sends (effect : LineEffect now ui after) :
    SendStep ui.toUiState after.toUiState := by
  cases effect with
  | theme theme files => exact .quiet rfl rfl rfl
  | network status net scanning peers =>
    rw [requestIfShown_base]
    exact .quiet rfl rfl rfl
  | mavlink mavlink =>
    rw [requestIfShown_base]
    exact .quiet rfl rfl rfl

/-- Whether a line of the theme fails is settled by the line. -/
theorem applyThemeStateLine_cases (platform : Platform) (line : List UInt8) :
    (∀ ui, applyThemeStateLine platform line ui = .ok (false, ui)) ∨
      stateThemeCommand.isPrefixOf line = true ∧
        ((∃ exception, ∀ ui, applyThemeStateLine platform line ui = .error exception) ∨
          ∀ ui, ∃ theme files,
            applyThemeStateLine platform line ui = .ok (true, { ui with theme, files })) := by
  unfold applyThemeStateLine
  cases start : stateThemeCommand.isPrefixOf line with
  | false => exact .inl fun _ => rfl
  | true =>
    refine .inr ⟨rfl, ?_⟩
    simp only [Bool.not_true, Bool.false_eq_true, if_false]
    split
    · exact .inr fun ui => ⟨ui.theme, ui.files, rfl⟩
    · rename_i key value _
      split
      · cases stoulHex platform value with
        | error exception => exact .inl ⟨exception, fun _ => rfl⟩
        | ok rgb =>
          right
          intro ui
          by_cases known : key ∈ themeKeys
          · refine ⟨Function.update ui.theme key (UInt32.ofNat rgb),
              setThemeColor ui.files key (UInt32.ofNat rgb), ?_⟩
            simp [known, bind, Except.bind, pure, Except.pure]
          · refine ⟨ui.theme, ui.files, ?_⟩
            simp [known, bind, Except.bind, pure, Except.pure]
      · exact .inr fun ui => ⟨ui.theme, ui.files, rfl⟩

theorem applyNetworkStateLine_cases (line : List UInt8) (ui : ControlClients.UiState) :
    applyNetworkStateLine line ui = .ok (false, ui) ∨
      line.head? = some 115 ∧ ∃ telemetryStatus netStatus netScanning netPeers,
        applyNetworkStateLine line ui =
          .ok (true, { ui with telemetryStatus, netStatus, netScanning, netPeers }) := by
  unfold applyNetworkStateLine
  split
  · rename_i start
    rw [show substr line 16 = _ from substr_when_prefixed start]
    exact .inr ⟨head_when_prefixed start, _, _, _, _, rfl⟩
  · split
    · rename_i same
      exact .inr ⟨by rw [same]; rfl, _, _, _, _, rfl⟩
    · split
      · rename_i same
        exact .inr ⟨by rw [same]; rfl, _, _, _, _, rfl⟩
      · split
        · rename_i start
          split
          · exact .inr ⟨head_when_prefixed start, _, _, _, _, rfl⟩
          · exact .inr ⟨head_when_prefixed start, _, _, _, _, rfl⟩
        · split
          · rename_i start
            exact .inr ⟨head_when_prefixed start, _, _, _, _, rfl⟩
          · split
            · rename_i start
              rw [show substr line 14 = _ from substr_when_prefixed start]
              exact .inr ⟨head_when_prefixed start, _, _, _, _, rfl⟩
            · exact .inl rfl

/-- The first word of a line that starts with a "u" is not "mav". -/
theorem mavlink_head (handled : (applyIpcLine readers line snapshot).1 = true) :
    line.head? ≠ some 117 := by
  intro head
  obtain ⟨rest, rfl⟩ : ∃ rest, line = 117 :: rest := by
    cases line with
    | nil => cases head
    | cons byte rest =>
      cases head
      exact ⟨rest, rfl⟩
  have word : (nextWord (117 :: rest)).1 ≠ ascii "mav" := by
    have letter : isSpace 117 = false := by decide
    simp only [nextWord, List.dropWhile_cons, letter]
    intro same
    cases same
  unfold applyIpcLine at handled
  simp [word] at handled

/-! Each test of the chain, where none before it took the line. -/

theorem pollIpcLine_told (platform : Platform) (readers : Readers) (now : Nat) (ui : UiState)
    (told : stateSetting line = some (setting, value)) :
    pollIpcLine platform readers now line ui = .ok (updateSetting setting value ui) := by
  unfold pollIpcLine
  rw [told]

theorem pollIpcLine_fails {ui : UiState} (readers : Readers) (now : Nat)
    (other : stateSetting line = none)
    (fails : applyThemeStateLine platform line ui.toUiState = .error exception) :
    pollIpcLine platform readers now line ui = .error exception := by
  unfold pollIpcLine
  rw [other]
  simp only [fails, bind, Except.bind]

theorem pollIpcLine_command {ui : UiState} {told : ControlClients.UiState} (readers : Readers)
    (now : Nat) (other : stateSetting line = none)
    (handled : applyThemeStateLine platform line ui.toUiState = .ok (true, told)) :
    pollIpcLine platform readers now line ui = .ok { ui with toUiState := told } := by
  unfold pollIpcLine
  rw [other]
  simp only [handled, bind, Except.bind, if_true, pure, Except.pure]

theorem pollIpcLine_state {ui : UiState} {told : ControlClients.UiState} (readers : Readers)
    (now : Nat) (other : stateSetting line = none)
    (ignored : applyThemeStateLine platform line ui.toUiState = .ok (false, ui.toUiState))
    (handled : applyNetworkStateLine line ui.toUiState = .ok (true, told)) :
    pollIpcLine platform readers now line ui =
      .ok (requestIfShown panelUsesNetwork now { ui with toUiState := told }) := by
  unfold pollIpcLine
  rw [other]
  simp only [ignored, handled, bind, Except.bind, if_true, pure, Except.pure, Bool.false_eq_true,
    if_false]

theorem pollIpcLine_mavlink {ui : UiState} (now : Nat) (other : stateSetting line = none)
    (ignored : applyThemeStateLine platform line ui.toUiState = .ok (false, ui.toUiState))
    (unknown : applyNetworkStateLine line ui.toUiState = .ok (false, ui.toUiState))
    (handled : (applyIpcLine readers line ui.mavlink).1 = true) :
    pollIpcLine platform readers now line ui =
      .ok (requestIfShown panelUsesMavlink now { ui with
        mavlink := (applyIpcLine readers line ui.mavlink).2 }) := by
  unfold pollIpcLine
  rw [other]
  simp only [ignored, unknown, handled, bind, Except.bind, if_true, pure, Except.pure,
    Bool.false_eq_true, if_false]

theorem pollIpcLine_key {ui : UiState} (now : Nat) (other : stateSetting line = none)
    (ignored : applyThemeStateLine platform line ui.toUiState = .ok (false, ui.toUiState))
    (unknown : applyNetworkStateLine line ui.toUiState = .ok (false, ui.toUiState))
    (silent : (applyIpcLine readers line ui.mavlink).1 = false) :
    pollIpcLine platform readers now line ui = applyTerminalKey line ui := by
  unfold pollIpcLine
  rw [other]
  simp only [ignored, unknown, silent, bind, Except.bind, Bool.false_eq_true, if_false]

/-- A line tells a setting, or ends the program whatever is shown, or has an effect, or is
handled as a key. -/
theorem pollIpcLine_cases (platform : Platform) (readers : Readers) (line : List UInt8) :
    (∃ setting value, stateSetting line = some (setting, value) ∧ ∀ now ui,
      pollIpcLine platform readers now line ui = .ok (updateSetting setting value ui)) ∨
    stateSetting line = none ∧
      (stateThemeCommand.isPrefixOf line = true ∧ (∃ exception, ∀ now ui,
          pollIpcLine platform readers now line ui = .error exception) ∨
        ∀ now ui, (∃ after, pollIpcLine platform readers now line ui = .ok after ∧
            line.head? ≠ some 117 ∧ LineEffect now ui after) ∨
          pollIpcLine platform readers now line ui =
            (lineThrows line ui.overlayMode ui.environment).map fun _ => pressLine line ui) := by
  cases told : stateSetting line with
  | some assigned =>
    exact .inl ⟨assigned.1, assigned.2, rfl, fun now ui =>
      pollIpcLine_told platform readers now ui told⟩
  | none =>
    refine .inr ⟨rfl, ?_⟩
    rcases applyThemeStateLine_cases platform line with other | ⟨start, ⟨exception, fails⟩ | themed⟩
    · right
      intro now ui
      have ignored := other ui.toUiState
      rcases applyNetworkStateLine_cases line ui.toUiState with
        unknown | ⟨head, status, net, scanning, peers, answer⟩
      · cases spoken : (applyIpcLine readers line ui.mavlink).1 with
        | true =>
          exact .inl ⟨_, pollIpcLine_mavlink now told ignored unknown spoken, mavlink_head spoken,
            .mavlink _⟩
        | false =>
          right
          rw [pollIpcLine_key now told ignored unknown spoken, applyTerminalKey_eq]
      · exact .inl ⟨_, pollIpcLine_state readers now told ignored answer, by simp [head],
          .network status net scanning peers⟩
    · exact .inl ⟨start, exception, fun now ui =>
        pollIpcLine_fails readers now told (fails ui.toUiState)⟩
    · right
      intro now ui
      obtain ⟨theme, files, answer⟩ := themed ui.toUiState
      have head : line.head? = some 115 := head_when_prefixed start
      exact .inl ⟨_, pollIpcLine_command readers now told answer, by simp [head],
        .theme theme files⟩

/-! ### What keys send -/

/-- A key sends what it changes of the settings, and leaves the theme alone. -/
structure KeyStep (before after : UiState) : Prop extends
    SendStep before.toUiState after.toUiState where
  theme : after.theme = before.theme
  files : after.files = before.files

/-- Enter on a row of the colors that it changes. -/
structure PicksColor (ui : UiState) : Prop where
  panel : ui.activePanel = .colors
  row : ui.selectedRow = 0 ∨ ui.selectedRow = 1

/-- Only what the screen shows or a file holds is another. -/
theorem KeyStep.quiet (same : after.toUiState = before.toUiState) : KeyStep before after where
  toSendStep := by
    rw [same]
    exact .refl _
  theme := congrArg (·.theme) same
  files := congrArg (·.files) same

theorem KeyStep.trans (first : KeyStep before middle) (second : KeyStep middle after) :
    KeyStep before after :=
  ⟨first.toSendStep.trans second.toSendStep, second.theme.trans first.theme,
    second.files.trans first.files⟩

theorem persistMapSettings_base (ui : UiState) :
    (persistMapSettings ui).toUiState = ui.toUiState := by
  unfold persistMapSettings
  split <;> rfl

theorem persisted_step (same : changed.toUiState = ui.toUiState) :
    KeyStep ui (persistMapSettings changed) :=
  .quiet ((persistMapSettings_base changed).trans same)

theorem persistDeviceSettings_base (ui : UiState) :
    (persistDeviceSettingsAndRestart ui).toUiState = ui.toUiState := by
  unfold persistDeviceSettingsAndRestart
  split
  · rfl
  · split <;> rfl

theorem rebuildUi_base (ui : UiState) : (rebuildUi ui).toUiState = ui.toUiState := by
  unfold rebuildUi buildOverlay
  split <;> rfl

theorem sendLine_step (plain : (ascii "hello ").isPrefixOf line = false) (ui : UiState) :
    KeyStep ui (sendLine line ui) where
  toSendStep := ControlClients.sendLine_step plain ui.toUiState
  theme := by
    unfold sendLine ControlClients.sendLine
    split <;> rfl
  files := by
    unfold sendLine ControlClients.sendLine
    split <;> rfl

theorem changeSetting_step (ui : UiState) (allowed : value ∈ Setting.values setting) :
    KeyStep ui (changeSetting setting value ui) where
  toSendStep := ControlClients.changeSetting_step ui.toUiState allowed
  theme := by
    unfold changeSetting ControlClients.changeSetting ControlClients.sendSetting
      ControlClients.sendLine
    split <;> rfl
  files := by
    unfold changeSetting ControlClients.changeSetting ControlClients.sendSetting
      ControlClients.sendLine
    split <;> rfl

theorem sendOpenhdParam_step (target param value : List UInt8) (ui : UiState) :
    KeyStep ui (sendOpenhdParam target param value ui) :=
  sendLine_step (by simp [ascii, List.isPrefixOf]) ui

theorem suppress_step (ui : UiState) : KeyStep ui (suppressSeparateCoordinatesForMap ui) := by
  unfold suppressSeparateCoordinatesForMap
  split
  · exact .quiet rfl
  · dsimp only
    split
    · refine .trans ?_ (changeSetting_step _ ?_)
      · exact persisted_step rfl
      · decide
    · exact persisted_step rfl

theorem restore_step (ui : UiState) : KeyStep ui (restoreSeparateCoordinatesAfterMap ui) := by
  unfold restoreSeparateCoordinatesAfterMap
  split
  · dsimp only
    split
    · refine .trans ?_ (changeSetting_step _ ?_)
      · exact persisted_step rfl
      · exact ControlClients.flag_allowed _
    · exact persisted_step rfl
  · exact .quiet rfl

theorem leaveMap_step (ui : UiState) : KeyStep ui (leaveMap ui) := by
  unfold leaveMap
  split
  · exact restore_step ui
  · exact .quiet rfl

theorem showMenu_step (ui : UiState) : KeyStep ui (showMenu ui) := by
  unfold showMenu
  split
  · exact .quiet rfl
  · exact (leaveMap_step ui).trans (.quiet (rebuildUi_base _))

theorem hideOverlay_step (ui : UiState) : KeyStep ui (hideOverlay ui) := by
  unfold hideOverlay
  split
  · exact .quiet rfl
  · exact (leaveMap_step ui).trans (.quiet (rebuildUi_base _))

theorem cycleOverlayFromMenuKey_step (ui : UiState) : KeyStep ui (cycleOverlayFromMenuKey ui) := by
  unfold cycleOverlayFromMenuKey
  split
  · exact hideOverlay_step ui
  · exact showMenu_step ui

theorem toggleMap_step (ui : UiState) : KeyStep ui (toggleMap ui) := by
  unfold toggleMap
  split
  · exact (restore_step ui).trans (.quiet (rebuildUi_base _))
  · exact (suppress_step ui).trans (.quiet (rebuildUi_base _))

theorem setActivePanel_step (panel : SidebarPanel) (ui : UiState) :
    KeyStep ui (setActivePanel panel ui) := .quiet (rebuildUi_base _)

theorem enterRow_step (plain : ¬PicksColor ui) : KeyStep ui (enterRow ui) := by
  unfold enterRow
  split
  case h_1 =>
    split
    · split
      · exact sendOpenhdParam_step ..
      · exact sendLine_step (by simp [ascii, List.isPrefixOf]) ui
    · split
      · exact sendOpenhdParam_step ..
      · exact .quiet rfl
  case h_2 =>
    iterate 5 (split; exact sendOpenhdParam_step ..)
    exact .quiet rfl
  case h_3 =>
    iterate 4 (split; exact .quiet (persistDeviceSettings_base _))
    exact .quiet rfl
  case h_4 =>
    split
    · exact persisted_step rfl
    · split
      · exact changeSetting_step ui (ControlClients.nextValue_allowed ui.controls _)
      · exact .quiet rfl
  case h_5 panel =>
    split
    · exact absurd ⟨panel, .inl ‹_›⟩ plain
    · split
      · exact absurd ⟨panel, .inr ‹_›⟩ plain
      · exact .quiet rfl
  case h_6 =>
    iterate 4 (split; exact sendOpenhdParam_step ..)
    exact .quiet rfl
  case h_7 =>
    iterate 3 (split; exact sendOpenhdParam_step ..)
    exact .quiet rfl
  case h_8 =>
    split
    · exact .quiet (rebuildUi_base _)
    · exact .quiet rfl
  case h_9 => exact .quiet rfl
  case h_10 => exact .quiet rfl

theorem changeThemeColor_sends (key : List UInt8) (rgb : UInt32) (ui : UiState) :
    SendStep ui.toUiState (changeThemeColor key rgb ui).toUiState := by
  unfold changeThemeColor sendLine
  dsimp only
  refine SendStep.trans ?_ (ControlClients.sendLine_step ?_ _)
  · exact .quiet rfl rfl rfl
  · simp [ascii, List.isPrefixOf]

/-- A color is sent as well. -/
theorem enterRow_sends (ui : UiState) : SendStep ui.toUiState (enterRow ui).toUiState := by
  by_cases color : PicksColor ui
  · obtain ⟨panel, row⟩ := color
    unfold enterRow
    rcases row with first | second
    · simp only [panel, first, if_true]
      exact changeThemeColor_sends ..
    · simp only [panel, second]
      exact changeThemeColor_sends ..
  · exact (enterRow_step color).toSendStep

theorem menuKey_step (other : key = ascii "enter" ∧ ui.focusPanel = true → ¬PicksColor ui) :
    KeyStep ui (menuKey key ui) := by
  unfold menuKey
  split
  · split
    · exact .quiet (rebuildUi_base _)
    · exact setActivePanel_step _ ui
  · split
    · split
      · exact .quiet (rebuildUi_base _)
      · exact setActivePanel_step _ ui
    · split
      · split
        · exact .quiet (rebuildUi_base _)
        · exact hideOverlay_step ui
      · split
        · exact .quiet (rebuildUi_base _)
        · split
          · split
            · exact enterRow_step (other ⟨‹_›, ‹_›⟩)
            · exact .quiet (rebuildUi_base _)
          · exact .quiet rfl

/-- The line presses enter on a row of the colors that is in focus. -/
structure ChoosesColor (line : List UInt8) (ui : UiState) : Prop extends PicksColor ui where
  line : line = ascii "ui key enter"
  menu : ui.overlayMode = .menu
  focus : ui.focusPanel = true

theorem pressKey_step
    (other : key = ascii "enter" ∧ ui.overlayMode = .menu ∧ ui.focusPanel = true →
      ¬PicksColor ui) : KeyStep ui (pressKey key ui) := by
  unfold pressKey
  split
  · exact cycleOverlayFromMenuKey_step ui
  · split
    · exact toggleMap_step ui
    · split
      · exact .quiet rfl
      · split
        · exact .quiet (rebuildUi_base _)
        · split
          · exact showMenu_step ui
          · split
            · rename_i menu
              exact menuKey_step fun focused => other ⟨focused.1, menu, focused.2⟩
            · exact .quiet rfl

theorem pressLine_step (other : ¬ChoosesColor line ui) : KeyStep ui (pressLine line ui) := by
  unfold pressLine
  split
  · exact showMenu_step ui
  · split
    · exact hideOverlay_step ui
    · split
      · exact cycleOverlayFromMenuKey_step ui
      · split
        · rename_i start
          obtain ⟨key, rfl⟩ := List.isPrefixOf_iff_prefix.1 start
          refine pressKey_step fun focused picks => other ⟨picks, ?_, focused.2.1, focused.2.2⟩
          have enter : (ascii "ui key " ++ key).drop 7 = key := List.drop_left' rfl
          rw [enter.symm.trans focused.1]
          rfl
        · exact .quiet rfl

theorem pressLine_sends (line : List UInt8) (ui : UiState) :
    SendStep ui.toUiState (pressLine line ui).toUiState := by
  by_cases color : ChoosesColor line ui
  · obtain ⟨_, rfl, menu, focus⟩ := color
    have pressed : pressLine (ascii "ui key enter") ui = enterRow ui := by
      simp [pressLine, pressKey, menuKey, menu, focus, zoomKeys, ascii, List.isPrefixOf]
    rw [pressed]
    exact enterRow_sends ui
  · exact (pressLine_step color).toSendStep

/-- A line that tells no setting changes one only as a key does. -/
theorem pollIpcLine_sends (untold : stateSetting line = none)
    (polled : pollIpcLine platform readers now line ui = .ok after) :
    SendStep ui.toUiState after.toUiState := by
  rcases pollIpcLine_cases platform readers line with
    ⟨setting, value, told, _⟩ | ⟨_, ⟨_, exception, fails⟩ | answers⟩
  · rw [told] at untold
    cases untold
  · rw [fails] at polled
    cases polled
  · rcases answers now ui with ⟨_, answer, _, effect⟩ | pressed
    · rw [answer] at polled
      cases polled
      exact effect.sends
    · rw [pressed] at polled
      cases thrown : lineThrows line ui.overlayMode ui.environment with
      | error exception =>
        rw [thrown] at polled
        cases polled
      | ok _ =>
        rw [thrown] at polled
        cases polled
        exact pressLine_sends line ui

theorem finishPoll_sends (now : Nat) (ui : UiState) :
    SendStep ui.toUiState (finishPoll now ui).toUiState := by
  have rebuilt : SendStep ui.toUiState (rebuildPendingPanel now ui).toUiState := by
    unfold rebuildPendingPanel
    split
    · exact (setActivePanel_step ui.activePanel ui).toSendStep
    · exact .refl _
  refine rebuilt.trans ?_
  unfold finishPoll reconnectTelemetry
  split
  · refine SendStep.trans ?_ (sendLine_step ?_ _).toSendStep
    · exact .quiet rfl rfl rfl
    · simp [ascii, List.isPrefixOf]
  · exact .refl _

end Glide.UserInterface
