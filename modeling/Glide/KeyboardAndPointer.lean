import Glide.UserInterface

/-! Enter on a row of a panel compared with a click on the row. The builders decide which
rows there are, and the key handler counts rows on its own. -/
namespace Glide.KeyboardAndPointer
open Library AsciiText StringConversions PreviewControl MavlinkState RuntimeControls UserInterface
open ControlClients (SidebarPanel osdRow)

def enter (ui : UiState) : Except CppException UiState :=
  applyTerminalKey (ascii "ui key enter") ui

/-- The value of a setting, as numbers. -/
def settingValue (ui : UiState) : SettingRow → List Nat
  | .resolution => [ui.videoMode.glideWidth, ui.videoMode.glideHeight]
  | .displayHz => [ui.videoMode.displayHz]
  | .flowFps => [ui.videoMode.flowFps]
  | .flowScale => [ui.videoMode.flowScalePercent]
  | .control setting => (ui.controls.value setting).map UInt8.toNat
  | .mapPosition => ui.mapPosition.map UInt8.toNat
  | .theme index => [(ui.theme (themeKey index)).toNat]

/-- The states are the same but for focus and selection. -/
def SameButFocus (one other : UiState) : Prop :=
  { one with focusPanel := other.focusPanel, selectedRow := other.selectedRow } = other

def ChangesOnly (setting : SettingRow) (before after : UiState) : Prop :=
  settingValue after setting ≠ settingValue before setting ∧
    ∀ other, other ≠ setting → settingValue after other = settingValue before other

/-- What becomes of the state is what the row is for. -/
def Serves (input : List UInt8) (now : Nat) (ui after : UiState) : Row → Prop
  | .readOut => after = ui
  | .button button => SameButFocus after (click input now ui button)
  | .setting setting => ChangesOnly setting ui after

/-- Enter does what the row is for. -/
def Agrees (input : List UInt8) (now : Nat) (ui : UiState) (row : Row) : Prop :=
  ∃ after, enter ui = .ok after ∧ Serves input now ui after row

/-- A connection attempt would leave everything as it is. -/
def ConnectSettled (input : List UInt8) (now : Nat) (ui : UiState) : Prop :=
  ui.telemetryHost = trim input ∧
    (trim input ≠ [] →
      ui.connected = false ∧ ui.telemetryAutoConnect = true ∧
        ui.nextTelemetryReconnect = now + 3000 ∧ ui.telemetryStatus = ascii "Connecting..." ∧
        (ui.environment.telemetryWritable = true →
          ui.telemetryFile = [ascii "TCP_IP=" ++ trim input]))

/-- Where the row numbers of the key handler do no harm. -/
def Matched (input : List UInt8) (now : Nat) (ui : UiState) (row : Row) : Prop :=
  match ui.activePanel, row with
  | .link, .readOut => ui.selectedRow < 4 ∨ 8 < ui.selectedRow ∨ ui.connected = false
  | .link, .button .scanEthernet =>
    ui.connected = false ∧ ui.netScanning = true ∧ ui.netStatus = ascii "Scanning" ∧
      ui.netPeers = [] ∧ ui.panelRebuildPending = false
  | .link, .button _ => ui.connected = false
  | .developer, .readOut => ui.selectedRow ≠ 5
  | .developer, .button .connectTcp => ConnectSettled input now ui
  | .developer, .button .disconnectTelemetry =>
    ui.connected = false ∧ ui.telemetryAutoConnect = false
  | .developer, .button .advanced => False
  | .colors, .setting (.theme index) => index.val < 2
  | _, _ => True

theorem enter_eq (menu : ui.overlayMode = .menu) (focus : ui.focusPanel = true) :
    enter ui = .ok (enterRow ui) := by
  unfold enter applyTerminalKey
  rw [if_neg (by decide), if_neg (by decide), if_neg (by decide), if_pos (by decide)]
  change uiKey (ascii "enter") ui = .ok (enterRow ui)
  unfold uiKey
  rw [if_neg (by decide), if_neg (by decide), if_neg (by simp [menu]), if_neg (by simp [menu]),
    if_neg (by simp [menu]), if_pos menu]
  unfold menuKey
  rw [if_neg (by decide), if_neg (by decide), if_neg (by decide), if_neg (by decide),
    if_pos (by decide), if_pos focus]

theorem agrees_iff (menu : ui.overlayMode = .menu) (focus : ui.focusPanel = true) (row : Row) :
    Agrees input now ui row ↔ Serves input now ui (enterRow ui) row := by
  unfold Agrees
  rw [enter_eq menu focus]
  constructor
  · rintro ⟨after, pressed, serves⟩
    cases pressed
    exact serves
  · exact fun serves => ⟨_, rfl, serves⟩

/-! ### What enter makes of a setting -/

/-- The change that enter makes on the row of a setting. -/
def nextSetting (ui : UiState) : SettingRow → UiState
  | .resolution =>
    setResolutionPreset ((resolutionIndex ui.videoMode + 1) % resolutionPresets.length) ui
  | .displayHz => persistDeviceSettingsAndRestart { ui with
      videoMode := { ui.videoMode with displayHz := nextDisplayHz ui.videoMode.displayHz } }
  | .flowFps => persistDeviceSettingsAndRestart { ui with
      videoMode := { ui.videoMode with flowFps := nextFlowFps ui.videoMode.flowFps } }
  | .flowScale => persistDeviceSettingsAndRestart { ui with
      videoMode := { ui.videoMode with
        flowScalePercent := nextFlowScale ui.videoMode.flowScalePercent } }
  | .control setting => changeSetting setting (ControlClients.nextValue ui.controls setting) ui
  | .mapPosition => nextMapPosition ui
  | .theme index => nextThemeColor index ui

theorem sendLine_eq (line : List UInt8) (ui : UiState) :
    sendLine line ui =
      { ui with sent := if ui.connected then ui.sent ++ [line] else ui.sent } := by
  unfold sendLine ControlClients.sendLine
  split <;> rfl

theorem settingValue_sendLine (line : List UInt8) (ui : UiState) (setting : SettingRow) :
    settingValue (sendLine line ui) setting = settingValue ui setting := by
  rw [sendLine_eq]
  cases setting <;> rfl

theorem settingValue_persist (ui : UiState) (setting : SettingRow) :
    settingValue (persistDeviceSettingsAndRestart ui) setting = settingValue ui setting := by
  unfold persistDeviceSettingsAndRestart
  split
  · rfl
  · split
    · cases setting <;> rfl
    · rfl

theorem settingValue_persistMap (ui : UiState) (setting : SettingRow) :
    settingValue (persistMapSettings ui) setting = settingValue ui setting := by
  unfold persistMapSettings
  split <;> cases setting <;> rfl

theorem settingValue_changeSetting (ui : UiState) (setting : Setting) (value : List UInt8)
    (other : SettingRow) :
    settingValue (changeSetting setting value ui) other =
      settingValue { ui with controls := ui.controls.assign value setting } other := by
  unfold changeSetting ControlClients.changeSetting ControlClients.sendSetting
    ControlClients.sendLine
  split <;> cases other <;> rfl

/-- The other settings are not in the video mode, or as they were there. -/
theorem changesOnly_videoMode {mode : VideoMode}
    (own : settingValue { ui with videoMode := mode } setting ≠ settingValue ui setting)
    (others : ∀ other, other ≠ setting →
      settingValue { ui with videoMode := mode } other = settingValue ui other) :
    ChangesOnly setting ui (persistDeviceSettingsAndRestart { ui with videoMode := mode }) := by
  constructor
  · rw [settingValue_persist]
    exact own
  · intro other apart
    rw [settingValue_persist]
    exact others other apart

theorem nextDisplayHz_ne (current : Nat) : nextDisplayHz current ≠ current := by
  unfold nextDisplayHz
  split
  · omega
  · split <;> omega

theorem nextFlowFps_ne (current : Nat) : nextFlowFps current ≠ current := by
  unfold nextFlowFps
  split <;> omega

theorem nextFlowScale_ne (current : Nat) : nextFlowScale current ≠ current := by
  unfold nextFlowScale
  split <;> omega

/-- A resolution that is no preset is taken for the first one. -/
theorem nextResolution_ne (mode : VideoMode) :
    resolutionPresets.getD (min ((resolutionIndex mode + 1) % resolutionPresets.length) 3)
      (960, 540) ≠ (mode.glideWidth, mode.glideHeight) := by
  unfold resolutionIndex
  generalize (mode.glideWidth, mode.glideHeight) = current
  by_cases listed : current ∈ resolutionPresets
  · simp only [resolutionPresets, List.mem_cons, List.not_mem_nil, or_false] at listed
    obtain rfl | rfl | rfl | rfl := listed <;> decide
  · have none : resolutionPresets.findIdx? (· = current) = none := by
      rw [List.findIdx?_eq_none_iff]
      intro preset inside
      rw [decide_eq_false_iff_not]
      rintro rfl
      exact listed inside
    rw [none]
    rintro rfl
    exact listed (by decide)

theorem nextMapPosition_ne (current : List UInt8) :
    mapPositionValues.getD ((mapPositionIndex current + 1) % mapPositionValues.length) [] ≠
      current := by
  unfold mapPositionIndex
  by_cases listed : current ∈ mapPositionValues
  · rw [if_pos listed]
    simp only [mapPositionValues, List.mem_cons, List.not_mem_nil, or_false] at listed
    obtain rfl | rfl | rfl | rfl | rfl | rfl | rfl | rfl := listed <;> decide
  · rw [if_neg listed]
    rintro rfl
    exact listed (by decide)

theorem flag_not_ne (enabled : Bool) : flag (!enabled) ≠ flag enabled := by
  cases enabled <;> decide

theorem nextValue_ne (controls : RuntimeControlState) (setting : Setting) :
    ControlClients.nextValue controls setting ≠ controls.value setting := by
  cases setting with
  | fps => exact flag_not_ne _
  | coords => exact flag_not_ne _
  | compact => exact flag_not_ne _
  | topbar => exact flag_not_ne _
  | osd =>
    simp only [ControlClients.nextValue, RuntimeControlState.value]
    split
    · rename_i drone
      rw [drone]
      decide
    · rename_i other
      split
      · rename_i rocket
        rw [rocket]
        decide
      · split
        · rename_i rover
          rw [rover]
          decide
        · exact fun drone => other drone.symm

/-- The colors that enter can lead to. -/
def themeChoices (index : Fin 4) : List UInt32 :=
  defaultThemeColor (themeKey index) :: colorPresets.drop 1

theorem presetRgb_mem : ∀ index : Fin 4, ∀ preset : Fin 9,
    presetRgbForIndex (themeKey index) preset ∈ themeChoices index := by
  decide +kernel

theorem nextRgb_ne_choice : ∀ index : Fin 4, (themeChoices index).all (fun rgb =>
    presetRgbForIndex (themeKey index)
      ((presetIndexForRgb (themeKey index) rgb + 1) % colorPresets.length) != rgb) = true := by
  decide +kernel

theorem nextRgb_ne (index : Fin 4) (rgb : UInt32) :
    presetRgbForIndex (themeKey index)
      ((presetIndexForRgb (themeKey index) rgb + 1) % colorPresets.length) ≠ rgb := by
  intro same
  have chosen := presetRgb_mem index
    ⟨(presetIndexForRgb (themeKey index) rgb + 1) % colorPresets.length, Nat.mod_lt _ (by decide)⟩
  rw [same] at chosen
  have apart := List.all_eq_true.1 (nextRgb_ne_choice index) rgb chosen
  exact (bne_iff_ne.1 apart) same

theorem map_toNat_ne (apart : one ≠ other) :
    List.map UInt8.toNat one ≠ List.map UInt8.toNat other := by
  intro same
  exact apart (List.map_injective_iff.2 (fun _ _ => UInt8.toNat_inj.1) same)

theorem themeKey_injective : ∀ one other : Fin 4, themeKey one = themeKey other → one = other := by
  decide

theorem nextSetting_changesOnly (ui : UiState) (setting : SettingRow) :
    ChangesOnly setting ui (nextSetting ui setting) := by
  cases setting with
  | resolution =>
    refine changesOnly_videoMode ?_ ?_
    · intro same
      apply nextResolution_ne ui.videoMode
      simp only [settingValue, List.cons.injEq, and_true] at same
      exact Prod.ext same.1 same.2
    · intro other apart
      cases other <;> first | rfl | exact absurd rfl apart
  | displayHz =>
    refine changesOnly_videoMode ?_ ?_
    · simpa [settingValue] using nextDisplayHz_ne ui.videoMode.displayHz
    · intro other apart
      cases other <;> first | rfl | exact absurd rfl apart
  | flowFps =>
    refine changesOnly_videoMode ?_ ?_
    · simpa [settingValue] using nextFlowFps_ne ui.videoMode.flowFps
    · intro other apart
      cases other <;> first | rfl | exact absurd rfl apart
  | flowScale =>
    refine changesOnly_videoMode ?_ ?_
    · simpa [settingValue] using nextFlowScale_ne ui.videoMode.flowScalePercent
    · intro other apart
      cases other <;> first | rfl | exact absurd rfl apart
  | control setting =>
    have assigned := settingValue_changeSetting ui setting
      (ControlClients.nextValue ui.controls setting)
    constructor
    · rw [nextSetting, assigned]
      apply map_toNat_ne
      rw [ControlClients.value_assign _ (ControlClients.nextValue_allowed _ _)]
      exact nextValue_ne ui.controls setting
    · intro other apart
      rw [nextSetting, assigned]
      cases other with
      | control other =>
        have elsewhere : other ≠ setting := fun same => apart (by rw [same])
        simp only [settingValue]
        rw [ControlClients.value_assign_other _ _ elsewhere]
      | _ => rfl
  | mapPosition =>
    simp only [nextSetting, nextMapPosition, ChangesOnly, settingValue_persistMap]
    constructor
    · exact map_toNat_ne (nextMapPosition_ne ui.mapPosition)
    · intro other apart
      cases other <;> first | rfl | exact absurd rfl apart
  | theme index =>
    simp only [nextSetting, nextThemeColor, changeThemeColor, ChangesOnly, settingValue_sendLine]
    constructor
    · simp only [settingValue, Function.update_self]
      intro same
      simp only [List.cons.injEq, and_true] at same
      exact nextRgb_ne index _ (UInt32.toNat_inj.1 same)
    · intro other apart
      cases other with
      | theme other =>
        have elsewhere : themeKey other ≠ themeKey index := fun same =>
          apart (by rw [themeKey_injective other index same])
        simp only [settingValue, Function.update_of_ne elsewhere]
      | _ => rfl

/-! ### Panels whose rows have the numbers that the key handler counts with -/

/-- What a row is for: a read-out does nothing, and a button what a click on it does. -/
def press (input : List UInt8) (now : Nat) (ui : UiState) : Row → UiState
  | .readOut => ui
  | .button button => click input now ui button
  | .setting setting => nextSetting ui setting

theorem sameButFocus_self (ui : UiState) : SameButFocus ui ui := rfl

theorem agrees_of_press (menu : ui.overlayMode = .menu) (focus : ui.focusPanel = true)
    (pressed : enterRow ui = press input now ui row) : Agrees input now ui row := by
  rw [agrees_iff menu focus, pressed]
  cases row with
  | readOut => rfl
  | button button => exact sameButFocus_self _
  | setting setting => exact nextSetting_changesOnly ui setting

/-- Enter does on each of the rows what the row is for. -/
def Pressed (input : List UInt8) (now : Nat) (ui : UiState) (rows : List Row) : Prop :=
  ∀ place ∈ rows.zipIdx, ui.selectedRow = (place.2 : Int) →
    enterRow ui = press input now ui place.1

theorem Pressed.at_row (pressed : Pressed input now ui rows) (low : 0 ≤ ui.selectedRow)
    (found : rows[ui.selectedRow.toNat]? = some row) :
    enterRow ui = press input now ui row :=
  pressed (row, ui.selectedRow.toNat) (List.mk_mem_zipIdx_iff_getElem?.2 found)
    (Int.toNat_of_nonneg low).symm

theorem dashboard_pressed (panel : ui.activePanel = .dashboard) :
    Pressed input now ui (buildDashboardPanel ui) := by
  unfold Pressed buildDashboardPanel
  cases artosyn : artosynLink ui.mavlink with
  | true =>
    simp only [if_true, List.replicate, List.cons_append, List.nil_append, List.zipIdx_cons,
      List.zipIdx_nil, List.forall_mem_cons]
    refine ⟨?_, ?_, ?_, ?_, ?_, ?_, by simp⟩ <;> intro selected <;>
      simp [enterRow, panel, selected, artosyn, press, click]
  | false =>
    simp only [Bool.false_eq_true, if_false, List.replicate, List.cons_append, List.nil_append,
      List.zipIdx_cons, List.zipIdx_nil, List.forall_mem_cons]
    refine ⟨?_, ?_, ?_, ?_, ?_, by simp⟩ <;> intro selected <;>
      simp [enterRow, panel, selected, artosyn, press, click]

theorem camera_pressed (panel : ui.activePanel = .camera) :
    Pressed input now ui buildCameraPanel := by
  unfold Pressed buildCameraPanel
  simp only [List.replicate, List.cons_append, List.nil_append, List.zipIdx_cons,
    List.zipIdx_nil, List.forall_mem_cons]
  refine ⟨?_, ?_, ?_, ?_, ?_, ?_, ?_, by simp⟩ <;> intro selected <;>
    simp [enterRow, panel, selected, press, click]

theorem recording_pressed (panel : ui.activePanel = .recording) :
    Pressed input now ui buildRecordingPanel := by
  unfold Pressed buildRecordingPanel
  simp only [List.replicate, List.cons_append, List.nil_append, List.zipIdx_cons,
    List.zipIdx_nil, List.forall_mem_cons]
  refine ⟨?_, ?_, ?_, ?_, ?_, by simp⟩ <;> intro selected <;>
    simp [enterRow, panel, selected, press, click]

theorem video_pressed (panel : ui.activePanel = .video) :
    Pressed input now ui buildVideoPanel := by
  unfold Pressed buildVideoPanel
  simp only [List.replicate, List.cons_append, List.nil_append, List.zipIdx_cons,
    List.zipIdx_nil, List.forall_mem_cons]
  refine ⟨?_, ?_, ?_, ?_, ?_, ?_, ?_, ?_, by simp⟩ <;> intro selected <;>
    simp [enterRow, panel, selected, press, nextSetting]

theorem osd_pressed (panel : ui.activePanel = .osd) : Pressed input now ui buildOsdPanel := by
  unfold Pressed buildOsdPanel
  simp only [List.zipIdx_cons, List.zipIdx_nil, List.forall_mem_cons]
  refine ⟨?_, ?_, ?_, ?_, ?_, ?_, by simp⟩ <;> intro selected <;>
    simp [enterRow, panel, selected, press, nextSetting, osdRow]

/-- Enter does nothing on a panel that has read-outs only. -/
theorem readOuts_pressed (idle : enterRow ui = ui) (readOuts : ∀ row ∈ rows, row = .readOut) :
    Pressed input now ui rows := by
  intro place inside _
  rw [readOuts place.1 (List.fst_mem_of_mem_zipIdx inside)]
  exact idle

theorem system_pressed (panel : ui.activePanel = .system) :
    Pressed input now ui buildSystemPanel := by
  apply readOuts_pressed
  · simp [enterRow, panel]
  · simp [buildSystemPanel]

theorem telemetry_pressed (panel : ui.activePanel = .telemetry) :
    Pressed input now ui (buildRcPanel ui) := by
  apply readOuts_pressed
  · simp [enterRow, panel]
  · have shown : ∀ valid : Bool, ∀ row ∈ (if valid then [Row.readOut] else []),
        row = .readOut := by
      decide
    intro row inside
    simp only [buildRcPanel, List.mem_append, List.mem_replicate] at inside
    rcases inside with ((((((inside | inside) | inside) | inside) | inside) | inside) | inside)
    · exact inside.2
    · exact shown _ row inside
    · exact shown _ row inside
    · exact shown _ row inside
    · exact shown _ row inside
    · exact shown _ row inside
    · exact inside.2

/-! ### The panels with other numbers -/

theorem sendLine_unconnected (line : List UInt8) (apart : ui.connected = false) :
    sendLine line ui = ui := by
  rw [sendLine_eq, if_neg (by simp [apart])]

/-- A line that is sent can be told from none. -/
theorem unconnected_of_sent {ui : UiState}
    (same : ui.sent = if ui.connected then ui.sent ++ [line] else ui.sent) :
    ui.connected = false := by
  cases connected : ui.connected with
  | false => rfl
  | true => simp [connected] at same

theorem sendLine_eq_self : sendLine line ui = ui ↔ ui.connected = false := by
  constructor
  · intro same
    rw [sendLine_eq] at same
    exact unconnected_of_sent (congrArg (·.sent) same).symm
  · exact sendLine_unconnected line

theorem sameButFocus_sendLine : SameButFocus ui (sendLine line ui) ↔ ui.connected = false := by
  constructor
  · intro same
    rw [sendLine_eq] at same
    exact unconnected_of_sent (congrArg (·.sent) same)
  · intro apart
    rw [sendLine_unconnected line apart]
    exact sameButFocus_self ui

/-- Five rows of the link panel send a line, whatever they show. -/
theorem link_enter (panel : ui.activePanel = .link) :
    enterRow ui = ui ↔ ui.selectedRow < 4 ∨ 8 < ui.selectedRow ∨ ui.connected = false := by
  simp only [enterRow, panel]
  by_cases width : ui.selectedRow = 4
  · simp [width, cycleChannelWidth, sendOpenhdParam, sendLine_eq_self]
  by_cases mcs : ui.selectedRow = 5
  · simp [mcs, cycleMcs, sendOpenhdParam, sendLine_eq_self]
  by_cases power : ui.selectedRow = 6
  · simp [power, cycleTxPower, sendOpenhdParam, sendLine_eq_self]
  by_cases pit : ui.selectedRow = 7
  · simp [pit, setPitMode, sendOpenhdParam, sendLine_eq_self]
  by_cases off : ui.selectedRow = 8
  · simp [off, setPitMode, sendOpenhdParam, sendLine_eq_self]
  simp only [width, mcs, power, pit, off, if_false, true_iff]
  omega

/-- The buttons of the link panel that send a line and do nothing else. -/
def linkCommands : List Button :=
  [.p2pGround, .p2pAir, .resetArtosyn, .pairArtosyn, .cycleChannelWidth, .cycleMcs, .cycleTxPower,
    .pitOn, .pitOff]

theorem linkCommands_send (input : List UInt8) (now : Nat) (ui : UiState)
    (command : button ∈ linkCommands) : ∃ line, click input now ui button = sendLine line ui := by
  simp only [linkCommands, List.mem_cons, List.not_mem_nil, or_false] at command
  rcases command with rfl | rfl | rfl | rfl | rfl | rfl | rfl | rfl | rfl <;> exact ⟨_, rfl⟩

/-- There are ten read-outs at least before the first button. -/
theorem link_row (found : (buildLinkPanel ui)[n]? = some row) :
    row = .readOut ∨
      10 ≤ n ∧ ∃ button, row = .button button ∧
        (button = .scanEthernet ∨ button ∈ linkCommands) := by
  unfold buildLinkPanel at found
  rw [List.append_assoc, List.append_assoc, ← List.append_assoc, List.replicate_append_replicate]
    at found
  by_cases before : n < 9 + max 1 ui.netPeers.length
  · left
    rw [List.getElem?_append_left (by simpa using before), List.getElem?_replicate,
      if_pos before] at found
    exact (Option.some.inj found).symm
  · right
    refine ⟨by omega, ?_⟩
    rw [List.getElem?_append_right (by simpa using before)] at found
    have inside := List.mem_of_getElem? found
    have buttons : ∀ artosyn : Bool, ∀ row ∈
        [Row.button .scanEthernet, .button .p2pGround, .button .p2pAir] ++
          (if artosyn then [Row.button .resetArtosyn, .button .pairArtosyn]
          else [.button .cycleChannelWidth, .button .cycleMcs, .button .cycleTxPower,
            .button .pitOn, .button .pitOff]),
        ∃ button, row = .button button ∧
          (button = .scanEthernet ∨ button ∈ linkCommands) := by
      intro artosyn row inside
      cases artosyn with
      | true =>
        simp only [if_true, List.cons_append, List.nil_append, List.mem_cons, List.not_mem_nil,
          or_false] at inside
        rcases inside with rfl | rfl | rfl | rfl | rfl <;> simp [linkCommands]
      | false =>
        simp only [Bool.false_eq_true, if_false, List.cons_append, List.nil_append, List.mem_cons,
          List.not_mem_nil, or_false] at inside
        rcases inside with rfl | rfl | rfl | rfl | rfl | rfl | rfl | rfl <;> simp [linkCommands]
    exact buttons _ row inside

/-- The panel is as its builder made it. -/
def Built (ui : UiState) : Prop := (buildOverlay ui).rowCount = ui.rowCount

theorem built_rows (built : Built ui) (low : 0 ≤ ui.selectedRow)
    (below : ui.selectedRow < ui.rowCount) :
    ui.compact = false ∧ ui.rowCount = (panelRows ui).length := by
  unfold Built buildOverlay at built
  split at built
  · rename_i shown
    exact ⟨shown.2, built.symm⟩
  · have empty : ui.rowCount = 0 := built.symm
    omega

/-- What a panel chosen anew leaves as it was. -/
theorem setActivePanel_eq (panel : SidebarPanel) (ui : UiState) :
    ∃ rows, setActivePanel panel ui =
      { ui with
        activePanel := panel, selectedRow := 0, focusPanel := false, rowCount := rows
        panelRebuildPending := false } := by
  unfold setActivePanel rebuildUi buildOverlay
  split
  · exact ⟨_, rfl⟩
  · exact ⟨_, rfl⟩

/-- A scan shows when it starts, unless the last one still looks the same. -/
theorem sameButFocus_scan (menu : ui.overlayMode = .menu) (panel : ui.activePanel = .link)
    (wide : ui.compact = false) (built : ui.rowCount = (panelRows ui).length) :
    SameButFocus ui (scanEthernet ui) ↔
      ui.connected = false ∧ ui.netScanning = true ∧ ui.netStatus = ascii "Scanning" ∧
        ui.netPeers = [] ∧ ui.panelRebuildPending = false := by
  constructor
  · intro same
    unfold SameButFocus scanEthernet at same
    obtain ⟨rows, chosen⟩ := setActivePanel_eq .link (sendLine (ascii "net scan")
      { ui with netScanning := true, netStatus := ascii "Scanning", netPeers := [] })
    rw [chosen, sendLine_eq] at same
    exact ⟨unconnected_of_sent (congrArg (·.sent) same), congrArg (·.netScanning) same,
      congrArg (·.netStatus) same, congrArg (·.netPeers) same,
      congrArg (·.panelRebuildPending) same⟩
  · rintro ⟨apart, scanning, status, none, settled⟩
    have kept : { ui with netScanning := true, netStatus := ascii "Scanning", netPeers := [] } =
        ui := by
      rw [← scanning, ← status, ← none]
    have rows : panelRows { ui with activePanel := .link, selectedRow := 0, focusPanel := false } =
        panelRows ui := by
      simp only [panelRows, panel]
      rfl
    unfold SameButFocus scanEthernet setActivePanel rebuildUi buildOverlay
    rw [kept, sendLine_unconnected _ apart, if_pos ⟨menu, wide⟩, rows, ← built, ← panel, ← settled]

theorem persistTelemetryHost_eq (ui : UiState) :
    persistTelemetryHost ui =
      { ui with telemetryFile :=
          if ui.environment.telemetryWritable then [ascii "TCP_IP=" ++ ui.telemetryHost]
          else ui.telemetryFile } := by
  unfold persistTelemetryHost
  split <;> rfl

theorem sameButFocus_connect :
    SameButFocus ui (connectTcp input now ui) ↔ ConnectSettled input now ui := by
  unfold connectTcp ConnectSettled
  by_cases empty : trim input = []
  · rw [if_pos empty]
    constructor
    · intro same
      exact ⟨congrArg (·.telemetryHost) same, fun some => absurd empty some⟩
    · rintro ⟨host, _⟩
      rw [← host]
      exact sameButFocus_self ui
  · rw [if_neg empty, sendLine_eq, persistTelemetryHost_eq]
    constructor
    · intro same
      refine ⟨congrArg (·.telemetryHost) same,
        fun _ => ⟨unconnected_of_sent (congrArg (·.sent) same),
          congrArg (·.telemetryAutoConnect) same, congrArg (·.nextTelemetryReconnect) same,
          congrArg (·.telemetryStatus) same, fun writable => ?_⟩⟩
      exact (congrArg (·.telemetryFile) same).trans (if_pos writable)
    · rintro ⟨host, settled⟩
      obtain ⟨apart, auto, next, status, file⟩ := settled empty
      have kept : (if ui.environment.telemetryWritable then [ascii "TCP_IP=" ++ trim input]
          else ui.telemetryFile) = ui.telemetryFile := by
        split
        · exact (file ‹_›).symm
        · rfl
      dsimp only
      rw [kept, if_neg (by simp [apart]), ← host, ← auto, ← next, ← status]
      exact sameButFocus_self ui

theorem sameButFocus_disconnect (input : List UInt8) (now : Nat) :
    SameButFocus ui (click input now ui .disconnectTelemetry) ↔
      ui.connected = false ∧ ui.telemetryAutoConnect = false := by
  simp only [click, sendLine_eq]
  constructor
  · intro same
    exact ⟨unconnected_of_sent (congrArg (·.sent) same), congrArg (·.telemetryAutoConnect) same⟩
  · rintro ⟨apart, auto⟩
    rw [if_neg (by simp [apart]), ← auto]
    exact sameButFocus_self ui

theorem not_sameButFocus_advanced (input : List UInt8) (now : Nat) (ui : UiState) :
    ¬ SameButFocus ui (click input now ui .advanced) := by
  intro same
  unfold click at same
  obtain ⟨rows, chosen⟩ :=
    setActivePanel_eq .developer { ui with advancedVisible := !ui.advancedVisible }
  rw [chosen] at same
  exact Bool.not_ne_self _ (congrArg (·.advancedVisible) same).symm

/-- The row before the last read-out takes the key of the button at the end. -/
theorem developer_enter (panel : ui.activePanel = .developer) :
    enterRow ui = ui ↔ ui.selectedRow ≠ 5 := by
  simp only [enterRow, panel]
  by_cases advanced : ui.selectedRow = 5
  · rw [if_pos advanced]
    constructor
    · intro same
      have visible := congrArg (·.advancedVisible) same
      unfold rebuildUi buildOverlay at visible
      split at visible
      · exact absurd visible (Bool.not_ne_self _)
      · exact absurd visible (Bool.not_ne_self _)
    · exact fun apart => absurd advanced apart
  · rw [if_neg advanced]
    simp [advanced]

theorem developer_row (found : (buildStatusPanel ui)[n]? = some row) :
    n = 1 ∧ row = .button .connectTcp ∨ n = 2 ∧ row = .button .disconnectTelemetry ∨
      n = 9 ∧ row = .button .advanced ∨ row = .readOut := by
  unfold buildStatusPanel at found
  by_cases fixed : n < 10
  · rw [List.getElem?_append_left (by simpa using fixed)] at found
    have rows : ∀ n : Fin 10, ∀ row,
        ([Row.readOut, .button .connectTcp, .button .disconnectTelemetry] ++
          List.replicate 6 .readOut ++ [.button .advanced])[(n : Nat)]? = some row →
        n.val = 1 ∧ row = .button .connectTcp ∨ n.val = 2 ∧ row = .button .disconnectTelemetry ∨
          n.val = 9 ∧ row = .button .advanced ∨ row = .readOut := by
      simp [Fin.forall_fin_succ, List.replicate]
    exact rows ⟨n, fixed⟩ row found
  · rw [List.getElem?_append_right (by simp; omega)] at found
    have inside := List.mem_of_getElem? found
    split at inside
    · obtain ⟨message, _, rfl⟩ := List.mem_map.1 inside
      simp
    · exact absurd inside List.not_mem_nil

theorem colors_row (found : buildColorsPanel[n]? = some row) :
    ∃ index : Fin 4, index.val = n ∧ row = .setting (.theme index) := by
  obtain ⟨inside, rfl⟩ := List.getElem?_eq_some_iff.1 found
  have rows : ∀ index : Fin 4, buildColorsPanel[(index : Nat)] = .setting (.theme index) := by
    simp [Fin.forall_fin_succ, buildColorsPanel]
  exact ⟨⟨n, inside⟩, rfl, rows ⟨n, inside⟩⟩

theorem link_agrees (menu : ui.overlayMode = .menu) (focus : ui.focusPanel = true)
    (panel : ui.activePanel = .link) (wide : ui.compact = false)
    (built : ui.rowCount = (panelRows ui).length)
    (found : (buildLinkPanel ui)[ui.selectedRow.toNat]? = some row) :
    Agrees input now ui row ↔ Matched input now ui row := by
  rcases link_row found with rfl | ⟨past, button, rfl, scan | command⟩
  · rw [agrees_iff menu focus, Serves, link_enter panel]
    simp only [Matched, panel]
  · have idle : enterRow ui = ui := (link_enter panel).2 (.inr (.inl (by omega)))
    rw [agrees_iff menu focus, Serves, idle, scan, click, sameButFocus_scan menu panel wide built]
    simp only [Matched, panel]
  · have idle : enterRow ui = ui := (link_enter panel).2 (.inr (.inl (by omega)))
    obtain ⟨line, clicked⟩ := linkCommands_send input now ui command
    rw [agrees_iff menu focus, Serves, idle, clicked, sameButFocus_sendLine]
    have other : button ≠ .scanEthernet := by
      rintro rfl
      exact absurd command (by decide)
    simp only [Matched, panel]

theorem developer_agrees (menu : ui.overlayMode = .menu) (focus : ui.focusPanel = true)
    (panel : ui.activePanel = .developer)
    (found : (buildStatusPanel ui)[ui.selectedRow.toNat]? = some row) :
    Agrees input now ui row ↔ Matched input now ui row := by
  have idle (apart : ui.selectedRow.toNat ≠ 5) : enterRow ui = ui :=
    (developer_enter panel).2 fun same => apart (by omega)
  rcases developer_row found with ⟨place, rfl⟩ | ⟨place, rfl⟩ | ⟨place, rfl⟩ | rfl
  · rw [agrees_iff menu focus, Serves, idle (by omega), click, sameButFocus_connect]
    simp only [Matched, panel]
  · rw [agrees_iff menu focus, Serves, idle (by omega), sameButFocus_disconnect]
    simp only [Matched, panel]
  · rw [agrees_iff menu focus, Serves, idle (by omega)]
    simp only [Matched, panel, iff_false]
    exact not_sameButFocus_advanced input now ui
  · rw [agrees_iff menu focus, Serves, developer_enter panel]
    simp only [Matched, panel]

theorem colors_agrees (menu : ui.overlayMode = .menu) (focus : ui.focusPanel = true)
    (panel : ui.activePanel = .colors) (low : 0 ≤ ui.selectedRow)
    (found : buildColorsPanel[ui.selectedRow.toNat]? = some row) :
    Agrees input now ui row ↔ Matched input now ui row := by
  obtain ⟨index, place, rfl⟩ := colors_row found
  simp only [Matched, panel]
  by_cases first : index < 2
  · have pressed : enterRow ui = nextThemeColor index ui := by
      have which : index = 0 ∨ index = 1 := by omega
      rcases which with rfl | rfl
      · have selected : ui.selectedRow = 0 := by
          have : (0 : Nat) = ui.selectedRow.toNat := place
          omega
        simp [enterRow, panel, selected]
      · have selected : ui.selectedRow = 1 := by
          have : (1 : Nat) = ui.selectedRow.toNat := place
          omega
        simp [enterRow, panel, selected]
    exact iff_of_true (agrees_of_press menu focus pressed) first
  · have idle : enterRow ui = ui := by
      have zero : ui.selectedRow ≠ 0 := by omega
      have one : ui.selectedRow ≠ 1 := by omega
      simp [enterRow, panel, zero, one]
    refine iff_of_false ?_ first
    rw [agrees_iff menu focus, Serves, idle]
    exact fun changes => changes.1 rfl

/-- Enter on a row of a panel as it was built does what the row is for, just where the numbers
of the key handler do no harm. -/
theorem enter_agrees_iff (input : List UInt8) (now : Nat) (menu : ui.overlayMode = .menu)
    (focus : ui.focusPanel = true) (built : Built ui) (low : 0 ≤ ui.selectedRow)
    (below : ui.selectedRow < ui.rowCount) :
    ∃ row, (panelRows ui)[ui.selectedRow.toNat]? = some row ∧
      (Agrees input now ui row ↔ Matched input now ui row) := by
  obtain ⟨wide, rows⟩ := built_rows built low below
  obtain ⟨row, found⟩ : ∃ row, (panelRows ui)[ui.selectedRow.toNat]? = some row :=
    ⟨_, List.getElem?_eq_getElem (by omega)⟩
  refine ⟨row, found, ?_⟩
  cases panel : ui.activePanel <;> simp only [panelRows, panel] at found
  case link => exact link_agrees menu focus panel wide rows found
  case developer => exact developer_agrees menu focus panel found
  case colors => exact colors_agrees menu focus panel low found
  all_goals
    refine iff_of_true (agrees_of_press menu focus ?_) (by simp only [Matched, panel])
  case dashboard => exact (dashboard_pressed panel).at_row low found
  case video => exact (video_pressed panel).at_row low found
  case camera => exact (camera_pressed panel).at_row low found
  case osd => exact (osd_pressed panel).at_row low found
  case telemetry => exact (telemetry_pressed panel).at_row low found
  case recording => exact (recording_pressed panel).at_row low found
  case system => exact (system_pressed panel).at_row low found

/-- The menu with the camera panel in focus, and the last row selected. -/
def cameraRow : UiState :=
  { overlayMode := .menu, activePanel := .camera, focusPanel := true, selectedRow := 6
    rowCount := 7 }

theorem camera_row_agrees :
    ∃ row, (panelRows cameraRow)[cameraRow.selectedRow.toNat]? = some row ∧
      (Agrees [] 0 cameraRow row ↔ Matched [] 0 cameraRow row) :=
  enter_agrees_iff [] 0 rfl rfl rfl (by decide) (by decide)

/-- The menu with the link panel in focus, and the row selected that shows the modulation. -/
def modulationRow : UiState :=
  { overlayMode := .menu, activePanel := .link, focusPanel := true, selectedRow := 4
    rowCount := 18 }

/-- The key sends a channel width from a row that only shows something. -/
theorem modulation_row_sends :
    (panelRows modulationRow)[modulationRow.selectedRow.toNat]? = some .readOut ∧
      Built modulationRow ∧ modulationRow.selectedRow < modulationRow.rowCount ∧
      (∃ after, enter modulationRow = .ok after ∧
        after.sent = [ascii "mav set air WB_CHANNEL_W 40"]) ∧
      ¬ Agrees [] 0 modulationRow .readOut := by
  have sends : (enterRow modulationRow).sent = [ascii "mav set air WB_CHANNEL_W 40"] := by
    decide +kernel
  have entered : enter modulationRow = .ok (enterRow modulationRow) := enter_eq rfl rfl
  refine ⟨by decide, rfl, by decide, ⟨_, entered, sends⟩, ?_⟩
  rintro ⟨after, pressed, idle⟩
  obtain rfl := Except.ok.inj (entered.symm.trans pressed)
  have sent := congrArg (·.sent) idle
  rw [sends] at sent
  exact absurd sent (by decide)

end Glide.KeyboardAndPointer
