import Glide.BridgeConnection
import Glide.PreviewControl

/-! The controller's side of the control protocol: what each line of a client does.
The three control loops pass a line through the same chain of tests; only the loop
with the video preview keeps the map state as well. -/
namespace Glide.RuntimeControls
open Library AsciiText NumberText StringConversions MavlinkBridge BridgeConnection PreviewControl

inductive Setting where
  | fps
  | coords
  | compact
  | topbar
  | osd
  deriving DecidableEq, Repr

def Setting.name : Setting → List UInt8
  | .fps => ascii "fps"
  | .coords => ascii "coords"
  | .compact => ascii "compact"
  | .topbar => ascii "topbar"
  | .osd => ascii "osd"

/-- The values that "set" and "state" lines may carry. -/
def Setting.values : Setting → List (List UInt8)
  | .osd => [ascii "drone", ascii "rocket", ascii "rover", ascii "ship"]
  | _ => [ascii "0", ascii "1"]

def settings : List Setting := [.fps, .coords, .compact, .topbar, .osd]

/-- "get fps", "set fps 1" and "state fps 1", and the same for the other settings. -/
def getLine (setting : Setting) : List UInt8 := ascii "get " ++ setting.name

def setLine (setting : Setting) (value : List UInt8) : List UInt8 :=
  ascii "set " ++ setting.name ++ [32] ++ value

def stateLine (setting : Setting) (value : List UInt8) : List UInt8 :=
  ascii "state " ++ setting.name ++ [32] ++ value

structure RuntimeControlState where
  fpsEnabled : Bool := true
  coordinatesEnabled : Bool := true
  compactReadouts : Bool := false
  topBarEnabled : Bool := true
  osdLayout : List UInt8 := ascii "drone"
  deriving DecidableEq, Repr

def flag (enabled : Bool) : List UInt8 := if enabled then ascii "1" else ascii "0"

/-- The value of a setting as lines tell it. -/
def RuntimeControlState.value (state : RuntimeControlState) : Setting → List UInt8
  | .fps => flag state.fpsEnabled
  | .coords => flag state.coordinatesEnabled
  | .compact => flag state.compactReadouts
  | .topbar => flag state.topBarEnabled
  | .osd => state.osdLayout

/-- `event.line.back() == '1'` for the switches, `event.line.substr(8)` for the layout. -/
def RuntimeControlState.assign (state : RuntimeControlState) (value : List UInt8) :
    Setting → RuntimeControlState
  | .fps => { state with fpsEnabled := value = ascii "1" }
  | .coords => { state with coordinatesEnabled := value = ascii "1" }
  | .compact => { state with compactReadouts := value = ascii "1" }
  | .topbar => { state with topBarEnabled := value = ascii "1" }
  | .osd => { state with osdLayout := value }

structure Peer where
  address : List UInt8
  hostname : List UInt8
  videoPort : UInt16
  deriving DecidableEq, Repr

structure DiscoveryService where
  running : Bool := false
  peers : List Peer := []
  pendingLines : List (List UInt8) := []
  deriving DecidableEq, Repr

def startScan (discovery : DiscoveryService) : DiscoveryService :=
  if discovery.running then
    { discovery with
      peers := [], pendingLines := discovery.pendingLines ++ [ascii "state net scanning"] }
  else discovery

/-- What the handlers of a control loop work on. -/
structure Controller where
  state : RuntimeControlState := {}
  telemetry : Telemetry
  socket : Socket
  themes : ThemeFiles := {}
  discovery : DiscoveryService := {}

def Controller.send (controller : Controller) (messages : List Message) : Controller :=
  { controller with
    telemetry := { controller.telemetry with sent := controller.telemetry.sent ++ messages } }

/-- What the operating system returns while one line is handled: how a connection attempt
goes, and for each `ip` command its error, empty if there is none. -/
structure LineReply where
  connect : ConnectReply := .unresolved
  ip : Nat → List UInt8 := fun _ => []

def themeStateLine (platform : Platform) (files : ThemeFiles) (key : List UInt8) :
    Except CppException (List UInt8) := do
  return ascii "state theme " ++ key ++ [32] ++ rgbHex (← themeColor platform files key)

def sendThemeState (platform : Platform) (client : BitVec 32) (controller : Controller) :
    Except CppException Controller := do
  let lines ← themeKeys.mapM (themeStateLine platform controller.themes)
  return controller.send (lines.map (.to client))

def sendInitialControlState (platform : Platform) (client : BitVec 32) (controller : Controller) :
    Except CppException Controller :=
  sendThemeState platform client (controller.send
    ((settings.map fun setting => .to client (stateLine setting (controller.state.value setting))) ++
      [.to client (ascii "state telemetry " ++ controller.telemetry.connection)]))

def peerLine (peer : Peer) : List UInt8 :=
  ascii "state net peer " ++ peer.address ++ [32] ++ peer.hostname ++ [32] ++
    decimal peer.videoPort.toNat

def networkState (discovery : DiscoveryService) : List (List UInt8) :=
  ascii "state net idle" :: discovery.peers.map peerLine

def sendNetworkState (client : BitVec 32) (controller : Controller) : Controller :=
  controller.send ((networkState controller.discovery).map (.to client))

def configurePointToPoint (interface role : List UInt8) (ip : Nat → List UInt8) : List UInt8 :=
  let cidr := if role = ascii "air" then ascii "10.77.0.2/30" else ascii "10.77.0.1/30"
  if interface = [] then ascii "missing interface name"
  else if ip 0 ≠ [] then ip 0
  else if ip 1 ≠ [] then ip 1
  else if ip 2 ≠ [] then ip 2
  else ascii "ok " ++ interface ++ [32] ++ cidr

def handleNetworkLine (line : List UInt8) (client : BitVec 32) (ip : Nat → List UInt8)
    (controller : Controller) : Bool × Controller :=
  if line = ascii "get net" then (true, sendNetworkState client controller)
  else if line = ascii "net scan" then
    (true, { controller with discovery := startScan controller.discovery })
  else if (ascii "net p2p ").isPrefixOf line then
    let (_, stream) := nextWord line
    let (_, stream) := nextWord stream
    let (role, stream) := nextWord stream
    let (interface, _) := nextWord stream
    let result := configurePointToPoint interface role ip
    let controller := controller.send [.all (ascii "state net p2p " ++ result)]
    (true,
      if (ascii "ok ").isPrefixOf result then
        { controller with discovery := startScan controller.discovery }
      else controller)
  else (false, controller)

def setThemeCommand : List UInt8 := ascii "set theme "

/-- The value is converted without a check of its digits. -/
def handleThemeLine (platform : Platform) (line : List UInt8) (controller : Controller) :
    Except CppException (Bool × Controller) :=
  if line = ascii "get theme" then .ok (false, controller)
  else if !setThemeCommand.isPrefixOf line then .ok (false, controller)
  else
    match keyAndValue (line.drop setThemeCommand.length) with
    | none => .ok (true, controller)
    | some (key, value) =>
      if value.length = 6 then do
        let rgb ← stoulHex platform value
        let themes := setThemeColor controller.themes key (UInt32.ofNat rgb)
        let told ← themeStateLine platform themes key
        return (true, ({ controller with themes }).send [.all told])
      else .ok (true, controller)

/-- The numbers of a map line are read from the text behind the command; the map state
itself is left out. -/
def mapNumbers (line : List UInt8) : Except CppException (Option (List UInt8)) :=
  if line = ascii "ui map hidden" then .ok none
  else if (ascii "ui map state ").isPrefixOf line then do
    return some (← substr line 13)
  else .ok none

/-- The setting whose "get" line this is. -/
def getSetting (line : List UInt8) : Option Setting :=
  settings.find? fun setting => line = getLine setting

/-- The setting and the value of a "set" line. -/
def setSetting (line : List UInt8) : Option (Setting × List UInt8) :=
  settings.findSome? fun setting =>
    (setting.values.find? fun value => line = setLine setting value).map fun value => (setting, value)

inductive ControlLoop where
  | kmsVideoPreview
  | previewStack
  | kmsStack
  deriving DecidableEq, Repr

/-- The chain of tests for one line of a client. -/
def handleLine (platform : Platform) (loop : ControlLoop) (client : BitVec 32) (line : List UInt8)
    (reply : LineReply) (controller : Controller) : Except CppException Controller :=
  if (ascii "hello ").isPrefixOf line then do
    return sendNetworkState client (← sendInitialControlState platform client controller)
  else if let some setting := getSetting line then
    .ok (controller.send [.to client (stateLine setting (controller.state.value setting))])
  else if line = ascii "get theme" then sendThemeState platform client controller
  else if (handleTelemetryConnectionLine line client reply.connect controller.telemetry).1 then
    .ok { controller with
      telemetry :=
        (handleTelemetryConnectionLine line client reply.connect controller.telemetry).2 }
  else if (handleNetworkLine line client reply.ip controller).1 then
    .ok (handleNetworkLine line client reply.ip controller).2
  else if let some (setting, value) := setSetting line then
    let state := controller.state.assign value setting
    .ok (({ controller with state }).send [.all (stateLine setting (state.value setting))])
  else do
    let (handled, controller) ← handleThemeLine platform line controller
    if handled then return controller
    else if (ascii "mav ").isPrefixOf line then
      let endpoint := (handleActionLine platform ⟨controller.telemetry.bridge, controller.socket⟩ line).2
      return ({ controller with
        telemetry := { controller.telemetry with bridge := endpoint.bridge }
        socket := endpoint.socket }).send [.all line]
    else if (ascii "ui ").isPrefixOf line then
      if loop = .kmsVideoPreview then
        let _ ← mapNumbers line
      return controller.send [.all line]
    else if line = ascii "ping" then return controller.send [.to client (ascii "pong")]
    else return controller

/-- The platform of the devices. -/
def linux : Platform where
  longBits := 64
  nanFraction := fun _ => 0

/-- A controller whose bridge is not used. -/
def quietController : Controller where
  telemetry := { bridge := {}, listenPort := 14550, connection := ascii "Disconnected" }
  socket := { outcome := fun _ => .complete }

/-! ### What a line can do -/

/-- The line starts as the state line of a setting does. -/
def startsStateLine (setting : Setting) (line : List UInt8) : Bool :=
  (stateLine setting []).isPrefixOf line

theorem stateLine_append (setting : Setting) (value : List UInt8) :
    stateLine setting value = stateLine setting [] ++ value := by simp [stateLine]

theorem starts_only_own (setting other : Setting) (value : List UInt8)
    (starts : startsStateLine setting (stateLine other value) = true) : setting = other := by
  revert starts
  rw [stateLine_append]
  cases setting <;> cases other <;> simp [startsStateLine, stateLine, Setting.name, ascii]

/-- The message tells no other value for a setting than the state has. -/
def Truthful (state : RuntimeControlState) (message : Message) : Prop :=
  ∀ setting, startsStateLine setting message.line = true →
    message.line = stateLine setting (state.value setting)

theorem own_value_truthful (own : message.line = stateLine setting (state.value setting)) :
    Truthful state message := by
  intro other starts
  rw [own] at starts ⊢
  rw [starts_only_own other setting _ starts]

theorem other_line_truthful
    (other : ∀ setting, startsStateLine setting message.line = false) : Truthful state message := by
  intro setting starts
  rw [other setting] at starts
  exact absurd starts Bool.false_ne_true

theorem themeStateLine_eq (long : 24 ≤ platform.longBits) (files : ThemeFiles) (key : List UInt8) :
    themeStateLine platform files key =
      .ok (ascii "state theme " ++ key ++ [32] ++ rgbHex (shownColor files key)) := by
  rw [themeStateLine, themeColor_eq long]
  rfl

def themeMessages (client : BitVec 32) (files : ThemeFiles) : List Message :=
  themeKeys.map fun key =>
    .to client (ascii "state theme " ++ key ++ [32] ++ rgbHex (shownColor files key))

theorem sendThemeState_eq (long : 24 ≤ platform.longBits) (client : BitVec 32)
    (controller : Controller) : sendThemeState platform client controller =
      .ok (controller.send (themeMessages client controller.themes)) := by
  simp only [sendThemeState, themeKeys, List.mapM_cons, List.mapM_nil, themeStateLine_eq long]
  rfl

/-- What a new client is told. -/
def welcome (client : BitVec 32) (controller : Controller) : List Message :=
  (settings.map fun setting =>
      .to client (stateLine setting (controller.state.value setting))) ++
    [.to client (ascii "state telemetry " ++ controller.telemetry.connection)] ++
    themeMessages client controller.themes ++
    (networkState controller.discovery).map (.to client)

theorem send_nil (controller : Controller) : controller.send [] = controller := by
  simp [Controller.send]

theorem send_send (controller : Controller) (first second : List Message) :
    (controller.send first).send second = controller.send (first ++ second) := by
  simp [Controller.send]

theorem truthful_append {front back : List Message} (first : ∀ message ∈ front, Truthful state message)
    (second : ∀ message ∈ back, Truthful state message) :
    ∀ message ∈ front ++ back, Truthful state message := by
  intro message member
  rcases List.mem_append.mp member with member | member
  · exact first message member
  · exact second message member

theorem themeMessages_truthful (client : BitVec 32) (files : ThemeFiles) :
    ∀ message ∈ themeMessages client files, Truthful state message := by
  intro message member
  obtain ⟨key, _, rfl⟩ := List.mem_map.mp member
  apply other_line_truthful
  rintro (_ | _ | _ | _ | _) <;> rfl

theorem networkState_truthful (client : BitVec 32) (discovery : DiscoveryService) :
    ∀ message ∈ (networkState discovery).map (Message.to client), Truthful state message := by
  intro message member
  obtain ⟨line, told, rfl⟩ := List.mem_map.mp member
  apply other_line_truthful
  rcases List.mem_cons.mp told with rfl | told
  · rintro (_ | _ | _ | _ | _) <;> rfl
  · obtain ⟨peer, _, rfl⟩ := List.mem_map.mp told
    rintro (_ | _ | _ | _ | _) <;> rfl

theorem welcome_truthful (client : BitVec 32) (controller : Controller) :
    ∀ message ∈ welcome client controller, Truthful controller.state message := by
  refine truthful_append (truthful_append (truthful_append ?_ ?_) ?_) ?_
  · intro message member
    obtain ⟨setting, _, rfl⟩ := List.mem_map.mp member
    exact own_value_truthful rfl
  · intro message member
    rw [List.mem_singleton.mp member]
    apply other_line_truthful
    rintro (_ | _ | _ | _ | _) <;> rfl
  · exact themeMessages_truthful client controller.themes
  · exact networkState_truthful client controller.discovery

/-- What becomes of a line that sets no setting. -/
inductive Outcome (platform : Platform) (client : BitVec 32) (line : List UInt8)
    (reply : LineReply) (controller : Controller) : Except CppException Controller → Prop
  /-- Clients are told something, which is true of the settings. -/
  | told (messages : List Message) (discovery : DiscoveryService)
      (truthful : ∀ message ∈ messages, Truthful controller.state message)
      (welcomed : (ascii "hello ").isPrefixOf line = true → messages = welcome client controller) :
      Outcome platform client line reply controller
        (.ok ({ controller with discovery }.send messages))
  | connection (ungreeted : (ascii "hello ").isPrefixOf line = false)
      (taken : (handleTelemetryConnectionLine line client reply.connect controller.telemetry).1 = true) :
      Outcome platform client line reply controller (.ok { controller with
        telemetry :=
          (handleTelemetryConnectionLine line client reply.connect controller.telemetry).2 })
  | theme (ungreeted : (ascii "hello ").isPrefixOf line = false)
      (taken : handleThemeLine platform line controller = .ok (true, after)) :
      Outcome platform client line reply controller (.ok after)
  | failed (thrown : handleThemeLine platform line controller = .error exception) :
      Outcome platform client line reply controller (.error exception)
  | action (start : (ascii "mav ").isPrefixOf line = true) (endpoint : Endpoint)
      (sent : (handleActionLine platform ⟨controller.telemetry.bridge, controller.socket⟩ line).2 =
        endpoint) :
      Outcome platform client line reply controller (.ok (({ controller with
        telemetry := { controller.telemetry with bridge := endpoint.bridge }
        socket := endpoint.socket }).send [.all line]))

theorem handleThemeLine_passes (platform : Platform) (line : List UInt8) (controller : Controller) :
    handleThemeLine platform line controller = .ok (false, controller) ∨
    (∃ after, handleThemeLine platform line controller = .ok (true, after)) ∨
    ∃ exception, handleThemeLine platform line controller = .error exception := by
  unfold handleThemeLine
  split
  · exact .inl rfl
  · split
    · exact .inl rfl
    · split
      · exact .inr (.inl ⟨_, rfl⟩)
      · split
        · rename_i key value _ _
          cases stoulHex platform value with
          | error exception => exact .inr (.inr ⟨_, rfl⟩)
          | ok rgb =>
            dsimp only [bind, Except.bind]
            cases themeStateLine platform (setThemeColor controller.themes key (UInt32.ofNat rgb)) key with
            | error exception => exact .inr (.inr ⟨_, rfl⟩)
            | ok told => exact .inr (.inl ⟨_, rfl⟩)
        · exact .inr (.inl ⟨_, rfl⟩)

/-- A theme line that goes through changes a color and tells it. -/
theorem handleThemeLine_taken (taken : handleThemeLine platform line controller = .ok (true, after)) :
    ∃ themes messages, after = { controller with themes }.send messages ∧
      ∀ message ∈ messages, Truthful controller.state message := by
  unfold handleThemeLine at taken
  split at taken
  · cases taken
  · split at taken
    · cases taken
    · split at taken
      · cases taken
        exact ⟨controller.themes, [], (send_nil controller).symm,
          fun message member => absurd member List.not_mem_nil⟩
      · split at taken
        · rename_i key value _ _
          cases converted : stoulHex platform value with
          | error exception => simp [converted, bind, Except.bind] at taken
          | ok rgb =>
            rw [converted] at taken
            dsimp only [bind, Except.bind] at taken
            cases read : themeStateLine platform
                (setThemeColor controller.themes key (UInt32.ofNat rgb)) key with
            | error exception => simp [read] at taken
            | ok told =>
              rw [read] at taken
              cases taken
              refine ⟨_, _, rfl, ?_⟩
              intro message member
              rw [List.mem_singleton.mp member]
              obtain ⟨color, rfl⟩ : ∃ color, told = ascii "state theme " ++ key ++ [32] ++ color := by
                unfold themeStateLine at read
                cases shown : PreviewControl.themeColor platform
                    (setThemeColor controller.themes key (UInt32.ofNat rgb)) key with
                | error exception => simp [shown, bind, Except.bind] at read
                | ok color =>
                  rw [shown] at read
                  cases read
                  exact ⟨_, rfl⟩
              apply other_line_truthful
              rintro (_ | _ | _ | _ | _) <;> rfl
        · cases taken
          exact ⟨controller.themes, [], (send_nil controller).symm,
            fun message member => absurd member List.not_mem_nil⟩

theorem handleNetworkLine_told (line : List UInt8) (client : BitVec 32) (ip : Nat → List UInt8)
    (controller : Controller) : ∃ messages discovery,
      (handleNetworkLine line client ip controller).2 = { controller with discovery }.send messages ∧
        ∀ message ∈ messages, Truthful state message := by
  unfold handleNetworkLine
  split
  · exact ⟨_, controller.discovery, rfl, networkState_truthful client controller.discovery⟩
  · split
    · refine ⟨[], startScan controller.discovery, ?_, fun message member => absurd member List.not_mem_nil⟩
      simp [Controller.send]
    · split
      · dsimp only
        generalize configurePointToPoint _ _ ip = result
        have told : ∀ message ∈ [Message.all (ascii "state net p2p " ++ result)],
            Truthful state message := by
          intro message member
          rw [List.mem_singleton.mp member]
          apply other_line_truthful
          rintro (_ | _ | _ | _ | _) <;> rfl
        split
        · exact ⟨_, startScan controller.discovery, rfl, told⟩
        · exact ⟨_, controller.discovery, rfl, told⟩
      · refine ⟨[], controller.discovery, ?_, fun message member => absurd member List.not_mem_nil⟩
        simp [Controller.send]

theorem setSetting_setLine (allowed : value ∈ Setting.values setting) :
    setSetting (setLine setting value) = some (setting, value) := by
  revert value
  cases setting <;> decide

theorem setSetting_some (found : setSetting line = some (setting, value)) :
    value ∈ setting.values ∧ line = setLine setting value := by
  obtain ⟨other, _, found⟩ := List.exists_of_findSome?_eq_some found
  obtain ⟨allowed, found, same⟩ := Option.map_eq_some_iff.mp found
  cases same
  have same := List.find?_some found
  exact ⟨List.mem_of_find?_eq_some found, of_decide_eq_true same⟩

theorem handleLine_set (platform : Platform) (loop : ControlLoop) (client : BitVec 32)
    (reply : LineReply) (controller : Controller) (allowed : value ∈ Setting.values setting) :
    handleLine platform loop client (setLine setting value) reply controller =
      .ok (({ controller with state := controller.state.assign value setting }).send
        [.all (stateLine setting ((controller.state.assign value setting).value setting))]) := by
  have found := setSetting_setLine allowed
  have hello : ¬(ascii "hello ").isPrefixOf (setLine setting value) = true := by
    cases setting <;> exact Bool.false_ne_true
  have got : getSetting (setLine setting value) = none := by
    revert value
    cases setting <;> decide
  have theme : setLine setting value ≠ ascii "get theme" := by
    cases setting <;> simp [setLine, Setting.name, ascii]
  have telemetry : (handleTelemetryConnectionLine (setLine setting value) client reply.connect
      controller.telemetry).1 = false := by
    cases setting <;> simp [handleTelemetryConnectionLine, setLine, Setting.name, ascii]
  have network : (handleNetworkLine (setLine setting value) client reply.ip controller).1 = false := by
    cases setting <;> simp [handleNetworkLine, setLine, Setting.name, ascii]
  unfold handleLine
  rw [if_neg hello, got]
  dsimp only
  rw [if_neg theme, telemetry, network, found]
  rfl

theorem greeting_eq (long : 24 ≤ platform.longBits) (client : BitVec 32) (controller : Controller) :
    (do return sendNetworkState client (← sendInitialControlState platform client controller)) =
      (Except.ok (controller.send (welcome client controller)) : Except CppException Controller) := by
  rw [sendInitialControlState, sendThemeState_eq long, send_send]
  exact congrArg Except.ok (send_send _ _ _)

/-- The prefix that selects a map line is as long as what is cut off. -/
theorem mapNumbers_ok (line : List UInt8) : ∃ numbers, mapNumbers line = .ok numbers := by
  unfold mapNumbers
  split
  · exact ⟨_, rfl⟩
  · split
    · rename_i start
      rw [show substr line 13 = _ from substr_when_prefixed start]
      exact ⟨_, rfl⟩
    · exact ⟨_, rfl⟩

theorem handleLine_outcome (long : 24 ≤ platform.longBits) (loop : ControlLoop)
    (client : BitVec 32) (reply : LineReply) (controller : Controller)
    (unset : setSetting line = none) : Outcome platform client line reply controller
      (handleLine platform loop client line reply controller) := by
  have answered (discovery : DiscoveryService) (messages : List Message)
      (truthful : ∀ message ∈ messages, Truthful controller.state message)
      (other : ¬(ascii "hello ").isPrefixOf line = true) :
      Outcome platform client line reply controller
        (.ok ({ controller with discovery }.send messages)) :=
    .told messages discovery truthful fun hello => absurd hello other
  unfold handleLine
  split
  case isTrue hello =>
    rw [greeting_eq long]
    exact .told (welcome client controller) controller.discovery
      (welcome_truthful client controller) fun _ => rfl
  case isFalse hello =>
  split
  case h_1 setting _ =>
    refine answered controller.discovery _ ?_ hello
    intro message member
    rw [List.mem_singleton.mp member]
    exact own_value_truthful rfl
  case h_2 =>
  split
  · rw [sendThemeState_eq long]
    exact answered controller.discovery _ (themeMessages_truthful client controller.themes) hello
  · split
    · rename_i taken
      exact .connection (Bool.eq_false_of_not_eq_true hello) taken
    · split
      · obtain ⟨messages, discovery, same, truthful⟩ :=
          handleNetworkLine_told line client reply.ip controller
        rw [same]
        exact answered discovery messages truthful hello
      · rw [unset]
        dsimp only
        obtain passed | ⟨after, taken⟩ | ⟨exception, thrown⟩ :=
          handleThemeLine_passes platform line controller
        · rw [passed]
          dsimp only [bind, Except.bind]
          rw [if_neg Bool.false_ne_true]
          split
          case isTrue start => exact .action start _ rfl
          case isFalse =>
          split
          case isTrue start =>
            have relayed : Outcome platform client line reply controller
                (.ok (controller.send [.all line])) := by
              refine answered controller.discovery _ ?_ hello
              intro message member
              rw [List.mem_singleton.mp member]
              apply other_line_truthful
              obtain ⟨rest, rfl⟩ := List.isPrefixOf_iff_prefix.mp start
              rintro (_ | _ | _ | _ | _) <;> rfl
            split
            · obtain ⟨numbers, read⟩ := mapNumbers_ok line
              rw [read]
              exact relayed
            · exact relayed
          case isFalse =>
          split
          · refine answered controller.discovery _ ?_ hello
            intro message member
            rw [List.mem_singleton.mp member]
            apply other_line_truthful
            rintro (_ | _ | _ | _ | _) <;> rfl
          · have silent : Outcome platform client line reply controller
                (.ok (controller.send [])) := answered controller.discovery [] (by simp) hello
            rwa [send_nil] at silent
        · rw [taken]
          exact .theme (Bool.eq_false_of_not_eq_true hello) taken
        · rw [thrown]
          exact .failed thrown

/-- A line sets a setting, or has another outcome. -/
theorem handleLine_cases (long : 24 ≤ platform.longBits) (loop : ControlLoop)
    (client : BitVec 32) (line : List UInt8) (reply : LineReply) (controller : Controller) :
    (∃ setting value, value ∈ setting.values ∧ line = setLine setting value ∧
      handleLine platform loop client line reply controller =
        .ok (({ controller with state := controller.state.assign value setting }).send
          [.all (stateLine setting ((controller.state.assign value setting).value setting))])) ∨
    (setSetting line = none ∧ Outcome platform client line reply controller
      (handleLine platform loop client line reply controller)) := by
  cases found : setSetting line with
  | none => exact .inr ⟨rfl, handleLine_outcome long loop client reply controller found⟩
  | some pair =>
    obtain ⟨setting, value⟩ := pair
    obtain ⟨allowed, rfl⟩ := setSetting_some found
    exact .inl ⟨setting, value, allowed, rfl,
      handleLine_set platform loop client reply controller allowed⟩

end Glide.RuntimeControls
