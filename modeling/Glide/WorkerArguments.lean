import Glide.Library.OptionScanning
import Glide.WindowsArguments

/-! How the controller tells its workers what they are to do: it writes their settings as arguments,
and each of them reads its own. -/
namespace Glide.WorkerArguments
open Library AsciiText NumberText StringConversions DoubleText OptionScanning CommandLines
  WindowsArguments

/-- A `long` has at least 32 bits everywhere. -/
structure Build where
  platform : Platform
  windows : Bool
  wide : 32 ≤ platform.longBits

/-- `default_socket_path` -/
def Build.socketPath (build : Build) : List UInt8 :=
  if build.windows then ascii "127.0.0.1:32145" else ascii "/tmp/openhd-glide.sock"

/-! ### What the controller writes -/

/-- `Options` of the controller, as far as its workers are told of them. The opacity is the text
that `std::to_string` writes for it. -/
structure ControllerOptions where
  kmsStack : Bool
  previewWidth : UInt32
  flowHeight : UInt32
  displayRefreshHz : UInt32
  uiWidth : UInt32
  uiHeight : UInt32
  viewUdpPort : UInt16
  viewUdpCodec : Argument
  uiOpacity : Argument
  previewX : Int32
  previewY : Int32
  ipcSocket : Argument
  verticalStack : Bool
  uiBufferPath : Argument

def previewArgs (build : Build) (executable : List UInt8) (options : ControllerOptions)
    (ui : Bool) : List (List UInt8) :=
  let y := if ui || !options.verticalStack then options.previewY
    else options.previewY + options.uiHeight.toInt32
  let height := if ui then options.uiHeight else options.flowHeight
  let width := if ui then options.uiWidth else options.previewWidth
  if build.windows && ui then
    [executable, ascii "--buffer", ascii "--width", decimal options.previewWidth.toNat,
      ascii "--height", decimal options.flowHeight.toNat, ascii "--buffer-path",
      options.uiBufferPath.val, ascii "--ipc-socket", options.ipcSocket.val]
  else
    [executable, ascii "--preview", ascii "--width", decimal width.toNat, ascii "--height",
      decimal height.toNat, ascii "--x", signedDecimal options.previewX.toInt, ascii "--y",
      signedDecimal y.toInt, ascii "--borderless", ascii "--ipc-socket", options.ipcSocket.val] ++
    if ui then
      [ascii "--always-on-top"] ++
      if build.windows then [ascii "--opacity", ascii "1.0"]
      else [ascii "--transparent-clear", ascii "--opacity", options.uiOpacity.val]
    else
      [ascii "--udp-video", ascii "--udp-port", decimal options.viewUdpPort.toNat,
        ascii "--secondary-udp-port", decimal (options.viewUdpPort + 1).toNat, ascii "--udp-codec",
        options.viewUdpCodec.val] ++
      if build.windows then [ascii "--ui-buffer-path", options.uiBufferPath.val] else []

def viewArgs (executable : List UInt8) (options : ControllerOptions) : List (List UInt8) :=
  [executable, ascii "--stay-alive", ascii "--ipc-socket", options.ipcSocket.val] ++
  if options.kmsStack then
    [ascii "--udp-video", ascii "--udp-port", decimal options.viewUdpPort.toNat,
      ascii "--udp-codec", options.viewUdpCodec.val]
  else []

def kmsFlowArgs (executable : List UInt8) (options : ControllerOptions) : List (List UInt8) :=
  [executable, ascii "--kms", ascii "--stay-alive", ascii "--width",
    decimal options.previewWidth.toNat, ascii "--height", decimal options.flowHeight.toNat,
    ascii "--ipc-socket", options.ipcSocket.val] ++
  if options.displayRefreshHz ≠ 0 then
    [ascii "--display-refresh-hz", decimal options.displayRefreshHz.toNat]
  else []

def headlessUiArgs (executable : List UInt8) (options : ControllerOptions) : List (List UInt8) :=
  [executable, ascii "--headless", ascii "--ipc-socket", options.ipcSocket.val]

/-! ### What the workers read -/

section Rules
variable (build : Build)

def textRule (update : List UInt8 → σ → σ) : Rule σ :=
  .value fun text options => .ok (update text options)

def numberRule (read : List UInt8 → Except CppException ν) (update : ν → σ → σ) : Rule σ :=
  .value fun text options => do
    let number ← read text
    return update number options

/-- A `std::uint32_t` of `std::stoul`. -/
def unsignedRule (update : UInt32 → σ → σ) : Rule σ :=
  numberRule (stoul build.platform) fun number => update (UInt32.ofNat number)

/-- A `std::uint16_t` of `std::stoul`. -/
def portRule (update : UInt16 → σ → σ) : Rule σ :=
  numberRule (stoul build.platform) fun number => update (UInt16.ofNat number)

def intRule (update : Int32 → σ → σ) : Rule σ :=
  numberRule stoi fun number => update (Int32.ofInt number)

structure ViewOptions where
  ipcSocket : List UInt8
  udpPort : UInt16 := 5600
  planeId : Option Int32 := none
  connectorId : Option Int32 := none
  stayAlive : Bool := false
  udpVideo : Bool := false
  display : Bool := false
  udpCodec : List UInt8 := ascii "h264"

def viewRules : Rules ViewOptions := fun argument =>
  [(ascii "--ipc-socket", textRule fun text options => { options with ipcSocket := text }),
    (ascii "--stay-alive", .flag fun options => { options with stayAlive := true }),
    (ascii "--udp-video", .flag fun options => { options with udpVideo := true }),
    (ascii "--display", .flag fun options => { options with display := true, udpVideo := true }),
    (ascii "--udp-codec", textRule fun text options =>
      { options with udpCodec := text.map lowerCase }),
    (ascii "--udp-port", portRule build fun port options =>
      { options with udpPort := port, udpVideo := true }),
    (ascii "--plane-id", intRule fun id options =>
      { options with planeId := some id, udpVideo := true }),
    (ascii "--connector-id", intRule fun id options =>
      { options with connectorId := some id, udpVideo := true })].lookup argument

/-- `parse_options` of glide-view. -/
def parseViewOptions (arguments : List (List UInt8)) : Except CppException ViewOptions :=
  scan (viewRules build) (arguments.drop 1) { ipcSocket := build.socketPath }

structure SurfaceSize where
  width : UInt32
  height : UInt32
  deriving DecidableEq

def surfaceRules : Rules SurfaceSize := fun argument =>
  [(ascii "--width", unsignedRule build fun width surface => { surface with width := width }),
    (ascii "--height", unsignedRule build fun height surface =>
      { surface with height := height })].lookup argument

/-- `parse_surface_size`, which knows no other options: what follows them is an argument for it. -/
def parseSurfaceSize (arguments : List (List UInt8)) : Except CppException SurfaceSize :=
  scan (surfaceRules build) (arguments.drop 1) ⟨1920, 1080⟩

structure FlowOptions where
  surface : SurfaceSize
  x : Int32 := 0
  y : Int32 := 0
  renderGles : Bool := false
  preview : Bool := false
  kms : Bool := false
  stayAlive : Bool := false
  positioned : Bool := false
  borderless : Bool := false
  udpVideo : Bool := false
  udpPort : UInt16 := 5600
  secondaryUdpPort : UInt16 := 5601
  udpCodec : List UInt8 := ascii "h264"
  secondaryUdpCodec : List UInt8 := []
  uiBufferPath : List UInt8 := []
  displayRefreshHz : UInt32 := 0
  ipcSocket : List UInt8
  deriving DecidableEq

def flowRules : Rules FlowOptions := fun argument =>
  [(ascii "--render-gles", .flag fun options => { options with renderGles := true }),
    (ascii "--preview", .flag fun options => { options with preview := true, renderGles := true }),
    (ascii "--kms", .flag fun options => { options with kms := true }),
    (ascii "--kmd", .flag fun options => { options with kms := true }),
    (ascii "--stay-alive", .flag fun options => { options with stayAlive := true }),
    (ascii "--x", intRule fun x options => { options with x := x, positioned := true }),
    (ascii "--y", intRule fun y options => { options with y := y, positioned := true }),
    (ascii "--borderless", .flag fun options => { options with borderless := true }),
    (ascii "--udp-video", .flag fun options => { options with udpVideo := true }),
    (ascii "--udp-port", portRule build fun port options =>
      { options with udpPort := port, udpVideo := true }),
    (ascii "--secondary-udp-port", portRule build fun port options =>
      { options with secondaryUdpPort := port, udpVideo := true }),
    (ascii "--udp-codec", textRule fun text options =>
      { options with udpCodec := text, udpVideo := true }),
    (ascii "--secondary-udp-codec", textRule fun text options =>
      { options with secondaryUdpCodec := text }),
    (ascii "--ui-buffer-path", textRule fun text options => { options with uiBufferPath := text }),
    (ascii "--display-refresh-hz", unsignedRule build fun refresh options =>
      { options with displayRefreshHz := refresh }),
    (ascii "--ipc-socket", textRule fun text options =>
      { options with ipcSocket := text })].lookup argument

/-- `parse_options` of glide-flow. -/
def parseFlowOptions (arguments : List (List UInt8)) : Except CppException FlowOptions := do
  let surface ← parseSurfaceSize build arguments
  scan (flowRules build) (arguments.drop 1) { surface := surface, ipcSocket := build.socketPath }

structure UiOptions (opacity : Type) where
  width : UInt32 := 760
  height : UInt32 := 720
  x : Int32 := 0
  y : Int32 := 0
  opacity : opacity
  preview : Bool := false
  positioned : Bool := false
  borderless : Bool := false
  alwaysOnTop : Bool := false
  transparentClear : Bool := false
  headless : Bool := false
  buffer : Bool := false
  bufferPath : List UInt8 := ascii "/tmp/openhd-glide-ui.argb"
  ipcSocket : List UInt8

/-- The opacity is read by `std::stof` and clamped. -/
def uiRules {opacity : Type} (readOpacity : List UInt8 → Except CppException opacity) :
    Rules (UiOptions opacity) := fun argument =>
  [(ascii "--preview", .flag fun options => { options with preview := true }),
    (ascii "--headless", .flag fun options => { options with headless := true }),
    (ascii "--device", .flag fun options => { options with headless := true }),
    (ascii "--width", unsignedRule build fun width options => { options with width := width }),
    (ascii "--height", unsignedRule build fun height options => { options with height := height }),
    (ascii "--x", intRule fun x options => { options with x := x, positioned := true }),
    (ascii "--y", intRule fun y options => { options with y := y, positioned := true }),
    (ascii "--opacity", .value fun text options => do
      let opacity ← readOpacity text
      return { options with opacity := opacity }),
    (ascii "--borderless", .flag fun options => { options with borderless := true }),
    (ascii "--always-on-top", .flag fun options => { options with alwaysOnTop := true }),
    (ascii "--transparent-clear", .flag fun options => { options with transparentClear := true }),
    (ascii "--buffer", .flag fun options => { options with buffer := true }),
    (ascii "--buffer-path", textRule fun text options => { options with bufferPath := text }),
    (ascii "--ipc-socket", textRule fun text options =>
      { options with ipcSocket := text })].lookup argument

/-- `parse_options` of glide-ui. -/
def parseUiOptions {opacity : Type} (readOpacity : List UInt8 → Except CppException opacity)
    (full : opacity) (arguments : List (List UInt8)) : Except CppException (UiOptions opacity) :=
  scan (uiRules build readOpacity) (arguments.drop 1)
    { opacity := full, ipcSocket := build.socketPath }

end Rules

/-! ### One argument -/

section Steps
variable {rules : Rules σ} {state : σ} {build : Build}

theorem scan_text {update : List UInt8 → σ → σ} (known : rules name = some (textRule update))
    (text : List UInt8) (rest : List (List UInt8)) :
    scan rules (name :: text :: rest) state = scan rules rest (update text state) :=
  scan_value known text rest

theorem scan_port {update : UInt16 → σ → σ}
    (known : rules name = some (portRule build update)) (port : UInt16)
    (rest : List (List UInt8)) :
    scan rules (name :: decimal port.toNat :: rest) state =
      scan rules rest (update port state) := by
  have small : port.toNat < 2 ^ build.platform.longBits :=
    Nat.lt_of_lt_of_le port.toNat_lt
      (Nat.pow_le_pow_right (by decide) (Nat.le_trans (by decide) build.wide))
  refine (scan_value known _ rest).trans ?_
  rw [stoul_decimal _ small]
  exact congrArg (fun port => scan rules rest (update port state)) UInt16.ofNat_toNat

theorem scan_unsigned {update : UInt32 → σ → σ}
    (known : rules name = some (unsignedRule build update)) (number : UInt32)
    (rest : List (List UInt8)) :
    scan rules (name :: decimal number.toNat :: rest) state =
      scan rules rest (update number state) := by
  have small : number.toNat < 2 ^ build.platform.longBits :=
    Nat.lt_of_lt_of_le number.toNat_lt (Nat.pow_le_pow_right (by decide) build.wide)
  refine (scan_value known _ rest).trans ?_
  rw [stoul_decimal _ small]
  exact congrArg (fun number => scan rules rest (update number state)) UInt32.ofNat_toNat

theorem scan_int {update : Int32 → σ → σ} (known : rules name = some (intRule update))
    (number : Int32) (rest : List (List UInt8)) :
    scan rules (name :: signedDecimal number.toInt :: rest) state =
      scan rules rest (update number state) := by
  refine (scan_value known _ rest).trans ?_
  rw [stoi_written _ number.le_toInt number.toInt_lt]
  exact congrArg (fun number => scan rules rest (update number state)) number.ofInt_toInt

end Steps

def viewSettings (options : ControllerOptions) : ViewOptions where
  ipcSocket := options.ipcSocket.val
  stayAlive := true
  udpVideo := options.kmsStack
  udpPort := if options.kmsStack then options.viewUdpPort else 5600
  udpCodec :=
    if options.kmsStack then options.viewUdpCodec.val.map lowerCase else ascii "h264"

/-- Whatever the socket and the codec are, glide-view reads what the controller was told. -/
theorem view_settings (build : Build) (executable : List UInt8) (options : ControllerOptions) :
    parseViewOptions build (viewArgs executable options) = .ok (viewSettings options) := by
  have alive : viewRules build (ascii "--stay-alive") = some (.flag _) := rfl
  have socket : viewRules build (ascii "--ipc-socket") = some (textRule _) := rfl
  have video : viewRules build (ascii "--udp-video") = some (.flag _) := rfl
  have port : viewRules build (ascii "--udp-port") = some (portRule build _) := rfl
  have codec : viewRules build (ascii "--udp-codec") = some (textRule _) := rfl
  unfold parseViewOptions viewArgs viewSettings
  simp only [List.cons_append, List.drop_succ_cons, List.drop_zero, List.nil_append]
  rw [scan_flag alive, scan_text socket]
  cases options.kmsStack with
  | false => rfl
  | true =>
    rw [if_pos rfl, scan_flag video, scan_port port, scan_text codec]
    rfl

/-! ### glide-flow, which reads its arguments twice -/

/-- An option of `parse_surface_size`. -/
def SurfaceOption (text : List UInt8) : Prop := text = ascii "--width" ∨ text = ascii "--height"

instance : Decidable (SurfaceOption text) := inferInstanceAs (Decidable (_ ∨ _))

theorem flow_number : flowRules build (decimal number) = none :=
  lookup_plain rfl (decimal_plain number)

theorem surface_number : surfaceRules build (decimal number) = none :=
  lookup_plain rfl (decimal_plain number)

theorem surface_signed : surfaceRules build (signedDecimal number) = none :=
  lookup_plain rfl (signedDecimal_plain number)

theorem surface_unknown {build : Build} (plain : ¬SurfaceOption text) :
    surfaceRules build text = none := by
  have other := not_or.mp plain
  unfold surfaceRules
  rw [List.lookup_cons, beq_false_of_ne other.1, List.lookup_cons, beq_false_of_ne other.2]
  rfl

/-- It takes the option behind it for its number, and there is none in it. -/
theorem surface_text {build : Build} {state : SurfaceSize}
    (worded : stoul build.platform option = .error .invalidArgument) (text : List UInt8)
    (rest : List (List UInt8)) :
    scan (surfaceRules build) (text :: option :: rest) state =
      if SurfaceOption text then .error .invalidArgument
      else scan (surfaceRules build) (option :: rest) state := by
  have width : surfaceRules build (ascii "--width") = some (unsignedRule build _) := rfl
  have height : surfaceRules build (ascii "--height") = some (unsignedRule build _) := rfl
  split
  · rename_i taken
    rcases taken with rfl | rfl
    · rw [scan_value width, worded]
      rfl
    · rw [scan_value height, worded]
      rfl
  · exact scan_other (surface_unknown ‹_›) _

theorem surface_last {build : Build} {state : SurfaceSize} (text : List UInt8) :
    scan (surfaceRules build) [text] state = .ok state := by
  refine scan_last fun update known => ?_
  by_cases taken : SurfaceOption text
  · rcases taken with rfl | rfl <;> cases known
  · rw [surface_unknown taken] at known
    cases known

section Settings
variable {build : Build} (executable : List UInt8) (options : ControllerOptions)

def kmsFlowSettings (options : ControllerOptions) : FlowOptions where
  surface := ⟨options.previewWidth, options.flowHeight⟩
  kms := true
  stayAlive := true
  displayRefreshHz := options.displayRefreshHz
  ipcSocket := options.ipcSocket.val

theorem kms_flow_read : scan (flowRules build) ((kmsFlowArgs executable options).drop 1)
    { surface := ⟨options.previewWidth, options.flowHeight⟩, ipcSocket := build.socketPath } =
      .ok (kmsFlowSettings options) := by
  have kms : flowRules build (ascii "--kms") = some (.flag _) := rfl
  have alive : flowRules build (ascii "--stay-alive") = some (.flag _) := rfl
  have width : flowRules build (ascii "--width") = none := rfl
  have height : flowRules build (ascii "--height") = none := rfl
  have socket : flowRules build (ascii "--ipc-socket") = some (textRule _) := rfl
  have refresh : flowRules build (ascii "--display-refresh-hz") = some (unsignedRule build _) := rfl
  unfold kmsFlowArgs kmsFlowSettings
  simp only [List.cons_append, List.drop_succ_cons, List.drop_zero, List.nil_append]
  rw [scan_flag kms, scan_flag alive, scan_other width, scan_other flow_number,
    scan_other height, scan_other flow_number, scan_text socket]
  by_cases asked : options.displayRefreshHz ≠ 0
  · rw [if_pos asked, scan_unsigned refresh]
    rfl
  · rw [if_neg asked, not_not.mp asked]
    rfl

theorem kms_surface_read :
    parseSurfaceSize build (kmsFlowArgs executable options) =
      if options.displayRefreshHz ≠ 0 ∧ SurfaceOption options.ipcSocket.val then
        .error .invalidArgument
      else .ok ⟨options.previewWidth, options.flowHeight⟩ := by
  have kms : surfaceRules build (ascii "--kms") = none := rfl
  have alive : surfaceRules build (ascii "--stay-alive") = none := rfl
  have width : surfaceRules build (ascii "--width") = some (unsignedRule build _) := rfl
  have height : surfaceRules build (ascii "--height") = some (unsignedRule build _) := rfl
  have socket : surfaceRules build (ascii "--ipc-socket") = none := rfl
  have refresh : surfaceRules build (ascii "--display-refresh-hz") = none := rfl
  unfold parseSurfaceSize kmsFlowArgs
  simp only [List.cons_append, List.drop_succ_cons, List.drop_zero, List.nil_append]
  rw [scan_other kms, scan_other alive, scan_unsigned width, scan_unsigned height,
    scan_other socket]
  by_cases asked : options.displayRefreshHz ≠ 0
  · rw [if_pos asked, surface_text rfl, scan_other refresh, scan_other surface_number]
    simp only [asked, true_and, ne_eq, not_false_eq_true]
    rfl
  · rw [if_neg asked, if_neg fun both => asked both.1]
    exact surface_last _

theorem kms_flow_settings : parseFlowOptions build (kmsFlowArgs executable options) =
    if options.displayRefreshHz ≠ 0 ∧ SurfaceOption options.ipcSocket.val then
      .error .invalidArgument
    else .ok (kmsFlowSettings options) := by
  unfold parseFlowOptions
  rw [kms_surface_read]
  split
  · rfl
  · exact kms_flow_read executable options

/-- Without the name of the buffer, which only Windows gives. -/
def previewFlowSettings (options : ControllerOptions) : FlowOptions where
  surface := ⟨options.previewWidth, options.flowHeight⟩
  x := options.previewX
  y := if options.verticalStack then options.previewY + options.uiHeight.toInt32
    else options.previewY
  renderGles := true
  preview := true
  positioned := true
  borderless := true
  udpVideo := true
  udpPort := options.viewUdpPort
  secondaryUdpPort := options.viewUdpPort + 1
  udpCodec := options.viewUdpCodec.val
  ipcSocket := options.ipcSocket.val

/-- What the controller writes for glide-flow behind its program, but for the name of the buffer. -/
def previewFlowArguments (options : ControllerOptions) : List (List UInt8) :=
  [ascii "--preview", ascii "--width", decimal options.previewWidth.toNat, ascii "--height",
    decimal options.flowHeight.toNat, ascii "--x", signedDecimal options.previewX.toInt,
    ascii "--y", signedDecimal (previewFlowSettings options).y.toInt, ascii "--borderless",
    ascii "--ipc-socket", options.ipcSocket.val, ascii "--udp-video", ascii "--udp-port",
    decimal options.viewUdpPort.toNat, ascii "--secondary-udp-port",
    decimal (options.viewUdpPort + 1).toNat, ascii "--udp-codec", options.viewUdpCodec.val]

theorem previewArgs_flow :
    previewArgs build executable options false = executable :: previewFlowArguments options ++
      if build.windows then [ascii "--ui-buffer-path", options.uiBufferPath.val] else [] := by
  unfold previewArgs previewFlowArguments previewFlowSettings
  cases options.verticalStack <;>
    simp only [Bool.and_false, Bool.false_or, Bool.false_eq_true, if_false, if_true, Bool.not_true,
      Bool.not_false, List.cons_append, List.nil_append]

theorem preview_flow_read (rest : List (List UInt8)) : scan (flowRules build)
    (previewFlowArguments options ++ rest)
    { surface := ⟨options.previewWidth, options.flowHeight⟩, ipcSocket := build.socketPath } =
      scan (flowRules build) rest (previewFlowSettings options) := by
  have preview : flowRules build (ascii "--preview") = some (.flag _) := rfl
  have width : flowRules build (ascii "--width") = none := rfl
  have height : flowRules build (ascii "--height") = none := rfl
  have x : flowRules build (ascii "--x") = some (intRule _) := rfl
  have y : flowRules build (ascii "--y") = some (intRule _) := rfl
  have borderless : flowRules build (ascii "--borderless") = some (.flag _) := rfl
  have socket : flowRules build (ascii "--ipc-socket") = some (textRule _) := rfl
  have video : flowRules build (ascii "--udp-video") = some (.flag _) := rfl
  have port : flowRules build (ascii "--udp-port") = some (portRule build _) := rfl
  have secondary : flowRules build (ascii "--secondary-udp-port") = some (portRule build _) := rfl
  have codec : flowRules build (ascii "--udp-codec") = some (textRule _) := rfl
  unfold previewFlowArguments
  simp only [List.cons_append, List.nil_append]
  rw [scan_flag preview, scan_other width, scan_other flow_number, scan_other height,
    scan_other flow_number, scan_int x, scan_int y]
  dsimp only
  rw [scan_flag borderless, scan_text socket, scan_flag video]
  dsimp only
  rw [scan_port port, scan_port secondary, scan_text codec]
  rfl

theorem preview_surface_read (rest : List (List UInt8)) :
    parseSurfaceSize build (executable :: previewFlowArguments options ++ rest) =
      if SurfaceOption options.ipcSocket.val then .error .invalidArgument
      else scan (surfaceRules build) (options.viewUdpCodec.val :: rest)
        ⟨options.previewWidth, options.flowHeight⟩ := by
  have preview : surfaceRules build (ascii "--preview") = none := rfl
  have width : surfaceRules build (ascii "--width") = some (unsignedRule build _) := rfl
  have height : surfaceRules build (ascii "--height") = some (unsignedRule build _) := rfl
  have x : surfaceRules build (ascii "--x") = none := rfl
  have y : surfaceRules build (ascii "--y") = none := rfl
  have borderless : surfaceRules build (ascii "--borderless") = none := rfl
  have socket : surfaceRules build (ascii "--ipc-socket") = none := rfl
  have video : surfaceRules build (ascii "--udp-video") = none := rfl
  have port : surfaceRules build (ascii "--udp-port") = none := rfl
  have secondary : surfaceRules build (ascii "--secondary-udp-port") = none := rfl
  have codec : surfaceRules build (ascii "--udp-codec") = none := rfl
  unfold parseSurfaceSize previewFlowArguments
  simp only [List.cons_append, List.drop_succ_cons, List.drop_zero, List.nil_append]
  rw [scan_other preview, scan_unsigned width, scan_unsigned height, scan_other x,
    scan_other surface_signed, scan_other y, scan_other surface_signed, scan_other borderless,
    scan_other socket, surface_text rfl, scan_other video, scan_other port,
    scan_other surface_number, scan_other secondary, scan_other surface_number, scan_other codec]

theorem preview_flow_settings (linux : build.windows = false) :
    parseFlowOptions build (previewArgs build executable options false) =
      if SurfaceOption options.ipcSocket.val then .error .invalidArgument
      else .ok (previewFlowSettings options) := by
  rw [previewArgs_flow, linux]
  unfold parseFlowOptions
  rw [if_neg Bool.false_ne_true, preview_surface_read]
  split
  · rfl
  · rw [surface_last]
    exact preview_flow_read options []

/-! ### glide-ui -/

section UserInterface
variable {opacity : Type} (readOpacity : List UInt8 → Except CppException opacity) (full : opacity)

def previewUiSettings (options : ControllerOptions) (shown : opacity) : UiOptions opacity where
  width := options.uiWidth
  height := options.uiHeight
  x := options.previewX
  y := options.previewY
  opacity := shown
  preview := true
  positioned := true
  borderless := true
  alwaysOnTop := true
  transparentClear := true
  ipcSocket := options.ipcSocket.val

theorem preview_ui_settings (linux : build.windows = false) :
    parseUiOptions build readOpacity full (previewArgs build executable options true) =
      (readOpacity options.uiOpacity.val).map (previewUiSettings options) := by
  have preview : uiRules build readOpacity (ascii "--preview") = some (.flag _) := rfl
  have width : uiRules build readOpacity (ascii "--width") = some (unsignedRule build _) := rfl
  have height : uiRules build readOpacity (ascii "--height") = some (unsignedRule build _) := rfl
  have x : uiRules build readOpacity (ascii "--x") = some (intRule _) := rfl
  have y : uiRules build readOpacity (ascii "--y") = some (intRule _) := rfl
  have borderless : uiRules build readOpacity (ascii "--borderless") = some (.flag _) := rfl
  have socket : uiRules build readOpacity (ascii "--ipc-socket") = some (textRule _) := rfl
  have top : uiRules build readOpacity (ascii "--always-on-top") = some (.flag _) := rfl
  have clear : uiRules build readOpacity (ascii "--transparent-clear") = some (.flag _) := rfl
  have opacity : uiRules build readOpacity (ascii "--opacity") = some (.value _) := rfl
  unfold parseUiOptions previewArgs previewUiSettings
  simp only [List.cons_append, List.drop_succ_cons, List.drop_zero, List.nil_append, linux,
    Bool.false_and, Bool.true_or, Bool.false_eq_true, if_false, if_true]
  rw [scan_flag preview, scan_unsigned width, scan_unsigned height, scan_int x,
    scan_int y]
  dsimp only
  rw [scan_flag borderless, scan_text socket, scan_flag top]
  dsimp only
  rw [scan_flag clear, scan_value opacity]
  cases readOpacity options.uiOpacity.val <;> rfl

/-- Of the stack on the planes. -/
theorem headless_ui_settings :
    parseUiOptions build readOpacity full (headlessUiArgs executable options) =
      .ok { opacity := full, headless := true, ipcSocket := options.ipcSocket.val } := by
  have headless : uiRules build readOpacity (ascii "--headless") = some (.flag _) := rfl
  have socket : uiRules build readOpacity (ascii "--ipc-socket") = some (textRule _) := rfl
  unfold parseUiOptions headlessUiArgs
  rw [List.drop_succ_cons, List.drop_zero, scan_flag headless, scan_text socket]
  rfl

end UserInterface

end Settings

/-! ### On Windows, where the arguments are one command line -/

/-- The arguments of a worker that `launch_windows_child` starts. -/
def received (program : Program) (arguments : List (List UInt8)) : List (List UInt8) :=
  program.path :: argumentsOf (childCommand arguments)

/-- Arguments without any characters are lost. -/
theorem received_nonempty (program : Program) (terminated : ∀ text ∈ arguments, 0 ∉ text) :
    received program (program.path :: arguments) = program.path :: arguments.filter (· ≠ []) := by
  have known := argumentsOf_childCommand program (arguments.attachWith (0 ∉ ·) terminated)
  rw [List.attachWith_map_subtype_val] at known
  rw [received, known]

theorem received_texts (program : Program) (terminated : ∀ text ∈ arguments, 0 ∉ text) :
    ∀ text ∈ (received program (program.path :: arguments)).drop 1, text ≠ [] := by
  intro text member
  rw [received_nonempty program terminated, List.drop_succ_cons, List.drop_zero] at member
  exact of_decide_eq_true (List.mem_filter.mp member).2

theorem received_whole (program : Program) (terminated : ∀ text ∈ arguments, 0 ∉ text)
    (nonempty : ∀ text ∈ arguments, text ≠ []) :
    received program (program.path :: arguments) = program.path :: arguments := by
  have all : arguments.filter (· ≠ []) = arguments :=
    List.filter_eq_self.mpr fun text member => decide_eq_true (nonempty text member)
  rw [received_nonempty program terminated, all]

theorem decimal_terminated : 0 ∉ decimal number := fun member =>
  absurd (decimal_digits 0 member) (by decide)

theorem signedDecimal_ne_nil : signedDecimal number ≠ [] :=
  (StreamExtraction.signed_plain number []).1

theorem signedDecimal_terminated : 0 ∉ signedDecimal number := by
  unfold signedDecimal
  split
  · exact List.not_mem_cons_of_ne_of_not_mem (by decide) decimal_terminated
  · exact decimal_terminated

section Kept
variable {invariant : σ → Prop}

theorem textRule_keeps {update : List UInt8 → σ → σ}
    (each : ∀ text state, text ≠ [] → invariant state → invariant (update text state)) :
    (textRule update).Keeps (· ≠ []) invariant := by
  intro text state result some updated kept
  cases updated
  exact each text state some kept

theorem numberRule_keeps {read : List UInt8 → Except CppException ν} {update : ν → σ → σ}
    (each : ∀ number state, invariant state → invariant (update number state)) :
    (numberRule read update).Keeps (· ≠ []) invariant := by
  intro text state result some updated kept
  obtain ⟨number, _, same⟩ := CheckedBuffers.bind_ok_iff.mp updated
  cases same
  exact each number state kept

end Kept

/-! ### glide-ui on Windows -/

section WindowsUi
variable {opacity : Type} {readOpacity : List UInt8 → Except CppException opacity} {full : opacity}

theorem socketPath_nonempty : Build.socketPath build ≠ [] := by
  unfold Build.socketPath
  split <;> decide

/-- Of arguments with characters, no text that glide-ui reads is without any. -/
theorem ui_texts_nonempty (texts : ∀ text ∈ arguments.drop 1, text ≠ [])
    (read : parseUiOptions build readOpacity full arguments = .ok options) :
    options.bufferPath ≠ [] ∧ options.ipcSocket ≠ [] := by
  have path : ascii "/tmp/openhd-glide-ui.argb" ≠ [] := by decide
  refine scan_keeps (· ≠ []) (fun options : UiOptions opacity =>
    options.bufferPath ≠ [] ∧ options.ipcSocket ≠ []) (lookup_keeps ?_) texts ?_ read
  · simp only [List.forall_mem_cons, List.not_mem_nil, false_implies, implies_true, and_true]
    exact ⟨fun _ kept => kept, fun _ kept => kept, fun _ kept => kept,
      numberRule_keeps fun _ _ kept => kept, numberRule_keeps fun _ _ kept => kept,
      numberRule_keeps fun _ _ kept => kept, numberRule_keeps fun _ _ kept => kept,
      numberRule_keeps fun _ _ kept => kept, fun _ kept => kept, fun _ kept => kept,
      fun _ kept => kept, fun _ kept => kept, textRule_keeps fun _ _ given kept => ⟨given, kept.2⟩,
      textRule_keeps fun _ _ given kept => ⟨kept.1, given⟩⟩
  · exact ⟨path, socketPath_nonempty⟩

def bufferUiSettings (full : opacity) (options : ControllerOptions) : UiOptions opacity where
  width := options.previewWidth
  height := options.flowHeight
  opacity := full
  buffer := true
  bufferPath := options.uiBufferPath.val
  ipcSocket := options.ipcSocket.val

/-- What the controller writes for the user interface, behind its program. -/
def bufferUiArguments (options : ControllerOptions) : List (List UInt8) :=
  [ascii "--buffer", ascii "--width", decimal options.previewWidth.toNat, ascii "--height",
    decimal options.flowHeight.toNat, ascii "--buffer-path", options.uiBufferPath.val,
    ascii "--ipc-socket", options.ipcSocket.val]

theorem previewArgs_buffer (windows : build.windows = true) (executable : List UInt8)
    (options : ControllerOptions) :
    previewArgs build executable options true = executable :: bufferUiArguments options := by
  unfold previewArgs bufferUiArguments
  simp only [windows, Bool.and_true, if_true]

theorem bufferUiArguments_terminated (options : ControllerOptions) :
    ∀ text ∈ bufferUiArguments options, 0 ∉ text := by
  simp only [bufferUiArguments, List.forall_mem_cons, List.not_mem_nil, false_implies,
    implies_true, and_true]
  exact ⟨by decide, by decide, decimal_terminated, by decide, decimal_terminated, by decide,
    options.uiBufferPath.property, by decide, options.ipcSocket.property⟩

theorem buffer_ui_read (program : List UInt8) (options : ControllerOptions) :
    parseUiOptions build readOpacity full (program :: bufferUiArguments options) =
      .ok (bufferUiSettings full options) := by
  have buffer : uiRules build readOpacity (ascii "--buffer") = some (.flag _) := rfl
  have width : uiRules build readOpacity (ascii "--width") = some (unsignedRule build _) := rfl
  have height : uiRules build readOpacity (ascii "--height") = some (unsignedRule build _) := rfl
  have path : uiRules build readOpacity (ascii "--buffer-path") = some (textRule _) := rfl
  have socket : uiRules build readOpacity (ascii "--ipc-socket") = some (textRule _) := rfl
  unfold parseUiOptions bufferUiArguments
  rw [List.drop_succ_cons, List.drop_zero, scan_flag buffer, scan_unsigned width,
    scan_unsigned height, scan_text path, scan_text socket]
  rfl

theorem windows_ui_settings_iff (windows : build.windows = true) (program : Program)
    (options : ControllerOptions) :
    parseUiOptions build readOpacity full
        (received program (previewArgs build program.path options true)) =
      .ok (bufferUiSettings full options) ↔
    options.uiBufferPath.val ≠ [] ∧ options.ipcSocket.val ≠ [] := by
  have terminated := bufferUiArguments_terminated options
  rw [previewArgs_buffer windows]
  constructor
  · exact ui_texts_nonempty (received_texts program terminated)
  · rintro ⟨path, socket⟩
    have nonempty : ∀ text ∈ bufferUiArguments options, text ≠ [] := by
      simp only [bufferUiArguments, List.forall_mem_cons, List.not_mem_nil, false_implies,
        implies_true, and_true]
      exact ⟨by decide, by decide, decimal_ne_nil, by decide, decimal_ne_nil, by decide, path,
        by decide, socket⟩
    rw [received_whole program terminated nonempty]
    exact buffer_ui_read program.path options

end WindowsUi

/-! ### glide-flow on Windows -/

/-- Of arguments with characters, no codec or socket that glide-flow reads is without any. -/
theorem flow_texts_nonempty (texts : ∀ text ∈ arguments.drop 1, text ≠ [])
    (read : parseFlowOptions build arguments = .ok options) :
    options.udpCodec ≠ [] ∧ options.ipcSocket ≠ [] := by
  have codec : ascii "h264" ≠ [] := by decide
  obtain ⟨surface, _, read⟩ := CheckedBuffers.bind_ok_iff.mp read
  refine scan_keeps (· ≠ []) (fun options : FlowOptions =>
    options.udpCodec ≠ [] ∧ options.ipcSocket ≠ []) (lookup_keeps ?_) texts ?_ read
  · simp only [List.forall_mem_cons, List.not_mem_nil, false_implies, implies_true, and_true]
    exact ⟨fun _ kept => kept, fun _ kept => kept, fun _ kept => kept, fun _ kept => kept,
      fun _ kept => kept, numberRule_keeps fun _ _ kept => kept,
      numberRule_keeps fun _ _ kept => kept, fun _ kept => kept, fun _ kept => kept,
      numberRule_keeps fun _ _ kept => kept, numberRule_keeps fun _ _ kept => kept,
      textRule_keeps fun _ _ given kept => ⟨given, kept.2⟩, textRule_keeps fun _ _ _ kept => kept,
      textRule_keeps fun _ _ _ kept => kept, numberRule_keeps fun _ _ kept => kept,
      textRule_keeps fun _ _ given kept => ⟨kept.1, given⟩⟩
  · exact ⟨codec, socketPath_nonempty⟩

theorem previewFlowArguments_terminated (options : ControllerOptions) :
    ∀ text ∈ previewFlowArguments options, 0 ∉ text := by
  simp only [previewFlowArguments, List.forall_mem_cons, List.not_mem_nil, false_implies,
    implies_true, and_true]
  exact ⟨by decide, by decide, decimal_terminated, by decide, decimal_terminated, by decide,
    signedDecimal_terminated, by decide, signedDecimal_terminated, by decide, by decide,
    options.ipcSocket.property, by decide, by decide, decimal_terminated, by decide,
    decimal_terminated, by decide, options.viewUdpCodec.property⟩

theorem previewFlowArguments_nonempty (options : ControllerOptions)
    (socket : options.ipcSocket.val ≠ []) (codec : options.viewUdpCodec.val ≠ []) :
    ∀ text ∈ previewFlowArguments options, text ≠ [] := by
  simp only [previewFlowArguments, List.forall_mem_cons, List.not_mem_nil, false_implies,
    implies_true, and_true]
  exact ⟨by decide, by decide, decimal_ne_nil, by decide, decimal_ne_nil, by decide,
    signedDecimal_ne_nil, by decide, signedDecimal_ne_nil, by decide, by decide, socket,
    by decide, by decide, decimal_ne_nil, by decide, decimal_ne_nil, by decide, codec⟩

theorem windowsFlowArguments_terminated (options : ControllerOptions) :
    ∀ text ∈ previewFlowArguments options ++
      [ascii "--ui-buffer-path", options.uiBufferPath.val], 0 ∉ text := by
  intro text member
  rcases List.mem_append.mp member with front | back
  · exact previewFlowArguments_terminated options text front
  · rcases List.mem_cons.mp back with rfl | last
    · decide
    · rw [List.mem_singleton.mp last]
      exact options.uiBufferPath.property

/-- With the name of the buffer, which may be without any characters: then nothing stands behind its
option, and it is passed over. -/
theorem windows_flow_read {build : Build} (windows : build.windows = true) (program : Program)
    (options : ControllerOptions) (socket : options.ipcSocket.val ≠ [])
    (codec : options.viewUdpCodec.val ≠ []) :
    parseFlowOptions build (received program (previewArgs build program.path options false)) =
      if SurfaceOption options.ipcSocket.val ∨ SurfaceOption options.viewUdpCodec.val then
        .error .invalidArgument
      else .ok { previewFlowSettings options with uiBufferPath := options.uiBufferPath.val } := by
  have path : flowRules build (ascii "--ui-buffer-path") = some (textRule _) := rfl
  have unknown : surfaceRules build (ascii "--ui-buffer-path") = none := rfl
  have named : ascii "--ui-buffer-path" ≠ [] := by decide
  have terminated := windowsFlowArguments_terminated options
  have front : (previewFlowArguments options).filter (· ≠ []) = previewFlowArguments options :=
    List.filter_eq_self.mpr fun text member =>
      decide_eq_true (previewFlowArguments_nonempty options socket codec text member)
  have given : received program (previewArgs build program.path options false) =
      program.path :: previewFlowArguments options ++ ascii "--ui-buffer-path" ::
        [options.uiBufferPath.val].filter (· ≠ []) := by
    have option : [ascii "--ui-buffer-path", options.uiBufferPath.val].filter (· ≠ []) =
        ascii "--ui-buffer-path" :: [options.uiBufferPath.val].filter (· ≠ []) :=
      List.filter_cons_of_pos (decide_eq_true named)
    rw [previewArgs_flow, windows, if_pos rfl, List.cons_append,
      received_nonempty program terminated, List.filter_append, front, option]
    rfl
  rw [given]
  unfold parseFlowOptions
  rw [preview_surface_read, surface_text rfl, scan_other unknown, List.cons_append,
    List.drop_succ_cons, List.drop_zero]
  by_cases taken : SurfaceOption options.ipcSocket.val
  · rw [if_pos taken, if_pos (.inl taken)]
    rfl
  by_cases lost : SurfaceOption options.viewUdpCodec.val
  · rw [if_neg taken, if_pos lost, if_pos (.inr lost)]
    rfl
  rw [if_neg taken, if_neg lost, if_neg (not_or.mpr ⟨taken, lost⟩)]
  by_cases none : options.uiBufferPath.val = []
  · have absent : [options.uiBufferPath.val].filter (· ≠ []) = [] := by rw [none]; rfl
    rw [absent]
    refine (preview_flow_read options _).trans ?_
    have valued : ∀ update, flowRules build (ascii "--ui-buffer-path") ≠ some (.flag update) := by
      intro update flagged
      cases path.symm.trans flagged
    rw [scan_last valued, none]
    rfl
  · have kept : [options.uiBufferPath.val].filter (· ≠ []) = [options.uiBufferPath.val] :=
      List.filter_cons_of_pos (decide_eq_true none)
    rw [kept, surface_last]
    refine (preview_flow_read options _).trans ?_
    rw [scan_text path]
    rfl

theorem windows_flow_settings_iff {build : Build} (windows : build.windows = true)
    (program : Program) (options : ControllerOptions) :
    parseFlowOptions build (received program (previewArgs build program.path options false)) =
      .ok { previewFlowSettings options with uiBufferPath := options.uiBufferPath.val } ↔
    options.ipcSocket.val ≠ [] ∧ options.viewUdpCodec.val ≠ [] ∧
      ¬SurfaceOption options.ipcSocket.val ∧ ¬SurfaceOption options.viewUdpCodec.val := by
  constructor
  · intro read
    obtain ⟨codec, socket⟩ : options.viewUdpCodec.val ≠ [] ∧ options.ipcSocket.val ≠ [] := by
      refine flow_texts_nonempty ?_ read
      rw [previewArgs_flow, windows, if_pos rfl, List.cons_append]
      exact received_texts program (windowsFlowArguments_terminated options)
    rw [windows_flow_read windows program options socket codec] at read
    split at read
    · cases read
    · rename_i plain
      exact ⟨socket, codec, not_or.mp plain⟩
  · rintro ⟨socket, codec, plain⟩
    rw [windows_flow_read windows program options socket codec, if_neg (not_or.mpr plain)]

/-! ### glide-view on Windows -/

theorem view_texts_nonempty (texts : ∀ text ∈ arguments.drop 1, text ≠ [])
    (read : parseViewOptions build arguments = .ok options) :
    options.udpCodec ≠ [] ∧ options.ipcSocket ≠ [] := by
  have codec : ascii "h264" ≠ [] := by decide
  refine scan_keeps (· ≠ []) (fun options : ViewOptions =>
    options.udpCodec ≠ [] ∧ options.ipcSocket ≠ []) (lookup_keeps ?_) texts ?_ read
  · simp only [List.forall_mem_cons, List.not_mem_nil, false_implies, implies_true, and_true]
    exact ⟨textRule_keeps fun _ _ given kept => ⟨kept.1, given⟩, fun _ kept => kept,
      fun _ kept => kept, fun _ kept => kept,
      textRule_keeps fun _ _ given kept => ⟨mt List.map_eq_nil_iff.mp given, kept.2⟩,
      numberRule_keeps fun _ _ kept => kept, numberRule_keeps fun _ _ kept => kept,
      numberRule_keeps fun _ _ kept => kept⟩
  · exact ⟨codec, socketPath_nonempty⟩

theorem viewArgs_terminated (executable : List UInt8) (options : ControllerOptions) :
    ∀ text ∈ (viewArgs executable options).drop 1, 0 ∉ text := by
  unfold viewArgs
  cases options.kmsStack with
  | false =>
    simp only [if_false, Bool.false_eq_true, List.append_nil, List.drop_succ_cons, List.drop_zero,
      List.forall_mem_cons, List.not_mem_nil, false_implies, implies_true, and_true]
    exact ⟨by decide, by decide, options.ipcSocket.property⟩
  | true =>
    simp only [if_true, List.cons_append, List.drop_succ_cons, List.drop_zero, List.nil_append,
      List.forall_mem_cons, List.not_mem_nil, false_implies, implies_true, and_true]
    exact ⟨by decide, by decide, options.ipcSocket.property, by decide, by decide,
      decimal_terminated, by decide, options.viewUdpCodec.property⟩

theorem viewArgs_nonempty (executable : List UInt8) (options : ControllerOptions)
    (socket : options.ipcSocket.val ≠ [])
    (codec : options.kmsStack = true → options.viewUdpCodec.val ≠ []) :
    ∀ text ∈ (viewArgs executable options).drop 1, text ≠ [] := by
  unfold viewArgs
  cases stack : options.kmsStack with
  | false =>
    simp only [if_false, Bool.false_eq_true, List.append_nil, List.drop_succ_cons, List.drop_zero,
      List.forall_mem_cons, List.not_mem_nil, false_implies, implies_true, and_true]
    exact ⟨by decide, by decide, socket⟩
  | true =>
    simp only [if_true, List.cons_append, List.drop_succ_cons, List.drop_zero, List.nil_append,
      List.forall_mem_cons, List.not_mem_nil, false_implies, implies_true, and_true]
    exact ⟨by decide, by decide, socket, by decide, by decide, decimal_ne_nil, by decide,
      codec stack⟩

theorem windows_view_settings_iff (build : Build) (program : Program)
    (options : ControllerOptions) :
    parseViewOptions build (received program (viewArgs program.path options)) =
      .ok (viewSettings options) ↔
    options.ipcSocket.val ≠ [] ∧ (options.kmsStack = true → options.viewUdpCodec.val ≠ []) := by
  have shape : viewArgs program.path options =
      program.path :: (viewArgs program.path options).drop 1 := rfl
  have terminated := viewArgs_terminated program.path options
  constructor
  · intro read
    obtain ⟨codec, socket⟩ : (viewSettings options).udpCodec ≠ [] ∧ options.ipcSocket.val ≠ [] := by
      refine view_texts_nonempty ?_ read
      rw [shape]
      exact received_texts program terminated
    refine ⟨socket, fun stack none => codec ?_⟩
    simp only [viewSettings, stack, if_true, none, List.map_nil]
  · rintro ⟨socket, codec⟩
    have nonempty := viewArgs_nonempty program.path options socket codec
    rw [shape, received_whole program terminated nonempty, ← shape]
    exact view_settings build program.path options

/-! ### All workers -/

/-- On Linux a worker is given its arguments as they are. It fails exactly if glide-flow takes the
name of the socket for an option of its own when it looks for its size. -/
theorem linux_workers_read_settings {opacity : Type}
    (readOpacity : List UInt8 → Except CppException opacity) (full : opacity) {build : Build}
    (linux : build.windows = false) (executable : List UInt8) (options : ControllerOptions) :
    parseViewOptions build (viewArgs executable options) = .ok (viewSettings options) ∧
    parseUiOptions build readOpacity full (headlessUiArgs executable options) =
      .ok { opacity := full, headless := true, ipcSocket := options.ipcSocket.val } ∧
    parseUiOptions build readOpacity full (previewArgs build executable options true) =
      (readOpacity options.uiOpacity.val).map (previewUiSettings options) ∧
    parseFlowOptions build (kmsFlowArgs executable options) =
      (if options.displayRefreshHz ≠ 0 ∧ SurfaceOption options.ipcSocket.val then
        .error .invalidArgument
      else .ok (kmsFlowSettings options)) ∧
    parseFlowOptions build (previewArgs build executable options false) =
      if SurfaceOption options.ipcSocket.val then .error .invalidArgument
      else .ok (previewFlowSettings options) :=
  ⟨view_settings build executable options, headless_ui_settings executable options readOpacity full,
    preview_ui_settings executable options readOpacity full linux,
    kms_flow_settings executable options, preview_flow_settings executable options linux⟩

theorem usual_terminated : 0 ∉ ascii "/tmp/openhd-glide.sock" ∧ 0 ∉ ascii "h265" ∧
    0 ∉ ascii "0.350000" ∧ 0 ∉ ascii "C:\\Temp\\openhd-glide-ui.argb" := by decide

def usual : ControllerOptions where
  kmsStack := false
  previewWidth := 1280
  flowHeight := 720
  displayRefreshHz := 60
  uiWidth := 760
  uiHeight := 720
  viewUdpPort := 5600
  viewUdpCodec := ⟨ascii "h265", usual_terminated.2.1⟩
  uiOpacity := ⟨ascii "0.350000", usual_terminated.2.2.1⟩
  previewX := -40
  previewY := 20
  ipcSocket := ⟨ascii "/tmp/openhd-glide.sock", usual_terminated.1⟩
  verticalStack := true
  uiBufferPath := ⟨ascii "C:\\Temp\\openhd-glide-ui.argb", usual_terminated.2.2.2⟩

theorem long_wide : 32 ≤ 64 := by decide

def linuxBuild : Build := ⟨⟨64, fun _ => 0⟩, false, long_wide⟩

theorem usual_settings_are_read :
    parseFlowOptions linuxBuild (kmsFlowArgs (ascii "glide-flow") usual) =
      .ok (kmsFlowSettings usual) ∧
    parseFlowOptions linuxBuild (previewArgs linuxBuild (ascii "glide-flow") usual false) =
      .ok (previewFlowSettings usual) := by
  obtain ⟨-, -, -, kms, preview⟩ :=
    @linux_workers_read_settings Unit (fun _ => .ok ()) () linuxBuild rfl (ascii "glide-flow") usual
  have plain : ¬SurfaceOption usual.ipcSocket.val := by decide
  rw [if_neg fun both => plain both.2] at kms
  rw [if_neg plain] at preview
  exact ⟨kms, preview⟩

/-- On Windows the arguments are one command line, and it has no room for texts without characters.
The name of the buffer may be one for glide-flow, for which it is the last argument. -/
theorem windows_workers_read_settings_iff {opacity : Type}
    (readOpacity : List UInt8 → Except CppException opacity) (full : opacity) {build : Build}
    (windows : build.windows = true) (program : Program) (options : ControllerOptions) :
    (parseViewOptions build (received program (viewArgs program.path options)) =
        .ok (viewSettings options) ↔
      options.ipcSocket.val ≠ [] ∧ (options.kmsStack = true → options.viewUdpCodec.val ≠ [])) ∧
    (parseUiOptions build readOpacity full
        (received program (previewArgs build program.path options true)) =
        .ok (bufferUiSettings full options) ↔
      options.uiBufferPath.val ≠ [] ∧ options.ipcSocket.val ≠ []) ∧
    (parseFlowOptions build (received program (previewArgs build program.path options false)) =
        .ok { previewFlowSettings options with uiBufferPath := options.uiBufferPath.val } ↔
      options.ipcSocket.val ≠ [] ∧ options.viewUdpCodec.val ≠ [] ∧
        ¬SurfaceOption options.ipcSocket.val ∧ ¬SurfaceOption options.viewUdpCodec.val) :=
  ⟨windows_view_settings_iff build program options,
    windows_ui_settings_iff windows program options,
    windows_flow_settings_iff windows program options⟩

def windowsBuild : Build := ⟨⟨64, fun _ => 0⟩, true, long_wide⟩

theorem usual_command_lines_are_read :
    parseUiOptions windowsBuild (fun _ => .ok ()) ()
        (received userInterface (previewArgs windowsBuild userInterface.path usual true)) =
      .ok (bufferUiSettings () usual) ∧
    parseFlowOptions windowsBuild
        (received userInterface (previewArgs windowsBuild userInterface.path usual false)) =
      .ok { previewFlowSettings usual with uiBufferPath := usual.uiBufferPath.val } := by
  obtain ⟨-, interface, flow⟩ := @windows_workers_read_settings_iff Unit (fun _ => .ok ())
    () windowsBuild rfl userInterface usual
  exact ⟨interface.mpr ⟨by decide, by decide⟩,
    flow.mpr ⟨by decide, by decide, by decide, by decide⟩⟩

end Glide.WorkerArguments
