import Glide.Library.StringConversions

/-! The telemetry snapshot that the user interface and the overlay fill from "mav" lines.
Fields that are extracted as numbers from the line's stream, which reports failure in the
stream's state, are read by a function from outside; texts and parameters are read here. -/
namespace Glide.MavlinkState
open Library AsciiText NumberText StringConversions

structure Snapshot where
  siyiActive : Bool := false
  frequencyMhz : Int := 0
  channelWidthMhz : Int := 0
  mcsIndex : Int := 0
  txPowerMw : Int := 0
  flightMode : List UInt8 := ascii "N/A"
  resolutionFps : List UInt8 := ascii "N/A"
  rotation : List UInt8 := ascii "N/A"
  recording : List UInt8 := ascii "N/A"
  recordingStatus : List UInt8 := ascii "N/A"
  airWifiMode : List UInt8 := ascii "N/A"
  groundWifiMode : List UInt8 := ascii "N/A"
  airHotspot : List UInt8 := ascii "N/A"
  groundHotspot : List UInt8 := ascii "N/A"
  openhdVersion : List UInt8 := ascii "N/A"
  groundChipset : List UInt8 := ascii "N/A"
  airChipset : List UInt8 := ascii "N/A"
  camera : List UInt8 := ascii "N/A"
  messages : List (List UInt8) := []
  attitudeValid : Bool := false
  altitudeValid : Bool := false
  speedValid : Bool := false
  batteryValid : Bool := false
  positionValid : Bool := false
  deriving DecidableEq, Repr

/-- What is read outside: the numbers behind a key, and the names of the camera types. -/
structure Readers where
  numbers : List UInt8 → List UInt8 → Snapshot → Snapshot
  cameraName : Int → List UInt8

def noReaders : Readers where
  numbers := fun _ _ snapshot => snapshot
  cameraName := fun _ => []

def upperCopy (text : List UInt8) : List UInt8 :=
  text.map fun byte => if 97 ≤ byte && byte ≤ 122 then byte - 32 else byte

def parseIntOr (fallback : Int) (value : List UInt8) : Int := caught fallback (stoi value)

/-- The rest of the line, without one leading space. -/
def restAfter (stream : List UInt8) : List UInt8 :=
  match stream.takeWhile (· ≠ 10) with
  | 32 :: value => value
  | value => value

/-- The last five messages, as `push_message` keeps them. -/
def pushMessage (message : List UInt8) (snapshot : Snapshot) : Snapshot :=
  let kept := if snapshot.messages.length < 5 then snapshot.messages else snapshot.messages.tail
  if message = [] then snapshot else { snapshot with messages := kept ++ [message] }

/-- The parameter names that are stored alike. -/
def resolutionNames : List (List UInt8) :=
  [ascii "RESOLUTION_FPS", ascii "VIDEO_FORMAT", ascii "CAMERA_FORMAT"]

def rotationNames : List (List UInt8) :=
  [ascii "ROTATION_FLIP", ascii "ROTATION_DEG", ascii "VIDEO_ROTATION"]

def recordingNames : List (List UInt8) :=
  [ascii "AIR_RECORDING_E", ascii "RECORDING", ascii "REC_ENABLED"]

def frequencyNames : List (List UInt8) :=
  [ascii "FREQ", ascii "FREQUENCY", ascii "FREQUENCY_MHZ", ascii "WB_FREQUENCY"]

def channelWidthNames : List (List UInt8) :=
  [ascii "CHANNEL_WIDTH", ascii "CHANNEL_WIDTH_MHZ", ascii "WB_CHANNEL_WIDTH",
    ascii "WB_CHANNEL_W", ascii "BANDWIDTH"]

def mcsNames : List (List UInt8) := [ascii "MCS", ascii "MCS_INDEX", ascii "WB_MCS_INDEX"]

def txPowerNames : List (List UInt8) :=
  [ascii "TX_POWER", ascii "TX_POWER_MW", ascii "WB_TX_POWER_MW"]

def applyParam (cameraName : Int → List UInt8) (target name value : List UInt8)
    (snapshot : Snapshot) : Snapshot :=
  let air := target = ascii "air"
  let ground := target = ascii "ground"
  if name = ascii "SIYI_ACTIVE" then { snapshot with siyiActive := parseIntOr 0 value = 1 }
  else if name ∈ resolutionNames then { snapshot with resolutionFps := value }
  else if name ∈ rotationNames then { snapshot with rotation := value }
  else if name ∈ recordingNames then { snapshot with recording := value }
  else if name = ascii "WIFI_MODE" ∧ air then { snapshot with airWifiMode := value }
  else if name = ascii "WIFI_MODE" ∧ ground then { snapshot with groundWifiMode := value }
  else if name = ascii "WIFI_HOTSPOT_E" ∧ air then { snapshot with airHotspot := value }
  else if name = ascii "WIFI_HOTSPOT_E" ∧ ground then { snapshot with groundHotspot := value }
  else if name ∈ frequencyNames then
    { snapshot with frequencyMhz := parseIntOr snapshot.frequencyMhz value }
  else if name ∈ channelWidthNames then
    { snapshot with channelWidthMhz := parseIntOr snapshot.channelWidthMhz value }
  else if name ∈ mcsNames then { snapshot with mcsIndex := parseIntOr snapshot.mcsIndex value }
  else if name ∈ txPowerNames then
    { snapshot with txPowerMw := parseIntOr snapshot.txPowerMw value }
  else if name = ascii "OPENHD_VERSION" ∨ name = ascii "VERSION" then
    { snapshot with openhdVersion := value }
  else if name = ascii "AIR_CHIPSET" then { snapshot with airChipset := value }
  else if name = ascii "GROUND_CHIPSET" then { snapshot with groundChipset := value }
  else if name = ascii "CAMERA" ∨ name = ascii "CAMERA_TYPE" then
    let cameraType := parseIntOr (-1) value
    { snapshot with camera := if 0 ≤ cameraType then cameraName cameraType else value }
  else snapshot

def applyStatus (field value : List UInt8) (snapshot : Snapshot) : Snapshot :=
  if field = ascii "openhd_version" then { snapshot with openhdVersion := value }
  else if field = ascii "ground_chipset" then { snapshot with groundChipset := value }
  else if field = ascii "air_chipset" then { snapshot with airChipset := value }
  else if field = ascii "camera" then { snapshot with camera := value }
  else if field = ascii "recording" then { snapshot with recordingStatus := value }
  else snapshot

/-- The keys whose fields are extracted as numbers. -/
def numberKeys : List (List UInt8) :=
  [ascii "alive", ascii "armed", ascii "attitude", ascii "position", ascii "speed",
    ascii "battery", ascii "gps", ascii "link", ascii "openhd", ascii "scan", ascii "rc"]

def applyIpcLine (readers : Readers) (line : List UInt8) (snapshot : Snapshot) : Bool × Snapshot :=
  let (start, stream) := nextWord line
  let (key, stream) := nextWord stream
  if start ≠ ascii "mav" then (false, snapshot)
  else if key ∈ numberKeys then (true, readers.numbers key stream snapshot)
  else if key = ascii "mode" then (true, { snapshot with flightMode := restAfter stream })
  else if key = ascii "param" then
    let (target, stream) := nextWord stream
    let (name, stream) := nextWord stream
    (true, applyParam readers.cameraName target (upperCopy name) (restAfter stream) snapshot)
  else if key = ascii "status" then
    let (field, stream) := nextWord stream
    (true, applyStatus field (restAfter stream) snapshot)
  else if key = ascii "message" then (true, pushMessage (restAfter stream) snapshot)
  else (false, snapshot)

end Glide.MavlinkState
