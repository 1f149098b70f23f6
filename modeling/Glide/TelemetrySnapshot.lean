import Glide.Library.StreamExtraction
import Glide.MavlinkState

/-! The whole telemetry snapshot, with the numbers that are extracted from the stream of a
line in place: each field is extracted into its variable, so that one that is not extracted
keeps its value. -/
namespace Glide.TelemetrySnapshot
open Library AsciiText BinaryFloat StreamExtraction MavlinkState

/-- The four channels of the remote control. -/
abbrev Channels := { channels : List Int // channels.length = 4 }

structure Telemetry extends MavlinkState.Snapshot where
  airAlive : Bool := false
  groundAlive : Bool := false
  fcAlive : Bool := false
  armed : Bool := false
  linkStatsValid : Bool := false
  linkRssiDbm : Int := -128
  linkTxcTempC : Int := -128
  linkQualityPercent : Int := 0
  rcQualityPercent : Int := 0
  linkSnrAntenna1Db : Int := -128
  linkSnrAntenna2Db : Int := -128
  scanProgress : Int := 0
  rcChannels : Channels := ⟨[0, 0, 0, 0], rfl⟩
  batteryPercent : Int := -1
  satellites : Int := 0
  rollDegrees : FloatValue := zero binary32
  pitchDegrees : FloatValue := zero binary32
  yawDegrees : FloatValue := zero binary32
  altitudeM : FloatValue := zero binary32
  groundSpeedMps : FloatValue := zero binary32
  airspeedMps : FloatValue := zero binary32
  voltageV : FloatValue := zero binary32
  linkBitrateMbit : FloatValue := zero binary32
  latitudeDeg : FloatValue := zero binary64
  longitudeDeg : FloatValue := zero binary64
  platform : List UInt8 := ascii "N/A"
  deriving DecidableEq

def clampPercent (value : Int) : Int := max 0 (min value 100)

/-- The names of the platforms, by id. -/
def platformIds : List (Int × List UInt8) :=
  [(0, ascii "UNKNOWN"), (1, ascii "X86"), (10, ascii "RPI<=3"), (11, ascii "RPI 4"),
    (12, ascii "RPI CM4"), (13, ascii "RPI 5"), (20, ascii "RADXA ZERO3W"),
    (21, ascii "RADXA RK3588S"), (22, ascii "RADXA RK3588"), (23, ascii "RV1126"),
    (24, ascii "RADXA CM3"), (25, ascii "RV110X"), (27, ascii "ERR-UNDEFINED\x7b27\x7d"),
    (28, ascii "X21/RV1126(B)"), (30, ascii "X20"), (31, ascii "ERR-UNDEFINED\x7b31\x7d"),
    (32, ascii "A733"), (36, ascii "OPENIPC SIGMASTAR"), (40, ascii "NVIDIA_XAVIER"),
    (46, ascii "QUALCOMM_QRB5165"), (47, ascii "QUALCOMM_QCS405"), (51, ascii "ORQA"),
    (52, ascii "UVX_MOD"), (61, ascii "NXP_IMX8")]

def platformName (platformType : Int) : Option (List UInt8) :=
  (platformIds.find? fun entry => entry.1 = platformType).map Prod.snd

/-! ### Extractions -/

def intField : Int → InputStream → Int × InputStream := extract convertInt

def floatField : FloatValue → InputStream → FloatValue × InputStream :=
  extract (convertFloat binary32)

def doubleField : FloatValue → InputStream → FloatValue × InputStream :=
  extract (convertFloat binary64)

/-- The variables of an array in turn. -/
def intFields : List Int → InputStream → List Int × InputStream
  | [], stream => ([], stream)
  | field :: fields, stream =>
    let (value, stream) := intField field stream
    let (values, stream) := intFields fields stream
    (value :: values, stream)

theorem length_intFields (fields : List Int) (stream : InputStream) :
    (intFields fields stream).1.length = fields.length := by
  induction fields generalizing stream with
  | nil => rfl
  | cons field fields ih => exact congrArg Nat.succ (ih _)

/-! ### The lines with numbers -/

def applyAlive (text : List UInt8) (telemetry : Telemetry) : Telemetry :=
  let (target, text) := nextWord text
  let alive := (intField 0 ⟨text, false⟩).1
  if target = ascii "air" then { telemetry with airAlive := alive ≠ 0 }
  else if target = ascii "ground" then { telemetry with groundAlive := alive ≠ 0 }
  else if target = ascii "fc" then { telemetry with fcAlive := alive ≠ 0 }
  else telemetry

def applyArmed (stream : InputStream) (telemetry : Telemetry) : Telemetry :=
  { telemetry with armed := (intField 0 stream).1 ≠ 0 }

def applyAttitude (stream : InputStream) (telemetry : Telemetry) : Telemetry :=
  let (roll, stream) := floatField telemetry.rollDegrees stream
  let (pitch, stream) := floatField telemetry.pitchDegrees stream
  let (yaw, _) := floatField telemetry.yawDegrees stream
  { telemetry with
    rollDegrees := roll, pitchDegrees := pitch, yawDegrees := yaw, attitudeValid := true }

def applyPosition (stream : InputStream) (telemetry : Telemetry) : Telemetry :=
  let (latitude, stream) := doubleField telemetry.latitudeDeg stream
  let (longitude, stream) := doubleField telemetry.longitudeDeg stream
  let (altitude, _) := floatField telemetry.altitudeM stream
  { telemetry with
    latitudeDeg := latitude, longitudeDeg := longitude, altitudeM := altitude
    positionValid := true, altitudeValid := true }

def applySpeed (stream : InputStream) (telemetry : Telemetry) : Telemetry :=
  let (groundSpeed, stream) := floatField telemetry.groundSpeedMps stream
  let (airspeed, _) := floatField telemetry.airspeedMps stream
  { telemetry with groundSpeedMps := groundSpeed, airspeedMps := airspeed, speedValid := true }

def applyBattery (stream : InputStream) (telemetry : Telemetry) : Telemetry :=
  let (voltage, stream) := floatField telemetry.voltageV stream
  let (percent, _) := intField telemetry.batteryPercent stream
  { telemetry with voltageV := voltage, batteryPercent := percent, batteryValid := true }

def applyGps (stream : InputStream) (telemetry : Telemetry) : Telemetry :=
  { telemetry with satellites := (intField telemetry.satellites stream).1 }

/-- The second half of a link line, up to the temperature, or the stream fails on the way. -/
def applyLinkStats (stream : InputStream) (telemetry : Telemetry) : Telemetry :=
  let (bitrate, stream) := floatField telemetry.linkBitrateMbit stream
  let (quality, stream) := intField telemetry.linkQualityPercent stream
  let (rssi, stream) := intField telemetry.linkRssiDbm stream
  let (temperature, stream) := intField telemetry.linkTxcTempC stream
  let extracted := { telemetry with
    linkBitrateMbit := bitrate, linkQualityPercent := quality, linkRssiDbm := rssi
    linkTxcTempC := temperature }
  if stream.failed then extracted
  else
    let (first, stream) := intField telemetry.linkSnrAntenna1Db stream
    let (second, _) := intField telemetry.linkSnrAntenna2Db stream
    { extracted with
      rcQualityPercent := quality, linkSnrAntenna1Db := first, linkSnrAntenna2Db := second }

def applyLink (stream : InputStream) (telemetry : Telemetry) : Telemetry :=
  let (frequency, stream) := intField telemetry.frequencyMhz stream
  let (width, stream) := intField telemetry.channelWidthMhz stream
  let (mcs, stream) := intField telemetry.mcsIndex stream
  let (power, stream) := intField telemetry.txPowerMw stream
  let linked := applyLinkStats stream { telemetry with
    frequencyMhz := frequency, channelWidthMhz := width, mcsIndex := mcs, txPowerMw := power }
  { linked with
    linkQualityPercent := clampPercent linked.linkQualityPercent
    rcQualityPercent := clampPercent linked.rcQualityPercent }

def applyWifiCard (stream : InputStream) (telemetry : Telemetry) : Telemetry :=
  let (rssi, stream) := intField 0 stream
  let (quality, stream) := intField 0 stream
  let (first, stream) := intField 0 stream
  let (second, stream) := intField 0 stream
  let (temperature, _) := intField 0 stream
  let best :=
    if telemetry.linkRssiDbm ≤ -127 ∨ (-127 < rssi ∧ telemetry.linkRssiDbm ≤ rssi) then
      { telemetry with
        linkRssiDbm := rssi, linkQualityPercent := clampPercent quality
        linkSnrAntenna1Db := first, linkSnrAntenna2Db := second, linkTxcTempC := temperature }
    else telemetry
  if best.rcQualityPercent = 0 then { best with rcQualityPercent := best.linkQualityPercent }
  else best

/-- `std::max(0.0F, bitrate)`. -/
def atLeastZero (value : FloatValue) : FloatValue :=
  if (zero binary32).less value then value else zero binary32

def applyWifiLink (stream : InputStream) (telemetry : Telemetry) : Telemetry :=
  let (frequency, stream) := intField 0 stream
  let (width, stream) := intField 0 stream
  let (mcs, stream) := intField 0 stream
  let (bitrate, stream) := floatField (zero binary32) stream
  let (quality, stream) := intField telemetry.rcQualityPercent stream
  let (first, stream) := intField telemetry.linkSnrAntenna1Db stream
  let (second, stream) := intField telemetry.linkSnrAntenna2Db stream
  let (temperature, _) := intField telemetry.linkTxcTempC stream
  { telemetry with
    linkSnrAntenna1Db := first, linkSnrAntenna2Db := second, linkTxcTempC := temperature
    linkStatsValid := true
    frequencyMhz := if 0 < frequency then frequency else telemetry.frequencyMhz
    channelWidthMhz := if 0 < width then width else telemetry.channelWidthMhz
    mcsIndex := mcs, linkBitrateMbit := atLeastZero bitrate
    rcQualityPercent := clampPercent quality }

def applyCore (stream : InputStream) (telemetry : Telemetry) : Telemetry :=
  let (temperature, stream) := intField telemetry.linkTxcTempC stream
  let (platformType, _) := intField 0 stream
  { telemetry with
    linkTxcTempC := temperature
    platform := (platformName platformType).getD telemetry.platform }

def applyOpenhd (text : List UInt8) (telemetry : Telemetry) : Telemetry :=
  let (field, text) := nextWord text
  if field = ascii "wifi_card" then applyWifiCard ⟨text, false⟩ telemetry
  else if field = ascii "wifi_link" then applyWifiLink ⟨text, false⟩ telemetry
  else if field = ascii "core" then applyCore ⟨text, false⟩ telemetry
  else telemetry

def applyScan (stream : InputStream) (telemetry : Telemetry) : Telemetry :=
  { telemetry with scanProgress := clampPercent (intField telemetry.scanProgress stream).1 }

def applyRc (stream : InputStream) (telemetry : Telemetry) : Telemetry :=
  { telemetry with
    rcChannels := ⟨(intFields telemetry.rcChannels.1 stream).1,
      (length_intFields _ _).trans telemetry.rcChannels.2⟩ }

def applyNumbers (key text : List UInt8) (telemetry : Telemetry) : Telemetry :=
  if key = ascii "alive" then applyAlive text telemetry
  else if key = ascii "armed" then applyArmed ⟨text, false⟩ telemetry
  else if key = ascii "attitude" then applyAttitude ⟨text, false⟩ telemetry
  else if key = ascii "position" then applyPosition ⟨text, false⟩ telemetry
  else if key = ascii "speed" then applySpeed ⟨text, false⟩ telemetry
  else if key = ascii "battery" then applyBattery ⟨text, false⟩ telemetry
  else if key = ascii "gps" then applyGps ⟨text, false⟩ telemetry
  else if key = ascii "link" then applyLink ⟨text, false⟩ telemetry
  else if key = ascii "openhd" then applyOpenhd text telemetry
  else if key = ascii "scan" then applyScan ⟨text, false⟩ telemetry
  else if key = ascii "rc" then applyRc ⟨text, false⟩ telemetry
  else telemetry

/-- `apply_ipc_line`: the lines with texts change the part of the snapshot that has them. -/
def applyIpcLine (cameraName : Int → List UInt8) (line : List UInt8) (telemetry : Telemetry) :
    Bool × Telemetry :=
  let (start, text) := nextWord line
  let (key, text) := nextWord text
  if start ≠ ascii "mav" then (false, telemetry)
  else if key ∈ numberKeys then (true, applyNumbers key text telemetry)
  else
    let (taken, snapshot) :=
      MavlinkState.applyIpcLine { noReaders with cameraName } line telemetry.toSnapshot
    (taken, { telemetry with toSnapshot := snapshot })

/-- Some lines, one after another. -/
def applyLines (cameraName : Int → List UInt8) (lines : List (List UInt8))
    (telemetry : Telemetry) : Telemetry :=
  lines.foldl (fun telemetry line => (applyIpcLine cameraName line telemetry).2) telemetry

/-! ### The part with the texts -/

/-- The readers of numbers, for the part of the snapshot that has the texts. -/
def streamReaders (cameraName : Int → List UInt8) : Readers where
  numbers := fun key text snapshot => (applyNumbers key text { toSnapshot := snapshot }).toSnapshot
  cameraName := cameraName

theorem extract_stream (convert : List UInt8 → Conversion α) (field other : α)
    (stream : InputStream) : (extract convert field stream).2 = (extract convert other stream).2 := by
  unfold extract
  dsimp only
  split
  · rfl
  · rfl

theorem toSnapshot_if {condition : Prop} [Decidable condition] {one other first second : Telemetry}
    (whenTrue : one.toSnapshot = first.toSnapshot)
    (whenFalse : other.toSnapshot = second.toSnapshot) :
    (if condition then one else other).toSnapshot =
      (if condition then first else second).toSnapshot := by
  split
  · exact whenTrue
  · exact whenFalse

theorem toSnapshot_alive (text : List UInt8) (telemetry : Telemetry) :
    (applyAlive text telemetry).toSnapshot = telemetry.toSnapshot := by
  unfold applyAlive
  dsimp only
  split
  · rfl
  · split
    · rfl
    · split
      · rfl
      · rfl

theorem toSnapshot_linkStats (stream : InputStream) (telemetry : Telemetry) :
    (applyLinkStats stream telemetry).toSnapshot = telemetry.toSnapshot := by
  unfold applyLinkStats
  dsimp only
  split
  · rfl
  · rfl

theorem toSnapshot_wifiCard (stream : InputStream) (telemetry : Telemetry) :
    (applyWifiCard stream telemetry).toSnapshot = telemetry.toSnapshot := by
  unfold applyWifiCard
  dsimp only
  split
  · split
    · rfl
    · rfl
  · split
    · rfl
    · rfl

/-- What becomes of the texts does not depend on the other fields. -/
theorem applyNumbers_snapshot (key text : List UInt8) (telemetry : Telemetry) :
    (applyNumbers key text telemetry).toSnapshot =
      (applyNumbers key text { toSnapshot := telemetry.toSnapshot }).toSnapshot := by
  have alive : (applyAlive text telemetry).toSnapshot =
      (applyAlive text { toSnapshot := telemetry.toSnapshot }).toSnapshot := by
    rw [toSnapshot_alive, toSnapshot_alive]
  have link : (applyLink ⟨text, false⟩ telemetry).toSnapshot =
      (applyLink ⟨text, false⟩ { toSnapshot := telemetry.toSnapshot }).toSnapshot := by
    show (applyLinkStats _ _).toSnapshot = (applyLinkStats _ _).toSnapshot
    rw [toSnapshot_linkStats, toSnapshot_linkStats]
  have card (text : List UInt8) : (applyWifiCard ⟨text, false⟩ telemetry).toSnapshot =
      (applyWifiCard ⟨text, false⟩ { toSnapshot := telemetry.toSnapshot }).toSnapshot := by
    rw [toSnapshot_wifiCard, toSnapshot_wifiCard]
  have openhd : (applyOpenhd text telemetry).toSnapshot =
      (applyOpenhd text { toSnapshot := telemetry.toSnapshot }).toSnapshot :=
    toSnapshot_if (card _) (toSnapshot_if rfl (toSnapshot_if rfl rfl))
  exact toSnapshot_if alive (toSnapshot_if rfl (toSnapshot_if rfl (toSnapshot_if rfl
    (toSnapshot_if rfl (toSnapshot_if rfl (toSnapshot_if rfl (toSnapshot_if link
    (toSnapshot_if openhd (toSnapshot_if rfl (toSnapshot_if rfl rfl))))))))))

/-- Without numbers, the readers of numbers are not asked. -/
theorem text_line_readers (readers : Readers) (line : List UInt8) (snapshot : Snapshot)
    (texts : (nextWord (nextWord line).2).1 ∉ numberKeys) :
    MavlinkState.applyIpcLine readers line snapshot =
      MavlinkState.applyIpcLine { noReaders with cameraName := readers.cameraName } line snapshot := by
  unfold MavlinkState.applyIpcLine
  dsimp only
  rw [if_neg texts, if_neg texts]

theorem foreign_line (cameraName : Int → List UInt8) (line : List UInt8) (telemetry : Telemetry)
    (foreign : (nextWord line).1 ≠ ascii "mav") :
    applyIpcLine cameraName line telemetry = (false, telemetry) := by
  unfold applyIpcLine
  exact if_pos foreign

theorem number_line (cameraName : Int → List UInt8) (line : List UInt8) (telemetry : Telemetry)
    (own : (nextWord line).1 = ascii "mav")
    (number : (nextWord (nextWord line).2).1 ∈ numberKeys) :
    applyIpcLine cameraName line telemetry =
      (true, applyNumbers (nextWord (nextWord line).2).1 (nextWord (nextWord line).2).2
        telemetry) := by
  unfold applyIpcLine
  dsimp only
  rw [if_neg (not_not.2 own), if_pos number]

theorem text_line (cameraName : Int → List UInt8) (line : List UInt8) (telemetry : Telemetry)
    (own : (nextWord line).1 = ascii "mav")
    (texts : (nextWord (nextWord line).2).1 ∉ numberKeys) :
    applyIpcLine cameraName line telemetry =
      ((MavlinkState.applyIpcLine { noReaders with cameraName } line telemetry.toSnapshot).1,
        { telemetry with toSnapshot := (MavlinkState.applyIpcLine { noReaders with cameraName }
          line telemetry.toSnapshot).2 }) := by
  unfold applyIpcLine
  dsimp only
  rw [if_neg (not_not.2 own), if_neg texts]

/-- The part of the snapshot with the texts is what it is without the other fields. -/
theorem applyIpcLine_snapshot (cameraName : Int → List UInt8) (line : List UInt8)
    (telemetry : Telemetry) :
    MavlinkState.applyIpcLine (streamReaders cameraName) line telemetry.toSnapshot =
      ((applyIpcLine cameraName line telemetry).1,
        (applyIpcLine cameraName line telemetry).2.toSnapshot) := by
  by_cases own : (nextWord line).1 = ascii "mav"
  · by_cases number : (nextWord (nextWord line).2).1 ∈ numberKeys
    · rw [number_line _ _ _ own number, applyNumbers_snapshot]
      unfold MavlinkState.applyIpcLine
      dsimp only
      rw [if_neg (not_not.2 own), if_pos number]
      rfl
    · rw [text_line _ _ _ own number, text_line_readers _ _ _ number]
      rfl
  · rw [foreign_line _ _ _ own]
    unfold MavlinkState.applyIpcLine
    exact if_pos own

end Glide.TelemetrySnapshot
