import Glide.Library.BinaryFloat
import Glide.MavlinkFrames
import Mathlib.Data.List.DropRight

/-! The lines a telemetry frame is decoded to. Fields are read at fixed offsets
of the payload; a field that is not wholly present reads as zero, and strings
end at their first zero byte. -/
namespace Glide.MavlinkDecode
open Library AsciiText BinaryFloat MavlinkFrames

/-! ### Constants of the OpenHD protocol -/

def systemIdGround : UInt8 := 100
def systemIdAir : UInt8 := 101

@[match_pattern] def statsMonitorModeWifiLinkMessageId : Nat := 1211
@[match_pattern] def statsMonitorModeWifiCardMessageId : Nat := 1212
@[match_pattern] def coreStatusMessageId : Nat := 1227

def wifiLinkFrequencyMhzOffset : Nat := 26
def wifiLinkRateKbitsOffset : Nat := 28
def wifiLinkPacketLossOffset : Nat := 32
def wifiLinkChannelWidthOffset : Nat := 33
def wifiLinkMcsIndexOffset : Nat := 34
def wifiLinkSnrAntenna1Offset : Nat := 38
def wifiLinkSnrAntenna2Offset : Nat := 39
def wifiLinkTemperatureOffset : Nat := 40

def wifiCardTypeOffset : Nat := 21
def wifiCardRssiOffset : Nat := 23
def wifiCardQualityOffset : Nat := 29
def wifiCardSnrAntenna1Offset : Nat := 34
def wifiCardSnrAntenna2Offset : Nat := 35
def wifiCardTemperatureOffset : Nat := 36

def coreStatusCpuTemperatureOffset : Nat := 14
def coreStatusPlatformTypeOffset : Nat := 18

/-- The names of the wifi card types, by id. -/
def wifiCardIds : List (Nat × List UInt8) :=
  [(0, ascii "OPENHD_RTL_88X2AU"), (1, ascii "OPENHD_RTL_88X2BU"), (2, ascii "OPENHD_RTL_88X2CU"),
    (3, ascii "OPENHD_RTL_88X2EU"), (4, ascii "RTL_88X2AU"), (5, ascii "RTL_88X2BU"),
    (6, ascii "ATHEROS"), (7, ascii "MT_7921u"), (8, ascii "RALINK"), (9, ascii "INTEL"),
    (10, ascii "BROADCOM"), (11, ascii "OPENHD_RTL_8852BU"), (12, ascii "OPENHD_EMULATED"),
    (13, ascii "AIC"), (14, ascii "QUALCOMM"), (15, ascii "UNKNOWN"), (16, ascii "ARTOSYN")]

/-- `wifi_card::type_to_string`. -/
def wifiCardTypeToString (cardType : Nat) : List UInt8 :=
  ((wifiCardIds.find? fun entry => entry.1 = cardType).map Prod.snd).getD (ascii "UNKNOWN")

/-! ### Reading fields -/

def littleEndian (bytes : List UInt8) : Nat :=
  bytes.foldr (fun byte value => byte.toNat + 256 * value) 0

/-- An unsigned field of `width` bytes; zero unless all of them are present. -/
def readLe (width : Nat) (payload : List UInt8) (offset : Nat) : Nat :=
  if offset + width ≤ payload.length then littleEndian ((payload.drop offset).take width) else 0

/-- A signed field, in two's complement. -/
def readSigned (width : Nat) (payload : List UInt8) (offset : Nat) : Int :=
  let value := readLe width payload offset
  if value < 2 ^ (8 * width - 1) then value else (value : Int) - 2 ^ (8 * width)

def readFloat (payload : List UInt8) (offset : Nat) : FloatValue :=
  decodeBits binary32 (readLe 4 payload offset)

def readI8 (payload : List UInt8) (offset : Nat) : Int := readSigned 1 payload offset

theorem littleEndian_lt (bytes : List UInt8) : littleEndian bytes < 256 ^ bytes.length := by
  induction bytes with
  | nil => simp [littleEndian]
  | cons byte rest ih =>
    have small := byte.toNat_lt
    simp only [littleEndian, List.foldr_cons, List.length_cons, pow_succ] at ih ⊢
    omega

theorem readLe_small (width : Nat) (payload : List UInt8) (offset : Nat) :
    readLe width payload offset < 256 ^ width := by
  unfold readLe
  split
  · have small := littleEndian_lt ((payload.drop offset).take width)
    rw [List.length_take, List.length_drop, Nat.min_eq_left (by omega)] at small
    exact small
  · exact Nat.pow_pos (by decide)

theorem readI8_small (payload : List UInt8) (offset : Nat) :
    -128 ≤ readI8 payload offset ∧ readI8 payload offset ≤ 127 := by
  have small := readLe_small 1 payload offset
  unfold readI8 readSigned
  dsimp only
  split
  · omega
  · omega

theorem readI32_range (payload : List UInt8) (offset : Nat) :
    -2 ^ 31 ≤ readSigned 4 payload offset ∧ readSigned 4 payload offset < 2 ^ 31 := by
  have small := readLe_small 4 payload offset
  unfold readSigned
  dsimp only
  split
  · omega
  · omega

/-- A string field: up to its first zero byte, without trailing spaces. -/
def cString (payload : List UInt8) (offset length : Nat) : List UInt8 :=
  if payload.length ≤ offset then []
  else
    let count := min length (payload.length - offset)
    (((payload.drop offset).take count).takeWhile (· ≠ 0)).rdropWhile (· = 32)

def trimPayloadString (text : List UInt8) : List UInt8 :=
  (text.filter (· ≠ 13)).filter (· ≠ 10)

/-- The name of the flight mode in a heartbeat. -/
def modeFromHeartbeat (baseMode customMode : Nat) : List UInt8 :=
  if baseMode &&& 0x80 = 0 then ascii "Disarmed"
  else if customMode ≠ 0 then ascii "Mode " ++ decimal customMode
  else ascii "Armed"

/-! ### The messages -/

/-- A heartbeat that is not one of ground or air counts as the flight controller's
unless it says it has no autopilot and is no known vehicle. -/
def fromFlightController (payload : List UInt8) : Bool :=
  let type := readLe 1 payload 4
  let autopilot := readLe 1 payload 5
  autopilot ≠ 8 || type = 1 || type = 2 || type = 13 || type = 14 || type = 15

def decodeHeartbeat (frame : Frame) : Option (List UInt8) :=
  if frame.sysid = systemIdGround then some (ascii "mav alive ground 1")
  else if frame.sysid = systemIdAir then some (ascii "mav alive air 1")
  else if fromFlightController frame.payload then some (ascii "mav alive fc 1")
  else none

/-- An integer field in thousandths, divided in single precision. -/
def thousandths (number : Int) : List UInt8 :=
  fixedText 2 (divide binary32 (ofInt binary32 number) (ofInt binary32 1000))

/-- An angle in ten-millionths of a degree, divided in double precision. -/
def degrees (number : Int) : List UInt8 :=
  fixedText 7 (divide binary64 (ofInt binary64 number) (ofInt binary64 10000000))

def decodeSysStatus (p : List UInt8) : Option (List UInt8) :=
  let voltageMv := readLe 2 p 14
  let batteryRemaining := readSigned 1 p 30
  if voltageMv > 0 ∨ batteryRemaining ≥ 0 then
    some (ascii "mav battery " ++ thousandths voltageMv ++ [32] ++ signedDecimal batteryRemaining)
  else none

def decodeParamValue (p : List UInt8) : Option (List UInt8) :=
  let value := readFloat p 0
  let name := cString p 8 16
  if name ≠ [] then some (ascii "mav param auto " ++ name ++ [32] ++ fixedText 2 value) else none

def positionText (lat lon alt : Int) : List UInt8 :=
  ascii "mav position " ++ degrees lat ++ [32] ++ degrees lon ++ [32] ++ thousandths alt

def decodeGpsRawInt (p : List UInt8) : Option (List UInt8) :=
  let lat := readSigned 4 p 8
  let lon := readSigned 4 p 12
  let alt := readSigned 4 p 16
  let satellites := readLe 1 p 29
  some (positionText lat lon alt ++ ascii "\nmav gps " ++ decimal satellites)

/-- `57.29577951308232F`. -/
def radToDeg : FloatValue := decodeBits binary32 0x42652ee1

def angle (p : List UInt8) (offset : Nat) : List UInt8 :=
  fixedText 2 (multiply binary32 (readFloat p offset) radToDeg)

def decodeAttitude (p : List UInt8) : Option (List UInt8) :=
  some (ascii "mav attitude " ++ angle p 4 ++ [32] ++ angle p 8 ++ [32] ++ angle p 12)

def decodeGlobalPositionInt (p : List UInt8) : Option (List UInt8) :=
  let lat := readSigned 4 p 4
  let lon := readSigned 4 p 8
  let relativeAlt := readSigned 4 p 16
  some (positionText lat lon relativeAlt)

def decodeRcChannels (p : List UInt8) : Option (List UInt8) :=
  some (ascii "mav rc" ++ [4, 6, 8, 10].flatMap fun offset => 32 :: decimal (readLe 2 p offset))

def decodeVfrHud (p : List UInt8) : Option (List UInt8) :=
  some (ascii "mav speed " ++ fixedText 2 (readFloat p 16) ++ [32] ++ fixedText 2 (readFloat p 0))

def decodeStatustext (p : List UInt8) : Option (List UInt8) :=
  let severity := readLe 1 p 0
  let text := trimPayloadString (cString p 1 (if p.length > 51 then 254 else 50))
  if text ≠ [] then
    some (ascii "mav message [" ++ decimal severity ++ ascii "] " ++ text)
  else none

/-- The value of a PARAM_EXT_VALUE by its type; unknown types are text. -/
def paramExtValue (p : List UInt8) : List UInt8 :=
  match readLe 1 p 148 with
  | 1 => decimal (readLe 1 p 20)
  | 2 => signedDecimal (readSigned 1 p 20)
  | 3 => decimal (readLe 2 p 20)
  | 4 => signedDecimal (readSigned 2 p 20)
  | 5 => decimal (readLe 4 p 20)
  | 6 => signedDecimal (readSigned 4 p 20)
  | 7 => decimal (readLe 8 p 20)
  | 8 => signedDecimal (readSigned 8 p 20)
  | 9 => fixedText 2 (readFloat p 20)
  | 10 => fixedText 2 (decodeBits binary64 (readLe 8 p 20))
  | _ => cString p 20 128

def decodeParamExtValue (p : List UInt8) : Option (List UInt8) :=
  let name := cString p 4 16
  if name ≠ [] then some (ascii "mav param auto " ++ name ++ [32] ++ paramExtValue p) else none

def decodeWifiLink (p : List UInt8) : Option (List UInt8) :=
  let frequencyMhz := readLe 2 p wifiLinkFrequencyMhzOffset
  let rateKbits := readLe 2 p wifiLinkRateKbitsOffset
  let channelWidthMhz := readLe 1 p wifiLinkChannelWidthOffset
  let mcsIndex := readLe 1 p wifiLinkMcsIndexOffset
  let packetLoss := max 0 (min (readI8 p wifiLinkPacketLossOffset) 100)
  let rcQuality := 100 - packetLoss
  some (ascii "mav openhd wifi_link " ++ decimal frequencyMhz ++ [32] ++ decimal channelWidthMhz ++
    [32] ++ decimal mcsIndex ++ [32] ++ thousandths rateKbits ++ [32] ++ signedDecimal rcQuality ++
    [32] ++ signedDecimal (readI8 p wifiLinkSnrAntenna1Offset) ++
    [32] ++ signedDecimal (readI8 p wifiLinkSnrAntenna2Offset) ++
    [32] ++ signedDecimal (readI8 p wifiLinkTemperatureOffset))

def decodeWifiCard (frame : Frame) : Option (List UInt8) :=
  let p := frame.payload
  let cardType := readLe 1 p wifiCardTypeOffset
  some (ascii "mav openhd wifi_card " ++ signedDecimal (readI8 p wifiCardRssiOffset) ++
    [32] ++ signedDecimal (max 0 (min (readI8 p wifiCardQualityOffset) 100)) ++
    [32] ++ signedDecimal (readI8 p wifiCardSnrAntenna1Offset) ++
    [32] ++ signedDecimal (readI8 p wifiCardSnrAntenna2Offset) ++
    [32] ++ signedDecimal (readI8 p wifiCardTemperatureOffset) ++ [10] ++ ascii "mav param auto " ++
    (if frame.sysid = systemIdGround then ascii "GROUND_CHIPSET " else ascii "AIR_CHIPSET ") ++
    wifiCardTypeToString cardType)

def decodeCoreStatus (p : List UInt8) : Option (List UInt8) :=
  some (ascii "mav openhd core " ++ signedDecimal (readI8 p coreStatusCpuTemperatureOffset) ++
    [32] ++ decimal (readLe 1 p coreStatusPlatformTypeOffset))

def decodeFrame (frame : Frame) : Option (List UInt8) :=
  let p := frame.payload
  match frame.msgid.toNat with
  | 0 => decodeHeartbeat frame
  | 1 => decodeSysStatus p
  | 22 => decodeParamValue p
  | 24 => decodeGpsRawInt p
  | 30 => decodeAttitude p
  | 33 => decodeGlobalPositionInt p
  | 65 => decodeRcChannels p
  | 74 => decodeVfrHud p
  | 253 => decodeStatustext p
  | 322 => decodeParamExtValue p
  | statsMonitorModeWifiLinkMessageId => decodeWifiLink p
  | statsMonitorModeWifiCardMessageId => decodeWifiCard frame
  | coreStatusMessageId => decodeCoreStatus p
  | _ => none

end Glide.MavlinkDecode
