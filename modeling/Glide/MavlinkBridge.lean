import Glide.Library.NumberText
import Glide.MavlinkDecode
import Glide.MavlinkPackets

/-! The telemetry bridge to the OpenHD endpoint. It turns received frames into
text lines and action lines into packets. What the operating system returns
from the socket is given from outside: the results of the reads of one poll,
and for every write whether it took the packet, refused it or cut it short. -/
namespace Glide.MavlinkBridge
open Library AsciiText NumberText MavlinkFrames MavlinkPackets MavlinkDecode

inductive NetworkTransport where
  | udp
  | tcp
  deriving DecidableEq, Repr

structure PeerStorage where
  address : List UInt8 := []
  valid : Bool := false
  deriving DecidableEq, Repr

/-- The members of the bridge; `running` is whether `fd_` is a socket. -/
structure UdpBridge where
  running : Bool := false
  options : UdpBridgeOptions := {}
  transport : NetworkTransport := .udp
  remoteHost : List UInt8 := []
  remotePort : UInt16 := 0
  listening : Bool := false
  streamBuffer : List UInt8 := []
  sequence : UInt8 := 0
  flightControllerSystemId : UInt8 := 1
  flightControllerComponentId : UInt8 := 1
  airSystemId : UInt8 := 1
  airComponentId : UInt8 := 1
  groundSystemId : UInt8 := 100
  groundComponentId : UInt8 := 1
  lastError : List UInt8 := []
  peer : Option PeerStorage := none
  deriving DecidableEq, Repr

def close (bridge : UdpBridge) : UdpBridge :=
  { bridge with
    running := false
    peer := none
    streamBuffer := []
    remoteHost := []
    remotePort := 0
    listening := false }

/-! ### Receiving -/

/-- The result of one read: bytes with their sender, none of them at the end of
a TCP stream, or an error. -/
inductive Receive where
  | bytes (data sender : List UInt8)
  | failed (error : Int) (wouldBlock : Bool)
  deriving DecidableEq, Repr

/-- What a heartbeat tells about the system that sent it. -/
def trackHeartbeat (bridge : UdpBridge) (frame : Frame) : UdpBridge × List (List UInt8) :=
  if frame.sysid = systemIdGround then
    ({ bridge with groundSystemId := frame.sysid, groundComponentId := frame.compid }, [])
  else if frame.sysid = systemIdAir then
    ({ bridge with airSystemId := frame.sysid, airComponentId := frame.compid }, [])
  else if fromFlightController frame.payload then
    let baseMode := readLe 1 frame.payload 6
    let customMode := readLe 4 frame.payload 0
    ({ bridge with
        flightControllerSystemId := frame.sysid
        flightControllerComponentId := frame.compid },
      [ascii "mav armed " ++ (if baseMode &&& 0x80 ≠ 0 then ascii "1" else ascii "0"),
        ascii "mav mode " ++ modeFromHeartbeat baseMode customMode])
  else (bridge, [])

/-- The decoded text, split again into lines; empty lines are dropped. -/
def decodedLines (frame : Frame) : List (List UInt8) :=
  match decodeFrame frame with
  | some decoded => (lines decoded).filter (· ≠ [])
  | none => []

/-- The effect of one frame on the bridge, and the lines it contributes. -/
def handleFrame (bridge : UdpBridge) (frame : Frame) : UdpBridge × List (List UInt8) :=
  let tracked := if frame.msgid = 0 then trackHeartbeat bridge frame else (bridge, [])
  (tracked.1, tracked.2 ++ decodedLines frame)

def handleFrames (bridge : UdpBridge) : List Frame → UdpBridge × List (List UInt8)
  | [] => (bridge, [])
  | frame :: rest =>
    let first := handleFrame bridge frame
    let later := handleFrames first.1 rest
    (later.1, first.2 ++ later.2)

/-- The frames of one read, and the bridge that keeps the rest of the stream or
the sender of the datagram. -/
def receiveFrames (bridge : UdpBridge) (data sender : List UInt8) : UdpBridge × List Frame :=
  match bridge.transport with
  | .tcp =>
    let parsed := parseStream (bridge.streamBuffer ++ data)
    ({ bridge with streamBuffer := parsed.2 }, parsed.1)
  | .udp =>
    ({ bridge with peer := bridge.peer.map fun _ => { address := sender, valid := true } },
      parseDatagram data)

/-- The read loop of `poll`; it ends at the first read without bytes. -/
def pollReads (bridge : UdpBridge) : List Receive → UdpBridge × List (List UInt8)
  | [] => (bridge, [])
  | .failed error wouldBlock :: _ =>
    if wouldBlock then (bridge, [])
    else
      ({ bridge with lastError := ascii "telemetry receive error " ++ signedDecimal error }, [])
  | .bytes [] _ :: _ =>
    match bridge.transport with
    | .tcp => (close { bridge with lastError := ascii "TCP telemetry peer disconnected" }, [])
    | .udp => (bridge, [])
  | .bytes data sender :: rest =>
    let received := receiveFrames bridge data sender
    let handled := handleFrames received.1 received.2
    let later := pollReads handled.1 rest
    (later.1, handled.2 ++ later.2)

def poll (bridge : UdpBridge) (reads : List Receive) : UdpBridge × List (List UInt8) :=
  if bridge.running then pollReads bridge reads else (bridge, [])

/-! ### Sending -/

/-- The result of a nonblocking write: all of the packet, none of it, or only
its first bytes. -/
inductive WriteOutcome where
  | complete
  | refused
  | short (count : Nat)
  deriving DecidableEq, Repr

/-- The bytes a write takes. A short write takes at least one byte and leaves
at least one. -/
def WriteOutcome.taken (outcome : WriteOutcome) (packet : List UInt8) : List UInt8 :=
  match outcome with
  | .complete => packet
  | .refused => []
  | .short count => packet.take (max 1 (min count (packet.length - 1)))

/-- One call of `send_packet`: its packet and sequence number, the bytes that
reached the stream and what it returned. -/
structure SendCall where
  packet : Packet
  sequence : UInt8
  written : List UInt8
  result : Bool
  deriving DecidableEq, Repr

/-- The socket as the bridge sees it: the outcomes of the writes to come, by
number, and the calls so far. -/
structure Socket where
  outcome : Nat → WriteOutcome
  writes : Nat := 0
  calls : List SendCall := []

/-- The bytes the peer has received. -/
def Socket.stream (socket : Socket) : List UInt8 := socket.calls.flatMap SendCall.written

/-- The bridge and its socket. -/
structure Endpoint where
  bridge : UdpBridge
  socket : Socket

def sendPacket (endpoint : Endpoint) (packet : Packet) : Bool × Endpoint :=
  let ⟨bridge, socket⟩ := endpoint
  let call := SendCall.mk packet bridge.sequence
  if ¬bridge.running ∨ packet.payload.length > 255 ∨
      (bridge.transport = .udp ∧ ¬(bridge.peer.map PeerStorage.valid).getD false) then
    (false, ⟨bridge, { socket with calls := socket.calls ++ [call [] false] }⟩)
  else
    let bytes := packetBytes bridge.options bridge.sequence packet
    let written := (socket.outcome socket.writes).taken bytes
    let sent := decide (written.length = bytes.length)
    (sent, ⟨{ bridge with sequence := bridge.sequence + 1 },
      { socket with
        writes := socket.writes + 1
        calls := socket.calls ++ [call written sent] }⟩)

/-! ### Actions -/

def componentIdCameraPrimary : UInt8 := 100
def componentIdCameraSecondary : UInt8 := 101
def componentIdLink : UInt8 := 191

def targetSystemFor (target : List UInt8) (air ground fc : UInt8) : UInt8 :=
  if target = ascii "ground" then systemIdGround
  else if target = ascii "fc" then fc
  else if target = ascii "air" ∨ target = ascii "camera1" ∨ target = ascii "camera2" then systemIdAir
  else if air ≠ 0 then air
  else if ground ≠ 0 then ground
  else systemIdAir

def targetComponentFor (target : List UInt8) (air ground fc : UInt8) : UInt8 :=
  if target = ascii "camera1" then componentIdCameraPrimary
  else if target = ascii "camera2" then componentIdCameraSecondary
  else if target = ascii "ground" then componentIdLink
  else if target = ascii "fc" then fc
  else if target = ascii "air" then componentIdLink
  else if air ≠ 0 then air
  else if ground ≠ 0 then ground
  else componentIdLink

/-- `width` bytes of a number, low byte first. -/
def putLe : Nat → Nat → List UInt8
  | 0, _ => []
  | width + 1, value => UInt8.ofNat value :: putLe width (value / 256)

def putFixedString (value : List UInt8) (length : Nat) : List UInt8 :=
  let copy := min value.length length
  value.take copy ++ List.replicate (length - copy) 0

/-- What `c_str()` shows of a string. -/
def cStr (text : List UInt8) : List UInt8 := text.takeWhile (· ≠ 0)

def targetBytes (bridge : UdpBridge) (target : List UInt8) : List UInt8 :=
  [targetSystemFor target bridge.airSystemId bridge.groundSystemId bridge.flightControllerSystemId,
    targetComponentFor target bridge.airComponentId bridge.groundComponentId
      bridge.flightControllerComponentId]

/-- The payload of PARAM_SET; none when the value is not a number. -/
def paramSetPayload (platform : Platform) (bridge : UdpBridge) (target name value : List UInt8) :
    Option (List UInt8) :=
  let (numeric, ending) := strtof platform (cStr value)
  if ending = cStr value ∨ ending ≠ [] then none
  else
    some (putLe 4 numeric.toNat ++ targetBytes bridge target ++ putFixedString name 16 ++ [9])

def sendParamSet (platform : Platform) (endpoint : Endpoint) (target name value : List UInt8) :
    Bool × Endpoint :=
  match paramSetPayload platform endpoint.bridge target name value with
  | none => (false, endpoint)
  | some payload => sendPacket endpoint ⟨23, 168, payload⟩

/-- The payload of PARAM_EXT_SET: a 32-bit integer where the value is one, and
text otherwise. -/
def paramExtSetPayload (platform : Platform) (bridge : UdpBridge)
    (target name value : List UInt8) : List UInt8 :=
  let (integerValue, integerEnd) := strtol platform (cStr value)
  let isInteger := integerEnd ≠ cStr value ∧ integerEnd = [] ∧
    -(2 ^ 31) ≤ integerValue ∧ integerValue ≤ 2 ^ 31 - 1
  targetBytes bridge target ++ putFixedString name 16 ++
    if isInteger then
      putLe 4 (integerValue % 2 ^ 32).toNat ++ List.replicate 124 0 ++ [6]
    else putFixedString value 128 ++ [11]

def sendParamExtSet (platform : Platform) (endpoint : Endpoint) (target name value : List UInt8) :
    Bool × Endpoint :=
  sendPacket endpoint ⟨323, 78, paramExtSetPayload platform endpoint.bridge target name value⟩

/-- Single-precision constants of the commands. -/
def quietNan : Nat := 0x7fc00000
def one : Nat := 0x3f800000
def minusOne : Nat := 0xbf800000
def two : Nat := 0x40000000
def five : Nat := 0x40a00000
def fortyFive : Nat := 0x42340000
def minusFortyFive : Nat := 0xc2340000

/-- The command number, its seven parameters and the component it is for;
`none` for an unknown command. -/
def commandLong (bridge : UdpBridge) (command : List UInt8) : Option (Nat × List Nat × UInt8) :=
  let gimbal := ["siyi-gimbal-up", "siyi-gimbal-down", "siyi-gimbal-left", "siyi-gimbal-right"]
  let zoom := ["siyi-zoom-in", "siyi-zoom-out", "siyi-zoom-stop"]
  let focus := ["siyi-focus-near", "siyi-focus-far", "siyi-focus-stop"]
  if command = ascii "scan" then some (31000, [0, 0, 0, 0, 0, 0, 0], bridge.airComponentId)
  else if command = ascii "siyi-gimbal-stop" then
    some (1000, [quietNan, quietNan, 0, 0, 0, 0, 0], 100)
  else if command ∈ gimbal.map ascii then
    let pitch := if command = ascii "siyi-gimbal-up" then fortyFive
      else if command = ascii "siyi-gimbal-down" then minusFortyFive else 0
    let yaw := if command = ascii "siyi-gimbal-right" then fortyFive
      else if command = ascii "siyi-gimbal-left" then minusFortyFive else 0
    some (1000, [quietNan, quietNan, pitch, yaw, 0, 0, 0], 100)
  else if command = ascii "siyi-gimbal-center" then
    some (1000, [quietNan, quietNan, 0, 0, two, 0, 0], 100)
  else if command ∈ zoom.map ascii then
    let direction := if command = ascii "siyi-zoom-in" then one
      else if command = ascii "siyi-zoom-out" then minusOne else 0
    some (531, [one, direction, 0, 0, 0, 0, 0], 100)
  else if command ∈ focus.map ascii then
    let direction := if command = ascii "siyi-focus-far" then one
      else if command = ascii "siyi-focus-near" then minusOne else 0
    some (532, [one, direction, 0, 0, 0, 0, 0], 100)
  else if command = ascii "siyi-autofocus" then some (532, [five, 0, 0, 0, 0, 0, 0], 100)
  else if command = ascii "siyi-photo" then some (2000, [0, 0, one, 0, 0, 0, 0], 100)
  else if command = ascii "siyi-record-start" then some (2500, [0, 0, 0, 0, 0, 0, 0], 100)
  else if command = ascii "siyi-record-stop" then some (2501, [0, 0, 0, 0, 0, 0, 0], 100)
  else none

def sendCommandLong (endpoint : Endpoint) (command : List UInt8) : Bool × Endpoint :=
  match commandLong endpoint.bridge command with
  | none => (false, endpoint)
  | some (commandId, params, targetComponent) =>
    let payload := params.flatMap (putLe 4) ++ putLe 2 commandId ++
      [endpoint.bridge.airSystemId, targetComponent, 0]
    sendPacket endpoint ⟨76, 152, payload⟩

/-- The rest of the line, without one leading space. -/
def restOfLine (stream : List UInt8) : List UInt8 :=
  match stream.takeWhile (· ≠ 10) with
  | 32 :: value => value
  | value => value

def handleActionLine (platform : Platform) (endpoint : Endpoint) (line : List UInt8) :
    Bool × Endpoint :=
  let (start, stream) := nextWord line
  let (action, stream) := nextWord stream
  if start ≠ ascii "mav" then (false, endpoint)
  else if action = ascii "set" then
    let (target, stream) := nextWord stream
    let (name, stream) := nextWord stream
    let value := restOfLine stream
    let extended := sendParamExtSet platform endpoint target name value
    if extended.1 then extended else sendParamSet platform extended.2 target name value
  else if action = ascii "command" then
    let (command, _) := nextWord stream
    sendCommandLong endpoint command
  else (false, endpoint)

end Glide.MavlinkBridge
