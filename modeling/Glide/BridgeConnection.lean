import Glide.MavlinkBridge

/-! How the telemetry bridge is started, connected and described, and the command
line of a client that connects or disconnects it. -/
namespace Glide.BridgeConnection
open Library AsciiText MavlinkPackets MavlinkBridge

/-- How binding the listening socket goes. -/
inductive StartReply where
  | socketFailed (error : Int)
  | bindFailed (error : Int)
  | bound
  deriving DecidableEq, Repr

def start (options : UdpBridgeOptions) (reply : StartReply) (bridge : UdpBridge) : UdpBridge :=
  let bridge := { close bridge with options, transport := .udp, listening := true }
  match reply with
  | .socketFailed error =>
    { bridge with lastError := ascii "UDP socket error " ++ signedDecimal error }
  | .bindFailed error =>
    close { bridge with lastError := ascii "UDP bind error " ++ signedDecimal error }
  | .bound => { bridge with running := true, peer := some {}, lastError := [] }

/-- How the host is resolved and a connection to one of its addresses made. -/
inductive ConnectReply where
  | unresolved
  | failed (error : Int)
  | connected (address : List UInt8)
  deriving DecidableEq, Repr

def transportName (transport : NetworkTransport) : List UInt8 :=
  match transport with
  | .tcp => ascii "TCP"
  | .udp => ascii "UDP"

/-- Whatever comes of it, the connection there was is closed first. -/
def connectTo (transport : NetworkTransport) (host : List UInt8) (port : UInt16)
    (reply : ConnectReply) (bridge : UdpBridge) : Bool × UdpBridge :=
  let bridge := close bridge
  if host = [] ∨ port = 0 then
    (false, { bridge with lastError := ascii "invalid telemetry endpoint" })
  else
    match reply with
    | .unresolved =>
      (false, { bridge with lastError := ascii "could not resolve telemetry host " ++ host })
    | .failed error =>
      (false, { bridge with
        lastError := ascii "could not connect telemetry " ++ transportName transport ++
          ascii " endpoint " ++ host ++ ascii ":" ++ decimal port.toNat ++
          ascii " (socket error " ++ signedDecimal error ++ ascii ")" })
    | .connected address =>
      (true, { bridge with
        running := true
        transport
        remoteHost := host
        remotePort := port
        listening := false
        peer := some (match transport with
          | .udp => { address, valid := true }
          | .tcp => {})
        lastError := [] })

/-- `listenPort` is the port the bridge was started with. -/
def connectionDescription (listenPort : UInt16) (bridge : UdpBridge) : List UInt8 :=
  if !bridge.running then ascii "Disconnected"
  else if bridge.listening then
    ascii "UDP listening 0.0.0.0:" ++ decimal listenPort.toNat
  else
    transportName bridge.transport ++ ascii " " ++ bridge.remoteHost ++ ascii ":" ++
      decimal bridge.remotePort.toNat

/-- `stream >> port` for an `unsigned int`: a number too large saturates, and a minus
negates what fits. -/
def readUnsigned (stream : List UInt8) : Nat :=
  let (negative, digits) := NumberText.takeSign (stream.dropWhile isSpace)
  let magnitude := decimalValue (digits.takeWhile isDigit)
  if digits.takeWhile isDigit = [] then 0
  else if 2 ^ 32 ≤ magnitude then 2 ^ 32 - 1
  else if negative then (2 ^ 32 - magnitude) % 2 ^ 32
  else magnitude

def openhdGroundTcpPort : Nat := 5760

/-- The words of a connect command: protocol, host and port. -/
def readConnect (line : List UInt8) : List UInt8 × List UInt8 × Nat :=
  let (_, stream) := nextWord line
  let (_, stream) := nextWord stream
  let (_, stream) := nextWord stream
  let (protocol, stream) := nextWord stream
  let (host, stream) := nextWord stream
  (protocol, host, if protocol = ascii "tcp" then openhdGroundTcpPort else readUnsigned stream)

/-- The command passes the checks that are made before the bridge is asked. -/
def validConnect (line : List UInt8) : Bool :=
  let (protocol, host, port) := readConnect line
  (protocol = ascii "tcp" || protocol = ascii "udp") && host ≠ [] && 0 < port && port ≤ 65535

/-- What a client is sent: a line for itself or one for all. -/
inductive Message where
  | to (client : BitVec 32) (line : List UInt8)
  | all (line : List UInt8)
  deriving DecidableEq, Repr

def Message.line : Message → List UInt8
  | .to _ line => line
  | .all line => line

/-- The bridge and its listening port, the connection text that clients are told, and the
messages sent. -/
structure Telemetry where
  bridge : UdpBridge
  listenPort : UInt16
  connection : List UInt8
  sent : List Message := []
  deriving DecidableEq, Repr

/-- The connect branch of `handle_telemetry_connection_line`. -/
def connectTelemetry (line : List UInt8) (reply : ConnectReply) (telemetry : Telemetry) :
    Telemetry :=
  let (protocol, host, port) := readConnect line
  let transport := if protocol = ascii "tcp" then NetworkTransport.tcp else .udp
  let attempt :=
    if validConnect line then connectTo transport host (UInt16.ofNat port) reply telemetry.bridge
    else (false, telemetry.bridge)
  { telemetry with
    bridge := attempt.2
    connection :=
      if attempt.1 then connectionDescription telemetry.listenPort attempt.2
      else ascii "Error: " ++ attempt.2.lastError }

def announce (telemetry : Telemetry) : Telemetry :=
  { telemetry with
    sent := telemetry.sent ++ [.all (ascii "state telemetry " ++ telemetry.connection)] }

/-- Whether the line is a telemetry command, and what it does. -/
def handleTelemetryConnectionLine (line : List UInt8) (client : BitVec 32) (reply : ConnectReply)
    (telemetry : Telemetry) : Bool × Telemetry :=
  if line = ascii "get telemetry connection" then
    (true, { telemetry with
      sent := telemetry.sent ++
        [.to client (ascii "state telemetry " ++ telemetry.connection)] })
  else if line = ascii "net telemetry disconnect" then
    (true, announce { telemetry with
      bridge := close telemetry.bridge, connection := ascii "Disconnected" })
  else if (ascii "net telemetry connect ").isPrefixOf line then
    (true, announce (connectTelemetry line reply telemetry))
  else (false, telemetry)

/-! ### The text and the bridge -/

/-- The text names the connection of a running bridge, and otherwise that there is none. -/
def Agrees (telemetry : Telemetry) : Prop :=
  if telemetry.bridge.running then
    telemetry.connection = connectionDescription telemetry.listenPort telemetry.bridge
  else telemetry.connection = ascii "Disconnected" ∨ ascii "Error" <+: telemetry.connection

instance : DecidablePred Agrees := fun _ => inferInstanceAs (Decidable (ite _ _ _))

theorem error_agrees (stopped : telemetry.bridge.running = false)
    (error : telemetry.connection = ascii "Error: " ++ text) : Agrees telemetry := by
  rw [Agrees, if_neg (by simp [stopped]), error]
  exact .inr (List.IsPrefix.trans (by decide) (List.prefix_append _ _))

theorem description_agrees (described : telemetry.connection =
    connectionDescription telemetry.listenPort telemetry.bridge) : Agrees telemetry := by
  unfold Agrees
  split
  · exact described
  · rename_i stopped
    rw [described, connectionDescription, if_pos (by simpa using stopped)]
    exact .inl rfl

/-- A connection attempt leaves a running bridge or a stopped one, as it reports. -/
theorem connectTo_running (transport : NetworkTransport) (host : List UInt8) (port : UInt16)
    (reply : ConnectReply) (bridge : UdpBridge) :
    (connectTo transport host port reply bridge).2.running =
      (connectTo transport host port reply bridge).1 := by
  unfold connectTo
  split
  · rfl
  · cases reply <;> rfl

/-- A valid command ends in agreement, whatever comes of the attempt; an invalid one does
if the bridge is not running. -/
theorem connectTelemetry_agrees (reply : ConnectReply) (telemetry : Telemetry)
    (valid : validConnect line = true ∨ telemetry.bridge.running = false) :
    Agrees (connectTelemetry line reply telemetry) := by
  rcases words : readConnect line with ⟨protocol, host, port⟩
  unfold connectTelemetry
  simp only [words]
  generalize (if protocol = ascii "tcp" then NetworkTransport.tcp else .udp) = transport
  by_cases checked : validConnect line = true
  · rw [if_pos checked]
    have running := connectTo_running transport host (UInt16.ofNat port) reply telemetry.bridge
    by_cases made : (connectTo transport host (UInt16.ofNat port) reply telemetry.bridge).1 = true
    · exact description_agrees (if_pos made)
    · exact error_agrees (running.trans (Bool.eq_false_of_not_eq_true made)) (if_neg made)
  · rw [if_neg checked]
    exact error_agrees (valid.resolve_left checked) rfl

/-- An invalid command while the bridge is running ends in disagreement. -/
theorem connectTelemetry_disagrees (reply : ConnectReply) (telemetry : Telemetry)
    (invalid : validConnect line = false) (running : telemetry.bridge.running = true) :
    ¬ Agrees (connectTelemetry line reply telemetry) := by
  have told : connectTelemetry line reply telemetry =
      { telemetry with connection := ascii "Error: " ++ telemetry.bridge.lastError } := by
    simp [connectTelemetry, invalid]
  rw [told, Agrees, if_pos running, connectionDescription, running]
  intro same
  have first := congrArg List.head? same
  revert first
  unfold transportName
  cases telemetry.bridge.listening <;> cases telemetry.bridge.transport <;> simp [ascii]

end Glide.BridgeConnection
