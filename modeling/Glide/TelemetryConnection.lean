import Glide.Library.Runs
import Glide.RuntimeControls
import Glide.TcpSending

/-! The connection text that the control loops tell their clients, against the state
of the bridge. A loop polls the bridge, which closes itself when a TCP peer ends the
stream, and handles the lines of its clients. -/
namespace Glide.TelemetryConnection
open Library AsciiText NumberText StringConversions MavlinkBridge BridgeConnection RuntimeControls

/-- How the bridge is configured and how its socket is bound. -/
structure Options where
  mavlinkUdp : Bool := true
  mavlinkUdpPort : UInt16 := 14550

/-- The state in which a loop is entered. The stack loops ask the bridge for its text. -/
def startLoop (loop : ControlLoop) (options : Options) (reply : StartReply) (controls : RuntimeControlState)
    (socket : Socket) (themes : PreviewControl.ThemeFiles) (discovery : DiscoveryService) : Controller :=
  let bridge := if options.mavlinkUdp then start {} reply {} else {}
  let connection :=
    match loop with
    | .kmsVideoPreview => ascii "Disconnected"
    | .previewStack | .kmsStack => connectionDescription options.mavlinkUdpPort bridge
  { state := controls
    telemetry := { bridge, listenPort := options.mavlinkUdpPort, connection }
    socket, themes, discovery }

inductive Event where
  | bridge (reads : List Receive)
  | line (client : BitVec 32) (text : List UInt8) (reply : LineReply)

/-- The part of a loop that polls the bridge. Only the video preview looks for a lost
TCP connection. -/
def pollBridge (loop : ControlLoop) (reads : List Receive) (controller : Controller) : Controller :=
  let polled := poll controller.telemetry.bridge reads
  let telemetry := { controller.telemetry with
    bridge := polled.1, sent := controller.telemetry.sent ++ polled.2.map .all }
  { controller with
    telemetry :=
      if loop = .kmsVideoPreview ∧ (ascii "TCP ").isPrefixOf telemetry.connection ∧
          telemetry.bridge.running = false then
        announce { telemetry with connection := ascii "Error: " ++ telemetry.bridge.lastError }
      else telemetry }

/-- An exception ends the program. -/
def step (platform : Platform) (loop : ControlLoop) :
    Except CppException Controller → Event → Except CppException Controller
  | .error exception, _ => .error exception
  | .ok controller, .bridge reads => .ok (pollBridge loop reads controller)
  | .ok controller, .line client text reply => handleLine platform loop client text reply controller

/-- The reads end a stream: one without bytes follows reads with bytes. -/
def endOfStream : List Receive → Bool
  | .bytes [] _ :: _ => true
  | .bytes (_ :: _) _ :: rest => endOfStream rest
  | _ => false

def isConnectCommand (line : List UInt8) : Bool := (ascii "net telemetry connect ").isPrefixOf line

/-- A stack loop does not find the stream of a TCP peer at its end, and no connect command
is malformed while the bridge runs. -/
def Orderly (loop : ControlLoop) (controller : Controller) : Event → Prop
  | .bridge reads => loop = .kmsVideoPreview ∨
      ¬(controller.telemetry.bridge.running = true ∧ controller.telemetry.bridge.transport = .tcp ∧
        endOfStream reads = true)
  | .line _ text _ => controller.telemetry.bridge.running = true → isConnectCommand text = true →
      validConnect text = true

def OrderlyRunning (loop : ControlLoop) : Except CppException Controller → Event → Prop
  | .ok controller, event => Orderly loop controller event
  | .error _, _ => True

/-- The user interface reconnects by itself while the text it was told is not this. -/
def showsTcp (status : List UInt8) : Bool := (ascii "TCP ").isPrefixOf status

/-! ### The bridge under a poll -/

/-- The members that the text is made of. -/
structure SameConnection (before after : UdpBridge) : Prop where
  running : after.running = before.running
  transport : after.transport = before.transport
  remoteHost : after.remoteHost = before.remoteHost
  remotePort : after.remotePort = before.remotePort
  listening : after.listening = before.listening

theorem SameConnection.refl (bridge : UdpBridge) : SameConnection bridge bridge :=
  ⟨rfl, rfl, rfl, rfl, rfl⟩

theorem SameConnection.trans (first : SameConnection before middle)
    (second : SameConnection middle after) : SameConnection before after where
  running := second.running.trans first.running
  transport := second.transport.trans first.transport
  remoteHost := second.remoteHost.trans first.remoteHost
  remotePort := second.remotePort.trans first.remotePort
  listening := second.listening.trans first.listening

theorem handleFrame_connection (bridge : UdpBridge) (frame : MavlinkFrames.Frame) :
    SameConnection bridge (handleFrame bridge frame).1 := by
  unfold handleFrame trackHeartbeat
  dsimp only
  split
  · split
    · exact ⟨rfl, rfl, rfl, rfl, rfl⟩
    · split
      · exact ⟨rfl, rfl, rfl, rfl, rfl⟩
      · split <;> exact ⟨rfl, rfl, rfl, rfl, rfl⟩
  · exact .refl bridge

theorem handleFrames_connection (bridge : UdpBridge) (frames : List MavlinkFrames.Frame) :
    SameConnection bridge (handleFrames bridge frames).1 := by
  induction frames generalizing bridge with
  | nil => exact .refl bridge
  | cons frame rest ih => exact (handleFrame_connection bridge frame).trans (ih _)

theorem receiveFrames_connection (bridge : UdpBridge) (data sender : List UInt8) :
    SameConnection bridge (receiveFrames bridge data sender).1 := by
  unfold receiveFrames
  split <;> exact ⟨rfl, rfl, rfl, rfl, rfl⟩

/-- Only the end of a TCP stream changes the connection: the bridge is closed. -/
theorem pollReads_connection (bridge : UdpBridge) (reads : List Receive) :
    if bridge.transport = .tcp ∧ endOfStream reads = true then
      (pollReads bridge reads).1.running = false ∧ (pollReads bridge reads).1.listening = false
    else SameConnection bridge (pollReads bridge reads).1 := by
  induction reads generalizing bridge with
  | nil =>
    rw [if_neg fun ended => Bool.false_ne_true ended.2]
    exact .refl bridge
  | cons read rest ih =>
    rcases read with ⟨data, sender⟩ | ⟨error, wouldBlock⟩
    · cases data with
      | nil =>
        cases transport : bridge.transport <;>
          simp [pollReads, endOfStream, transport, close, SameConnection.refl]
      | cons byte data =>
        have handled := (receiveFrames_connection bridge (byte :: data) sender).trans
          (handleFrames_connection _ (receiveFrames bridge (byte :: data) sender).2)
        have later := ih (handleFrames (receiveFrames bridge (byte :: data) sender).1
          (receiveFrames bridge (byte :: data) sender).2).1
        rw [handled.transport] at later
        unfold pollReads endOfStream
        split
        · rename_i ended
          rwa [if_pos ended] at later
        · rename_i goes_on
          rw [if_neg goes_on] at later
          exact handled.trans later
    · rw [if_neg fun ended => Bool.false_ne_true ended.2]
      cases wouldBlock
      · exact ⟨rfl, rfl, rfl, rfl, rfl⟩
      · exact .refl bridge

theorem SameConnection.description (same : SameConnection before after) (listenPort : UInt16) :
    connectionDescription listenPort after = connectionDescription listenPort before := by
  simp only [connectionDescription, same.running, same.listening, same.transport, same.remoteHost,
    same.remotePort]

theorem SameConnection.agrees {telemetry : Telemetry} (same : SameConnection telemetry.bridge after)
    (sent : List Message) (agrees : Agrees telemetry) :
    Agrees { telemetry with bridge := after, sent } := by
  unfold Agrees at agrees ⊢
  dsimp only
  rwa [same.running, same.description]

theorem sendPacket_connection (endpoint : Endpoint) (packet : MavlinkPackets.Packet) :
    SameConnection endpoint.bridge (sendPacket endpoint packet).2.bridge := by
  unfold sendPacket
  dsimp only
  split <;> exact ⟨rfl, rfl, rfl, rfl, rfl⟩

theorem handleActionLine_connection (platform : Platform) (endpoint : Endpoint) (line : List UInt8) :
    SameConnection endpoint.bridge (handleActionLine platform endpoint line).2.bridge := by
  obtain same | ⟨payload, same⟩ | ⟨payload, same⟩ | ⟨extended, payload, _, same⟩ :=
    TcpSending.handleActionLine_cases platform endpoint line <;> rw [same]
  · exact .refl endpoint.bridge
  · exact sendPacket_connection endpoint _
  · exact sendPacket_connection endpoint _
  · exact (sendPacket_connection endpoint _).trans (sendPacket_connection _ _)

/-! ### The text in a run -/

/-- The text agrees, and only a UDP bridge listens. -/
structure Sound (telemetry : Telemetry) : Prop where
  agrees : Agrees telemetry
  listening_udp : telemetry.bridge.listening = true → telemetry.bridge.transport = .udp

theorem Sound.keeps {telemetry : Telemetry} (sound : Sound telemetry)
    (same : SameConnection telemetry.bridge after) (sent : List Message) :
    Sound { telemetry with bridge := after, sent } where
  agrees := same.agrees sent sound.agrees
  listening_udp := by
    dsimp only
    rw [same.listening, same.transport]
    exact sound.listening_udp

/-- A running TCP bridge shows in the text. -/
theorem Sound.shows_tcp {telemetry : Telemetry} (sound : Sound telemetry)
    (running : telemetry.bridge.running = true) (tcp : telemetry.bridge.transport = .tcp) :
    (ascii "TCP ").isPrefixOf telemetry.connection = true := by
  have unheard : telemetry.bridge.listening = false := by
    cases listening : telemetry.bridge.listening with
    | false => rfl
    | true =>
      have udp := sound.listening_udp listening
      rw [tcp] at udp
      exact NetworkTransport.noConfusion udp
  have agrees := sound.agrees
  rw [Agrees, if_pos running] at agrees
  rw [agrees, connectionDescription, running, unheard, tcp]
  rfl

theorem announce_sound (agrees : Agrees telemetry)
    (listening_udp : telemetry.bridge.listening = true → telemetry.bridge.transport = .udp) :
    Sound (announce telemetry) := ⟨agrees, listening_udp⟩

/-- A connection attempt ends the listening. -/
theorem connectTo_listening (transport : NetworkTransport) (host : List UInt8) (port : UInt16)
    (reply : ConnectReply) (bridge : UdpBridge) :
    (connectTo transport host port reply bridge).2.listening = false := by
  unfold connectTo
  split
  · rfl
  · cases reply <;> rfl

/-- A bridge that was not asked to listen, or could not, is stopped. -/
theorem start_stopped (options : MavlinkPackets.UdpBridgeOptions) (failed : reply ≠ .bound)
    (bridge : UdpBridge) : (start options reply bridge).running = false := by
  cases reply with
  | bound => exact absurd rfl failed
  | socketFailed error => rfl
  | bindFailed error => rfl

theorem start_udp (options : MavlinkPackets.UdpBridgeOptions) (reply : StartReply)
    (bridge : UdpBridge) : (start options reply bridge).transport = .udp := by
  cases reply <;> rfl

theorem startLoop_sound (loop : ControlLoop) (options : Options) (reply : StartReply)
    (controls : RuntimeControlState) (socket : Socket) (themes : PreviewControl.ThemeFiles)
    (discovery : DiscoveryService)
    (stopped : loop = .kmsVideoPreview → options.mavlinkUdp = true → reply ≠ .bound) :
    Sound (startLoop loop options reply controls socket themes discovery).telemetry where
  agrees := by
    cases loop with
    | previewStack => exact description_agrees rfl
    | kmsStack => exact description_agrees rfl
    | kmsVideoPreview =>
      have silent : (if options.mavlinkUdp then start {} reply {} else {}).running = false := by
        split
        · rename_i asked
          exact start_stopped {} (stopped rfl asked) {}
        · rfl
      have stays : ¬(startLoop .kmsVideoPreview options reply controls socket themes
          discovery).telemetry.bridge.running = true := by
        rw [Bool.not_eq_true]
        exact silent
      rw [Agrees, if_neg stays]
      exact .inl rfl
  listening_udp := by
    intro _
    change (if options.mavlinkUdp then start {} reply {} else {}).transport = .udp
    split
    · exact start_udp {} reply {}
    · rfl

theorem pollBridge_sound (loop : ControlLoop) (reads : List Receive) (controller : Controller)
    (sound : Sound controller.telemetry) (orderly : Orderly loop controller (.bridge reads)) :
    Sound (pollBridge loop reads controller).telemetry := by
  have polled : controller.telemetry.bridge.running = true →
      if controller.telemetry.bridge.transport = .tcp ∧ endOfStream reads = true then
        (poll controller.telemetry.bridge reads).1.running = false ∧
          (poll controller.telemetry.bridge reads).1.listening = false
      else SameConnection controller.telemetry.bridge (poll controller.telemetry.bridge reads).1 := by
    intro running
    rw [poll, if_pos running]
    exact pollReads_connection controller.telemetry.bridge reads
  unfold pollBridge
  dsimp only
  by_cases running : controller.telemetry.bridge.running = true
  · have ended_or_kept := polled running
    split at ended_or_kept
    · rename_i ended
      -- the peer is gone, which only the video preview may find
      have preview := orderly.resolve_right (not_not_intro ⟨running, ended⟩)
      rw [if_pos ⟨preview, sound.shows_tcp running ended.1, ended_or_kept.1⟩]
      exact announce_sound (error_agrees ended_or_kept.1 rfl)
        fun listening => absurd (ended_or_kept.2.symm.trans listening) Bool.false_ne_true
    · rw [if_neg]
      · exact sound.keeps ended_or_kept _
      · rintro ⟨_, _, stopped⟩
        rw [ended_or_kept.running, running] at stopped
        exact Bool.false_ne_true stopped.symm
  · have idle : poll controller.telemetry.bridge reads = (controller.telemetry.bridge, []) :=
      if_neg running
    have kept : Sound { controller.telemetry with
        bridge := (poll controller.telemetry.bridge reads).1
        sent := controller.telemetry.sent ++
          (poll controller.telemetry.bridge reads).2.map .all } := by
      rw [idle]
      exact sound.keeps (.refl _) _
    split
    · rename_i lost
      exact announce_sound (error_agrees lost.2.2 rfl) kept.listening_udp
    · exact kept

theorem handleTelemetryConnectionLine_sound (reply : ConnectReply) (client : BitVec 32)
    (telemetry : Telemetry) (sound : Sound telemetry)
    (orderly : telemetry.bridge.running = true → isConnectCommand line = true →
      validConnect line = true) :
    Sound (handleTelemetryConnectionLine line client reply telemetry).2 := by
  unfold handleTelemetryConnectionLine
  split
  · exact ⟨sound.agrees, sound.listening_udp⟩
  · split
    · exact announce_sound (.inl rfl) (fun listening => absurd listening Bool.false_ne_true)
    · split
      · rename_i command
        refine announce_sound (connectTelemetry_agrees reply telemetry ?_) ?_
        · cases running : telemetry.bridge.running with
          | false => exact .inr rfl
          | true => exact .inl (orderly running command)
        · unfold connectTelemetry
          dsimp only
          split
          · intro listening
            rw [connectTo_listening] at listening
            exact absurd listening Bool.false_ne_true
          · exact sound.listening_udp
      · exact sound

/-- Every outcome of a line keeps the agreement that an orderly line finds. -/
theorem handleLine_sound (long : 24 ≤ platform.longBits) (loop : ControlLoop) (client : BitVec 32)
    (reply : LineReply) (controller : Controller) (sound : Sound controller.telemetry)
    (orderly : Orderly loop controller (.line client line reply))
    (handled : handleLine platform loop client line reply controller = .ok after) :
    Sound after.telemetry := by
  obtain ⟨setting, value, _, _, assigned⟩ | ⟨_, outcome⟩ :=
    handleLine_cases long loop client line reply controller
  · rw [assigned] at handled
    cases handled
    exact sound.keeps (.refl _) _
  · rw [handled] at outcome
    cases outcome with
    | told messages discovery truthful welcomed => exact sound.keeps (.refl _) _
    | connection ungreeted taken =>
      exact handleTelemetryConnectionLine_sound reply.connect client controller.telemetry sound orderly
    | theme ungreeted taken =>
      obtain ⟨themes, messages, rfl, _⟩ := handleThemeLine_taken taken
      exact sound.keeps (.refl _) _
    | action start endpoint sent =>
      subst sent
      exact sound.keeps
        (handleActionLine_connection platform ⟨controller.telemetry.bridge, controller.socket⟩ line) _

/-- The messages of a step, among them the new text if it is another. -/
structure Announced (before after : Telemetry) (messages : List Message) : Prop where
  sent : after.sent = before.sent ++ messages
  changed : after.connection ≠ before.connection →
    .all (ascii "state telemetry " ++ after.connection) ∈ messages

theorem announced_same {before after : Telemetry} (sent : after.sent = before.sent ++ messages)
    (same : after.connection = before.connection) : Announced before after messages :=
  ⟨sent, fun changed => absurd same changed⟩

theorem announced_last {before after : Telemetry} (messages : List Message)
    (sent : after.sent = before.sent ++ messages) :
    Announced before (announce after)
      (messages ++ [.all (ascii "state telemetry " ++ after.connection)]) where
  sent := by simp [announce, sent]
  changed := by
    intro _
    exact List.mem_append_right _ (List.mem_singleton_self _)

theorem pollBridge_announced (loop : ControlLoop) (reads : List Receive) (controller : Controller) :
    ∃ messages, Announced controller.telemetry (pollBridge loop reads controller).telemetry messages := by
  unfold pollBridge
  dsimp only
  split
  · exact ⟨_, announced_last _ rfl⟩
  · exact ⟨_, announced_same rfl rfl⟩

theorem handleTelemetryConnectionLine_announced (line : List UInt8) (client : BitVec 32)
    (reply : ConnectReply) (telemetry : Telemetry) : ∃ messages,
      Announced telemetry (handleTelemetryConnectionLine line client reply telemetry).2 messages := by
  unfold handleTelemetryConnectionLine
  split
  · exact ⟨_, announced_same rfl rfl⟩
  · split
    · exact ⟨_, announced_last [] (by simp)⟩
    · split
      · exact ⟨_, announced_last [] (by simp [connectTelemetry])⟩
      · exact ⟨[], announced_same (by simp) rfl⟩

theorem handleLine_announced (long : 24 ≤ platform.longBits) (loop : ControlLoop)
    (client : BitVec 32) (line : List UInt8) (reply : LineReply) (controller : Controller)
    (handled : handleLine platform loop client line reply controller = .ok after) :
    ∃ messages, Announced controller.telemetry after.telemetry messages := by
  obtain ⟨setting, value, _, _, assigned⟩ | ⟨_, outcome⟩ :=
    handleLine_cases long loop client line reply controller
  · rw [assigned] at handled
    cases handled
    exact ⟨_, announced_same rfl rfl⟩
  · rw [handled] at outcome
    cases outcome with
    | told messages discovery truthful welcomed => exact ⟨_, announced_same rfl rfl⟩
    | connection ungreeted taken =>
      exact handleTelemetryConnectionLine_announced line client reply.connect controller.telemetry
    | theme ungreeted taken =>
      obtain ⟨themes, messages, rfl, _⟩ := handleThemeLine_taken taken
      exact ⟨_, announced_same rfl rfl⟩
    | action start endpoint sent => exact ⟨_, announced_same rfl rfl⟩

/-- While the bridge is stopped the user interface tries to reconnect. -/
theorem stopped_not_tcp (agrees : Agrees telemetry) (stopped : telemetry.bridge.running = false) :
    showsTcp telemetry.connection = false := by
  rw [Agrees, if_neg (by simp [stopped])] at agrees
  obtain disconnected | ⟨text, error⟩ := agrees
  · rw [disconnected]
    rfl
  · rw [← error]
    rfl

/-- What holds of the loop unless an exception has ended it: the text agrees with the bridge,
a stopped bridge makes the user interface reconnect, and a change of the text is announced. -/
def TextAgrees (platform : Platform) (loop : ControlLoop) : Except CppException Controller → Prop
  | .error _ => True
  | .ok controller =>
    Agrees controller.telemetry ∧
    (controller.telemetry.bridge.running = false →
      showsTcp controller.telemetry.connection = false) ∧
    ∀ event after, step platform loop (.ok controller) event = .ok after →
      ∃ messages, Announced controller.telemetry after.telemetry messages

/-- The property holds in every state that an orderly run reaches. -/
theorem connection_text_agrees (long : 32 ≤ platform.longBits) (loop : ControlLoop)
    (options : Options) (reply : StartReply) (controls : RuntimeControlState) (socket : Socket)
    (themes : PreviewControl.ThemeFiles) (discovery : DiscoveryService) (events : List Event)
    (stopped : loop = .kmsVideoPreview → options.mavlinkUdp = true → reply ≠ .bound)
    (orderly : Runs.Meets (step platform loop) (OrderlyRunning loop)
      (.ok (startLoop loop options reply controls socket themes discovery)) events) :
    TextAgrees platform loop (events.foldl (step platform loop)
      (.ok (startLoop loop options reply controls socket themes discovery))) := by
  have short : 24 ≤ platform.longBits := by omega
  have preserved : ∀ state event,
      (∀ controller, state = .ok controller → Sound controller.telemetry) →
      OrderlyRunning loop state event →
      ∀ controller, step platform loop state event = .ok controller →
        Sound controller.telemetry := by
    intro state event sound orderly after stepped
    rcases state with exception | before
    · cases stepped
    · cases event with
      | bridge reads =>
        cases stepped
        exact pollBridge_sound loop reads before (sound before rfl) orderly
      | line client text reply =>
        exact handleLine_sound short loop client reply before (sound before rfl) orderly stepped
  have sound := Runs.invariant_after_run events preserved
    (by
      rintro _ ⟨⟩
      exact startLoop_sound loop options reply controls socket themes discovery stopped) orderly
  generalize events.foldl (step platform loop) _ = state at sound ⊢
  rcases state with exception | controller
  · exact trivial
  · have agrees := (sound controller rfl).agrees
    refine ⟨agrees, stopped_not_tcp agrees, ?_⟩
    intro event after stepped
    cases event with
    | bridge reads =>
      cases stepped
      exact pollBridge_announced loop reads controller
    | line client text reply =>
      exact handleLine_announced short loop client text reply controller stepped

/-! ### Runs in which the text is wrong -/

instance (loop : ControlLoop) (controller : Controller) :
    DecidablePred (Orderly loop controller) := fun event =>
  match event with
  | .bridge _ => inferInstanceAs (Decidable (_ ∨ ¬_))
  | .line _ _ _ => inferInstanceAs (Decidable (_ → _ → _))

instance (loop : ControlLoop) (state : Except CppException Controller) :
    DecidablePred (OrderlyRunning loop state) := fun event =>
  match state with
  | .ok controller => inferInstanceAs (Decidable (Orderly loop controller event))
  | .error _ => inferInstanceAs (Decidable True)

def idleSocket : Socket := { outcome := fun _ => .complete }

/-- A client connects to a ground station, which then ends the stream. -/
def lostGround : List Event :=
  [.line 1 (ascii "net telemetry connect tcp 10.0.0.1") { connect := .connected [10, 0, 0, 1] },
    .bridge [.bytes [] []]]

theorem preview_tells_lost_ground : TextAgrees linux .kmsVideoPreview
    (lostGround.foldl (step linux .kmsVideoPreview)
      (.ok (startLoop .kmsVideoPreview { mavlinkUdp := false } .bound {} idleSocket {} {}))) :=
  connection_text_agrees (by decide) _ _ _ _ _ _ _ _ (by decide) (by decide +kernel)

/-- A command without a port. -/
def malformedConnect : List Event :=
  [.line 1 (ascii "net telemetry connect udp 10.0.0.1 0") {}]

/-- A loop that was started with a bound socket, after some events. -/
def afterEvents (loop : ControlLoop) (events : List Event) : Except CppException Controller :=
  events.foldl (step linux loop) (.ok (startLoop loop {} .bound {} idleSocket {} {}))

def showsConnection : Except CppException Controller → Bool
  | .error _ => true
  | .ok controller => decide (Agrees controller.telemetry)

theorem TextAgrees.shows (agrees : TextAgrees platform loop state) : showsConnection state = true := by
  cases state with
  | error exception => rfl
  | ok controller => exact decide_eq_true agrees.1

/-- The video preview starts as disconnected while its bridge listens; a stack loop misses the
end of a TCP stream; and in every loop a malformed command shows as an error while the bridge
goes on. -/
theorem connection_text_disagrees :
    ¬TextAgrees linux .kmsVideoPreview (afterEvents .kmsVideoPreview []) ∧
    (∀ loop ∈ [ControlLoop.previewStack, .kmsStack],
      ¬TextAgrees linux loop (afterEvents loop lostGround)) ∧
    ∀ loop ∈ [ControlLoop.kmsVideoPreview, .previewStack, .kmsStack],
      ¬TextAgrees linux loop (afterEvents loop malformedConnect) := by
  have start : showsConnection (afterEvents .kmsVideoPreview []) = false := by decide +kernel
  have lost : ∀ loop ∈ [ControlLoop.previewStack, .kmsStack],
      showsConnection (afterEvents loop lostGround) = false := by decide +kernel
  have malformed : ∀ loop ∈ [ControlLoop.kmsVideoPreview, .previewStack, .kmsStack],
      showsConnection (afterEvents loop malformedConnect) = false := by decide +kernel
  refine ⟨?_, ?_, ?_⟩
  · intro agrees
    exact Bool.false_ne_true (start.symm.trans agrees.shows)
  · intro loop member agrees
    exact Bool.false_ne_true ((lost loop member).symm.trans agrees.shows)
  · intro loop member agrees
    exact Bool.false_ne_true ((malformed loop member).symm.trans agrees.shows)

end Glide.TelemetryConnection
