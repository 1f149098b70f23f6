import Glide.Library.Runs
import Glide.MavlinkBridge

/-! The outgoing TCP stream. A packet is on the stream as a whole, not at all,
or cut short by a nonblocking write; the bridge reports the last two alike.
The peer reads exactly the reported packets as long as no write is cut short. -/
namespace Glide.TcpSending
open Library AsciiText NumberText MavlinkFrames MavlinkPackets MavlinkBridge

/-- What the bridge's owner does with it. -/
inductive BridgeEvent where
  | action (line : List UInt8)
  | poll (reads : List Receive)
  deriving DecidableEq, Repr

def step (platform : Platform) (endpoint : Endpoint) : BridgeEvent → Endpoint
  | .action line => (handleActionLine platform endpoint line).2
  | .poll reads => { endpoint with bridge := (poll endpoint.bridge reads).1 }

/-- The peer reads the packets that were reported as sent, in order and with
nothing left over, and a call that reported failure left no bytes. -/
def StreamIntact (options : UdpBridgeOptions) (socket : Socket) : Prop :=
  parseStream socket.stream =
      ((socket.calls.filter SendCall.result).map fun call => packetFrame options call.packet, []) ∧
    ∀ call ∈ socket.calls, call.result = false → call.written = []

/-- The parameter packets that are on the wire, at least in part. -/
def parameterPackets (socket : Socket) : Nat :=
  (socket.calls.filter fun call =>
    (call.packet.messageId = 23 || call.packet.messageId = 323) && call.written ≠ []).length

/-- One event puts at most one parameter packet on the wire. -/
def OneParameterPacket (platform : Platform) (endpoint : Endpoint) (event : BridgeEvent) : Prop :=
  parameterPackets (step platform endpoint event).socket ≤ parameterPackets endpoint.socket + 1

/-! ### One call of `send_packet` -/

/-- The call wrote the packet's bytes with this outcome. -/
def Wrote (options : UdpBridgeOptions) (outcome : WriteOutcome) (call : SendCall) : Prop :=
  call.packet.payload.length ≤ 255 ∧
    call.written = outcome.taken (packetBytes options call.sequence call.packet) ∧
    call.result =
      decide (call.written.length = (packetBytes options call.sequence call.packet).length)

/-- The call gave up before writing. -/
def GaveUp (call : SendCall) : Prop := call.written = [] ∧ call.result = false

/-- A call adds itself to the log and makes at most one write. -/
theorem sendPacket_cases (endpoint : Endpoint) (packet : Packet) :
    ∃ call, call.packet = packet ∧ (sendPacket endpoint packet).1 = call.result ∧
      (sendPacket endpoint packet).2.bridge.options = endpoint.bridge.options ∧
      (sendPacket endpoint packet).2.socket.outcome = endpoint.socket.outcome ∧
      (sendPacket endpoint packet).2.socket.calls = endpoint.socket.calls ++ [call] ∧
      (GaveUp call ∧ (sendPacket endpoint packet).2.socket.writes = endpoint.socket.writes ∨
        Wrote endpoint.bridge.options (endpoint.socket.outcome endpoint.socket.writes) call ∧
          (sendPacket endpoint packet).2.socket.writes = endpoint.socket.writes + 1) := by
  unfold sendPacket
  dsimp only
  split
  · exact ⟨_, rfl, rfl, rfl, rfl, rfl, .inl ⟨⟨rfl, rfl⟩, rfl⟩⟩
  · rename_i sent
    have fits : packet.payload.length ≤ 255 := by
      by_contra long
      exact sent (.inr (.inl (by omega)))
    exact ⟨_, rfl, rfl, rfl, rfl, rfl, .inr ⟨⟨fits, rfl, rfl⟩, rfl⟩⟩

/-- What an action sends: nothing, a command, an extended parameter, or, after
that one failed, the plain parameter as well. -/
theorem handleActionLine_cases (platform : Platform) (endpoint : Endpoint) (line : List UInt8) :
    (handleActionLine platform endpoint line).2 = endpoint ∨
    (∃ payload, (handleActionLine platform endpoint line).2 =
      (sendPacket endpoint ⟨76, 152, payload⟩).2) ∨
    (∃ payload, (handleActionLine platform endpoint line).2 =
      (sendPacket endpoint ⟨323, 78, payload⟩).2) ∨
    ∃ extended payload, (sendPacket endpoint ⟨323, 78, extended⟩).1 = false ∧
      (handleActionLine platform endpoint line).2 =
        (sendPacket (sendPacket endpoint ⟨323, 78, extended⟩).2 ⟨23, 168, payload⟩).2 := by
  unfold handleActionLine
  dsimp only
  split
  · exact .inl rfl
  · split
    · split
      · exact .inr (.inr (.inl ⟨_, rfl⟩))
      · rename_i refused
        rw [Bool.not_eq_true] at refused
        unfold sendParamSet
        split
        · exact .inr (.inr (.inl ⟨_, rfl⟩))
        · exact .inr (.inr (.inr ⟨_, _, refused, rfl⟩))
    · split
      · unfold sendCommandLong
        split
        · exact .inl rfl
        · exact .inr (.inl ⟨_, rfl⟩)
      · exact .inl rfl

/-- What every call preserves, every event preserves that keeps it under `poll`. -/
theorem preserved_by_step {invariant : Endpoint → Prop} (platform : Platform)
    (sent : ∀ endpoint packet, packet.messageId.toNat < 2 ^ 24 → invariant endpoint →
      invariant (sendPacket endpoint packet).2)
    (polled : ∀ endpoint reads, invariant endpoint →
      invariant { endpoint with bridge := (poll endpoint.bridge reads).1 })
    (before : invariant endpoint) (event : BridgeEvent) :
    invariant (step platform endpoint event) := by
  cases event with
  | poll reads => exact polled endpoint reads before
  | action line =>
    change invariant (handleActionLine platform endpoint line).2
    obtain same | ⟨payload, same⟩ | ⟨payload, same⟩ | ⟨extended, payload, _, same⟩ :=
      handleActionLine_cases platform endpoint line <;> rw [same]
    · exact before
    · exact sent _ _ (show (76 : UInt32).toNat < 2 ^ 24 by decide) before
    · exact sent _ _ (show (323 : UInt32).toNat < 2 ^ 24 by decide) before
    · exact sent _ _ (show (23 : UInt32).toNat < 2 ^ 24 by decide)
        (sent _ _ (show (323 : UInt32).toNat < 2 ^ 24 by decide) before)

/-! ### The log of a run -/

theorem handleFrames_options (bridge : UdpBridge) (frames : List Frame) :
    (handleFrames bridge frames).1.options = bridge.options := by
  induction frames generalizing bridge with
  | nil => rfl
  | cons frame rest ih =>
    have tracked : (trackHeartbeat bridge frame).1.options = bridge.options := by
      unfold trackHeartbeat
      split
      · rfl
      · split
        · rfl
        · split <;> rfl
    have first : (handleFrame bridge frame).1.options = bridge.options := by
      unfold handleFrame
      split
      · exact tracked
      · rfl
    exact (ih _).trans first

theorem poll_options (bridge : UdpBridge) (reads : List Receive) :
    (poll bridge reads).1.options = bridge.options := by
  have loop : (pollReads bridge reads).1.options = bridge.options := by
    induction reads generalizing bridge with
    | nil => rfl
    | cons read rest ih =>
      cases read with
      | failed error wouldBlock => cases wouldBlock <;> rfl
      | bytes data sender =>
        cases data with
        | nil => cases transport : bridge.transport <;> simp [pollReads, transport, close]
        | cons byte data =>
          have received : (receiveFrames bridge (byte :: data) sender).1.options =
              bridge.options := by
            unfold receiveFrames
            split <;> rfl
          exact ((ih _).trans (handleFrames_options _ _)).trans received
  unfold poll
  split
  · exact loop
  · rfl

/-- The log agrees with the writes: each call gave up or made one of them, and
each of them was made by a call. -/
structure Logged (options : UdpBridgeOptions) (outcome : Nat → WriteOutcome)
    (endpoint : Endpoint) : Prop where
  identity : endpoint.bridge.options = options
  socket : endpoint.socket.outcome = outcome
  small : ∀ call ∈ endpoint.socket.calls, call.packet.messageId.toNat < 2 ^ 24
  calls : ∀ call ∈ endpoint.socket.calls,
    GaveUp call ∨ ∃ number < endpoint.socket.writes, Wrote options (outcome number) call
  writes : ∀ number < endpoint.socket.writes,
    ∃ call ∈ endpoint.socket.calls, Wrote options (outcome number) call

theorem logged_after_call (small : packet.messageId.toNat < 2 ^ 24)
    (logged : Logged options outcome endpoint) :
    Logged options outcome (sendPacket endpoint packet).2 := by
  obtain ⟨call, same, _, keepsOptions, keepsOutcome, appended, made⟩ :=
    sendPacket_cases endpoint packet
  rw [logged.identity, logged.socket] at made
  refine ⟨keepsOptions.trans logged.identity, keepsOutcome.trans logged.socket, ?_, ?_, ?_⟩
  · rw [appended]
    intro other member
    rcases List.mem_append.mp member with earlier | last
    · exact logged.small other earlier
    · rw [List.mem_singleton.mp last, same]
      exact small
  · rw [appended]
    intro other member
    rcases List.mem_append.mp member with earlier | last
    · rcases logged.calls other earlier with gaveUp | ⟨number, inside, wrote⟩
      · exact .inl gaveUp
      · refine .inr ⟨number, ?_, wrote⟩
        rcases made with ⟨_, writes⟩ | ⟨_, writes⟩ <;> omega
    · rw [List.mem_singleton.mp last]
      rcases made with ⟨gaveUp, _⟩ | ⟨wrote, writes⟩
      · exact .inl gaveUp
      · exact .inr ⟨_, by omega, wrote⟩
  · rw [appended]
    intro number inside
    rcases Nat.lt_or_ge number endpoint.socket.writes with earlier | now
    · obtain ⟨other, member, wrote⟩ := logged.writes number earlier
      exact ⟨other, List.mem_append_left _ member, wrote⟩
    · rcases made with ⟨_, writes⟩ | ⟨wrote, writes⟩
      · omega
      · obtain rfl : number = endpoint.socket.writes := by omega
        exact ⟨call, by simp, wrote⟩

theorem logged_after_run (platform : Platform) (events : List BridgeEvent)
    (logged : Logged options outcome endpoint) :
    Logged options outcome (events.foldl (step platform) endpoint) := by
  apply Runs.invariant_after_any_run events _ logged
  intro state event before
  exact preserved_by_step platform (fun _ _ small => logged_after_call small)
    (fun _ reads held => ⟨(poll_options _ reads).trans held.identity, held.socket, held.small,
      held.calls, held.writes⟩) before event

/-! ### Whole and cut writes -/

/-- A write that is not cut short takes the packet or leaves nothing. -/
theorem whole_call (wrote : Wrote options outcome call) (whole : ∀ count, outcome ≠ .short count) :
    GaveUp call ∨ call.result = true ∧ call.packet.payload.length ≤ 255 ∧
      call.written = packetBytes options call.sequence call.packet := by
  obtain ⟨fits, written, result⟩ := wrote
  cases outcome with
  | complete =>
    refine .inr ⟨?_, fits, written⟩
    rw [result, written]
    simp [WriteOutcome.taken]
  | refused =>
    refine .inl ⟨written, ?_⟩
    rw [result, written, packetBytes_length]
    simp [WriteOutcome.taken]
  | short count => exact absurd rfl (whole count)

/-- A write that is cut short leaves bytes and is reported as a failure. -/
theorem short_call (wrote : Wrote options (.short count) call) :
    call.written ≠ [] ∧ call.result = false := by
  obtain ⟨_, written, result⟩ := wrote
  have size : call.written.length =
      max 1 (min count (call.packet.payload.length + 12 - 1)) := by
    rw [written, WriteOutcome.taken, List.length_take, packetBytes_length]
    omega
  refine ⟨fun empty => ?_, ?_⟩
  · rw [empty] at size
    simp only [List.length_nil] at size
    omega
  · rw [result, packetBytes_length, size, decide_eq_false_iff_not]
    omega

/-- Whole packets and failed calls without bytes make an intact stream. -/
theorem intact_of_whole_calls
    (small : ∀ call ∈ socket.calls, call.packet.messageId.toNat < 2 ^ 24)
    (whole : ∀ call ∈ socket.calls, GaveUp call ∨
      call.result = true ∧ call.packet.payload.length ≤ 255 ∧
        call.written = packetBytes options call.sequence call.packet) :
    StreamIntact options socket := by
  constructor
  · rw [parseStream_eq, Socket.stream]
    generalize socket.calls = calls at small whole
    induction calls with
    | nil => exact drain_nil
    | cons call rest ih =>
      have later := ih (fun other member => small other (List.mem_cons_of_mem _ member))
        (fun other member => whole other (List.mem_cons_of_mem _ member))
      rcases whole call (by simp) with ⟨empty, failed⟩ | ⟨sent, fits, written⟩
      · simpa [empty, failed] using later
      · have fit : call.packet.Fits := ⟨small call (by simp), fits⟩
        rw [List.flatMap_cons, written, drain_packet _ fit, later]
        simp [sent]
  · intro call member failed
    rcases whole call member with ⟨empty, _⟩ | ⟨sent, _⟩
    · exact empty
    · rw [failed] at sent
      cases sent

/-! ### Parameter packets -/

private theorem parameterPackets_append (appended : after.calls = before.calls ++ [call]) :
    parameterPackets after = parameterPackets before +
      if (call.packet.messageId = 23 ∨ call.packet.messageId = 323) ∧ call.written ≠ [] then 1
      else 0 := by
  simp only [parameterPackets, appended, List.filter_append, List.length_append]
  congr 1
  by_cases counted : (call.packet.messageId = 23 ∨ call.packet.messageId = 323) ∧ call.written ≠ []
  · simp [counted]
  · simp only [counted, ↓reduceIte]
    rw [List.length_eq_zero_iff, List.filter_eq_nil_iff]
    simpa using counted

/-- A call adds at most one parameter packet, and none when it fails without a short write. -/
theorem parameterPackets_call (endpoint : Endpoint) (packet : Packet) :
    parameterPackets (sendPacket endpoint packet).2.socket ≤ parameterPackets endpoint.socket + 1 ∧
      ((sendPacket endpoint packet).1 = false →
        (∀ number < (sendPacket endpoint packet).2.socket.writes,
          ∀ count, endpoint.socket.outcome number ≠ .short count) →
        parameterPackets (sendPacket endpoint packet).2.socket =
          parameterPackets endpoint.socket) := by
  obtain ⟨call, _, result, _, _, appended, made⟩ := sendPacket_cases endpoint packet
  rw [parameterPackets_append appended, result]
  constructor
  · split <;> omega
  · intro failed whole
    have empty : call.written = [] := by
      rcases made with ⟨gaveUp, _⟩ | ⟨wrote, writes⟩
      · exact gaveUp.1
      · rcases whole_call wrote (whole _ (by omega)) with gaveUp | ⟨sent, _⟩
        · exact gaveUp.1
        · rw [failed] at sent
          cases sent
    simp [empty]

theorem writes_grow_call (endpoint : Endpoint) (packet : Packet) :
    endpoint.socket.writes ≤ (sendPacket endpoint packet).2.socket.writes := by
  obtain ⟨_, _, _, _, _, _, ⟨_, writes⟩ | ⟨_, writes⟩⟩ := sendPacket_cases endpoint packet <;> omega

theorem writes_grow (platform : Platform) (endpoint : Endpoint) (events : List BridgeEvent) :
    endpoint.socket.writes ≤ (events.foldl (step platform) endpoint).socket.writes := by
  let invariant (state : Endpoint) := endpoint.socket.writes ≤ state.socket.writes
  have start : invariant endpoint := Nat.le_refl _
  change invariant (events.foldl (step platform) endpoint)
  apply Runs.invariant_after_any_run events _ start
  intro state event before
  exact preserved_by_step platform (fun state packet _ held =>
    Nat.le_trans held (writes_grow_call state packet)) (fun _ _ held => held) before event

/-- Without short writes an action puts at most one parameter packet on the wire. -/
theorem one_parameter_packet (platform : Platform) (endpoint : Endpoint) (event : BridgeEvent)
    (whole : ∀ number < (step platform endpoint event).socket.writes,
      ∀ count, endpoint.socket.outcome number ≠ .short count) :
    OneParameterPacket platform endpoint event := by
  unfold OneParameterPacket
  cases event with
  | poll reads => exact Nat.le_add_right _ _
  | action line =>
    change ∀ number < (handleActionLine platform endpoint line).2.socket.writes, _ at whole
    change parameterPackets (handleActionLine platform endpoint line).2.socket ≤ _
    obtain same | ⟨payload, same⟩ | ⟨payload, same⟩ | ⟨extended, payload, failed, same⟩ :=
      handleActionLine_cases platform endpoint line <;> rw [same] at whole ⊢
    · exact Nat.le_add_right _ _
    · exact (parameterPackets_call _ _).1
    · exact (parameterPackets_call _ _).1
    · have first := (parameterPackets_call endpoint ⟨323, 78, extended⟩).2 failed
        fun number inside => whole number (Nat.lt_of_lt_of_le inside (writes_grow_call _ _))
      rw [← first]
      exact (parameterPackets_call _ _).1

theorem one_parameter_packet_each (platform : Platform) (events : List BridgeEvent)
    (logged : Logged options outcome endpoint)
    (whole : ∀ number < (events.foldl (step platform) endpoint).socket.writes,
      ∀ count, outcome number ≠ .short count) :
    Runs.Meets (step platform) (OneParameterPacket platform) endpoint events := by
  induction events generalizing endpoint with
  | nil => trivial
  | cons event rest ih =>
    have next := logged_after_run platform [event] logged
    refine ⟨one_parameter_packet platform endpoint event ?_, ih next whole⟩
    intro number inside
    rw [logged.socket]
    exact whole number (Nat.lt_of_lt_of_le inside (writes_grow platform _ rest))

/-- Over every run of actions and polls on a new connection, the peer reads
exactly the packets reported as sent, failed calls leave no bytes and no action
puts two parameter packets on the wire, if and only if no write was cut short. -/
theorem stream_intact_iff_no_short_write (platform : Platform) (bridge : UdpBridge)
    (outcome : Nat → WriteOutcome) (events : List BridgeEvent) :
    let start : Endpoint := ⟨bridge, { outcome := outcome }⟩
    let final := events.foldl (step platform) start
    (StreamIntact bridge.options final.socket ∧
        Runs.Meets (step platform) (OneParameterPacket platform) start events) ↔
      ∀ number < final.socket.writes, ∀ count, outcome number ≠ .short count := by
  intro start final
  have fresh : Logged bridge.options outcome start :=
    ⟨rfl, rfl, by simp [start], by simp [start], fun number inside => by simp [start] at inside⟩
  have logged := logged_after_run platform events fresh
  constructor
  · rintro ⟨⟨_, clean⟩, _⟩ number inside count cut
    obtain ⟨call, member, wrote⟩ := logged.writes number inside
    rw [cut] at wrote
    obtain ⟨left, failed⟩ := short_call wrote
    exact left (clean call member failed)
  · intro whole
    refine ⟨intact_of_whole_calls logged.small ?_, one_parameter_packet_each platform events fresh whole⟩
    intro call member
    rcases logged.calls call member with gaveUp | ⟨number, inside, wrote⟩
    · exact .inl gaveUp
    · exact whole_call wrote (whole number inside)

/-- A connection whose first write is cut after five bytes, after one parameter action. -/
def tornParameter : Endpoint :=
  step ⟨64, fun _ => 0⟩
    ⟨{ running := true, transport := .tcp },
      { outcome := fun number => if number = 0 then .short 5 else .complete }⟩
    (.action (ascii "mav set air FREQ 5"))

theorem short_write_tears_the_stream :
    ¬StreamIntact {} tornParameter.socket ∧ parameterPackets tornParameter.socket = 2 := by
  refine ⟨fun intact => ?_, by decide +kernel⟩
  have clean := intact.2
  revert clean
  decide +kernel

end Glide.TcpSending
