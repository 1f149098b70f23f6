import Glide.SequenceGaps

/-! A sender that starts over at any sequence number. What lies behind the expected number
by 1000 at most is taken for late packets, and every packet comes one nearer to it. -/
namespace Glide.BoundedResync
open RtpPackets RtpDepacketizer SequenceGaps

/-- A decoder by its sequence check, its way to append a payload and its count of gaps,
which nothing but the check touches. -/
structure Receiver (σ : Type) where
  ops : AssemblyOps σ
  append : RtpPacket → Depacketizer σ → Bool × Depacketizer σ
  gaps : σ → Nat
  gauge : Gauge ops gaps
  leaves : LeavesNumbers append gaps

section Reception
variable {σ : Type} (receiver : Receiver σ)

/-- The decoder after a packet, whether or not the call succeeds. -/
def after (options : HeaderOptions) (packet : RtpPacket) (decoder : Depacketizer σ) :
    Depacketizer σ :=
  (handleRtpPacket receiver.ops receiver.append (rtpBytes options packet) decoder).2

/-- Of the packet nothing is left but that it was counted as late. -/
def Discards (options : HeaderOptions) (packet : RtpPacket) (decoder : Depacketizer σ) : Prop :=
  handleRtpPacket receiver.ops receiver.append (rtpBytes options packet) decoder = (true,
    { decoder with
      assembly := receiver.ops.count .late (receiver.ops.count .packet decoder.assembly) })

/-- The packet passes the check, and its payload is appended. -/
def Accepts (options : HeaderOptions) (packet : RtpPacket) (decoder : Depacketizer σ) : Prop :=
  ∃ checked, checkSequence receiver.ops packet
      { decoder with assembly := receiver.ops.count .packet decoder.assembly } = some checked ∧
    handleRtpPacket receiver.ops receiver.append (rtpBytes options packet) decoder =
      receiver.append packet checked

/-- Every packet is accepted, and none counts as a gap. -/
def AcceptsAll : Depacketizer σ → List (HeaderOptions × RtpPacket) → Prop
  | _, [] => True
  | decoder, (options, packet) :: rest =>
    Accepts receiver options packet decoder ∧
      receiver.gaps (after receiver options packet decoder).assembly =
        receiver.gaps decoder.assembly ∧
      AcceptsAll (after receiver options packet decoder) rest

/-- So many packets at most are discarded as late before one is accepted, and all are
accepted from then on. -/
def Resyncs : Nat → Depacketizer σ → List (HeaderOptions × RtpPacket) → Prop
  | _, _, [] => True
  | limit, decoder, (options, packet) :: rest =>
    (Accepts receiver options packet decoder ∧
      AcceptsAll receiver (after receiver options packet decoder) rest) ∨
    ∃ fewer, limit = fewer + 1 ∧ Discards receiver options packet decoder ∧
      Resyncs fewer (after receiver options packet decoder) rest

end Reception

/-- How far a number is ahead of the expected one, as the sequence check sees it. -/
def distance (pending : Reassembly) (sequence : UInt16) : Int :=
  (sequence - pending.expectedSequence).toInt16.toInt

theorem distance_succ {pending : Reassembly} {sequence : UInt16}
    (behind : distance pending sequence < 0) :
    distance pending (sequence + 1) = distance pending sequence + 1 := by
  unfold distance at behind ⊢
  have onward : sequence + 1 - pending.expectedSequence =
      sequence - pending.expectedSequence + 1 := by
    rw [UInt16.sub_eq_add_neg, UInt16.sub_eq_add_neg, UInt16.add_assoc, UInt16.add_assoc,
      UInt16.add_comm 1]
  have low := (sequence - pending.expectedSequence).toInt16.le_toInt
  rw [onward, UInt16.toInt16_add, Int16.toInt_add]
  exact Int.bmod_eq_of_le (by change _ ≤ _ + 1; omega) (by change _ + 1 < _; omega)

/-- A late packet is behind the expected one, by 1000 at most. -/
theorem late_distance {pending : Reassembly} {sequence timestamp}
    (late : arrival pending sequence timestamp = .late) :
    -1000 ≤ distance pending sequence ∧ distance pending sequence < 0 := by
  unfold arrival at late
  split at late
  · dsimp only at late
    split at late
    · rename_i behind
      rw [ite_eq_right_iff] at late
      have near : ¬ (sequence - pending.expectedSequence).toInt16 < -1000 :=
        fun far => Arrival.noConfusion (late (.inl far))
      rw [Int16.lt_iff_toInt_lt] at behind near
      exact ⟨Int.not_lt.1 near, behind⟩
    · split at late <;> cases late
  · cases late

section Reception
variable {σ : Type} (receiver : Receiver σ) {options : HeaderOptions} {packet : RtpPacket}
  {decoder : Depacketizer σ}

theorem handle_eq (filled : packet.payload ≠ []) (options : HeaderOptions)
    (decoder : Depacketizer σ) :
    handleRtpPacket receiver.ops receiver.append (rtpBytes options packet) decoder =
      handlePacket receiver.ops receiver.append packet decoder := by
  rw [handleRtpPacket, parseRtpPacket_rtpBytes options packet filled]

theorem discards_of_late (filled : packet.payload ≠ [])
    (late : arrival decoder.reassembly packet.sequence packet.timestamp = .late) :
    Discards receiver options packet decoder := by
  have none : checkSequence receiver.ops packet
      { decoder with assembly := receiver.ops.count .packet decoder.assembly } = none := by
    rw [checkSequence, late]
  rw [Discards, handle_eq receiver filled, handlePacket_late none]

/-- An accepted packet makes the next number the expected one. -/
theorem accepts_of_passed (filled : packet.payload ≠ [])
    (passed : arrival decoder.reassembly packet.sequence packet.timestamp ≠ .late) :
    Accepts receiver options packet decoder ∧
      (after receiver options packet decoder).reassembly.haveSequence = true ∧
      (after receiver options packet decoder).reassembly.expectedSequence = packet.sequence + 1 := by
  obtain ⟨late, _⟩ | ⟨_, checked⟩ | ⟨counted, _, _, checked⟩ := checkSequence_cases receiver.ops
    packet { decoder with assembly := receiver.ops.count .packet decoder.assembly }
  · exact absurd late passed
  all_goals
    have appended := (handle_eq receiver filled options decoder).trans (handlePacket_checked checked)
    refine ⟨⟨_, checked, appended⟩, ?_⟩
    rw [after, appended, receiver.leaves.haveSequence, receiver.leaves.expectedSequence]
    exact ⟨rfl, rfl⟩

/-- The expected packet counts no gap. -/
theorem after_inOrder_gaps (filled : packet.payload ≠ [])
    (ordered : arrival decoder.reassembly packet.sequence packet.timestamp = .inOrder) :
    receiver.gaps (after receiver options packet decoder).assembly =
      receiver.gaps decoder.assembly := by
  have checked : checkSequence receiver.ops packet
      { decoder with assembly := receiver.ops.count .packet decoder.assembly } = some
        (expectNext packet
          { decoder with assembly := receiver.ops.count .packet decoder.assembly }) := by
    rw [checkSequence, ordered]
  rw [after, handle_eq receiver filled, handlePacket_checked checked, receiver.leaves.gaps]
  exact receiver.gauge.counted _ _ (.inl rfl)

/-- By induction on the packets: each finds its number expected. -/
theorem acceptsAll_of_expected (packets : List (HeaderOptions × RtpPacket))
    (filled : ∀ sent ∈ packets, sent.2.payload ≠ []) (consecutive : Consecutive packets)
    (joined : ∀ first ∈ packets.head?, decoder.reassembly.haveSequence = true →
      first.2.sequence = decoder.reassembly.expectedSequence) :
    AcceptsAll receiver decoder packets := by
  induction packets generalizing decoder with
  | nil => trivial
  | cons first rest ih =>
    obtain ⟨options, packet⟩ := first
    have carried := filled _ List.mem_cons_self
    have ordered : arrival decoder.reassembly packet.sequence packet.timestamp = .inOrder :=
      (arrival_eq_inOrder _ _ _).2 (joined _ rfl)
    have passed : arrival decoder.reassembly packet.sequence packet.timestamp ≠ .late := by
      rw [ordered]
      nofun
    have accepted : Accepts receiver options packet decoder ∧
        (after receiver options packet decoder).reassembly.haveSequence = true ∧
        (after receiver options packet decoder).reassembly.expectedSequence =
          packet.sequence + 1 := accepts_of_passed receiver carried passed
    refine ⟨accepted.1, after_inOrder_gaps receiver carried ordered, ?_⟩
    apply ih (fun sent member => filled sent (.tail _ member)) consecutive.of_cons
    intro next inside _
    rw [accepted.2.2]
    cases rest with
    | nil => cases inside
    | cons second more =>
      cases inside
      exact (List.isChain_cons_cons.1 consecutive).1

/-- By induction on the packets: a late one leaves the expected number where it is, and
the next comes one nearer to it. -/
theorem resyncs_within (packets : List (HeaderOptions × RtpPacket)) (limit : Nat)
    (filled : ∀ sent ∈ packets, sent.2.payload ≠ []) (consecutive : Consecutive packets)
    (near : ∀ first ∈ packets.head?,
      arrival decoder.reassembly first.2.sequence first.2.timestamp = .late →
        -(limit : Int) ≤ distance decoder.reassembly first.2.sequence) :
    Resyncs receiver limit decoder packets := by
  induction packets generalizing decoder limit with
  | nil => trivial
  | cons first rest ih =>
    obtain ⟨options, packet⟩ := first
    have carried := filled _ List.mem_cons_self
    have others : ∀ sent ∈ rest, sent.2.payload ≠ [] :=
      fun sent member => filled sent (.tail _ member)
    have follows : ∀ next ∈ rest.head?, next.2.sequence = packet.sequence + 1 := by
      intro next inside
      cases rest with
      | nil => cases inside
      | cons second more =>
        cases inside
        exact (List.isChain_cons_cons.1 consecutive).1
    by_cases late : arrival decoder.reassembly packet.sequence packet.timestamp = .late
    · have behind := (late_distance late).2
      have within := near (options, packet) rfl late
      dsimp only at within
      have discards : Discards receiver options packet decoder :=
        discards_of_late receiver carried late
      have kept : (after receiver options packet decoder).reassembly = decoder.reassembly := by
        rw [after, discards]
      cases limit with
      | zero => omega
      | succ fewer =>
        refine .inr ⟨fewer, rfl, discards, ih fewer others consecutive.of_cons ?_⟩
        intro next inside _
        rw [kept, follows next inside, distance_succ behind]
        omega
    · have accepted : Accepts receiver options packet decoder ∧
          (after receiver options packet decoder).reassembly.haveSequence = true ∧
          (after receiver options packet decoder).reassembly.expectedSequence =
            packet.sequence + 1 := accepts_of_passed receiver carried late
      refine .inl ⟨accepted.1, acceptsAll_of_expected receiver rest others consecutive.of_cons ?_⟩
      intro next inside _
      rw [accepted.2.2, follows next inside]

/-- Every state resynchronises with every run of packets. -/
theorem resyncs (decoder : Depacketizer σ) (packets : List (HeaderOptions × RtpPacket))
    (filled : ∀ sent ∈ packets, sent.2.payload ≠ []) (consecutive : Consecutive packets) :
    Resyncs receiver 1000 decoder packets :=
  resyncs_within receiver packets 1000 filled consecutive fun _ _ late => (late_distance late).1

end Reception

def rockchipReceiver (setup : RockchipMppRtpDecoder.Setup) :
    Receiver RockchipMppRtpDecoder.Assembly where
  ops := RockchipMppRtpDecoder.ops setup
  append := RockchipMppRtpDecoder.appendPayload setup
  gaps := RockchipMppRtpDecoder.Assembly.rtpSequenceGaps
  gauge := rockchip_gauge setup
  leaves := rockchip_leaves setup

def imxReceiver (setup : ImxVpuRtpDecoder.Setup) : Receiver ImxVpuRtpDecoder.Assembly where
  ops := ImxVpuRtpDecoder.ops setup
  append := appendNalPayload (ImxVpuRtpDecoder.ops setup) setup.codec
  gaps := ImxVpuRtpDecoder.Assembly.sequenceGaps
  gauge := imx_gauge setup
  leaves := imx_leaves setup

/-- The Rockchip and the i.MX decoder discard 1000 packets at most of a sender that starts
over anywhere, with any timestamps, and none of those that follow. -/
theorem restarted_sender_resyncs (packets : List (HeaderOptions × RtpPacket))
    (filled : ∀ sent ∈ packets, sent.2.payload ≠ []) (consecutive : Consecutive packets) :
    (∀ setup decoder, Resyncs (rockchipReceiver setup) 1000 decoder packets) ∧
      ∀ setup decoder, Resyncs (imxReceiver setup) 1000 decoder packets :=
  ⟨fun setup decoder => resyncs (rockchipReceiver setup) decoder packets filled consecutive,
    fun setup decoder => resyncs (imxReceiver setup) decoder packets filled consecutive⟩

/-- A run across the end of the sequence numbers. -/
def restartedPackets : List (HeaderOptions × RtpPacket) :=
  [(.plain, ⟨true, 65535, 1000, [0x65, 0x88, 0x84]⟩),
    (.plain, ⟨true, 0, 2500, [0x65, 0x88, 0x85]⟩)]

theorem restartedPackets_resync :
    (∀ setup decoder, Resyncs (rockchipReceiver setup) 1000 decoder restartedPackets) ∧
      ∀ setup decoder, Resyncs (imxReceiver setup) 1000 decoder restartedPackets :=
  restarted_sender_resyncs restartedPackets (by decide) (by decide)

end Glide.BoundedResync
