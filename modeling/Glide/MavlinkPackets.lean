import Glide.Library.Crc
import Glide.MavlinkFrames
import Mathlib.Tactic.Ring

/-! Outgoing MAVLink 2 packets. The checksum is computed a byte at a time with
the shortcut of the reference implementation, and a packet is laid out so that
both parsers take it as one frame, wherever magic bytes occur inside it. -/
namespace Glide.MavlinkPackets
open Library MavlinkFrames

def crcAccumulate (data : UInt8) (crc : UInt16) : UInt16 :=
  let data := data ^^^ (crc &&& 0xff).toUInt8
  let data := data ^^^ (data <<< 4)
  (crc >>> 8) ^^^ (data.toUInt16 <<< 8) ^^^ (data.toUInt16 <<< 3) ^^^ (data.toUInt16 >>> 4)

/-- The identity a bridge sends under. -/
structure UdpBridgeOptions where
  systemId : UInt8 := 255
  componentId : UInt8 := 190
  deriving DecidableEq, Repr

/-- The arguments of `send_packet`. -/
structure Packet where
  messageId : UInt32
  crcExtra : UInt8
  payload : List UInt8
  deriving DecidableEq, Repr

/-- The bytes of a packet up to its checksum. -/
def packetBody (options : UdpBridgeOptions) (sequence : UInt8) (packet : Packet) : List UInt8 :=
  [0xfd, UInt8.ofNat packet.payload.length, 0, 0, sequence, options.systemId, options.componentId,
    (packet.messageId &&& 0xff).toUInt8, ((packet.messageId >>> 8) &&& 0xff).toUInt8,
    ((packet.messageId >>> 16) &&& 0xff).toUInt8] ++ packet.payload

def packetCrc (options : UdpBridgeOptions) (sequence : UInt8) (packet : Packet) : UInt16 :=
  let crc := (packetBody options sequence packet).tail.foldl
    (fun crc byte => crcAccumulate byte crc) 0xffff
  crcAccumulate packet.crcExtra crc

/-- The bytes `send_packet` builds. -/
def packetBytes (options : UdpBridgeOptions) (sequence : UInt8) (packet : Packet) : List UInt8 :=
  let crc := packetCrc options sequence packet
  packetBody options sequence packet ++ [(crc &&& 0xff).toUInt8, ((crc >>> 8) &&& 0xff).toUInt8]

/-- The bytes of packets sent one after another; each takes the next sequence number. -/
def packetsBytes (options : UdpBridgeOptions) : UInt8 → List Packet → List UInt8
  | _, [] => []
  | sequence, packet :: rest =>
    packetBytes options sequence packet ++ packetsBytes options (sequence + 1) rest

/-- The frame a peer should read from a packet. -/
def packetFrame (options : UdpBridgeOptions) (packet : Packet) : Frame where
  sysid := options.systemId
  compid := options.componentId
  msgid := packet.messageId
  payload := packet.payload

/-- What MAVLink can carry: a three-byte message id and a one-byte length. -/
def Packet.Fits (packet : Packet) : Prop :=
  packet.messageId.toNat < 2 ^ 24 ∧ packet.payload.length ≤ 255

instance : DecidablePred Packet.Fits := fun _ => inferInstanceAs (Decidable (_ ∧ _))

/-! ### The checksum -/

/-- What the shortcut feeds back for a mixed byte. -/
private def feedback (mixed : UInt8) : UInt16 :=
  let mixed := mixed ^^^ (mixed <<< 4)
  (mixed.toUInt16 <<< 8) ^^^ (mixed.toUInt16 <<< 3) ^^^ (mixed.toUInt16 >>> 4)

private theorem feedback_shifts (mixed : UInt8) :
    (feedback mixed).toBitVec = Crc.shifts 0x8408#16 8 (mixed.toBitVec.setWidth 16) := by
  have table : ∀ index : Fin 256, (feedback (UInt8.ofFin index)).toBitVec =
      Crc.shifts 0x8408#16 8 ((BitVec.ofFin index : BitVec 8).setWidth 16) := by decide +kernel
  exact table mixed.toFin

/-- The shortcut is eight shifts of the bit-serial register with the X.25 polynomial. -/
theorem crcAccumulate_eq (data : UInt8) (crc : UInt16) :
    (crcAccumulate data crc).toBitVec =
      Crc.accumulate 0x8408#16 crc.toBitVec data.toBitVec := by
  have low : ((crc &&& 0xff).toUInt8).toBitVec = crc.toBitVec.setWidth 8 := by
    apply BitVec.eq_of_toNat_eq
    simp [Nat.and_two_pow_sub_one_eq_mod _ 8]
  have mixed : crcAccumulate data crc =
      crc >>> 8 ^^^ feedback (data ^^^ (crc &&& 0xff).toUInt8) := by
    simp only [crcAccumulate, feedback, UInt16.xor_assoc]
  rw [Crc.accumulate_eq _ _ _ (by decide), mixed, UInt16.toBitVec_xor, feedback_shifts,
    UInt8.toBitVec_xor, low, BitVec.xor_comm data.toBitVec, BitVec.xor_comm]
  rfl

theorem crc_fold (bytes : List UInt8) (crc : UInt16) :
    (bytes.foldl (fun crc byte => crcAccumulate byte crc) crc).toBitVec =
      Crc.checksum 0x8408#16 crc.toBitVec (bytes.map UInt8.toBitVec) := by
  induction bytes generalizing crc with
  | nil => rfl
  | cons byte rest ih =>
    simp only [List.foldl_cons, List.map_cons, Crc.checksum] at ih ⊢
    rw [ih, crcAccumulate_eq]

/-- The X.25 checksum of MAVLink: all ones at the start, no final inversion. -/
def x25 (message : List UInt8) : BitVec 16 :=
  Crc.checksum 0x8408#16 0xffff#16 (message.map UInt8.toBitVec)

theorem packetCrc_eq (options : UdpBridgeOptions) (sequence : UInt8) (packet : Packet) :
    (packetCrc options sequence packet).toBitVec =
      x25 ((packetBody options sequence packet).tail ++ [packet.crcExtra]) := by
  simp only [packetCrc, crcAccumulate_eq, crc_fold, x25, Crc.checksum, List.map_append,
    List.foldl_append, List.map_cons, List.map_nil, List.foldl_cons, List.foldl_nil]
  rfl

/-- The two checksum bytes, high before low, are the checksum. -/
theorem crc_bytes (crc : UInt16) :
    ((crc >>> 8) &&& 0xff).toUInt8.toBitVec ++ (crc &&& 0xff).toUInt8.toBitVec = crc.toBitVec := by
  have bound := crc.toNat_lt
  apply BitVec.eq_of_toNat_eq
  rw [BitVec.toNat_append, ← Nat.shiftLeft_add_eq_or_of_lt (BitVec.isLt _)]
  simp only [UInt8.toNat_toBitVec, UInt16.toNat_toUInt8, UInt16.toNat_and, UInt16.toNat_shiftRight,
    UInt16.reduceToNat, Nat.and_two_pow_sub_one_eq_mod _ 8, Nat.reduceMod, Nat.shiftLeft_eq,
    Nat.shiftRight_eq_div_pow, UInt16.toNat_toBitVec]
  omega

/-! ### The parsers take a packet as one frame -/

/-- Three bytes hold a message id. -/
private theorem messageId_bytes {messageId : UInt32} (bound : messageId.toNat < 2 ^ 24) :
    ((messageId &&& 0xff).toUInt8).toUInt32 |||
      (((messageId >>> 8) &&& 0xff).toUInt8.toUInt32 <<< 8) |||
      (((messageId >>> 16) &&& 0xff).toUInt8.toUInt32 <<< 16) = messageId := by
  have low (number : UInt32) : (number &&& 0xff).toUInt8.toUInt32.toNat = number.toNat % 256 := by
    simp [UInt32.toNat_and, Nat.and_two_pow_sub_one_eq_mod _ 8]
  apply UInt32.toNat_inj.mp
  simp only [UInt32.toNat_or, UInt32.toNat_shiftLeft, low, UInt32.toNat_shiftRight,
    UInt32.reduceToNat, Nat.reduceMod, Nat.shiftRight_eq_div_pow, Nat.shiftLeft_eq]
  rw [Nat.mod_eq_of_lt (by omega : messageId.toNat / 2 ^ 8 % 256 * 2 ^ 8 < 2 ^ 32),
    Nat.mod_eq_of_lt (by omega : messageId.toNat / 2 ^ 16 % 256 * 2 ^ 16 < 2 ^ 32),
    Nat.or_comm (messageId.toNat % 256), ← Nat.shiftLeft_eq,
    ← Nat.shiftLeft_add_eq_or_of_lt (by omega), Nat.or_comm, ← Nat.shiftLeft_eq _ 16,
    ← Nat.shiftLeft_add_eq_or_of_lt (by simp only [Nat.shiftLeft_eq]; omega)]
  simp only [Nat.shiftLeft_eq]
  omega

theorem packetBytes_length (options : UdpBridgeOptions) (sequence : UInt8) (packet : Packet) :
    (packetBytes options sequence packet).length = packet.payload.length + 12 := by
  simp [packetBytes, packetBody]

theorem frameLen_packet (options : UdpBridgeOptions) (sequence : UInt8) (fits : packet.Fits) :
    frameLen (packetBytes options sequence packet) =
      (packetBytes options sequence packet).length := by
  have small : (UInt8.ofNat packet.payload.length).toNat = packet.payload.length := by
    have bound := fits.2
    rw [UInt8.toNat_ofNat']
    omega
  rw [packetBytes_length]
  simp [frameLen, headerLen, signatureLen, payloadLen, mavlink2, byteAt, packetBytes, packetBody,
    small]
  omega

theorem frontFrame_packet (options : UdpBridgeOptions) (sequence : UInt8) (fits : packet.Fits) :
    frontFrame (packetBytes options sequence packet) = packetFrame options packet := by
  have length : payloadLen (packetBytes options sequence packet) = packet.payload.length := by
    have bound := fits.2
    simp only [payloadLen, byteAt, packetBytes, packetBody, List.cons_append, List.getD_cons_succ,
      List.getD_cons_zero, UInt8.toNat_ofNat']
    omega
  have version : mavlink2 (packetBytes options sequence packet) = true := rfl
  have payload : ((packetBytes options sequence packet).drop 10).take packet.payload.length =
      packet.payload := by simp [packetBytes, packetBody]
  rw [frontFrame, if_pos version, length, payload]
  exact congrArg (Frame.mk _ _ · _) (messageId_bytes fits.1)

/-- A packet at the front of the data is consumed whole, whatever follows it. -/
theorem drain_packet (later : List UInt8) {sequence : UInt8} (fits : packet.Fits) :
    streamParser.drain (packetBytes options sequence packet ++ later) =
      (packetFrame options packet :: (streamParser.drain later).1,
        (streamParser.drain later).2) := by
  have size := frameLen_packet options sequence fits
  have frame := frontFrame_packet options sequence fits
  obtain ⟨rest, shape⟩ : ∃ rest, packetBytes options sequence packet = 0xfd :: rest := ⟨_, rfl⟩
  rw [shape] at size frame ⊢
  have bounds := frameLen_bounds (0xfd :: rest)
  have whole := frontFrame_append (0xfd :: rest) later (by omega)
  have length := (header_append (0xfd :: rest) later (by omega)).2.2.2
  rw [List.cons_append] at whole length ⊢
  rw [drain_frame rfl (by rw [length, size]; simp), whole, frame, length, size]
  simp

/-- Packets in a row parse to their frames, and nothing is left over. -/
theorem drain_packets {sequence : UInt8} (fit : ∀ packet ∈ packets, packet.Fits) :
    streamParser.drain (packetsBytes options sequence packets) =
      (packets.map (packetFrame options), []) := by
  induction packets generalizing sequence with
  | nil => exact drain_nil
  | cons packet rest ih =>
    rw [packetsBytes, drain_packet _ (fit packet (by simp)),
      ih fun later member => fit later (List.mem_cons_of_mem _ member)]
    rfl

/-- Bytes that cannot start a frame are skipped. -/
theorem drain_garbage (clean : ∀ byte ∈ garbage, isMagic byte = false) :
    streamParser.drain (garbage ++ data) = streamParser.drain data := by
  induction garbage with
  | nil => rfl
  | cons byte rest ih =>
    rw [List.cons_append, drain_skips (clean byte (by simp))]
    exact ih fun later member => clean later (List.mem_cons_of_mem _ member)

/-- Packets behind bytes that cannot start a frame: the datagram parser on the
whole and the stream parser on any chunks of it find exactly the packets, with
nothing left over, and each packet ends in the checksum of what follows its
magic byte and of the extra byte. -/
theorem packets_are_parsed_back (options : UdpBridgeOptions) (sequence : UInt8)
    (packets : List Packet) (garbage : List UInt8) (chunks : List (List UInt8))
    (fit : ∀ packet ∈ packets, packet.Fits)
    (clean : ∀ byte ∈ garbage, byte ≠ 0xfd ∧ byte ≠ 0xfe)
    (cut : chunks.flatten = garbage ++ packetsBytes options sequence packets) :
    parseDatagram (garbage ++ packetsBytes options sequence packets) =
        packets.map (packetFrame options) ∧
      chunks.foldl readChunk ([], []) = (packets.map (packetFrame options), []) ∧
      ∀ (number : UInt8), ∀ packet ∈ packets, ∃ body low high,
        packetBytes options number packet = 0xfd :: body ++ [low, high] ∧
          high.toBitVec ++ low.toBitVec = x25 (body ++ [packet.crcExtra]) := by
  have skipped : ∀ byte ∈ garbage, isMagic byte = false := by
    intro byte member
    simp [isMagic, clean byte member]
  have parsed : streamParser.drain (garbage ++ packetsBytes options sequence packets) =
      (packets.map (packetFrame options), []) := by
    rw [drain_garbage skipped, drain_packets fit]
  refine ⟨?_, ?_, ?_⟩
  · rw [parseDatagram_eq, parsed]
  · rw [read_chunks, cut, parsed]
  · intro number packet _
    refine ⟨(packetBody options number packet).tail, _, _, rfl, ?_⟩
    rw [crc_bytes, packetCrc_eq]

theorem packets_are_parsed_back_two :
    parseDatagram ([0, 1] ++ packetsBytes {} 255 [⟨23, 168, [0xfe, 0xfd]⟩, ⟨0xfdfefd, 0, []⟩]) =
      [⟨255, 190, 23, [0xfe, 0xfd]⟩, ⟨255, 190, 0xfdfefd, []⟩] :=
  (packets_are_parsed_back {} 255 [⟨23, 168, [0xfe, 0xfd]⟩, ⟨0xfdfefd, 0, []⟩] [0, 1]
    [[0], 1 :: packetsBytes {} 255 [⟨23, 168, [0xfe, 0xfd]⟩, ⟨0xfdfefd, 0, []⟩]]
    (by decide) (by simp) (by simp)).1

end Glide.MavlinkPackets
