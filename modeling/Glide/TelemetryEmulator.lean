import Glide.Library.BinaryRecords
import Glide.MavlinkDecode
import Glide.MavlinkPackets

/-! The datagrams of the telemetry emulator and what is decoded from them. Its messages
are packed field by field; `decode_frame` reads them at fixed offsets, of which the one of
the ground speed belongs to other fields. -/
namespace Glide.TelemetryEmulator
open Library AsciiText BinaryFloat BinaryRecords MavlinkFrames MavlinkPackets MavlinkDecode

/-! ### The emulator -/

/-- `struct.pack` with fields of these widths, in the order of the wire. -/
def pack (fields : List (Nat × Nat)) : List UInt8 :=
  fields.flatMap fun (width, value) => littleEndianBytes width value

/-- `CRC_EXTRA` -/
def crcExtras : List (UInt8 × UInt8) := [(0, 50), (24, 24), (30, 39), (33, 104), (74, 20)]

structure MavlinkSender where
  systemId : UInt8 := 1
  componentId : UInt8 := 1
  sequence : UInt8 := 0
  deriving DecidableEq, Repr

/-- A message that has no entry in the table is not sent. -/
def send (messageId : UInt8) (payload : List UInt8) (sender : MavlinkSender) :
    Option (List UInt8 × MavlinkSender) :=
  (crcExtras.lookup messageId).map fun extra =>
    let header := pack [(1, payload.length), (1, sender.sequence.toNat),
      (1, sender.systemId.toNat), (1, sender.componentId.toNat), (1, messageId.toNat)]
    let crc := (header ++ payload).foldl (fun crc byte => crcAccumulate byte crc) 0xffff
    let crc := crcAccumulate extra crc
    ([0xfe] ++ header ++ payload ++ pack [(2, crc.toNat)],
      { sender with sequence := sender.sequence + 1 })

def sendAll : List (UInt8 × List UInt8) → MavlinkSender → Option (List (List UInt8))
  | [], _ => some []
  | (messageId, payload) :: rest, sender => do
    let (datagram, sender) ← send messageId payload sender
    let later ← sendAll rest sender
    return datagram :: later

/-- Floats are given by their bits. -/
structure GlobalPositionInt where
  timeBootMs : UInt32
  lat : Int32
  lon : Int32
  alt : Int32
  relativeAlt : Int32
  vx : Int16
  vy : Int16
  vz : Int16
  hdg : UInt16
  deriving DecidableEq, Repr

structure GpsRawInt where
  timeUsec : UInt64
  lat : Int32
  lon : Int32
  alt : Int32
  eph : UInt16
  epv : UInt16
  vel : UInt16
  cog : UInt16
  fixType : UInt8
  satellitesVisible : UInt8
  deriving DecidableEq, Repr

structure Attitude where
  timeBootMs : UInt32
  roll : UInt32
  pitch : UInt32
  yaw : UInt32
  rollspeed : UInt32
  pitchspeed : UInt32
  yawspeed : UInt32
  deriving DecidableEq, Repr

structure VfrHud where
  airspeed : UInt32
  groundspeed : UInt32
  alt : UInt32
  climb : UInt32
  heading : Int16
  throttle : UInt16
  deriving DecidableEq, Repr

/-- `<IiiiihhhH` -/
def GlobalPositionInt.fields (message : GlobalPositionInt) : List (Nat × Nat) :=
  [(4, message.timeBootMs.toNat), (4, message.lat.toUInt32.toNat), (4, message.lon.toUInt32.toNat),
    (4, message.alt.toUInt32.toNat), (4, message.relativeAlt.toUInt32.toNat),
    (2, message.vx.toUInt16.toNat), (2, message.vy.toUInt16.toNat), (2, message.vz.toUInt16.toNat),
    (2, message.hdg.toNat)]

/-- `<QiiiHHHHBB` -/
def GpsRawInt.fields (message : GpsRawInt) : List (Nat × Nat) :=
  [(8, message.timeUsec.toNat), (4, message.lat.toUInt32.toNat), (4, message.lon.toUInt32.toNat),
    (4, message.alt.toUInt32.toNat), (2, message.eph.toNat), (2, message.epv.toNat),
    (2, message.vel.toNat), (2, message.cog.toNat), (1, message.fixType.toNat),
    (1, message.satellitesVisible.toNat)]

/-- `<Iffffff` -/
def Attitude.fields (message : Attitude) : List (Nat × Nat) :=
  [(4, message.timeBootMs.toNat), (4, message.roll.toNat), (4, message.pitch.toNat),
    (4, message.yaw.toNat), (4, message.rollspeed.toNat), (4, message.pitchspeed.toNat),
    (4, message.yawspeed.toNat)]

/-- `<ffffhH` -/
def VfrHud.fields (message : VfrHud) : List (Nat × Nat) :=
  [(4, message.airspeed.toNat), (4, message.groundspeed.toNat), (4, message.alt.toNat),
    (4, message.climb.toNat), (2, message.heading.toUInt16.toNat), (2, message.throttle.toNat)]

structure Telemetry where
  position : GlobalPositionInt
  gps : GpsRawInt
  attitude : Attitude
  hud : VfrHud
  deriving DecidableEq, Repr

/-- The messages of `send_telemetry`. -/
def Telemetry.messages (telemetry : Telemetry) : List (UInt8 × List UInt8) :=
  [(33, pack telemetry.position.fields), (24, pack telemetry.gps.fields),
    (30, pack telemetry.attitude.fields), (74, pack telemetry.hud.fields)]

/-! ### What is read -/

/-- A quantity as it is read from the payload, before it is scaled and printed. -/
inductive Reading where
  | degrees (number : Int)
  | thousandths (number : Int)
  | angle (bits : Nat)
  | float (bits : Nat)
  | count (number : Nat)
  deriving DecidableEq, Repr

def Reading.text : Reading → List UInt8
  | .degrees number => MavlinkDecode.degrees number
  | .thousandths number => MavlinkDecode.thousandths number
  | .angle bits => fixedText 2 (multiply binary32 (decodeBits binary32 bits) radToDeg)
  | .float bits => fixedText 2 (decodeBits binary32 bits)
  | .count number => decimal number

/-- The pieces of the text that a frame of the emulator is decoded to: each quantity and
what is printed in front of it. -/
def pieces (frame : Frame) : List (List UInt8 × Reading) :=
  let p := frame.payload
  match frame.msgid.toNat with
  | 24 => [(ascii "mav position ", .degrees (readSigned 4 p 8)), ([32], .degrees (readSigned 4 p 12)),
      ([32], .thousandths (readSigned 4 p 16)), (ascii "\nmav gps ", .count (readLe 1 p 29))]
  | 30 => [(ascii "mav attitude ", .angle (readLe 4 p 4)), ([32], .angle (readLe 4 p 8)),
      ([32], .angle (readLe 4 p 12))]
  | 33 => [(ascii "mav position ", .degrees (readSigned 4 p 4)), ([32], .degrees (readSigned 4 p 8)),
      ([32], .thousandths (readSigned 4 p 16))]
  | 74 => [(ascii "mav speed ", .float (readLe 4 p 16)), ([32], .float (readLe 4 p 0))]
  | _ => []

/-- The pieces are what is printed. -/
theorem decodeFrame_pieces (frame : Frame)
    (known : frame.msgid = 24 ∨ frame.msgid = 30 ∨ frame.msgid = 33 ∨ frame.msgid = 74) :
    decodeFrame frame =
      some ((pieces frame).flatMap fun (front, reading) => front ++ reading.text) := by
  unfold decodeFrame pieces
  obtain is | is | is | is := known
  · rw [is]
    simp [decodeGpsRawInt, positionText, Reading.text]
  · rw [is]
    simp [decodeAttitude, MavlinkDecode.angle, readFloat, Reading.text]
  · rw [is]
    simp [decodeGlobalPositionInt, positionText, Reading.text]
  · rw [is]
    simp [decodeVfrHud, readFloat, Reading.text]

/-- The pieces as the emulator's fields have them. -/
def Telemetry.pieces (telemetry : Telemetry) : List (List (List UInt8 × Reading)) :=
  [[(ascii "mav position ", .degrees telemetry.position.lat.toInt),
      ([32], .degrees telemetry.position.lon.toInt),
      ([32], .thousandths telemetry.position.relativeAlt.toInt)],
    [(ascii "mav position ", .degrees telemetry.gps.lat.toInt),
      ([32], .degrees telemetry.gps.lon.toInt), ([32], .thousandths telemetry.gps.alt.toInt),
      (ascii "\nmav gps ", .count telemetry.gps.satellitesVisible.toNat)],
    [(ascii "mav attitude ", .angle telemetry.attitude.roll.toNat),
      ([32], .angle telemetry.attitude.pitch.toNat), ([32], .angle telemetry.attitude.yaw.toNat)],
    [(ascii "mav speed ", .float telemetry.hud.groundspeed.toNat),
      ([32], .float telemetry.hud.airspeed.toNat)]]

/-- Each datagram is one frame, which is printed from the emulator's own fields. -/
def Delivered (sender : MavlinkSender) (telemetry : Telemetry) : Prop :=
  ∃ (datagrams : List (List UInt8)) (frames : List Frame),
    sendAll telemetry.messages sender = some datagrams ∧
    datagrams.map parseDatagram = frames.map (fun frame => [frame]) ∧
    frames.map decodeFrame = frames.map (fun frame =>
      some ((pieces frame).flatMap fun (front, reading) => front ++ reading.text)) ∧
    frames.map pieces = telemetry.pieces

/-! ### Packed fields -/

def width (fields : List (Nat × Nat)) : Nat := (fields.map Prod.fst).sum

@[simp] theorem length_pack (fields : List (Nat × Nat)) : (pack fields).length = width fields := by
  induction fields with
  | nil => rfl
  | cons field rest ih =>
    simp only [pack, width, List.flatMap_cons, List.map_cons, List.sum_cons] at ih ⊢
    rw [List.length_append, ih, littleEndianBytes_length]

/-- A field is read back where the fields in front of it end. -/
theorem readLe_pack {size value : Nat} (before after : List (Nat × Nat))
    (fits : value < 256 ^ size) :
    readLe size (pack (before ++ (size, value) :: after)) (width before) = value := by
  have parts : pack (before ++ (size, value) :: after) =
      pack before ++ (littleEndianBytes size value ++ pack after) := by
    simp [pack]
  have inside : width before + size ≤ (pack (before ++ (size, value) :: after)).length := by
    rw [parts, List.length_append, List.length_append, length_pack, littleEndianBytes_length]
    omega
  rw [readLe, if_pos inside, parts, ← length_pack, List.drop_left,
    List.take_left' (littleEndianBytes_length _ _)]
  exact littleEndianValue_bytes fits

theorem signed_pack (before after : List (Nat × Nat)) (number : Int32) :
    readSigned 4 (pack (before ++ (4, number.toUInt32.toNat) :: after)) (width before) =
      number.toInt := by
  unfold readSigned
  rw [readLe_pack before after number.toUInt32.toNat_lt]
  change _ = number.toBitVec.toInt
  rw [BitVec.toInt_eq_toNat_cond]
  have same : number.toUInt32.toNat = number.toBitVec.toNat := rfl
  rw [same]
  dsimp only
  split <;> split <;> omega

/-! ### Datagrams -/

/-- A MAVLink 1 frame and nothing behind it. -/
theorem parse_frame {payload check : List UInt8} (short : payload.length < 256)
    (checked : check.length = 2) (sequence systemId componentId messageId : UInt8) :
    parseDatagram (0xfe :: UInt8.ofNat payload.length :: sequence :: systemId :: componentId ::
        messageId :: (payload ++ check)) =
      [⟨systemId, componentId, messageId.toUInt32, payload⟩] := by
  have length : (UInt8.ofNat payload.length).toNat = payload.length := by
    rw [UInt8.toNat_ofNat']
    exact Nat.mod_eq_of_lt short
  generalize parts : UInt8.ofNat payload.length :: sequence :: systemId :: componentId ::
    messageId :: (payload ++ check) = rest
  have size : (0xfe :: rest).length = 6 + payload.length + 2 := by
    rw [← parts]
    simp only [List.length_cons, List.length_append, checked]
    omega
  have frame : frameLen (0xfe :: rest) = 6 + payload.length + 2 := by
    rw [← parts]
    change 6 + (UInt8.ofNat payload.length).toNat + 2 + 0 = _
    rw [length]
  have front : frontFrame (0xfe :: rest) =
      ⟨systemId, componentId, messageId.toUInt32, payload⟩ := by
    have payloadLen : payloadLen (0xfe :: rest) = payload.length := by
      rw [← parts]
      exact length
    have own : ((0xfe :: rest).drop 6).take payload.length = payload := by
      rw [← parts]
      exact List.take_left
    rw [frontFrame, payloadLen, own, ← parts]
    rfl
  rw [parseDatagram_eq, drain_frame rfl (by rw [frame, size]), front, frame, ← size,
    List.drop_length, drain_nil]

/-- What `send` sends is one frame. -/
theorem parse_sent (short : payload.length < 256)
    (sent : send messageId payload sender = some (datagram, later)) :
    parseDatagram datagram =
        [⟨sender.systemId, sender.componentId, messageId.toUInt32, payload⟩] ∧
      later = { sender with sequence := sender.sequence + 1 } := by
  obtain ⟨extra, -, made⟩ := Option.map_eq_some_iff.1 sent
  simp only [Prod.mk.injEq] at made
  obtain ⟨rfl, rfl⟩ := made
  refine ⟨?_, rfl⟩
  have framed : ∀ check : List UInt8, check.length = 2 → _ := fun check checked =>
    parse_frame short checked sender.sequence sender.systemId sender.componentId messageId
  simp only [pack, List.flatMap_cons, List.flatMap_nil, littleEndianBytes, UInt8.ofNat_toNat,
    List.cons_append, List.nil_append]
  exact framed _ rfl

theorem sent_of_listed (listed : crcExtras.lookup messageId = some extra) (payload : List UInt8)
    (sender : MavlinkSender) :
    ∃ datagram, send messageId payload sender =
      some (datagram, { sender with sequence := sender.sequence + 1 }) := by
  unfold send
  rw [listed]
  exact ⟨_, rfl⟩

/-- Messages of the table are all sent, each as one frame. -/
theorem parse_sentAll (messages : List (UInt8 × List UInt8)) (sender : MavlinkSender)
    (listed : ∀ message ∈ messages, (crcExtras.lookup message.1).isSome)
    (short : ∀ message ∈ messages, message.2.length < 256) :
    ∃ datagrams, sendAll messages sender = some datagrams ∧
      datagrams.map parseDatagram = messages.map fun message =>
        [⟨sender.systemId, sender.componentId, message.1.toUInt32, message.2⟩] := by
  induction messages generalizing sender with
  | nil => exact ⟨[], rfl, rfl⟩
  | cons message rest ih =>
    obtain ⟨extra, known⟩ := Option.isSome_iff_exists.1 (listed message List.mem_cons_self)
    obtain ⟨datagram, sent⟩ := sent_of_listed known message.2 sender
    obtain ⟨later, all, frames⟩ := ih { sender with sequence := sender.sequence + 1 }
      (fun other inside => listed other (.tail _ inside))
      (fun other inside => short other (.tail _ inside))
    refine ⟨datagram :: later, ?_, ?_⟩
    · rw [sendAll, sent]
      change (sendAll rest _ >>= fun _ => _) = _
      rw [all]
      rfl
    · rw [List.map_cons, List.map_cons, frames,
        (parse_sent (short message List.mem_cons_self) sent).1]

/-! ### Every quantity comes from its own field -/

def frameOf (sender : MavlinkSender) (messageId : UInt8) (fields : List (Nat × Nat)) : Frame :=
  ⟨sender.systemId, sender.componentId, messageId.toUInt32, pack fields⟩

def Telemetry.frames (telemetry : Telemetry) (sender : MavlinkSender) : List Frame :=
  [frameOf sender 33 telemetry.position.fields, frameOf sender 24 telemetry.gps.fields,
    frameOf sender 30 telemetry.attitude.fields, frameOf sender 74 telemetry.hud.fields]

theorem parse_telemetry (telemetry : Telemetry) (sender : MavlinkSender) :
    ∃ datagrams, sendAll telemetry.messages sender = some datagrams ∧
      datagrams.map parseDatagram = (telemetry.frames sender).map fun frame => [frame] := by
  have table : ∀ message ∈ telemetry.messages,
      (crcExtras.lookup message.1).isSome ∧ message.2.length < 256 := by
    intro message inside
    simp only [Telemetry.messages, List.mem_cons, List.not_mem_nil, or_false] at inside
    obtain rfl | rfl | rfl | rfl := inside <;>
      simp [crcExtras, width, GlobalPositionInt.fields, GpsRawInt.fields, Attitude.fields,
        VfrHud.fields]
  exact parse_sentAll telemetry.messages sender (fun message inside => (table message inside).1)
    fun message inside => (table message inside).2

theorem position_pieces (sender : MavlinkSender) (message : GlobalPositionInt) :
    pieces (frameOf sender 33 message.fields) =
      [(ascii "mav position ", .degrees message.lat.toInt), ([32], .degrees message.lon.toInt),
        ([32], .thousandths message.relativeAlt.toInt)] := by
  have lat : readSigned 4 (pack message.fields) 4 = message.lat.toInt :=
    signed_pack (message.fields.take 1) (message.fields.drop 2) message.lat
  have lon : readSigned 4 (pack message.fields) 8 = message.lon.toInt :=
    signed_pack (message.fields.take 2) (message.fields.drop 3) message.lon
  have alt : readSigned 4 (pack message.fields) 16 = message.relativeAlt.toInt :=
    signed_pack (message.fields.take 4) (message.fields.drop 5) message.relativeAlt
  rw [← lat, ← lon, ← alt]
  rfl

theorem gps_pieces (sender : MavlinkSender) (message : GpsRawInt) :
    pieces (frameOf sender 24 message.fields) =
      [(ascii "mav position ", .degrees message.lat.toInt), ([32], .degrees message.lon.toInt),
        ([32], .thousandths message.alt.toInt),
        (ascii "\nmav gps ", .count message.satellitesVisible.toNat)] := by
  have lat : readSigned 4 (pack message.fields) 8 = message.lat.toInt :=
    signed_pack (message.fields.take 1) (message.fields.drop 2) message.lat
  have lon : readSigned 4 (pack message.fields) 12 = message.lon.toInt :=
    signed_pack (message.fields.take 2) (message.fields.drop 3) message.lon
  have alt : readSigned 4 (pack message.fields) 16 = message.alt.toInt :=
    signed_pack (message.fields.take 3) (message.fields.drop 4) message.alt
  have satellites : readLe 1 (pack message.fields) 29 = message.satellitesVisible.toNat :=
    readLe_pack (message.fields.take 9) [] message.satellitesVisible.toNat_lt
  rw [← lat, ← lon, ← alt, ← satellites]
  rfl

theorem attitude_pieces (sender : MavlinkSender) (message : Attitude) :
    pieces (frameOf sender 30 message.fields) =
      [(ascii "mav attitude ", .angle message.roll.toNat), ([32], .angle message.pitch.toNat),
        ([32], .angle message.yaw.toNat)] := by
  have roll : readLe 4 (pack message.fields) 4 = message.roll.toNat :=
    readLe_pack (message.fields.take 1) (message.fields.drop 2) message.roll.toNat_lt
  have pitch : readLe 4 (pack message.fields) 8 = message.pitch.toNat :=
    readLe_pack (message.fields.take 2) (message.fields.drop 3) message.pitch.toNat_lt
  have yaw : readLe 4 (pack message.fields) 12 = message.yaw.toNat :=
    readLe_pack (message.fields.take 3) (message.fields.drop 4) message.yaw.toNat_lt
  rw [← roll, ← pitch, ← yaw]
  rfl

/-- What is taken for the ground speed is the heading and the throttle. -/
theorem hud_pieces (sender : MavlinkSender) (message : VfrHud) :
    pieces (frameOf sender 74 message.fields) =
      [(ascii "mav speed ",
          .float (message.heading.toUInt16.toNat + 65536 * message.throttle.toNat)),
        ([32], .float message.airspeed.toNat)] := by
  have airspeed : readLe 4 (pack message.fields) 0 = message.airspeed.toNat :=
    readLe_pack [] (message.fields.drop 1) message.airspeed.toNat_lt
  have low := message.heading.toUInt16.toNat_lt
  have high := message.throttle.toNat_lt
  have joined : pack message.fields = pack (message.fields.take 4 ++
      (4, message.heading.toUInt16.toNat + 65536 * message.throttle.toNat) :: []) := by
    have parts := littleEndianBytes_add 2 2 low message.throttle.toNat
    simp only [pack, VfrHud.fields, List.take, List.flatMap_append, List.flatMap_cons,
      List.flatMap_nil, List.append_nil, List.append_assoc]
    rw [← parts]
    rfl
  have misread : readLe 4 (pack message.fields) 16 =
      message.heading.toUInt16.toNat + 65536 * message.throttle.toNat := by
    rw [joined]
    exact readLe_pack (message.fields.take 4) [] (by omega)
  rw [← airspeed, ← misread]
  rfl

/-- Each datagram is one frame; what is left is which fields are read. -/
theorem delivered_pieces (sender : MavlinkSender) (telemetry : Telemetry) :
    Delivered sender telemetry ↔ (telemetry.frames sender).map pieces = telemetry.pieces := by
  obtain ⟨datagrams, sent, parsed⟩ := parse_telemetry telemetry sender
  constructor
  · rintro ⟨others, frames, sentOthers, parsedOthers, -, same⟩
    cases sent.symm.trans sentOthers
    have frames_eq : telemetry.frames sender = frames :=
      List.map_injective_iff.2 (fun _ _ equal => (List.cons.inj equal).1)
        (parsed.symm.trans parsedOthers)
    exact frames_eq ▸ same
  · intro read
    refine ⟨datagrams, telemetry.frames sender, sent, parsed, ?_, read⟩
    apply List.map_congr_left
    intro frame inside
    apply decodeFrame_pieces
    simp only [Telemetry.frames, List.mem_cons, List.not_mem_nil, or_false] at inside
    obtain rfl | rfl | rfl | rfl := inside
    · exact .inr (.inr (.inl rfl))
    · exact .inl rfl
    · exact .inr (.inl rfl)
    · exact .inr (.inr (.inr rfl))

/-- Every quantity is printed from the emulator's own field exactly when the ground speed
has the bits of the heading and the throttle. -/
theorem telemetry_delivered_iff (sender : MavlinkSender) (telemetry : Telemetry) :
    Delivered sender telemetry ↔ telemetry.hud.groundspeed.toNat =
      telemetry.hud.heading.toUInt16.toNat + 65536 * telemetry.hud.throttle.toNat := by
  rw [delivered_pieces]
  simp only [Telemetry.frames, List.map_cons, List.map_nil, position_pieces, gps_pieces,
    attitude_pieces, hud_pieces, Telemetry.pieces, List.cons.injEq, Prod.mk.injEq,
    Reading.float.injEq, true_and, and_true]
  exact eq_comm

/-- 12 m/s to the east, 100 m up. -/
def eastward : Telemetry where
  position := ⟨1000, 512373245, 71616353, 100000, 100000, 0, 1200, 0, 9000⟩
  gps := ⟨1000000, 512373245, 71616353, 100000, 80, 120, 1200, 9000, 3, 14⟩
  attitude := ⟨1000, 0x3d23d70a, 0x3cf5c28f, 0x3fc90fdb, 0, 0, 0⟩
  hud := ⟨0x41400000, 0x41400000, 0x42c80000, 0, 90, 55⟩

theorem eastward_misread : ¬ Delivered {} eastward := by
  rw [delivered_pieces]
  decide

end Glide.TelemetryEmulator
