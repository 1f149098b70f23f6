import Glide.Library.CheckedBuffers
import Glide.ImxVpuRtpDecoder
import Glide.RockchipMppRtpDecoder

/-! The parsing of datagrams with every read checked: bytes against the size of the
datagram, copies against the part that they are made from. What comes out is what the
parsing of lists gives, so that nothing else is ever read. -/
namespace Glide.CheckedParsing
open RtpPackets NalPayloads RtpDepacketizer RockchipMppRtpDecoder
open Library.CheckedBuffers

/-- The byte is behind the datagram, or the copy leaves its source. -/
inductive Fault where
  | outside
  | beyond
  deriving DecidableEq, Repr

abbrev Checked := Except Fault

abbrev Payload := Window UInt8

def readByte (packet : List UInt8) (index : Nat) : Checked UInt8 := load .outside packet index

def readU16 (packet : List UInt8) (index : Nat) : Checked Nat := do
  let high ← readByte packet index
  let low ← readByte packet (index + 1)
  return high.toNat * 256 + low.toNat

namespace Payload

def byte (payload : Payload) (index : Nat) : Checked UInt8 := payload.read .outside index

def u16 (payload : Payload) (index : Nat) : Checked Nat := do
  let high ← byte payload index
  let low ← byte payload (index + 1)
  return high.toNat * 256 + low.toNat

def copied (payload : Payload) (start stop : Nat) : Checked (List UInt8) :=
  payload.copy .beyond start stop

end Payload

/-! ### Headers -/

/-- A packet whose payload is still in the datagram. -/
structure ReceivedPacket where
  marker : Bool
  sequence : UInt16
  timestamp : UInt32
  payload : Payload

def ReceivedPacket.rtpPacket (received : ReceivedPacket) : RtpPacket where
  marker := received.marker
  sequence := received.sequence
  timestamp := received.timestamp
  payload := received.payload.cells

def checkedOffset (packet : List UInt8) : Checked (Option Nat) := do
  let first ← readByte packet 0
  let offset := 12 + (first &&& 0x0F).toNat * 4
  if offset > packet.length then return none
  else if first &&& 0x10 = 0 then return some offset
  else if offset + 4 > packet.length then return none
  else
    let words ← readU16 packet (offset + 2)
    let offset := offset + (4 + words * 4)
    return if offset > packet.length then none else some offset

def checkedSize (packet : List UInt8) (offset : Nat) : Checked Nat := do
  let first ← readByte packet 0
  let size := packet.length - offset
  if first &&& 0x20 ≠ 0 ∧ size > 0 then
    let padding ← readByte packet (packet.length - 1)
    return if padding.toNat ≤ size then size - padding.toNat else size
  else return size

/-- The head of every `handle_rtp_packet`. -/
def checkedPacket (packet : List UInt8) : Checked (Option ReceivedPacket) := do
  if packet.length < 12 then return none
  else
    let first ← readByte packet 0
    if first >>> 6 ≠ 2 then return none
    else
      let second ← readByte packet 1
      let sequence ← readU16 packet 2
      let high ← readU16 packet 4
      let low ← readU16 packet 6
      match ← checkedOffset packet with
      | none => return none
      | some offset =>
        let size ← checkedSize packet offset
        return if size = 0 then none
          else some {
            marker := second &&& 0x80 ≠ 0
            sequence := UInt16.ofNat sequence
            timestamp := UInt32.ofNat (high * 65536 + low)
            payload := ⟨packet, offset, size⟩ }

theorem readByte_inside {packet : List UInt8} (inside : index < packet.length) :
    readByte packet index = .ok (byteAt packet index) := load_inside _ inside _

theorem readU16_inside {packet : List UInt8} (inside : index + 1 < packet.length) :
    readU16 packet index = .ok (fieldU16 packet index) := by
  unfold readU16
  rw [readByte_inside (Nat.lt_of_succ_lt inside), readByte_inside inside]
  rfl

theorem checkedOffset_eq {packet : List UInt8} (long : 12 ≤ packet.length) :
    checkedOffset packet = .ok (payloadOffset packet) := by
  unfold checkedOffset payloadOffset
  rw [readByte_inside (by omega)]
  change (if _ then _ else _) = _
  dsimp only
  split
  · rfl
  · split
    · rfl
    · split
      · rfl
      · rename_i fits
        rw [readU16_inside (by omega)]
        rfl

theorem payloadOffset_le {packet : List UInt8} (found : payloadOffset packet = some offset) :
    12 ≤ offset ∧ offset ≤ packet.length := by
  unfold payloadOffset at found
  dsimp only at found
  (repeat' split at found) <;> cases found <;> omega

theorem payloadSize_le (packet : List UInt8) (offset : Nat) :
    payloadSize packet offset ≤ packet.length - offset := by
  unfold payloadSize
  dsimp only
  split <;> omega

theorem checkedSize_eq {packet : List UInt8} (long : 12 ≤ packet.length) (offset : Nat) :
    checkedSize packet offset = .ok (payloadSize packet offset) := by
  unfold checkedSize payloadSize
  rw [readByte_inside (by omega)]
  change (if _ then _ else _) = _
  dsimp only
  split
  · rename_i padded
    rw [readByte_inside (by omega)]
    change Except.ok (if _ then _ else _) = _
    by_cases short : (byteAt packet (packet.length - 1)).toNat ≤ packet.length - offset
    · rw [if_pos short, if_pos ⟨padded.1, padded.2, short⟩]
    · rw [if_neg short, if_neg fun all => short all.2.2]
  · rename_i plain
    rw [if_neg fun all => plain ⟨all.1, all.2.1⟩]
    rfl

/-- What the reads come to. -/
def receivedPacket (packet : List UInt8) : Option ReceivedPacket :=
  if packet.length < 12 ∨ byteAt packet 0 >>> 6 ≠ 2 then none
  else
    match payloadOffset packet with
    | none => none
    | some offset =>
      if payloadSize packet offset = 0 then none
      else some {
        marker := byteAt packet 1 &&& 0x80 ≠ 0
        sequence := UInt16.ofNat (fieldU16 packet 2)
        timestamp := UInt32.ofNat (fieldU32 packet 4)
        payload := ⟨packet, offset, payloadSize packet offset⟩ }

theorem receivedPacket_parsed (packet : List UInt8) :
    (receivedPacket packet).map ReceivedPacket.rtpPacket = parseRtpPacket packet := by
  unfold receivedPacket parseRtpPacket
  split
  · rfl
  · cases payloadOffset packet with
    | none => rfl
    | some offset =>
      dsimp only
      split <;> rfl

/-- The payload lies inside the datagram. -/
theorem receivedPacket_inside {packet : List UInt8} (found : receivedPacket packet = some received) :
    received.payload.Inside ∧ received.payload.buffer = packet := by
  unfold receivedPacket at found
  split at found
  · cases found
  · split at found
    · cases found
    · rename_i offset at_
      split at found
      · cases found
      · cases found
        have bound := (payloadOffset_le at_).2
        have fits := payloadSize_le packet offset
        have inside : offset + payloadSize packet offset ≤ packet.length := by omega
        exact ⟨inside, rfl⟩

/-- Only bytes of the datagram are read. -/
theorem checkedPacket_eq (packet : List UInt8) :
    checkedPacket packet = .ok (receivedPacket packet) := by
  unfold checkedPacket receivedPacket
  by_cases short : packet.length < 12
  · rw [if_pos short, if_pos (.inl short)]
    rfl
  · rw [if_neg short, readByte_inside (by omega)]
    change (if _ then _ else _) = _
    by_cases version : byteAt packet 0 >>> 6 ≠ 2
    · rw [if_pos version, if_pos (.inr version)]
      rfl
    · rw [if_neg version, if_neg fun refused => refused.elim short version,
        readByte_inside (by omega), readU16_inside (by omega), readU16_inside (by omega),
        readU16_inside (by omega), checkedOffset_eq (by omega)]
      cases payloadOffset packet with
      | none => rfl
      | some offset =>
        change (checkedSize packet offset >>= fun _ => _) = _
        rw [checkedSize_eq (by omega)]
        rfl

/-! ### Payloads of NAL units -/

section Payloads
variable {payload : Payload}

theorem byte_inside (inside : payload.Inside) (own : index < payload.size) :
    payload.byte index = .ok (byteAt payload.cells index) :=
  Window.read_inside _ inside own _

theorem u16_inside (inside : payload.Inside) (own : index + 1 < payload.size) :
    payload.u16 index = .ok (fieldU16 payload.cells index) := by
  unfold Payload.u16
  rw [byte_inside inside (Nat.lt_of_succ_lt own), byte_inside inside own]
  rfl

theorem copied_rest (inside : payload.Inside) (own : start ≤ payload.size) :
    payload.copied start payload.size = .ok (payload.cells.drop start) := by
  have length := Window.length_cells inside
  have whole : (payload.cells.drop start).take (payload.size - start) = payload.cells.drop start :=
    List.take_of_length_le (by rw [List.length_drop, length])
  rw [Payload.copied, Window.copy_inside _ inside own (Nat.le_refl _), whole]

theorem copied_part {start size : Nat} (inside : payload.Inside) (own : start + size ≤ payload.size) :
    payload.copied start (start + size) = .ok ((payload.cells.drop start).take size) := by
  rw [Payload.copied, Window.copy_inside _ inside (Nat.le_add_right _ _) own,
    Nat.add_sub_cancel_left]

end Payloads

/-- The loop over the units of an aggregate, from one offset of the payload on. -/
def checkedAggregate (payload : Payload) (offset : Nat) : Checked (List (List UInt8) × Bool) := do
  if offset + 2 ≤ payload.size then
    let nalSize ← payload.u16 offset
    if offset + 2 + nalSize > payload.size then return ([], true)
    else
      let nal ← payload.copied (offset + 2) (offset + 2 + nalSize)
      let (nals, cut) ← checkedAggregate payload (offset + 2 + nalSize)
      return (nal :: nals, cut)
  else return ([], false)
termination_by payload.size - offset

def checkedForm (codec : NalCodec) (payload : Payload) : Checked PayloadForm :=
  match codec with
  | .h264 => do
    if payload.size = 0 then return .ignored
    else
      let first ← payload.byte 0
      let kind := nalType .h264 first
      if 1 ≤ kind ∧ kind ≤ 23 then return .single (← payload.copied 0 payload.size)
      else if kind = 24 then
        let (nals, cut) ← checkedAggregate payload 1
        return .aggregate nals cut
      else if kind = 28 ∧ payload.size ≥ 2 then
        let fuHeader ← payload.byte 1
        let data ← payload.copied 2 payload.size
        return .fragment (fuHeader &&& 0x80 ≠ 0) (fuHeader &&& 0x40 ≠ 0)
          [(first &&& 0xE0) ||| (fuHeader &&& 0x1F)] data
      else return .ignored
  | .h265 => do
    if payload.size < 2 then return .ignored
    else
      let first ← payload.byte 0
      let second ← payload.byte 1
      let kind := nalType .h265 first
      if kind ≤ 47 then return .single (← payload.copied 0 payload.size)
      else if kind = 48 then
        let (nals, cut) ← checkedAggregate payload 2
        return .aggregate nals cut
      else if kind = 49 ∧ payload.size ≥ 3 then
        let fuHeader ← payload.byte 2
        let data ← payload.copied 3 payload.size
        return .fragment (fuHeader &&& 0x80 ≠ 0) (fuHeader &&& 0x40 ≠ 0)
          [(first &&& 0x81) ||| ((fuHeader &&& (0x3F : UInt8)) <<< (1 : UInt8)), second] data
      else return .ignored

/-- Two bytes more are a length, or the list ends before them. -/
theorem drop_two {bytes : List UInt8} (more : offset + 2 ≤ bytes.length) :
    bytes.drop offset = byteAt bytes offset :: byteAt bytes (offset + 1) ::
      bytes.drop (offset + 2) := by
  have byte : ∀ index, (bound : index < bytes.length) → bytes[index] = byteAt bytes index := by
    intro index bound
    rw [byteAt, List.getD_eq_getElem?_getD, List.getElem?_eq_getElem bound, Option.getD_some]
  rw [List.drop_eq_getElem_cons (by omega), List.drop_eq_getElem_cons (by omega), byte, byte]

theorem short_drop {bytes : List UInt8} (short : ¬ offset + 2 ≤ bytes.length) :
    (bytes.drop offset).length < 2 := by
  rw [List.length_drop]
  omega

theorem aggregated_short {bytes : List UInt8} (short : bytes.length < 2) :
    aggregatedNals bytes = ([], false) := by
  obtain _ | ⟨first, _ | ⟨second, rest⟩⟩ := bytes
  · simp [aggregatedNals]
  · simp [aggregatedNals]
  · simp only [List.length_cons] at short
    omega

theorem checkedAggregate_eq {payload : Payload} (inside : payload.Inside) (offset : Nat) :
    checkedAggregate payload offset = .ok (aggregatedNals (payload.cells.drop offset)) := by
  have length := Window.length_cells inside
  induction left : payload.size - offset using Nat.strong_induction_on generalizing offset with
  | _ left ih =>
    rw [checkedAggregate]
    by_cases more : offset + 2 ≤ payload.size
    · have rest := @drop_two offset payload.cells (by rw [length]; exact more)
      rw [if_pos more, u16_inside inside (by omega), rest, aggregatedNals]
      change (if offset + 2 + fieldU16 payload.cells offset > payload.size then _ else _) = _
      have size : (byteAt payload.cells offset).toNat * 256 +
          (byteAt payload.cells (offset + 1)).toNat = fieldU16 payload.cells offset := rfl
      have behind : (payload.cells.drop (offset + 2)).length = payload.size - (offset + 2) := by
        rw [List.length_drop, length]
      dsimp only
      rw [size, behind]
      by_cases cut : offset + 2 + fieldU16 payload.cells offset > payload.size
      · rw [if_pos cut, if_pos (by omega)]
        rfl
      · rw [if_neg cut, if_neg (by omega), copied_part inside (by omega), List.drop_drop]
        change (checkedAggregate payload _ >>= fun _ => _) = _
        rw [ih _ (by omega) _ rfl]
        rfl
    · have few := @short_drop offset payload.cells (by rw [length]; exact more)
      rw [if_neg more, aggregated_short few]
      rfl

theorem checkedForm_eq {payload : Payload} (inside : payload.Inside) (codec : NalCodec) :
    checkedForm codec payload = .ok (payloadForm codec payload.cells) := by
  have length := Window.length_cells inside
  cases codec with
  | h264 =>
    unfold checkedForm payloadForm h264Form
    dsimp only
    generalize cells : payload.cells = bytes at length
    match bytes, length with
    | [], length =>
      rw [if_pos (by simpa using length.symm)]
      rfl
    | first :: rest, length =>
      rw [List.length_cons] at length
      have read : payload.byte 0 = .ok first := by
        rw [byte_inside inside (by omega), cells]
        rfl
      rw [if_neg (by omega), read]
      change (if 1 ≤ nalType .h264 first ∧ _ then _ else _) = _
      dsimp only
      by_cases whole : 1 ≤ nalType .h264 first ∧ nalType .h264 first ≤ 23
      · rw [if_pos whole, if_pos whole, copied_rest inside (Nat.zero_le _), cells]
        rfl
      · rw [if_neg whole, if_neg whole]
        by_cases aggregate : nalType .h264 first = 24
        · rw [if_pos aggregate, if_pos aggregate, checkedAggregate_eq inside, cells]
          rfl
        · rw [if_neg aggregate, if_neg aggregate]
          by_cases fragment : nalType .h264 first = 28
          · rw [if_pos fragment]
            match rest, length with
            | [], length =>
              rw [if_neg (by simp at length; omega)]
              rfl
            | fuHeader :: data, length =>
              rw [List.length_cons] at length
              rw [if_pos ⟨fragment, by omega⟩, byte_inside inside (by omega),
                copied_rest inside (by omega), cells]
              rfl
          · rw [if_neg fun all => fragment all.1, if_neg fragment]
            rfl
  | h265 =>
    unfold checkedForm payloadForm h265Form
    dsimp only
    generalize cells : payload.cells = bytes at length
    match bytes, length with
    | [], length =>
      rw [if_pos (by simp at length; omega)]
      rfl
    | [first], length =>
      rw [if_pos (by simp at length; omega)]
      rfl
    | first :: second :: rest, length =>
      rw [List.length_cons, List.length_cons] at length
      have read : payload.byte 0 = .ok first ∧ payload.byte 1 = .ok second := by
        rw [byte_inside inside (by omega), byte_inside inside (by omega), cells]
        exact ⟨rfl, rfl⟩
      rw [if_neg (by omega), read.1, read.2]
      change (if nalType .h265 first ≤ 47 then _ else _) = _
      dsimp only
      by_cases whole : nalType .h265 first ≤ 47
      · rw [if_pos whole, if_pos whole, copied_rest inside (Nat.zero_le _), cells]
        rfl
      · rw [if_neg whole, if_neg whole]
        by_cases aggregate : nalType .h265 first = 48
        · rw [if_pos aggregate, if_pos aggregate, checkedAggregate_eq inside, cells]
          rfl
        · rw [if_neg aggregate, if_neg aggregate]
          by_cases fragment : nalType .h265 first = 49
          · rw [if_pos fragment]
            match rest, length with
            | [], length =>
              rw [if_neg (by simp at length; omega)]
              rfl
            | fuHeader :: data, length =>
              rw [List.length_cons] at length
              rw [if_pos ⟨fragment, by omega⟩, byte_inside inside (by omega),
                copied_rest inside (by omega), cells]
              rfl
          · rw [if_neg fun all => fragment all.1, if_neg fragment]
            rfl

/-! ### Payloads of motion JPEG -/

/-- The scan data, whose first two bytes are compared with those of a file. -/
def checkedScan (payload : Payload) (offset : Nat) : Checked (List UInt8) := do
  if payload.size - offset ≥ 2 then
    let _ ← payload.u16 offset
  payload.copied offset payload.size

def checkedInterval (payload : Payload) (restarts : Bool) : Checked Nat :=
  if restarts then payload.u16 8 else return 0

def checkedJpeg (payload : Payload) : Checked JpegParse := do
  if payload.size < 8 then return .ignored
  else
    let high ← payload.byte 1
    let low ← payload.u16 2
    let type ← payload.byte 4
    let q ← payload.byte 5
    let across ← payload.byte 6
    let down ← payload.byte 7
    let fragmentOffset := high.toNat * 65536 + low
    let width := if across = 0 then 2048 else across.toNat * 8
    let height := if down = 0 then 2048 else down.toNat * 8
    let restarts : Bool := type &&& 0x40 ≠ 0
    if restarts && payload.size < 12 then return .ignored
    else
      let offset := if restarts then 12 else 8
      let restartInterval ← checkedInterval payload restarts
      let type := if restarts then type &&& ~~~0x40 else type
      let found (luma chroma : List UInt8) (offset : Nat) : Checked JpegParse := do
        if offset ≥ payload.size then return .ignored
        else
          let scan ← checkedScan payload offset
          return .payload {
            fragmentOffset, type, width, height, restartInterval, luma, chroma, scan }
      if q ≥ 128 ∧ fragmentOffset = 0 then
        if payload.size < offset + 4 then return .ignored
        else
          let precision ← payload.byte (offset + 1)
          let tableLength ← payload.u16 (offset + 2)
          if precision ≠ 0 ∨ tableLength < 128 ∨ payload.size < offset + 4 + tableLength then
            return .incomplete
          else
            let luma ← payload.copied (offset + 4) (offset + 4 + 64)
            let chroma ← payload.copied (offset + 4 + 64) (offset + 4 + 64 + 64)
            found luma chroma (offset + 4 + tableLength)
      else found (RtpJpeg.makeJpegQuantTables q).1 (RtpJpeg.makeJpegQuantTables q).2 offset

theorem checkedScan_eq {payload : Payload} (inside : payload.Inside) (own : offset < payload.size) :
    checkedScan payload offset = .ok (payload.cells.drop offset) := by
  unfold checkedScan
  by_cases more : payload.size - offset ≥ 2
  · rw [if_pos more, u16_inside inside (by omega), copied_rest inside (Nat.le_of_lt own)]
    rfl
  · rw [if_neg more, copied_rest inside (Nat.le_of_lt own)]

theorem checkedInterval_eq {payload : Payload} (inside : payload.Inside) {restarts : Bool}
    (long : restarts = true → 12 ≤ payload.size) :
    checkedInterval payload restarts = .ok (if restarts then fieldU16 payload.cells 8 else 0) := by
  unfold checkedInterval
  cases restarts with
  | false => rfl
  | true =>
    have size := long rfl
    exact u16_inside inside (by omega)

theorem checkedJpeg_eq {payload : Payload} (inside : payload.Inside) :
    checkedJpeg payload = .ok (parseJpegPayload payload.cells) := by
  have length := Window.length_cells inside
  unfold checkedJpeg parseJpegPayload
  rw [length]
  by_cases short : payload.size < 8
  · rw [if_pos short, if_pos short]
    rfl
  · rw [if_neg short, if_neg short, byte_inside inside (by omega), u16_inside inside (by omega),
      byte_inside inside (by omega), byte_inside inside (by omega), byte_inside inside (by omega),
      byte_inside inside (by omega)]
    simp only [bind, Except.bind, pure, Except.pure]
    by_cases cut : (decide (byteAt payload.cells 4 &&& 0x40 ≠ 0) && decide (payload.size < 12)) = true
    · rw [if_pos cut, if_pos cut]
    · rw [if_neg cut, if_neg cut]
      have long : decide (byteAt payload.cells 4 &&& 0x40 ≠ 0) = true → 12 ≤ payload.size := by
        intro restarts
        rw [restarts, Bool.true_and, decide_eq_true_eq] at cut
        exact Nat.not_lt.1 cut
      rw [checkedInterval_eq inside long]
      dsimp only
      generalize (if decide (byteAt payload.cells 4 &&& 0x40 ≠ 0) = true then 12 else 8) = offset
      by_cases tables : byteAt payload.cells 5 ≥ 128 ∧
          (byteAt payload.cells 1).toNat * 65536 + fieldU16 payload.cells 2 = 0
      · rw [if_pos tables, if_pos tables]
        by_cases more : payload.size < offset + 4
        · rw [if_pos more, if_pos more]
        · rw [if_neg more, if_neg more, byte_inside inside (by omega),
            u16_inside inside (by omega)]
          dsimp only
          by_cases bad : byteAt payload.cells (offset + 1) ≠ 0 ∨
              fieldU16 payload.cells (offset + 2) < 128 ∨
              payload.size < offset + 4 + fieldU16 payload.cells (offset + 2)
          · rw [if_pos bad, if_pos bad]
          · rw [if_neg bad, if_neg bad, copied_part inside (by omega),
              copied_part inside (by omega), List.drop_drop]
            dsimp only
            split
            · rfl
            · rw [checkedScan_eq inside (by omega)]
      · rw [if_neg tables, if_neg tables]
        split
        · rfl
        · rw [checkedScan_eq inside (by omega)]

/-! ### Datagrams -/

section Datagrams
variable {σ : Type} (ops : AssemblyOps σ)

/-- `handle_rtp_packet` around an append that reads the datagram. -/
def checkedHandle (append : ReceivedPacket → Depacketizer σ → Checked (Bool × Depacketizer σ))
    (packet : List UInt8) (decoder : Depacketizer σ) : Checked (Bool × Depacketizer σ) := do
  match ← checkedPacket packet with
  | none => return (true, decoder)
  | some received =>
    let counted := { decoder with assembly := ops.count .packet decoder.assembly }
    match checkSequence ops received.rtpPacket counted with
    | none => return (true, { counted with assembly := ops.count .late counted.assembly })
    | some checked => append received checked

/-- The units of an aggregate are all read, also those behind one that is refused. -/
def checkedNalPayload (codec : NalCodec) (received : ReceivedPacket) (decoder : Depacketizer σ) :
    Checked (Bool × Depacketizer σ) := do
  let form ← checkedForm codec received.payload
  return appendForm ops form received.marker received.timestamp decoder

theorem checkedNalPayload_eq (inside : received.payload.Inside) (codec : NalCodec)
    (decoder : Depacketizer σ) :
    checkedNalPayload ops codec received decoder =
      .ok (appendNalPayload ops codec received.rtpPacket decoder) := by
  unfold checkedNalPayload
  rw [checkedForm_eq inside]
  rfl

/-- An append that reads only its payload makes a handler that reads only the datagram. -/
theorem checkedHandle_eq
    {append : ReceivedPacket → Depacketizer σ → Checked (Bool × Depacketizer σ)}
    {plain : RtpPacket → Depacketizer σ → Bool × Depacketizer σ}
    (reads : ∀ received decoder, received.payload.Inside →
      append received decoder = .ok (plain received.rtpPacket decoder))
    (packet : List UInt8) (decoder : Depacketizer σ) :
    checkedHandle ops append packet decoder =
      .ok (RtpDepacketizer.handleRtpPacket ops plain packet decoder) := by
  unfold checkedHandle RtpDepacketizer.handleRtpPacket
  rw [checkedPacket_eq, ← receivedPacket_parsed]
  cases found : receivedPacket packet with
  | none => rfl
  | some received =>
    have inside := (receivedPacket_inside found).1
    simp only [bind, Except.bind, Option.map_some, handlePacket]
    cases checkSequence ops received.rtpPacket
        { decoder with assembly := ops.count .packet decoder.assembly } with
    | none => rfl
    | some checked => exact reads received checked inside

end Datagrams

def checkedImx (setup : ImxVpuRtpDecoder.Setup) (packet : List UInt8)
    (decoder : Depacketizer ImxVpuRtpDecoder.Assembly) :
    Checked (Bool × Depacketizer ImxVpuRtpDecoder.Assembly) :=
  checkedHandle (ImxVpuRtpDecoder.ops setup)
    (checkedNalPayload (ImxVpuRtpDecoder.ops setup) setup.codec) packet decoder

theorem checkedImx_eq (setup : ImxVpuRtpDecoder.Setup) (packet : List UInt8)
    (decoder : Depacketizer ImxVpuRtpDecoder.Assembly) :
    checkedImx setup packet decoder = .ok (ImxVpuRtpDecoder.handleRtpPacket setup packet decoder) :=
  checkedHandle_eq _ (fun _ decoder inside => checkedNalPayload_eq _ inside _ decoder) _ _

def appendJpeg (parse : JpegParse) (marker : Bool) (timestamp : UInt32) (assembly : Assembly) :
    Bool × Assembly :=
  match parse with
  | .ignored => (true, assembly)
  | .incomplete => (true, count .incomplete assembly)
  | .payload parsed =>
    let finish (assembly : Assembly) : Bool × Assembly :=
      if marker then (true, queueMjpegAccessUnit parsed.width parsed.height timestamp assembly)
      else (true, assembly)
    if parsed.fragmentOffset = 0 then finish (startMjpegFrame parsed timestamp assembly)
    else if !assembly.haveAccessUnit || assembly.accessUnitTimestamp ≠ timestamp then
      (true, count .incomplete assembly)
    else finish { assembly with accessUnit := assembly.accessUnit ++ parsed.scan }

def checkedAppend (setup : Setup) (received : ReceivedPacket) (decoder : Depacketizer Assembly) :
    Checked (Bool × Depacketizer Assembly) :=
  match setup.codec with
  | .mjpeg => do
    let parse ← checkedJpeg received.payload
    return decoder.onAssembly (appendJpeg parse received.marker received.timestamp)
  | .nal codec => checkedNalPayload (ops setup) codec received decoder

def checkedRockchip (setup : Setup) (packet : List UInt8) (decoder : Depacketizer Assembly) :
    Checked (Bool × Depacketizer Assembly) :=
  checkedHandle (ops setup) (checkedAppend setup) packet decoder

theorem checkedAppend_eq (setup : Setup) (decoder : Depacketizer Assembly)
    (inside : received.payload.Inside) :
    checkedAppend setup received decoder = .ok (appendPayload setup received.rtpPacket decoder) := by
  unfold checkedAppend appendPayload
  cases setup.codec with
  | mjpeg =>
    dsimp only
    rw [checkedJpeg_eq inside]
    rfl
  | nal codec => exact checkedNalPayload_eq _ inside codec decoder

theorem checkedRockchip_eq (setup : Setup) (packet : List UInt8) (decoder : Depacketizer Assembly) :
    checkedRockchip setup packet decoder = .ok (handleRtpPacket setup packet decoder) :=
  checkedHandle_eq _ (fun _ decoder inside => checkedAppend_eq setup decoder inside) _ _

end Glide.CheckedParsing
