import Glide.RtpDepacketizer
import Glide.SliceHeaders

/-! Packets in the Cedar decoder, which appends them to the access unit at hand, puts
a delimiter in front of it and its own copies of the parameter sets in front of an
IDR slice, and leaves out pictures that it could not decode. -/
namespace Glide.CedarRtpDecoder
open RtpPackets NalPayloads RtpDepacketizer SliceHeaders

/-- What `access_unit_` is put together from. A packet is known by how many have been
received with it. -/
inductive Part where
  | delimiter
  | parameterSet (bytes : List UInt8)
  | nal (packet : Nat) (bytes : List UInt8)
  | continuation (packet : Nat) (data : List UInt8)
  deriving DecidableEq, Repr

def Part.bytes : Part → List UInt8
  | .delimiter => startCode ++ [0x09, 0x10]
  | .parameterSet bytes => startCode ++ bytes
  | .nal _ bytes => startCode ++ bytes
  | .continuation _ data => data

/-- The bytes of `access_unit_`. -/
def unitBytes (unit : List Part) : List UInt8 := unit.flatMap Part.bytes

/-- What happens to the packets of the stream. -/
inductive Event where
  | accepted (packet : Nat) (sequence : UInt16)
  | reset
  | skipped
  | submitted (unit : List Part) (pts : UInt32)
  deriving DecidableEq, Repr

/-- How `RequestVideoStreamBuffer` answers. -/
inductive BufferReply where
  | granted
  | short
  | refused
  deriving DecidableEq, Repr

/-- The answers of the hardware, by the number of the request for a buffer: the buffer,
whether the data in it is taken, and whether decoding then goes well. `behindDatagram` is
what the receive buffer holds behind a datagram, by how many packets came before it. -/
structure Setup where
  requestBuffer : Nat → BufferReply
  submitData : Nat → Bool
  decodeStream : Nat → Bool
  behindDatagram : Nat → UInt8

structure Assembly where
  accessUnit : List Part := []
  currentTimestamp : UInt32 := 0
  haveTimestamp : Bool := false
  fuStarted : Bool := false
  fuTimestamp : UInt32 := 0
  accessUnitHasVcl : Bool := false
  droppingTimestamp : Bool := false
  requireIdr : Bool := true
  dropTimestamp : UInt32 := 0
  sps : List UInt8 := []
  pps : List UInt8 := []
  packets : Nat := 0
  droppedIncompleteFragments : Nat := 0
  droppedWaitingForIdr : Nat := 0
  accessUnits : Nat := 0
  droppedAccessUnits : Nat := 0
  requests : Nat := 0
  /-- The newest event first. -/
  log : List Event := []
  deriving DecidableEq, Repr

structure Decoder where
  expectedSequence : UInt16 := 0
  haveSequence : Bool := false
  rtpSequenceGaps : Nat := 0
  lateOrDuplicatePackets : Nat := 0
  assembly : Assembly := {}
  deriving DecidableEq, Repr

/-! ### Access units -/

def resetAccessUnit (assembly : Assembly) : Assembly :=
  { assembly with
    accessUnit := []
    haveTimestamp := false
    fuStarted := false
    accessUnitHasVcl := false
    droppedAccessUnits := assembly.droppedAccessUnits + 1
    log := .reset :: assembly.log }

/-- The data that a call refuses stays where it is; no call follows. -/
def submitAccessUnit (setup : Setup) (assembly : Assembly) : Bool × Assembly :=
  if assembly.accessUnit = [] then (true, assembly)
  else
    let number := assembly.requests
    let assembly := { assembly with requests := number + 1 }
    match setup.requestBuffer number with
    | .refused => (true, resetAccessUnit assembly)
    | .short => (true, resetAccessUnit assembly)
    | .granted =>
      let assembly := { assembly with
        log := .submitted assembly.accessUnit assembly.currentTimestamp :: assembly.log }
      if setup.submitData number then
        (setup.decodeStream number, { assembly with
          accessUnit := []
          haveTimestamp := false
          accessUnitHasVcl := false
          accessUnits := assembly.accessUnits + 1 })
      else (false, assembly)

/-- `append_aud_if_needed`. -/
def delimited (unit : List Part) : List Part := if unit = [] then [.delimiter] else unit

def cacheParameterSet (nal : List UInt8) (assembly : Assembly) : Assembly :=
  if nal = [] then assembly
  else if nalType .h264 (byteAt nal 0) = 7 then { assembly with sps := nal }
  else if nalType .h264 (byteAt nal 0) = 8 then { assembly with pps := nal }
  else assembly

def withParameterSet (nal : List UInt8) (unit : List Part) : List Part :=
  if nal = [] then unit else delimited unit ++ [.parameterSet nal]

def appendCachedParameterSets (assembly : Assembly) : Assembly :=
  { assembly with accessUnit :=
      withParameterSet assembly.pps (withParameterSet assembly.sps assembly.accessUnit) }

/-! ### NAL units -/

def nalIsVcl (kind : UInt8) : Bool := 1 ≤ kind && kind ≤ 5

/-- The rest of the picture is not to be decoded. -/
def dropPicture (timestamp : UInt32) (assembly : Assembly) : Assembly :=
  { resetAccessUnit assembly with droppingTimestamp := true, dropTimestamp := timestamp }

/-- The checks in front of a NAL unit of this type. Its slice is turned away when an IDR
slice is awaited or the picture does not begin with it. -/
def admitNal (kind : UInt8) (nal : List UInt8) (timestamp : UInt32) (assembly : Assembly) :
    Bool × Assembly :=
  if !nalIsVcl kind then (true, assembly)
  else if assembly.requireIdr && kind ≠ 5 then
    (false, { dropPicture timestamp assembly with
      droppedWaitingForIdr := assembly.droppedWaitingForIdr + 1 })
  else if !assembly.accessUnitHasVcl && !firstSliceStartsFrame nal then
    (false, { dropPicture timestamp assembly with
      droppedIncompleteFragments := assembly.droppedIncompleteFragments + 1 })
  else
    let assembly :=
      if kind = 5 then { appendCachedParameterSets assembly with requireIdr := false }
      else assembly
    (true, { assembly with accessUnitHasVcl := true })

def appendNal (nal : List UInt8) (assembly : Assembly) : Assembly :=
  { assembly with accessUnit := delimited assembly.accessUnit ++ [.nal assembly.packets nal] }

/-- A NAL unit that no fragments make up. -/
def appendWholeNal (kind : UInt8) (nal : List UInt8) (timestamp : UInt32) (assembly : Assembly) :
    Bool × Assembly :=
  andThen (admitNal kind nal timestamp (cacheParameterSet nal assembly)) fun assembly =>
    (true, appendNal nal assembly)

/-! ### Payloads -/

private theorem drop_shorter (high low : UInt8) (rest : List UInt8) (size : Nat) :
    (rest.drop size).length < (high :: low :: rest).length := by
  rw [List.length_drop, List.length_cons, List.length_cons]
  omega

/-- The NAL units of an aggregate, each with the byte its type is read from: the one
that follows its size, which is its own unless it is empty. Nothing of the payload follows
the size of an empty last unit. -/
def stapNals (behind : UInt8) (payload : List UInt8) : List (UInt8 × List UInt8) :=
  match payload with
  | high :: low :: rest =>
    let size := high.toNat * 256 + low.toNat
    if size > rest.length then []
    else (rest.headD behind, rest.take size) :: stapNals behind (rest.drop size)
  | _ => []
termination_by payload.length
decreasing_by exact drop_shorter ..

def appendStapNals (timestamp : UInt32) : List (UInt8 × List UInt8) → Assembly → Bool × Assembly
  | [], assembly => (true, assembly)
  | (first, nal) :: rest, assembly =>
    andThen (appendWholeNal (nalType .h264 first) nal timestamp assembly)
      (appendStapNals timestamp rest)

def continueFragment (finish : Bool) (data : List UInt8) (assembly : Assembly) : Assembly :=
  { assembly with
    accessUnit := assembly.accessUnit ++ [.continuation assembly.packets data]
    fuStarted := if finish then false else assembly.fuStarted }

/-- The first fragment of a NAL unit passes the checks of its NAL unit; a later one has to
find the NAL unit it continues. -/
def appendFragment (start finish : Bool) (reconstructed : UInt8) (data : List UInt8)
    (timestamp : UInt32) (assembly : Assembly) : Bool × Assembly :=
  if start then
    andThen (admitNal (nalType .h264 reconstructed) (reconstructed :: data) timestamp assembly)
      fun assembly =>
        (true, continueFragment finish data
          { appendNal [reconstructed] assembly with fuStarted := true, fuTimestamp := timestamp })
  else if !assembly.fuStarted || assembly.fuTimestamp ≠ timestamp then
    (false, { assembly with
      droppedIncompleteFragments := assembly.droppedIncompleteFragments + 1
      log := .skipped :: assembly.log })
  else (true, continueFragment finish data assembly)

/-- The three forms of a payload. The result is whether the marker is looked at. -/
def appendForm (behind : UInt8) (payload : List UInt8) (timestamp : UInt32)
    (assembly : Assembly) : Bool × Assembly :=
  match payload with
  | [] => (true, assembly)
  | first :: rest =>
    let kind := nalType .h264 first
    if 1 ≤ kind ∧ kind ≤ 23 then
      appendWholeNal kind payload timestamp { assembly with fuStarted := false }
    else if kind = 24 then
      appendStapNals timestamp (stapNals behind rest) { assembly with fuStarted := false }
    else if kind = 28 then
      match rest with
      | [] => (true, assembly)
      | fuHeader :: data =>
        appendFragment (fuHeader &&& 0x80 ≠ 0) (fuHeader &&& 0x40 ≠ 0)
          ((first &&& 0xE0) ||| (fuHeader &&& 0x1F)) data timestamp assembly
    else (true, assembly)

/-! ### Packets -/

/-- Another timestamp ends the access unit, which is given up if a fragment is missing. -/
def turnTo (setup : Setup) (timestamp : UInt32) (assembly : Assembly) : Bool × Assembly :=
  if assembly.haveTimestamp ∧ timestamp ≠ assembly.currentTimestamp ∧ assembly.accessUnit ≠ [] then
    if assembly.fuStarted then (true, resetAccessUnit assembly)
    else submitAccessUnit setup assembly
  else (true, assembly)

/-- From here on the packet belongs to the access unit. -/
def accept (packet : RtpPacket) (assembly : Assembly) : Assembly :=
  { assembly with
    currentTimestamp := packet.timestamp
    haveTimestamp := true
    log := .accepted assembly.packets packet.sequence :: assembly.log }

def submitIfMarked (setup : Setup) (marker : Bool) (assembly : Assembly) : Bool × Assembly :=
  if marker ∧ assembly.accessUnit ≠ [] ∧ assembly.fuStarted = false then
    submitAccessUnit setup assembly
  else (true, assembly)

/-- What becomes of a packet once its number was checked. -/
def appendPacket (setup : Setup) (behind : UInt8) (packet : RtpPacket) (assembly : Assembly) :
    Bool × Assembly :=
  andThen (turnTo setup packet.timestamp assembly) fun assembly =>
    let (goesOn, assembly) :=
      appendForm behind packet.payload packet.timestamp (accept packet assembly)
    if goesOn then submitIfMarked setup packet.marker assembly else (true, assembly)

/-- The distance from the expected number, once there is one. -/
def sequenceDelta (decoder : Decoder) (sequence : UInt16) : Int16 :=
  if decoder.haveSequence then (sequence - decoder.expectedSequence).toInt16 else 0

/-- A gap discards the access unit and makes an IDR slice necessary. -/
def checkSequence (sequence : UInt16) (decoder : Decoder) : Decoder :=
  let decoder :=
    if sequenceDelta decoder sequence > 0 then { decoder with
      rtpSequenceGaps := decoder.rtpSequenceGaps + 1
      assembly := { resetAccessUnit decoder.assembly with requireIdr := true } }
    else decoder
  { decoder with expectedSequence := sequence + 1, haveSequence := true }

/-- Packets of a picture that is dropped return before their number is looked at. -/
def appendH264Payload (setup : Setup) (behind : UInt8) (packet : RtpPacket) (decoder : Decoder) :
    Bool × Decoder :=
  if packet.payload = [] then (true, decoder)
  else if decoder.assembly.droppingTimestamp ∧
      packet.timestamp = decoder.assembly.dropTimestamp then
    (true, { decoder with
      assembly := { decoder.assembly with log := .skipped :: decoder.assembly.log } })
  else
    let decoder := { decoder with
      assembly := { decoder.assembly with droppingTimestamp := false } }
    if sequenceDelta decoder packet.sequence < 0 then
      (true, { decoder with lateOrDuplicatePackets := decoder.lateOrDuplicatePackets + 1 })
    else
      let decoder := checkSequence packet.sequence decoder
      ((appendPacket setup behind packet decoder.assembly).1,
        { decoder with assembly := (appendPacket setup behind packet decoder.assembly).2 })

def countPacket (decoder : Decoder) : Decoder :=
  { decoder with assembly := { decoder.assembly with packets := decoder.assembly.packets + 1 } }

/-- What `payload[size]` reads: padding that was taken off the payload, or whatever the
receive buffer holds behind the datagram. -/
def byteBehind (setup : Setup) (packet : List UInt8) (decoder : Decoder) : UInt8 :=
  let inside := (payloadOffset packet).bind fun offset =>
    packet[offset + payloadSize packet offset]?
  inside.getD (setup.behindDatagram decoder.assembly.packets)

def handleRtpPacket (setup : Setup) (packet : List UInt8) (decoder : Decoder) : Bool × Decoder :=
  match parseRtpPacket packet with
  | none => (true, decoder)
  | some parsed =>
    appendH264Payload setup (byteBehind setup packet decoder) parsed (countPacket decoder)

end Glide.CedarRtpDecoder
