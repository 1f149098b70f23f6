import Glide.NalAssembler
import Glide.RtpJpeg

/-! The feed thread of the Rockchip decoder. Slices wait for the marker of their
picture, every other NAL unit is submitted on its own, and a recovery seed may be
submitted ahead of the stream. -/
namespace Glide.RockchipMppRtpDecoder
open RtpPackets NalPayloads RtpDepacketizer NalAssembler RtpJpeg

inductive VideoCodec where
  | nal (codec : NalCodec)
  | mjpeg
  deriving DecidableEq, Repr

/-- How `decode_put_packet` ends. A stall is a refusal for 100 ms. -/
inductive PutOutcome where
  | accepted
  | stalled
  | stopped
  deriving DecidableEq, Repr

/-- How the decoder was started and what surrounds it. -/
structure Setup where
  codec : VideoCodec
  forceX20Header : Bool
  environment : String → Option String
  files : String → Option (List UInt8)
  putPacket : Nat → PutOutcome

/-- A packet that was offered to the hardware. -/
structure Submitted where
  seed : Bool
  data : List UInt8
  pts : UInt32
  accepted : Bool
  deriving DecidableEq, Repr

structure MjpegAccessUnit where
  data : List UInt8
  pts : UInt32
  width : Nat
  height : Nat
  deriving DecidableEq, Repr

structure Assembly where
  accessUnit : List UInt8 := []
  haveAccessUnit : Bool := false
  accessUnitTimestamp : UInt32 := 0
  x20SpsSeen : Bool := false
  x20PpsSeen : Bool := false
  x21MppSpsSeen : Bool := false
  x20CheckedNonX20 : Bool := false
  x20HeaderInjected : Bool := false
  x20HeaderMissing : Bool := false
  mjpegWidth : Nat := 0
  mjpegHeight : Nat := 0
  mjpegUnits : List MjpegAccessUnit := []
  submitted : List Submitted := []
  parsedUnits : Nat := 0
  submittedPackets : Nat := 0
  submitStalls : Nat := 0
  rtpPackets : Nat := 0
  rtpSequenceGaps : Nat := 0
  rtpSequenceResyncs : Nat := 0
  lateOrDuplicatePackets : Nat := 0
  incompleteFragments : Nat := 0
  x20HeaderInjections : Nat := 0
  droppedDecodedFrames : Nat := 0
  deriving DecidableEq, Repr

def count (counted : Counted) (assembly : Assembly) : Assembly :=
  match counted with
  | .packet => { assembly with rtpPackets := assembly.rtpPackets + 1 }
  | .gap => { assembly with rtpSequenceGaps := assembly.rtpSequenceGaps + 1 }
  | .resync => { assembly with rtpSequenceResyncs := assembly.rtpSequenceResyncs + 1 }
  | .late => { assembly with lateOrDuplicatePackets := assembly.lateOrDuplicatePackets + 1 }
  | .incomplete => { assembly with incompleteFragments := assembly.incompleteFragments + 1 }

def discard (assembly : Assembly) : Assembly :=
  { assembly with accessUnit := [], haveAccessUnit := false }

def submitPacket (setup : Setup) (seed : Bool) (data : List UInt8) (pts : UInt32)
    (assembly : Assembly) : Bool × Assembly :=
  if data = [] ∨ setup.codec = .mjpeg then (false, assembly)
  else
    match setup.putPacket assembly.submitted.length with
    | .accepted => (true, { assembly with
        submitted := assembly.submitted ++ [⟨seed, data, pts, true⟩]
        parsedUnits := assembly.parsedUnits + 1
        submittedPackets := assembly.submittedPackets + 1 })
    | .stalled => (false, { assembly with
        submitted := assembly.submitted ++ [⟨seed, data, pts, false⟩]
        submitStalls := assembly.submitStalls + 1 })
    | .stopped => (false, { assembly with
        submitted := assembly.submitted ++ [⟨seed, data, pts, false⟩] })

/-! ### The recovery seed -/

def x20Sps : List UInt8 := [0x67, 0x4d, 0x00, 0x29, 0x96, 0x54, 0x02, 0x80, 0x2d, 0x88]

def x20Pps : List UInt8 := [0x68, 0xee, 0x31, 0x12]

/-- An SPS of profile High at level 4.2. -/
def isX21Rv1126MppSps (data : List UInt8) : Bool :=
  data.length ≥ 4 && byteAt data 0 &&& 0x1F == 7 && byteAt data 1 == 0x64 && byteAt data 3 == 0x2a

def wantsX20Header (assembly : Assembly) : Bool :=
  (assembly.x20SpsSeen && assembly.x20PpsSeen && !assembly.x20HeaderInjected) ||
    (assembly.x21MppSpsSeen && !assembly.x20HeaderInjected)

/-- The state half of `update_x20_detection`; its result is `wantsX20Header` afterwards. -/
def updateX20Detection (data : List UInt8) (assembly : Assembly) : Assembly :=
  if assembly.x20HeaderInjected || assembly.x20CheckedNonX20 || data.isEmpty then assembly
  else if byteAt data 0 &&& 0x1F = 7 then
    if data = x20Sps then { assembly with x20SpsSeen := true }
    else if isX21Rv1126MppSps data then { assembly with x21MppSpsSeen := true }
    else { assembly with x20CheckedNonX20 := true }
  else if byteAt data 0 &&& 0x1F = 8 then
    if data = x20Pps then { assembly with x20PpsSeen := true }
    else { assembly with x20CheckedNonX20 := true }
  else assembly

/-- The places of the seed file. A path from the environment comes first. -/
def headerPaths (setup : Setup) (x21 : Bool) : List String :=
  let override (name : String) : List String :=
    match setup.environment name with
    | none => []
    | some path => if path.isEmpty then [] else [path]
  if x21 then
    override "OPENHD_GLIDE_X21_HEADER" ++
      ["/usr/share/openhd-glide/x21_header.h264", "/usr/local/share/openhd-glide/x21_header.h264",
        "/usr/local/bin/x21_header.h264"]
  else
    override "OPENHD_GLIDE_X20_HEADER" ++
      ["/usr/share/openhd-glide/x20_header.h264", "/usr/local/share/openhd-glide/x20_header.h264",
        "/usr/local/bin/x20_header.h264"]

/-- The first file that can be read and is not empty is submitted. -/
def injectFirstHeader (setup : Setup) : List String → Assembly → Bool × Assembly
  | [], assembly => (true, { assembly with x20HeaderMissing := true })
  | path :: rest, assembly =>
    match setup.files path with
    | none => injectFirstHeader setup rest assembly
    | some header =>
      if header = [] then injectFirstHeader setup rest assembly
      else
        let (submitted, assembly) := submitPacket setup true header 0 assembly
        if submitted then
          (true, { assembly with
            x20HeaderInjected := true
            x20HeaderInjections := assembly.x20HeaderInjections + 1 })
        else (false, assembly)

def injectX20HeaderIfNeeded (setup : Setup) (assembly : Assembly) : Bool × Assembly :=
  if assembly.x20HeaderInjected || assembly.x20HeaderMissing then (true, assembly)
  else injectFirstHeader setup (headerPaths setup assembly.x21MppSpsSeen) assembly

/-- With the force option the seed precedes the first H.264 NAL unit. -/
def injectForcedHeader (setup : Setup) (assembly : Assembly) : Bool × Assembly :=
  if setup.forceX20Header && setup.codec = .nal .h264 && assembly.submittedPackets = 0 &&
      !assembly.x20SpsSeen && !assembly.x20PpsSeen && !assembly.x20HeaderInjected then
    injectX20HeaderIfNeeded setup assembly
  else (true, assembly)

/-- Parameter sets that call for the seed are preceded by it. -/
def injectDetectedHeader (setup : Setup) (nal : List UInt8) (assembly : Assembly) :
    Bool × Assembly :=
  if setup.codec = .nal .h265 then (true, assembly)
  else
    let updated := updateX20Detection nal assembly
    if wantsX20Header updated then injectX20HeaderIfNeeded setup updated else (true, updated)

/-! ### NAL units and access units -/

/-- A start code is put before the data unless it has one. -/
def nalData (nal : List UInt8) : List UInt8 :=
  if startCode.isPrefixOf nal then nal else startCode ++ nal

def submitNal (setup : Setup) (nal : List UInt8) (pts : UInt32) (assembly : Assembly) :
    Bool × Assembly :=
  if nal = [] then (true, assembly)
  else andThen (injectDetectedHeader setup nal assembly) (submitPacket setup false (nalData nal) pts)

/-- The codec `queue_nal` reads a NAL unit's type by. -/
def VideoCodec.nalCodec : VideoCodec → NalCodec
  | .nal codec => codec
  | .mjpeg => .h264

/-- A slice joins its picture. One of another timestamp means that the marker of
the picture before was lost, and that one is discarded. -/
def queueSlice (nal : List UInt8) (timestamp : UInt32) (assembly : Assembly) : Assembly :=
  let assembly :=
    if assembly.haveAccessUnit ∧ assembly.accessUnitTimestamp ≠ timestamp then
      count .incomplete (discard assembly)
    else assembly
  let assembly :=
    if assembly.haveAccessUnit then assembly
    else { assembly with accessUnitTimestamp := timestamp, haveAccessUnit := true }
  { assembly with accessUnit := assembly.accessUnit ++ (startCode ++ nal) }

def queueNal (setup : Setup) (nal : List UInt8) (timestamp : UInt32) (assembly : Assembly) :
    Bool × Assembly :=
  if nal = [] then (true, assembly)
  else
    andThen (injectForcedHeader setup assembly) fun assembly =>
      if isVcl setup.codec.nalCodec nal then (true, queueSlice nal timestamp assembly)
      else submitNal setup nal timestamp assembly

def flushAccessUnit (setup : Setup) (assembly : Assembly) : Bool × Assembly :=
  if !assembly.haveAccessUnit || assembly.accessUnit.isEmpty then (true, discard assembly)
  else
    let (submitted, assembly) :=
      submitPacket setup false assembly.accessUnit assembly.accessUnitTimestamp assembly
    (submitted, discard assembly)

def ops (setup : Setup) : AssemblyOps Assembly where
  count := count
  discard := discard
  queueNal := queueNal setup
  flush := flushAccessUnit setup
  flushesCutAggregate := true

/-! ### Motion JPEG -/

/-- The fields of a payload in front of its scan data. -/
structure JpegPayload where
  fragmentOffset : Nat
  type : UInt8
  width : Nat
  height : Nat
  restartInterval : Nat
  luma : List UInt8
  chroma : List UInt8
  scan : List UInt8
  deriving DecidableEq, Repr

inductive JpegParse where
  | ignored
  | incomplete
  | payload (payload : JpegPayload)
  deriving DecidableEq, Repr

def parseJpegPayload (payload : List UInt8) : JpegParse :=
  if payload.length < 8 then .ignored
  else
    let fragmentOffset := (byteAt payload 1).toNat * 65536 + fieldU16 payload 2
    let type := byteAt payload 4
    let q := byteAt payload 5
    let width := if byteAt payload 6 = 0 then 2048 else (byteAt payload 6).toNat * 8
    let height := if byteAt payload 7 = 0 then 2048 else (byteAt payload 7).toNat * 8
    let restarts : Bool := type &&& 0x40 ≠ 0
    if restarts && payload.length < 12 then .ignored
    else
      let offset := if restarts then 12 else 8
      let restartInterval := if restarts then fieldU16 payload 8 else 0
      let type := if restarts then type &&& ~~~0x40 else type
      let found (luma chroma : List UInt8) (offset : Nat) : JpegParse :=
        if offset ≥ payload.length then .ignored
        else .payload {
          fragmentOffset, type, width, height, restartInterval, luma, chroma
          scan := payload.drop offset }
      if q ≥ 128 ∧ fragmentOffset = 0 then
        if payload.length < offset + 4 then .ignored
        else
          let precision := byteAt payload (offset + 1)
          let tableLength := fieldU16 payload (offset + 2)
          let tables := payload.drop (offset + 4)
          if precision ≠ 0 ∨ tableLength < 128 ∨ payload.length < offset + 4 + tableLength then
            .incomplete
          else found (tables.take 64) ((tables.drop 64).take 64) (offset + 4 + tableLength)
      else found (makeJpegQuantTables q).1 (makeJpegQuantTables q).2 offset

/-- At most three units wait; the oldest ones make room. -/
def queueMjpegAccessUnit (width height : Nat) (pts : UInt32) (assembly : Assembly) : Assembly :=
  let data := assembly.accessUnit
  let ended := data.length ≥ 2 ∧ data.drop (data.length - 2) = jpegMarker 0xd9
  let data := if ended then data else data ++ jpegMarker 0xd9
  let dropped := assembly.mjpegUnits.length - 2
  { assembly with
    mjpegUnits := assembly.mjpegUnits.drop dropped ++ [{ data, pts, width, height }]
    droppedDecodedFrames := assembly.droppedDecodedFrames + dropped
    accessUnit := []
    haveAccessUnit := false }

/-- The first fragment of a frame, which may bring a whole JPEG file. -/
def startMjpegFrame (payload : JpegPayload) (timestamp : UInt32) (assembly : Assembly) : Assembly :=
  let assembly :=
    if assembly.haveAccessUnit ∧ assembly.accessUnit ≠ [] ∧
        assembly.accessUnitTimestamp ≠ timestamp then
      queueMjpegAccessUnit assembly.mjpegWidth assembly.mjpegHeight assembly.accessUnitTimestamp
        assembly
    else assembly
  let header :=
    if payload.scan.length ≥ 2 ∧ payload.scan.take 2 = jpegMarker 0xd8 then []
    else jpegHeader payload.type payload.width payload.height payload.luma payload.chroma
      payload.restartInterval
  { assembly with
    accessUnit := header ++ payload.scan
    accessUnitTimestamp := timestamp
    haveAccessUnit := true
    mjpegWidth := payload.width
    mjpegHeight := payload.height }

def appendMjpegPayload (payload : List UInt8) (marker : Bool) (timestamp : UInt32)
    (assembly : Assembly) : Bool × Assembly :=
  match parseJpegPayload payload with
  | .ignored => (true, assembly)
  | .incomplete => (true, count .incomplete assembly)
  | .payload parsed =>
    let finish (assembly : Assembly) : Bool × Assembly :=
      if marker then (true, queueMjpegAccessUnit parsed.width parsed.height timestamp assembly)
      else (true, assembly)
    if parsed.fragmentOffset = 0 then finish (startMjpegFrame parsed timestamp assembly)
    else if !assembly.haveAccessUnit || assembly.accessUnitTimestamp ≠ timestamp then
      (true, count .incomplete assembly)
    else finish { assembly with accessUnit := assembly.accessUnit ++ parsed.scan }

/-! ### Datagrams -/

/-- `append_mjpeg_payload`, `append_h265_payload` or `append_h264_payload`. -/
def appendPayload (setup : Setup) (packet : RtpPacket) (decoder : Depacketizer Assembly) :
    Bool × Depacketizer Assembly :=
  match setup.codec with
  | .mjpeg =>
    decoder.onAssembly (appendMjpegPayload packet.payload packet.marker packet.timestamp)
  | .nal codec => appendNalPayload (ops setup) codec packet decoder

def handleRtpPacket (setup : Setup) (packet : List UInt8) (decoder : Depacketizer Assembly) :
    Bool × Depacketizer Assembly :=
  RtpDepacketizer.handleRtpPacket (ops setup) (appendPayload setup) packet decoder

/-! ### The decoder assembles slices and passes other NAL units on -/

def policy (codec : NalCodec) : Policy where
  keeps := isVcl codec
  submitsOnChange := false
  flushesCutAggregate := true

/-- What was submitted of the stream, the seed apart. -/
def live (assembly : Assembly) : List Submission :=
  (assembly.submitted.filter fun packet => !packet.seed).map fun packet =>
    ⟨packet.data, packet.pts⟩

def render : Output → Submission
  | .nal bytes timestamp => ⟨nalData bytes, timestamp⟩
  | .unit units timestamp => ⟨annexB units, timestamp⟩

/-- The access unit holds the NAL units that wait, and the outputs were submitted. -/
structure Assembles (assembler : Assembler) (assembly : Assembly) : Prop where
  waiting : assembly.haveAccessUnit = !assembler.pending.isEmpty
  bytes : assembly.accessUnit = annexB assembler.pending
  timestamp : assembler.pending ≠ [] → assembly.accessUnitTimestamp = assembler.timestamp
  submitted : live assembly = assembler.outputs.map render

/-- A call that touches neither the access unit nor what was submitted. -/
structure Unnoticed (before after : Assembly) : Prop where
  waiting : after.haveAccessUnit = before.haveAccessUnit
  bytes : after.accessUnit = before.accessUnit
  timestamp : after.accessUnitTimestamp = before.accessUnitTimestamp
  submitted : live after = live before

namespace Unnoticed

theorem refl (assembly : Assembly) : Unnoticed assembly assembly := ⟨rfl, rfl, rfl, rfl⟩

theorem trans (first : Unnoticed before between) (second : Unnoticed between after) :
    Unnoticed before after :=
  ⟨second.waiting.trans first.waiting, second.bytes.trans first.bytes,
    second.timestamp.trans first.timestamp, second.submitted.trans first.submitted⟩

end Unnoticed

theorem Assembles.unnoticed (assembles : Assembles assembler before)
    (same : Unnoticed before after) : Assembles assembler after :=
  ⟨same.waiting.trans assembles.waiting, same.bytes.trans assembles.bytes,
    fun waits => same.timestamp.trans (assembles.timestamp waits),
    same.submitted.trans assembles.submitted⟩

theorem count_unnoticed (counted : Counted) (assembly : Assembly) :
    Unnoticed assembly (count counted assembly) := by
  cases counted <;> exact ⟨rfl, rfl, rfl, rfl⟩

/-- Whatever the hardware answers, a packet is offered once and nothing else changes. -/
theorem submitPacket_effect {setup : Setup} (nals : setup.codec ≠ .mjpeg) (seed : Bool)
    (filled : data ≠ []) (pts : UInt32) (assembly : Assembly) :
    (submitPacket setup seed data pts assembly).2.haveAccessUnit = assembly.haveAccessUnit ∧
      (submitPacket setup seed data pts assembly).2.accessUnit = assembly.accessUnit ∧
      (submitPacket setup seed data pts assembly).2.accessUnitTimestamp =
        assembly.accessUnitTimestamp ∧
      live (submitPacket setup seed data pts assembly).2 =
        live assembly ++ if seed then [] else [⟨data, pts⟩] := by
  unfold submitPacket
  rw [if_neg (not_or.2 ⟨filled, nals⟩)]
  split <;> cases seed <;> simp [live]

theorem injectFirstHeader_unnoticed {setup : Setup} (nals : setup.codec ≠ .mjpeg)
    (paths : List String) (assembly : Assembly) :
    Unnoticed assembly (injectFirstHeader setup paths assembly).2 := by
  induction paths with
  | nil => exact ⟨rfl, rfl, rfl, rfl⟩
  | cons path rest ih =>
    unfold injectFirstHeader
    split
    · exact ih
    · rename_i header _
      by_cases empty : header = []
      · rw [if_pos empty]
        exact ih
      · rw [if_neg empty]
        obtain ⟨waiting, bytes, timestamp, submitted⟩ :=
          submitPacket_effect nals true empty 0 assembly
        rw [if_pos rfl, List.append_nil] at submitted
        dsimp only
        split <;> exact ⟨waiting, bytes, timestamp, submitted⟩

theorem injectX20HeaderIfNeeded_unnoticed {setup : Setup} (nals : setup.codec ≠ .mjpeg)
    (assembly : Assembly) : Unnoticed assembly (injectX20HeaderIfNeeded setup assembly).2 := by
  unfold injectX20HeaderIfNeeded
  split
  · exact .refl _
  · exact injectFirstHeader_unnoticed nals _ _

theorem injectForcedHeader_unnoticed {setup : Setup} (nals : setup.codec ≠ .mjpeg)
    (assembly : Assembly) : Unnoticed assembly (injectForcedHeader setup assembly).2 := by
  unfold injectForcedHeader
  split
  · exact injectX20HeaderIfNeeded_unnoticed nals _
  · exact .refl _

theorem updateX20Detection_unnoticed (data : List UInt8) (assembly : Assembly) :
    Unnoticed assembly (updateX20Detection data assembly) := by
  unfold updateX20Detection
  (repeat' split) <;> exact ⟨rfl, rfl, rfl, rfl⟩

theorem injectDetectedHeader_unnoticed {setup : Setup} (nals : setup.codec ≠ .mjpeg)
    (nal : List UInt8) (assembly : Assembly) :
    Unnoticed assembly (injectDetectedHeader setup nal assembly).2 := by
  have updated := updateX20Detection_unnoticed nal assembly
  unfold injectDetectedHeader
  split
  · exact .refl _
  · dsimp only
    split
    · exact updated.trans (injectX20HeaderIfNeeded_unnoticed nals _)
    · exact updated

theorem nalData_ne_nil (filled : nal ≠ []) : nalData nal ≠ [] := by
  unfold nalData
  split
  · exact filled
  · exact List.cons_ne_nil _ _

/-- A NAL unit that is no slice does not begin like a start code. -/
theorem nalData_of_other (valid : ValidNal codec nal) (other : isVcl codec nal = false) :
    nalData nal = startCode ++ nal := by
  have first := first_byte_of_other valid other
  cases nal with
  | nil => exact absurd rfl (valid_nal_ne_nil valid)
  | cons byte rest =>
    have different : (0x00 == byte) = false := beq_eq_false_iff_ne.2 fun zero => first zero.symm
    have unlike : startCode.isPrefixOf (byte :: rest) = false := by
      rw [startCode, List.isPrefixOf, different]
      rfl
    rw [nalData, unlike]
    rfl

/-- A submission made by a call that was refused is an output nevertheless. -/
theorem submitNal_effect {setup : Setup} (nals : setup.codec ≠ .mjpeg) (filled : nal ≠ [])
    (timestamp : UInt32) (assembly : Assembly) :
    Unnoticed assembly (submitNal setup nal timestamp assembly).2 ∧
        (submitNal setup nal timestamp assembly).1 = false ∨
      (submitNal setup nal timestamp assembly).2.haveAccessUnit = assembly.haveAccessUnit ∧
        (submitNal setup nal timestamp assembly).2.accessUnit = assembly.accessUnit ∧
        (submitNal setup nal timestamp assembly).2.accessUnitTimestamp =
          assembly.accessUnitTimestamp ∧
        live (submitNal setup nal timestamp assembly).2 =
          live assembly ++ [⟨nalData nal, timestamp⟩] := by
  have seeded := injectDetectedHeader_unnoticed nals nal assembly
  unfold submitNal
  rw [if_neg filled, andThen]
  by_cases done : (injectDetectedHeader setup nal assembly).1 = true
  · rw [if_pos done]
    obtain ⟨waiting, bytes, stamped, submitted⟩ := submitPacket_effect nals false
      (nalData_ne_nil filled) timestamp (injectDetectedHeader setup nal assembly).2
    refine .inr ⟨waiting.trans seeded.waiting, bytes.trans seeded.bytes,
      stamped.trans seeded.timestamp, ?_⟩
    rw [submitted, seeded.submitted]
    rfl
  · rw [if_neg done]
    exact .inl ⟨seeded, Bool.eq_false_of_not_eq_true done⟩

/-- A slice waits where the assembler's slice waits. -/
theorem queueSlice_assembles (codec : NalCodec) (filled : nal ≠ []) (slice : isVcl codec nal = true)
    (assembles : Assembles assembler assembly) :
    Assembles (assembler.queueNal (policy codec) nal timestamp)
      (queueSlice nal timestamp assembly) := by
  obtain ⟨waiting, bytes, stamped, submitted⟩ := assembles
  have kept : (policy codec).keeps nal = true := slice
  unfold Assembler.queueNal
  rw [if_neg filled, if_pos kept]
  unfold queueSlice Assembler.turnTo
  by_cases idle : assembler.pending = []
  · rw [idle, List.isEmpty_nil, Bool.not_true] at waiting
    rw [idle, annexB_nil] at bytes
    simp only [idle, waiting, ne_eq, not_true_eq_false, false_and, if_false, Bool.false_eq_true]
    exact ⟨rfl, by simp [bytes, annexB], fun _ => rfl, submitted⟩
  · have have_unit : assembly.haveAccessUnit = true := by
      rw [waiting]
      simpa using idle
    have same := stamped idle
    by_cases changed : assembler.timestamp = timestamp
    · simp only [idle, have_unit, same, changed, ne_eq, not_true_eq_false, and_false, if_false,
        if_true]
      refine ⟨by simp, ?_, fun _ => rfl, submitted⟩
      rw [annexB_append, annexB_single, ← bytes]
    · simp only [idle, have_unit, same, changed, ne_eq, not_false_eq_true, and_true, if_true]
      exact ⟨rfl, by simp [discard, count, Assembler.discard, policy, annexB], fun _ => rfl,
        submitted⟩

theorem queueNal_refines (setup : Setup) (codec : NalCodec) (same : setup.codec = .nal codec)
    (nal : List UInt8) (timestamp : UInt32) (assembles : Assembles assembler assembly) :
    if (queueNal setup nal timestamp assembly).1 then
      Assembles (assembler.queueNal (policy codec) nal timestamp)
        (queueNal setup nal timestamp assembly).2
    else live (queueNal setup nal timestamp assembly).2 <+:
      (assembler.queueNal (policy codec) nal timestamp).outputs.map render := by
  have nals : setup.codec ≠ .mjpeg := by
    rw [same]
    exact VideoCodec.noConfusion
  have grown := (outputs_of_queueNal (policy codec) nal timestamp assembler).map render
  have seeded := assembles.unnoticed (injectForcedHeader_unnoticed nals assembly)
  unfold queueNal
  by_cases empty : nal = []
  · simp only [empty, Assembler.queueNal, if_true]
    exact assembles
  · rw [if_neg empty, andThen]
    by_cases done : (injectForcedHeader setup assembly).1 = true
    · rw [if_pos done, show setup.codec.nalCodec = codec by rw [same]; rfl]
      by_cases slice : isVcl codec nal = true
      · rw [if_pos slice]
        exact queueSlice_assembles codec empty slice seeded
      · rw [if_neg slice]
        have passed : assembler.queueNal (policy codec) nal timestamp =
            { assembler with outputs := assembler.outputs ++ [.nal nal timestamp] } := by
          unfold Assembler.queueNal
          rw [if_neg empty]
          exact if_neg slice
        have outputs : live (injectForcedHeader setup assembly).2 ++ [⟨nalData nal, timestamp⟩] =
            (assembler.outputs ++ [Output.nal nal timestamp]).map render := by
          rw [List.map_append, seeded.submitted]
          rfl
        obtain ⟨unnoticed, failed⟩ | ⟨waiting, bytes, stamped, submitted⟩ :=
          submitNal_effect nals empty timestamp (injectForcedHeader setup assembly).2
        · rw [failed, if_neg Bool.false_ne_true, unnoticed.submitted, seeded.submitted]
          exact grown
        · rw [passed]
          split
          · exact ⟨waiting.trans seeded.waiting, bytes.trans seeded.bytes,
              fun waits => stamped.trans (seeded.timestamp waits), submitted.trans outputs⟩
          · rw [submitted, outputs]
    · rw [if_neg done, if_neg done, seeded.submitted]
      exact grown

theorem flushAccessUnit_refines (setup : Setup) (nals : setup.codec ≠ .mjpeg)
    (assembles : Assembles assembler assembly) :
    if (flushAccessUnit setup assembly).1 then
      Assembles assembler.flush (flushAccessUnit setup assembly).2
    else live (flushAccessUnit setup assembly).2 <+: assembler.flush.outputs.map render := by
  obtain ⟨waiting, bytes, stamped, submitted⟩ := assembles
  by_cases idle : assembler.pending = []
  · unfold flushAccessUnit Assembler.flush
    rw [if_pos idle, waiting, idle]
    exact ⟨by rw [idle]; rfl, by rw [idle]; rfl, fun waits => absurd idle waits, submitted⟩
  · have have_unit : assembly.haveAccessUnit = true := by
      rw [waiting]
      simpa using idle
    have filled : assembly.accessUnit ≠ [] := by
      rw [bytes]
      exact mt annexB_eq_nil.1 idle
    obtain ⟨-, -, -, offered⟩ := submitPacket_effect nals false filled
      assembly.accessUnitTimestamp assembly
    have outputs : live (discard (submitPacket setup false assembly.accessUnit
        assembly.accessUnitTimestamp assembly).2) =
        (assembler.outputs ++ [Output.unit assembler.pending assembler.timestamp]).map render := by
      change live (submitPacket setup false assembly.accessUnit assembly.accessUnitTimestamp
        assembly).2 = _
      rw [offered, submitted, List.map_append, bytes, stamped idle]
      rfl
    have offer : flushAccessUnit setup assembly =
        ((submitPacket setup false assembly.accessUnit assembly.accessUnitTimestamp assembly).1,
          discard (submitPacket setup false assembly.accessUnit assembly.accessUnitTimestamp
            assembly).2) := if_neg (by simp [have_unit, filled])
    rw [offer, Assembler.flush, if_neg idle]
    split
    · exact ⟨rfl, rfl, fun waits => absurd rfl waits, outputs⟩
    · rw [outputs]

/-- With H.264 and H.265 the decoder is an assembler that lets nothing but slices wait. -/
def refinement (setup : Setup) (codec : NalCodec) (same : setup.codec = .nal codec) :
    Refinement (policy codec) (ops setup) where
  live := live
  render := render
  related := Assembles
  submitted := Assembles.submitted
  counted := fun counted assembles => assembles.unnoticed (count_unnoticed counted _)
  discarded := fun assembles => ⟨rfl, rfl, fun waits => absurd rfl waits, assembles.submitted⟩
  queued := fun nal timestamp assembles => queueNal_refines setup codec same nal timestamp assembles
  flushed := fun assembles => flushAccessUnit_refines setup (by rw [same]; exact VideoCodec.noConfusion) assembles
  sameCut := rfl

theorem handleRtpPacket_nal (setup : Setup) (codec : NalCodec) (same : setup.codec = .nal codec) :
    handleRtpPacket setup =
      RtpDepacketizer.handleRtpPacket (ops setup) (appendNalPayload (ops setup) codec) := by
  have append : appendPayload setup = appendNalPayload (ops setup) codec := by
    funext packet decoder
    unfold appendPayload
    rw [same]
  funext packet decoder
  rw [handleRtpPacket, append]

end Glide.RockchipMppRtpDecoder
