import Glide.RockchipMppRtpDecoder

/-! A sender of Motion JPEG. Every packet of a frame carries the header of the frame and the
offset of its piece of the scan data; the first one may carry quantiser tables as well. -/
namespace Glide.MjpegSender
open RtpPackets RtpJpeg RtpDepacketizer RockchipMppRtpDecoder

def endOfImage : List UInt8 := jpegMarker 0xd9

/-- Every byte 0xff is stuffed or begins a restart marker. -/
def EntropyCoded (data : List UInt8) : Prop :=
  ∀ front rest, data = front ++ 0xff :: rest →
    ∃ next back, rest = next :: back ∧ (next = 0 ∨ 0xd0 ≤ next ∧ next ≤ 0xd7)

/-- A piece of the scan data, with the number of its first restart interval. -/
structure Chunk where
  data : List UInt8
  restartCount : UInt16 := 0xffff
  filled : data ≠ []
  deriving DecidableEq

def bytesOf (chunks : List Chunk) : List UInt8 := chunks.flatMap Chunk.data

/-- A frame and the way it is cut. The width and the height count blocks of eight; `tables`
is only sent where the quality asks for it. -/
structure JpegFrame where
  timestamp : UInt32
  typeSpecific : UInt8 := 0
  type : UInt8
  q : UInt8
  width : UInt8
  height : UInt8
  restart : Option UInt16 := none
  precision : UInt8 := 0
  tables : List UInt8 := []
  entropy : List UInt8
  ended : Bool := false
  chunks : List Chunk
  known : type < 64
  tables_fit : tables.length < 65536
  coded : EntropyCoded entropy
  cut : bytesOf chunks = entropy ++ if ended then endOfImage else []
  filled : chunks ≠ []
  offsets : ∀ earlier chunk later, chunks = earlier ++ chunk :: later →
    (bytesOf earlier).length < 2 ^ 24

theorem coded_without_markers {data : List UInt8} (absent : 0xff ∉ data) : EntropyCoded data := by
  intro front rest parts
  rw [parts] at absent
  exact absurd (List.mem_append_right _ List.mem_cons_self) absent

theorem offsets_of_short {chunks : List Chunk} (short : (bytesOf chunks).length < 2 ^ 24)
    (earlier : List Chunk) (chunk : Chunk) (later : List Chunk)
    (parts : chunks = earlier ++ chunk :: later) : (bytesOf earlier).length < 2 ^ 24 := by
  rw [parts, bytesOf, List.flatMap_append, List.length_append] at short
  exact Nat.lt_of_le_of_lt (Nat.le_add_right _ _) short

namespace JpegFrame
variable (frame : JpegFrame)

def typeByte : UInt8 := if frame.restart.isSome then frame.type ||| 0x40 else frame.type

def mainHeader (offset : Nat) : List UInt8 :=
  [frame.typeSpecific, UInt8.ofNat (offset / 65536)] ++ bytesU16 offset ++
    [frame.typeByte, frame.q, frame.width, frame.height]

def restartBytes (chunk : Chunk) : List UInt8 :=
  match frame.restart with
  | none => []
  | some interval => bytesU16 interval.toNat ++ bytesU16 chunk.restartCount.toNat

def sendsTables (offset : Nat) : Bool := frame.q ≥ 128 && offset == 0

def tableBytes : List UInt8 := [0, frame.precision] ++ bytesU16 frame.tables.length ++ frame.tables

def payload (offset : Nat) (chunk : Chunk) : List UInt8 :=
  frame.mainHeader offset ++ (frame.restartBytes chunk ++
    ((if frame.sendsTables offset then frame.tableBytes else []) ++ chunk.data))

/-- The tables that the first packet brings, or those of the quality. -/
def sentTables (offset : Nat) : List UInt8 × List UInt8 :=
  if frame.sendsTables offset then (frame.tables.take 64, (frame.tables.drop 64).take 64)
  else makeJpegQuantTables frame.q

/-- The decoder reads tables with 8 bits an entry, a pair of them at least. -/
def Unreadable (offset : Nat) : Prop :=
  frame.sendsTables offset = true ∧ ¬ (frame.precision = 0 ∧ 128 ≤ frame.tables.length)

instance (offset : Nat) : Decidable (frame.Unreadable offset) := by
  unfold Unreadable
  infer_instance

def fields (offset : Nat) (chunk : Chunk) : JpegPayload where
  fragmentOffset := offset
  type := frame.type
  width := if frame.width = 0 then 2048 else frame.width.toNat * 8
  height := if frame.height = 0 then 2048 else frame.height.toNat * 8
  restartInterval := (frame.restart.getD 0).toNat
  luma := (frame.sentTables offset).1
  chroma := (frame.sentTables offset).2
  scan := chunk.data

end JpegFrame

section Parsing
variable {frame : JpegFrame} {offset : Nat} {chunk : Chunk}

theorem offset_field (fits : offset < 2 ^ 24) :
    (UInt8.ofNat (offset / 65536)).toNat * 65536 +
      ((UInt8.ofNat (offset / 256)).toNat * 256 + (UInt8.ofNat offset).toNat) = offset := by
  simp only [UInt8.toNat_ofNat']
  omega

theorem type_bits : ∀ type : Fin 64, UInt8.ofNat type.val &&& 0x40 = 0 ∧
    (UInt8.ofNat type.val ||| 0x40) &&& 0x40 ≠ 0 ∧
    (UInt8.ofNat type.val ||| 0x40) &&& ~~~0x40 = UInt8.ofNat type.val := by
  decide +kernel

theorem typeByte_restarts (frame : JpegFrame) :
    decide (frame.typeByte &&& 0x40 ≠ 0) = frame.restart.isSome := by
  obtain ⟨plain, restarting, _⟩ := type_bits ⟨frame.type.toNat, frame.known⟩
  rw [UInt8.ofNat_toNat] at plain restarting
  unfold JpegFrame.typeByte
  cases frame.restart with
  | none => exact decide_eq_false (not_not.2 plain)
  | some interval => exact decide_eq_true restarting

theorem typeByte_type (frame : JpegFrame) :
    (if frame.restart.isSome then frame.typeByte &&& ~~~0x40 else frame.typeByte) = frame.type := by
  obtain ⟨_, _, cleared⟩ := type_bits ⟨frame.type.toNat, frame.known⟩
  rw [UInt8.ofNat_toNat] at cleared
  unfold JpegFrame.typeByte
  cases frame.restart with
  | none => rfl
  | some interval => exact cleared

/-- What stands in front of the tables. -/
def front (frame : JpegFrame) (offset : Nat) (chunk : Chunk) : List UInt8 :=
  frame.mainHeader offset ++ frame.restartBytes chunk

theorem front_length (frame : JpegFrame) (offset : Nat) (chunk : Chunk) :
    (front frame offset chunk).length = if frame.restart.isSome then 12 else 8 := by
  unfold front JpegFrame.restartBytes
  cases frame.restart <;> rfl

theorem table_fields (before rest : List UInt8) :
    byteAt (before ++ (frame.tableBytes ++ rest)) (before.length + 1) = frame.precision ∧
      fieldU16 (before ++ (frame.tableBytes ++ rest)) (before.length + 2) = frame.tables.length ∧
      (before ++ (frame.tableBytes ++ rest)).drop (before.length + 4) = frame.tables ++ rest := by
  have behind : before ++ (frame.tableBytes ++ rest) = (before ++ [0]) ++
      frame.precision :: (bytesU16 frame.tables.length ++ (frame.tables ++ rest)) := by
    simp [JpegFrame.tableBytes]
  have further : before ++ (frame.tableBytes ++ rest) = (before ++ [0, frame.precision]) ++
      (bytesU16 frame.tables.length ++ (frame.tables ++ rest)) := by
    simp [JpegFrame.tableBytes]
  have precision := byteAt_append (before ++ [0])
    (bytesU16 frame.tables.length ++ (frame.tables ++ rest)) frame.precision
  have length := fieldU16_append (before ++ [0, frame.precision]) (frame.tables ++ rest) _
    frame.tables_fit
  rw [← behind, List.length_append] at precision
  rw [← further, List.length_append] at length
  refine ⟨precision, length, ?_⟩
  rw [← List.drop_drop]
  simp [JpegFrame.tableBytes, bytesU16]

/-- The decoder finds what the sender put into the packet, unless it cannot read the tables. -/
theorem parse_payload (fits : offset < 2 ^ 24) :
    parseJpegPayload (frame.payload offset chunk) =
      if frame.Unreadable offset then .incomplete else .payload (frame.fields offset chunk) := by
  let tail := (if frame.sendsTables offset then frame.tableBytes else []) ++ chunk.data
  have whole : frame.payload offset chunk = front frame offset chunk ++ tail :=
    (List.append_assoc _ _ _).symm
  have behind := front_length frame offset chunk
  have data := List.length_pos_iff.2 chunk.filled
  have size : (frame.payload offset chunk).length =
      (if frame.restart.isSome then 12 else 8) + tail.length := by
    rw [whole, List.length_append, behind]
  have early : ∀ index < 8, byteAt (frame.payload offset chunk) index =
      byteAt (front frame offset chunk) index := fun index small => by
    rw [whole]
    exact byteAt_front (by rw [behind]; split <;> omega)
  have position : (byteAt (frame.payload offset chunk) 1).toNat * 65536 +
      fieldU16 (frame.payload offset chunk) 2 = offset := by
    rw [fieldU16, early 1 (by omega), early 2 (by omega), early 3 (by omega)]
    exact offset_field fits
  have type : byteAt (frame.payload offset chunk) 4 = frame.typeByte := early 4 (by omega)
  have quality : byteAt (frame.payload offset chunk) 5 = frame.q := early 5 (by omega)
  have width : byteAt (frame.payload offset chunk) 6 = frame.width := early 6 (by omega)
  have height : byteAt (frame.payload offset chunk) 7 = frame.height := early 7 (by omega)
  have interval : (if frame.restart.isSome then fieldU16 (frame.payload offset chunk) 8 else 0) =
      (frame.restart.getD 0).toNat := by
    cases given : frame.restart with
    | none => rfl
    | some interval =>
      have read := fieldU16_append (frame.mainHeader offset)
        (bytesU16 chunk.restartCount.toNat ++ tail) _ interval.toNat_lt
      rw [if_pos (by rfl), whole, front, JpegFrame.restartBytes, given]
      simp only [List.append_assoc]
      exact read
  have long : ¬ (frame.payload offset chunk).length < 8 := by
    rw [size]
    split <;> omega
  have begun : ¬ (frame.restart.isSome &&
      decide ((frame.payload offset chunk).length < 12)) = true := by
    rw [size]
    cases frame.restart <;> simp
  unfold parseJpegPayload
  rw [if_neg long]
  dsimp only
  rw [position, type, quality, width, height, typeByte_restarts, typeByte_type, interval,
    if_neg begun, ← behind, whole]
  have asked : frame.sendsTables offset = decide (frame.q ≥ 128 ∧ offset = 0) := by
    unfold JpegFrame.sendsTables
    rw [Bool.decide_and, beq_eq_decide]
  by_cases sends : frame.q ≥ 128 ∧ offset = 0
  · rw [decide_eq_true sends] at asked
    have bytes : tail = frame.tableBytes ++ chunk.data := by
      change (if frame.sendsTables offset then frame.tableBytes else []) ++ chunk.data = _
      rw [asked, if_pos rfl]
    obtain ⟨precision, length, tables⟩ := table_fields (front frame offset chunk) chunk.data
    have count : (front frame offset chunk ++ (frame.tableBytes ++ chunk.data)).length =
        (front frame offset chunk).length + 4 + frame.tables.length + chunk.data.length := by
      simp [JpegFrame.tableBytes]
      omega
    rw [if_pos sends, bytes, count, if_neg (by omega), precision, length, tables]
    by_cases readable : frame.precision = 0 ∧ 128 ≤ frame.tables.length
    · have usable : ¬ (frame.precision ≠ 0 ∨ frame.tables.length < 128 ∨
          (front frame offset chunk).length + 4 + frame.tables.length + chunk.data.length <
            (front frame offset chunk).length + 4 + frame.tables.length) := by
        rintro (other | few | cut)
        · exact other readable.1
        · omega
        · omega
      have luma : (frame.tables ++ chunk.data).take 64 = frame.tables.take 64 :=
        List.take_append_of_le_length (by omega)
      have chroma : ((frame.tables ++ chunk.data).drop 64).take 64 =
          (frame.tables.drop 64).take 64 := by
        rw [List.drop_append_of_le_length (by omega),
          List.take_append_of_le_length (by rw [List.length_drop]; omega)]
      have kept : ¬ frame.Unreadable offset := fun wrong => wrong.2 readable
      rw [if_neg usable, if_neg (by omega), if_neg kept, luma, chroma, ← List.drop_drop, tables,
        List.drop_left]
      unfold JpegFrame.fields JpegFrame.sentTables
      rw [if_pos asked]
    · have unusable : frame.precision ≠ 0 ∨ frame.tables.length < 128 ∨
          (front frame offset chunk).length + 4 + frame.tables.length + chunk.data.length <
            (front frame offset chunk).length + 4 + frame.tables.length := by
        by_contra fine
        exact readable ⟨not_not.1 fun other => fine (.inl other),
          Nat.not_lt.1 fun few => fine (.inr (.inl few))⟩
      have refused : frame.Unreadable offset := ⟨asked, readable⟩
      rw [if_pos unusable, if_pos refused]
  · rw [decide_eq_false sends] at asked
    have bytes : tail = chunk.data := by
      change (if frame.sendsTables offset then frame.tableBytes else []) ++ chunk.data = chunk.data
      rw [asked]
      rfl
    have kept : ¬ frame.Unreadable offset := fun wrong => by
      rw [JpegFrame.Unreadable, asked] at wrong
      exact absurd wrong.1 Bool.false_ne_true
    rw [if_neg sends, bytes, if_neg (by rw [List.length_append]; omega), List.drop_left,
      if_neg kept]
    unfold JpegFrame.fields JpegFrame.sentTables
    rw [asked]
    rfl

end Parsing

/-! ### Packets -/

/-- A packet among the packets of its frame. -/
structure SentPacket where
  frame : JpegFrame
  earlier : List Chunk
  chunk : Chunk
  later : List Chunk

namespace SentPacket
variable (packet : SentPacket)

def offset : Nat := (bytesOf packet.earlier).length

/-- Exactly the last packet of a frame bears the marker. -/
def marker : Bool := packet.later.isEmpty

def rtpPacket (sequence : UInt16) : RtpPacket where
  marker := packet.marker
  sequence := sequence
  timestamp := packet.frame.timestamp
  payload := packet.frame.payload packet.offset packet.chunk

/-- The packet is among those of its frame. -/
def Placed : Prop := packet.frame.chunks = packet.earlier ++ packet.chunk :: packet.later

end SentPacket

def packetsFrom (frame : JpegFrame) (earlier : List Chunk) : List Chunk → List SentPacket
  | [] => []
  | chunk :: later => ⟨frame, earlier, chunk, later⟩ :: packetsFrom frame (earlier ++ [chunk]) later

def JpegFrame.packets (frame : JpegFrame) : List SentPacket := packetsFrom frame [] frame.chunks

theorem packetsFrom_placed {frame : JpegFrame} (whole : frame.chunks = earlier ++ chunks) :
    ∀ packet ∈ packetsFrom frame earlier chunks, packet.frame = frame ∧ packet.Placed := by
  induction chunks generalizing earlier with
  | nil => exact fun packet inside => nomatch inside
  | cons chunk later ih =>
    rw [packetsFrom, List.forall_mem_cons]
    exact ⟨⟨rfl, whole⟩, ih (by rw [whole, List.append_assoc]; rfl)⟩

theorem packet_placed {frame : JpegFrame} {packet : SentPacket} (sent : packet ∈ frame.packets) :
    packet.frame = frame ∧ packet.Placed :=
  packetsFrom_placed (List.nil_append _).symm packet sent

theorem bytesOf_append (first second : List Chunk) :
    bytesOf (first ++ second) = bytesOf first ++ bytesOf second := List.flatMap_append

theorem bytesOf_single (chunk : Chunk) : bytesOf [chunk] = chunk.data := List.append_nil _

theorem offset_eq_zero {packet : SentPacket} : packet.offset = 0 ↔ packet.earlier = [] := by
  unfold SentPacket.offset bytesOf
  rw [List.length_eq_zero_iff, List.flatMap_eq_nil_iff]
  constructor
  · intro empty
    cases given : packet.earlier with
    | nil => rfl
    | cons chunk rest =>
      rw [given] at empty
      exact absurd (empty chunk List.mem_cons_self) chunk.filled
  · intro first chunk inside
    rw [first] at inside
    cases inside

/-- Scan data never looks like a whole file. -/
theorem not_whole_file {packet : SentPacket} (placed : packet.Placed)
    (first : packet.earlier = []) :
    ¬ (packet.chunk.data.length ≥ 2 ∧ packet.chunk.data.take 2 = jpegMarker 0xd8) := by
  rintro ⟨_, begins⟩
  have scan := packet.frame.cut
  rw [placed, first, List.nil_append, ← List.singleton_append, bytesOf_append, bytesOf_single,
    ← List.take_append_drop 2 packet.chunk.data, begins] at scan
  have coded := packet.frame.coded
  cases entropy : packet.frame.entropy with
  | nil =>
    rw [entropy] at scan
    cases ended : packet.frame.ended <;> rw [ended] at scan <;> cases scan
  | cons byte rest =>
    rw [entropy, List.cons_append] at scan
    obtain ⟨same, following⟩ := List.cons.inj scan
    obtain ⟨next, back, parts, stuffed⟩ := coded [] rest (by rw [entropy, ← same]; rfl)
    rw [parts, List.cons_append] at following
    have second := (List.cons.inj following).1
    rw [← second] at stuffed
    revert stuffed
    decide

/-! ### A packet at the decoder -/

def JpegFrame.header (frame : JpegFrame) : List UInt8 :=
  jpegHeader frame.type (if frame.width = 0 then 2048 else frame.width.toNat * 8)
    (if frame.height = 0 then 2048 else frame.height.toNat * 8) (frame.sentTables 0).1
    (frame.sentTables 0).2 (frame.restart.getD 0).toNat

namespace SentPacket
variable (packet : SentPacket)

def fields : JpegPayload := packet.frame.fields packet.offset packet.chunk

def finish (assembly : Assembly) : Assembly :=
  if packet.marker then
    queueMjpegAccessUnit packet.fields.width packet.fields.height packet.frame.timestamp assembly
  else assembly

/-- The access unit the packet is appended to has its timestamp. -/
def Continues (assembly : Assembly) : Prop :=
  assembly.haveAccessUnit = true ∧ assembly.accessUnitTimestamp = packet.frame.timestamp

instance (assembly : Assembly) : Decidable (packet.Continues assembly) := by
  unfold Continues
  infer_instance

/-- What the decoder makes of the packet. -/
def take (assembly : Assembly) : Assembly :=
  if packet.frame.Unreadable packet.offset then count .incomplete assembly
  else if packet.earlier = [] then
    packet.finish (startMjpegFrame packet.fields packet.frame.timestamp assembly)
  else if packet.Continues assembly then
    packet.finish { assembly with accessUnit := assembly.accessUnit ++ packet.chunk.data }
  else count .incomplete assembly

end SentPacket

theorem offset_fits {packet : SentPacket} (placed : packet.Placed) : packet.offset < 2 ^ 24 :=
  packet.frame.offsets _ _ _ placed

theorem append_packet {packet : SentPacket} (placed : packet.Placed) (sequence : UInt16)
    (assembly : Assembly) :
    appendMjpegPayload (packet.rtpPacket sequence).payload (packet.rtpPacket sequence).marker
      (packet.rtpPacket sequence).timestamp assembly = (true, packet.take assembly) := by
  have own : (packet.rtpPacket sequence).payload =
      packet.frame.payload packet.offset packet.chunk := rfl
  unfold appendMjpegPayload SentPacket.take
  rw [own, parse_payload (offset_fits placed)]
  by_cases unreadable : packet.frame.Unreadable packet.offset
  · rw [if_pos unreadable, if_pos unreadable]
  · have finished : ∀ assembly, (if packet.marker = true then
        (true, queueMjpegAccessUnit packet.fields.width packet.fields.height
          packet.frame.timestamp assembly) else (true, assembly)) =
          (true, packet.finish assembly) := fun assembly => by
        unfold SentPacket.finish
        split <;> rfl
    rw [if_neg unreadable, if_neg unreadable]
    by_cases first : packet.earlier = []
    · rw [if_pos first]
      exact (if_pos (offset_eq_zero.2 first)).trans (finished _)
    · rw [if_neg first]
      refine (if_neg fun zero => first (offset_eq_zero.1 zero)).trans ?_
      by_cases continues : packet.Continues assembly
      · have going : ¬ (!assembly.haveAccessUnit ||
            decide (assembly.accessUnitTimestamp ≠ packet.frame.timestamp)) = true := by
          simp [continues.1, continues.2]
        rw [if_pos continues]
        exact (if_neg going).trans (finished _)
      · have stopped : (!assembly.haveAccessUnit ||
            decide (assembly.accessUnitTimestamp ≠ packet.frame.timestamp)) = true := by
          unfold SentPacket.Continues at continues
          rw [not_and] at continues
          cases have_ : assembly.haveAccessUnit with
          | false => rfl
          | true => simpa using continues have_
        rw [if_neg continues]
        exact if_pos stopped

/-- The file that a frame is to become. -/
def JpegFrame.file (frame : JpegFrame) : List UInt8 := frame.header ++ frame.entropy ++ endOfImage

theorem header_ends (frame : JpegFrame) : ∃ front, frame.header = front ++ [0] := by
  have last : startOfScan = startOfScan.dropLast ++ [0] := rfl
  unfold JpegFrame.header jpegHeader
  rw [last, ← List.append_assoc]
  exact ⟨_, rfl⟩

/-- Scan data without its end does not end like an image. -/
theorem not_ended {frame : JpegFrame} (filled : frame.entropy ≠ []) (before : List UInt8) :
    frame.header ++ frame.entropy ≠ before ++ endOfImage := by
  intro same
  obtain ⟨header, ends⟩ := header_ends frame
  obtain ⟨init, last, entropy⟩ := (List.eq_nil_or_concat frame.entropy).resolve_left filled
  rw [List.concat_eq_append] at entropy
  have parts : frame.header ++ init ++ [last] = before ++ [0xff] ++ [0xd9] := by
    rw [List.append_assoc, ← entropy, same, List.append_assoc]
    rfl
  obtain ⟨front, final⟩ := List.append_inj' parts rfl
  rcases List.eq_nil_or_concat init with none_ | ⟨earlier, other, split_⟩
  · rw [none_, List.append_nil, ends] at front
    have zero := List.cons.inj (List.append_inj' front rfl).2
    exact absurd zero.1 (by decide)
  · rw [List.concat_eq_append] at split_
    rw [split_, ← List.append_assoc] at front
    have byte := (List.append_inj' front rfl).2
    rw [split_, byte, final, List.append_assoc] at entropy
    obtain ⟨next, back, following, stuffed⟩ := frame.coded earlier [0xd9] entropy
    cases following
    revert stuffed
    decide

theorem scan_ne_nil (frame : JpegFrame) : bytesOf frame.chunks ≠ [] := by
  cases cut : frame.chunks with
  | nil => exact absurd cut frame.filled
  | cons chunk rest => exact List.append_ne_nil_of_left_ne_nil chunk.filled _

/-- The marker of the end is put behind the scan data unless the sender sent it. -/
theorem finished_file (frame : JpegFrame) :
    let data := frame.header ++ bytesOf frame.chunks
    (if data.length ≥ 2 ∧ data.drop (data.length - 2) = jpegMarker 0xd9 then data
      else data ++ jpegMarker 0xd9) = frame.file := by
  intro data
  have scan := frame.cut
  cases ended : frame.ended with
  | true =>
    rw [ended, if_pos rfl] at scan
    have whole : data = frame.file := by
      change frame.header ++ bytesOf frame.chunks = _
      rw [scan, JpegFrame.file, List.append_assoc]
    have length : data.length = (frame.header ++ frame.entropy).length + 2 := by
      rw [whole, JpegFrame.file, List.length_append]
      rfl
    have last : data.drop (data.length - 2) = jpegMarker 0xd9 := by
      rw [length, whole, JpegFrame.file, Nat.add_sub_cancel, List.drop_left]
      rfl
    rw [if_pos ⟨by omega, last⟩, whole]
  | false =>
    rw [ended, if_neg Bool.false_ne_true, List.append_nil] at scan
    have filled : frame.entropy ≠ [] := scan ▸ scan_ne_nil frame
    have open_ : ¬ (data.length ≥ 2 ∧ data.drop (data.length - 2) = jpegMarker 0xd9) := by
      rintro ⟨_, last⟩
      have parts := List.take_append_drop (data.length - 2) data
      rw [last] at parts
      refine not_ended filled (data.take (data.length - 2)) ?_
      rw [← scan]
      exact parts.symm
    rw [if_neg open_, JpegFrame.file, ← scan]
    rfl

def JpegFrame.unit (frame : JpegFrame) : MjpegAccessUnit where
  data := frame.file
  pts := frame.timestamp
  width := if frame.width = 0 then 2048 else frame.width.toNat * 8
  height := if frame.height = 0 then 2048 else frame.height.toNat * 8

/-- The access unit is the file of the frame as far as these chunks. -/
structure Holds (frame : JpegFrame) (chunks : List Chunk) (assembly : Assembly) : Prop where
  waiting : assembly.haveAccessUnit = true
  timestamp : assembly.accessUnitTimestamp = frame.timestamp
  bytes : assembly.accessUnit = frame.header ++ bytesOf chunks

theorem Holds.appended {packet : SentPacket} (holds : Holds packet.frame packet.earlier assembly) :
    Holds packet.frame (packet.earlier ++ [packet.chunk])
      { assembly with accessUnit := assembly.accessUnit ++ packet.chunk.data } := by
  refine ⟨holds.waiting, holds.timestamp, ?_⟩
  dsimp only
  rw [holds.bytes, bytesOf_append, bytesOf_single, List.append_assoc]

theorem started_holds {packet : SentPacket} (placed : packet.Placed) (first : packet.earlier = [])
    (assembly : Assembly) :
    Holds packet.frame [packet.chunk]
      (startMjpegFrame packet.fields packet.frame.timestamp assembly) := by
  refine ⟨rfl, rfl, ?_⟩
  have zero : packet.offset = 0 := offset_eq_zero.2 first
  have tables : packet.frame.header = jpegHeader packet.fields.type packet.fields.width
      packet.fields.height packet.fields.luma packet.fields.chroma
      packet.fields.restartInterval := by
    unfold SentPacket.fields
    rw [zero]
    rfl
  have bytes : packet.fields.scan = packet.chunk.data := rfl
  unfold startMjpegFrame
  dsimp only
  rw [bytes, if_neg (not_whole_file placed first), ← tables, bytesOf_single]

/-- The last packet of a frame puts the file into the queue. -/
theorem Holds.finished {packet : SentPacket} (placed : packet.Placed) (last : packet.later = [])
    (holds : Holds packet.frame (packet.earlier ++ [packet.chunk]) assembly) :
    packet.finish assembly = { assembly with
      mjpegUnits := assembly.mjpegUnits.drop (assembly.mjpegUnits.length - 2) ++ [packet.frame.unit]
      droppedDecodedFrames := assembly.droppedDecodedFrames + (assembly.mjpegUnits.length - 2)
      accessUnit := []
      haveAccessUnit := false } := by
  have marked : packet.marker = true := by rw [SentPacket.marker, last]; rfl
  have all : packet.frame.chunks = packet.earlier ++ [packet.chunk] := by rw [placed, last]
  have file := finished_file packet.frame
  unfold SentPacket.finish
  rw [if_pos marked]
  unfold queueMjpegAccessUnit
  rw [holds.bytes, ← all]
  dsimp only at file ⊢
  rw [file]
  rfl

theorem finish_unmarked {packet : SentPacket} (goes_on : packet.later ≠ []) (assembly : Assembly) :
    packet.finish assembly = assembly := by
  unfold SentPacket.finish SentPacket.marker
  rw [if_neg (by simpa using goes_on)]

/-! ### A datagram at the decoder -/

section Datagrams
variable {setup : Setup} {packet : SentPacket} {decoder : Depacketizer Assembly}

theorem payload_ne_nil (packet : SentPacket) (sequence : UInt16) :
    (packet.rtpPacket sequence).payload ≠ [] := List.cons_ne_nil _ _

theorem appendPayload_packet (mjpeg : setup.codec = .mjpeg) (placed : packet.Placed)
    (sequence : UInt16) (decoder : Depacketizer Assembly) :
    appendPayload setup (packet.rtpPacket sequence) decoder =
      (true, { decoder with assembly := packet.take decoder.assembly }) := by
  unfold appendPayload Depacketizer.onAssembly
  rw [mjpeg]
  dsimp only
  rw [append_packet placed]

/-- The access unit that a packet finds, if it is not late. -/
inductive Checked (decoder : Depacketizer Assembly) (arrived : Arrival) : Assembly → Prop where
  | inOrder (ordered : arrived = .inOrder) :
      Checked decoder arrived (count .packet decoder.assembly)
  | outOfOrder (apart : arrived ≠ .inOrder) (counted : Counted) :
      Checked decoder arrived (discard (count counted (count .packet decoder.assembly)))

/-- What is left once a packet is accepted. -/
structure Accepted (packet : SentPacket) (sequence : UInt16)
    (decoder after : Depacketizer Assembly) : Prop where
  known : after.reassembly.haveSequence = true
  expected : after.reassembly.expectedSequence = sequence + 1
  assembly : ∃ base, after.assembly = packet.take base ∧ Checked decoder
    (arrival decoder.reassembly sequence packet.frame.timestamp) base

theorem handle_packet (mjpeg : setup.codec = .mjpeg) (placed : packet.Placed) (sequence : UInt16)
    (header : HeaderOptions) (decoder : Depacketizer Assembly) :
    let result := handleRtpPacket setup (rtpBytes header (packet.rtpPacket sequence)) decoder
    result.1 = true ∧
      (arrival decoder.reassembly sequence packet.frame.timestamp = .late ∧
          result.2.reassembly = decoder.reassembly ∧
          result.2.assembly = count .late (count .packet decoder.assembly) ∨
        arrival decoder.reassembly sequence packet.frame.timestamp ≠ .late ∧
          Accepted packet sequence decoder result.2) := by
  have read := parseRtpPacket_rtpBytes header (packet.rtpPacket sequence) (payload_ne_nil _ _)
  have handled : handleRtpPacket setup (rtpBytes header (packet.rtpPacket sequence)) decoder =
      handlePacket (ops setup) (appendPayload setup) (packet.rtpPacket sequence) decoder := by
    unfold RockchipMppRtpDecoder.handleRtpPacket RtpDepacketizer.handleRtpPacket
    rw [read]
  have appended := appendPayload_packet mjpeg placed sequence
  intro result
  change result = _ at handled
  rcases checkSequence_cases (ops setup) (packet.rtpPacket sequence)
      { decoder with assembly := (ops setup).count .packet decoder.assembly } with
    ⟨late, checked⟩ | ⟨ordered, checked⟩ | ⟨counted, taken, apart, checked⟩
  · rw [handlePacket_late checked] at handled
    rw [handled]
    exact ⟨rfl, .inl ⟨late, rfl, rfl⟩⟩
  · rw [handlePacket_checked checked, appended] at handled
    rw [handled]
    refine ⟨rfl, .inr ⟨fun late => ?_, rfl, rfl, _, rfl, .inOrder ordered⟩⟩
    cases ordered.symm.trans late
  · rw [handlePacket_checked checked, appended] at handled
    rw [handled]
    exact ⟨rfl, .inr ⟨taken, rfl, rfl, _, rfl, .outOfOrder apart counted⟩⟩

end Datagrams

end Glide.MjpegSender
