import Glide.Library.JpegFiles
import Glide.MjpegSender
import Glide.RtpFeed

/-! The JPEG file that the decoder rebuilds of a frame, read back. The tables of a packet
keep their order; those of a quality are written row by row, where a file has them in
zig-zag order. -/
namespace Glide.MjpegHeaders
open RtpPackets RtpJpeg RtpDepacketizer RockchipMppRtpDecoder RtpFeed MjpegSender
open Library.JpegFiles

/-- A baseline frame: both chroma planes are halved across, or across and down. -/
structure Baseline (frame : JpegFrame) : Prop where
  type : frame.type = 0 ∨ frame.type = 1
  width : frame.width ≠ 0
  height : frame.height ≠ 0
  quality : 1 ≤ frame.q ∧ frame.q ≤ 99 ∨
    128 ≤ frame.q ∧ frame.precision = 0 ∧ frame.tables.length = 128

/-- The sender's quantiser of a frequency. The standard tables go row by row, those in a
packet in zig-zag order. -/
def sentQuantiser (frame : JpegFrame) (standard sent : List UInt8) (across down : Nat) : UInt8 :=
  if frame.q ≥ 128 then quantiserAt sent across down
  else byteAt (jpegQuantTable frame.q standard) (down * 8 + across)

def lumaQuantiser (frame : JpegFrame) : Nat → Nat → UInt8 :=
  sentQuantiser frame jpegLumaQuantizer (frame.tables.take 64)

def chromaQuantiser (frame : JpegFrame) : Nat → Nat → UInt8 :=
  sentQuantiser frame jpegChromaQuantizer (frame.tables.drop 64)

/-- The quantiser of a component in a file. -/
def declaredQuantiser (header : Header) (component across down : Nat) : Option UInt8 := do
  let component ← header.components[component]?
  let table ← header.tables.lookup component.table
  return quantiserAt table across down

/-- The header means what the sender's fields mean. -/
structure Declares (frame : JpegFrame) (header : Header) : Prop where
  width : header.width = frame.width.toNat * 8
  height : header.height = frame.height.toNat * 8
  sampling : header.components.map (·.sampling) =
    [if frame.type = 0 then 0x21 else 0x22, 0x11, 0x11]
  restart : header.restartInterval = (frame.restart.getD 0).toNat
  luma : ∀ across < 8, ∀ down < 8,
    declaredQuantiser header 0 across down = some (lumaQuantiser frame across down)
  chroma : ∀ component ∈ [1, 2], ∀ across < 8, ∀ down < 8,
    declaredQuantiser header component across down = some (chromaQuantiser frame across down)

/-- The file declares the frame and carries its entropy-coded data up to the end. -/
def Faithful (frame : JpegFrame) (file : List UInt8) : Prop :=
  ∃ header, readFile file = some (header, frame.entropy ++ endOfImage) ∧ Declares frame header

/-- The datagrams of packets with consecutive numbers. -/
def datagrams (header : Nat → HeaderOptions) (sequence : UInt16) (index : Nat) :
    List SentPacket → List (List UInt8)
  | [] => []
  | packet :: rest =>
    rtpBytes (header index) (packet.rtpPacket sequence) ::
      datagrams header (sequence + 1) (index + 1) rest

/-- The decoder after all packets of a frame, one after the other. -/
def afterFrame (setup : Setup) (header : Nat → HeaderOptions) (sequence : UInt16)
    (frame : JpegFrame) (decoder : Depacketizer Assembly) : Depacketizer Assembly :=
  ((datagrams header sequence 0 frame.packets).foldl (receive (handleRtpPacket setup))
    { decoder }).decoder

section Reading
variable {table luma chroma : List UInt8} {header : Header}

theorem quantHeader_segment (id : UInt8) (full : table.length = 64) :
    quantHeader table id = segmentBytes 0xdb (id :: table) := by
  unfold quantHeader segmentBytes
  rw [List.length_cons, full]
  rfl

theorem huffmanHeader_segment (id tableClass : UInt8) :
    huffmanHeader table id tableClass = segmentBytes 0xc4 ((tableClass <<< 4 ||| id) :: table) := by
  unfold huffmanHeader segmentBytes
  rw [List.length_cons, Nat.add_comm 3]
  rfl

theorem jfifHeader_segment : jfifHeader = segmentBytes 0xe0 (jfifHeader.drop 4) := by
  decide +kernel

theorem restartHeader_segment (interval : UInt16) (some_ : interval.toNat ≠ 0) :
    restartHeader interval.toNat = segmentBytes 0xdd (bytesU16 interval.toNat) :=
  if_pos some_

def frameBody (type : UInt8) (width height : Nat) : List UInt8 :=
  [8] ++ bytesU16 height ++ bytesU16 width ++
    [3, 1, if type = 0 then 0x21 else 0x22, 0, 2, 0x11, 1, 3, 0x11, 1]

theorem startOfFrame_segment (type : UInt8) (width height : Nat) :
    startOfFrame type width height = segmentBytes 0xc0 (frameBody type width height) := rfl

theorem startOfScan_segment : startOfScan = segmentBytes 0xda (startOfScan.drop 4) := by
  decide +kernel

/-- The components that a rebuilt header declares. -/
def rebuiltComponents (type : UInt8) : List Component :=
  [⟨1, if type = 0 then 0x21 else 0x22, 0⟩, ⟨2, 0x11, 1⟩, ⟨3, 0x11, 1⟩]

theorem read_jfif (fuel : Nat) (header : Header) (rest : List UInt8) :
    readSegments (fuel + 1) header (jfifHeader ++ rest) = readSegments fuel header rest := by
  have known : interpret 0xe0 (jfifHeader.drop 4) header = some header := rfl
  rw [jfifHeader_segment]
  exact readSegments_segment fuel (by decide) (by decide) known

theorem read_huffman (fuel : Nat) (header : Header) (id tableClass : UInt8) (rest : List UInt8)
    (short : table.length < 65533) :
    readSegments (fuel + 1) header (huffmanHeader table id tableClass ++ rest) =
      readSegments fuel header rest := by
  have known : interpret 0xc4 ((tableClass <<< 4 ||| id) :: table) header = some header := rfl
  rw [huffmanHeader_segment]
  exact readSegments_segment fuel (by decide) (by rw [List.length_cons]; omega) known

theorem read_table (fuel : Nat) (header : Header) (id : UInt8) (rest : List UInt8)
    (full : table.length = 64) :
    readSegments (fuel + 1) header (quantHeader table id ++ rest) =
      readSegments fuel { header with tables := (id, table) :: header.tables } rest := by
  rw [quantHeader_segment id full]
  exact readSegments_segment fuel (by decide) (by rw [List.length_cons, full]; omega)
    (interpret_table id full)

/-- Without an interval there is no segment for it, and one step more is left. -/
theorem read_restart (fuel : Nat) (header : Header) (interval : UInt16) (rest : List UInt8)
    (unset : header.restartInterval = 0) :
    ∃ left, fuel ≤ left ∧
      readSegments (fuel + 1) header (restartHeader interval.toNat ++ rest) =
        readSegments left { header with restartInterval := interval.toNat } rest := by
  by_cases none_ : interval.toNat = 0
  · refine ⟨fuel + 1, Nat.le_succ _, ?_⟩
    rw [restartHeader, if_neg (not_not.2 none_), none_, ← unset]
    rfl
  · refine ⟨fuel, Nat.le_refl _, ?_⟩
    have known : interpret 0xdd (bytesU16 interval.toNat) header =
        some { header with restartInterval := interval.toNat } := by
      change some { header with restartInterval := number _ _ } = _
      rw [number_bytes interval.toNat_lt]
    rw [restartHeader_segment interval none_]
    exact readSegments_segment fuel (by decide) (by rw [length_bytesU16]; omega) known

theorem read_frame (fuel : Nat) (header : Header) (type : UInt8) (rest : List UInt8)
    {width height : Nat} (wide : width < 65536) (high : height < 65536) :
    readSegments (fuel + 1) header (startOfFrame type width height ++ rest) =
      readSegments fuel { header with height, width, components := rebuiltComponents type }
        rest := by
  have known : interpret 0xc0 (frameBody type width height) header =
      some { header with height, width, components := rebuiltComponents type } := by
    change some { header with height := number _ _, width := number _ _, components := _ } = _
    rw [number_bytes high, number_bytes wide]
    rfl
  have short : (frameBody type width height).length + 2 < 65536 := by
    change 17 < 65536
    omega
  rw [startOfFrame_segment]
  exact readSegments_segment fuel (by decide) short known

theorem read_scan (fuel : Nat) (header : Header) (rest : List UInt8) :
    readSegments (fuel + 1) header (startOfScan ++ rest) = some (header, rest) := by
  rw [startOfScan_segment]
  exact readSegments_scan fuel (by decide)

/-- What a decoder reads of the header that is rebuilt. -/
def rebuiltHeader (type : UInt8) (width height : Nat) (luma chroma : List UInt8)
    (restartInterval : Nat) : Header where
  tables := [(1, chroma), (0, luma)]
  restartInterval
  width
  height
  components := rebuiltComponents type

theorem read_jpegHeader (type : UInt8) (interval : UInt16) (rest : List UInt8) {width height : Nat}
    (lumaFull : luma.length = 64) (chromaFull : chroma.length = 64) (wide : width < 65536)
    (high : height < 65536) :
    readFile (jpegHeader type width height luma chroma interval.toNat ++ rest) =
      some (rebuiltHeader type width height luma chroma interval.toNat, rest) := by
  unfold jpegHeader
  simp only [List.append_assoc]
  generalize later : startOfFrame type width height ++ _ = segments
  have length : (jfifHeader ++ (quantHeader luma 0 ++ (quantHeader chroma 1 ++
      (restartHeader interval.toNat ++ segments)))).length = ((quantHeader luma 0 ++
      (quantHeader chroma 1 ++ (restartHeader interval.toNat ++ segments))).length + 8) + 10 := by
    rw [List.length_append, Nat.add_comm]
    rfl
  change readSegments (jfifHeader ++ _).length {} (jfifHeader ++ _) = _
  rw [length]
  generalize List.length _ + 8 = fuel
  rw [read_jfif, read_table _ _ 0 _ lumaFull, read_table _ _ 1 _ chromaFull]
  obtain ⟨left, enough, read⟩ := read_restart (fuel + 6) { tables := [(1, chroma), (0, luma)] }
    interval segments rfl
  refine read.trans ?_
  obtain ⟨more, rfl⟩ := Nat.exists_eq_add_of_le' (Nat.le_trans (Nat.le_add_left 6 _) enough)
  have lumaAc : jpegHuffmanLumaAc.length < 65533 := by decide +kernel
  have chromaAc : jpegHuffmanChromaAc.length < 65533 := by decide +kernel
  rw [← later, read_frame _ _ type _ wide high, read_huffman _ _ 0 0 _ (by decide),
    read_huffman _ _ 0 1 _ lumaAc, read_huffman _ _ 1 0 _ (by decide),
    read_huffman _ _ 1 1 _ chromaAc, read_scan]
  rfl

end Reading

section Frames
variable {setup : Setup} {frame : JpegFrame} {packet : SentPacket} {decoder : Depacketizer Assembly}

theorem Checked.holds {arrived : Arrival} {base : Assembly} (checked : Checked decoder arrived base)
    (ordered : arrived = .inOrder) (holds : Holds frame chunks decoder.assembly) :
    Holds frame chunks base := by
  cases checked with
  | inOrder _ => exact ⟨holds.waiting, holds.timestamp, holds.bytes⟩
  | outOfOrder apart _ => exact absurd ordered apart

/-- Only the first packet of a frame can bring tables. -/
theorem readable_later (later : packet.earlier ≠ []) : ¬ packet.frame.Unreadable packet.offset := by
  rintro ⟨sends, _⟩
  rw [JpegFrame.sendsTables, Bool.and_eq_true, beq_iff_eq] at sends
  exact later (offset_eq_zero.1 sends.2)

/-- A packet that was accepted leaves the frame with its chunk, or the frame in the queue. -/
theorem taken_packet (placed : packet.Placed) {assembly : Assembly}
    (holds : Holds packet.frame (packet.earlier ++ [packet.chunk]) assembly) :
    (packet.later = [] → (packet.finish assembly).mjpegUnits.getLast? = some packet.frame.unit) ∧
      (packet.later ≠ [] →
        Holds packet.frame (packet.earlier ++ [packet.chunk]) (packet.finish assembly)) := by
  constructor
  · intro last
    rw [holds.finished placed last]
    exact List.getLast?_concat
  · intro goes_on
    rw [finish_unmarked goes_on]
    exact holds

theorem take_first (placed : packet.Placed) (first : packet.earlier = [])
    (readable : ¬ packet.frame.Unreadable packet.offset) (assembly : Assembly) :
    ∃ started, packet.take assembly = packet.finish started ∧
      Holds packet.frame (packet.earlier ++ [packet.chunk]) started := by
  refine ⟨startMjpegFrame packet.fields packet.frame.timestamp assembly, ?_, ?_⟩
  · rw [SentPacket.take, if_neg readable, if_pos first]
  · rw [first]
    exact started_holds placed first assembly

theorem take_later (later : packet.earlier ≠ []) {assembly : Assembly}
    (holds : Holds packet.frame packet.earlier assembly) :
    ∃ appended, packet.take assembly = packet.finish appended ∧
      Holds packet.frame (packet.earlier ++ [packet.chunk]) appended := by
  have continues : packet.Continues assembly := ⟨holds.waiting, holds.timestamp⟩
  refine ⟨_, ?_, holds.appended⟩
  rw [SentPacket.take, if_neg (readable_later later), if_neg later, if_pos continues]

theorem receive_going {datagram : List UInt8}
    (going : (handleRtpPacket setup datagram decoder).1 = true) :
    receive (handleRtpPacket setup) { decoder } datagram =
      { decoder := (handleRtpPacket setup datagram decoder).2 } := by
  unfold receive
  rw [if_pos rfl, going]

/-- The rest of a frame, behind its first packets. -/
theorem rest_queued (mjpeg : setup.codec = .mjpeg) (header : Nat → HeaderOptions) (index : Nat)
    (sequence : UInt16) {earlier chunks : List Chunk} (whole : frame.chunks = earlier ++ chunks)
    (begun : earlier ≠ []) (goes_on : chunks ≠ []) (known : decoder.reassembly.haveSequence = true)
    (expected : decoder.reassembly.expectedSequence = sequence)
    (holds : Holds frame earlier decoder.assembly) :
    (((datagrams header sequence index (packetsFrom frame earlier chunks)).foldl
      (receive (handleRtpPacket setup)) { decoder }).decoder.assembly.mjpegUnits.getLast?) =
        some frame.unit := by
  induction chunks generalizing earlier decoder sequence index with
  | nil => exact absurd rfl goes_on
  | cons chunk later ih =>
    let packet : SentPacket := ⟨frame, earlier, chunk, later⟩
    have placed : packet.Placed := whole
    obtain ⟨going, handled⟩ := handle_packet mjpeg placed sequence (header index) decoder
    have ordered : arrival decoder.reassembly sequence frame.timestamp = .inOrder :=
      (arrival_eq_inOrder _ _ _).2 fun _ => expected.symm
    obtain ⟨_, accepted⟩ := handled.resolve_left fun late => by
      cases ordered.symm.trans late.1
    obtain ⟨base, taken, checked⟩ := accepted.assembly
    have held : Holds packet.frame packet.earlier base := Checked.holds checked ordered holds
    obtain ⟨appended, same, holding⟩ := take_later begun held
    obtain ⟨finishes, continues⟩ := taken_packet placed holding
    rw [← same, ← taken] at finishes continues
    rw [packetsFrom, datagrams, List.foldl_cons, receive_going going]
    by_cases last : later = []
    · rw [last]
      exact finishes last
    · have front : earlier ++ [chunk] ≠ [] :=
        List.append_ne_nil_of_right_ne_nil _ (List.cons_ne_nil _ _)
      exact ih (index + 1) (sequence + 1) (by rw [whole, List.append_assoc]; rfl) front last
        accepted.known accepted.expected (continues last)

/-- A frame of which nothing is lost is queued as a file, once its first packet is accepted. -/
theorem frame_queued (mjpeg : setup.codec = .mjpeg) (header : Nat → HeaderOptions)
    (sequence : UInt16) (readable : ¬ frame.Unreadable 0)
    (accepts : arrival decoder.reassembly sequence frame.timestamp ≠ .late) :
    (afterFrame setup header sequence frame decoder).assembly.mjpegUnits.getLast? =
      some frame.unit := by
  unfold afterFrame JpegFrame.packets
  cases whole : frame.chunks with
  | nil => exact absurd whole frame.filled
  | cons chunk later =>
    let packet : SentPacket := ⟨frame, [], chunk, later⟩
    have placed : packet.Placed := whole
    obtain ⟨going, handled⟩ := handle_packet mjpeg placed sequence (header 0) decoder
    obtain ⟨_, accepted⟩ := handled.resolve_left fun late => accepts late.1
    obtain ⟨base, taken, _⟩ := accepted.assembly
    obtain ⟨started, same, holding⟩ := take_first placed rfl readable base
    obtain ⟨finishes, continues⟩ := taken_packet placed holding
    rw [← same, ← taken] at finishes continues
    rw [packetsFrom, datagrams, List.foldl_cons, receive_going going]
    by_cases last : later = []
    · rw [last]
      exact finishes last
    · exact rest_queued mjpeg header 1 (sequence + 1) whole (List.cons_ne_nil _ _) last
        accepted.known accepted.expected (continues last)

end Frames

/-- Whether a scaled table has the same quantisers row by row and in zig-zag order. -/
def orderIrrelevant (q : UInt8) (standard : List UInt8) : Bool :=
  (List.range 8).all fun across => (List.range 8).all fun down =>
    quantiserAt (jpegQuantTable q standard) across down ==
      byteAt (jpegQuantTable q standard) (down * 8 + across)

/-- At the lowest quality all quantisers are 255. -/
theorem order_relevant : ∀ q : Fin 100, 1 ≤ q.val →
    orderIrrelevant (UInt8.ofNat q.val) jpegLumaQuantizer = (q.val == 1) := by
  decide +kernel

theorem order_irrelevant_at_one : orderIrrelevant 1 jpegLumaQuantizer = true ∧
    orderIrrelevant 1 jpegChromaQuantizer = true := by
  decide +kernel

theorem orderIrrelevant_iff {q : UInt8} {standard : List UInt8} :
    orderIrrelevant q standard = true ↔
      ∀ across < 8, ∀ down < 8, quantiserAt (jpegQuantTable q standard) across down =
      byteAt (jpegQuantTable q standard) (down * 8 + across) := by
  simp only [orderIrrelevant, List.all_eq_true, List.mem_range, beq_iff_eq]

section Meaning
variable {frame : JpegFrame}

theorem sentTables_full (baseline : Baseline frame) :
    (frame.sentTables 0).1.length = 64 ∧ (frame.sentTables 0).2.length = 64 := by
  unfold JpegFrame.sentTables
  split
  · rename_i sends
    have high : 128 ≤ frame.q := by simpa [JpegFrame.sendsTables] using sends
    have length : frame.tables.length = 128 := by
      rcases baseline.quality with ⟨_, low⟩ | ⟨_, _, length⟩
      · exact absurd (UInt8.le_trans high low) (by decide)
      · exact length
    simp [length]
  · exact ⟨(jpegQuantTable_entries _ _).1, (jpegQuantTable_entries _ _).1⟩

theorem eight_times (blocks : UInt8) : blocks.toNat * 8 < 65536 := by
  have small := blocks.toNat_lt
  omega

/-- The header of the rebuilt file, as a decoder reads it. -/
def fileHeader (frame : JpegFrame) : Header :=
  rebuiltHeader frame.type (frame.width.toNat * 8) (frame.height.toNat * 8) (frame.sentTables 0).1
    (frame.sentTables 0).2 (frame.restart.getD 0).toNat

theorem read_file (baseline : Baseline frame) :
    readFile frame.file = some (fileHeader frame, frame.entropy ++ endOfImage) := by
  obtain ⟨lumaFull, chromaFull⟩ := sentTables_full baseline
  have read := read_jpegHeader frame.type (frame.restart.getD 0) (frame.entropy ++ endOfImage)
    lumaFull chromaFull (eight_times frame.width) (eight_times frame.height)
  unfold JpegFrame.file JpegFrame.header
  rw [if_neg baseline.width, if_neg baseline.height, List.append_assoc]
  exact read

theorem faithful_iff (baseline : Baseline frame) :
    Faithful frame frame.file ↔ Declares frame (fileHeader frame) := by
  have read := read_file baseline
  constructor
  · rintro ⟨header, found, declares⟩
    cases read.symm.trans found
    exact declares
  · exact fun declares => ⟨_, read, declares⟩

/-- The tables are all that can be declared wrongly. -/
theorem declares_iff : Declares frame (fileHeader frame) ↔
    (∀ across < 8, ∀ down < 8,
      quantiserAt (frame.sentTables 0).1 across down = lumaQuantiser frame across down) ∧
    ∀ across < 8, ∀ down < 8,
      quantiserAt (frame.sentTables 0).2 across down = chromaQuantiser frame across down := by
  have luma : ∀ across down, declaredQuantiser (fileHeader frame) 0 across down =
      some (quantiserAt (frame.sentTables 0).1 across down) := fun _ _ => rfl
  have chroma : ∀ component ∈ [1, 2], ∀ across down,
      declaredQuantiser (fileHeader frame) component across down =
        some (quantiserAt (frame.sentTables 0).2 across down) := by
    simp only [List.mem_cons, List.not_mem_nil, or_false, forall_eq_or_imp, forall_eq]
    exact ⟨fun _ _ => rfl, fun _ _ => rfl⟩
  constructor
  · intro declares
    refine ⟨fun across wide down high => ?_, fun across wide down high => ?_⟩
    · exact Option.some.inj ((luma across down).symm.trans (declares.luma across wide down high))
    · have second : 1 ∈ [1, 2] := List.mem_cons_self
      exact Option.some.inj ((chroma 1 second across down).symm.trans
        (declares.chroma 1 second across wide down high))
  · rintro ⟨lumaSame, chromaSame⟩
    refine ⟨rfl, rfl, rfl, rfl, fun across wide down high => ?_,
      fun component among across wide down high => ?_⟩
    · rw [luma, lumaSame across wide down high]
    · rw [chroma component among, chromaSame across wide down high]

theorem quantisers_iff (baseline : Baseline frame) :
    Declares frame (fileHeader frame) ↔ 128 ≤ frame.q ∨ frame.q = 1 := by
  rw [declares_iff]
  rcases baseline.quality with ⟨low, most⟩ | ⟨high, _, length⟩
  · have standard : ¬ frame.q ≥ 128 := fun high => absurd (UInt8.le_trans high most) (by decide)
    have tables : frame.sentTables 0 = makeJpegQuantTables frame.q := by
      have unsent : ¬ frame.sendsTables 0 = true := by simp [JpegFrame.sendsTables, standard]
      exact if_neg unsent
    have luma : lumaQuantiser frame = fun across down =>
        byteAt (jpegQuantTable frame.q jpegLumaQuantizer) (down * 8 + across) := by
      funext across down
      exact if_neg standard
    have chroma : chromaQuantiser frame = fun across down =>
        byteAt (jpegQuantTable frame.q jpegChromaQuantizer) (down * 8 + across) := by
      funext across down
      exact if_neg standard
    have number : UInt8.ofNat frame.q.toNat = frame.q := UInt8.ofNat_toNat
    have bound : frame.q.toNat < 100 := Nat.lt_succ_of_le (UInt8.le_iff_toNat_le.1 most)
    have relevant := order_relevant ⟨frame.q.toNat, bound⟩ (UInt8.le_iff_toNat_le.1 low)
    rw [number] at relevant
    rw [tables, luma, chroma, or_iff_right standard]
    refine (and_congr orderIrrelevant_iff.symm orderIrrelevant_iff.symm).trans ?_
    constructor
    · rintro ⟨same, _⟩
      rw [relevant, beq_iff_eq] at same
      exact UInt8.toNat_inj.1 same
    · intro one
      rw [one]
      exact order_irrelevant_at_one
  · have sends : frame.sendsTables 0 = true := by simp [JpegFrame.sendsTables, high]
    have tables : frame.sentTables 0 = (frame.tables.take 64, (frame.tables.drop 64).take 64) :=
      if_pos sends
    have all : (frame.tables.drop 64).take 64 = frame.tables.drop 64 :=
      List.take_of_length_le (by rw [List.length_drop, length])
    have luma : lumaQuantiser frame = quantiserAt (frame.tables.take 64) := by
      funext across down
      exact if_pos high
    have chroma : chromaQuantiser frame = quantiserAt (frame.tables.drop 64) := by
      funext across down
      exact if_pos high
    rw [tables, luma, chroma, all]
    exact ⟨fun _ => .inl high, fun _ => ⟨fun _ _ _ _ => rfl, fun _ _ _ _ => rfl⟩⟩

end Meaning

/-- The rebuilt file means what the sender's frame means just where the tables come in the
first packet, or are the same in every order. -/
theorem headers_faithful_iff {frame : JpegFrame} (baseline : Baseline frame) {setup : Setup}
    (mjpeg : setup.codec = .mjpeg) (header : Nat → HeaderOptions) (sequence : UInt16)
    (decoder : Depacketizer Assembly)
    (accepts : arrival decoder.reassembly sequence frame.timestamp ≠ .late) :
    (∃ unit, (afterFrame setup header sequence frame decoder).assembly.mjpegUnits.getLast? =
        some unit ∧ Faithful frame unit.data) ↔ 128 ≤ frame.q ∨ frame.q = 1 := by
  have readable : ¬ frame.Unreadable 0 := by
    rintro ⟨sends, unread⟩
    have high : 128 ≤ frame.q := by simpa [JpegFrame.sendsTables] using sends
    rcases baseline.quality with ⟨_, low⟩ | ⟨_, precision, length⟩
    · exact absurd (UInt8.le_trans high low) (by decide)
    · exact unread ⟨precision, Nat.le_of_eq length.symm⟩
  have queued := frame_queued mjpeg header sequence readable accepts
  rw [← quantisers_iff baseline, ← faithful_iff baseline]
  constructor
  · rintro ⟨unit, found, faithful⟩
    cases queued.symm.trans found
    exact faithful
  · exact fun faithful => ⟨_, queued, faithful⟩

def mjpegSetup : Setup where
  codec := .mjpeg
  forceX20Header := false
  environment := fun _ => none
  files := fun _ => none
  putPacket := fun _ => .accepted

/-- A frame of 640 by 480 in two packets, with a restart marker. -/
def twoPackets (q : UInt8) (tables : List UInt8) (fit : tables.length < 65536) : JpegFrame where
  timestamp := 3000
  type := 1
  q
  width := 80
  height := 60
  restart := some 4
  tables
  entropy := [1, 2, 3]
  chunks := [{ data := [1, 2], filled := List.cons_ne_nil _ _ },
    { data := [3], filled := List.cons_ne_nil _ _ }]
  known := by decide
  tables_fit := fit
  coded := coded_without_markers (by decide)
  cut := rfl
  filled := List.cons_ne_nil _ _
  offsets := offsets_of_short (by decide)

theorem sent_tables_faithful : ∃ unit,
    (afterFrame mjpegSetup (fun _ => .plain) 65535 (twoPackets 255 (List.replicate 128 7) (by simp))
      { assembly := {} }).assembly.mjpegUnits.getLast? = some unit ∧
    Faithful (twoPackets 255 (List.replicate 128 7) (by simp)) unit.data :=
  (headers_faithful_iff ⟨.inr rfl, by decide, by decide, .inr ⟨by decide, rfl, rfl⟩⟩ rfl _ 65535 _
    (by decide)).2 (.inl (by decide))

/-- The standard tables of half quality are not those that the file has. -/
theorem standard_tables_misplaced : ¬ ∃ unit,
    (afterFrame mjpegSetup (fun _ => .plain) 65535 (twoPackets 50 [] (by decide))
      { assembly := {} }).assembly.mjpegUnits.getLast? = some unit ∧
    Faithful (twoPackets 50 [] (by decide)) unit.data := by
  rintro ⟨unit, found, faithful⟩
  have baseline : Baseline (twoPackets 50 [] (by decide)) :=
    ⟨.inr rfl, by decide, by decide, .inl ⟨by decide, by decide⟩⟩
  have readable : ¬ (twoPackets 50 [] (by decide)).Unreadable 0 := by decide
  have mjpeg : mjpegSetup.codec = .mjpeg := rfl
  have accepts : arrival ({ assembly := {} } : Depacketizer Assembly).reassembly 65535
      (twoPackets 50 [] (by decide)).timestamp ≠ .late := by decide
  have queued := frame_queued mjpeg (fun _ => .plain) 65535 readable accepts
  cases queued.symm.trans found
  have declared := (quantisers_iff baseline).1 ((faithful_iff baseline).1 faithful)
  revert declared
  decide

end Glide.MjpegHeaders
