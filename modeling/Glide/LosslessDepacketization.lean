import Glide.NalIntegrity
import Glide.PictureIntegrity

/-! A stream without loss at the Rockchip decoder. Packet by packet the decoder
follows the sender: what is complete has been submitted or waits for the marker,
and what is open is in the fragment buffer. -/
namespace Glide.LosslessDepacketization
open RtpPackets NalPayloads RtpDepacketizer NalAssembler RtpSender RtpReception
open RockchipMppRtpDecoder NalIntegrity PictureIntegrity Library.Runs Piece

def others (codec : NalCodec) (nals : List (List UInt8)) : List (List UInt8) :=
  nals.filter fun nal => !isVcl codec nal

@[simp] theorem others_append (codec : NalCodec) (front rest : List (List UInt8)) :
    others codec (front ++ rest) = others codec front ++ others codec rest :=
  List.filter_append ..

/-- The slices of an access unit in one packet, unless there are none. -/
def pictureOutput (codec : NalCodec) (nals : List (List UInt8)) (timestamp : UInt32) : List Output :=
  if slices codec nals = [] then [] else [.unit (slices codec nals) timestamp]

def nalOutputs (codec : NalCodec) (nals : List (List UInt8)) (timestamp : UInt32) : List Output :=
  (others codec nals).map fun nal => .nal nal timestamp

def unitOutputs (unit : SentUnit codec) : List Output :=
  nalOutputs codec unit.nals unit.timestamp ++ pictureOutput codec unit.nals unit.timestamp

/-- What the decoder submits of an access unit: every NAL unit that is no slice in a
packet of its own, then the slices in one Annex-B packet. -/
def unitSubmissions (unit : SentUnit codec) : List Submission :=
  ((others codec unit.nals).map fun nal => ⟨startCode ++ nal, unit.timestamp⟩) ++
    if slices codec unit.nals = [] then []
    else [⟨annexB (slices codec unit.nals), unit.timestamp⟩]

/-! ### What one packet delivers -/

/-- Whatever waits has this timestamp. -/
def WaitsAt (timestamp : UInt32) (assembler : Assembler) : Prop :=
  assembler.pending = [] ∨ assembler.timestamp = timestamp

theorem queueNal_exact (codec : NalCodec) (filled : nal ≠ [])
    (at_time : WaitsAt timestamp assembler) :
    (assembler.queueNal (policy codec) nal timestamp).pending =
        assembler.pending ++ slices codec [nal] ∧
      (assembler.queueNal (policy codec) nal timestamp).outputs =
        assembler.outputs ++ nalOutputs codec [nal] timestamp ∧
      WaitsAt timestamp (assembler.queueNal (policy codec) nal timestamp) := by
  have stays : assembler.turnTo (policy codec) timestamp = assembler :=
    if_neg fun turns => at_time.elim turns.1 turns.2
  have keeps : (policy codec).keeps nal = isVcl codec nal := rfl
  unfold Assembler.queueNal
  rw [if_neg filled, stays, keeps]
  cases slice : isVcl codec nal with
  | true => exact ⟨by simp [slices, slice], by simp [nalOutputs, others, slice], .inr rfl⟩
  | false => exact ⟨by simp [slices, slice], by simp [nalOutputs, others, slice], at_time⟩

theorem queueNals_exact (codec : NalCodec) (filled : ∀ nal ∈ nals, nal ≠ [])
    (at_time : WaitsAt timestamp assembler) :
    (assembler.queueNals (policy codec) timestamp nals).pending =
        assembler.pending ++ slices codec nals ∧
      (assembler.queueNals (policy codec) timestamp nals).outputs =
        assembler.outputs ++ nalOutputs codec nals timestamp ∧
      WaitsAt timestamp (assembler.queueNals (policy codec) timestamp nals) := by
  induction nals generalizing assembler with
  | nil => exact ⟨(List.append_nil _).symm, (List.append_nil _).symm, at_time⟩
  | cons nal rest ih =>
    rw [List.forall_mem_cons] at filled
    obtain ⟨pending, outputs, still⟩ := queueNal_exact codec filled.1 at_time
    obtain ⟨all, made, after⟩ := ih filled.2 still
    refine ⟨?_, ?_, after⟩
    · change ((assembler.queueNal (policy codec) nal timestamp).queueNals (policy codec) timestamp
        rest).pending = _
      rw [all, pending, List.append_assoc, ← slices_append, List.singleton_append]
    · change ((assembler.queueNal (policy codec) nal timestamp).queueNals (policy codec) timestamp
        rest).outputs = _
      rw [made, outputs, List.append_assoc, nalOutputs, nalOutputs, nalOutputs, ← List.map_append,
        ← others_append, List.singleton_append]

/-- The marker sends out the slices that wait. -/
theorem flush_exact (codec : NalCodec) (waits : assembler.pending = slices codec nals)
    (at_time : WaitsAt timestamp assembler) :
    assembler.flush.pending = [] ∧
      assembler.flush.outputs = assembler.outputs ++ pictureOutput codec nals timestamp := by
  unfold Assembler.flush pictureOutput
  by_cases idle : assembler.pending = []
  · rw [if_pos idle, if_pos (waits.symm.trans idle)]
    exact ⟨idle, (List.append_nil _).symm⟩
  · rw [if_neg idle, if_neg (mt waits.trans idle), at_time.resolve_left idle, waits]
    exact ⟨rfl, rfl⟩

/-! ### One packet after another -/

/-- The assembler's decoder takes in a packet with this sequence number. -/
def absorbPacket (codec : NalCodec) (tracked : Depacketizer Assembler) (sequence : UInt16)
    (packet : SentPacket) : Depacketizer Assembler :=
  (handlePacket (policy codec).ops (appendNalPayload (policy codec).ops codec)
    ⟨packet.marker, sequence, packet.timestamp, packet.piece.payload codec⟩ tracked).2

/-- The decoder expects the packet at this index, if it has seen one at all. -/
def Expects (stream : SentStream codec) (index : Nat) (tracked : Depacketizer Assembler) : Prop :=
  tracked.reassembly.haveSequence = true →
    stream.sequence index = tracked.reassembly.expectedSequence

theorem absorbPacket_exact {stream : SentStream codec} {tracked : Depacketizer Assembler}
    (packet : SentPacket) (expects : Expects stream index tracked)
    (valid : packet.piece.Valid codec) (closed : packet.after = [] → packet.piece.Ends)
    (awaits : AwaitsPiece codec packet.piece packet.timestamp tracked.reassembly) :
    Expects stream (index + 1) (absorbPacket codec tracked (stream.sequence index) packet) ∧
      HoldsPiece codec packet.piece packet.timestamp
        (absorbPacket codec tracked (stream.sequence index) packet).reassembly ∧
      (absorbPacket codec tracked (stream.sequence index) packet).assembly =
        tracked.assembly.deliver (policy codec) packet.piece.completes packet.marker
          packet.timestamp := by
  have carries : Carries codec
      ⟨packet.marker, stream.sequence index, packet.timestamp, packet.piece.payload codec⟩
      packet.piece := ⟨valid, rfl, fun marked => closed (List.isEmpty_iff.1 marked)⟩
  have ordered := (arrival_eq_inOrder tracked.reassembly (stream.sequence index)
    packet.timestamp).2 expects
  have checked : checkSequence (policy codec).ops
      ⟨packet.marker, stream.sequence index, packet.timestamp, packet.piece.payload codec⟩ tracked =
        some (expectNext ⟨packet.marker, stream.sequence index, packet.timestamp,
          packet.piece.payload codec⟩ tracked) := by
    unfold checkSequence
    rw [ordered]
  rw [absorbPacket, handlePacket_checked checked]
  obtain ⟨-, next⟩ := appendNalPayload_expects (policy codec).ops codec
    ⟨packet.marker, stream.sequence index, packet.timestamp, packet.piece.payload codec⟩
    (expectNext ⟨packet.marker, stream.sequence index, packet.timestamp,
      packet.piece.payload codec⟩ tracked)
  obtain ⟨delivered, holds⟩ := append_awaited (policy codec) carries (expectNext _ tracked) awaits
  refine ⟨fun _ => ?_, holds, delivered⟩
  rw [next, ← stream.sequence_succ]
  rfl

def absorbFrom (stream : SentStream codec) (index : Nat) (packets : List SentPacket)
    (tracked : Depacketizer Assembler) : Depacketizer Assembler :=
  (packets.zipIdx index).foldl
    (fun tracked packet => absorbPacket codec tracked (stream.sequence packet.2) packet.1) tracked

theorem absorbFrom_append (stream : SentStream codec) (index : Nat)
    (front rest : List SentPacket) (tracked : Depacketizer Assembler) :
    absorbFrom stream index (front ++ rest) tracked =
      absorbFrom stream (index + front.length) rest (absorbFrom stream index front tracked) := by
  rw [absorbFrom, List.zipIdx_append, List.foldl_append]
  rfl

theorem completes_ne_nil {piece : Piece} (valid : piece.Valid codec) :
    ∀ nal ∈ piece.completes, nal ≠ [] := by
  intro nal inside
  cases piece with
  | single own => exact List.mem_singleton.1 inside ▸ valid_nal_ne_nil valid
  | aggregate first second nals => exact valid_nal_ne_nil (valid.2 nal inside).1
  | fragment own earlier chunk later =>
    cases later with
    | nil => exact List.mem_singleton.1 inside ▸ valid_nal_ne_nil valid.1
    | cons following rest => exact absurd inside List.not_mem_nil

/-- The rest of an access unit, from any packet whose fragment is awaited on. -/
theorem absorb_pieces {stream : SentStream codec} {timestamp : UInt32} {pieces : List Piece}
    (before : List (List UInt8)) (adjacent : pieces.IsChain Adjacent) (valid : ∀ piece ∈ pieces, piece.Valid codec)
    (ended : ∀ piece ∈ pieces.getLast?, piece.Ends) (some_left : pieces ≠ [])
    {tracked : Depacketizer Assembler} (expects : Expects stream index tracked)
    (awaits : ∀ piece ∈ pieces.head?, AwaitsPiece codec piece timestamp tracked.reassembly)
    (waits : tracked.assembly.pending = slices codec before)
    (at_time : WaitsAt timestamp tracked.assembly) :
    Expects stream (index + pieces.length)
        (absorbFrom stream index (packetsFrom timestamp before pieces) tracked) ∧
      (absorbFrom stream index (packetsFrom timestamp before pieces) tracked).assembly.pending =
        [] ∧
      (absorbFrom stream index (packetsFrom timestamp before pieces) tracked).assembly.outputs =
        tracked.assembly.outputs ++ nalOutputs codec (pieces.flatMap completes) timestamp ++
          pictureOutput codec (before ++ pieces.flatMap completes) timestamp := by
  induction pieces generalizing index before tracked with
  | nil => exact absurd rfl some_left
  | cons piece rest ih =>
    rw [List.forall_mem_cons] at valid
    obtain ⟨own, further⟩ := valid
    have closed : rest = [] → piece.Ends := by
      rintro rfl
      exact ended piece rfl
    obtain ⟨next, holds, delivered⟩ := absorbPacket_exact ⟨timestamp, before, piece, rest⟩
      expects own closed (awaits piece rfl)
    obtain ⟨pending, outputs, still⟩ := queueNals_exact codec (completes_ne_nil own) at_time
    rw [waits, ← slices_append] at pending
    change Expects stream (index + (rest.length + 1)) (absorbFrom stream (index + 1)
        (packetsFrom timestamp (before ++ piece.completes) rest)
        (absorbPacket codec tracked (stream.sequence index) ⟨timestamp, before, piece, rest⟩)) ∧
      (absorbFrom stream (index + 1) (packetsFrom timestamp (before ++ piece.completes) rest)
        (absorbPacket codec tracked (stream.sequence index)
          ⟨timestamp, before, piece, rest⟩)).assembly.pending = [] ∧
      (absorbFrom stream (index + 1) (packetsFrom timestamp (before ++ piece.completes) rest)
        (absorbPacket codec tracked (stream.sequence index)
          ⟨timestamp, before, piece, rest⟩)).assembly.outputs = _
    generalize absorbPacket codec tracked (stream.sequence index) ⟨timestamp, before, piece, rest⟩ =
      absorbed at next holds delivered ⊢
    cases rest with
    | nil =>
      -- The last packet bears the marker.
      change absorbed.assembly = (tracked.assembly.queueNals (policy codec) timestamp
        piece.completes).flush at delivered
      obtain ⟨none_left, made⟩ := flush_exact codec pending still
      change Expects stream (index + 1) absorbed ∧ absorbed.assembly.pending = [] ∧
        absorbed.assembly.outputs = _
      rw [delivered, none_left, made, outputs, List.flatMap_cons, List.flatMap_nil, List.append_nil]
      exact ⟨next, rfl, rfl⟩
    | cons following later =>
      change absorbed.assembly = tracked.assembly.queueNals (policy codec) timestamp
        piece.completes at delivered
      obtain ⟨first, chain⟩ := List.isChain_cons_cons.1 adjacent
      have awaited : ∀ other ∈ (following :: later).head?,
          AwaitsPiece codec other timestamp absorbed.reassembly := by
        intro other head
        cases head
        exact first.elim awaits_of_starts fun continues => awaits_of_continues continues holds
      obtain ⟨expected, none_left, made⟩ := ih (before ++ piece.completes) chain further
        (fun other last => ended other (by rwa [List.getLast?_cons_cons])) (List.cons_ne_nil _ _)
        next awaited (delivered ▸ pending) (delivered ▸ still)
      refine ⟨?_, none_left, ?_⟩
      · rw [Nat.add_right_comm] at expected
        exact expected
      · have all : (piece :: following :: later).flatMap completes =
            piece.completes ++ (following :: later).flatMap completes := List.flatMap_cons
        rw [made, delivered, outputs, all]
        simp only [nalOutputs, others_append, List.map_append, List.append_assoc]

/-- A whole stream. -/
theorem absorb_units {stream : SentStream codec} (units : List (SentUnit codec))
    {tracked : Depacketizer Assembler} (expects : Expects stream index tracked)
    (idle : tracked.assembly.pending = []) :
    (absorbFrom stream index (units.flatMap SentUnit.packets) tracked).assembly.outputs =
      tracked.assembly.outputs ++ units.flatMap unitOutputs := by
  induction units generalizing index tracked with
  | nil => exact (List.append_nil _).symm
  | cons unit rest ih =>
    obtain ⟨adjacent, starts⟩ := unit.pieces_adjacent_and_start
    obtain ⟨next, none_left, made⟩ := absorb_pieces [] adjacent unit.pieces_valid
      unit.pieces_end unit.pieces_ne_nil expects
      (fun piece first => awaits_of_starts (starts piece first)) idle
      (.inl idle : WaitsAt unit.timestamp tracked.assembly)
    have count : unit.packets.length = unit.pieces.length := length_packetsFrom _ _ _
    rw [List.flatMap_cons, absorbFrom_append, count]
    rw [SentUnit.packets] at *
    rw [ih next none_left, made, unit.pieces_complete, List.nil_append, List.flatMap_cons,
      unitOutputs]
    simp only [List.append_assoc]

/-- All places of a stream in order. -/
theorem absorb_places (stream : SentStream codec) (tracked : Depacketizer Assembler) :
    (List.finRange stream.packets.length).foldl (absorb (policy codec) stream) tracked =
      absorbFrom stream 0 stream.packets tracked := by
  have places : stream.packets.zipIdx = (List.finRange stream.packets.length).map fun place =>
      (stream.packet place, place.val) := by
    refine List.ext_getElem (by simp) ?_
    intro index left right
    simp [SentStream.packet]
  rw [absorbFrom, places, List.foldl_map]
  rfl

/-! ### The decoder that is refused nothing -/

theorem submitPacket_succeeds {setup : Setup} (accepts : ∀ number, setup.putPacket number = .accepted)
    (nals : setup.codec ≠ .mjpeg) (filled : data ≠ []) (seed : Bool) (pts : UInt32)
    (assembly : Assembly) : (submitPacket setup seed data pts assembly).1 = true := by
  unfold submitPacket
  rw [if_neg (not_or.2 ⟨filled, nals⟩), accepts]

theorem injectFirstHeader_succeeds {setup : Setup}
    (accepts : ∀ number, setup.putPacket number = .accepted) (nals : setup.codec ≠ .mjpeg)
    (paths : List String) (assembly : Assembly) :
    (injectFirstHeader setup paths assembly).1 = true := by
  induction paths with
  | nil => rfl
  | cons path rest ih =>
    unfold injectFirstHeader
    split
    · exact ih
    · rename_i header _
      by_cases empty : header = []
      · rw [if_pos empty]
        exact ih
      · rw [if_neg empty]
        dsimp only
        rw [if_pos (submitPacket_succeeds accepts nals empty true 0 assembly)]

theorem injectX20HeaderIfNeeded_succeeds {setup : Setup}
    (accepts : ∀ number, setup.putPacket number = .accepted) (nals : setup.codec ≠ .mjpeg)
    (assembly : Assembly) : (injectX20HeaderIfNeeded setup assembly).1 = true := by
  unfold injectX20HeaderIfNeeded
  split
  · rfl
  · exact injectFirstHeader_succeeds accepts nals _ _

theorem submitNal_succeeds {setup : Setup} (accepts : ∀ number, setup.putPacket number = .accepted)
    (nals : setup.codec ≠ .mjpeg) (filled : nal ≠ []) (timestamp : UInt32) (assembly : Assembly) :
    (submitNal setup nal timestamp assembly).1 = true := by
  have seeded : (injectDetectedHeader setup nal assembly).1 = true := by
    unfold injectDetectedHeader
    split
    · rfl
    · dsimp only
      split
      · exact injectX20HeaderIfNeeded_succeeds accepts nals _
      · rfl
  unfold submitNal
  rw [if_neg filled, andThen, if_pos seeded]
  exact submitPacket_succeeds accepts nals (nalData_ne_nil filled) false timestamp _

/-- A decoder whose packets are all accepted never stops. -/
theorem accepting {setup : Setup} (accepts : ∀ number, setup.putPacket number = .accepted)
    (nals : setup.codec ≠ .mjpeg) : Accepting (ops setup) := by
  constructor
  · intro nal timestamp assembly
    change (queueNal setup nal timestamp assembly).1 = true
    have seeded : (injectForcedHeader setup assembly).1 = true := by
      unfold injectForcedHeader
      split
      · exact injectX20HeaderIfNeeded_succeeds accepts nals _
      · rfl
    unfold queueNal
    by_cases empty : nal = []
    · rw [if_pos empty]
    · rw [if_neg empty, andThen, if_pos seeded]
      split
      · rfl
      · exact submitNal_succeeds accepts nals empty timestamp _
  · intro assembly
    change (flushAccessUnit setup assembly).1 = true
    unfold flushAccessUnit
    split
    · rfl
    · rename_i some_waits
      simp only [Bool.or_eq_true, List.isEmpty_iff, not_or] at some_waits
      exact submitPacket_succeeds accepts nals some_waits.2 false _ assembly

theorem render_unitOutputs (unit : SentUnit codec) :
    (unitOutputs unit).map render = unitSubmissions unit := by
  have single : ∀ nal ∈ others codec unit.nals,
      render (.nal nal unit.timestamp) = ⟨startCode ++ nal, unit.timestamp⟩ := by
    intro nal inside
    obtain ⟨held, other⟩ := List.mem_filter.1 inside
    have passes : isVcl codec nal = false := by simpa using other
    rw [render, nalData_of_other (unit.nals_valid nal held) passes]
  have passed : (nalOutputs codec unit.nals unit.timestamp).map render =
      (others codec unit.nals).map fun nal => ⟨startCode ++ nal, unit.timestamp⟩ := by
    rw [nalOutputs, List.map_map]
    exact List.map_congr_left single
  rw [unitOutputs, unitSubmissions, List.map_append, passed, pictureOutput]
  congr 1
  split <;> rfl

/-- The packets of a stream, fed in order to a Rockchip decoder whose hardware
accepts every packet, come out as the access units that were sent. -/
theorem stream_is_depacketized (codec : NalCodec) (stream : SentStream codec) (setup : Setup)
    (same : setup.codec = .nal codec) (accepts : ∀ number, setup.putPacket number = .accepted) :
    let final := (List.finRange stream.packets.length).foldl (rockchipStep setup stream)
      rockchipStart
    final.running = true ∧
      live final.decoder.assembly = stream.units.flatMap unitSubmissions := by
  have nals : setup.codec ≠ .mjpeg := by
    rw [same]
    exact VideoCodec.noConfusion
  have accepted := accepting accepts nals
  have start : (refinement setup codec same).Agrees rockchipStart { assembly := {} } :=
    ⟨rfl, rfl, rfl, rfl, fun _ => rfl, rfl⟩
  have agrees := related_after_run (List.finRange stream.packets.length)
    (refinement setup codec same |>.receive_agrees accepted stream) start
  rw [← handleRtpPacket_nal setup codec same, absorb_places] at agrees
  obtain ⟨running, -, assembles⟩ := agrees
  refine ⟨running, ?_⟩
  have made : (absorbFrom stream 0 stream.packets { assembly := {} }).assembly.outputs =
      [] ++ stream.units.flatMap unitOutputs := absorb_units stream.units (absurd · Bool.false_ne_true) rfl
  refine assembles.submitted.trans ?_
  rw [made, List.nil_append, List.map_flatMap]
  exact List.flatMap_congr fun unit _ => render_unitOutputs unit

/-- Parameter sets in an aggregate, a slice in three fragments and a single one. -/
def mixedParts : List Part :=
  [.aggregate 24 0 [[0x67, 1], [0x68, 2]], .split [0x65, 1, 2] [[1], [], [2]], .single [0x65, 9]]

theorem mixedParts_valid : ∀ part ∈ mixedParts, part.Valid .h264 := by
  rw [mixedParts, List.forall_mem_cons, List.forall_mem_cons, List.forall_mem_singleton]
  exact ⟨⟨rfl, List.cons_ne_nil _ _, by decide⟩, ⟨by decide, by decide, rfl⟩,
    (by decide : ValidNal .h264 [0x65, 9])⟩

/-- A message after its slice. -/
def lateMessage : List Part := [.single [0x41, 5], .single [0x06, 7]]

theorem lateMessage_valid : ∀ part ∈ lateMessage, part.Valid .h264 := by
  rw [lateMessage, List.forall_mem_cons, List.forall_mem_singleton]
  exact ⟨(by decide : ValidNal .h264 [0x41, 5]), (by decide : ValidNal .h264 [0x06, 7])⟩

def fullHeader : HeaderOptions :=
  { HeaderOptions.plain with
    contributors := [7]
    extension := some (1, [2])
    padding := some [0]
    contributors_le := by decide
    extension_le := by simp
    padding_le := by simp }

/-- The sequence numbers wrap after the first packet. -/
def mixedStream : SentStream .h264 where
  units := [⟨3000, mixedParts, List.cons_ne_nil _ _, mixedParts_valid⟩,
    ⟨6000, lateMessage, List.cons_ne_nil _ _, lateMessage_valid⟩]
  firstSequence := 65535
  header := fun _ => fullHeader

theorem mixedStream_is_depacketized :
    live ((List.finRange mixedStream.packets.length).foldl
        (rockchipStep (plainRockchip .h264) mixedStream) rockchipStart).decoder.assembly =
      [⟨[0, 0, 0, 1, 0x67, 1], 3000⟩, ⟨[0, 0, 0, 1, 0x68, 2], 3000⟩,
        ⟨[0, 0, 0, 1, 0x65, 1, 2, 0, 0, 0, 1, 0x65, 9], 3000⟩, ⟨[0, 0, 0, 1, 0x06, 7], 6000⟩,
        ⟨[0, 0, 0, 1, 0x41, 5], 6000⟩] :=
  (stream_is_depacketized .h264 mixedStream (plainRockchip .h264) rfl fun _ => rfl).2.trans
    (by decide)

end Glide.LosslessDepacketization
