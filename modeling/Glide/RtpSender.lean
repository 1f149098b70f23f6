import Glide.NalPayloads
import Mathlib.Data.List.Chain

/-! A conformant sender. It puts the NAL units of an access unit into packets on
their own, aggregated or split, and the packets of a stream follow each other by
`Follows`, which is all that the receiving side is ever shown to rely on. -/
namespace Glide.RtpSender
open RtpPackets NalPayloads

/-- How the sender carries some NAL units of an access unit. -/
inductive Part where
  | single (nal : List UInt8)
  | aggregate (first second : UInt8) (nals : List (List UInt8))
  | split (nal : List UInt8) (chunks : List (List UInt8))
  deriving DecidableEq, Repr

namespace Part

def nals : Part → List (List UInt8)
  | .single nal => [nal]
  | .aggregate _ _ nals => nals
  | .split nal _ => [nal]

/-- An aggregate's length fields have 16 bits; a split makes at least two fragments. -/
def Valid (codec : NalCodec) : Part → Prop
  | .single nal => ValidNal codec nal
  | .aggregate first _ nals => nalType codec first = aggregateType codec ∧ nals ≠ [] ∧
      ∀ nal ∈ nals, ValidNal codec nal ∧ nal.length ≤ 65535
  | .split nal chunks => ValidNal codec nal ∧ 2 ≤ chunks.length ∧
      chunks.flatten = nalBody codec nal

end Part

/-- What one packet carries. A fragment is placed among the chunks of its NAL unit. -/
inductive Piece where
  | single (nal : List UInt8)
  | aggregate (first second : UInt8) (nals : List (List UInt8))
  | fragment (nal : List UInt8) (earlier : List (List UInt8)) (chunk : List UInt8)
      (later : List (List UInt8))
  deriving DecidableEq, Repr

namespace Piece

def payload (codec : NalCodec) : Piece → List UInt8
  | .single nal => nal
  | .aggregate first second nals => aggregatePayload codec first second nals
  | .fragment nal earlier chunk later =>
    fragmentPayload codec nal earlier.isEmpty later.isEmpty chunk

/-- The NAL units that are complete with this packet. -/
def completes : Piece → List (List UInt8)
  | .single nal => [nal]
  | .aggregate _ _ nals => nals
  | .fragment nal _ _ later => if later.isEmpty then [nal] else []

/-- The NAL units that begin with this packet. -/
def begins : Piece → List (List UInt8)
  | .single nal => [nal]
  | .aggregate _ _ nals => nals
  | .fragment nal earlier _ _ => if earlier.isEmpty then [nal] else []

def Starts : Piece → Prop
  | .fragment _ earlier _ _ => earlier = []
  | _ => True

def Ends : Piece → Prop
  | .fragment _ _ _ later => later = []
  | _ => True

instance (piece : Piece) : Decidable piece.Starts := by
  cases piece <;> unfold Starts <;> infer_instance

def Valid (codec : NalCodec) : Piece → Prop
  | .single nal => ValidNal codec nal
  | .aggregate first _ nals => nalType codec first = aggregateType codec ∧
      ∀ nal ∈ nals, ValidNal codec nal ∧ nal.length ≤ 65535
  | .fragment nal earlier chunk later => ValidNal codec nal ∧
      (earlier ++ chunk :: later).flatten = nalBody codec nal

/-- The next fragment of the same NAL unit. -/
inductive Continues : Piece → Piece → Prop where
  | next (nal : List UInt8) (earlier : List (List UInt8)) (chunk following : List UInt8)
      (later : List (List UInt8)) :
      Continues (.fragment nal earlier chunk (following :: later))
        (.fragment nal (earlier ++ [chunk]) following later)

/-- No packet comes between two fragments of a NAL unit. -/
def Adjacent (piece next : Piece) : Prop := next.Starts ∨ piece.Continues next

end Piece

open Piece

def fragments (nal : List UInt8) (earlier : List (List UInt8)) : List (List UInt8) → List Piece
  | [] => []
  | chunk :: later => .fragment nal earlier chunk later :: fragments nal (earlier ++ [chunk]) later

def Part.pieces : Part → List Piece
  | .single nal => [.single nal]
  | .aggregate first second nals => [.aggregate first second nals]
  | .split nal chunks => fragments nal [] chunks

/-- An access unit and the way it is packetised. -/
structure SentUnit (codec : NalCodec) where
  timestamp : UInt32
  parts : List Part
  filled : parts ≠ []
  valid : ∀ part ∈ parts, part.Valid codec

/-- A packet among the packets of its access unit: the NAL units complete before
it, what it carries and what is still to come. -/
structure SentPacket where
  timestamp : UInt32
  before : List (List UInt8)
  piece : Piece
  after : List Piece
  deriving DecidableEq, Repr

/-- Exactly the last packet of an access unit bears the marker. -/
def SentPacket.marker (packet : SentPacket) : Bool := packet.after.isEmpty

def packetsFrom (timestamp : UInt32) (before : List (List UInt8)) : List Piece → List SentPacket
  | [] => []
  | piece :: after =>
    { timestamp, before, piece, after } :: packetsFrom timestamp (before ++ piece.completes) after

namespace SentUnit

def nals (unit : SentUnit codec) : List (List UInt8) := unit.parts.flatMap Part.nals

def pieces (unit : SentUnit codec) : List Piece := unit.parts.flatMap Part.pieces

def packets (unit : SentUnit codec) : List SentPacket := packetsFrom unit.timestamp [] unit.pieces

end SentUnit

/-- A stream, from any sequence number and with any header fields. -/
structure SentStream (codec : NalCodec) where
  units : List (SentUnit codec)
  firstSequence : UInt16
  header : Nat → HeaderOptions

namespace SentStream

def packets (stream : SentStream codec) : List SentPacket := stream.units.flatMap SentUnit.packets

/-- A place in the stream. The network delivers places in any order, any number of times. -/
abbrev Place (stream : SentStream codec) := Fin stream.packets.length

def packet (stream : SentStream codec) (place : stream.Place) : SentPacket :=
  stream.packets.get place

def sequence (stream : SentStream codec) (index : Nat) : UInt16 :=
  stream.firstSequence + UInt16.ofNat index

def rtpPacket (stream : SentStream codec) (place : stream.Place) : RtpPacket where
  marker := (stream.packet place).marker
  sequence := stream.sequence place
  timestamp := (stream.packet place).timestamp
  payload := (stream.packet place).piece.payload codec

def datagram (stream : SentStream codec) (place : stream.Place) : List UInt8 :=
  rtpBytes (stream.header place) (stream.rtpPacket place)

/-- The timestamps of the access units differ and none of them has 65536 packets. -/
def Conformant (stream : SentStream codec) : Prop :=
  (stream.units.map SentUnit.timestamp).Nodup ∧
    ∀ unit ∈ stream.units, unit.packets.length < 65536

end SentStream

/-- One packet after another in a stream: the next access unit begins, or the
same one goes on. -/
inductive Follows (packet next : SentPacket) : Prop where
  | nextUnit (last : packet.after = []) (first : next.before = []) (starts : next.piece.Starts)
  | sameUnit (same : next.timestamp = packet.timestamp)
      (before : next.before = packet.before ++ packet.piece.completes)
      (after : packet.after = next.piece :: next.after) (adjacent : Adjacent packet.piece next.piece)

/-! ### Pieces -/

theorem payload_ne_nil {piece : Piece} (valid : piece.Valid codec) : piece.payload codec ≠ [] := by
  cases piece with
  | single nal => exact valid_nal_ne_nil valid
  | aggregate first second nals => cases codec <;> exact List.cons_ne_nil _ _
  | fragment nal earlier chunk later => cases codec <;> exact List.cons_ne_nil _ _

private theorem fragments_valid (valid : ValidNal codec nal)
    (joined : (earlier ++ chunks).flatten = nalBody codec nal) :
    ∀ piece ∈ fragments nal earlier chunks, piece.Valid codec := by
  induction chunks generalizing earlier with
  | nil => exact nofun
  | cons chunk later ih =>
    rw [fragments, List.forall_mem_cons]
    exact ⟨⟨valid, joined⟩, ih (by rwa [List.append_assoc])⟩

theorem pieces_valid {part : Part} (valid : part.Valid codec) :
    ∀ piece ∈ part.pieces, piece.Valid codec := by
  cases part with
  | single nal => exact List.forall_mem_singleton.2 valid
  | aggregate first second nals => exact List.forall_mem_singleton.2 ⟨valid.1, valid.2.2⟩
  | split nal chunks => exact fragments_valid valid.1 valid.2.2

private theorem fragments_complete (nal : List UInt8) (earlier : List (List UInt8))
    (chunk : List UInt8) (later : List (List UInt8)) :
    (fragments nal earlier (chunk :: later)).flatMap completes = [nal] := by
  induction later generalizing earlier chunk with
  | nil => rfl
  | cons next rest ih =>
    rw [fragments, List.flatMap_cons, ih]
    rfl

/-- The packets of a part complete its NAL units, each once and in order. -/
theorem pieces_complete {part : Part} (valid : part.Valid codec) :
    part.pieces.flatMap completes = part.nals := by
  cases part with
  | single nal => rfl
  | aggregate first second nals => exact List.append_nil nals
  | split nal chunks =>
    obtain ⟨-, several, -⟩ := valid
    obtain _ | ⟨chunk, later⟩ := chunks
    · simp at several
    · exact fragments_complete nal [] chunk later

private theorem fragments_adjacent (nal : List UInt8) (earlier chunks : List (List UInt8)) :
    (fragments nal earlier chunks).IsChain Adjacent := by
  induction chunks generalizing earlier with
  | nil => exact List.isChain_nil
  | cons chunk later ih =>
    cases later with
    | nil => exact List.isChain_singleton _
    | cons following rest =>
      refine List.isChain_cons_cons.2 ⟨.inr (.next nal earlier chunk following rest), ?_⟩
      exact ih (earlier ++ [chunk])

theorem pieces_adjacent (part : Part) : part.pieces.IsChain Adjacent := by
  cases part with
  | split nal chunks => exact fragments_adjacent nal [] chunks
  | _ => exact List.isChain_singleton _

theorem pieces_start (part : Part) : ∀ piece ∈ part.pieces.head?, piece.Starts := by
  rintro piece first
  cases part with
  | split nal chunks =>
    cases chunks with
    | nil => cases first
    | cons chunk later => cases first; exact rfl
  | _ => cases first; exact trivial

private theorem fragments_end (nal : List UInt8) (earlier chunks : List (List UInt8)) :
    ∀ piece ∈ (fragments nal earlier chunks).getLast?, piece.Ends := by
  induction chunks generalizing earlier with
  | nil => exact nofun
  | cons chunk later ih =>
    cases later with
    | nil =>
      intro piece last
      cases last
      exact rfl
    | cons following rest =>
      rw [fragments, fragments, List.getLast?_cons_cons]
      exact ih (earlier ++ [chunk])

theorem pieces_end (part : Part) : ∀ piece ∈ part.pieces.getLast?, piece.Ends := by
  cases part with
  | split nal chunks => exact fragments_end nal [] chunks
  | _ =>
    intro piece last
    cases last
    exact trivial

theorem pieces_ne_nil {part : Part} (valid : part.Valid codec) : part.pieces ≠ [] := by
  cases part with
  | split nal chunks =>
    obtain ⟨-, several, -⟩ := valid
    cases chunks with
    | nil => simp at several
    | cons chunk later => exact List.cons_ne_nil _ _
  | _ => exact List.cons_ne_nil _ _

namespace SentUnit
variable (unit : SentUnit codec)

theorem pieces_valid : ∀ piece ∈ unit.pieces, piece.Valid codec := by
  intro piece inside
  obtain ⟨part, held, among⟩ := List.mem_flatMap.1 inside
  exact RtpSender.pieces_valid (unit.valid part held) piece among

theorem pieces_complete : unit.pieces.flatMap completes = unit.nals := by
  rw [pieces, nals, List.flatMap_assoc]
  exact List.flatMap_congr fun part inside => RtpSender.pieces_complete (unit.valid part inside)

theorem pieces_adjacent_and_start :
    unit.pieces.IsChain Adjacent ∧ ∀ piece ∈ unit.pieces.head?, piece.Starts := by
  rw [pieces]
  induction unit.parts with
  | nil => exact ⟨List.isChain_nil, nofun⟩
  | cons part rest ih =>
    rw [List.flatMap_cons]
    constructor
    · refine List.isChain_append.2 ⟨RtpSender.pieces_adjacent part, ih.1, ?_⟩
      exact fun _ _ next first => .inl (ih.2 next first)
    · intro piece first
      rw [List.head?_append, Option.mem_def, Option.or_eq_some_iff] at first
      obtain first | ⟨-, first⟩ := first
      · exact pieces_start part piece first
      · exact ih.2 piece first

theorem pieces_ne_nil : unit.pieces ≠ [] := by
  intro empty
  obtain ⟨part, rest, parts⟩ := List.exists_cons_of_ne_nil unit.filled
  have valid := unit.valid part (by rw [parts]; exact List.mem_cons_self)
  rw [pieces, parts, List.flatMap_cons, List.append_eq_nil_iff] at empty
  exact RtpSender.pieces_ne_nil valid empty.1

/-- The last packet of a unit leaves no NAL unit open. -/
theorem pieces_end : ∀ piece ∈ unit.pieces.getLast?, piece.Ends := by
  rw [pieces]
  induction unit.parts with
  | nil => exact nofun
  | cons part rest ih =>
    intro piece last
    rw [List.flatMap_cons, List.getLast?_append, Option.mem_def, Option.or_eq_some_iff] at last
    obtain last | ⟨-, last⟩ := last
    · exact ih piece last
    · exact RtpSender.pieces_end part piece last

end SentUnit

/-! ### Packets -/

private theorem packetsFrom_facts (timestamp : UInt32) (before : List (List UInt8))
    (pieces : List Piece) :
    ∀ packet ∈ packetsFrom timestamp before pieces, packet.timestamp = timestamp ∧
      packet.piece ∈ pieces ∧ (packet.after = [] → packet.piece ∈ pieces.getLast?) ∧
      packet.before ++ packet.piece.completes ++ packet.after.flatMap completes =
        before ++ pieces.flatMap completes := by
  induction pieces generalizing before with
  | nil => exact nofun
  | cons piece after ih =>
    rw [packetsFrom, List.forall_mem_cons]
    refine ⟨⟨rfl, List.mem_cons_self, ?_, ?_⟩, ?_⟩
    · rintro rfl
      exact rfl
    · rw [List.flatMap_cons, List.append_assoc]
    · intro packet inside
      obtain ⟨same, among, last, whole⟩ := ih (before ++ piece.completes) packet inside
      refine ⟨same, List.mem_cons_of_mem _ among, ?_, ?_⟩
      · intro ended
        obtain ⟨next, rest, rfl⟩ := List.exists_cons_of_ne_nil (List.ne_nil_of_mem among)
        rw [List.getLast?_cons_cons]
        exact last ended
      · rw [whole, List.flatMap_cons, List.append_assoc]

private theorem packetsFrom_follow {pieces : List Piece} (adjacent : pieces.IsChain Adjacent)
    (timestamp : UInt32) (before : List (List UInt8)) :
    (packetsFrom timestamp before pieces).IsChain Follows := by
  induction pieces generalizing before with
  | nil => exact List.isChain_nil
  | cons piece after ih =>
    cases after with
    | nil => exact List.isChain_singleton _
    | cons next rest =>
      obtain ⟨first, further⟩ := List.isChain_cons_cons.1 adjacent
      exact List.isChain_cons_cons.2 ⟨.sameUnit rfl rfl rfl first, ih further _⟩

private theorem packetsFrom_last (timestamp : UInt32) (before : List (List UInt8))
    (pieces : List Piece) :
    ∀ packet ∈ (packetsFrom timestamp before pieces).getLast?, packet.after = [] := by
  induction pieces generalizing before with
  | nil => exact nofun
  | cons piece after ih =>
    cases after with
    | nil =>
      intro packet last
      cases last
      rfl
    | cons next rest =>
      rw [packetsFrom, packetsFrom, List.getLast?_cons_cons]
      exact ih (before ++ piece.completes)

theorem length_packetsFrom (timestamp : UInt32) (before : List (List UInt8)) (pieces : List Piece) :
    (packetsFrom timestamp before pieces).length = pieces.length := by
  induction pieces generalizing before with
  | nil => rfl
  | cons piece after ih => exact congrArg (· + 1) (ih _)

namespace SentUnit
variable (unit : SentUnit codec)

theorem nals_valid : ∀ nal ∈ unit.nals, ValidNal codec nal := by
  intro nal inside
  obtain ⟨part, held, among⟩ := List.mem_flatMap.1 inside
  have valid := unit.valid part held
  cases part with
  | single own =>
    rw [List.mem_singleton.1 among]
    exact valid
  | aggregate first second nals => exact (valid.2.2 nal among).1
  | split own chunks =>
    rw [List.mem_singleton.1 among]
    exact valid.1

theorem packets_ne_nil : unit.packets ≠ [] := by
  obtain ⟨piece, after, pieces⟩ := List.exists_cons_of_ne_nil unit.pieces_ne_nil
  rw [packets, pieces]
  exact List.cons_ne_nil _ _

/-- Every packet of a unit bears its timestamp and places its own NAL units among the unit's. -/
theorem packet_facts : ∀ packet ∈ unit.packets, packet.timestamp = unit.timestamp ∧
    packet.piece.Valid codec ∧ (packet.after = [] → packet.piece.Ends) ∧
    packet.before ++ packet.piece.completes ++ packet.after.flatMap completes = unit.nals := by
  intro packet inside
  obtain ⟨same, among, last, whole⟩ :=
    packetsFrom_facts unit.timestamp [] unit.pieces packet inside
  refine ⟨same, unit.pieces_valid packet.piece among,
    fun ended => unit.pieces_end packet.piece (last ended), ?_⟩
  rw [whole, unit.pieces_complete, List.nil_append]

theorem packets_follow : unit.packets.IsChain Follows :=
  packetsFrom_follow unit.pieces_adjacent_and_start.1 _ _

theorem first_packet : ∀ packet ∈ unit.packets.head?, packet.before = [] ∧ packet.piece.Starts := by
  obtain ⟨piece, after, pieces⟩ := List.exists_cons_of_ne_nil unit.pieces_ne_nil
  have starts := unit.pieces_adjacent_and_start.2
  rw [pieces] at starts
  rw [packets, pieces]
  intro packet first
  cases first
  exact ⟨rfl, starts piece rfl⟩

theorem last_packet : ∀ packet ∈ unit.packets.getLast?, packet.after = [] :=
  packetsFrom_last _ _ _

end SentUnit

namespace SentStream

theorem packets_follow_and_start (stream : SentStream codec) :
    stream.packets.IsChain Follows ∧
      ∀ packet ∈ stream.packets.head?, packet.before = [] ∧ packet.piece.Starts := by
  rw [packets]
  induction stream.units with
  | nil => exact ⟨List.isChain_nil, nofun⟩
  | cons unit rest ih =>
    rw [List.flatMap_cons]
    constructor
    · refine List.isChain_append.2 ⟨unit.packets_follow, ih.1, ?_⟩
      intro packet last next first
      obtain ⟨fresh, starts⟩ := ih.2 next first
      exact .nextUnit (unit.last_packet packet last) fresh starts
    · intro packet first
      rw [List.head?_append_of_ne_nil _ unit.packets_ne_nil] at first
      exact unit.first_packet packet first

/-- Adjacent places of a stream hold packets that follow each other. -/
theorem packets_follow (stream : SentStream codec) (index : Nat)
    (inside : index + 1 < stream.packets.length) :
    Follows (stream.packet ⟨index, by omega⟩) (stream.packet ⟨index + 1, inside⟩) :=
  List.isChain_iff_getElem.1 stream.packets_follow_and_start.1 index inside

theorem first_packet (stream : SentStream codec) (inside : 0 < stream.packets.length) :
    (stream.packet ⟨0, inside⟩).before = [] ∧ (stream.packet ⟨0, inside⟩).piece.Starts := by
  apply stream.packets_follow_and_start.2
  rw [List.head?_eq_getElem?]
  exact List.getElem?_eq_getElem inside

/-- Every packet belongs to an access unit of the stream. -/
theorem packet_unit (stream : SentStream codec) (place : stream.Place) :
    ∃ unit ∈ stream.units, stream.packet place ∈ unit.packets :=
  List.mem_flatMap.1 (List.get_mem _ place)

theorem packet_valid (stream : SentStream codec) (place : stream.Place) :
    (stream.packet place).piece.Valid codec := by
  obtain ⟨unit, -, inside⟩ := stream.packet_unit place
  exact (unit.packet_facts _ inside).2.1

/-- A decoder parses the packet that was sent at a place. -/
theorem parse_datagram (stream : SentStream codec) (place : stream.Place) :
    parseRtpPacket (stream.datagram place) = some (stream.rtpPacket place) :=
  parseRtpPacket_rtpBytes _ _ (payload_ne_nil (stream.packet_valid place))

@[simp] theorem sequence_succ (stream : SentStream codec) (index : Nat) :
    stream.sequence index + 1 = stream.sequence (index + 1) := by
  rw [sequence, sequence, UInt16.ofNat_add, UInt16.add_assoc]
  rfl

end SentStream

end Glide.RtpSender
