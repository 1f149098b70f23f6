import Mathlib.Data.List.Nodup
import Glide.MjpegHeaders
import Glide.RtpReception

/-! Frames of Motion JPEG over a network that loses, repeats and reorders packets. The decoder
goes by sequence numbers alone, so that a frame can only be cut when the number of a packet
is taken for that of another one. -/
namespace Glide.MjpegIntegrity
open RtpPackets RtpDepacketizer RockchipMppRtpDecoder MjpegSender Library.Runs
open MjpegHeaders (mjpegSetup twoPackets)
open RtpReception (ComesNext)

/-- A stream of frames, each with a timestamp of its own. -/
structure SentStream where
  frames : List JpegFrame
  distinct : (frames.map (·.timestamp)).Nodup
  firstSequence : UInt16
  header : Nat → HeaderOptions

namespace SentStream
variable (stream : SentStream)

def packets : List SentPacket := stream.frames.flatMap JpegFrame.packets

abbrev Place := Fin stream.packets.length

def packet (place : stream.Place) : SentPacket := stream.packets.get place

def sequence (index : Nat) : UInt16 := stream.firstSequence + UInt16.ofNat index

def datagram (place : stream.Place) : List UInt8 :=
  rtpBytes (stream.header place) ((stream.packet place).rtpPacket (stream.sequence place))

end SentStream

/-- A decoder and the place of the packet that it appended last to its access unit. -/
structure Session where
  decoder : Depacketizer Assembly
  last : Option Nat := none

/-- Whether the packet begins an access unit or goes on with it. -/
def Appends (packet : SentPacket) (arrived : Arrival) (assembly : Assembly) : Prop :=
  arrived ≠ .late ∧ ¬ packet.frame.Unreadable packet.offset ∧
    (packet.earlier = [] ∨ arrived = .inOrder ∧ packet.Continues assembly)

instance (packet : SentPacket) (arrived : Arrival) (assembly : Assembly) :
    Decidable (Appends packet arrived assembly) := by
  unfold Appends
  infer_instance

def arrivalOf (stream : SentStream) (session : Session) (place : stream.Place) : Arrival :=
  arrival session.decoder.reassembly (stream.sequence place) (stream.packet place).frame.timestamp

def receive (setup : Setup) (stream : SentStream) (session : Session) (place : stream.Place) :
    Session where
  decoder := (handleRtpPacket setup (stream.datagram place) session.decoder).2
  last :=
    if Appends (stream.packet place) (arrivalOf stream session place) session.decoder.assembly then
      some place
    else session.last

/-- While an access unit is open, a packet with the expected number that goes on with it was
sent right after the one appended last, and none begins another frame. -/
def GoesOn (stream : SentStream) (session : Session) (place : stream.Place) : Prop :=
  let packet := stream.packet place
  let assembly := session.decoder.assembly
  arrivalOf stream session place = .inOrder → assembly.haveAccessUnit = true →
    ¬ packet.frame.Unreadable packet.offset →
    if packet.earlier = [] then assembly.accessUnitTimestamp = packet.frame.timestamp
    else assembly.accessUnitTimestamp = packet.frame.timestamp → ComesNext session.last place

instance (stream : SentStream) (session : Session) (place : stream.Place) :
    Decidable (GoesOn stream session place) := by
  unfold GoesOn
  infer_instance

/-- The unit is the file of a sent frame, and all packets of the frame arrived. -/
def Whole (stream : SentStream) (arrivals : List stream.Place) (unit : MjpegAccessUnit) : Prop :=
  ∃ frame ∈ stream.frames, unit = frame.unit ∧
    ∀ place, (stream.packet place).frame = frame → place ∈ arrivals

/-! ### The packets of a stream -/

/-- The next packet of a stream goes on with the frame or begins another one. -/
def NextSent (packet next : SentPacket) : Prop :=
  packet.later = [] ∧ next.earlier = [] ∨
    next.frame = packet.frame ∧ next.earlier = packet.earlier ++ [packet.chunk] ∧
      packet.later = next.chunk :: next.later

theorem packetsFrom_chain (frame : JpegFrame) (earlier chunks : List Chunk) :
    (packetsFrom frame earlier chunks).IsChain NextSent := by
  induction chunks generalizing earlier with
  | nil => exact List.isChain_nil
  | cons chunk later ih =>
    cases later with
    | nil => exact List.isChain_singleton _
    | cons following rest =>
      exact List.isChain_cons_cons.2 ⟨.inr ⟨rfl, rfl, rfl⟩, ih (earlier ++ [chunk])⟩

theorem packetsFrom_last (frame : JpegFrame) (earlier chunks : List Chunk) :
    ∀ packet ∈ (packetsFrom frame earlier chunks).getLast?, packet.later = [] := by
  induction chunks generalizing earlier with
  | nil => exact fun packet last => nomatch last
  | cons chunk later ih =>
    cases later with
    | nil =>
      intro packet last
      cases last
      rfl
    | cons following rest =>
      rw [packetsFrom, packetsFrom, List.getLast?_cons_cons]
      exact ih (earlier ++ [chunk])

theorem packets_first (frame : JpegFrame) : ∀ packet ∈ frame.packets.head?, packet.earlier = [] := by
  unfold JpegFrame.packets
  cases frame.chunks with
  | nil => exact fun packet first => nomatch first
  | cons chunk later =>
    intro packet first
    cases first
    rfl

theorem packets_chain (frames : List JpegFrame) :
    (frames.flatMap JpegFrame.packets).IsChain NextSent ∧
      ∀ packet ∈ (frames.flatMap JpegFrame.packets).head?, packet.earlier = [] := by
  induction frames with
  | nil => exact ⟨List.isChain_nil, fun packet first => nomatch first⟩
  | cons frame rest ih =>
    rw [List.flatMap_cons]
    constructor
    · refine List.isChain_append.2 ⟨packetsFrom_chain frame [] frame.chunks, ih.1, ?_⟩
      exact fun packet last next first =>
        .inl ⟨packetsFrom_last frame [] frame.chunks packet last, ih.2 next first⟩
    · intro packet first
      rw [List.head?_append, Option.mem_def, Option.or_eq_some_iff] at first
      rcases first with own | ⟨_, others⟩
      · exact packets_first frame packet own
      · exact ih.2 packet others

/-- A packet of a frame is recognised by what stands before it. -/
theorem packetsFrom_keys (frame : JpegFrame) (earlier chunks : List Chunk) :
    (packetsFrom frame earlier chunks).map (fun packet =>
      (packet.frame.timestamp, packet.earlier.length)) =
      (List.range' earlier.length chunks.length).map fun count => (frame.timestamp, count) := by
  induction chunks generalizing earlier with
  | nil => rfl
  | cons chunk later ih =>
    rw [packetsFrom, List.map_cons, ih, List.length_append, List.length_singleton,
      List.length_cons, List.range'_succ, List.map_cons]

section Stream
variable {stream : SentStream} {place other : stream.Place}

theorem packet_sent (place : stream.Place) :
    (stream.packet place).frame ∈ stream.frames ∧ (stream.packet place).Placed := by
  have inside : stream.packet place ∈ stream.packets := List.get_mem _ _
  obtain ⟨frame, held, among⟩ := List.mem_flatMap.1 inside
  obtain ⟨own, placed⟩ := packet_placed among
  exact ⟨own ▸ held, placed⟩

theorem place_unique (stamped : (stream.packet place).frame = (stream.packet other).frame)
    (behind : (stream.packet place).earlier.length = (stream.packet other).earlier.length) :
    place = other := by
  let key : SentPacket → UInt32 × Nat := fun packet =>
    (packet.frame.timestamp, packet.earlier.length)
  have ofFrame : ∀ frame : JpegFrame, frame.packets.map key =
      (List.range' 0 frame.chunks.length).map fun count => (frame.timestamp, count) :=
    fun frame => packetsFrom_keys frame [] frame.chunks
  have keys : (stream.packets.map key).Nodup := by
    unfold SentStream.packets
    rw [List.map_flatMap, List.nodup_flatMap]
    constructor
    · intro frame _
      rw [ofFrame]
      exact List.Nodup.map (fun _ _ same => congrArg Prod.snd same) List.nodup_range'
    · refine (List.pairwise_map.1 stream.distinct).imp ?_
      intro first second apart held inFirst inSecond
      change held ∈ first.packets.map key at inFirst
      change held ∈ second.packets.map key at inSecond
      rw [ofFrame, List.mem_map] at inFirst inSecond
      obtain ⟨_, _, rfl⟩ := inFirst
      obtain ⟨_, _, same⟩ := inSecond
      exact apart (congrArg Prod.fst same).symm
  have injective := List.nodup_iff_injective_getElem.1 keys
  have bound : ∀ at_ : stream.Place, at_.val < (stream.packets.map key).length := fun at_ => by
    rw [List.length_map]
    exact at_.isLt
  have equal : (⟨place.val, bound place⟩ : Fin (stream.packets.map key).length) =
      ⟨other.val, bound other⟩ := by
    apply injective
    dsimp only
    rw [List.getElem_map, List.getElem_map]
    exact Prod.ext (congrArg JpegFrame.timestamp stamped) behind
  exact Fin.ext (Fin.mk.inj equal)

theorem next_packet (next : other.val = place.val + 1) :
    NextSent (stream.packet place) (stream.packet other) := by
  obtain ⟨index, inside⟩ := other
  subst next
  exact List.isChain_iff_getElem.1 (packets_chain stream.frames).1 place.val inside

/-! ### What is kept from packet to packet -/

/-- The access unit is the frame as far as the packet, and what it takes arrived. -/
structure Gathered (arrivals : List stream.Place) (place : stream.Place) (assembly : Assembly) :
    Prop where
  holds : Holds (stream.packet place).frame
    ((stream.packet place).earlier ++ [(stream.packet place).chunk]) assembly
  arrived : ∀ other, (stream.packet other).frame = (stream.packet place).frame →
    (stream.packet other).earlier.length ≤ (stream.packet place).earlier.length → other ∈ arrivals

/-- The queue holds whole units, and an open access unit is a frame up to the last packet. -/
structure Kept (arrivals : List stream.Place) (last : Option Nat) (assembly : Assembly) :
    Prop where
  whole : ∀ unit ∈ assembly.mjpegUnits, Whole stream arrivals unit
  gathers : assembly.haveAccessUnit = true → ∃ before : stream.Place, last = some before.val ∧
    (stream.packet before).later ≠ [] ∧ Gathered arrivals before assembly

variable {arrivals : List stream.Place} {assembly base : Assembly} {last : Option Nat}

theorem Kept.counted (kept : Kept arrivals last assembly) (counted : Counted) :
    Kept arrivals last (count counted assembly) := by
  cases counted <;>
    exact ⟨kept.whole, fun waits => (kept.gathers waits).imp fun _ ⟨same, going, gathered⟩ =>
      ⟨same, going, ⟨gathered.holds.waiting, gathered.holds.timestamp, gathered.holds.bytes⟩,
        gathered.arrived⟩⟩

theorem Kept.discarded (kept : Kept arrivals last assembly) :
    Kept arrivals last (discard assembly) :=
  ⟨kept.whole, fun waits => nomatch waits⟩

theorem Kept.checked (kept : Kept arrivals last decoder.assembly)
    (checked : Checked decoder arrived base) : Kept arrivals last base := by
  cases checked with
  | inOrder => exact kept.counted .packet
  | outOfOrder _ counted => exact ((kept.counted .packet).counted counted).discarded

/-- With its last packet a frame has arrived as a whole. -/
theorem Gathered.complete (gathered : Gathered arrivals place assembly)
    (ends : (stream.packet place).later = []) :
    Whole stream arrivals (stream.packet place).frame.unit := by
  refine ⟨_, (packet_sent place).1, rfl, fun other same => gathered.arrived other same ?_⟩
  have own := congrArg List.length (packet_sent place).2
  have others := congrArg List.length (packet_sent other).2
  rw [same, own, ends] at others
  simp only [List.length_append, List.length_cons, List.length_nil] at others
  omega

/-- A packet that is appended leaves its frame open, or whole in the queue. -/
theorem Gathered.finished (gathered : Gathered arrivals place assembly)
    (whole : ∀ unit ∈ assembly.mjpegUnits, Whole stream arrivals unit) :
    Kept arrivals (some place.val) ((stream.packet place).finish assembly) := by
  by_cases ends : (stream.packet place).later = []
  · rw [gathered.holds.finished (packet_sent place).2 ends]
    refine ⟨fun unit inside => ?_, fun waits => nomatch waits⟩
    rcases List.mem_append.1 inside with earlier | added
    · exact whole unit (List.mem_of_mem_drop earlier)
    · rw [List.mem_singleton.1 added]
      exact gathered.complete ends
  · rw [finish_unmarked ends]
    exact ⟨whole, fun _ => ⟨place, rfl, ends, gathered⟩⟩

/-- The first packet of a frame finds no other frame to finish. -/
theorem Kept.started (kept : Kept arrivals last base) (inside : place ∈ arrivals)
    (first : (stream.packet place).earlier = [])
    (alone : base.haveAccessUnit = true →
      base.accessUnitTimestamp = (stream.packet place).frame.timestamp) :
    Kept arrivals (some place.val) ((stream.packet place).finish
      (startMjpegFrame (stream.packet place).fields (stream.packet place).frame.timestamp
        base)) := by
  have holds := started_holds (packet_sent place).2 first base
  refine Gathered.finished ⟨by rw [first]; exact holds, fun other same behind => ?_⟩ ?_
  · have firsts : (stream.packet other).earlier.length = (stream.packet place).earlier.length := by
      rw [first] at behind ⊢
      exact Nat.le_zero.1 behind
    exact place_unique same firsts ▸ inside
  · unfold startMjpegFrame
    rw [if_neg fun pending => pending.2.2 (alone pending.1)]
    exact kept.whole

/-- A packet goes on with the frame of the one before it. -/
theorem Kept.continued (kept : Kept arrivals last base) (inside : place ∈ arrivals)
    (continues : (stream.packet place).Continues base) (next : ComesNext last place.val) :
    Kept arrivals (some place.val) ((stream.packet place).finish
      { base with accessUnit := base.accessUnit ++ (stream.packet place).chunk.data }) := by
  obtain ⟨before, rfl, going, gathered⟩ := kept.gathers continues.1
  have follows := next_packet (Option.some.inj next).symm
  obtain ⟨sameFrame, earlier, _⟩ := follows.resolve_left fun ended => going ended.1
  have holds := gathered.holds
  rw [← sameFrame, ← earlier] at holds
  refine Gathered.finished ⟨holds.appended, fun other same behind => ?_⟩ kept.whole
  rcases Nat.eq_or_lt_of_le behind with equal | less
  · exact place_unique same equal ▸ inside
  · rw [earlier, List.length_append] at less
    exact gathered.arrived other (same.trans sameFrame) (Nat.le_of_lt_succ less)

/-- In terms of the access unit that the packet finds. -/
theorem appends_iff (packet : SentPacket) (taken : arrived ≠ .late)
    (checked : Checked decoder arrived base) : Appends packet arrived decoder.assembly ↔
      ¬ packet.frame.Unreadable packet.offset ∧ (packet.earlier = [] ∨ packet.Continues base) := by
  unfold Appends
  cases checked with
  | inOrder ordered =>
    exact ⟨fun appends => ⟨appends.2.1, appends.2.2.imp id And.right⟩,
      fun appends => ⟨taken, appends.1, appends.2.imp id fun continues => ⟨ordered, continues⟩⟩⟩
  | outOfOrder apart counted =>
    exact ⟨fun appends => ⟨appends.2.1, appends.2.2.imp id fun ordered => absurd ordered.1 apart⟩,
      fun appends => ⟨taken, appends.1, appends.2.imp id fun continues => nomatch continues.1⟩⟩

/-- An access unit that is open when a packet is appended was so before, and kept the order. -/
theorem open_in_order (checked : Checked decoder arrived base) (waits : base.haveAccessUnit = true) :
    arrived = .inOrder ∧ decoder.assembly.haveAccessUnit = true ∧
      base.accessUnitTimestamp = decoder.assembly.accessUnitTimestamp := by
  cases checked with
  | inOrder ordered => exact ⟨ordered, waits, rfl⟩
  | outOfOrder apart counted => cases waits

/-- One packet keeps the queue whole and the access unit in step with the frame. -/
theorem kept_receive {setup : Setup} (mjpeg : setup.codec = .mjpeg) {session : Session}
    (inside : place ∈ arrivals) (kept : Kept arrivals session.last session.decoder.assembly)
    (goes_on : GoesOn stream session place) :
    Kept arrivals (receive setup stream session place).last
      (receive setup stream session place).decoder.assembly := by
  obtain ⟨_, ⟨late, _, counted⟩ | ⟨taken, accepted⟩⟩ := handle_packet mjpeg (packet_sent place).2
    (stream.sequence place) (stream.header place) session.decoder
  · have same : (receive setup stream session place).last = session.last :=
      if_neg fun appends => appends.1 late
    rw [same]
    exact counted ▸ (kept.counted .packet).counted .late
  · obtain ⟨base, taking, checked⟩ := accepted.assembly
    have after : (receive setup stream session place).decoder.assembly =
        (stream.packet place).take base := taking
    have found := kept.checked checked
    have appends := appends_iff (stream.packet place) taken checked
    change (Appends _ (arrivalOf stream session place) _ ↔ _) at appends
    have last : (receive setup stream session place).last = if Appends (stream.packet place)
        (arrivalOf stream session place) session.decoder.assembly then some place.val
      else session.last := rfl
    rw [after, last]
    unfold SentPacket.take
    by_cases unreadable : (stream.packet place).frame.Unreadable (stream.packet place).offset
    · rw [if_pos unreadable, if_neg fun own => (appends.1 own).1 unreadable]
      exact found.counted .incomplete
    · rw [if_neg unreadable]
      by_cases first : (stream.packet place).earlier = []
      · rw [if_pos first, if_pos (appends.2 ⟨unreadable, .inl first⟩)]
        refine found.started inside first fun waits => ?_
        obtain ⟨ordered, open_, stamped⟩ := open_in_order checked waits
        have goes := goes_on ordered open_ unreadable
        rw [if_pos first] at goes
        exact stamped.trans goes
      · rw [if_neg first]
        by_cases continues : (stream.packet place).Continues base
        · rw [if_pos continues, if_pos (appends.2 ⟨unreadable, .inr continues⟩)]
          obtain ⟨ordered, open_, stamped⟩ := open_in_order checked continues.1
          have goes := goes_on ordered open_ unreadable
          rw [if_neg first] at goes
          exact found.continued inside continues (goes (stamped.symm.trans continues.2))
        · rw [if_neg continues, if_neg fun own => (appends.1 own).2.elim first continues]
          exact found.counted .incomplete

end Stream

abbrev start : Session := { decoder := { assembly := {} } }

/-- In every run in which no packet is taken for the one after the last, every unit that
is queued is the file of a frame of which every packet arrived. -/
theorem queued_units_whole (setup : Setup) (mjpeg : setup.codec = .mjpeg) (stream : SentStream)
    (arrivals : List stream.Place)
    (meets : Meets (receive setup stream) (GoesOn stream) start arrivals) :
    ∀ unit ∈ (arrivals.foldl (receive setup stream) start).decoder.assembly.mjpegUnits,
      Whole stream arrivals unit := by
  let invariant : Session → Prop := fun session =>
    Kept arrivals session.last session.decoder.assembly
  have fresh : invariant start := ⟨List.forall_mem_nil _, fun waits => nomatch waits⟩
  have kept : invariant (arrivals.foldl (receive setup stream) start) :=
    invariant_over_events arrivals
      (fun session place inside kept goes_on => kept_receive mjpeg inside kept goes_on) fresh meets
  exact kept.whole

theorem packet_type_known : (1 : UInt8) < 64 := by decide

theorem no_tables_fit : ([] : List UInt8).length < 65536 := by decide

theorem packet_data_coded : EntropyCoded [1, 2, 3] := coded_without_markers (by decide)

def onePacket (timestamp : UInt32) : JpegFrame where
  timestamp
  type := 1
  q := 50
  width := 80
  height := 60
  entropy := [1, 2, 3]
  chunks := [{ data := [1, 2, 3], filled := List.cons_ne_nil _ _ }]
  known := packet_type_known
  tables_fit := no_tables_fit
  coded := packet_data_coded
  cut := rfl
  filled := List.cons_ne_nil _ _
  offsets := offsets_of_short (by decide)

def shortStream : SentStream where
  frames := [onePacket 0, twoPackets 50 [] no_tables_fit, onePacket 6000]
  distinct := by decide
  firstSequence := 65535
  header := fun _ => .plain

/-- The second packet of the second frame is lost at first and comes too late. -/
def shortArrivals : List shortStream.Place :=
  [⟨0, by decide⟩, ⟨1, by decide⟩, ⟨3, by decide⟩, ⟨2, by decide⟩]

theorem queued_units_whole_after_loss : Whole shortStream shortArrivals (onePacket 0).unit :=
  queued_units_whole mjpegSetup rfl shortStream shortArrivals (by decide +kernel) _
    (by decide +kernel)

/-! ### A packet with the number of a lost one -/

/-- A frame of two packets and then so many others that the last one bears the number of
the second packet. -/
def aliasStream : SentStream where
  frames := twoPackets 50 [] no_tables_fit ::
    (List.range 65536).map fun index => onePacket (UInt32.ofNat (index + 3001))
  distinct := by
    rw [List.map_cons, List.map_map, List.nodup_cons]
    constructor
    · intro inside
      obtain ⟨index, bound, same⟩ := List.mem_map.1 inside
      have value := congrArg UInt32.toNat same
      rw [List.mem_range] at bound
      change (UInt32.ofNat (index + 3001)).toNat = 3000 at value
      rw [UInt32.toNat_ofNat'] at value
      omega
    · refine List.nodup_range.map_on ?_
      intro first low second high same
      have value := congrArg UInt32.toNat same
      rw [List.mem_range] at low high
      change (UInt32.ofNat (first + 3001)).toNat = (UInt32.ofNat (second + 3001)).toNat at value
      rw [UInt32.toNat_ofNat', UInt32.toNat_ofNat'] at value
      omega
  firstSequence := 0
  header := fun _ => .plain

theorem aliasStream_packets : aliasStream.packets = (twoPackets 50 [] no_tables_fit).packets ++
    (List.range 65536).map fun index =>
      ⟨onePacket (UInt32.ofNat (index + 3001)), [],
        { data := [1, 2, 3], filled := List.cons_ne_nil _ _ }, []⟩ := by
  have singles : ∀ indices : List Nat,
      (indices.map fun index => onePacket (UInt32.ofNat (index + 3001))).flatMap
        JpegFrame.packets = indices.map fun index =>
          ⟨onePacket (UInt32.ofNat (index + 3001)), [],
            { data := [1, 2, 3], filled := List.cons_ne_nil _ _ }, []⟩ := by
    intro indices
    induction indices with
    | nil => rfl
    | cons index rest ih =>
      rw [List.map_cons, List.flatMap_cons, ih]
      rfl
  rw [SentStream.packets, aliasStream, List.flatMap_cons, singles]

theorem aliasStream_length : aliasStream.packets.length = 65538 := by
  rw [aliasStream_packets, List.length_append, List.length_map, List.length_range]
  rfl

def aliasPlace (index : Nat) (inside : index < 65538) : aliasStream.Place :=
  ⟨index, by rw [aliasStream_length]; exact inside⟩

/-- The network delivers the first packet and the last one of the stream. -/
def aliasArrivals : List aliasStream.Place :=
  [aliasPlace 0 (by decide), aliasPlace 65537 (by decide)]

theorem aliasStream_packet (index : Nat) (inside : index < 65538) (packet : SentPacket)
    (held : aliasStream.packets[index]? = some packet) :
    aliasStream.packet (aliasPlace index inside) = packet :=
  Option.some.inj ((List.getElem?_eq_getElem (aliasPlace index inside).isLt).symm.trans held)

/-- The first packet is queued as if it were the whole frame. -/
theorem aliasArrivals_queued : ∃ unit ∈ (aliasArrivals.foldl (receive mjpegSetup aliasStream)
    start).decoder.assembly.mjpegUnits, unit.pts = 3000 := by
  have first := aliasStream_packet 0 (by decide)
    ⟨twoPackets 50 [] (by decide), [], { data := [1, 2], filled := List.cons_ne_nil _ _ },
      [{ data := [3], filled := List.cons_ne_nil _ _ }]⟩ (by rw [aliasStream_packets]; rfl)
  have last := aliasStream_packet 65537 (by decide)
    ⟨onePacket (UInt32.ofNat (65535 + 3001)), [],
      { data := [1, 2, 3], filled := List.cons_ne_nil _ _ }, []⟩ (by
      rw [aliasStream_packets, List.getElem?_append_right (by decide), List.getElem?_map]
      change Option.map _ (List.range 65536)[65535]? = _
      rw [List.getElem?_range (by decide)]
      rfl)
  simp only [aliasArrivals, List.foldl_cons, List.foldl_nil, receive, SentStream.datagram, first,
    last]
  decide +kernel

/-- The second packet of the frame never arrived. -/
theorem aliased_packet_cuts_frame : ¬ ∀ (stream : SentStream) (arrivals : List stream.Place),
    ∀ unit ∈ (arrivals.foldl (receive mjpegSetup stream) start).decoder.assembly.mjpegUnits,
      Whole stream arrivals unit := by
  intro claimed
  obtain ⟨unit, queued, stamped⟩ := aliasArrivals_queued
  obtain ⟨frame, held, rfl, arrived⟩ := claimed aliasStream aliasArrivals unit queued
  have second := aliasStream_packet 1 (by decide)
    ⟨twoPackets 50 [] (by decide), [{ data := [1, 2], filled := List.cons_ne_nil _ _ }],
      { data := [3], filled := List.cons_ne_nil _ _ }, []⟩ (by rw [aliasStream_packets]; rfl)
  have own : (aliasStream.packet (aliasPlace 1 (by decide))).frame = frame := by
    refine List.inj_on_of_nodup_map aliasStream.distinct (packet_sent _).1 held ?_
    rw [second]
    exact stamped.symm
  have inside : 1 ∈ aliasArrivals.map Fin.val := List.mem_map.2 ⟨_, arrived _ own, rfl⟩
  exact absurd inside (by decide)

end Glide.MjpegIntegrity
