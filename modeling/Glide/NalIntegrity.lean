import Glide.RtpReception
import Glide.RockchipMppRtpDecoder
import Glide.ImxVpuRtpDecoder
import Mathlib.Data.List.Nodup

/-! The NAL units a decoder hands to the hardware over a network that loses,
duplicates and reorders packets. They are the sender's, unless a fragment follows
a packet that only has the sequence number of the one it should follow. -/
namespace Glide.NalIntegrity
open RtpPackets NalPayloads RtpDepacketizer NalAssembler RtpSender RtpReception Library.Runs

/-- The sender put this NAL unit into one of its access units. -/
def Sent (stream : SentStream codec) (nal : List UInt8) : Prop :=
  ∃ unit ∈ stream.units, nal ∈ unit.nals

/-- A submission consists of NAL units of the sender. -/
def NalsIntact (stream : SentStream codec) (submission : Submission) : Prop :=
  ∃ nals, nals ≠ [] ∧ submission.data = annexB nals ∧ ∀ nal ∈ nals, Sent stream nal

/-- A packet completes NAL units of its access unit. -/
theorem completes_sent (stream : SentStream codec) (place : stream.Place) :
    ∀ nal ∈ (stream.packet place).piece.completes, Sent stream nal := by
  intro nal inside
  obtain ⟨unit, held, among⟩ := stream.packet_unit place
  obtain ⟨-, -, -, whole⟩ := unit.packet_facts _ among
  refine ⟨unit, held, ?_⟩
  rw [← whole]
  exact List.mem_append_left _ (List.mem_append_right _ inside)

theorem sent_valid {stream : SentStream codec} (sent : Sent stream nal) : ValidNal codec nal := by
  obtain ⟨unit, -, inside⟩ := sent
  exact unit.nals_valid nal inside

/-- The decoder follows the stream and holds nothing but its NAL units. -/
structure HoldsSent (policy : Policy) (stream : SentStream codec)
    (tracked : Depacketizer Assembler) (last : Option Nat) : Prop where
  follows : RtpReception.Follows stream tracked.reassembly last
  made : tracked.assembly.MadeOf policy (Sent stream)

theorem holdsSent_initial (policy : Policy) (stream : SentStream codec) :
    HoldsSent policy stream { assembly := {} } none := ⟨⟨rfl, rfl⟩, .initial⟩

/-- Taking in a packet whose fragment comes next adds NAL units of the stream only. -/
theorem holdsSent_absorb {policy : Policy} {stream : SentStream codec}
    {tracked : Depacketizer Assembler} {place : stream.Place}
    (holds : HoldsSent policy stream tracked last)
    (condition : FragmentComesNext stream tracked.reassembly idle last place) :
    HoldsSent policy stream (absorb policy stream tracked place)
      (if accepts tracked.reassembly (stream.rtpPacket place) then some place.val else last) := by
  obtain ⟨late, same⟩ | ⟨taken, follows, base, kept, ends⟩ :=
    absorb_cases policy holds.follows condition
  · rw [late, same]
    exact holds
  · rw [if_pos taken]
    have made : base.MadeOf policy (Sent stream) := by
      cases kept with
      | inOrder => exact holds.made
      | outOfOrder => exact holds.made.discard
    obtain delivered | dropped := ends
    · refine ⟨follows, ?_⟩
      rw [delivered.assembly]
      exact made.deliver (completes_sent stream place) _ _
    · refine ⟨follows, ?_⟩
      rw [dropped.assembly]
      exact made

/-! ### The two decoders -/

/-- Every output of the Rockchip decoder goes out as its NAL units, a start code before each. -/
theorem rockchip_render {stream : SentStream codec} {output : Output}
    (made : output.MadeOf (RockchipMppRtpDecoder.policy codec) (Sent stream)) :
    RockchipMppRtpDecoder.render output = ⟨annexB output.nals, output.timestamp⟩ := by
  cases output with
  | unit units timestamp => rfl
  | nal bytes timestamp =>
    obtain ⟨passes, sent⟩ := made
    rw [RockchipMppRtpDecoder.render, RockchipMppRtpDecoder.nalData_of_other (sent_valid sent) passes,
      Output.nals, annexB_single]
    rfl

theorem nals_of_made {output : Output} (made : output.MadeOf policy held) :
    output.nals ≠ [] ∧ ∀ nal ∈ output.nals, held nal := by
  cases output with
  | nal bytes timestamp => exact ⟨List.cons_ne_nil _ _, List.forall_mem_singleton.2 made.2⟩
  | unit units timestamp => exact made

theorem rockchip_idle (assembler : Assembler) (assembly : RockchipMppRtpDecoder.Assembly)
    (assembles : RockchipMppRtpDecoder.Assembles assembler assembly) :
    assembly.accessUnit.isEmpty = assembler.pending.isEmpty := by
  rw [assembles.bytes, Bool.eq_iff_iff, List.isEmpty_iff, List.isEmpty_iff, annexB_eq_nil]

theorem imx_idle (assembler : Assembler) (assembly : ImxVpuRtpDecoder.Assembly)
    (assembles : ImxVpuRtpDecoder.Assembles assembler assembly) :
    assembly.accessUnit.isEmpty = assembler.pending.isEmpty := by
  rw [assembles.bytes, Bool.eq_iff_iff, List.isEmpty_iff, List.isEmpty_iff, annexB_eq_nil]

/-- What the Rockchip decoder does with one datagram of a stream after another. -/
abbrev rockchipStep (setup : RockchipMppRtpDecoder.Setup) (stream : SentStream codec) :=
  receive (RockchipMppRtpDecoder.handleRtpPacket setup) stream

abbrev rockchipStart : Session RockchipMppRtpDecoder.Assembly := { decoder := { assembly := {} } }

abbrev imxStep (setup : ImxVpuRtpDecoder.Setup) (stream : SentStream codec) :=
  receive (ImxVpuRtpDecoder.handleRtpPacket setup) stream

abbrev imxStart : Session ImxVpuRtpDecoder.Assembly := { decoder := { assembly := {} } }

/-- In every run in which a fragment that is appended comes right after the packet
accepted last, every submission consists of NAL units of the sender. -/
theorem nals_stay_intact (codec : NalCodec) (stream : SentStream codec)
    (arrivals : List stream.Place) :
    (∀ setup : RockchipMppRtpDecoder.Setup, setup.codec = .nal codec →
      Meets (rockchipStep setup stream)
        (WhenFed (FragmentComesNext stream) fun assembly => assembly.accessUnit.isEmpty)
        rockchipStart arrivals →
      ∀ submission ∈ RockchipMppRtpDecoder.live
          (arrivals.foldl (rockchipStep setup stream) rockchipStart).decoder.assembly,
        NalsIntact stream submission) ∧
    (∀ setup : ImxVpuRtpDecoder.Setup, setup.codec = codec →
      Meets (imxStep setup stream)
        (WhenFed (FragmentComesNext stream) fun assembly => assembly.accessUnit.isEmpty)
        imxStart arrivals →
      ∀ submission ∈ (arrivals.foldl (imxStep setup stream) imxStart).decoder.assembly.pushed,
        NalsIntact stream submission) := by
  constructor
  · intro setup same meets submission inside
    rw [rockchipStep, RockchipMppRtpDecoder.handleRtpPacket_nal setup codec same] at meets inside
    obtain ⟨tracked, last, holds, submitted⟩ := outputs_after_run
      (RockchipMppRtpDecoder.refinement setup codec same)
      (HoldsSent (RockchipMppRtpDecoder.policy codec) stream) rockchip_idle
      (fun _ _ _ => holdsSent_absorb) (holdsSent_initial _ _) ⟨rfl, rfl, fun _ => rfl, rfl⟩
      arrivals meets
    obtain ⟨output, among, rfl⟩ := submitted submission inside
    have made := holds.made.outputs output among
    obtain ⟨filled, sent⟩ := nals_of_made made
    exact ⟨output.nals, filled, congrArg Submission.data (rockchip_render made), sent⟩
  · intro setup same meets submission inside
    subst same
    obtain ⟨tracked, last, holds, submitted⟩ := outputs_after_run
      (ImxVpuRtpDecoder.refinement setup) (HoldsSent ImxVpuRtpDecoder.policy stream) imx_idle
      (fun _ _ _ => holdsSent_absorb) (holdsSent_initial _ _) ⟨rfl, rfl, fun _ => rfl, rfl⟩
      arrivals meets
    obtain ⟨output, among, rfl⟩ := submitted submission inside
    obtain ⟨filled, sent⟩ := nals_of_made (holds.made.outputs output among)
    exact ⟨output.nals, filled, rfl, sent⟩

/-- A Rockchip decoder without a seed whose hardware takes every packet. -/
def plainRockchip (codec : NalCodec) : RockchipMppRtpDecoder.Setup where
  codec := .nal codec
  forceX20Header := false
  environment := fun _ => none
  files := fun _ => none
  putPacket := fun _ => .accepted

def plainImx (codec : NalCodec) : ImxVpuRtpDecoder.Setup where
  codec
  pushEncodedFrame := fun _ => true
  decodeAvailable := fun _ => true

def splitUnit : SentUnit .h264 where
  timestamp := 0
  parts := [.split [0x65, 1, 2, 3] [[1], [2], [3]]]
  filled := by decide
  valid := List.forall_mem_singleton.2 ⟨by decide, by decide, rfl⟩

def singleUnit (timestamp : UInt32) : SentUnit .h264 where
  timestamp
  parts := [.single [0x41, 9]]
  filled := nofun
  valid := List.forall_mem_singleton.2 (by decide : ValidNal .h264 [0x41, 9])

/-- A split NAL unit and a single one. -/
def shortStream : SentStream .h264 where
  units := [splitUnit, singleUnit 90]
  firstSequence := 65535
  header := fun _ => .plain

/-- The second fragment is lost at first and comes too late. -/
def shortArrivals : List shortStream.Place :=
  [⟨0, by decide⟩, ⟨2, by decide⟩, ⟨3, by decide⟩, ⟨1, by decide⟩]

theorem nals_stay_intact_after_loss :
    (∀ submission ∈ RockchipMppRtpDecoder.live
        (shortArrivals.foldl (rockchipStep (plainRockchip .h264) shortStream)
          rockchipStart).decoder.assembly,
      NalsIntact shortStream submission) ∧
    ∀ submission ∈
        (shortArrivals.foldl (imxStep (plainImx .h264) shortStream) imxStart).decoder.assembly.pushed,
      NalsIntact shortStream submission :=
  ⟨(nals_stay_intact .h264 shortStream shortArrivals).1 (plainRockchip .h264) rfl (by decide +kernel),
    (nals_stay_intact .h264 shortStream shortArrivals).2 (plainImx .h264) rfl (by decide +kernel)⟩

/-! ### A packet with the number of a lost one -/

/-- A split NAL unit and then so many packets that the last one bears the number
of the second fragment. -/
def aliasStream : SentStream .h264 where
  units := splitUnit :: (List.range 65535).map fun index => singleUnit (UInt32.ofNat (index + 1))
  firstSequence := 0
  header := fun _ => .plain

theorem aliasStream_packets : aliasStream.packets = splitUnit.packets ++
    (List.range 65535).map fun index =>
      { timestamp := UInt32.ofNat (index + 1), before := [], piece := .single [0x41, 9],
        after := [] } := by
  have singles : ∀ indices : List Nat,
      (indices.map fun index => singleUnit (UInt32.ofNat (index + 1))).flatMap SentUnit.packets =
        indices.map fun index =>
          { timestamp := UInt32.ofNat (index + 1), before := [], piece := .single [0x41, 9],
            after := [] } := by
    intro indices
    induction indices with
    | nil => rfl
    | cons index rest ih =>
      rw [List.map_cons, List.flatMap_cons, ih]
      rfl
  rw [SentStream.packets, aliasStream, List.flatMap_cons, singles]

theorem aliasStream_length : aliasStream.packets.length = 65538 := by
  rw [aliasStream_packets, List.length_append, List.length_map, List.length_range]
  rfl

theorem aliasStream_conformant : aliasStream.Conformant := by
  constructor
  · rw [aliasStream, List.map_cons, List.map_map, List.nodup_cons]
    constructor
    · intro inside
      obtain ⟨index, bound, same⟩ := List.mem_map.1 inside
      have value := congrArg UInt32.toNat same
      rw [List.mem_range] at bound
      change (UInt32.ofNat (index + 1)).toNat = 0 at value
      rw [UInt32.toNat_ofNat'] at value
      omega
    · refine List.nodup_range.map_on ?_
      intro first low second high same
      have value := congrArg UInt32.toNat same
      rw [List.mem_range] at low high
      change (UInt32.ofNat (first + 1)).toNat = (UInt32.ofNat (second + 1)).toNat at value
      rw [UInt32.toNat_ofNat', UInt32.toNat_ofNat'] at value
      omega
  · intro unit inside
    rw [aliasStream, List.mem_cons, List.mem_map] at inside
    obtain rfl | ⟨index, -, rfl⟩ := inside
    · decide
    · change 1 < 65536
      decide

def aliasPlace (index : Nat) (inside : index < 65538) : aliasStream.Place :=
  ⟨index, by rw [aliasStream_length]; exact inside⟩

theorem first_inside : 0 < 65538 := by decide

theorem last_inside : 65537 < 65538 := by decide

theorem third_inside : 2 < 65538 := by decide

/-- The network delivers the first fragment, the last packet of the stream and the
third fragment. -/
def aliasArrivals : List aliasStream.Place :=
  [aliasPlace 0 first_inside, aliasPlace 65537 last_inside, aliasPlace 2 third_inside]

theorem aliasArrivals_packets : aliasArrivals.map aliasStream.rtpPacket =
    [⟨false, 0, 0, [0x7c, 0x85, 1]⟩, ⟨true, 1, 65535, [0x41, 9]⟩,
      ⟨true, 2, 0, [0x7c, 0x45, 3]⟩] := by
  have sent : ∀ (index : Nat) (inside : index < 65538) (packet : SentPacket),
      aliasStream.packets[index]? = some packet →
        aliasStream.packet (aliasPlace index inside) = packet := by
    intro index inside packet held
    exact Option.some.inj ((List.getElem?_eq_getElem (aliasPlace index inside).isLt).symm.trans held)
  have first := sent 0 (by decide)
    ⟨0, [], .fragment [0x65, 1, 2, 3] [] [1] [[2], [3]],
      [.fragment [0x65, 1, 2, 3] [[1]] [2] [[3]], .fragment [0x65, 1, 2, 3] [[1], [2]] [3] []]⟩
    (by rw [aliasStream_packets]; rfl)
  have last := sent 65537 (by decide) ⟨65535, [], .single [0x41, 9], []⟩ (by
    rw [aliasStream_packets, List.getElem?_append_right (by decide), List.getElem?_map]
    change Option.map _ (List.range 65535)[65534]? = _
    rw [List.getElem?_range (by decide)]
    rfl)
  have third := sent 2 (by decide) ⟨0, [], .fragment [0x65, 1, 2, 3] [[1], [2]] [3] [], []⟩
    (by rw [aliasStream_packets]; rfl)
  simp only [aliasArrivals, List.map_cons, List.map_nil, SentStream.rtpPacket, first, last, third]
  decide

/-- Both decoders submit the first and the third fragment as a NAL unit. -/
theorem aliasArrivals_submitted :
    ⟨annexB [[0x65, 1, 3]], 0⟩ ∈ RockchipMppRtpDecoder.live
      (aliasArrivals.foldl (rockchipStep (plainRockchip .h264) aliasStream)
        rockchipStart).decoder.assembly ∧
    ⟨annexB [[0x65, 1, 3]], 0⟩ ∈
      (aliasArrivals.foldl (imxStep (plainImx .h264) aliasStream)
        imxStart).decoder.assembly.pushed := by
  have packets := aliasArrivals_packets
  simp only [aliasArrivals, List.map_cons, List.map_nil, List.cons.injEq, and_true] at packets
  obtain ⟨first, last, third⟩ := packets
  constructor
  · simp only [aliasArrivals, List.foldl_cons, List.foldl_nil, receive,
      RockchipMppRtpDecoder.handleRtpPacket, handle_datagram, first, last, third]
    decide +kernel
  · simp only [aliasArrivals, List.foldl_cons, List.foldl_nil, receive,
      ImxVpuRtpDecoder.handleRtpPacket, handle_datagram, first, last, third]
    decide +kernel

/-- That is no NAL unit of the stream, nor several of them: they have other lengths. -/
theorem splice_not_intact : ¬ NalsIntact aliasStream ⟨annexB [[0x65, 1, 3]], 0⟩ := by
  rintro ⟨nals, filled, data, sent⟩
  obtain ⟨nal, rest, rfl⟩ := List.exists_cons_of_ne_nil filled
  have lengths : nal.length = 4 ∨ nal.length = 2 := by
    obtain ⟨unit, held, inside⟩ := sent nal List.mem_cons_self
    rw [aliasStream, List.mem_cons, List.mem_map] at held
    obtain rfl | ⟨index, -, rfl⟩ := held
    · rw [List.mem_singleton.1 inside]
      exact .inl rfl
    · rw [List.mem_singleton.1 inside]
      exact .inr rfl
  have total := congrArg List.length data
  change 7 = (annexB (nal :: rest)).length at total
  rw [length_annexB_cons] at total
  cases rest with
  | nil =>
    rw [annexB_nil, List.length_nil] at total
    omega
  | cons other further =>
    rw [length_annexB_cons] at total
    omega

theorem aliased_packet_splices_nal :
    (¬ ∀ (stream : SentStream .h264) (arrivals : List stream.Place), stream.Conformant →
      ∀ submission ∈ RockchipMppRtpDecoder.live
          (arrivals.foldl (rockchipStep (plainRockchip .h264) stream)
            rockchipStart).decoder.assembly,
        NalsIntact stream submission) ∧
    ¬ ∀ (stream : SentStream .h264) (arrivals : List stream.Place), stream.Conformant →
      ∀ submission ∈
          (arrivals.foldl (imxStep (plainImx .h264) stream) imxStart).decoder.assembly.pushed,
        NalsIntact stream submission := by
  obtain ⟨rockchip, imx⟩ := aliasArrivals_submitted
  constructor <;> intro claimed
  · exact splice_not_intact
      (claimed aliasStream aliasArrivals aliasStream_conformant _ rockchip)
  · exact splice_not_intact (claimed aliasStream aliasArrivals aliasStream_conformant _ imx)

end Glide.NalIntegrity
