import Glide.RtpFeed
import Glide.RtpReception
import Glide.RockchipMppRtpDecoder
import Glide.ImxVpuRtpDecoder
import Glide.CedarRtpDecoder

/-! Sequence gaps that are none. A decoder moves on to the next number with every packet
whose number it looks at; packets without a payload, and in the Cedar decoder those of a
picture that is dropped, return before that. -/
namespace Glide.SequenceGaps
open RtpPackets NalPayloads RtpDepacketizer RtpFeed Library.Runs

/-- Packets as they come when none is lost, in whatever headers. -/
def Consecutive (packets : List (HeaderOptions × RtpPacket)) : Prop :=
  packets.IsChain fun earlier later => later.2.sequence = earlier.2.sequence + 1

def datagrams (packets : List (HeaderOptions × RtpPacket)) : List (List UInt8) :=
  packets.map fun (options, packet) => rtpBytes options packet

/-- Where a decoder keeps the number it expects and the gaps it has counted. -/
structure Numbering (σ : Type) where
  expected : σ → Option UInt16
  gaps : σ → Nat

/-- No gap was counted, and the packet that continues the stream is the expected one:
it discards nothing. -/
structure InStep (numbering : Numbering σ) (feed : Feed σ)
    (packets : List (HeaderOptions × RtpPacket)) : Prop where
  gaps : numbering.gaps feed.decoder = 0
  expected : feed.running = true → ∀ last ∈ packets.getLast?,
    ∀ number ∈ numbering.expected feed.decoder, number = last.2.sequence + 1

/-- What a decoder does with a packet whose number it expects. -/
def KeepsStep (numbering : Numbering σ) (handle : List UInt8 → σ → Bool × σ)
    (condition : σ → List UInt8 → Prop) : Prop :=
  ∀ decoder options packet, condition decoder (rtpBytes options packet) →
    (∀ number ∈ numbering.expected decoder, packet.sequence = number) →
    let after := (handle (rtpBytes options packet) decoder).2
    numbering.gaps after = numbering.gaps decoder ∧
      ∀ number ∈ numbering.expected after, number = packet.sequence + 1

/-- By induction on the packets: each finds its number expected, if one is. -/
theorem in_step_after_run {numbering : Numbering σ} {handle : List UInt8 → σ → Bool × σ}
    {condition : σ → List UInt8 → Prop} (keeps : KeepsStep numbering handle condition)
    (packets : List (HeaderOptions × RtpPacket)) {feed : Feed σ}
    (fresh : numbering.gaps feed.decoder = 0)
    (joined : feed.running = true → ∀ first ∈ packets.head?,
      ∀ number ∈ numbering.expected feed.decoder, first.2.sequence = number)
    (consecutive : Consecutive packets)
    (meets : Meets (receive handle) (WhenRunning condition) feed (datagrams packets)) :
    InStep numbering ((datagrams packets).foldl (receive handle) feed) packets := by
  induction packets generalizing feed with
  | nil =>
    constructor
    · exact fresh
    · exact fun _ last inside => nomatch inside
  | cons first rest ih =>
    obtain ⟨options, packet⟩ := first
    obtain ⟨admitted, later⟩ := meets
    have stepped : numbering.gaps (receive handle feed (rtpBytes options packet)).decoder = 0 ∧
        ((receive handle feed (rtpBytes options packet)).running = true →
          ∀ number ∈ numbering.expected (receive handle feed (rtpBytes options packet)).decoder,
            number = packet.sequence + 1) := by
      unfold receive
      split
      · rename_i running
        obtain ⟨gaps, expected⟩ := keeps feed.decoder options packet (admitted running)
          (joined running _ rfl)
        exact ⟨gaps.trans fresh, fun _ => expected⟩
      · rename_i stopped
        exact ⟨fresh, fun running => absurd running stopped⟩
    cases rest with
    | nil =>
      constructor
      · exact stepped.1
      · rintro running last inside
        cases inside
        exact stepped.2 running
    | cons second more =>
      obtain ⟨adjacent, chain⟩ := List.isChain_cons_cons.1 consecutive
      have follows := ih stepped.1 ?_ chain later
      · constructor
        · exact follows.gaps
        · intro running last inside
          apply follows.expected running last
          rwa [List.getLast?_cons_cons] at inside
      · rintro running next inside number held
        cases inside
        rw [adjacent, stepped.2 running number held]

/-! ### The decoders of NAL units and of Motion JPEG -/

/-- The counter of a decoder whose NAL units and access units do not touch it. -/
structure Gauge (ops : AssemblyOps σ) (gaps : σ → Nat) : Prop where
  counted : ∀ counted assembly, counted = .packet ∨ counted = .incomplete →
    gaps (ops.count counted assembly) = gaps assembly
  queued : ∀ nal timestamp assembly, gaps (ops.queueNal nal timestamp assembly).2 = gaps assembly
  flushed : ∀ assembly, gaps (ops.flush assembly).2 = gaps assembly

namespace Gauge
variable {ops : AssemblyOps σ} {gaps : σ → Nat} (gauge : Gauge ops gaps)
include gauge

theorem queueNals (timestamp : UInt32) (nals : List (List UInt8)) (assembly : σ) :
    gaps (RtpDepacketizer.queueNals ops timestamp nals assembly).2 = gaps assembly := by
  induction nals generalizing assembly with
  | nil => rfl
  | cons nal rest ih => exact andThen_keeps (gauge.queued nal timestamp assembly) ih

theorem deliver (nals : List (List UInt8)) (marker : Bool) (timestamp : UInt32) (assembly : σ) :
    gaps (RtpDepacketizer.deliver ops nals marker timestamp assembly).2 = gaps assembly := by
  apply andThen_keeps (gauge.queueNals timestamp nals assembly)
  intro assembly
  cases marker with
  | false => rfl
  | true => exact gauge.flushed assembly

theorem appendForm (form : PayloadForm) (marker : Bool) (timestamp : UInt32)
    (decoder : Depacketizer σ) :
    gaps (RtpDepacketizer.appendForm ops form marker timestamp decoder).2.assembly =
      gaps decoder.assembly := by
  cases form with
  | ignored => rfl
  | single nal => exact gauge.deliver ..
  | aggregate nals cut =>
    unfold RtpDepacketizer.appendForm
    dsimp only
    split
    · apply andThen_keeps (gauge.queueNals ..)
      exact fun assembly => gauge.counted _ _ (.inr rfl)
    · exact gauge.deliver ..
  | fragment start finish header data =>
    unfold RtpDepacketizer.appendForm appendFragment
    dsimp only
    split
    · exact gauge.counted _ _ (.inr rfl)
    · split
      · exact gauge.deliver ..
      · rfl

end Gauge

/-- What `handle_rtp_packet` leaves to a decoder's append. -/
structure LeavesNumbers (append : RtpPacket → Depacketizer σ → Bool × Depacketizer σ)
    (gaps : σ → Nat) : Prop where
  gaps : ∀ packet decoder, gaps (append packet decoder).2.assembly = gaps decoder.assembly
  haveSequence : ∀ packet decoder,
    (append packet decoder).2.reassembly.haveSequence = decoder.reassembly.haveSequence
  expectedSequence : ∀ packet decoder,
    (append packet decoder).2.reassembly.expectedSequence = decoder.reassembly.expectedSequence

def numbering (gaps : σ → Nat) : Numbering (Depacketizer σ) where
  expected := fun decoder =>
    if decoder.reassembly.haveSequence then some decoder.reassembly.expectedSequence else none
  gaps := fun decoder => gaps decoder.assembly

/-- The datagram has a payload, or no number is expected yet. -/
def Numbered (decoder : Depacketizer σ) (datagram : List UInt8) : Prop :=
  decoder.reassembly.haveSequence = true → parseRtpPacket datagram ≠ none

instance (decoder : Depacketizer σ) (datagram : List UInt8) : Decidable (Numbered decoder datagram) := by
  unfold Numbered
  infer_instance

theorem depacketizer_keeps_step {ops : AssemblyOps σ}
    {append : RtpPacket → Depacketizer σ → Bool × Depacketizer σ} {gaps : σ → Nat}
    (gauge : Gauge ops gaps) (leaves : LeavesNumbers append gaps) :
    KeepsStep (numbering gaps) (handleRtpPacket ops append) Numbered := by
  intro decoder options packet numbered known
  by_cases empty : packet.payload = []
  · have ignored := parseRtpPacket_of_empty options empty
    have unknown : decoder.reassembly.haveSequence = false :=
      Bool.eq_false_of_not_eq_true fun have_number => numbered have_number ignored
    rw [handleRtpPacket, ignored]
    simp [numbering, unknown]
  · have ordered : arrival decoder.reassembly packet.sequence packet.timestamp = .inOrder := by
      rw [arrival_eq_inOrder]
      intro have_number
      apply known
      simp [numbering, have_number]
    have checked : checkSequence ops packet
        { decoder with assembly := ops.count .packet decoder.assembly } =
        some (expectNext packet { decoder with assembly := ops.count .packet decoder.assembly }) := by
      rw [checkSequence, ordered]
    rw [handleRtpPacket, parseRtpPacket_rtpBytes options packet empty]
    dsimp only
    rw [handlePacket_checked checked]
    constructor
    · exact (leaves.gaps _ _).trans (gauge.counted _ _ (.inl rfl))
    · simp only [numbering, leaves.haveSequence, leaves.expectedSequence, expectNext, if_true]
      rintro number ⟨⟩
      rfl

/-! ### The Rockchip decoder -/

section Rockchip
open RockchipMppRtpDecoder

theorem submitPacket_gaps (setup : Setup) (seed : Bool) (data : List UInt8) (pts : UInt32)
    (assembly : Assembly) :
    (submitPacket setup seed data pts assembly).2.rtpSequenceGaps = assembly.rtpSequenceGaps := by
  unfold submitPacket
  split
  · rfl
  · split <;> rfl

theorem injectFirstHeader_gaps (setup : Setup) (paths : List String) (assembly : Assembly) :
    (injectFirstHeader setup paths assembly).2.rtpSequenceGaps = assembly.rtpSequenceGaps := by
  induction paths with
  | nil => rfl
  | cons path rest ih =>
    unfold injectFirstHeader
    split
    · exact ih
    · split
      · exact ih
      · dsimp only
        split <;> exact submitPacket_gaps ..

theorem injectX20HeaderIfNeeded_gaps (setup : Setup) (assembly : Assembly) :
    (injectX20HeaderIfNeeded setup assembly).2.rtpSequenceGaps = assembly.rtpSequenceGaps := by
  unfold injectX20HeaderIfNeeded
  split
  · rfl
  · exact injectFirstHeader_gaps ..

theorem injectForcedHeader_gaps (setup : Setup) (assembly : Assembly) :
    (injectForcedHeader setup assembly).2.rtpSequenceGaps = assembly.rtpSequenceGaps := by
  unfold injectForcedHeader
  split
  · exact injectX20HeaderIfNeeded_gaps ..
  · rfl

theorem updateX20Detection_gaps (data : List UInt8) (assembly : Assembly) :
    (updateX20Detection data assembly).rtpSequenceGaps = assembly.rtpSequenceGaps := by
  unfold updateX20Detection
  (repeat' split) <;> rfl

theorem injectDetectedHeader_gaps (setup : Setup) (nal : List UInt8) (assembly : Assembly) :
    (injectDetectedHeader setup nal assembly).2.rtpSequenceGaps = assembly.rtpSequenceGaps := by
  unfold injectDetectedHeader
  split
  · rfl
  · dsimp only
    split
    · exact (injectX20HeaderIfNeeded_gaps ..).trans (updateX20Detection_gaps ..)
    · exact updateX20Detection_gaps ..

theorem submitNal_gaps (setup : Setup) (nal : List UInt8) (pts : UInt32) (assembly : Assembly) :
    (submitNal setup nal pts assembly).2.rtpSequenceGaps = assembly.rtpSequenceGaps := by
  unfold submitNal
  split
  · rfl
  · exact andThen_keeps (injectDetectedHeader_gaps ..) fun _ => submitPacket_gaps ..

theorem queueSlice_gaps (nal : List UInt8) (timestamp : UInt32) (assembly : Assembly) :
    (queueSlice nal timestamp assembly).rtpSequenceGaps = assembly.rtpSequenceGaps := by
  unfold queueSlice
  dsimp only
  split <;> split <;> rfl

theorem rockchip_gauge (setup : Setup) : Gauge (ops setup) Assembly.rtpSequenceGaps where
  counted := by
    rintro counted assembly (rfl | rfl) <;> rfl
  queued := by
    intro nal timestamp assembly
    change (queueNal setup nal timestamp assembly).2.rtpSequenceGaps = _
    unfold queueNal
    split
    · rfl
    · apply andThen_keeps (injectForcedHeader_gaps ..)
      intro assembly
      split
      · exact queueSlice_gaps ..
      · exact submitNal_gaps ..
  flushed := by
    intro assembly
    change (flushAccessUnit setup assembly).2.rtpSequenceGaps = _
    unfold flushAccessUnit
    split
    · rfl
    · exact submitPacket_gaps ..

theorem startMjpegFrame_gaps (payload : JpegPayload) (timestamp : UInt32) (assembly : Assembly) :
    (startMjpegFrame payload timestamp assembly).rtpSequenceGaps = assembly.rtpSequenceGaps := by
  unfold startMjpegFrame
  dsimp only
  split <;> rfl

theorem appendMjpegPayload_gaps (payload : List UInt8) (marker : Bool) (timestamp : UInt32)
    (assembly : Assembly) :
    (appendMjpegPayload payload marker timestamp assembly).2.rtpSequenceGaps =
      assembly.rtpSequenceGaps := by
  unfold appendMjpegPayload
  split
  · rfl
  · rfl
  · rename_i parsed _
    have started := startMjpegFrame_gaps parsed timestamp assembly
    dsimp only
    split
    · split <;> exact started
    · (repeat' split) <;> rfl

theorem rockchip_leaves (setup : Setup) :
    LeavesNumbers (appendPayload setup) Assembly.rtpSequenceGaps := by
  constructor
  · intro packet decoder
    unfold appendPayload
    split
    · exact appendMjpegPayload_gaps ..
    · exact (rockchip_gauge setup).appendForm ..
  · intro packet decoder
    unfold appendPayload
    split
    · rfl
    · exact (RtpReception.appendNalPayload_expects ..).1
  · intro packet decoder
    unfold appendPayload
    split
    · rfl
    · exact (RtpReception.appendNalPayload_expects ..).2

end Rockchip

/-! ### The i.MX decoder -/

section Imx
open ImxVpuRtpDecoder

theorem submitAccessUnit_gaps (setup : Setup) (assembly : Assembly) :
    (submitAccessUnit setup assembly).2.sequenceGaps = assembly.sequenceGaps := by
  unfold submitAccessUnit
  split
  · rfl
  · dsimp only
    split <;> rfl

theorem imx_gauge (setup : Setup) : Gauge (ops setup) Assembly.sequenceGaps where
  counted := by
    rintro counted assembly (rfl | rfl) <;> rfl
  queued := by
    intro nal timestamp assembly
    change (queueNal setup nal timestamp assembly).2.sequenceGaps = _
    unfold queueNal
    split
    · rfl
    · apply andThen_keeps
      · split
        · exact submitAccessUnit_gaps ..
        · rfl
      · intro assembly
        unfold joinAccessUnit
        dsimp only
        split <;> rfl
  flushed := submitAccessUnit_gaps setup

theorem imx_leaves (setup : Setup) :
    LeavesNumbers (appendNalPayload (ops setup) setup.codec) Assembly.sequenceGaps := by
  constructor
  · exact fun packet decoder => (imx_gauge setup).appendForm ..
  · exact fun packet decoder => (RtpReception.appendNalPayload_expects ..).1
  · exact fun packet decoder => (RtpReception.appendNalPayload_expects ..).2

end Imx

/-! ### The Cedar decoder -/

section Cedar
open CedarRtpDecoder

def cedarNumbering : Numbering Decoder where
  expected := fun decoder =>
    if decoder.haveSequence then some decoder.expectedSequence else none
  gaps := Decoder.rtpSequenceGaps

/-- The datagram has a payload and does not belong to the picture that is dropped, or no
number is expected yet. -/
def Looked (decoder : Decoder) (datagram : List UInt8) : Prop :=
  decoder.haveSequence = true →
    ∃ packet ∈ parseRtpPacket datagram, ¬ (decoder.assembly.droppingTimestamp = true ∧
      packet.timestamp = decoder.assembly.dropTimestamp)

instance (decoder : Decoder) (datagram : List UInt8) : Decidable (Looked decoder datagram) := by
  unfold Looked
  infer_instance

/-- The expected number, or any number when none is expected, lies at no distance. -/
theorem sequenceDelta_of_expected {sequence : UInt16}
    (known : decoder.haveSequence = true → sequence = decoder.expectedSequence) :
    sequenceDelta decoder sequence = 0 := by
  unfold sequenceDelta
  split
  · rename_i have_number
    rw [known have_number, UInt16.sub_self]
    rfl
  · rfl

theorem checkSequence_of_expected {sequence : UInt16}
    (known : decoder.haveSequence = true → sequence = decoder.expectedSequence) :
    CedarRtpDecoder.checkSequence sequence decoder =
      { decoder with expectedSequence := sequence + 1, haveSequence := true } := by
  unfold CedarRtpDecoder.checkSequence
  rw [sequenceDelta_of_expected known, if_neg (by decide)]

theorem cedar_keeps_step (setup : CedarRtpDecoder.Setup) :
    KeepsStep cedarNumbering (CedarRtpDecoder.handleRtpPacket setup) Looked := by
  intro decoder options packet looked known
  have expected : decoder.haveSequence = true → packet.sequence = decoder.expectedSequence := by
    intro have_number
    apply known
    simp [cedarNumbering, have_number]
  by_cases empty : packet.payload = []
  · have ignored := parseRtpPacket_of_empty options empty
    have unknown : decoder.haveSequence = false := by
      apply Bool.eq_false_of_not_eq_true
      intro have_number
      obtain ⟨parsed, found, -⟩ := looked have_number
      rw [ignored] at found
      cases found
    rw [CedarRtpDecoder.handleRtpPacket, ignored]
    simp [cedarNumbering, unknown]
  · have parsed := parseRtpPacket_rtpBytes options packet empty
    rw [CedarRtpDecoder.handleRtpPacket, parsed]
    dsimp only
    unfold appendH264Payload
    rw [if_neg empty]
    split
    · -- Only a decoder that expects no number skips a packet here.
      rename_i dropped
      have unknown : decoder.haveSequence = false := by
        apply Bool.eq_false_of_not_eq_true
        intro have_number
        obtain ⟨other, found, kept⟩ := looked have_number
        rw [parsed] at found
        cases found
        exact kept dropped
      simp [cedarNumbering, countPacket, unknown]
    · dsimp only
      rw [sequenceDelta_of_expected, if_neg (by decide), checkSequence_of_expected]
      · simp [cedarNumbering, countPacket]
      · exact expected
      · exact expected

end Cedar

/-! ### Streams without loss -/

abbrev rockchipStart : Feed (Depacketizer RockchipMppRtpDecoder.Assembly) :=
  { decoder := { assembly := {} } }

abbrev imxStart : Feed (Depacketizer ImxVpuRtpDecoder.Assembly) := { decoder := { assembly := {} } }

abbrev cedarStart : Feed CedarRtpDecoder.Decoder := { decoder := {} }

/-- In every run over consecutive packets in which each packet has its number looked at,
unless none is expected yet, no decoder counts a gap, and each expects the next packet. -/
theorem gaps_never_counted (packets : List (HeaderOptions × RtpPacket))
    (consecutive : Consecutive packets) :
    (∀ setup, Meets (receive (RockchipMppRtpDecoder.handleRtpPacket setup))
        (WhenRunning Numbered) rockchipStart (datagrams packets) →
      InStep (numbering RockchipMppRtpDecoder.Assembly.rtpSequenceGaps)
        ((datagrams packets).foldl (receive (RockchipMppRtpDecoder.handleRtpPacket setup))
          rockchipStart) packets) ∧
    (∀ setup, Meets (receive (ImxVpuRtpDecoder.handleRtpPacket setup))
        (WhenRunning Numbered) imxStart (datagrams packets) →
      InStep (numbering ImxVpuRtpDecoder.Assembly.sequenceGaps)
        ((datagrams packets).foldl (receive (ImxVpuRtpDecoder.handleRtpPacket setup)) imxStart)
        packets) ∧
    (∀ setup, Meets (receive (CedarRtpDecoder.handleRtpPacket setup))
        (WhenRunning Looked) cedarStart (datagrams packets) →
      InStep cedarNumbering
        ((datagrams packets).foldl (receive (CedarRtpDecoder.handleRtpPacket setup)) cedarStart)
        packets) := by
  refine ⟨?_, ?_, ?_⟩
  · intro setup meets
    apply in_step_after_run _ packets rfl _ consecutive meets
    · exact depacketizer_keeps_step (rockchip_gauge setup) (rockchip_leaves setup)
    · exact fun _ _ _ number held => nomatch held
  · intro setup meets
    apply in_step_after_run _ packets rfl _ consecutive meets
    · exact depacketizer_keeps_step (imx_gauge setup) (imx_leaves setup)
    · exact fun _ _ _ number held => nomatch held
  · intro setup meets
    apply in_step_after_run (cedar_keeps_step setup) packets rfl _ consecutive meets
    exact fun _ _ _ number held => nomatch held

/-- A picture, a packet of nothing but padding and another picture. -/
def paddedPackets : List (HeaderOptions × RtpPacket) :=
  [(.plain, ⟨true, 65535, 1000, [0x65, 0x88, 0x84]⟩),
    ({ HeaderOptions.plain with padding := some [0, 0, 0], padding_le := by simp },
      ⟨false, 0, 1000, []⟩),
    (.plain, ⟨true, 1, 2500, [0x65, 0x88, 0x85]⟩)]

/-- The end of a picture that is skipped, since no IDR slice came before it, and an IDR slice. -/
def joinedPackets : List (HeaderOptions × RtpPacket) :=
  [(.plain, ⟨false, 10, 1000, [0x41, 0x9a, 0x21]⟩),
    (.plain, ⟨true, 11, 1000, [0x41, 0x46, 0x22]⟩),
    (.plain, ⟨true, 12, 2500, [0x65, 0x88, 0x84]⟩)]

def rockchipSetup : RockchipMppRtpDecoder.Setup where
  codec := .nal .h264
  forceX20Header := false
  environment := fun _ => none
  files := fun _ => none
  putPacket := fun _ => .accepted

def imxSetup : ImxVpuRtpDecoder.Setup where
  codec := .h264
  pushEncodedFrame := fun _ => true
  decodeAvailable := fun _ => true

/-- An aggregate with one unit, which is empty, and one byte of padding, which has the type
of a slice. The rest of its picture follows, and another picture. -/
def emptyUnitPackets : List (HeaderOptions × RtpPacket) :=
  [(.plain, ⟨true, 7, 1000, [0x65, 0x88, 0x84]⟩),
    ({ HeaderOptions.plain with padding := some [], padding_le := by simp },
      ⟨false, 8, 2500, [0x78, 0, 0]⟩),
    (.plain, ⟨true, 9, 2500, [0x41, 0x9a, 0x21]⟩),
    (.plain, ⟨true, 10, 4000, [0x41, 0x9a, 0x42]⟩)]

def cedarSetup : CedarRtpDecoder.Setup where
  requestBuffer := fun _ => .granted
  submitData := fun _ => true
  decodeStream := fun _ => true
  behindDatagram := fun _ => 0

instance (packets : List (HeaderOptions × RtpPacket)) : Decidable (Consecutive packets) := by
  unfold Consecutive
  infer_instance

/-- Nothing is lost, and yet a gap is counted: by every decoder behind a packet of padding,
by the Cedar decoder also behind a picture it skips, be it one that it takes for a picture
without beginning because of a byte of padding. -/
theorem skipped_packet_counts_as_gap :
    Consecutive paddedPackets ∧
      ((datagrams paddedPackets).foldl (receive (RockchipMppRtpDecoder.handleRtpPacket
        rockchipSetup)) rockchipStart).decoder.assembly.rtpSequenceGaps = 1 ∧
      ((datagrams paddedPackets).foldl (receive (ImxVpuRtpDecoder.handleRtpPacket imxSetup))
        imxStart).decoder.assembly.sequenceGaps = 1 ∧
      ((datagrams paddedPackets).foldl (receive (CedarRtpDecoder.handleRtpPacket cedarSetup))
        cedarStart).decoder.rtpSequenceGaps = 1 ∧
      Consecutive joinedPackets ∧
      ((datagrams joinedPackets).foldl (receive (CedarRtpDecoder.handleRtpPacket cedarSetup))
        cedarStart).decoder.rtpSequenceGaps = 1 ∧
      Consecutive emptyUnitPackets ∧
      ((datagrams emptyUnitPackets).foldl (receive (CedarRtpDecoder.handleRtpPacket cedarSetup))
        cedarStart).decoder.rtpSequenceGaps = 1 := by
  decide +kernel

/-- A picture in two packets: every packet has its number looked at. -/
theorem whole_picture_counts_no_gap :
    let packets : List (HeaderOptions × RtpPacket) :=
      [(.plain, ⟨false, 65535, 1000, [0x65, 0x88, 0x84]⟩),
        (.plain, ⟨true, 0, 1000, [0x65, 0x46, 0x22]⟩)]
    InStep (numbering RockchipMppRtpDecoder.Assembly.rtpSequenceGaps)
        ((datagrams packets).foldl (receive (RockchipMppRtpDecoder.handleRtpPacket rockchipSetup))
          rockchipStart) packets ∧
      InStep (numbering ImxVpuRtpDecoder.Assembly.sequenceGaps)
        ((datagrams packets).foldl (receive (ImxVpuRtpDecoder.handleRtpPacket imxSetup)) imxStart)
        packets ∧
      InStep cedarNumbering
        ((datagrams packets).foldl (receive (CedarRtpDecoder.handleRtpPacket cedarSetup))
          cedarStart) packets := by
  obtain ⟨rockchip, imx, cedar⟩ := gaps_never_counted
    [(.plain, ⟨false, 65535, 1000, [0x65, 0x88, 0x84]⟩),
      (.plain, ⟨true, 0, 1000, [0x65, 0x46, 0x22]⟩)]
    (by decide)
  exact ⟨rockchip rockchipSetup (by decide +kernel), imx imxSetup (by decide +kernel),
    cedar cedarSetup (by decide +kernel)⟩

end Glide.SequenceGaps
