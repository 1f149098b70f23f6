import Glide.RtpSender
import Glide.NalAssembler
import Glide.Library.Runs

/-! A sender's packets at a decoder. A fragment that finds what precedes it is
assembled, one that finds nothing is dropped; over a network that may deliver the
packets in any order, the fragments of a NAL unit can only be mixed up when a
packet is taken for another one 65536 places away. -/
namespace Glide.RtpReception
open RtpPackets NalPayloads RtpDepacketizer NalAssembler RtpSender Piece Library.Runs

/-- The decoder holds what precedes the piece. -/
def AwaitsPiece (codec : NalCodec) (piece : Piece) (timestamp : UInt32) (pending : Reassembly) :
    Prop :=
  match piece with
  | .fragment nal earlier _ _ => earlier = [] ∨
      pending.fragment = nalHeader codec nal ++ earlier.flatten ∧
        pending.fragmentTimestamp = timestamp
  | _ => True

/-- The decoder holds what the piece leaves open. -/
def HoldsPiece (codec : NalCodec) (piece : Piece) (timestamp : UInt32) (pending : Reassembly) :
    Prop :=
  match piece with
  | .fragment nal earlier chunk later => later = [] ∨
      pending.fragment = nalHeader codec nal ++ (earlier ++ [chunk]).flatten ∧
        pending.fragmentTimestamp = timestamp
  | _ => True

/-- The decoder holds nothing that a fragment of this timestamp would continue. -/
def HoldsNothing (timestamp : UInt32) (pending : Reassembly) : Prop :=
  pending.fragment = [] ∨ pending.fragmentTimestamp ≠ timestamp

theorem awaits_of_starts {piece : Piece} (starts : piece.Starts) :
    AwaitsPiece codec piece timestamp pending := by
  cases piece with
  | fragment nal earlier chunk later => exact .inl starts
  | _ => trivial

theorem awaits_of_continues {piece next : Piece} (continues : piece.Continues next)
    (holds : HoldsPiece codec piece timestamp pending) :
    AwaitsPiece codec next timestamp pending := by
  cases continues with
  | next nal earlier chunk following later => exact .inr (holds.resolve_left nofun)

/-- What a fragment awaits is never empty. -/
theorem awaits_or_nothing {piece : Piece} (valid : piece.Valid codec) (goes_on : ¬ piece.Starts)
    (awaits : AwaitsPiece codec piece timestamp pending) : ¬ HoldsNothing timestamp pending := by
  cases piece with
  | fragment nal earlier chunk later =>
    obtain ⟨fragment, stamped⟩ := awaits.resolve_left goes_on
    rintro (empty | apart)
    · rw [fragment, List.append_eq_nil_iff] at empty
      exact valid_header_ne_nil valid.1 empty.1
    · exact apart stamped
  | _ => exact absurd trivial goes_on

/-! ### One payload -/

/-- A payload carries a piece of the stream, marked only if no NAL unit stays open. -/
structure Carries (codec : NalCodec) (packet : RtpPacket) (piece : Piece) : Prop where
  valid : piece.Valid codec
  payload : packet.payload = piece.payload codec
  closed : packet.marker = true → piece.Ends

theorem appendNalPayload_expects (ops : AssemblyOps σ) (codec : NalCodec) (packet : RtpPacket)
    (decoder : Depacketizer σ) :
    (appendNalPayload ops codec packet decoder).2.reassembly.haveSequence =
        decoder.reassembly.haveSequence ∧
      (appendNalPayload ops codec packet decoder).2.reassembly.expectedSequence =
        decoder.reassembly.expectedSequence := by
  unfold appendNalPayload appendForm
  split
  · exact ⟨rfl, rfl⟩
  · exact ⟨rfl, rfl⟩
  · split <;> exact ⟨rfl, rfl⟩
  · unfold appendFragment
    dsimp only
    split
    · exact ⟨rfl, rfl⟩
    · split <;> exact ⟨rfl, rfl⟩

/-- A piece that the decoder awaits completes its NAL units. -/
theorem append_awaited (policy : Policy) (carries : Carries codec packet piece)
    (tracked : Depacketizer Assembler)
    (awaits : AwaitsPiece codec piece packet.timestamp tracked.reassembly) :
    (appendNalPayload policy.ops codec packet tracked).2.assembly =
        tracked.assembly.deliver policy piece.completes packet.marker packet.timestamp ∧
      HoldsPiece codec piece packet.timestamp
        (appendNalPayload policy.ops codec packet tracked).2.reassembly := by
  obtain ⟨valid, payload, closed⟩ := carries
  rw [appendNalPayload, payload]
  cases piece with
  | single nal =>
    rw [Piece.payload, payloadForm_single valid]
    exact ⟨congrArg Prod.snd (deliver_ops policy [nal] _ _ _), trivial⟩
  | aggregate first second nals =>
    rw [Piece.payload, payloadForm_aggregate valid.1 fun nal inside => (valid.2 nal inside).2]
    exact ⟨congrArg Prod.snd (deliver_ops policy nals _ _ _), trivial⟩
  | fragment nal earlier chunk later =>
    obtain ⟨carried, joined⟩ := valid
    rw [Piece.payload, payloadForm_fragment carried]
    change _ ∨ _ at awaits
    -- Whether the fragment starts or continues, this is what it is appended to.
    have front : (if earlier.isEmpty then nalHeader codec nal else tracked.reassembly.fragment) =
        nalHeader codec nal ++ earlier.flatten := by
      cases earlier with
      | nil => simp
      | cons before rest => simpa using (awaits.resolve_left (List.cons_ne_nil _ _)).1
    have stamped : (if earlier.isEmpty then packet.timestamp
        else tracked.reassembly.fragmentTimestamp) = packet.timestamp := by
      cases earlier with
      | nil => rfl
      | cons before rest => simpa using (awaits.resolve_left (List.cons_ne_nil _ _)).2
    have kept : ¬ (earlier.isEmpty = false ∧ (tracked.reassembly.fragment = [] ∨
        tracked.reassembly.fragmentTimestamp ≠ packet.timestamp)) := by
      rintro ⟨goes_on, nothing⟩
      have starts : ¬ earlier = [] := by simpa using goes_on
      have own : (Piece.fragment nal earlier chunk later).Valid codec := ⟨carried, joined⟩
      exact awaits_or_nothing own starts awaits nothing
    simp only [appendForm, appendFragment, if_neg kept, front, stamped]
    cases later with
    | nil =>
      have whole : nalHeader codec nal ++ earlier.flatten ++ chunk = nal := by
        have parts := nalHeader_append_nalBody codec nal
        rw [← joined, List.flatten_append, List.flatten_cons, List.flatten_nil,
          List.append_nil] at parts
        rw [List.append_assoc, parts]
      simp only [List.isEmpty_nil, if_true, whole, deliver_ops]
      exact ⟨rfl, .inl rfl⟩
    | cons following rest =>
      have unmarked : packet.marker = false := by
        cases marked : packet.marker with
        | false => rfl
        | true => exact absurd (closed marked) (List.cons_ne_nil _ _)
      simp only [List.isEmpty_cons, Bool.false_eq_true, if_false, unmarked]
      exact ⟨rfl, .inr ⟨by simp, rfl⟩⟩

/-- A fragment that finds nothing to continue is dropped. -/
theorem append_dropped (policy : Policy) (carries : Carries codec packet piece)
    (tracked : Depacketizer Assembler) (goes_on : ¬ piece.Starts)
    (nothing : HoldsNothing packet.timestamp tracked.reassembly) :
    (appendNalPayload policy.ops codec packet tracked).2 = tracked := by
  obtain ⟨valid, payload, -⟩ := carries
  cases piece with
  | fragment nal earlier chunk later =>
    have started : earlier.isEmpty = false := by
      cases earlier with
      | nil => exact absurd rfl goes_on
      | cons before rest => rfl
    rw [appendNalPayload, payload, Piece.payload, payloadForm_fragment valid.1]
    simp only [appendForm, appendFragment, started]
    rw [if_pos ⟨trivial, nothing⟩]
    rfl
  | _ => exact absurd trivial goes_on

/-! ### Any datagrams of a stream, in any order -/

/-- A decoder and the place of the packet it accepted last. The feed ends with
the first call that fails. -/
structure Session (σ : Type) where
  decoder : Depacketizer σ
  last : Option Nat := none
  running : Bool := true

def accepts (pending : Reassembly) (packet : RtpPacket) : Bool :=
  arrival pending packet.sequence packet.timestamp ≠ .late

def receive (handle : List UInt8 → Depacketizer σ → Bool × Depacketizer σ)
    (stream : SentStream codec) (session : Session σ) (place : stream.Place) : Session σ :=
  if session.running then {
    decoder := (handle (stream.datagram place) session.decoder).2
    last :=
      if accepts session.decoder.reassembly (stream.rtpPacket place) then some place
      else session.last
    running := (handle (stream.datagram place) session.decoder).1 }
  else session

/-- A condition on a packet, the decoder's state before it and the place accepted last. -/
abbrev Condition (stream : SentStream codec) :=
  Reassembly → (idle : Bool) → Option Nat → stream.Place → Prop

/-- The packet comes right after the one that was accepted last. -/
def ComesNext (last : Option Nat) (place : Nat) : Prop := last.map (· + 1) = some place

instance : Decidable (ComesNext last place) := inferInstanceAs (Decidable (_ = _))

/-- A fragment is only appended to the fragment sent right before it: if its number
is the expected one and a fragment of its timestamp is pending, then it comes next. -/
def FragmentComesNext (stream : SentStream codec) : Condition stream :=
  fun pending _ last place =>
    let packet := stream.rtpPacket place
    ¬ (stream.packet place).piece.Starts →
      arrival pending packet.sequence packet.timestamp = .inOrder →
      pending.fragment ≠ [] → pending.fragmentTimestamp = packet.timestamp →
      ComesNext last place

instance (stream : SentStream codec) (pending : Reassembly) (idle : Bool) (last : Option Nat)
    (place : stream.Place) : Decidable (FragmentComesNext stream pending idle last place) := by
  unfold FragmentComesNext
  infer_instance

/-- The condition on the packets that a running decoder is fed. -/
def WhenFed {stream : SentStream codec} (condition : Condition stream) (idle : σ → Bool)
    (session : Session σ) (place : stream.Place) : Prop :=
  session.running = true →
    condition session.decoder.reassembly (idle session.decoder.assembly) session.last place

instance {stream : SentStream codec} (condition : Condition stream) (idle : σ → Bool)
    [∀ pending idle last place, Decidable (condition pending idle last place)]
    (session : Session σ) (place : stream.Place) :
    Decidable (WhenFed condition idle session place) := by
  unfold WhenFed
  infer_instance

theorem stream_carries (stream : SentStream codec) (place : stream.Place) :
    Carries codec (stream.rtpPacket place) (stream.packet place).piece := by
  obtain ⟨unit, -, inside⟩ := stream.packet_unit place
  obtain ⟨-, valid, closed, -⟩ := unit.packet_facts _ inside
  exact ⟨valid, rfl, fun marked => closed (List.isEmpty_iff.1 marked)⟩

/-- The assembler's decoder takes in the packet of a place. -/
def absorb (policy : Policy) (stream : SentStream codec) (tracked : Depacketizer Assembler)
    (place : stream.Place) : Depacketizer Assembler :=
  (handlePacket policy.ops (appendNalPayload policy.ops codec) (stream.rtpPacket place) tracked).2

/-- The sequence numbers and the fragment agree with the packet accepted last. -/
def Follows (stream : SentStream codec) (pending : Reassembly) : Option Nat → Prop
  | none => pending.haveSequence = false ∧ pending.fragment = []
  | some index => pending.haveSequence = true ∧
      pending.expectedSequence = stream.sequence (index + 1) ∧
      ∃ inside : index < stream.packets.length,
        HoldsNothing (stream.packet ⟨index, inside⟩).timestamp pending ∨
          HoldsPiece codec (stream.packet ⟨index, inside⟩).piece
            (stream.packet ⟨index, inside⟩).timestamp pending

/-- The packets at adjacent places, when the later one comes next. -/
theorem comesNext_follows {stream : SentStream codec} (follows : Follows stream pending last)
    {place : stream.Place} (next : ComesNext last place) :
    ∃ before : stream.Place, last = some before.val ∧
      RtpSender.Follows (stream.packet before) (stream.packet place) ∧
      pending.expectedSequence = stream.sequence place ∧
      (HoldsNothing (stream.packet before).timestamp pending ∨
        HoldsPiece codec (stream.packet before).piece (stream.packet before).timestamp pending) := by
  obtain ⟨index, rfl, same⟩ := Option.map_eq_some_iff.1 next
  obtain ⟨-, expected, inside, held⟩ := follows
  obtain ⟨value, bound⟩ := place
  subst same
  exact ⟨⟨index, inside⟩, rfl, stream.packets_follow index bound, expected, held⟩

/-- Right before it is appended, a piece is awaited, or it is a fragment of which
nothing is held. Nothing is held either when the packet does not come next. -/
theorem piece_settled {stream : SentStream codec} {place : stream.Place}
    (follows : Follows stream pending last)
    (condition : FragmentComesNext stream pending idle last place)
    (fragment : checked = pending.fragment ∧
        arrival pending (stream.sequence place) (stream.packet place).timestamp = .inOrder ∨
      checked = []) :
    (AwaitsPiece codec (stream.packet place).piece (stream.packet place).timestamp
        { pending with fragment := checked } ∨
      ¬ (stream.packet place).piece.Starts ∧
        HoldsNothing (stream.packet place).timestamp { pending with fragment := checked }) ∧
    ((stream.packet place).piece.Starts ∨ ComesNext last place ∨
      HoldsNothing (stream.packet place).timestamp { pending with fragment := checked }) := by
  by_cases starts : (stream.packet place).piece.Starts
  · exact ⟨.inl (awaits_of_starts starts), .inl starts⟩
  obtain ⟨rfl, ordered⟩ | rfl := fragment
  · by_cases empty : pending.fragment = []
    · exact ⟨.inr ⟨starts, .inl empty⟩, .inr (.inr (.inl empty))⟩
    by_cases same : pending.fragmentTimestamp = (stream.packet place).timestamp
    · have next := condition starts ordered empty same
      obtain ⟨before, -, sent, -, held⟩ := comesNext_follows follows next
      refine ⟨.inl ?_, .inr (.inl next)⟩
      cases sent with
      | nextUnit last first fresh => exact absurd fresh starts
      | sameUnit stamped _ _ adjacent =>
        rw [stamped] at same ⊢
        have holds := held.resolve_left fun nothing => nothing.elim empty fun apart => apart same
        exact awaits_of_continues (adjacent.resolve_left starts) holds
    · exact ⟨.inr ⟨starts, .inr same⟩, .inr (.inr (.inr same))⟩
  · exact ⟨.inr ⟨starts, .inl rfl⟩, .inr (.inr (.inl rfl))⟩

/-- The two ends a packet of the stream comes to once its number was checked. -/
private theorem append_settled (policy : Policy) {stream : SentStream codec} {place : stream.Place}
    (checked : Depacketizer Assembler) (have_sequence : checked.reassembly.haveSequence = true)
    (expected : checked.reassembly.expectedSequence = stream.sequence (place + 1))
    (settled : (AwaitsPiece codec (stream.packet place).piece (stream.packet place).timestamp
          checked.reassembly ∨
        ¬ (stream.packet place).piece.Starts ∧
          HoldsNothing (stream.packet place).timestamp checked.reassembly) ∧
      ((stream.packet place).piece.Starts ∨ ComesNext last place ∨
        HoldsNothing (stream.packet place).timestamp checked.reassembly)) :
    let after := (appendNalPayload policy.ops codec (stream.rtpPacket place) checked).2
    Follows stream after.reassembly (some place.val) ∧
      (after.assembly = checked.assembly.deliver policy (stream.packet place).piece.completes
            (stream.packet place).marker (stream.packet place).timestamp ∧
          HoldsPiece codec (stream.packet place).piece (stream.packet place).timestamp
            after.reassembly ∧
          ((stream.packet place).piece.Starts ∨ ComesNext last place ∧
            ¬ HoldsNothing (stream.packet place).timestamp checked.reassembly) ∨
        ¬ (stream.packet place).piece.Starts ∧ after.assembly = checked.assembly ∧
          HoldsNothing (stream.packet place).timestamp checked.reassembly ∧
          HoldsNothing (stream.packet place).timestamp after.reassembly) := by
  have carries := stream_carries stream place
  obtain ⟨kept, next⟩ := appendNalPayload_expects policy.ops codec (stream.rtpPacket place) checked
  obtain ⟨awaits | ⟨goes_on, nothing⟩, placed⟩ := settled
  · obtain ⟨delivered, holds⟩ := append_awaited policy carries checked awaits
    refine ⟨⟨kept.trans have_sequence, next.trans expected, place.isLt, .inr holds⟩, .inl ?_⟩
    refine ⟨delivered, holds, ?_⟩
    by_cases starts : (stream.packet place).piece.Starts
    · exact .inl starts
    · have held := awaits_or_nothing (stream.packet_valid place) starts awaits
      exact .inr ⟨(placed.resolve_left starts).resolve_right held, held⟩
  · have same := append_dropped policy carries checked goes_on nothing
    dsimp only
    rw [same]
    exact ⟨⟨have_sequence, expected, place.isLt, .inl nothing⟩,
      .inr ⟨goes_on, rfl, nothing, nothing⟩⟩

/-- The NAL units that the packet completes were delivered. If it goes on with a
fragment, then it comes next and the fragment was there. -/
structure Delivered (policy : Policy) (stream : SentStream codec) (last : Option Nat)
    (place : stream.Place) (pending : Reassembly) (base : Assembler)
    (after : Depacketizer Assembler) : Prop where
  assembly : after.assembly = base.deliver policy (stream.packet place).piece.completes
    (stream.packet place).marker (stream.packet place).timestamp
  holds : HoldsPiece codec (stream.packet place).piece (stream.packet place).timestamp
    after.reassembly
  continued : (stream.packet place).piece.Starts ∨
    ComesNext last place ∧ ¬ HoldsNothing (stream.packet place).timestamp pending

/-- The packet was a fragment that found nothing to continue. -/
structure Dropped (stream : SentStream codec) (place : stream.Place) (pending : Reassembly)
    (base : Assembler) (after : Depacketizer Assembler) : Prop where
  goes_on : ¬ (stream.packet place).piece.Starts
  assembly : after.assembly = base
  nothing : HoldsNothing (stream.packet place).timestamp after.reassembly
  before : arrival pending (stream.sequence place) (stream.packet place).timestamp = .inOrder →
    HoldsNothing (stream.packet place).timestamp pending

/-- Before the packet is appended the assembler keeps what waits, if the packet is
in order, and discards it otherwise. -/
inductive Checked (stream : SentStream codec) (place : stream.Place)
    (tracked : Depacketizer Assembler) : Assembler → Prop where
  | inOrder (ordered : arrival tracked.reassembly (stream.sequence place)
      (stream.packet place).timestamp = .inOrder) : Checked stream place tracked tracked.assembly
  | outOfOrder (apart : arrival tracked.reassembly (stream.sequence place)
      (stream.packet place).timestamp ≠ .inOrder) :
      Checked stream place tracked tracked.assembly.discard

/-- What taking in a packet of the stream comes to: it is late and changes
nothing, or its NAL units are delivered, or it is a fragment that is dropped. -/
theorem absorb_cases (policy : Policy) {stream : SentStream codec}
    {tracked : Depacketizer Assembler} {place : stream.Place}
    (follows : Follows stream tracked.reassembly last)
    (condition : FragmentComesNext stream tracked.reassembly idle last place) :
    accepts tracked.reassembly (stream.rtpPacket place) = false ∧
        absorb policy stream tracked place = tracked ∨
    accepts tracked.reassembly (stream.rtpPacket place) = true ∧
      Follows stream (absorb policy stream tracked place).reassembly (some place.val) ∧
      ∃ base, Checked stream place tracked base ∧
        (Delivered policy stream last place tracked.reassembly base
            (absorb policy stream tracked place) ∨
          Dropped stream place tracked.reassembly base (absorb policy stream tracked place)) := by
  have succeeding := stream.sequence_succ place.val
  obtain ⟨late, checked⟩ | ⟨ordered, checked⟩ | ⟨counted, taken, apart, checked⟩ :=
    checkSequence_cases policy.ops (stream.rtpPacket place) tracked
  · refine .inl ⟨by simp [accepts, late], ?_⟩
    rw [absorb, handlePacket_late checked]
    rfl
  · have absorbed : absorb policy stream tracked place = (appendNalPayload policy.ops codec
        (stream.rtpPacket place) (expectNext (stream.rtpPacket place) tracked)).2 := by
      rw [absorb, handlePacket_checked checked]
    have settled := piece_settled follows condition (.inl ⟨rfl, ordered⟩)
    obtain ⟨followed, ends⟩ := append_settled policy
      (expectNext (stream.rtpPacket place) tracked) rfl succeeding settled
    rw [absorbed]
    refine .inr ⟨by simp [accepts, ordered], followed, tracked.assembly, .inOrder ordered, ?_⟩
    obtain ⟨delivered, holds, continued⟩ | ⟨goes_on, dropped, before, nothing⟩ := ends
    · exact .inl ⟨delivered, holds, continued⟩
    · exact .inr ⟨goes_on, dropped, nothing, fun _ => before⟩
  · have absorbed : absorb policy stream tracked place = (appendNalPayload policy.ops codec
        (stream.rtpPacket place) (expectNext (stream.rtpPacket place)
          (discardPending policy.ops counted tracked))).2 := by
      rw [absorb, handlePacket_checked checked]
    have settled := piece_settled follows condition (.inr rfl)
    obtain ⟨followed, ends⟩ := append_settled policy (expectNext (stream.rtpPacket place)
      (discardPending policy.ops counted tracked)) rfl succeeding settled
    rw [absorbed]
    refine .inr ⟨by simpa [accepts] using taken, followed, tracked.assembly.discard,
      .outOfOrder apart, ?_⟩
    obtain ⟨delivered, holds, continued⟩ | ⟨goes_on, dropped, -, nothing⟩ := ends
    · refine .inl ⟨delivered, holds, .inl ?_⟩
      exact continued.resolve_right fun goes_on => goes_on.2 (.inl rfl)
    · exact .inr ⟨goes_on, dropped, nothing, fun ordered => absurd ordered apart⟩

/-! ### Runs -/

/-- The decoder is given what the sender put into the datagram. -/
theorem handle_datagram (ops : AssemblyOps σ)
    (append : RtpPacket → Depacketizer σ → Bool × Depacketizer σ) (stream : SentStream codec)
    (place : stream.Place) (decoder : Depacketizer σ) :
    handleRtpPacket ops append (stream.datagram place) decoder =
      handlePacket ops append (stream.rtpPacket place) decoder := by
  rw [handleRtpPacket, stream.parse_datagram]

section Run
variable {policy : Policy} {ops : AssemblyOps σ} (refinement : Refinement policy ops)
variable {stream : SentStream codec} {condition : Condition stream} {idle : σ → Bool}
variable (invariant : Depacketizer Assembler → Option Nat → Prop)

/-- An assembler in the invariant has made everything the decoder submitted; while
the decoder runs they agree. -/
def Shadowed (session : Session σ) : Prop :=
  ∃ tracked, invariant tracked session.last ∧
    (session.running = true → session.decoder.reassembly = tracked.reassembly ∧
      refinement.related tracked.assembly session.decoder.assembly) ∧
    refinement.live session.decoder.assembly <+:
      tracked.assembly.outputs.map refinement.render

/-- A run of the assembler that an invariant speaks about is a run of the decoder. -/
theorem shadowed_after_run
    (idles : ∀ assembler assembly, refinement.related assembler assembly →
      idle assembly = assembler.pending.isEmpty)
    (preserved : ∀ tracked last place, invariant tracked last →
      condition tracked.reassembly tracked.assembly.pending.isEmpty last place →
      invariant (absorb policy stream tracked place)
        (if accepts tracked.reassembly (stream.rtpPacket place) then some place.val else last))
    {session : Session σ} (start : Shadowed refinement invariant session)
    (arrivals : List stream.Place)
    (meets : Meets (receive (handleRtpPacket ops (appendNalPayload ops codec)) stream)
      (WhenFed condition idle) session arrivals) :
    Shadowed refinement invariant
      (arrivals.foldl (receive (handleRtpPacket ops (appendNalPayload ops codec)) stream)
        session) := by
  refine invariant_after_run arrivals ?_ start meets
  rintro session place ⟨tracked, holds, agrees, made⟩ fed
  unfold receive
  by_cases running : session.running = true
  · obtain ⟨same, related⟩ := agrees running
    have met := fed running
    rw [same, idles _ _ related] at met
    have tracks := refinement.handlePacket_tracks codec (stream.rtpPacket place) same related
    rw [if_pos running, handle_datagram, same]
    refine ⟨absorb policy stream tracked place, preserved tracked session.last place holds met,
      ?_, tracks.assembly.submissions⟩
    intro going
    have matched := tracks.assembly
    rw [Refinement.Matches, if_pos going] at matched
    exact ⟨tracks.reassembly, matched⟩
  · rw [if_neg running]
    exact ⟨tracked, holds, agrees, made⟩

/-- From the start, every submission is the rendering of an output in the invariant. -/
theorem outputs_after_run
    (idles : ∀ assembler assembly, refinement.related assembler assembly →
      idle assembly = assembler.pending.isEmpty)
    (preserved : ∀ tracked last place, invariant tracked last →
      condition tracked.reassembly tracked.assembly.pending.isEmpty last place →
      invariant (absorb policy stream tracked place)
        (if accepts tracked.reassembly (stream.rtpPacket place) then some place.val else last))
    (initial : invariant { assembly := {} } none) (fresh : refinement.related {} assembly)
    (arrivals : List stream.Place)
    (meets : Meets (receive (handleRtpPacket ops (appendNalPayload ops codec)) stream)
      (WhenFed condition idle) { decoder := { assembly } } arrivals) :
    ∃ tracked last, invariant tracked last ∧
      ∀ submission ∈ refinement.live
          (arrivals.foldl (receive (handleRtpPacket ops (appendNalPayload ops codec)) stream)
            { decoder := { assembly } }).decoder.assembly,
        ∃ output ∈ tracked.assembly.outputs, refinement.render output = submission := by
  have start : Shadowed refinement invariant ({ decoder := { assembly } } : Session _) := by
    refine ⟨{ assembly := {} }, initial, fun _ => ⟨rfl, fresh⟩, ?_⟩
    rw [refinement.submitted fresh]
  obtain ⟨tracked, holds, -, made⟩ :=
    shadowed_after_run refinement invariant idles preserved start arrivals meets
  exact ⟨tracked, _, holds, fun submission inside => List.mem_map.1 (made.subset inside)⟩

end Run

end Glide.RtpReception

namespace Glide.NalAssembler.Refinement
open RtpPackets NalPayloads RtpDepacketizer RtpSender RtpReception

variable {policy : Policy} {ops : AssemblyOps σ} (refinement : Refinement policy ops)

/-- The decoder runs and agrees with the assembler. -/
def Agrees (session : Session σ) (tracked : Depacketizer Assembler) : Prop :=
  session.running = true ∧ session.decoder.reassembly = tracked.reassembly ∧
    refinement.related tracked.assembly session.decoder.assembly

/-- A decoder that is refused nothing agrees with the assembler after every packet. -/
theorem receive_agrees (accepting : Accepting ops) (stream : SentStream codec)
    (session : Session σ) (tracked : Depacketizer Assembler) (place : stream.Place)
    (agrees : refinement.Agrees session tracked) :
    refinement.Agrees
      (receive (handleRtpPacket ops (appendNalPayload ops codec)) stream session place)
      (absorb policy stream tracked place) := by
  obtain ⟨running, same, related⟩ := agrees
  have going := accepting.handlePacket_succeeds codec (stream.rtpPacket place) session.decoder
  have tracks := refinement.handlePacket_tracks codec (stream.rtpPacket place) same related
  have matched := tracks.assembly
  rw [Matches, if_pos going] at matched
  unfold receive
  rw [if_pos running, handle_datagram]
  exact ⟨going, tracks.reassembly, matched⟩

end Glide.NalAssembler.Refinement
