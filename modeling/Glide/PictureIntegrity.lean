import Glide.NalIntegrity

/-! The pictures a decoder submits over a lossy network. A picture whose slices
all arrive is submitted whole; one that the decoder joins after a slice was lost,
with whole slices still to come, is the one it may submit in part. -/
namespace Glide.PictureIntegrity
open RtpPackets NalPayloads RtpDepacketizer NalAssembler RtpSender RtpReception NalIntegrity
open Library.Runs Piece

def slices (codec : NalCodec) (nals : List (List UInt8)) : List (List UInt8) :=
  nals.filter (isVcl codec)

@[simp] theorem slices_nil (codec : NalCodec) : slices codec [] = [] := rfl

@[simp] theorem slices_append (codec : NalCodec) (front rest : List (List UInt8)) :
    slices codec (front ++ rest) = slices codec front ++ slices codec rest :=
  List.filter_append ..

/-- The NAL unit of which the packet carries a later fragment. -/
def goesOnWith : Piece → List (List UInt8)
  | .fragment nal earlier _ _ => if earlier.isEmpty then [] else [nal]
  | _ => []

/-- The NAL units of the access unit that began before the packet. -/
def begun (packet : SentPacket) : List (List UInt8) := packet.before ++ goesOnWith packet.piece

/-- The NAL units that begin with the packet or after it. -/
def toCome (packet : SentPacket) : List (List UInt8) :=
  packet.piece.begins ++ packet.after.flatMap begins

/-- A slice began before the packet and another one is still to begin. -/
def JoinsInside (codec : NalCodec) (packet : SentPacket) : Prop :=
  slices codec (begun packet) ≠ [] ∧ slices codec (toCome packet) ≠ []

instance : Decidable (JoinsInside codec packet) := inferInstanceAs (Decidable (_ ∧ _))

/-- An accepted packet comes next, or it finds nothing pending and does not join a
picture between two of its slices; and fragments come next. -/
def JoinsPictures (stream : SentStream codec) : Condition stream :=
  fun pending idle last place =>
    FragmentComesNext stream pending idle last place ∧
      (accepts pending (stream.rtpPacket place) = true → ComesNext last place ∨
        (arrival pending (stream.sequence place) (stream.packet place).timestamp ≠ .inOrder ∨
          idle = true) ∧ ¬ JoinsInside codec (stream.packet place))

instance (stream : SentStream codec) (pending : Reassembly) (idle : Bool) (last : Option Nat)
    (place : stream.Place) : Decidable (JoinsPictures stream pending idle last place) := by
  unfold JoinsPictures
  infer_instance

/-- The NAL units of an access unit that was sent at the time, as far as they are
slices, or no slices at all. -/
def WholePicture (stream : SentStream codec) (nals : List (List UInt8)) (timestamp : UInt32) : Prop :=
  slices codec nals = [] ∨
    ∃ unit ∈ stream.units, timestamp = unit.timestamp ∧ slices codec nals = slices codec unit.nals

/-- A submission with slices has all the slices of one picture. -/
def PictureIntact (stream : SentStream codec) (submission : Submission) : Prop :=
  ∃ nals, nals ≠ [] ∧ submission.data = annexB nals ∧
    WholePicture stream nals submission.timestamp

/-! ### Slices in the assembler -/

/-- Slices that wait have this timestamp. -/
def SlicesAt (codec : NalCodec) (timestamp : UInt32) (assembler : Assembler) : Prop :=
  slices codec assembler.pending = [] ∨ assembler.timestamp = timestamp

/-- The policy lets slices wait for their picture. -/
def SlicesWait (codec : NalCodec) (policy : Policy) : Prop :=
  ∀ nal, isVcl codec nal = true → policy.keeps nal = true

section Slices
variable {policy : Policy}

/-- Turning to another timestamp touches no slices when they wait for this one. -/
theorem turnTo_slices (policy : Policy) (at_time : SlicesAt codec timestamp assembler) :
    slices codec (assembler.turnTo policy timestamp).pending = slices codec assembler.pending ∧
      ∀ output ∈ (assembler.turnTo policy timestamp).outputs,
        output ∈ assembler.outputs ∨ slices codec output.nals = [] := by
  unfold Assembler.turnTo
  by_cases turns : assembler.pending ≠ [] ∧ assembler.timestamp ≠ timestamp
  · have none_wait := at_time.resolve_right turns.2
    rw [if_pos turns, none_wait]
    split
    · rw [Assembler.flush, if_neg turns.1]
      refine ⟨rfl, ?_⟩
      intro output inside
      rw [List.mem_append, List.mem_singleton] at inside
      obtain before | rfl := inside
      · exact .inl before
      · exact .inr none_wait
    · exact ⟨rfl, fun _ before => .inl before⟩
  · rw [if_neg turns]
    exact ⟨rfl, fun _ before => .inl before⟩

theorem queueNal_slices (waits : SlicesWait codec policy) (filled : nal ≠ [])
    (at_time : SlicesAt codec timestamp assembler) :
    slices codec (assembler.queueNal policy nal timestamp).pending =
        slices codec assembler.pending ++ slices codec [nal] ∧
      SlicesAt codec timestamp (assembler.queueNal policy nal timestamp) ∧
      ∀ output ∈ (assembler.queueNal policy nal timestamp).outputs,
        output ∈ assembler.outputs ∨ slices codec output.nals = [] := by
  unfold Assembler.queueNal
  rw [if_neg filled]
  by_cases kept : policy.keeps nal = true
  · obtain ⟨same, outputs⟩ := turnTo_slices policy at_time
    rw [if_pos kept]
    refine ⟨?_, .inr rfl, outputs⟩
    rw [slices_append, same]
  · have other : slices codec [nal] = [] := by
      simp only [slices, List.filter_cons, List.filter_nil]
      exact if_neg (mt (waits nal) kept)
    rw [if_neg kept, other, List.append_nil]
    refine ⟨rfl, at_time, ?_⟩
    intro output inside
    rw [List.mem_append, List.mem_singleton] at inside
    obtain before | rfl := inside
    · exact .inl before
    · exact .inr other

theorem queueNals_slices (waits : SlicesWait codec policy) (filled : ∀ nal ∈ nals, nal ≠ [])
    (at_time : SlicesAt codec timestamp assembler) :
    slices codec (assembler.queueNals policy timestamp nals).pending =
        slices codec assembler.pending ++ slices codec nals ∧
      SlicesAt codec timestamp (assembler.queueNals policy timestamp nals) ∧
      ∀ output ∈ (assembler.queueNals policy timestamp nals).outputs,
        output ∈ assembler.outputs ∨ slices codec output.nals = [] := by
  induction nals generalizing assembler with
  | nil => exact ⟨(List.append_nil _).symm, at_time, fun _ before => .inl before⟩
  | cons nal rest ih =>
    rw [List.forall_mem_cons] at filled
    obtain ⟨same, still, outputs⟩ := queueNal_slices waits filled.1 at_time
    obtain ⟨all, after, further⟩ := ih filled.2 still
    refine ⟨?_, after, ?_⟩
    · change slices codec ((assembler.queueNal policy nal timestamp).queueNals policy timestamp
        rest).pending = _
      rw [all, same, List.append_assoc, ← slices_append, List.singleton_append]
    · intro output inside
      exact (further output inside).elim (outputs output) .inr

/-- What a packet delivers adds its slices to those that wait, and with the marker
all of them go out. -/
theorem deliver_slices (waits : SlicesWait codec policy) (filled : ∀ nal ∈ nals, nal ≠ [])
    (marker : Bool) (at_time : SlicesAt codec timestamp assembler) :
    slices codec (assembler.deliver policy nals marker timestamp).pending =
        (if marker then [] else slices codec assembler.pending ++ slices codec nals) ∧
      SlicesAt codec timestamp (assembler.deliver policy nals marker timestamp) ∧
      ∀ output ∈ (assembler.deliver policy nals marker timestamp).outputs,
        output ∈ assembler.outputs ∨ slices codec output.nals = [] ∨
          marker = true ∧ output.timestamp = timestamp ∧
            slices codec output.nals = slices codec assembler.pending ++ slices codec nals := by
  obtain ⟨all, after, outputs⟩ := queueNals_slices waits filled at_time
  cases marker with
  | false => exact ⟨all, after, fun output inside => (outputs output inside).imp_right .inl⟩
  | true =>
    change slices codec (assembler.queueNals policy timestamp nals).flush.pending = [] ∧
      SlicesAt codec timestamp (assembler.queueNals policy timestamp nals).flush ∧
      ∀ output ∈ (assembler.queueNals policy timestamp nals).flush.outputs, _
    unfold Assembler.flush
    by_cases idle : (assembler.queueNals policy timestamp nals).pending = []
    · rw [if_pos idle, idle]
      exact ⟨rfl, .inl (by rw [idle]; rfl), fun output inside => (outputs output inside).imp_right .inl⟩
    · rw [if_neg idle]
      refine ⟨rfl, .inl rfl, ?_⟩
      intro output inside
      rw [List.mem_append, List.mem_singleton] at inside
      obtain before | rfl := inside
      · exact (outputs output before).imp_right .inl
      · exact .inr (after.imp id fun stamped => ⟨rfl, stamped, all⟩)

end Slices

/-! ### One picture -/

/-- The slices up to this packet are all there, and so is the fragment it leaves
open if it belongs to a slice or follows one. -/
structure Complete (codec : NalCodec) (packet : SentPacket) (tracked : Depacketizer Assembler) :
    Prop where
  slices : slices codec tracked.assembly.pending =
    slices codec (packet.before ++ packet.piece.completes)
  fragment : HoldsPiece codec packet.piece packet.timestamp tracked.reassembly ∨
    PictureIntegrity.slices codec (packet.piece.begins ++ goesOnWith packet.piece) = [] ∧
      PictureIntegrity.slices codec packet.before = []

/-- No slice of the picture is there, and none will be. -/
structure Lost (codec : NalCodec) (packet : SentPacket) (tracked : Depacketizer Assembler) :
    Prop where
  slices : slices codec tracked.assembly.pending = []
  after : PictureIntegrity.slices codec (packet.after.flatMap begins) = []
  fragment : packet.piece.Ends ∨
    PictureIntegrity.slices codec (packet.piece.begins ++ goesOnWith packet.piece) = [] ∨
    HoldsNothing packet.timestamp tracked.reassembly

/-- Where a picture stands after the packet that was accepted last. -/
structure PictureAfter (codec : NalCodec) (packet : SentPacket) (tracked : Depacketizer Assembler) :
    Prop where
  at_time : SlicesAt codec packet.timestamp tracked.assembly
  ended : packet.after = [] → slices codec tracked.assembly.pending = []
  going : packet.after ≠ [] → Complete codec packet tracked ∨ Lost codec packet tracked

theorem completes_slices {piece : Piece}
    (none_in : slices codec (piece.begins ++ goesOnWith piece) = []) :
    slices codec piece.completes = [] := by
  cases piece with
  | single nal => simpa [begins, goesOnWith, completes] using none_in
  | aggregate first second nals => simpa [begins, goesOnWith, completes] using none_in
  | fragment nal earlier chunk later =>
    have nal_other : slices codec [nal] = [] := by
      cases earlier <;> simpa [begins, goesOnWith] using none_in
    cases later with
    | nil => exact nal_other
    | cons following rest => rfl

theorem goesOnWith_of_starts {piece : Piece} (starts : piece.Starts) : goesOnWith piece = [] := by
  cases piece with
  | fragment nal earlier chunk later =>
    change earlier = [] at starts
    subst starts
    rfl
  | _ => rfl

theorem begins_of_goes_on {piece : Piece} (goes_on : ¬ piece.Starts) : piece.begins = [] := by
  cases piece with
  | fragment nal earlier chunk later =>
    cases earlier with
    | nil => exact absurd rfl goes_on
    | cons before rest => rfl
  | _ => exact absurd trivial goes_on

/-- Two fragments next to each other are of one NAL unit, which neither completes. -/
theorem continues_facts {piece next : Piece} (continues : piece.Continues next) :
    next.begins ++ goesOnWith next = piece.begins ++ goesOnWith piece ∧ piece.completes = [] ∧
      ¬ piece.Ends ∧ ¬ next.Starts := by
  cases continues with
  | next nal earlier chunk following later =>
    have goes_on : ¬ earlier ++ [chunk] = [] := by simp
    refine ⟨?_, rfl, nofun, goes_on⟩
    cases earlier <;> simp [begins, goesOnWith]

theorem completes_filled (stream : SentStream codec) (place : stream.Place) :
    ∀ nal ∈ (stream.packet place).piece.completes, nal ≠ [] :=
  fun nal inside => valid_nal_ne_nil (sent_valid (completes_sent stream place nal inside))

/-- The pictures sent so far are whole, and the last one is in one of its states. -/
structure HoldsPictures (stream : SentStream codec) (tracked : Depacketizer Assembler)
    (last : Option Nat) : Prop where
  outputs : ∀ output ∈ tracked.assembly.outputs, WholePicture stream output.nals output.timestamp
  picture : match last with
    | none => slices codec tracked.assembly.pending = []
    | some index => ∀ inside : index < stream.packets.length,
        PictureAfter codec (stream.packet ⟨index, inside⟩) tracked

section Step
variable {policy : Policy} {stream : SentStream codec} {place : stream.Place}
variable {base : Assembler} {after : Depacketizer Assembler}

/-- With the last packet of a picture that is complete so far, all its slices are there. -/
theorem complete_is_whole (stream : SentStream codec) (place : stream.Place)
    (ended : (stream.packet place).marker = true)
    (complete : found = slices codec
      ((stream.packet place).before ++ (stream.packet place).piece.completes)) :
    ∃ unit ∈ stream.units, (stream.packet place).timestamp = unit.timestamp ∧
      found = slices codec unit.nals := by
  obtain ⟨unit, held, inside⟩ := stream.packet_unit place
  obtain ⟨stamped, -, -, whole⟩ := unit.packet_facts _ inside
  refine ⟨unit, held, stamped, ?_⟩
  rw [List.isEmpty_iff.1 ended, List.flatMap_nil, List.append_nil] at whole
  rw [complete, whole]

/-- A packet of a picture that is complete before it leaves it complete. -/
theorem picture_stays_complete (waits : SlicesWait codec policy)
    (whole : ∀ output ∈ base.outputs, WholePicture stream output.nals output.timestamp)
    (entered : slices codec base.pending = slices codec (stream.packet place).before)
    (at_time : SlicesAt codec (stream.packet place).timestamp base)
    (fragment : (stream.packet place).piece.Starts ∨
      arrival pending (stream.sequence place) (stream.packet place).timestamp = .inOrder ∧
        ¬ HoldsNothing (stream.packet place).timestamp pending ∨
      slices codec ((stream.packet place).piece.begins ++ goesOnWith (stream.packet place).piece) =
        [] ∧ slices codec (stream.packet place).before = [])
    (ends : Delivered policy stream last place pending base after ∨
      Dropped stream place pending base after) :
    HoldsPictures stream after (some place.val) := by
  obtain delivered | dropped := ends
  · obtain ⟨waiting, stamped, outputs⟩ := deliver_slices waits (completes_filled stream place)
      (stream.packet place).marker at_time
    rw [← delivered.assembly] at waiting stamped outputs
    rw [entered, ← slices_append] at waiting outputs
    refine ⟨?_, fun _ => ⟨stamped, ?_, ?_⟩⟩
    · intro output inside
      obtain before | none_in | ⟨ended, time, all⟩ := outputs output inside
      · exact whole output before
      · exact .inl none_in
      · rw [time]
        exact .inr (complete_is_whole stream place ended all)
    · intro ended
      rw [waiting, if_pos (show (stream.packet place).marker = true from List.isEmpty_iff.2 ended)]
    · intro going
      refine .inl ⟨?_, .inl delivered.holds⟩
      rw [waiting, if_neg (show ¬ (stream.packet place).marker = true from
        mt List.isEmpty_iff.1 going)]
  · have other := (fragment.resolve_left dropped.goes_on).resolve_left fun held =>
      held.2 (dropped.before held.1)
    have none_wait : slices codec after.assembly.pending = [] := by
      rw [dropped.assembly, entered, other.2]
    refine ⟨by rw [dropped.assembly]; exact whole, fun _ => ⟨.inl none_wait, fun _ => none_wait, ?_⟩⟩
    intro _
    refine .inl ⟨?_, .inr other⟩
    rw [none_wait, slices_append, other.2, completes_slices other.1, List.append_nil]

/-- A packet of a picture that is lost brings no slice of it. -/
theorem picture_stays_lost (waits : SlicesWait codec policy)
    (whole : ∀ output ∈ base.outputs, WholePicture stream output.nals output.timestamp)
    (entered : slices codec base.pending = [])
    (none_come : slices codec (toCome (stream.packet place)) = [])
    (fragment : (stream.packet place).piece.Starts ∨
      slices codec ((stream.packet place).piece.begins ++ goesOnWith (stream.packet place).piece) =
        [] ∨ ¬ ComesNext last place ∨ HoldsNothing (stream.packet place).timestamp pending)
    (ends : Delivered policy stream last place pending base after ∨
      Dropped stream place pending base after) :
    HoldsPictures stream after (some place.val) := by
  rw [toCome, slices_append, List.append_eq_nil_iff] at none_come
  obtain delivered | dropped := ends
  · have none_in : slices codec ((stream.packet place).piece.begins ++
        goesOnWith (stream.packet place).piece) = [] := by
      by_cases starts : (stream.packet place).piece.Starts
      · rw [slices_append, none_come.1, goesOnWith_of_starts starts]
        rfl
      · obtain ⟨next, held⟩ := delivered.continued.resolve_left starts
        exact (fragment.resolve_left starts).resolve_right fun broken =>
          broken.elim (fun apart => apart next) held
    have none_completed := completes_slices none_in
    obtain ⟨waiting, stamped, outputs⟩ := deliver_slices waits (completes_filled stream place)
      (stream.packet place).marker
      (Or.inl entered : SlicesAt codec (stream.packet place).timestamp base)
    rw [← delivered.assembly] at waiting stamped outputs
    rw [entered, none_completed, List.append_nil, ite_self] at waiting
    refine ⟨?_, fun _ => ⟨stamped, fun _ => waiting, fun _ => .inr ⟨waiting, none_come.2, ?_⟩⟩⟩
    · intro output inside
      obtain before | none_out | ⟨-, -, all⟩ := outputs output inside
      · exact whole output before
      · exact .inl none_out
      · rw [entered, none_completed] at all
        exact .inl all
    · exact .inr (.inl none_in)
  · have waiting : slices codec after.assembly.pending = [] := by rw [dropped.assembly, entered]
    refine ⟨by rw [dropped.assembly]; exact whole, fun _ => ⟨.inl waiting, fun _ => waiting, ?_⟩⟩
    exact fun _ => .inr ⟨waiting, none_come.2, .inr (.inr dropped.nothing)⟩

/-- One more packet, late, after the one accepted last, or at a place where the
decoder may join. -/
theorem holdsPictures_absorb (waits : SlicesWait codec policy) {tracked : Depacketizer Assembler}
    (follows : RtpReception.Follows stream tracked.reassembly last)
    (holds : HoldsPictures stream tracked last)
    (condition : JoinsPictures stream tracked.reassembly tracked.assembly.pending.isEmpty last
      place) :
    HoldsPictures stream (absorb policy stream tracked place)
      (if accepts tracked.reassembly (stream.rtpPacket place) then some place.val else last) := by
  obtain ⟨fragments, joins⟩ := condition
  obtain ⟨late, same⟩ | ⟨taken, -, base, kept, ends⟩ := absorb_cases policy follows fragments
  · rw [late, same]
    exact holds
  rw [if_pos taken]
  have whole : ∀ output ∈ base.outputs, WholePicture stream output.nals output.timestamp := by
    cases kept <;> exact holds.outputs
  by_cases next : ComesNext last place
  · obtain ⟨before, rfl, sent, expected, held⟩ := comesNext_follows follows next
    have ordered : arrival tracked.reassembly (stream.sequence place)
        (stream.packet place).timestamp = .inOrder :=
      (arrival_eq_inOrder _ _ _).2 fun _ => expected.symm
    have same : base = tracked.assembly := by
      cases kept with
      | inOrder => rfl
      | outOfOrder apart => exact absurd ordered apart
    subst same
    obtain ⟨at_time, ended, going⟩ := holds.picture before.isLt
    cases sent with
    | nextUnit last first starts =>
      refine picture_stays_complete waits whole ?_ (.inl (ended last)) (.inl starts) ends
      rw [first]
      exact ended last
    | sameUnit stamped earlier further adjacent =>
      obtain complete | lost := going (by rw [further]; exact List.cons_ne_nil _ _)
      · refine picture_stays_complete waits whole ?_ (stamped ▸ at_time) ?_ ends
        · rw [complete.slices, earlier]
        · refine adjacent.imp_right fun continues => ?_
          obtain ⟨own, unfinished, -, goes_on⟩ := continues_facts continues
          refine complete.fragment.imp (fun holds => ⟨ordered, ?_⟩) fun other => ?_
          · rw [stamped]
            exact awaits_or_nothing (stream.packet_valid place) goes_on
              (awaits_of_continues continues holds)
          · rw [own, earlier, unfinished, List.append_nil]
            exact other
      · refine picture_stays_lost waits whole lost.slices ?_ ?_ ends
        · have after := lost.after
          rw [further, List.flatMap_cons] at after
          exact after
        · refine adjacent.imp_right fun continues => ?_
          obtain ⟨own, -, unended, -⟩ := continues_facts continues
          rw [own, stamped]
          exact (lost.fragment.resolve_left unended).imp_right .inr
  · obtain ⟨free, outside⟩ := (joins taken).resolve_left next
    have entered : slices codec base.pending = [] := by
      cases kept with
      | inOrder ordered =>
        have idle := free.resolve_left fun apart => apart ordered
        rw [List.isEmpty_iff.1 idle]
        rfl
      | outOfOrder apart => rfl
    by_cases none_come : slices codec (toCome (stream.packet place)) = []
    · exact picture_stays_lost waits whole entered none_come (.inr (.inr (.inl next))) ends
    · have none_begun : slices codec (begun (stream.packet place)) = [] :=
        by_contra fun some_begun => outside ⟨some_begun, none_come⟩
      rw [begun, slices_append, List.append_eq_nil_iff] at none_begun
      refine picture_stays_complete waits whole (entered.trans none_begun.1.symm) (.inl entered)
        ?_ ends
      by_cases starts : (stream.packet place).piece.Starts
      · exact .inl starts
      · rw [begins_of_goes_on starts]
        exact .inr (.inr none_begun.symm)

end Step

/-! ### The two decoders -/

/-- The decoder holds NAL units of the stream, and its pictures are whole. -/
def HoldsBoth (policy : Policy) (stream : SentStream codec) (tracked : Depacketizer Assembler)
    (last : Option Nat) : Prop :=
  HoldsSent policy stream tracked last ∧ HoldsPictures stream tracked last

theorem holdsBoth_initial (policy : Policy) (stream : SentStream codec) :
    HoldsBoth policy stream { assembly := {} } none :=
  ⟨holdsSent_initial policy stream, nofun, rfl⟩

theorem holdsBoth_absorb {policy : Policy} {stream : SentStream codec} {place : stream.Place}
    (waits : SlicesWait codec policy) (tracked : Depacketizer Assembler) (last : Option Nat)
    (holds : HoldsBoth policy stream tracked last)
    (condition : JoinsPictures stream tracked.reassembly tracked.assembly.pending.isEmpty last
      place) :
    HoldsBoth policy stream (absorb policy stream tracked place)
      (if accepts tracked.reassembly (stream.rtpPacket place) then some place.val else last) :=
  ⟨holdsSent_absorb holds.1 condition.1,
    holdsPictures_absorb waits holds.1.follows holds.2 condition⟩

/-- In every run in which accepted packets that do not come right after the last one
find nothing pending and join no picture between its slices, every submission with
slices has all the slices of one picture. -/
theorem pictures_stay_whole (codec : NalCodec) (stream : SentStream codec)
    (arrivals : List stream.Place) :
    (∀ setup : RockchipMppRtpDecoder.Setup, setup.codec = .nal codec →
      Meets (rockchipStep setup stream)
        (WhenFed (JoinsPictures stream) fun assembly => assembly.accessUnit.isEmpty)
        rockchipStart arrivals →
      ∀ submission ∈ RockchipMppRtpDecoder.live
          (arrivals.foldl (rockchipStep setup stream) rockchipStart).decoder.assembly,
        PictureIntact stream submission) ∧
    (∀ setup : ImxVpuRtpDecoder.Setup, setup.codec = codec →
      Meets (imxStep setup stream)
        (WhenFed (JoinsPictures stream) fun assembly => assembly.accessUnit.isEmpty)
        imxStart arrivals →
      ∀ submission ∈ (arrivals.foldl (imxStep setup stream) imxStart).decoder.assembly.pushed,
        PictureIntact stream submission) := by
  constructor
  · intro setup same meets submission inside
    rw [rockchipStep, RockchipMppRtpDecoder.handleRtpPacket_nal setup codec same] at meets inside
    obtain ⟨tracked, last, holds, submitted⟩ := outputs_after_run
      (RockchipMppRtpDecoder.refinement setup codec same)
      (HoldsBoth (RockchipMppRtpDecoder.policy codec) stream) rockchip_idle
      (fun tracked last _ => holdsBoth_absorb (fun _ slice => slice) tracked last)
      (holdsBoth_initial _ _) ⟨rfl, rfl, fun _ => rfl, rfl⟩ arrivals meets
    obtain ⟨output, among, rfl⟩ := submitted submission inside
    have made := holds.1.made.outputs output among
    have rendered := rockchip_render made
    change PictureIntact stream (RockchipMppRtpDecoder.render output)
    rw [rendered]
    exact ⟨output.nals, (nals_of_made made).1, rfl, holds.2.outputs output among⟩
  · intro setup same meets submission inside
    subst same
    obtain ⟨tracked, last, holds, submitted⟩ := outputs_after_run
      (ImxVpuRtpDecoder.refinement setup) (HoldsBoth ImxVpuRtpDecoder.policy stream) imx_idle
      (fun tracked last _ => holdsBoth_absorb (fun _ _ => rfl) tracked last)
      (holdsBoth_initial _ _) ⟨rfl, rfl, fun _ => rfl, rfl⟩ arrivals meets
    obtain ⟨output, among, rfl⟩ := submitted submission inside
    have made := holds.1.made.outputs output among
    exact ⟨output.nals, (nals_of_made made).1, rfl, holds.2.outputs output among⟩

/-- A picture of two slices. -/
def twoSlices (timestamp : UInt32) : SentUnit .h264 where
  timestamp
  parts := [.single [0x65, 1], .single [0x65, 2]]
  filled := nofun
  valid := List.forall_mem_cons.2 ⟨(by decide : ValidNal .h264 [0x65, 1]),
    List.forall_mem_singleton.2 (by decide : ValidNal .h264 [0x65, 2])⟩

/-- Two pictures of two slices and one of a slice in three fragments. -/
def pictureStream : SentStream .h264 where
  units := [twoSlices 3000, twoSlices 6000, splitUnit]
  firstSequence := 65534
  header := fun _ => .plain

/-- The second picture loses its last slice and the third one its first fragment. -/
def pictureArrivals : List pictureStream.Place :=
  [⟨0, by decide⟩, ⟨1, by decide⟩, ⟨2, by decide⟩, ⟨5, by decide⟩, ⟨6, by decide⟩, ⟨2, by decide⟩]

theorem pictures_stay_whole_after_loss :
    (∀ submission ∈ RockchipMppRtpDecoder.live
        (pictureArrivals.foldl (rockchipStep (plainRockchip .h264) pictureStream)
          rockchipStart).decoder.assembly,
      PictureIntact pictureStream submission) ∧
    ∀ submission ∈ (pictureArrivals.foldl (imxStep (plainImx .h264) pictureStream)
        imxStart).decoder.assembly.pushed,
      PictureIntact pictureStream submission :=
  ⟨(pictures_stay_whole .h264 pictureStream pictureArrivals).1 (plainRockchip .h264) rfl
      (by decide +kernel),
    (pictures_stay_whole .h264 pictureStream pictureArrivals).2 (plainImx .h264) rfl
      (by decide +kernel)⟩

/-! ### A picture that is joined after its first slice -/

def joinedStream : SentStream .h264 where
  units := [twoSlices 3000]
  firstSequence := 0
  header := fun _ => .plain

/-- A lone slice of two is not the slices of a picture. -/
theorem second_slice_not_intact : ¬ PictureIntact joinedStream ⟨annexB [[0x65, 2]], 3000⟩ := by
  rintro ⟨nals, filled, data, whole⟩
  obtain ⟨nal, rest, rfl⟩ := List.exists_cons_of_ne_nil filled
  have total := congrArg List.length data
  change 6 = (annexB (nal :: rest)).length at total
  rw [length_annexB_cons] at total
  cases rest with
  | cons other further =>
    rw [length_annexB_cons] at total
    omega
  | nil =>
    rw [annexB_single, annexB_single] at data
    have same : nal = [0x65, 2] := (List.append_cancel_left data).symm
    subst same
    obtain none_in | ⟨unit, held, -, all⟩ := whole
    · exact absurd none_in (by decide)
    · rw [List.mem_singleton.1 held] at all
      exact absurd all (by decide)

theorem second_slice_submitted_alone :
    (¬ ∀ (stream : SentStream .h264) (arrivals : List stream.Place), stream.Conformant →
      ∀ submission ∈ RockchipMppRtpDecoder.live
          (arrivals.foldl (rockchipStep (plainRockchip .h264) stream)
            rockchipStart).decoder.assembly,
        PictureIntact stream submission) ∧
    ¬ ∀ (stream : SentStream .h264) (arrivals : List stream.Place), stream.Conformant →
      ∀ submission ∈
          (arrivals.foldl (imxStep (plainImx .h264) stream) imxStart).decoder.assembly.pushed,
        PictureIntact stream submission := by
  have conformant : joinedStream.Conformant := ⟨by decide, by decide⟩
  constructor <;> intro claimed
  · exact second_slice_not_intact
      (claimed joinedStream [⟨1, by decide⟩] conformant _ (by decide +kernel))
  · exact second_slice_not_intact
      (claimed joinedStream [⟨1, by decide⟩] conformant _ (by decide +kernel))

end Glide.PictureIntegrity
