import Glide.CedarNalUnits
import Glide.RtpFeed

/-! Runs of the Cedar decoder. What it submits is made of packets in an unbroken row and
begins like a picture; an IDR slice comes first after a discard unless something was
discarded quietly. -/
namespace Glide.CedarIntegrity
open RtpPackets NalPayloads CedarRtpDecoder CedarAccessUnits CedarNalUnits RtpFeed Library.Runs
open RtpDepacketizer (andThen andThen_keeps)

/-! ### Packets -/

theorem appendWholeNal_requests (kind : UInt8) (nal : List UInt8) (timestamp : UInt32)
    (assembly : Assembly) :
    (appendWholeNal kind nal timestamp assembly).2.requests = assembly.requests := by
  apply andThen_keeps
  · have cached : (cacheParameterSet nal assembly).requests = assembly.requests := by
      unfold cacheParameterSet
      (repeat' split) <;> rfl
    rw [← cached]
    unfold admitNal
    dsimp only
    (repeat' split) <;> rfl
  · exact fun _ => rfl

theorem appendForm_requests (behind : UInt8) (payload : List UInt8) (timestamp : UInt32)
    (assembly : Assembly) :
    (appendForm behind payload timestamp assembly).2.requests = assembly.requests := by
  have aggregate : ∀ units assembly,
      (appendStapNals timestamp units assembly).2.requests = assembly.requests := by
    intro units
    induction units with
    | nil => exact fun _ => rfl
    | cons unit rest ih =>
      exact fun assembly => andThen_keeps (appendWholeNal_requests _ _ timestamp assembly) ih
  have fragment : ∀ start finish reconstructed data,
      (appendFragment start finish reconstructed data timestamp assembly).2.requests =
        assembly.requests := by
    intro start finish reconstructed data
    unfold appendFragment
    split
    · apply andThen_keeps
      · unfold admitNal
        dsimp only
        (repeat' split) <;> rfl
      · exact fun _ => rfl
    · split <;> rfl
  unfold appendForm
  split
  · rfl
  · dsimp only
    split
    · exact appendWholeNal_requests ..
    · split
      · exact aggregate ..
      · split
        · split
          · rfl
          · exact fragment ..
        · rfl

/-- The packet belongs to another access unit than the one at hand. -/
def Turns (assembly : Assembly) (timestamp : UInt32) : Prop :=
  assembly.haveTimestamp = true ∧ timestamp ≠ assembly.currentTimestamp ∧ assembly.accessUnit ≠ []

instance (assembly : Assembly) (timestamp : UInt32) : Decidable (Turns assembly timestamp) := by
  unfold Turns
  infer_instance

theorem turnTo_cases (setup : Setup) (timestamp : UInt32) (assembly : Assembly) :
    ¬ Turns assembly timestamp ∧ turnTo setup timestamp assembly = (true, assembly) ∨
    Turns assembly timestamp ∧ assembly.fuStarted = true ∧
      turnTo setup timestamp assembly = (true, resetAccessUnit assembly) ∨
    Turns assembly timestamp ∧ assembly.fuStarted = false ∧
      turnTo setup timestamp assembly = submitAccessUnit setup assembly := by
  by_cases turns : Turns assembly timestamp
  · apply Or.inr
    have taken : turnTo setup timestamp assembly =
        if assembly.fuStarted then (true, resetAccessUnit assembly)
        else submitAccessUnit setup assembly := if_pos turns
    rw [taken]
    cases started : assembly.fuStarted with
    | true => exact .inl ⟨turns, rfl, rfl⟩
    | false => exact .inr ⟨turns, rfl, rfl⟩
  · exact .inl ⟨turns, if_neg turns⟩

/-- What the end of an access unit leaves alone. -/
structure Unturned (before after : Assembly) : Prop where
  requireIdr : after.requireIdr = before.requireIdr
  droppingTimestamp : after.droppingTimestamp = before.droppingTimestamp
  packets : after.packets = before.packets
  requests : after.requests = before.requests ∨ after.requests = before.requests + 1

theorem submitAccessUnit_unturned (setup : Setup) (assembly : Assembly) :
    Unturned assembly (submitAccessUnit setup assembly).2 := by
  unfold submitAccessUnit
  split
  · exact ⟨rfl, rfl, rfl, .inl rfl⟩
  · dsimp only
    split
    · exact ⟨rfl, rfl, rfl, .inr rfl⟩
    · exact ⟨rfl, rfl, rfl, .inr rfl⟩
    · split <;> exact ⟨rfl, rfl, rfl, .inr rfl⟩

theorem turnTo_unturned (setup : Setup) (timestamp : UInt32) (assembly : Assembly) :
    Unturned assembly (turnTo setup timestamp assembly).2 := by
  obtain ⟨-, same⟩ | ⟨-, -, same⟩ | ⟨-, -, same⟩ := turnTo_cases setup timestamp assembly
  · rw [same]
    exact ⟨rfl, rfl, rfl, .inl rfl⟩
  · rw [same]
    exact ⟨rfl, rfl, rfl, .inl rfl⟩
  · rw [same]
    exact submitAccessUnit_unturned setup assembly

theorem sound_turnTo (setup : Setup) (timestamp : UInt32) (sound : Sound next assembly) :
    Sound next (turnTo setup timestamp assembly).2 := by
  obtain ⟨-, same⟩ | ⟨-, -, same⟩ | ⟨-, closed, same⟩ := turnTo_cases setup timestamp assembly
  · rw [same]
    exact sound
  · rw [same]
    exact sound_resetAccessUnit sound next
  · rw [same]
    exact sound_submitAccessUnit setup sound closed

/-- What a packet finds that leads to no discard for which no IDR slice is awaited. -/
structure FindsItsPlace (behind : UInt8) (packet : RtpPacket) (assembly : Assembly) : Prop where
  whole : Turns assembly packet.timestamp → assembly.fuStarted = false
  begins : assembly.accessUnitHasVcl = true ∧ ¬ Turns assembly packet.timestamp ∨
    FirstSliceStarts (beginnings behind packet.payload)
  continues : isLaterFragment packet.payload = true →
    assembly.fuStarted = true ∧ assembly.fuTimestamp = packet.timestamp

theorem resyncs_turnTo (setup : Setup) (packet : RtpPacket) (resyncs : Resyncs assembly)
    (granted : setup.requestBuffer assembly.requests = .granted)
    (fits : assembly.requireIdr = true ∨ FindsItsPlace behind packet assembly) :
    Resyncs (turnTo setup packet.timestamp assembly).2 ∧
      ((turnTo setup packet.timestamp assembly).2.requireIdr = true ∨
        Fits behind packet.payload packet.timestamp
          (turnTo setup packet.timestamp assembly).2) := by
  have requires := (turnTo_unturned setup packet.timestamp assembly).requireIdr
  obtain ⟨stays, same⟩ | ⟨turns, started, same⟩ | ⟨turns, closed, same⟩ :=
    turnTo_cases setup packet.timestamp assembly
  · rw [same]
    refine ⟨resyncs, fits.imp_right fun place => ⟨?_, place.continues⟩⟩
    exact place.begins.imp_left And.left
  · have awaited : assembly.requireIdr = true := by
      obtain awaited | place := fits
      · exact awaited
      · have closed := place.whole turns
        rw [started] at closed
        cases closed
    rw [requires]
    rw [same]
    exact ⟨resyncs_resetAccessUnit resyncs awaited, .inl awaited⟩
  · rw [requires]
    rw [same]
    refine ⟨resyncs_submitAccessUnit setup resyncs granted, fits.imp_right fun place => ?_⟩
    constructor
    · exact .inr (place.begins.resolve_left fun stays => stays.2 turns)
    · intro later
      have started := (place.continues later).1
      rw [closed] at started
      cases started

theorem sound_accept (packet : RtpPacket) (sound : Sound packet.sequence assembly) :
    Sound (packet.sequence + 1) (accept packet assembly) := by
  constructor
  · apply List.isChain_append.2
    refine ⟨sound.contiguous, List.isChain_singleton _, ?_⟩
    rintro last inside other first
    cases first
    exact sound.next last inside
  · intro last inside
    change last ∈ (acceptedSinceReset assembly.log ++ [_]).getLast? at inside
    rw [List.getLast?_append] at inside
    cases inside
    rfl
  · apply sound.shaped.mono
    intro packet inside
    simp only [accept, acceptedSinceReset, List.map_append, List.mem_append]
    exact .inl inside
  · exact sound.sps
  · exact sound.pps
  · exact sound.hasVcl
  · exact sound.started
  · exact sound.submitted.cons nofun

theorem resyncs_accept (packet : RtpPacket) (resyncs : Resyncs assembly) :
    Resyncs (accept packet assembly) := { resyncs with resumes := resyncs.resumes.accepted }

theorem current_accept (packet : RtpPacket) (keeps : assembly.droppingTimestamp = false) :
    Current (accept packet assembly) := by
  constructor
  · simp [accept, acceptedSinceReset]
  · exact keeps

theorem submitIfMarked_keeps (setup : Setup) (marker : Bool) (sound : Sound next assembly) :
    Sound next (submitIfMarked setup marker assembly).2 ∧
      (Resyncs assembly → setup.requestBuffer assembly.requests = .granted →
        Resyncs (submitIfMarked setup marker assembly).2) := by
  unfold submitIfMarked
  split
  · rename_i marked
    exact ⟨sound_submitAccessUnit setup sound marked.2.2, resyncs_submitAccessUnit setup⟩
  · exact ⟨sound, fun resyncs _ => resyncs⟩

/-- A packet either keeps everything or ends the feed. -/
structure Keeps (next : UInt16) (result : Bool × Assembly) : Prop where
  sound : result.1 = true → Sound next result.2
  submitted : UnitsIntact result.2.log

theorem appendPacket_keeps (setup : Setup) (behind : UInt8) (packet : RtpPacket)
    (sound : Sound packet.sequence assembly) (keeps : assembly.droppingTimestamp = false) :
    Keeps (packet.sequence + 1) (appendPacket setup behind packet assembly) ∧
      (Resyncs assembly →
        setup.requestBuffer assembly.requests = .granted →
        setup.requestBuffer (assembly.requests + 1) = .granted →
        assembly.requireIdr = true ∨ FindsItsPlace behind packet assembly →
        Resyncs (appendPacket setup behind packet assembly).2) := by
  have turned := sound_turnTo setup packet.timestamp sound
  have unturned := turnTo_unturned setup packet.timestamp assembly
  have resumed := fun (resyncs : Resyncs assembly) granted
      (fits : assembly.requireIdr = true ∨ FindsItsPlace behind packet assembly) =>
    resyncs_turnTo setup packet resyncs granted fits
  unfold appendPacket andThen
  by_cases done : (turnTo setup packet.timestamp assembly).1 = true
  · rw [if_pos done]
    generalize (turnTo setup packet.timestamp assembly).2 = ended at *
    have accepted := sound_accept packet turned
    obtain ⟨kept, fitted⟩ := appendForm_keeps behind packet.payload packet.timestamp accepted
      (current_accept packet (unturned.droppingTimestamp.trans keeps))
    have requests : (appendForm behind packet.payload packet.timestamp
        (accept packet ended)).2.requests = ended.requests := appendForm_requests ..
    have further := fun resyncs granted fits => fitted
      (resyncs_accept packet (resumed resyncs granted fits).1)
      ((resumed resyncs granted fits).2.imp id fun place => ⟨place.begins, place.continues⟩)
    have marked := submitIfMarked_keeps setup packet.marker kept
    dsimp only
    split
    · refine ⟨⟨fun _ => marked.1, marked.1.submitted⟩, fun resyncs first second fits => ?_⟩
      apply marked.2 (further resyncs first fits)
      rw [requests]
      obtain same | more := unturned.requests
      · rw [same]
        exact first
      · rw [more]
        exact second
    · exact ⟨⟨fun _ => kept, kept.submitted⟩,
        fun resyncs first _ fits => further resyncs first fits⟩
  · rw [if_neg done]
    refine ⟨⟨fun going => absurd going done, turned.submitted⟩, ?_⟩
    exact fun resyncs first _ fits => (resumed resyncs first fits).1

/-! ### Runs -/

/-- The decoder expects the number that continues what it accepted. -/
structure DecoderSound (decoder : Decoder) : Prop where
  fresh : decoder.haveSequence = false → acceptedSinceReset decoder.assembly.log = []
  sound : Sound decoder.expectedSequence decoder.assembly

/-- A packet whose number is neither behind nor ahead is the expected one. -/
theorem expected_of_sequenceDelta {sequence : UInt16} (known : decoder.haveSequence = true)
    (onTime : ¬ sequenceDelta decoder sequence < 0)
    (ahead : ¬ sequenceDelta decoder sequence > 0) :
    sequence = decoder.expectedSequence := by
  rw [sequenceDelta, if_pos known] at onTime ahead
  have none_apart : (sequence - decoder.expectedSequence).toInt16 = 0 :=
    Int16.le_antisymm (Int16.not_lt.1 ahead) (Int16.not_lt.1 onTime)
  have apart := congrArg Int16.toUInt16 none_apart
  rw [UInt16.toUInt16_toInt16] at apart
  rw [UInt16.sub_eq_iff_eq_add.1 apart]
  exact UInt16.zero_add _

theorem checkSequence_keeps {sequence : UInt16} (sound : DecoderSound decoder)
    (onTime : ¬ sequenceDelta decoder sequence < 0) :
    Sound sequence (checkSequence sequence decoder).assembly ∧
      (Resyncs decoder.assembly → Resyncs (checkSequence sequence decoder).assembly) := by
  unfold checkSequence
  by_cases ahead : sequenceDelta decoder sequence > 0
  · rw [if_pos ahead]
    refine ⟨{ sound_resetAccessUnit sound.sound sequence with }, fun resyncs => ?_⟩
    constructor
    · exact resyncs.resumes.discarded rfl
    · exact fun _ => rfl
    · exact fun _ => rfl
  · rw [if_neg ahead]
    refine ⟨{ sound.sound with next := ?_ }, id⟩
    intro last inside
    by_cases known : decoder.haveSequence = true
    · rw [expected_of_sequenceDelta known onTime ahead]
      exact sound.sound.next last inside
    · change last ∈ (acceptedSinceReset decoder.assembly.log).getLast? at inside
      rw [sound.fresh (Bool.eq_false_of_not_eq_true known)] at inside
      cases inside

instance (behind : UInt8) (packet : RtpPacket) (assembly : Assembly) :
    Decidable (FindsItsPlace behind packet assembly) :=
  decidable_of_iff ((Turns assembly packet.timestamp → assembly.fuStarted = false) ∧
      (assembly.accessUnitHasVcl = true ∧ ¬ Turns assembly packet.timestamp ∨
        FirstSliceStarts (beginnings behind packet.payload)) ∧
      (isLaterFragment packet.payload = true →
        assembly.fuStarted = true ∧ assembly.fuTimestamp = packet.timestamp))
    ⟨fun ⟨whole, begins, continues⟩ => ⟨whole, begins, continues⟩,
      fun place => ⟨place.whole, place.begins, place.continues⟩⟩

/-- Unless it is skipped or late, the packet finds buffers for what it submits, and it
finds its place in the stream, or a gap before it or an IDR slice is awaited. -/
def LosesNothing (setup : Setup) (decoder : Decoder) (datagram : List UInt8) : Prop :=
  ∀ packet ∈ parseRtpPacket datagram,
    ¬ (decoder.assembly.droppingTimestamp = true ∧
      packet.timestamp = decoder.assembly.dropTimestamp) →
    ¬ sequenceDelta decoder packet.sequence < 0 →
    setup.requestBuffer decoder.assembly.requests = .granted ∧
      setup.requestBuffer (decoder.assembly.requests + 1) = .granted ∧
      (sequenceDelta decoder packet.sequence > 0 ∨ decoder.assembly.requireIdr = true ∨
        FindsItsPlace (byteBehind setup datagram decoder) packet decoder.assembly)

instance (setup : Setup) (decoder : Decoder) (datagram : List UInt8) :
    Decidable (LosesNothing setup decoder datagram) := by
  unfold LosesNothing
  infer_instance

/-- A packet that is neither skipped nor late. -/
theorem taken_keeps (setup : Setup) (behind : UInt8) (packet : RtpPacket)
    (sound : DecoderSound decoder) (keeps : decoder.assembly.droppingTimestamp = false)
    (onTime : ¬ sequenceDelta decoder packet.sequence < 0) :
    let checked := checkSequence packet.sequence decoder
    Keeps (packet.sequence + 1) (appendPacket setup behind packet checked.assembly) ∧
      (Resyncs decoder.assembly →
        setup.requestBuffer decoder.assembly.requests = .granted →
        setup.requestBuffer (decoder.assembly.requests + 1) = .granted →
        sequenceDelta decoder packet.sequence > 0 ∨ decoder.assembly.requireIdr = true ∨
          FindsItsPlace behind packet decoder.assembly →
        Resyncs (appendPacket setup behind packet checked.assembly).2) := by
  obtain ⟨checkedSound, checkedResyncs⟩ := checkSequence_keeps sound onTime
  have still : (checkSequence packet.sequence decoder).assembly.droppingTimestamp = false := by
    unfold checkSequence
    split <;> exact keeps
  have requests : (checkSequence packet.sequence decoder).assembly.requests =
      decoder.assembly.requests := by
    unfold checkSequence
    split <;> rfl
  obtain ⟨kept, resumed⟩ := appendPacket_keeps setup behind packet checkedSound still
  refine ⟨kept, fun resyncs first second fits => ?_⟩
  rw [← requests] at first second
  apply resumed (checkedResyncs resyncs) first second
  unfold checkSequence
  by_cases ahead : sequenceDelta decoder packet.sequence > 0
  · rw [if_pos ahead]
    exact .inl rfl
  · rw [if_neg ahead]
    exact fits.resolve_left ahead

/-- Nothing but an awaited IDR slice waits while packets are skipped. -/
theorem resyncs_skipped (sound : Sound next assembly) (resyncs : Resyncs assembly)
    (awaited : assembly.requireIdr = true) :
    Resyncs { assembly with log := .skipped :: assembly.log } := by
  have none : sliceKinds assembly.accessUnit = [] := by
    rw [sliceKinds, sound.hasVcl.1 (resyncs.awaits awaited)]
    rfl
  refine { resyncs with resumes := ?_ }
  change Resumes (sliceKinds assembly.accessUnit) assembly.requireIdr _
  rw [none, awaited]
  exact resyncs.resumes.discarded rfl

theorem handleRtpPacket_keeps (setup : Setup) (datagram : List UInt8)
    (sound : DecoderSound decoder) :
    UnitsIntact (handleRtpPacket setup datagram decoder).2.assembly.log ∧
      ((handleRtpPacket setup datagram decoder).1 = true →
        DecoderSound (handleRtpPacket setup datagram decoder).2) ∧
      (Resyncs decoder.assembly → LosesNothing setup decoder datagram →
        Resyncs (handleRtpPacket setup datagram decoder).2.assembly) := by
  have submitted := sound.sound.submitted
  unfold handleRtpPacket
  cases parsed : parseRtpPacket datagram with
  | none => exact ⟨submitted, fun _ => sound, fun resyncs _ => resyncs⟩
  | some packet =>
    dsimp only
    unfold appendH264Payload
    by_cases empty : packet.payload = []
    · rw [if_pos empty]
      exact ⟨submitted, fun _ => ⟨sound.fresh, { sound.sound with }⟩,
        fun resyncs _ => { resyncs with }⟩
    rw [if_neg empty]
    by_cases skipped : decoder.assembly.droppingTimestamp = true ∧
        packet.timestamp = decoder.assembly.dropTimestamp
    · have skips : (countPacket decoder).assembly.droppingTimestamp = true ∧
          packet.timestamp = (countPacket decoder).assembly.dropTimestamp := skipped
      rw [if_pos skips]
      refine ⟨submitted.cons nofun, fun _ => ⟨sound.fresh,
        { sound.sound with submitted := submitted.cons nofun }⟩, fun resyncs _ => ?_⟩
      exact { resyncs_skipped sound.sound resyncs (resyncs.dropping skipped.1) with }
    · have takes : ¬ ((countPacket decoder).assembly.droppingTimestamp = true ∧
          packet.timestamp = (countPacket decoder).assembly.dropTimestamp) := skipped
      rw [if_neg takes]
      dsimp only
      have ready : DecoderSound { countPacket decoder with assembly :=
          { (countPacket decoder).assembly with droppingTimestamp := false } } :=
        ⟨sound.fresh, { sound.sound with }⟩
      have resumed : Resyncs decoder.assembly →
          Resyncs { (countPacket decoder).assembly with droppingTimestamp := false } :=
        fun resyncs => { resyncs with dropping := nofun }
      split
      · exact ⟨submitted, fun _ => ⟨ready.fresh, ready.sound⟩, fun resyncs _ => resumed resyncs⟩
      · rename_i onTime
        obtain ⟨kept, loud⟩ :=
          taken_keeps setup (byteBehind setup datagram decoder) packet ready rfl onTime
        refine ⟨kept.submitted, fun going => ⟨nofun, kept.sound going⟩, ?_⟩
        intro resyncs loses_nothing
        obtain ⟨first, second, place⟩ := loses_nothing packet parsed skipped onTime
        apply loud (resumed resyncs) first second
        refine place.imp_right (Or.imp_right fun place => ?_)
        exact ⟨place.whole, place.begins, place.continues⟩

abbrev cedarStep (setup : Setup) := receive (handleRtpPacket setup)

abbrev cedarStart : Feed Decoder := { decoder := {} }

theorem decoderSound_initial : DecoderSound {} := by
  refine ⟨fun _ => rfl, ?_⟩
  constructor
  · exact List.isChain_nil
  · exact nofun
  · exact .nil
  · exact nofun
  · exact nofun
  · exact ⟨fun _ => rfl, fun _ => rfl⟩
  · exact nofun
  · exact unitsIntact_nil

theorem resyncs_initial : Resyncs {} := ⟨resumes_nil, fun _ => rfl, nofun⟩

/-- Whatever packets come, every access unit that is submitted begins with a delimiter, is
made of packets in a row and begins its picture. In every run in which nothing is lost
where no IDR slice is awaited for it, the first slice after a discard is an IDR slice. -/
theorem access_units_intact (setup : Setup) (datagrams : List (List UInt8)) :
    UnitsIntact (datagrams.foldl (cedarStep setup) cedarStart).decoder.assembly.log ∧
      (Meets (cedarStep setup) (WhenRunning (LosesNothing setup)) cedarStart datagrams →
        ResumesWithIdr (datagrams.foldl (cedarStep setup) cedarStart).decoder.assembly.log) := by
  constructor
  · have weaker : ∀ decoder, DecoderSound decoder → UnitsIntact decoder.assembly.log :=
      fun decoder sound => sound.sound.submitted
    have kept : ∀ decoder datagram, DecoderSound decoder → True →
        UnitsIntact (handleRtpPacket setup datagram decoder).2.assembly.log ∧
          ((handleRtpPacket setup datagram decoder).1 = true →
            DecoderSound (handleRtpPacket setup datagram decoder).2) := by
      intro decoder datagram sound _
      obtain ⟨submitted, kept, -⟩ := handleRtpPacket_keeps setup datagram sound
      exact ⟨submitted, kept⟩
    apply invariant_after_feed weaker kept decoderSound_initial datagrams
    exact meets_of_always (fun _ _ _ => trivial) datagrams _
  · have weaker : ∀ decoder, DecoderSound decoder ∧ Resyncs decoder.assembly →
        ResumesWithIdr decoder.assembly.log :=
      fun decoder holds => holds.2.resumes.resumesWithIdr
    have kept : ∀ decoder datagram, DecoderSound decoder ∧ Resyncs decoder.assembly →
        LosesNothing setup decoder datagram →
        ResumesWithIdr (handleRtpPacket setup datagram decoder).2.assembly.log ∧
          ((handleRtpPacket setup datagram decoder).1 = true →
            DecoderSound (handleRtpPacket setup datagram decoder).2 ∧
              Resyncs (handleRtpPacket setup datagram decoder).2.assembly) := by
      rintro decoder datagram ⟨sound, resyncs⟩ loses_nothing
      obtain ⟨-, kept, resumed⟩ := handleRtpPacket_keeps setup datagram sound
      have after := resumed resyncs loses_nothing
      exact ⟨after.resumes.resumesWithIdr, fun going => ⟨kept going, after⟩⟩
    exact invariant_after_feed weaker kept ⟨decoderSound_initial, resyncs_initial⟩ datagrams

/-- An IDR slice and two pictures that build on it. -/
def threePictures : List (List UInt8) :=
  [rtpBytes .plain ⟨true, 7, 1000, [0x65, 0x88, 0x84]⟩,
    rtpBytes .plain ⟨true, 8, 2500, [0x41, 0x9a, 0x21]⟩,
    rtpBytes .plain ⟨true, 9, 4000, [0x41, 0x9a, 0x42]⟩]

def grantingSetup : Setup where
  requestBuffer := fun _ => .granted
  submitData := fun _ => true
  decodeStream := fun _ => true
  behindDatagram := fun _ => 0

/-- The buffer is full when the second access unit comes. -/
def fullSetup : Setup where
  requestBuffer := fun number => if number = 1 then .refused else .granted
  submitData := fun _ => true
  decodeStream := fun _ => true
  behindDatagram := fun _ => 0

/-- A picture is discarded because the buffer is full, and the next one, which builds on
it, is submitted. -/
theorem full_buffer_goes_unnoticed :
    ¬ ResumesWithIdr (threePictures.foldl (cedarStep fullSetup) cedarStart).decoder.assembly.log := by
  have log : (threePictures.foldl (cedarStep fullSetup) cedarStart).decoder.assembly.log =
      [.submitted [.delimiter, .nal 3 [0x41, 0x9a, 0x42]] 4000, .accepted 3 9] ++ .reset ::
        [.accepted 2 8, .submitted [.delimiter, .nal 1 [0x65, 0x88, 0x84]] 1000, .accepted 1 7] := by
    decide +kernel
  intro resumes
  have first := resumes _ _ _ log rfl 1 (by decide +kernel)
  exact absurd first (by decide)

/-- An IDR slice, the rest of a picture whose first packet is lost, a picture that builds on
it, another IDR slice together with an empty unit, and a picture that builds on that. -/
def pictureLost : List (List UInt8) :=
  let padded : HeaderOptions :=
    { HeaderOptions.plain with padding := some [0x0c], padding_le := by simp }
  [rtpBytes .plain ⟨true, 7, 1000, [0x65, 0x88, 0x84]⟩,
    rtpBytes .plain ⟨true, 9, 2500, [0x41, 0x46, 0x22]⟩,
    rtpBytes .plain ⟨true, 10, 4000, [0x41, 0x9a, 0x42]⟩,
    rtpBytes padded ⟨true, 11, 5500, [0x78, 0, 3, 0x65, 0x88, 0x85, 0, 0]⟩,
    rtpBytes .plain ⟨true, 12, 7000, [0x41, 0x9a, 0x63]⟩]

/-- With room for every access unit it is the gap that discards, and both pictures up to the
IDR slice are left out. -/
theorem granted_buffers_resume :
    (pictureLost.foldl (cedarStep grantingSetup) cedarStart).decoder.assembly.log =
      [.submitted [.delimiter, .nal 5 [0x41, 0x9a, 0x63]] 7000, .accepted 5 12,
        .submitted [.delimiter, .nal 4 [0x65, 0x88, 0x85], .nal 4 []] 5500, .accepted 4 11,
        .reset, .accepted 3 10, .reset, .accepted 2 9, .reset,
        .submitted [.delimiter, .nal 1 [0x65, 0x88, 0x84]] 1000, .accepted 1 7] ∧
      ResumesWithIdr
        (pictureLost.foldl (cedarStep grantingSetup) cedarStart).decoder.assembly.log :=
  ⟨by decide +kernel, (access_units_intact grantingSetup pictureLost).2 (by decide +kernel)⟩

end Glide.CedarIntegrity
