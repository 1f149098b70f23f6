import Glide.RtpFeed
import Glide.RockchipMppRtpDecoder

/-! What the feed thread of the Rockchip decoder hands to the hardware. The decoder is run
with a record of the NAL units it queued and the packets it submitted, which nothing in
the decoder reads. -/
namespace Glide.RockchipSubmissions
open RtpPackets NalPayloads RtpDepacketizer RockchipMppRtpDecoder RtpFeed Library.Runs

inductive Happening where
  | queued (nal : List UInt8) (timestamp : UInt32)
  | submitted (packet : Submitted)
  deriving DecidableEq, Repr

structure Recorded where
  assembly : Assembly := {}
  /-- The newest happening first. -/
  history : List Happening := []

/-- The packets that were submitted on the way from one state to the other are added. -/
def extended (before after : Assembly) (history : List Happening) : List Happening :=
  ((after.submitted.drop before.submitted.length).map .submitted).reverse ++ history

def noting (before : Recorded) (result : Bool × Assembly) : Bool × Recorded :=
  (result.1, {
    assembly := result.2
    history := extended before.assembly result.2 before.history })

def recordingOps (setup : Setup) : AssemblyOps Recorded where
  count := fun counted recorded => { recorded with assembly := count counted recorded.assembly }
  discard := fun recorded => { recorded with assembly := discard recorded.assembly }
  queueNal := fun nal timestamp recorded =>
    noting { recorded with history := .queued nal timestamp :: recorded.history }
      (queueNal setup nal timestamp recorded.assembly)
  flush := fun recorded => noting recorded (flushAccessUnit setup recorded.assembly)
  flushesCutAggregate := true

def recordRtpPacket (setup : Setup) (codec : NalCodec) (packet : List UInt8)
    (decoder : Depacketizer Recorded) : Bool × Depacketizer Recorded :=
  RtpDepacketizer.handleRtpPacket (recordingOps setup)
    (appendNalPayload (recordingOps setup) codec) packet decoder

theorem recording_views (setup : Setup) :
    Views (recordingOps setup) (ops setup) Recorded.assembly where
  counted := fun _ _ => rfl
  discarded := fun _ => rfl
  queued := fun _ _ _ => rfl
  flushed := fun _ => rfl
  sameCut := rfl

abbrev rockchipStart : Feed (Depacketizer Assembly) := { decoder := { assembly := {} } }

abbrev recordedStart : Feed (Depacketizer Recorded) := { decoder := { assembly := {} } }

def recordedRun (setup : Setup) (codec : NalCodec) (datagrams : List (List UInt8)) : Recorded :=
  (datagrams.foldl (receive (recordRtpPacket setup codec)) recordedStart).decoder.assembly

/-- The record changes nothing. -/
theorem recordedRun_assembly (setup : Setup) (codec : NalCodec) (same : setup.codec = .nal codec)
    (datagrams : List (List UInt8)) :
    (recordedRun setup codec datagrams).assembly =
      (datagrams.foldl (receive (handleRtpPacket setup)) rockchipStart).decoder.assembly := by
  let forget (feed : Feed (Depacketizer Recorded)) : Feed (Depacketizer Assembly) :=
    { decoder := Views.onDecoder Recorded.assembly feed.decoder, running := feed.running }
  have stepped : ∀ feed datagram, receive (handleRtpPacket setup) (forget feed) datagram =
      forget (receive (recordRtpPacket setup codec) feed datagram) := by
    intro feed datagram
    have viewed := (recording_views setup).handleRtpPacket codec datagram feed.decoder
    unfold receive
    rw [handleRtpPacket_nal setup codec same]
    dsimp only [forget]
    split
    · rw [viewed]
      rfl
    · rfl
  have runs : ∀ feed, datagrams.foldl (receive (handleRtpPacket setup)) (forget feed) =
      forget (datagrams.foldl (receive (recordRtpPacket setup codec)) feed) := by
    induction datagrams with
    | nil => exact fun _ => rfl
    | cons datagram rest ih =>
      intro feed
      rw [List.foldl_cons, stepped, ih, List.foldl_cons]
  exact (congrArg (fun feed => feed.decoder.assembly) (runs recordedStart)).symm

/-- The property holds of every packet submitted and what happened before it. -/
def EachSubmission (property : List Happening → Submitted → Prop) (history : List Happening) :
    Prop :=
  ∀ later packet earlier, history = later ++ .submitted packet :: earlier → property earlier packet

theorem eachSubmission_nil : EachSubmission property [] := by
  intro later packet earlier split
  exact absurd split.symm (by simp)

theorem EachSubmission.cons (each : EachSubmission property history)
    (added : ∀ packet, happening = .submitted packet → property history packet) :
    EachSubmission property (happening :: history) := by
  intro later packet earlier split
  cases later with
  | nil =>
    cases split
    exact added packet rfl
  | cons newest later =>
    cases split
    exact each later packet earlier rfl

/-! ### How calls extend the record -/

@[simp] theorem extended_self (assembly : Assembly) (history : List Happening) :
    extended assembly assembly history = history := by
  simp [extended]

theorem extended_same (same : after.submitted = before.submitted) (history : List Happening) :
    extended before after history = history := by
  simp [extended, same]

theorem extended_one (one : after.submitted = before.submitted ++ [packet])
    (history : List Happening) :
    extended before after history = .submitted packet :: history := by
  simp [extended, one]

/-- Nothing is taken back. -/
def Grows (before after : Assembly) : Prop := before.submitted <+: after.submitted

theorem extended_trans (first : Grows before between) (second : Grows between after)
    (history : List Happening) :
    extended before after history = extended between after (extended before between history) := by
  obtain ⟨own, middle⟩ := first
  obtain ⟨more, last⟩ := second
  simp [extended, ← last, ← middle]

/-- A packet that is offered is the only change to what was submitted. -/
theorem submitPacket_eq {setup : Setup} (nals : setup.codec ≠ .mjpeg) (seed : Bool)
    (filled : data ≠ []) (pts : UInt32) (assembly : Assembly) :
    ∃ accepted parsed counted stalls, submitPacket setup seed data pts assembly =
      (accepted, { assembly with
        submitted := assembly.submitted ++ [⟨seed, data, pts, accepted⟩]
        parsedUnits := parsed
        submittedPackets := counted
        submitStalls := stalls }) := by
  unfold submitPacket
  rw [if_neg (not_or.2 ⟨filled, nals⟩)]
  split
  · exact ⟨true, _, _, _, rfl⟩
  · exact ⟨false, _, _, _, rfl⟩
  · exact ⟨false, _, _, _, rfl⟩

/-- What an attempt to submit the seed comes to. -/
inductive Injects (setup : Setup) (before : Assembly) : Bool × Assembly → Prop where
  | settled (held : before.x20HeaderInjected = true ∨ before.x20HeaderMissing = true) :
      Injects setup before (true, before)
  | missing (fresh : before.x20HeaderInjected = false ∧ before.x20HeaderMissing = false)
      (none : ∀ path ∈ headerPaths setup before.x21MppSpsSeen, ∀ header,
        setup.files path = some header → header = []) :
      Injects setup before (true, { before with x20HeaderMissing := true })
  | offered (fresh : before.x20HeaderInjected = false ∧ before.x20HeaderMissing = false)
      (held : path ∈ headerPaths setup before.x21MppSpsSeen)
      (file : setup.files path = some header) (filled : header ≠ [])
      (taken : injected = accepted) (parsed counted stalls injections : Nat) :
      Injects setup before (accepted, { before with
        submitted := before.submitted ++ [⟨true, header, 0, accepted⟩]
        parsedUnits := parsed
        submittedPackets := counted
        submitStalls := stalls
        x20HeaderInjected := injected
        x20HeaderInjections := injections })

theorem injectX20HeaderIfNeeded_injects {setup : Setup} (nals : setup.codec ≠ .mjpeg)
    (assembly : Assembly) : Injects setup assembly (injectX20HeaderIfNeeded setup assembly) := by
  unfold injectX20HeaderIfNeeded
  by_cases held : (assembly.x20HeaderInjected || assembly.x20HeaderMissing) = true
  · rw [if_pos held]
    rw [Bool.or_eq_true] at held
    exact .settled held
  · rw [if_neg held]
    have fresh : assembly.x20HeaderInjected = false ∧ assembly.x20HeaderMissing = false := by
      simpa using held
    -- The places that were looked at in vain have no file, or an empty one.
    have searched : ∀ tried left, headerPaths setup assembly.x21MppSpsSeen = tried ++ left →
        (∀ path ∈ tried, ∀ header, setup.files path = some header → header = []) →
        Injects setup assembly (injectFirstHeader setup left assembly) := by
      intro tried left
      induction left generalizing tried with
      | nil =>
        intro all vain
        rw [List.append_nil] at all
        exact .missing fresh (all ▸ vain)
      | cons path rest ih =>
        intro all vain
        have further : (∀ header, setup.files path = some header → header = []) →
            Injects setup assembly (injectFirstHeader setup rest assembly) := by
          intro empty
          apply ih (tried ++ [path])
          · rw [all, List.append_assoc, List.singleton_append]
          · intro other inside
            rw [List.mem_append, List.mem_singleton] at inside
            obtain before | rfl := inside
            · exact vain other before
            · exact empty
        unfold injectFirstHeader
        split
        · rename_i none
          exact further fun header file => absurd file (by simp [none])
        · rename_i header file
          by_cases empty : header = []
          · rw [if_pos empty]
            apply further
            intro other found
            rw [file] at found
            cases found
            exact empty
          · rw [if_neg empty]
            have held : path ∈ headerPaths setup assembly.x21MppSpsSeen := by simp [all]
            obtain ⟨accepted, parsed, counted, stalls, offer⟩ :=
              submitPacket_eq nals true empty 0 assembly
            rw [offer]
            cases accepted with
            | true => exact .offered fresh held file empty rfl _ _ _ _
            | false => exact .offered fresh held file empty fresh.1 _ _ _ _
    exact searched [] _ rfl nofun

theorem grows_refl (assembly : Assembly) : Grows assembly assembly := List.prefix_refl _

theorem grows_injects (injects : Injects setup before result) : Grows before result.2 := by
  cases injects with
  | settled => exact List.prefix_refl _
  | missing => exact List.prefix_refl _
  | offered => exact List.prefix_append _ _

theorem grows_submitPacket {setup : Setup} (nals : setup.codec ≠ .mjpeg) (seed : Bool)
    (filled : data ≠ []) (pts : UInt32) (assembly : Assembly) :
    Grows assembly (submitPacket setup seed data pts assembly).2 := by
  obtain ⟨accepted, parsed, counted, stalls, offer⟩ :=
    submitPacket_eq nals seed filled pts assembly
  rw [offer]
  exact List.prefix_append _ _

/-- The flags and the unit a detection leaves alone. -/
theorem updateX20Detection_submitted (nal : List UInt8) (assembly : Assembly) :
    (updateX20Detection nal assembly).submitted = assembly.submitted := by
  unfold updateX20Detection
  (repeat' split) <;> rfl

theorem noting_updated (nal : List UInt8) (recorded : Recorded) (result : Bool × Assembly) :
    noting recorded result = noting
      { recorded with assembly := updateX20Detection nal recorded.assembly } result := by
  simp [noting, extended, updateX20Detection_submitted]

theorem queueSlice_submitted (nal : List UInt8) (timestamp : UInt32) (assembly : Assembly) :
    (queueSlice nal timestamp assembly).submitted = assembly.submitted := by
  unfold queueSlice
  dsimp only
  split <;> split <;> rfl

theorem grows_injectDetectedHeader {setup : Setup} (nals : setup.codec ≠ .mjpeg)
    (nal : List UInt8) (assembly : Assembly) :
    Grows assembly (injectDetectedHeader setup nal assembly).2 := by
  have updated : Grows assembly (updateX20Detection nal assembly) := by
    rw [Grows, updateX20Detection_submitted]
  unfold injectDetectedHeader
  split
  · exact grows_refl _
  · dsimp only
    split
    · exact updated.trans (grows_injects (injectX20HeaderIfNeeded_injects nals _))
    · exact updated

theorem grows_submitNal {setup : Setup} (nals : setup.codec ≠ .mjpeg) (nal : List UInt8)
    (timestamp : UInt32) (assembly : Assembly) :
    Grows assembly (submitNal setup nal timestamp assembly).2 := by
  unfold submitNal
  split
  · exact grows_refl _
  · rename_i filled
    have seeded := grows_injectDetectedHeader nals nal assembly
    unfold andThen
    split
    · exact seeded.trans (grows_submitPacket nals false (nalData_ne_nil filled) timestamp _)
    · exact seeded

/-- Two calls in a row, each with what it adds to the record. -/
theorem noting_andThen {middle going ended : Recorded → Prop} {first : Bool × Assembly}
    {second : Assembly → Bool × Assembly} {recorded : Recorded}
    (grows : Grows recorded.assembly first.2)
    (further : ∀ assembly, Grows assembly (second assembly).2)
    (before : Leaves middle ended (noting recorded first))
    (after : ∀ recorded, middle recorded →
      Leaves going ended (noting recorded (second recorded.assembly))) :
    Leaves going ended (noting recorded (andThen first second)) := by
  unfold andThen
  split
  · rename_i done
    have joined : noting recorded (second first.2) =
        noting (noting recorded first).2 (second first.2) := by
      simp only [noting]
      rw [extended_trans grows (further first.2)]
    rw [joined]
    exact after _ (before.2 done)
  · rename_i failed
    exact ⟨before.1, fun done => absurd done failed⟩

/-- The packet was offered; of what decisions are made on, nothing else has changed. -/
def Submits (packet : Submitted) (before after : Recorded) : Prop :=
  ∃ parsed counted stalls, after = {
    assembly := { before.assembly with
      submitted := before.assembly.submitted ++ [packet]
      parsedUnits := parsed
      submittedPackets := counted
      submitStalls := stalls }
    history := .submitted packet :: before.history }

theorem submitPacket_submits {setup : Setup} (nals : setup.codec ≠ .mjpeg) (seed : Bool)
    (filled : data ≠ []) (pts : UInt32) (recorded : Recorded) :
    ∃ accepted, Submits ⟨seed, data, pts, accepted⟩ recorded
      (noting recorded (submitPacket setup seed data pts recorded.assembly)).2 := by
  obtain ⟨accepted, parsed, counted, stalls, offer⟩ :=
    submitPacket_eq nals seed filled pts recorded.assembly
  refine ⟨accepted, parsed, counted, stalls, ?_⟩
  rw [offer]
  simp only [noting]
  rw [extended_one rfl]

section Rules
variable {setup : Setup} {codec : NalCodec} {going ended : Recorded → Prop}

/-- What a call leaves that cannot fail the invariant. -/
theorem leaves_of_going (weaker : ∀ recorded, going recorded → ended recorded)
    {result : Bool × Recorded} (holds : going result.2) : Leaves going ended result :=
  ⟨weaker _ holds, fun _ => holds⟩

/-- `queue_nal`, by way of what holds once the seed was forced, if it was, and once the
parameter sets were looked at. -/
theorem queueNal_leaves (passed detected : Recorded → Prop) {recorded : Recorded}
    (same : setup.codec = .nal codec) (weaker : ∀ recorded, going recorded → ended recorded)
    (empty : nal = [] → going recorded)
    (forced : nal ≠ [] →
      Leaves passed ended (noting recorded (injectForcedHeader setup recorded.assembly)))
    (slice : ∀ recorded, passed recorded → isVcl codec nal = true →
      going { recorded with assembly := queueSlice nal timestamp recorded.assembly })
    (other : ∀ recorded, passed recorded → isVcl codec nal = false →
      Leaves detected ended (noting recorded (injectDetectedHeader setup nal recorded.assembly)))
    (live : ∀ recorded after accepted, detected recorded → nal ≠ [] → isVcl codec nal = false →
      Submits ⟨false, nalData nal, timestamp, accepted⟩ recorded after → going after) :
    Leaves going ended (noting recorded (queueNal setup nal timestamp recorded.assembly)) := by
  have nals : setup.codec ≠ .mjpeg := by
    rw [same]
    exact VideoCodec.noConfusion
  unfold queueNal
  split
  · rename_i none
    simp only [noting, extended_self]
    exact leaves_of_going weaker (empty none)
  · rename_i filled
    refine noting_andThen ?_ ?_ (forced filled) ?_
    · unfold injectForcedHeader
      split
      · exact grows_injects (injectX20HeaderIfNeeded_injects nals _)
      · exact grows_refl _
    · intro assembly
      split
      · rw [Grows, queueSlice_submitted]
      · exact grows_submitNal nals nal timestamp assembly
    · intro recorded holds
      rw [show setup.codec.nalCodec = codec by rw [same]; rfl]
      split
      · rename_i vcl
        have unchanged := extended_same (queueSlice_submitted nal timestamp recorded.assembly)
          recorded.history
        simp only [noting, unchanged]
        exact leaves_of_going weaker (slice recorded holds vcl)
      · rename_i vcl
        have passes := Bool.eq_false_of_not_eq_true vcl
        unfold submitNal
        rw [if_neg filled]
        refine noting_andThen (grows_injectDetectedHeader nals nal _) ?_
          (other recorded holds passes) ?_
        · exact fun _ => grows_submitPacket nals false (nalData_ne_nil filled) timestamp _
        · intro recorded looked
          obtain ⟨accepted, submits⟩ := submitPacket_submits nals false (nalData_ne_nil filled)
            timestamp recorded
          exact leaves_of_going weaker (live recorded _ accepted looked filled passes submits)

theorem flushAccessUnit_leaves {recorded : Recorded} (nals : setup.codec ≠ .mjpeg)
    (weaker : ∀ recorded, going recorded → ended recorded)
    (discarded : ∀ recorded, going recorded →
      going { recorded with assembly := RockchipMppRtpDecoder.discard recorded.assembly })
    (live : ∀ after accepted, recorded.assembly.accessUnit ≠ [] →
      Submits ⟨false, recorded.assembly.accessUnit, recorded.assembly.accessUnitTimestamp,
        accepted⟩ recorded after → going after) (holds : going recorded) :
    Leaves going ended (noting recorded (flushAccessUnit setup recorded.assembly)) := by
  unfold flushAccessUnit
  split
  · have same : extended recorded.assembly (RockchipMppRtpDecoder.discard recorded.assembly)
        recorded.history = recorded.history := extended_same rfl _
    simp only [noting, same]
    exact leaves_of_going weaker (discarded recorded holds)
  · rename_i waiting
    have filled : recorded.assembly.accessUnit ≠ [] := by
      intro empty
      simp [empty] at waiting
    obtain ⟨accepted, submits⟩ := submitPacket_submits nals false filled
      recorded.assembly.accessUnitTimestamp recorded
    exact leaves_of_going weaker (discarded _ (live _ accepted filled submits))

end Rules

/-! ### The shape of a packet -/

/-- A NAL unit goes out with one start code: its own, if it begins with one. -/
def OneStartCode (nal data : List UInt8) : Prop :=
  ¬ startCode <+: nal ∧ data = startCode ++ nal ∨ startCode <+: nal ∧ data = nal

/-- A packet is a NAL unit that is no slice, the slices queued with its timestamp, or the
content of a seed file. -/
inductive Shape (setup : Setup) (codec : NalCodec) (history : List Happening) :
    Submitted → Prop where
  | nal (other : isVcl codec nal = false) (queued : .queued nal pts ∈ history)
      (filled : nal ≠ []) (once : OneStartCode nal data) :
      Shape setup codec history ⟨false, data, pts, accepted⟩
  | unit (slices : ∀ nal ∈ nals, isVcl codec nal = true ∧ .queued nal pts ∈ history)
      (filled : nals ≠ []) : Shape setup codec history ⟨false, annexB nals, pts, accepted⟩
  | seed (x21 : Bool) (place : path ∈ headerPaths setup x21)
      (file : setup.files path = some data) : Shape setup codec history ⟨true, data, 0, accepted⟩

/-- The packets in the record, in the order in which they were submitted. -/
def submissions : List Happening → List Submitted
  | [] => []
  | .submitted packet :: earlier => submissions earlier ++ [packet]
  | .queued _ _ :: earlier => submissions earlier

structure Shaped (setup : Setup) (codec : NalCodec) (recorded : Recorded) : Prop where
  each : EachSubmission (Shape setup codec) recorded.history
  listed : submissions recorded.history = recorded.assembly.submitted

/-- The access unit holds slices that were queued with its timestamp. -/
structure Gathers (setup : Setup) (codec : NalCodec) (recorded : Recorded) : Prop
    extends Shaped setup codec recorded where
  unit : ∃ nals, recorded.assembly.accessUnit = annexB nals ∧ ∀ nal ∈ nals,
    isVcl codec nal = true ∧ .queued nal recorded.assembly.accessUnitTimestamp ∈ recorded.history
  none : recorded.assembly.haveAccessUnit = false → recorded.assembly.accessUnit = []

/-- A packet was submitted, and the access unit is what it was. -/
theorem gathers_submits {before after : Recorded} (gathers : Gathers setup codec before)
    (submits : Submits packet before after) (shape : Shape setup codec before.history packet) :
    Gathers setup codec after := by
  obtain ⟨parsed, counted, stalls, rfl⟩ := submits
  obtain ⟨nals, bytes, queued⟩ := gathers.unit
  constructor
  · constructor
    · apply gathers.each.cons
      rintro other ⟨⟩
      exact shape
    · change submissions before.history ++ [packet] = before.assembly.submitted ++ [packet]
      rw [gathers.listed]
  · refine ⟨nals, bytes, fun nal inside => ?_⟩
    exact ⟨(queued nal inside).1, List.mem_cons_of_mem _ (queued nal inside).2⟩
  · exact gathers.none

theorem injects_gathers (gathers : Gathers setup codec recorded)
    (injects : Injects setup recorded.assembly result) :
    Gathers setup codec (noting recorded result).2 := by
  cases injects with
  | settled =>
    simp only [noting, extended_self]
    exact gathers
  | missing =>
    have same : extended recorded.assembly { recorded.assembly with x20HeaderMissing := true }
        recorded.history = recorded.history := extended_same rfl _
    simp only [noting, same]
    exact { gathers with }
  | offered fresh held file filled taken parsed counted stalls injections =>
    rename_i accepted
    have shape : Shape setup codec recorded.history ⟨true, _, 0, accepted⟩ := .seed _ held file
    have submitted := gathers_submits gathers ⟨parsed, counted, stalls, rfl⟩ shape
    simp only [noting]
    rw [extended_one rfl]
    exact { submitted with }

theorem gathers_queued (gathers : Gathers setup codec recorded) (nal : List UInt8)
    (timestamp : UInt32) :
    Gathers setup codec { recorded with history := .queued nal timestamp :: recorded.history } := by
  obtain ⟨nals, bytes, queued⟩ := gathers.unit
  constructor
  · exact ⟨gathers.each.cons nofun, gathers.listed⟩
  · refine ⟨nals, bytes, fun nal inside => ?_⟩
    exact ⟨(queued nal inside).1, List.mem_cons_of_mem _ (queued nal inside).2⟩
  · exact gathers.none

/-- A slice joins the slices of its timestamp, or the first of its timestamp replaces others. -/
theorem queueSlice_gathers (gathers : Gathers setup codec recorded)
    (slice : isVcl codec nal = true) (held : .queued nal timestamp ∈ recorded.history) :
    Gathers setup codec
      { recorded with assembly := queueSlice nal timestamp recorded.assembly } := by
  have listed := gathers.listed
  rw [← queueSlice_submitted nal timestamp] at listed
  obtain ⟨nals, bytes, queued⟩ := gathers.unit
  refine ⟨⟨gathers.each, listed⟩, ?_, ?_⟩
  · by_cases joins : recorded.assembly.haveAccessUnit = true ∧
        recorded.assembly.accessUnitTimestamp = timestamp
    · obtain ⟨waiting, same⟩ := joins
      refine ⟨nals ++ [nal], ?_, ?_⟩
      · simp [queueSlice, waiting, same, bytes, annexB]
      · intro other inside
        have stamped : (queueSlice nal timestamp recorded.assembly).accessUnitTimestamp =
            recorded.assembly.accessUnitTimestamp := by
          simp [queueSlice, waiting, same]
        rw [stamped]
        rw [List.mem_append, List.mem_singleton] at inside
        obtain before | rfl := inside
        · exact queued other before
        · exact ⟨slice, same ▸ held⟩
    · have alone : (queueSlice nal timestamp recorded.assembly).accessUnit = annexB [nal] ∧
          (queueSlice nal timestamp recorded.assembly).accessUnitTimestamp = timestamp := by
        cases waiting : recorded.assembly.haveAccessUnit with
        | true =>
          have apart : recorded.assembly.accessUnitTimestamp ≠ timestamp :=
            fun same => joins ⟨waiting, same⟩
          simp [queueSlice, waiting, apart, count, RockchipMppRtpDecoder.discard, annexB]
        | false => simp [queueSlice, waiting, gathers.none waiting, annexB]
      refine ⟨[nal], alone.1, ?_⟩
      rw [alone.2, List.forall_mem_singleton]
      exact ⟨slice, held⟩
  · intro idle
    have waits : (queueSlice nal timestamp recorded.assembly).haveAccessUnit = true := by
      unfold queueSlice
      dsimp only
      (repeat' split) <;> first | rfl | assumption
    rw [waits] at idle
    cases idle

theorem updateX20Detection_gathers (nal : List UInt8) (gathers : Gathers setup codec recorded) :
    Gathers setup codec
      { recorded with assembly := updateX20Detection nal recorded.assembly } := by
  unfold updateX20Detection
  (repeat' split) <;> exact { gathers with }

/-- The NAL unit is among those queued. -/
def Offering (setup : Setup) (codec : NalCodec) (nal : List UInt8) (timestamp : UInt32)
    (recorded : Recorded) : Prop :=
  Gathers setup codec recorded ∧ .queued nal timestamp ∈ recorded.history

/-- A seed that is submitted changes neither the access unit nor what was queued. -/
theorem injects_offering (offering : Offering setup codec nal timestamp recorded)
    (injects : Injects setup recorded.assembly result) :
    Leaves (Offering setup codec nal timestamp) (Shaped setup codec) (noting recorded result) := by
  have injected := injects_gathers offering.1 injects
  exact ⟨injected.toShaped, fun _ => ⟨injected, List.mem_append_right _ offering.2⟩⟩

theorem injectDetectedHeader_leaves (nals : setup.codec ≠ .mjpeg)
    (offering : Offering setup codec nal timestamp recorded) :
    Leaves (Offering setup codec nal timestamp) (Shaped setup codec)
      (noting recorded (injectDetectedHeader setup nal recorded.assembly)) := by
  have updated : Offering setup codec nal timestamp
      { recorded with assembly := updateX20Detection nal recorded.assembly } :=
    ⟨updateX20Detection_gathers nal offering.1, offering.2⟩
  unfold injectDetectedHeader
  split
  · simp only [noting, extended_self]
    exact ⟨offering.1.toShaped, fun _ => offering⟩
  · dsimp only
    rw [noting_updated]
    split
    · exact injects_offering updated (injectX20HeaderIfNeeded_injects nals _)
    · simp only [noting, extended_self]
      exact ⟨updated.1.toShaped, fun _ => updated⟩

theorem nalData_once (nal : List UInt8) : OneStartCode nal (nalData nal) := by
  unfold nalData
  split
  · rename_i own
    exact .inr ⟨List.isPrefixOf_iff_prefix.1 own, rfl⟩
  · rename_i bare
    exact .inl ⟨fun own => bare (List.isPrefixOf_iff_prefix.2 own), rfl⟩

theorem discard_gathers (gathers : Gathers setup codec recorded) :
    Gathers setup codec
      { recorded with assembly := RockchipMppRtpDecoder.discard recorded.assembly } :=
  ⟨⟨gathers.each, gathers.listed⟩, ⟨[], rfl, nofun⟩, fun _ => rfl⟩

/-! ### Every run -/

theorem recording_gathers {codec : NalCodec} (same : setup.codec = .nal codec) :
    Preserves (recordingOps setup) (Gathers setup codec) (Shaped setup codec) where
  weaker := fun _ gathers => gathers.toShaped
  counted := by
    intro counted recorded gathers
    cases counted <;> exact { gathers with }
  discarded := fun _ gathers => discard_gathers gathers
  queued := by
    intro nal timestamp recorded gathers
    have nals : setup.codec ≠ .mjpeg := by
      rw [same]
      exact VideoCodec.noConfusion
    have offering : Offering setup codec nal timestamp
        { recorded with history := .queued nal timestamp :: recorded.history } :=
      ⟨gathers_queued gathers nal timestamp, List.mem_cons_self⟩
    refine queueNal_leaves (Offering setup codec nal timestamp) (Offering setup codec nal timestamp)
      same (fun _ gathers => gathers.toShaped) (fun _ => offering.1) ?_ ?_
      (fun _ passed _ => injectDetectedHeader_leaves nals passed) ?_
    · intro _
      unfold injectForcedHeader
      split
      · exact injects_offering offering (injectX20HeaderIfNeeded_injects nals recorded.assembly)
      · simp only [noting, extended_self]
        exact ⟨offering.1.toShaped, fun _ => offering⟩
    · exact fun _ passed slice => queueSlice_gathers passed.1 slice passed.2
    · intro recorded after accepted detected filled other submits
      exact gathers_submits detected.1 submits (.nal other detected.2 filled (nalData_once nal))
  flushed := by
    intro recorded gathers
    obtain ⟨units, bytes, queued⟩ := gathers.unit
    refine flushAccessUnit_leaves (by rw [same]; exact VideoCodec.noConfusion)
      (fun _ gathers => gathers.toShaped) (fun _ => discard_gathers) ?_ gathers
    intro after accepted filled submits
    apply gathers_submits gathers submits
    rw [bytes] at filled ⊢
    exact .unit queued (mt annexB_eq_nil.2 filled)

/-- What the calls of the depacketizer preserve holds of every run. -/
theorem recordedRun_ended {going ended : Recorded → Prop}
    (preserves : Preserves (recordingOps setup) going ended) (initial : going {})
    (codec : NalCodec) (datagrams : List (List UInt8)) :
    ended (recordedRun setup codec datagrams) := by
  have kept : ∀ (decoder : Depacketizer Recorded) datagram, going decoder.assembly →
      True → ended (recordRtpPacket setup codec datagram decoder).2.assembly ∧
        ((recordRtpPacket setup codec datagram decoder).1 = true →
          going (recordRtpPacket setup codec datagram decoder).2.assembly) :=
    fun decoder datagram holds _ => preserves.handleRtpPacket codec datagram decoder holds
  have weaker : ∀ decoder : Depacketizer Recorded, going decoder.assembly →
      ended decoder.assembly := fun decoder => preserves.weaker decoder.assembly
  exact invariant_after_feed weaker kept initial datagrams
    (meets_of_always (fun _ _ _ => trivial) datagrams recordedStart)

theorem recordedRun_shaped {codec : NalCodec} (same : setup.codec = .nal codec)
    (datagrams : List (List UInt8)) : Shaped setup codec (recordedRun setup codec datagrams) :=
  recordedRun_ended (recording_gathers same)
    ⟨⟨eachSubmission_nil, rfl⟩, ⟨[], rfl, nofun⟩, fun _ => rfl⟩ codec datagrams

/-- The record lists what the decoder submitted. -/
theorem recordedRun_submissions {codec : NalCodec} (same : setup.codec = .nal codec)
    (datagrams : List (List UInt8)) :
    submissions (recordedRun setup codec datagrams).history =
      (datagrams.foldl (receive (handleRtpPacket setup))
        rockchipStart).decoder.assembly.submitted := by
  rw [(recordedRun_shaped same datagrams).listed, recordedRun_assembly setup codec same datagrams]

/-- Whatever datagrams come and whatever the seed files hold, each packet is one NAL unit
that is no slice, the slices queued with its timestamp, or a seed file as it is. -/
theorem every_submission_shaped (codec : NalCodec) (setup : Setup)
    (same : setup.codec = .nal codec) (datagrams : List (List UInt8)) :
    submissions (recordedRun setup codec datagrams).history =
        (datagrams.foldl (receive (handleRtpPacket setup))
          rockchipStart).decoder.assembly.submitted ∧
      EachSubmission (Shape setup codec) (recordedRun setup codec datagrams).history :=
  ⟨recordedRun_submissions same datagrams, (recordedRun_shaped same datagrams).each⟩

/-- The seed is at the place it was installed, and forced. -/
def forcedSetup : Setup where
  codec := .nal .h264
  forceX20Header := true
  environment := fun _ => none
  files := fun path =>
    if path = "/usr/share/openhd-glide/x20_header.h264" then some (startCode ++ x20Sps) else none
  putPacket := fun _ => .accepted

/-- An SPS, and a picture of two slices. -/
def slicedPicture : List (List UInt8) :=
  [rtpBytes .plain ⟨false, 7, 1000, [0x67, 0x42, 0x00]⟩, rtpBytes .plain ⟨false, 8, 1000, [0x65, 0x88]⟩,
    rtpBytes .plain ⟨true, 9, 1000, [0x65, 0x99]⟩]

/-- The seed, the SPS and the picture go out, each as a packet of its own. -/
theorem sliced_picture_shaped :
    (slicedPicture.foldl (receive (handleRtpPacket forcedSetup))
        rockchipStart).decoder.assembly.submitted =
      [⟨true, startCode ++ x20Sps, 0, true⟩,
        ⟨false, startCode ++ [0x67, 0x42, 0x00], 1000, true⟩,
        ⟨false, annexB [[0x65, 0x88], [0x65, 0x99]], 1000, true⟩] ∧
      EachSubmission (Shape forcedSetup .h264)
        (recordedRun forcedSetup .h264 slicedPicture).history :=
  ⟨by decide +kernel, (every_submission_shaped .h264 forcedSetup rfl slicedPicture).2⟩

end Glide.RockchipSubmissions
