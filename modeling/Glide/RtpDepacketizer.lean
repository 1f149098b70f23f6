import Glide.NalPayloads

/-! From RTP packets to NAL units. The native decoders check sequence numbers and
rebuild fragments in the same words; what each of them does with a complete NAL
unit and with the marker is left to its `AssemblyOps`. -/
namespace Glide.RtpDepacketizer
open RtpPackets NalPayloads

/-- What the decoders keep counts of along the way. -/
inductive Counted where
  | packet
  | gap
  | resync
  | late
  | incomplete
  deriving DecidableEq, Repr

/-- The part of a decoder that follows sequence numbers and fragments. -/
structure Reassembly where
  fragment : List UInt8 := []
  fragmentTimestamp : UInt32 := 0
  haveSequence : Bool := false
  expectedSequence : UInt16 := 0
  haveTimestamp : Bool := false
  lastTimestamp : UInt32 := 0
  deriving DecidableEq, Repr

structure Depacketizer (σ : Type) where
  reassembly : Reassembly := {}
  assembly : σ

/-- One decoder's treatment of NAL units. A result of `false` stops the feed. -/
structure AssemblyOps (σ : Type) where
  count : Counted → σ → σ
  discard : σ → σ
  queueNal : List UInt8 → UInt32 → σ → Bool × σ
  flush : σ → Bool × σ
  flushesCutAggregate : Bool

/-- The second call of a conjunction is made only if the first one succeeds. -/
def andThen (first : Bool × σ) (second : σ → Bool × σ) : Bool × σ :=
  if first.1 then second first.2 else first

def flushIfMarked (ops : AssemblyOps σ) (marker : Bool) (assembly : σ) : Bool × σ :=
  if marker then ops.flush assembly else (true, assembly)

def queueNals (ops : AssemblyOps σ) (timestamp : UInt32) : List (List UInt8) → σ → Bool × σ
  | [], assembly => (true, assembly)
  | nal :: rest, assembly =>
    andThen (ops.queueNal nal timestamp assembly) (queueNals ops timestamp rest)

/-- The NAL units a packet completes are queued, and its marker ends the access unit. -/
def deliver (ops : AssemblyOps σ) (nals : List (List UInt8)) (marker : Bool) (timestamp : UInt32)
    (assembly : σ) : Bool × σ :=
  andThen (queueNals ops timestamp nals assembly) (flushIfMarked ops marker)

def countIncomplete (ops : AssemblyOps σ) (assembly : σ) : Bool × σ :=
  (true, ops.count .incomplete assembly)

namespace Depacketizer

def onAssembly (step : σ → Bool × σ) (decoder : Depacketizer σ) : Bool × Depacketizer σ :=
  ((step decoder.assembly).1, { decoder with assembly := (step decoder.assembly).2 })

end Depacketizer

/-- A fragment continues the one that is pending, starts a new one, or is dropped. -/
def appendFragment (ops : AssemblyOps σ) (start finish : Bool) (header data : List UInt8)
    (marker : Bool) (timestamp : UInt32) (decoder : Depacketizer σ) : Bool × Depacketizer σ :=
  let pending := decoder.reassembly
  if start = false ∧ (pending.fragment = [] ∨ pending.fragmentTimestamp ≠ timestamp) then
    decoder.onAssembly (countIncomplete ops)
  else
    let fragment := (if start then header else pending.fragment) ++ data
    let started := if start then timestamp else pending.fragmentTimestamp
    if finish then
      let (submitted, assembly) := deliver ops [fragment] marker timestamp decoder.assembly
      (submitted, {
        reassembly := { pending with fragment := [], fragmentTimestamp := started }
        assembly })
    else (true, { decoder with
      reassembly := { pending with fragment := fragment, fragmentTimestamp := started } })

/-- `append_h264_payload` and `append_h265_payload`, after the payload is taken apart. -/
def appendForm (ops : AssemblyOps σ) (form : PayloadForm) (marker : Bool) (timestamp : UInt32)
    (decoder : Depacketizer σ) : Bool × Depacketizer σ :=
  match form with
  | .ignored => (true, decoder)
  | .single nal => decoder.onAssembly (deliver ops [nal] marker timestamp)
  | .aggregate nals cut =>
    if cut && !ops.flushesCutAggregate then
      decoder.onAssembly fun assembly =>
        andThen (queueNals ops timestamp nals assembly) (countIncomplete ops)
    else decoder.onAssembly (deliver ops nals marker timestamp)
  | .fragment start finish header data =>
    appendFragment ops start finish header data marker timestamp decoder

/-- A packet is late when it lies behind the expected one, unless it is so far
behind, or its timestamp so much older, that the sender must have started over. -/
inductive Arrival where
  | inOrder
  | afterGap
  | startedOver
  | late
  deriving DecidableEq, Repr

def arrival (pending : Reassembly) (sequence : UInt16) (timestamp : UInt32) : Arrival :=
  if pending.haveSequence then
    let sequenceDelta := (sequence - pending.expectedSequence).toInt16
    if sequenceDelta < 0 then
      let timestampDelta :=
        if pending.haveTimestamp then (timestamp - pending.lastTimestamp).toInt32 else 0
      if sequenceDelta < -1000 ∨ timestampDelta < -90000 then .startedOver else .late
    else if sequenceDelta > 0 then .afterGap
    else .inOrder
  else .inOrder

/-- `fragment_` and the access unit are dropped. -/
def discardPending (ops : AssemblyOps σ) (counted : Counted) (decoder : Depacketizer σ) :
    Depacketizer σ where
  reassembly := { decoder.reassembly with fragment := [] }
  assembly := ops.discard (ops.count counted decoder.assembly)

def expectNext (packet : RtpPacket) (decoder : Depacketizer σ) : Depacketizer σ :=
  { decoder with reassembly := { decoder.reassembly with
      expectedSequence := packet.sequence + 1
      haveSequence := true
      lastTimestamp := packet.timestamp
      haveTimestamp := true } }

/-- The sequence check, whose result is nothing when the packet comes too late. -/
def checkSequence (ops : AssemblyOps σ) (packet : RtpPacket) (decoder : Depacketizer σ) :
    Option (Depacketizer σ) :=
  match arrival decoder.reassembly packet.sequence packet.timestamp with
  | .late => none
  | .inOrder => some (expectNext packet decoder)
  | .afterGap => some (expectNext packet (discardPending ops .gap decoder))
  | .startedOver => some (expectNext packet (discardPending ops .resync decoder))

/-- `handle_rtp_packet` around a decoder's way to append a payload. -/
def handlePacket (ops : AssemblyOps σ)
    (append : RtpPacket → Depacketizer σ → Bool × Depacketizer σ)
    (packet : RtpPacket) (decoder : Depacketizer σ) : Bool × Depacketizer σ :=
  let counted := { decoder with assembly := ops.count .packet decoder.assembly }
  match checkSequence ops packet counted with
  | none => (true, { counted with assembly := ops.count .late counted.assembly })
  | some checked => append packet checked

def handleRtpPacket (ops : AssemblyOps σ)
    (append : RtpPacket → Depacketizer σ → Bool × Depacketizer σ)
    (packet : List UInt8) (decoder : Depacketizer σ) : Bool × Depacketizer σ :=
  match parseRtpPacket packet with
  | none => (true, decoder)
  | some parsed => handlePacket ops append parsed decoder

/-- The append of the two NAL codecs. -/
def appendNalPayload (ops : AssemblyOps σ) (codec : NalCodec) (packet : RtpPacket)
    (decoder : Depacketizer σ) : Bool × Depacketizer σ :=
  appendForm ops (payloadForm codec packet.payload) packet.marker packet.timestamp decoder

/-! ### Facts every decoder shares -/

@[simp] theorem andThen_true (assembly : σ) (second : σ → Bool × σ) :
    andThen (true, assembly) second = second assembly := rfl

theorem andThen_passed {first : Bool × σ} (passed : first.1 = true)
    (second : σ → Bool × σ) : andThen first second = second first.2 := if_pos passed

theorem andThen_refused {first : Bool × σ} (refused : first.1 = false)
    (second : σ → Bool × σ) : andThen first second = first := by
  obtain ⟨_, assembly⟩ := first
  cases refused
  rfl

/-- What neither call changes. -/
theorem andThen_keeps {view : σ → τ} {first : Bool × σ} {second : σ → Bool × σ}
    (before : view first.2 = value) (after : ∀ assembly, view (second assembly).2 = view assembly) :
    view (andThen first second).2 = value := by
  unfold andThen
  split
  · rw [after, before]
  · exact before

/-- The expected packet is in order, and so is the first one. -/
theorem arrival_eq_inOrder (pending : Reassembly) (sequence : UInt16) (timestamp : UInt32) :
    arrival pending sequence timestamp = .inOrder ↔
      pending.haveSequence = true → sequence = pending.expectedSequence := by
  unfold arrival
  dsimp only
  by_cases known : pending.haveSequence = true
  · rw [if_pos known]
    constructor
    · intro ordered _
      split at ordered
      · rw [ite_eq_iff] at ordered
        obtain ⟨-, early⟩ | ⟨-, early⟩ := ordered <;> cases early
      · rename_i ahead
        split at ordered
        · cases ordered
        · rename_i behind
          have none_apart : (sequence - pending.expectedSequence).toInt16 = 0 :=
            Int16.le_antisymm (Int16.not_lt.1 behind) (Int16.not_lt.1 ahead)
          have apart := congrArg Int16.toUInt16 none_apart
          rw [UInt16.toUInt16_toInt16] at apart
          rw [UInt16.sub_eq_iff_eq_add.1 apart]
          exact UInt16.zero_add _
    · intro expected
      rw [expected known, UInt16.sub_self]
      rfl
  · rw [if_neg known]
    simp [known]

/-- A packet in order leaves the pending data alone, any other that is accepted drops it. -/
theorem checkSequence_cases (ops : AssemblyOps σ) (packet : RtpPacket) (decoder : Depacketizer σ) :
    (arrival decoder.reassembly packet.sequence packet.timestamp = .late ∧
      checkSequence ops packet decoder = none) ∨
    (arrival decoder.reassembly packet.sequence packet.timestamp = .inOrder ∧
      checkSequence ops packet decoder = some (expectNext packet decoder)) ∨
    ∃ counted, arrival decoder.reassembly packet.sequence packet.timestamp ≠ .late ∧
      arrival decoder.reassembly packet.sequence packet.timestamp ≠ .inOrder ∧
      checkSequence ops packet decoder =
        some (expectNext packet (discardPending ops counted decoder)) := by
  unfold checkSequence
  cases arrival decoder.reassembly packet.sequence packet.timestamp with
  | late => exact .inl ⟨rfl, rfl⟩
  | inOrder => exact .inr (.inl ⟨rfl, rfl⟩)
  | afterGap => exact .inr (.inr ⟨.gap, nofun, nofun, rfl⟩)
  | startedOver => exact .inr (.inr ⟨.resync, nofun, nofun, rfl⟩)

theorem handlePacket_checked {ops : AssemblyOps σ}
    {append : RtpPacket → Depacketizer σ → Bool × Depacketizer σ}
    (passed : checkSequence ops packet
      { decoder with assembly := ops.count .packet decoder.assembly } = some checked) :
    handlePacket ops append packet decoder = append packet checked := by
  unfold handlePacket
  dsimp only
  rw [passed]

theorem handlePacket_late {ops : AssemblyOps σ}
    {append : RtpPacket → Depacketizer σ → Bool × Depacketizer σ}
    (late : checkSequence ops packet
      { decoder with assembly := ops.count .packet decoder.assembly } = none) :
    handlePacket ops append packet decoder = (true, { decoder with
      assembly := ops.count .late (ops.count .packet decoder.assembly) }) := by
  unfold handlePacket
  dsimp only
  rw [late]

/-! ### What every call of a decoder keeps -/

/-- What a call leaves: all of it while the feed goes on, part of it in any case. -/
def Leaves (going ended : σ → Prop) (result : Bool × σ) : Prop :=
  ended result.2 ∧ (result.1 = true → going result.2)

theorem andThen_leaves {going ended : σ → Prop} {first : Bool × σ} {second : σ → Bool × σ}
    (before : Leaves going ended first)
    (after : ∀ assembly, going assembly → Leaves going ended (second assembly)) :
    Leaves going ended (andThen first second) := by
  unfold andThen
  split
  · rename_i done
    exact after _ (before.2 done)
  · exact before

structure Preserves (ops : AssemblyOps σ) (going ended : σ → Prop) : Prop where
  weaker : ∀ assembly, going assembly → ended assembly
  counted : ∀ counted assembly, going assembly → going (ops.count counted assembly)
  discarded : ∀ assembly, going assembly → going (ops.discard assembly)
  queued : ∀ nal timestamp assembly, going assembly →
    Leaves going ended (ops.queueNal nal timestamp assembly)
  flushed : ∀ assembly, going assembly → Leaves going ended (ops.flush assembly)

namespace Preserves
variable {ops : AssemblyOps σ} {going ended : σ → Prop} (preserves : Preserves ops going ended)
include preserves

theorem still (holds : going assembly) : Leaves going ended (true, assembly) :=
  ⟨preserves.weaker assembly holds, fun _ => holds⟩

theorem queueNals (timestamp : UInt32) (nals : List (List UInt8)) (holds : going assembly) :
    Leaves going ended (RtpDepacketizer.queueNals ops timestamp nals assembly) := by
  induction nals generalizing assembly with
  | nil => exact preserves.still holds
  | cons nal rest ih =>
    exact andThen_leaves (preserves.queued nal timestamp assembly holds) fun _ => ih

theorem deliver (nals : List (List UInt8)) (marker : Bool) (timestamp : UInt32)
    (holds : going assembly) :
    Leaves going ended (RtpDepacketizer.deliver ops nals marker timestamp assembly) := by
  apply andThen_leaves (preserves.queueNals timestamp nals holds)
  intro assembly holds
  cases marker with
  | false => exact preserves.still holds
  | true => exact preserves.flushed assembly holds

theorem appendForm (form : PayloadForm) (marker : Bool) (timestamp : UInt32)
    (decoder : Depacketizer σ) (holds : going decoder.assembly) :
    let result := RtpDepacketizer.appendForm ops form marker timestamp decoder
    Leaves going ended (result.1, result.2.assembly) := by
  have counts := preserves.still (preserves.counted .incomplete decoder.assembly holds)
  cases form with
  | ignored => exact preserves.still holds
  | single nal => exact preserves.deliver _ marker timestamp holds
  | aggregate nals cut =>
    unfold RtpDepacketizer.appendForm
    dsimp only
    split
    · apply andThen_leaves (preserves.queueNals timestamp nals holds)
      exact fun assembly holds => preserves.still (preserves.counted .incomplete assembly holds)
    · exact preserves.deliver _ marker timestamp holds
  | fragment start finish header data =>
    unfold RtpDepacketizer.appendForm appendFragment
    dsimp only
    split
    · exact counts
    · split
      · exact preserves.deliver _ marker timestamp holds
      · exact preserves.still holds

theorem handleRtpPacket (codec : NalCodec) (packet : List UInt8) (decoder : Depacketizer σ)
    (holds : going decoder.assembly) :
    let result := RtpDepacketizer.handleRtpPacket ops (appendNalPayload ops codec) packet decoder
    Leaves going ended (result.1, result.2.assembly) := by
  unfold RtpDepacketizer.handleRtpPacket
  split
  · exact preserves.still holds
  · rename_i parsed _
    have received := preserves.counted .packet decoder.assembly holds
    unfold handlePacket checkSequence
    dsimp only
    cases arrival decoder.reassembly parsed.sequence parsed.timestamp with
    | late => exact preserves.still (preserves.counted .late _ received)
    | inOrder => exact preserves.appendForm _ _ _ _ received
    | afterGap =>
      apply preserves.appendForm
      exact preserves.discarded _ (preserves.counted .gap _ received)
    | startedOver =>
      apply preserves.appendForm
      exact preserves.discarded _ (preserves.counted .resync _ received)

end Preserves

/-! ### A decoder that keeps more than another -/

/-- `view` forgets what `recording` keeps beside the state of `ops`. -/
structure Views (recording : AssemblyOps τ) (ops : AssemblyOps σ) (view : τ → σ) : Prop where
  counted : ∀ counted assembly,
    view (recording.count counted assembly) = ops.count counted (view assembly)
  discarded : ∀ assembly, view (recording.discard assembly) = ops.discard (view assembly)
  queued : ∀ nal timestamp assembly, ops.queueNal nal timestamp (view assembly) =
    ((recording.queueNal nal timestamp assembly).1,
      view (recording.queueNal nal timestamp assembly).2)
  flushed : ∀ assembly, ops.flush (view assembly) =
    ((recording.flush assembly).1, view (recording.flush assembly).2)
  sameCut : recording.flushesCutAggregate = ops.flushesCutAggregate

namespace Views
variable {recording : AssemblyOps τ} {ops : AssemblyOps σ} {view : τ → σ}
variable (views : Views recording ops view)

def onDecoder (view : τ → σ) (decoder : Depacketizer τ) : Depacketizer σ :=
  { reassembly := decoder.reassembly, assembly := view decoder.assembly }

theorem andThen_views {first : Bool × τ} {second : τ → Bool × τ} {firstView : Bool × σ}
    {secondView : σ → Bool × σ} (same : firstView = (first.1, view first.2))
    (further : ∀ assembly, secondView (view assembly) =
      ((second assembly).1, view (second assembly).2)) :
    andThen firstView secondView = ((andThen first second).1, view (andThen first second).2) := by
  rw [same]
  unfold andThen
  split
  · exact further _
  · rfl

include views

theorem queueNals (timestamp : UInt32) (nals : List (List UInt8)) (assembly : τ) :
    RtpDepacketizer.queueNals ops timestamp nals (view assembly) =
      ((RtpDepacketizer.queueNals recording timestamp nals assembly).1,
        view (RtpDepacketizer.queueNals recording timestamp nals assembly).2) := by
  induction nals generalizing assembly with
  | nil => rfl
  | cons nal rest ih => exact andThen_views (views.queued nal timestamp assembly) ih

theorem deliver (nals : List (List UInt8)) (marker : Bool) (timestamp : UInt32) (assembly : τ) :
    RtpDepacketizer.deliver ops nals marker timestamp (view assembly) =
      ((RtpDepacketizer.deliver recording nals marker timestamp assembly).1,
        view (RtpDepacketizer.deliver recording nals marker timestamp assembly).2) := by
  apply andThen_views (views.queueNals timestamp nals assembly)
  intro assembly
  cases marker with
  | false => rfl
  | true => exact views.flushed assembly

theorem appendForm (form : PayloadForm) (marker : Bool) (timestamp : UInt32)
    (decoder : Depacketizer τ) :
    RtpDepacketizer.appendForm ops form marker timestamp (onDecoder view decoder) =
      ((RtpDepacketizer.appendForm recording form marker timestamp decoder).1,
        onDecoder view (RtpDepacketizer.appendForm recording form marker timestamp decoder).2) := by
  have counts := views.counted .incomplete decoder.assembly
  have delivers := fun nals => views.deliver nals marker timestamp decoder.assembly
  cases form with
  | ignored => rfl
  | single nal => simp [RtpDepacketizer.appendForm, Depacketizer.onAssembly, onDecoder, delivers]
  | aggregate nals cut =>
    unfold RtpDepacketizer.appendForm
    rw [views.sameCut]
    dsimp only
    split
    · have counted : ∀ assembly, countIncomplete ops (view assembly) =
          ((countIncomplete recording assembly).1, view (countIncomplete recording assembly).2) :=
        fun assembly => by simp [countIncomplete, views.counted]
      have both := andThen_views (views.queueNals timestamp nals decoder.assembly) counted
      simp [Depacketizer.onAssembly, onDecoder, both]
    · simp [Depacketizer.onAssembly, onDecoder, delivers]
  | fragment start finish header data =>
    unfold RtpDepacketizer.appendForm appendFragment
    dsimp only
    have same : (onDecoder view decoder).reassembly = decoder.reassembly := rfl
    rw [same]
    split
    · simp [Depacketizer.onAssembly, onDecoder, countIncomplete, counts]
    · split
      · simp [onDecoder, delivers]
      · rfl

theorem handleRtpPacket (codec : NalCodec) (packet : List UInt8) (decoder : Depacketizer τ) :
    RtpDepacketizer.handleRtpPacket ops (appendNalPayload ops codec) packet
        (onDecoder view decoder) =
      ((RtpDepacketizer.handleRtpPacket recording (appendNalPayload recording codec) packet
          decoder).1,
        onDecoder view (RtpDepacketizer.handleRtpPacket recording
          (appendNalPayload recording codec) packet decoder).2) := by
  unfold RtpDepacketizer.handleRtpPacket
  split
  · rfl
  · unfold handlePacket checkSequence
    dsimp only
    have same : (onDecoder view decoder).reassembly = decoder.reassembly := rfl
    rw [same]
    rename_i parsed _
    cases arrival decoder.reassembly parsed.sequence parsed.timestamp with
    | late => simp [onDecoder, views.counted]
    | inOrder =>
      simp only [appendNalPayload]
      rw [← views.appendForm]
      simp [expectNext, onDecoder, views.counted]
    | afterGap =>
      simp only [appendNalPayload]
      rw [← views.appendForm]
      simp [expectNext, discardPending, onDecoder, views.counted, views.discarded]
    | startedOver =>
      simp only [appendNalPayload]
      rw [← views.appendForm]
      simp [expectNext, discardPending, onDecoder, views.counted, views.discarded]

end Views

end Glide.RtpDepacketizer
