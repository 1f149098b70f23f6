import Glide.RtpDepacketizer
import Mathlib.Data.List.Infix

/-! What grouping NAL units into access units comes to, in terms of the units
instead of bytes. A decoder whose submissions refine an `Assembler` makes exactly
the assembler's outputs for as long as the hardware accepts them, and when it is
refused something it has made a front part of them. -/
namespace Glide.NalAssembler
open RtpPackets NalPayloads RtpDepacketizer

/-- A NAL unit or an access unit for the hardware, with its timestamp. -/
inductive Output where
  | nal (nal : List UInt8) (timestamp : UInt32)
  | unit (nals : List (List UInt8)) (timestamp : UInt32)
  deriving DecidableEq, Repr

def Output.nals : Output → List (List UInt8)
  | .nal bytes _ => [bytes]
  | .unit units _ => units

def Output.timestamp : Output → UInt32
  | .nal _ timestamp => timestamp
  | .unit _ timestamp => timestamp

/-- Which NAL units wait for the rest of their access unit, and what becomes of
the waiting ones when another timestamp arrives before the marker. -/
structure Policy where
  keeps : List UInt8 → Bool
  submitsOnChange : Bool
  flushesCutAggregate : Bool

structure Assembler where
  pending : List (List UInt8) := []
  timestamp : UInt32 := 0
  outputs : List Output := []
  deriving DecidableEq, Repr

namespace Assembler

def discard (assembler : Assembler) : Assembler := { assembler with pending := [] }

def flush (assembler : Assembler) : Assembler :=
  if assembler.pending = [] then assembler
  else { assembler with
    pending := []
    outputs := assembler.outputs ++ [.unit assembler.pending assembler.timestamp] }

/-- Another timestamp ends the access unit that waits. -/
def turnTo (policy : Policy) (timestamp : UInt32) (assembler : Assembler) : Assembler :=
  if assembler.pending ≠ [] ∧ assembler.timestamp ≠ timestamp then
    if policy.submitsOnChange then assembler.flush else assembler.discard
  else assembler

def queueNal (policy : Policy) (nal : List UInt8) (timestamp : UInt32) (assembler : Assembler) :
    Assembler :=
  if nal = [] then assembler
  else if policy.keeps nal then
    let turned := assembler.turnTo policy timestamp
    { turned with pending := turned.pending ++ [nal], timestamp }
  else { assembler with outputs := assembler.outputs ++ [.nal nal timestamp] }

def queueNals (policy : Policy) (timestamp : UInt32) (nals : List (List UInt8))
    (assembler : Assembler) : Assembler :=
  nals.foldl (fun assembler nal => assembler.queueNal policy nal timestamp) assembler

def flushIfMarked (marker : Bool) (assembler : Assembler) : Assembler :=
  if marker then assembler.flush else assembler

def deliver (policy : Policy) (nals : List (List UInt8)) (marker : Bool) (timestamp : UInt32)
    (assembler : Assembler) : Assembler :=
  (assembler.queueNals policy timestamp nals).flushIfMarked marker

end Assembler

/-- The assembler in a decoder's place. It is never refused anything. -/
def Policy.ops (policy : Policy) : AssemblyOps Assembler where
  count := fun _ assembler => assembler
  discard := Assembler.discard
  queueNal := fun nal timestamp assembler => (true, assembler.queueNal policy nal timestamp)
  flush := fun assembler => (true, assembler.flush)
  flushesCutAggregate := policy.flushesCutAggregate

/-- What reaches the hardware. -/
structure Submission where
  data : List UInt8
  timestamp : UInt32
  deriving DecidableEq, Repr

/-- The decoder `ops` assembles by the policy: its live submissions are the
assembler's outputs, or the first of them once a call was refused. -/
structure Refinement (policy : Policy) (ops : AssemblyOps σ) where
  live : σ → List Submission
  render : Output → Submission
  related : Assembler → σ → Prop
  submitted : ∀ {assembler assembly}, related assembler assembly →
    live assembly = assembler.outputs.map render
  counted : ∀ {assembler assembly} counted, related assembler assembly →
    related assembler (ops.count counted assembly)
  discarded : ∀ {assembler assembly}, related assembler assembly →
    related assembler.discard (ops.discard assembly)
  queued : ∀ {assembler assembly} nal timestamp, related assembler assembly →
    if (ops.queueNal nal timestamp assembly).1 then
      related (assembler.queueNal policy nal timestamp) (ops.queueNal nal timestamp assembly).2
    else live (ops.queueNal nal timestamp assembly).2 <+:
      (assembler.queueNal policy nal timestamp).outputs.map render
  flushed : ∀ {assembler assembly}, related assembler assembly →
    if (ops.flush assembly).1 then related assembler.flush (ops.flush assembly).2
    else live (ops.flush assembly).2 <+: assembler.flush.outputs.map render
  sameCut : ops.flushesCutAggregate = policy.flushesCutAggregate

/-! ### Outputs are only ever added -/

theorem outputs_of_flush (assembler : Assembler) :
    assembler.outputs <+: assembler.flush.outputs := by
  unfold Assembler.flush
  split
  · exact List.prefix_refl _
  · exact List.prefix_append _ _

theorem outputs_of_flushIfMarked (marker : Bool) (assembler : Assembler) :
    assembler.outputs <+: (assembler.flushIfMarked marker).outputs := by
  cases marker with
  | false => exact List.prefix_refl _
  | true => exact outputs_of_flush assembler

theorem outputs_of_queueNal (policy : Policy) (nal : List UInt8) (timestamp : UInt32)
    (assembler : Assembler) :
    assembler.outputs <+: (assembler.queueNal policy nal timestamp).outputs := by
  unfold Assembler.queueNal
  split
  · exact List.prefix_refl _
  · split
    · change _ <+: (assembler.turnTo policy timestamp).outputs
      unfold Assembler.turnTo
      split
      · split
        · exact outputs_of_flush assembler
        · exact List.prefix_refl _
      · exact List.prefix_refl _
    · exact List.prefix_append _ _

theorem outputs_of_queueNals (policy : Policy) (timestamp : UInt32) (nals : List (List UInt8))
    (assembler : Assembler) :
    assembler.outputs <+: (assembler.queueNals policy timestamp nals).outputs := by
  induction nals generalizing assembler with
  | nil => exact List.prefix_refl _
  | cons nal rest ih =>
    exact (outputs_of_queueNal policy nal timestamp assembler).trans (ih _)

/-! ### What the outputs are made of -/

/-- An output is an access unit, or a NAL unit that does not wait for one, and holds
no other NAL units than those. -/
def Output.MadeOf (policy : Policy) (held : List UInt8 → Prop) : Output → Prop
  | .nal bytes _ => policy.keeps bytes = false ∧ held bytes
  | .unit units _ => units ≠ [] ∧ ∀ nal ∈ units, held nal

/-- Everything in the assembler is made of these NAL units. -/
structure Assembler.MadeOf (policy : Policy) (held : List UInt8 → Prop) (assembler : Assembler) :
    Prop where
  pending : ∀ nal ∈ assembler.pending, held nal
  outputs : ∀ output ∈ assembler.outputs, output.MadeOf policy held

namespace Assembler.MadeOf
variable {policy : Policy} {held : List UInt8 → Prop} {assembler : Assembler}

theorem initial : ({} : Assembler).MadeOf policy held := ⟨nofun, nofun⟩

theorem discard (made : assembler.MadeOf policy held) : assembler.discard.MadeOf policy held :=
  ⟨nofun, made.outputs⟩

theorem add_output {output : Output} (made : assembler.MadeOf policy held)
    (fits : output.MadeOf policy held) :
    ∀ other ∈ assembler.outputs ++ [output], other.MadeOf policy held := by
  intro other inside
  rw [List.mem_append, List.mem_singleton] at inside
  obtain before | rfl := inside
  · exact made.outputs other before
  · exact fits

theorem flush (made : assembler.MadeOf policy held) : assembler.flush.MadeOf policy held := by
  unfold Assembler.flush
  split
  · exact made
  · rename_i waits
    exact ⟨nofun, made.add_output ⟨waits, made.pending⟩⟩

theorem turnTo (made : assembler.MadeOf policy held) (timestamp : UInt32) :
    (assembler.turnTo policy timestamp).MadeOf policy held := by
  unfold Assembler.turnTo
  split
  · split
    · exact made.flush
    · exact made.discard
  · exact made

theorem queueNal (made : assembler.MadeOf policy held) (own : held nal) (timestamp : UInt32) :
    (assembler.queueNal policy nal timestamp).MadeOf policy held := by
  unfold Assembler.queueNal
  split
  · exact made
  · split
    · obtain ⟨pending, outputs⟩ := made.turnTo timestamp
      refine ⟨?_, outputs⟩
      intro other inside
      rw [List.mem_append, List.mem_singleton] at inside
      obtain before | rfl := inside
      · exact pending other before
      · exact own
    · rename_i passes
      exact ⟨made.pending, made.add_output ⟨Bool.eq_false_of_not_eq_true passes, own⟩⟩

theorem queueNals (made : assembler.MadeOf policy held) (own : ∀ nal ∈ nals, held nal)
    (timestamp : UInt32) : (assembler.queueNals policy timestamp nals).MadeOf policy held := by
  induction nals generalizing assembler with
  | nil => exact made
  | cons nal rest ih =>
    rw [List.forall_mem_cons] at own
    exact ih (made.queueNal own.1 timestamp) own.2

theorem deliver (made : assembler.MadeOf policy held) (own : ∀ nal ∈ nals, held nal)
    (marker : Bool) (timestamp : UInt32) :
    (assembler.deliver policy nals marker timestamp).MadeOf policy held := by
  have queued := made.queueNals own timestamp
  cases marker with
  | false => exact queued
  | true => exact queued.flush

end Assembler.MadeOf

/-! ### The assembler run through a decoder's code -/

theorem queueNals_ops (policy : Policy) (timestamp : UInt32) (nals : List (List UInt8))
    (assembler : Assembler) :
    queueNals policy.ops timestamp nals assembler =
      (true, assembler.queueNals policy timestamp nals) := by
  induction nals generalizing assembler with
  | nil => rfl
  | cons nal rest ih => exact ih (assembler.queueNal policy nal timestamp)

theorem deliver_ops (policy : Policy) (nals : List (List UInt8)) (marker : Bool)
    (timestamp : UInt32) (assembler : Assembler) :
    deliver policy.ops nals marker timestamp assembler =
      (true, assembler.deliver policy nals marker timestamp) := by
  rw [deliver, queueNals_ops, andThen_true]
  cases marker <;> rfl

/-! ### Refinement, from one call to one datagram -/

namespace Refinement
variable {policy : Policy} {ops : AssemblyOps σ} (refinement : Refinement policy ops)

/-- The decoder went along with the assembler, or stopped on the way there. -/
def Matches (assembler : Assembler) (result : Bool × σ) : Prop :=
  if result.1 then refinement.related assembler result.2
  else refinement.live result.2 <+: assembler.outputs.map refinement.render

variable {refinement}

/-- Whatever a call may have done, its submissions are a front part of the outputs. -/
theorem Matches.submissions (matched : refinement.Matches assembler result) :
    refinement.live result.2 <+: assembler.outputs.map refinement.render := by
  unfold Matches at matched
  split at matched
  · rw [refinement.submitted matched]
  · exact matched

theorem Matches.andThen {second : σ → Bool × σ} (first : refinement.Matches assembler result)
    (further : ∀ assembly, refinement.related assembler assembly →
      refinement.Matches later (second assembly))
    (grown : assembler.outputs <+: later.outputs) :
    refinement.Matches later (andThen result second) := by
  unfold RtpDepacketizer.andThen
  by_cases done : result.1 = true
  · rw [if_pos done]
    rw [Matches, if_pos done] at first
    exact further _ first
  · rw [if_neg done, Matches, if_neg done]
    exact first.submissions.trans (grown.map refinement.render)

variable (refinement)

theorem queueNals_matches (timestamp : UInt32) (nals : List (List UInt8))
    (related : refinement.related assembler assembly) :
    refinement.Matches (assembler.queueNals policy timestamp nals)
      (queueNals ops timestamp nals assembly) := by
  induction nals generalizing assembler assembly with
  | nil => exact related
  | cons nal rest ih =>
    exact Matches.andThen (refinement.queued nal timestamp related)
      (fun _ further => ih further) (outputs_of_queueNals ..)

theorem deliver_matches (nals : List (List UInt8)) (marker : Bool) (timestamp : UInt32)
    (related : refinement.related assembler assembly) :
    refinement.Matches (assembler.deliver policy nals marker timestamp)
      (deliver ops nals marker timestamp assembly) := by
  refine (refinement.queueNals_matches timestamp nals related).andThen ?_
    (outputs_of_flushIfMarked ..)
  intro assembly further
  cases marker with
  | false => exact further
  | true => exact refinement.flushed further

/-- A decoder keeps the same fragments as the assembler and matches its outputs. -/
structure Tracks (tracked : Depacketizer Assembler) (result : Bool × Depacketizer σ) : Prop where
  reassembly : result.2.reassembly = tracked.reassembly
  assembly : refinement.Matches tracked.assembly (result.1, result.2.assembly)

theorem appendFragment_tracks (start finish : Bool) (header data : List UInt8) (marker : Bool)
    (timestamp : UInt32) {tracked : Depacketizer Assembler} {decoder : Depacketizer σ}
    (same : decoder.reassembly = tracked.reassembly)
    (related : refinement.related tracked.assembly decoder.assembly) :
    refinement.Tracks (appendFragment policy.ops start finish header data marker timestamp tracked).2
      (appendFragment ops start finish header data marker timestamp decoder) := by
  unfold appendFragment
  rw [same]
  dsimp only
  split
  · exact ⟨same, refinement.counted _ related⟩
  · split
    · rw [deliver_ops]
      exact ⟨rfl, refinement.deliver_matches _ marker timestamp related⟩
    · exact ⟨rfl, related⟩

theorem appendForm_tracks (form : PayloadForm) (marker : Bool) (timestamp : UInt32)
    {tracked : Depacketizer Assembler} {decoder : Depacketizer σ}
    (same : decoder.reassembly = tracked.reassembly)
    (related : refinement.related tracked.assembly decoder.assembly) :
    refinement.Tracks (appendForm policy.ops form marker timestamp tracked).2
      (appendForm ops form marker timestamp decoder) := by
  cases form with
  | ignored => exact ⟨same, related⟩
  | single nal =>
    simp only [appendForm, Depacketizer.onAssembly, deliver_ops]
    exact ⟨same, refinement.deliver_matches _ marker timestamp related⟩
  | aggregate nals cut =>
    have sameCut : policy.ops.flushesCutAggregate = policy.flushesCutAggregate := rfl
    simp only [appendForm, refinement.sameCut, sameCut]
    split
    · simp only [Depacketizer.onAssembly, queueNals_ops, andThen_true]
      refine ⟨same, (refinement.queueNals_matches timestamp nals related).andThen ?_
        (List.prefix_refl _)⟩
      exact fun _ further => refinement.counted _ further
    · simp only [Depacketizer.onAssembly, deliver_ops]
      exact ⟨same, refinement.deliver_matches _ marker timestamp related⟩
  | fragment start finish header data =>
    exact refinement.appendFragment_tracks start finish header data marker timestamp same related

theorem handlePacket_tracks (codec : NalCodec) (packet : RtpPacket)
    {tracked : Depacketizer Assembler} {decoder : Depacketizer σ}
    (same : decoder.reassembly = tracked.reassembly)
    (related : refinement.related tracked.assembly decoder.assembly) :
    refinement.Tracks (handlePacket policy.ops (appendNalPayload policy.ops codec) packet tracked).2
      (handlePacket ops (appendNalPayload ops codec) packet decoder) := by
  have received := refinement.counted .packet related
  unfold handlePacket checkSequence
  dsimp only
  rw [same]
  cases arrival tracked.reassembly packet.sequence packet.timestamp with
  | late => exact ⟨rfl, refinement.counted _ received⟩
  | inOrder => exact refinement.appendForm_tracks _ _ _ rfl received
  | afterGap =>
    exact refinement.appendForm_tracks _ _ _ rfl
      (refinement.discarded (refinement.counted .gap received))
  | startedOver =>
    exact refinement.appendForm_tracks _ _ _ rfl
      (refinement.discarded (refinement.counted .resync received))

end Refinement

/-! ### A decoder that is refused nothing -/

/-- No call of the decoder fails. -/
structure Accepting (ops : AssemblyOps σ) : Prop where
  queued : ∀ nal timestamp assembly, (ops.queueNal nal timestamp assembly).1 = true
  flushed : ∀ assembly, (ops.flush assembly).1 = true

namespace Accepting
variable {ops : AssemblyOps σ} (accepting : Accepting ops)
include accepting

theorem queueNals_succeeds (timestamp : UInt32) (nals : List (List UInt8)) (assembly : σ) :
    (queueNals ops timestamp nals assembly).1 = true := by
  induction nals generalizing assembly with
  | nil => rfl
  | cons nal rest ih =>
    rw [queueNals, andThen, if_pos (accepting.queued nal timestamp assembly)]
    exact ih _

theorem deliver_succeeds (nals : List (List UInt8)) (marker : Bool) (timestamp : UInt32)
    (assembly : σ) : (deliver ops nals marker timestamp assembly).1 = true := by
  rw [deliver, andThen, if_pos (accepting.queueNals_succeeds timestamp nals assembly)]
  cases marker with
  | false => rfl
  | true => exact accepting.flushed _

theorem appendForm_succeeds (form : PayloadForm) (marker : Bool) (timestamp : UInt32)
    (decoder : Depacketizer σ) : (appendForm ops form marker timestamp decoder).1 = true := by
  cases form with
  | ignored => rfl
  | single nal => exact accepting.deliver_succeeds ..
  | aggregate nals cut =>
    unfold appendForm
    dsimp only
    split
    · simp only [Depacketizer.onAssembly]
      rw [andThen, if_pos (accepting.queueNals_succeeds ..)]
      rfl
    · exact accepting.deliver_succeeds ..
  | fragment start finish header data =>
    unfold appendForm appendFragment
    dsimp only
    split
    · rfl
    · split
      · exact accepting.deliver_succeeds ..
      · rfl

theorem handlePacket_succeeds (codec : NalCodec) (packet : RtpPacket) (decoder : Depacketizer σ) :
    (handlePacket ops (appendNalPayload ops codec) packet decoder).1 = true := by
  unfold handlePacket
  dsimp only
  split
  · rfl
  · exact accepting.appendForm_succeeds ..

end Accepting

end Glide.NalAssembler
