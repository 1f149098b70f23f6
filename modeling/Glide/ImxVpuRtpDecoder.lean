import Glide.NalAssembler

/-! Packets in the i.MX decoder. All NAL units of an access unit go to the
hardware together, when the marker comes or another timestamp does. -/
namespace Glide.ImxVpuRtpDecoder
open RtpPackets NalPayloads RtpDepacketizer NalAssembler

/-- The answers of the hardware, by the number of the access unit: whether it is
taken, and whether decoding what is available then goes well. -/
structure Setup where
  codec : NalCodec
  pushEncodedFrame : Nat → Bool
  decodeAvailable : Nat → Bool

structure Assembly where
  accessUnit : List UInt8 := []
  haveAccessUnit : Bool := false
  accessUnitTimestamp : UInt32 := 0
  pushed : List Submission := []
  accessUnits : Nat := 0
  rtpPackets : Nat := 0
  sequenceGaps : Nat := 0
  latePackets : Nat := 0
  incompleteFragments : Nat := 0
  deriving DecidableEq, Repr

/-- A sender that starts over is not counted. -/
def count (counted : Counted) (assembly : Assembly) : Assembly :=
  match counted with
  | .packet => { assembly with rtpPackets := assembly.rtpPackets + 1 }
  | .gap => { assembly with sequenceGaps := assembly.sequenceGaps + 1 }
  | .resync => assembly
  | .late => { assembly with latePackets := assembly.latePackets + 1 }
  | .incomplete => { assembly with incompleteFragments := assembly.incompleteFragments + 1 }

def discard (assembly : Assembly) : Assembly :=
  { assembly with accessUnit := [], haveAccessUnit := false }

def submitAccessUnit (setup : Setup) (assembly : Assembly) : Bool × Assembly :=
  if !assembly.haveAccessUnit || assembly.accessUnit.isEmpty then (true, discard assembly)
  else
    let number := assembly.pushed.length
    let assembly := { assembly with
      pushed := assembly.pushed ++ [⟨assembly.accessUnit, assembly.accessUnitTimestamp⟩] }
    if setup.pushEncodedFrame number then
      (setup.decodeAvailable number,
        discard { assembly with accessUnits := assembly.accessUnits + 1 })
    else (false, assembly)

/-- The NAL unit joins the access unit, which it opens if there is none. -/
def joinAccessUnit (nal : List UInt8) (timestamp : UInt32) (assembly : Assembly) : Assembly :=
  let assembly :=
    if assembly.haveAccessUnit then assembly
    else { assembly with haveAccessUnit := true, accessUnitTimestamp := timestamp }
  { assembly with accessUnit := assembly.accessUnit ++ (startCode ++ nal) }

def queueNal (setup : Setup) (nal : List UInt8) (timestamp : UInt32) (assembly : Assembly) :
    Bool × Assembly :=
  if nal = [] then (true, assembly)
  else
    andThen
      (if assembly.haveAccessUnit ∧ assembly.accessUnitTimestamp ≠ timestamp then
        submitAccessUnit setup assembly
      else (true, assembly))
      fun assembly => (true, joinAccessUnit nal timestamp assembly)

def ops (setup : Setup) : AssemblyOps Assembly where
  count := count
  discard := discard
  queueNal := queueNal setup
  flush := submitAccessUnit setup
  flushesCutAggregate := false

def handleRtpPacket (setup : Setup) (packet : List UInt8) (decoder : Depacketizer Assembly) :
    Bool × Depacketizer Assembly :=
  RtpDepacketizer.handleRtpPacket (ops setup) (appendNalPayload (ops setup) setup.codec) packet
    decoder

/-! ### The decoder assembles everything into access units -/

def policy : Policy where
  keeps := fun _ => true
  submitsOnChange := true
  flushesCutAggregate := false

def render (output : Output) : Submission := ⟨annexB output.nals, output.timestamp⟩

/-- The access unit holds the NAL units that wait, and the outputs were pushed. -/
structure Assembles (assembler : Assembler) (assembly : Assembly) : Prop where
  waiting : assembly.haveAccessUnit = !assembler.pending.isEmpty
  bytes : assembly.accessUnit = annexB assembler.pending
  timestamp : assembler.pending ≠ [] → assembly.accessUnitTimestamp = assembler.timestamp
  pushed : assembly.pushed = assembler.outputs.map render

theorem count_assembles (counted : Counted) (assembles : Assembles assembler assembly) :
    Assembles assembler (count counted assembly) := by
  obtain ⟨waiting, bytes, stamped, pushed⟩ := assembles
  cases counted <;> exact ⟨waiting, bytes, stamped, pushed⟩

theorem submitAccessUnit_refines (setup : Setup) (assembles : Assembles assembler assembly) :
    if (submitAccessUnit setup assembly).1 then
      Assembles assembler.flush (submitAccessUnit setup assembly).2
    else (submitAccessUnit setup assembly).2.pushed <+: assembler.flush.outputs.map render := by
  obtain ⟨waiting, bytes, stamped, pushed⟩ := assembles
  by_cases idle : assembler.pending = []
  · unfold submitAccessUnit Assembler.flush
    rw [if_pos idle, waiting, idle]
    exact ⟨by rw [idle]; rfl, by rw [idle]; rfl, fun waits => absurd idle waits, pushed⟩
  · have have_unit : assembly.haveAccessUnit = true := by
      rw [waiting]
      simpa using idle
    have filled : assembly.accessUnit ≠ [] := by
      rw [bytes]
      exact mt annexB_eq_nil.1 idle
    have outputs : assembly.pushed ++ [⟨assembly.accessUnit, assembly.accessUnitTimestamp⟩] =
        (assembler.outputs ++ [Output.unit assembler.pending assembler.timestamp]).map render := by
      rw [pushed, List.map_append, bytes, stamped idle]
      rfl
    unfold submitAccessUnit
    rw [Assembler.flush, if_neg idle]
    simp only [have_unit, Bool.not_true, Bool.false_or, List.isEmpty_iff, filled, if_false]
    by_cases taken : setup.pushEncodedFrame assembly.pushed.length = true
    · rw [if_pos taken]
      split
      · exact ⟨rfl, rfl, fun waits => absurd rfl waits, outputs⟩
      · exact outputs ▸ List.prefix_refl _
    · rw [if_neg taken]
      exact outputs ▸ List.prefix_refl _

/-- A NAL unit that finds its own timestamp, or nothing, joins what waits. -/
theorem joinAccessUnit_assembles (fits : assembler.pending = [] ∨ assembler.timestamp = timestamp)
    (nal : List UInt8) (assembles : Assembles assembler assembly) :
    Assembles { assembler with pending := assembler.pending ++ [nal], timestamp }
      (joinAccessUnit nal timestamp assembly) := by
  obtain ⟨waiting, bytes, stamped, pushed⟩ := assembles
  unfold joinAccessUnit
  by_cases idle : assembler.pending = []
  · rw [idle, List.isEmpty_nil, Bool.not_true] at waiting
    rw [idle, annexB_nil] at bytes
    simp only [idle, waiting, if_false, Bool.false_eq_true]
    exact ⟨rfl, by simp [bytes, annexB], fun _ => rfl, pushed⟩
  · have have_unit : assembly.haveAccessUnit = true := by
      rw [waiting]
      simpa using idle
    have same := (stamped idle).trans (fits.resolve_left idle)
    simp only [have_unit, if_true]
    refine ⟨by simp, ?_, fun _ => same, pushed⟩
    rw [annexB_append, annexB_single, ← bytes]

theorem queueNal_refines (setup : Setup) (nal : List UInt8) (timestamp : UInt32)
    (assembles : Assembles assembler assembly) :
    if (queueNal setup nal timestamp assembly).1 then
      Assembles (assembler.queueNal policy nal timestamp) (queueNal setup nal timestamp assembly).2
    else (queueNal setup nal timestamp assembly).2.pushed <+:
      (assembler.queueNal policy nal timestamp).outputs.map render := by
  unfold queueNal Assembler.queueNal
  by_cases empty : nal = []
  · simp only [empty, if_true]
    exact assembles
  · have kept : policy.keeps nal = true := rfl
    have waits : assembly.haveAccessUnit = true ↔ assembler.pending ≠ [] := by
      rw [assembles.waiting]
      simp
    rw [if_neg empty, if_neg empty, if_pos kept, Assembler.turnTo]
    by_cases changed : assembler.pending ≠ [] ∧ assembler.timestamp ≠ timestamp
    · have apart : assembly.haveAccessUnit = true ∧ assembly.accessUnitTimestamp ≠ timestamp :=
        ⟨waits.2 changed.1, assembles.timestamp changed.1 ▸ changed.2⟩
      have turned := submitAccessUnit_refines setup assembles
      rw [if_pos changed, if_pos apart, andThen]
      by_cases done : (submitAccessUnit setup assembly).1 = true
      · rw [if_pos done] at turned ⊢
        exact joinAccessUnit_assembles (.inl (by rw [Assembler.flush, if_neg changed.1]; rfl))
          nal turned
      · rw [if_neg done] at turned ⊢
        rw [if_neg done]
        exact turned
    · have together : ¬ (assembly.haveAccessUnit = true ∧ assembly.accessUnitTimestamp ≠ timestamp) := by
        rintro ⟨have_unit, apart⟩
        have pending := waits.1 have_unit
        exact changed ⟨pending, assembles.timestamp pending ▸ apart⟩
      rw [if_neg changed, if_neg together, andThen_true]
      refine joinAccessUnit_assembles ?_ nal assembles
      by_cases idle : assembler.pending = []
      · exact .inl idle
      · exact .inr (by_contra fun apart => changed ⟨idle, apart⟩)

/-- The decoder is an assembler in which every NAL unit waits. -/
def refinement (setup : Setup) : Refinement policy (ops setup) where
  live := Assembly.pushed
  render := render
  related := Assembles
  submitted := Assembles.pushed
  counted := fun counted assembles => count_assembles counted assembles
  discarded := fun assembles => ⟨rfl, rfl, fun waits => absurd rfl waits, assembles.pushed⟩
  queued := fun nal timestamp assembles => queueNal_refines setup nal timestamp assembles
  flushed := fun assembles => submitAccessUnit_refines setup assembles
  sameCut := rfl

end Glide.ImxVpuRtpDecoder
