import Glide.CedarAccessUnits

/-! NAL units and payloads in the Cedar decoder. Each of them keeps the access unit at
hand made of packets in a row, and an IDR slice awaited once something was discarded. -/
namespace Glide.CedarNalUnits
open RtpPackets NalPayloads SliceHeaders CedarRtpDecoder CedarAccessUnits
open RtpDepacketizer (andThen andThen_passed andThen_refused)

/-! ### What every step keeps -/

/-- The last NAL unit has at least its first byte. -/
def EndsFilled (unit : List Part) : Prop :=
  ∃ before nal, nalUnits unit = before ++ [nal] ∧ nal ≠ []

/-- The access unit at hand and those submitted are made of packets in a row, and `next`
is the number that continues the row. -/
structure Sound (next : UInt16) (assembly : Assembly) : Prop where
  contiguous : Contiguous (acceptedSinceReset assembly.log)
  next : ∀ last ∈ (acceptedSinceReset assembly.log).getLast?, next = last.2 + 1
  shaped : Shaped (acceptedSinceReset assembly.log) assembly.accessUnit
  sps : assembly.sps ≠ [] → kindOf assembly.sps = 7
  pps : assembly.pps ≠ [] → kindOf assembly.pps = 8
  hasVcl : assembly.accessUnitHasVcl = false ↔ slices assembly.accessUnit = []
  started : assembly.fuStarted = true → EndsFilled assembly.accessUnit
  submitted : UnitsIntact assembly.log

/-- An IDR slice is awaited until one comes. -/
structure Resyncs (assembly : Assembly) : Prop where
  resumes : Resumes (sliceKinds assembly.accessUnit) assembly.requireIdr assembly.log
  awaits : assembly.requireIdr = true → assembly.accessUnitHasVcl = false
  dropping : assembly.droppingTimestamp = true → assembly.requireIdr = true

theorem sound_resetAccessUnit (sound : Sound next assembly) (other : UInt16) :
    Sound other (resetAccessUnit assembly) := by
  constructor
  · exact List.isChain_nil
  · exact nofun
  · exact .nil
  · exact sound.sps
  · exact sound.pps
  · exact ⟨fun _ => rfl, fun _ => rfl⟩
  · exact nofun
  · exact sound.submitted.cons nofun

theorem resyncs_resetAccessUnit (resyncs : Resyncs assembly)
    (awaited : assembly.requireIdr = true) : Resyncs (resetAccessUnit assembly) := by
  constructor
  · change Resumes [] assembly.requireIdr _
    rw [awaited]
    exact resyncs.resumes.discarded rfl
  · exact fun _ => rfl
  · exact resyncs.dropping

/-- The data of an access unit went to the hardware, which may have refused it. -/
structure Submits (before : Assembly) (done : Bool) (after : Assembly) : Prop where
  filled : before.accessUnit ≠ []
  log : after.log = .submitted before.accessUnit before.currentTimestamp :: before.log
  left : after.accessUnit = [] ∧ after.accessUnitHasVcl = false ∨
    done = false ∧ after.accessUnit = before.accessUnit ∧
      after.accessUnitHasVcl = before.accessUnitHasVcl
  fuStarted : after.fuStarted = before.fuStarted
  fuTimestamp : after.fuTimestamp = before.fuTimestamp
  requireIdr : after.requireIdr = before.requireIdr
  droppingTimestamp : after.droppingTimestamp = before.droppingTimestamp
  sps : after.sps = before.sps
  pps : after.pps = before.pps
  requests : after.requests = before.requests + 1

/-- A submission that is not granted a buffer is a reset. -/
theorem submitAccessUnit_cases (setup : Setup) (assembly : Assembly) :
    submitAccessUnit setup assembly = (true, assembly) ∨
    submitAccessUnit setup assembly =
        (true, resetAccessUnit { assembly with requests := assembly.requests + 1 }) ∧
      setup.requestBuffer assembly.requests ≠ .granted ∨
    Submits assembly (submitAccessUnit setup assembly).1 (submitAccessUnit setup assembly).2 := by
  unfold submitAccessUnit
  by_cases empty : assembly.accessUnit = []
  · rw [if_pos empty]
    exact .inl rfl
  · rw [if_neg empty]
    dsimp only
    cases reply : setup.requestBuffer assembly.requests with
    | refused => exact .inr (.inl ⟨rfl, nofun⟩)
    | short => exact .inr (.inl ⟨rfl, nofun⟩)
    | granted =>
      apply Or.inr
      apply Or.inr
      dsimp only
      split <;> constructor <;> simp [empty]

theorem sound_submitAccessUnit (setup : Setup) (sound : Sound next assembly)
    (closed : assembly.fuStarted = false) :
    Sound next (submitAccessUnit setup assembly).2 := by
  obtain same | ⟨same, -⟩ | submits := submitAccessUnit_cases setup assembly
  · rw [same]
    exact sound
  · rw [same]
    have counted : Sound next { assembly with requests := assembly.requests + 1 } := { sound with }
    exact sound_resetAccessUnit counted next
  · have kept : acceptedSinceReset (submitAccessUnit setup assembly).2.log =
        acceptedSinceReset assembly.log := by
      rw [submits.log]
      rfl
    constructor
    · rw [kept]
      exact sound.contiguous
    · rw [kept]
      exact sound.next
    · rw [kept]
      obtain ⟨empty, -⟩ | ⟨-, same, -⟩ := submits.left
      · rw [empty]
        exact .nil
      · rw [same]
        exact sound.shaped
    · rw [submits.sps]
      exact sound.sps
    · rw [submits.pps]
      exact sound.pps
    · obtain ⟨empty, none⟩ | ⟨-, same, flag⟩ := submits.left
      · rw [empty, none]
        exact ⟨fun _ => rfl, fun _ => rfl⟩
      · rw [same, flag]
        exact sound.hasVcl
    · rw [submits.fuStarted, closed]
      exact nofun
    · rw [submits.log]
      apply sound.submitted.cons
      rintro unit pts ⟨⟩
      exact ⟨sound.contiguous, sound.shaped.delimiter submits.filled, sound.shaped⟩

theorem resyncs_submitAccessUnit (setup : Setup) (resyncs : Resyncs assembly)
    (granted : setup.requestBuffer assembly.requests = .granted) :
    Resyncs (submitAccessUnit setup assembly).2 := by
  obtain same | ⟨-, refused⟩ | submits := submitAccessUnit_cases setup assembly
  · rw [same]
    exact resyncs
  · exact absurd granted refused
  · constructor
    · rw [submits.log, submits.requireIdr]
      apply resyncs.resumes.submitted
      obtain ⟨empty, -⟩ | ⟨-, same, -⟩ := submits.left
      · rw [empty]
        exact .inl rfl
      · rw [same]
        exact .inr rfl
    · rw [submits.requireIdr]
      intro awaited
      obtain ⟨-, none⟩ | ⟨-, -, flag⟩ := submits.left
      · exact none
      · rw [flag]
        exact resyncs.awaits awaited
    · rw [submits.requireIdr, submits.droppingTimestamp]
      exact resyncs.dropping

/-! ### One NAL unit -/

/-- A kept parameter set adds no slice. -/
structure AddsNoSlice (before after : List Part) : Prop where
  slices : slices after = slices before
  ends : EndsFilled before → EndsFilled after
  shaped : ∀ accepted, Shaped accepted before → Shaped accepted after

theorem withParameterSet_adds (kind : bytes ≠ [] → kindOf bytes = 7 ∨ kindOf bytes = 8)
    (unit : List Part) : AddsNoSlice unit (withParameterSet bytes unit) := by
  unfold withParameterSet
  split
  · exact ⟨rfl, id, fun _ => id⟩
  · rename_i filled
    have other : isVcl .h264 bytes = false := by
      rw [isVcl_h264]
      obtain known | known := kind filled <;> rw [known] <;> rfl
    have joined := nalUnits_append (delimited unit) (.parameterSet bytes)
    obtain ⟨same, some_part⟩ := nalUnits_delimited unit
    constructor
    · rw [slices_of_joined joined, other, same]
      exact List.append_nil _
    · exact fun _ => ⟨nalUnits (delimited unit), bytes, joined, filled⟩
    · intro accepted shaped
      apply shaped.delimited.add some_part joined
      · simp [source]
      · rintro other inside
        cases List.mem_singleton.1 inside
        exact kind filled
      · exact fun slice => absurd slice (by simp [other])

/-- A NAL unit of this kind may join: the state before it does. -/
structure Admitted (kind : UInt8) (nal : List UInt8) (before after : Assembly) : Prop where
  unit : AddsNoSlice before.accessUnit after.accessUnit
  log : after.log = before.log
  sps : after.sps = before.sps
  pps : after.pps = before.pps
  packets : after.packets = before.packets
  fuStarted : after.fuStarted = before.fuStarted
  droppingTimestamp : after.droppingTimestamp = before.droppingTimestamp
  other : nalIsVcl kind = false →
    after.requireIdr = before.requireIdr ∧ after.accessUnitHasVcl = before.accessUnitHasVcl
  slice : nalIsVcl kind = true → (before.requireIdr = true → kind = 5) ∧
    (before.accessUnitHasVcl = false → firstSliceStartsFrame nal = true) ∧
    after.requireIdr = false ∧ after.accessUnitHasVcl = true

/-- A slice that is turned away resets the access unit. -/
structure TurnedAway (timestamp : UInt32) (nal : List UInt8) (before after : Assembly) : Prop where
  reset : ∃ waiting incomplete, after = { dropPicture timestamp before with
    droppedWaitingForIdr := waiting, droppedIncompleteFragments := incomplete }
  why : before.requireIdr = true ∨
    before.accessUnitHasVcl = false ∧ firstSliceStartsFrame nal = false

theorem admitNal_cases (kind : UInt8) (nal : List UInt8) (timestamp : UInt32)
    (sound : Sound next assembly) :
    (admitNal kind nal timestamp assembly).1 = false ∧ nalIsVcl kind = true ∧
      TurnedAway timestamp nal assembly (admitNal kind nal timestamp assembly).2 ∨
    (admitNal kind nal timestamp assembly).1 = true ∧
      Admitted kind nal assembly (admitNal kind nal timestamp assembly).2 := by
  unfold admitNal
  by_cases other : nalIsVcl kind = false
  · rw [if_pos (by simp [other])]
    have unchanged : AddsNoSlice assembly.accessUnit assembly.accessUnit := ⟨rfl, id, fun _ => id⟩
    refine .inr ⟨rfl, ⟨unchanged, rfl, rfl, rfl, rfl, rfl, rfl, fun _ => ⟨rfl, rfl⟩, ?_⟩⟩
    exact fun slice => absurd slice (by simp [other])
  · have slice := Bool.eq_true_of_not_eq_false other
    rw [if_neg (by simp [slice])]
    by_cases awaits : (assembly.requireIdr && kind ≠ 5) = true
    · rw [if_pos awaits]
      rw [Bool.and_eq_true] at awaits
      exact .inl ⟨rfl, slice, ⟨_, _, rfl⟩, .inl awaits.1⟩
    · rw [if_neg awaits]
      by_cases headless : (!assembly.accessUnitHasVcl && !firstSliceStartsFrame nal) = true
      · rw [if_pos headless]
        rw [Bool.and_eq_true, Bool.not_eq_true', Bool.not_eq_true'] at headless
        exact .inl ⟨rfl, slice, ⟨_, _, rfl⟩, .inr headless⟩
      · rw [if_neg headless]
        have idr : assembly.requireIdr = true → kind = 5 := by
          intro awaited
          simpa [awaited] using awaits
        have begins : assembly.accessUnitHasVcl = false → firstSliceStartsFrame nal = true := by
          intro none
          simpa [none] using headless
        refine .inr ⟨rfl, ?_⟩
        dsimp only
        split
        · have sps := withParameterSet_adds (fun filled => .inl (sound.sps filled))
            assembly.accessUnit
          have pps := withParameterSet_adds (fun filled => .inr (sound.pps filled))
            (withParameterSet assembly.sps assembly.accessUnit)
          refine ⟨⟨pps.slices.trans sps.slices, fun ends => pps.ends (sps.ends ends),
            fun accepted shaped => pps.shaped accepted (sps.shaped accepted shaped)⟩,
            rfl, rfl, rfl, rfl, rfl, rfl, ?_, ?_⟩
          · exact fun other => absurd slice (by simp [other])
          · exact fun _ => ⟨idr, begins, rfl, rfl⟩
        · rename_i unlike
          refine ⟨⟨rfl, id, fun _ => id⟩, rfl, rfl, rfl, rfl, rfl, rfl, ?_, ?_⟩
          · exact fun other => absurd slice (by simp [other])
          · refine fun _ => ⟨idr, begins, ?_, rfl⟩
            exact Bool.eq_false_of_not_eq_true fun awaited => unlike (idr awaited)

theorem sound_turnedAway (sound : Sound next before)
    (away : TurnedAway timestamp nal before after) : Sound next after := by
  obtain ⟨waiting, incomplete, rfl⟩ := away.reset
  exact { sound_resetAccessUnit sound next with }

/-- No slice is turned away behind the back of an awaited IDR slice if its picture begins
with it. -/
theorem resyncs_turnedAway (resyncs : Resyncs before)
    (away : TurnedAway timestamp nal before after)
    (begins : before.requireIdr = true ∨ before.accessUnitHasVcl = true ∨
      firstSliceStartsFrame nal = true) : Resyncs after ∧ after.requireIdr = true := by
  have awaited : before.requireIdr = true := by
    obtain awaited | ⟨none, headless⟩ := away.why
    · exact awaited
    · simpa [none, headless] using begins
  obtain ⟨waiting, incomplete, rfl⟩ := away.reset
  have reset := resyncs_resetAccessUnit resyncs awaited
  exact ⟨⟨reset.resumes, reset.awaits, fun _ => awaited⟩, awaited⟩

/-- The parts of a NAL unit that was admitted are appended. -/
def grow (parts : List Part) (started : Bool) (timestamp : UInt32) (assembly : Assembly) :
    Assembly :=
  { assembly with
    accessUnit := delimited assembly.accessUnit ++ parts
    fuStarted := started
    fuTimestamp := timestamp }

/-- The parts come from the packet at hand and make up the NAL unit. -/
structure PartsOf (packet : Nat) (nal : List UInt8) (parts : List Part) : Prop where
  sources : ∀ part ∈ parts, ∀ other ∈ source part, other = packet
  kept : ∀ bytes, .parameterSet bytes ∉ parts
  joined : ∀ unit, nalUnits (unit ++ parts) = nalUnits unit ++ [nal]

/-- Only an empty NAL unit is not of the kind it was let through as. -/
theorem slice_of_kind (typed : nal ≠ [] → kindOf nal = kind) :
    (isVcl .h264 nal = true → nalIsVcl kind = true) ∧
      (nalIsVcl kind = true → isVcl .h264 nal = false → nal = []) := by
  constructor
  · intro slice
    have filled : nal ≠ [] := by
      rintro rfl
      rw [isVcl_nil] at slice
      cases slice
    rwa [isVcl_h264, typed filled] at slice
  · intro slice other
    by_contra filled
    rw [isVcl_h264, typed filled, slice] at other
    cases other

section Growth
variable {kind : UInt8} {nal : List UInt8} {before after : Assembly} {parts : List Part}
variable (admitted : Admitted kind nal before after) (made : PartsOf before.packets nal parts)
include admitted made

theorem slices_grow : slices (delimited after.accessUnit ++ parts) =
    slices before.accessUnit ++ if isVcl .h264 nal then [nal] else [] := by
  rw [slices_of_joined (made.joined _), (nalUnits_delimited after.accessUnit).1,
    admitted.unit.slices]

theorem sound_grow (typed : nal ≠ [] → kindOf nal = kind) (sound : Sound next before)
    (current : before.packets ∈ (acceptedSinceReset before.log).map Prod.fst)
    (filled : started = true → nal ≠ []) : Sound next (grow parts started timestamp after) := by
  have whole := slices_grow admitted made
  obtain ⟨kinds, empties⟩ := slice_of_kind typed
  constructor
  · change Contiguous (acceptedSinceReset after.log)
    rw [admitted.log]
    exact sound.contiguous
  · change ∀ last ∈ (acceptedSinceReset after.log).getLast?, _
    rw [admitted.log]
    exact sound.next
  · change Shaped (acceptedSinceReset after.log) _
    rw [admitted.log]
    apply (admitted.unit.shaped _ sound.shaped).delimited.add (nalUnits_delimited _).2
      (made.joined _)
    · intro part inside other from_part
      rw [made.sources part inside other from_part]
      exact current
    · exact fun bytes inside => absurd inside (made.kept bytes)
    · intro slice none
      rw [(nalUnits_delimited _).1, admitted.unit.slices] at none
      exact (admitted.slice (kinds slice)).2.1 (sound.hasVcl.2 none)
  · change after.sps ≠ [] → kindOf after.sps = 7
    rw [admitted.sps]
    exact sound.sps
  · change after.pps ≠ [] → kindOf after.pps = 8
    rw [admitted.pps]
    exact sound.pps
  · change after.accessUnitHasVcl = false ↔ slices (delimited after.accessUnit ++ parts) = []
    rw [whole, List.append_eq_nil_iff]
    by_cases vcl : nalIsVcl kind = true
    · obtain ⟨-, begins, -, flag⟩ := admitted.slice vcl
      rw [flag]
      refine ⟨nofun, ?_⟩
      rintro ⟨none, own⟩
      have other : isVcl .h264 nal = false := by
        apply Bool.eq_false_of_not_eq_true
        intro slice
        simp [slice] at own
      have headless := begins (sound.hasVcl.2 none)
      rw [empties vcl other] at headless
      cases headless
    · have other : isVcl .h264 nal = false := Bool.eq_false_of_not_eq_true (mt kinds vcl)
      rw [(admitted.other (Bool.eq_false_of_not_eq_true vcl)).2, sound.hasVcl]
      simp [other]
  · exact fun running => ⟨_, nal, made.joined _, filled running⟩
  · change UnitsIntact after.log
    rw [admitted.log]
    exact sound.submitted

theorem resyncs_grow (typed : nal ≠ [] → kindOf nal = kind) (resyncs : Resyncs before)
    (keeps : before.droppingTimestamp = false) :
    Resyncs (grow parts started timestamp after) := by
  have whole := slices_grow admitted made
  obtain ⟨kinds, empties⟩ := slice_of_kind typed
  have unit : sliceKinds (grow parts started timestamp after).accessUnit =
      sliceKinds before.accessUnit ++ if isVcl .h264 nal then [kindOf nal] else [] := by
    change (slices (delimited after.accessUnit ++ parts)).map kindOf = _
    rw [whole, List.map_append]
    cases isVcl .h264 nal <;> rfl
  have keeping : after.droppingTimestamp = false := admitted.droppingTimestamp.trans keeps
  by_cases vcl : nalIsVcl kind = true
  · obtain ⟨idr, begins, awaits, flag⟩ := admitted.slice vcl
    constructor
    · rw [unit]
      change Resumes _ after.requireIdr after.log
      rw [admitted.log, awaits]
      cases slice : isVcl .h264 nal with
      | true =>
        apply resyncs.resumes.add
        intro awaited
        rw [typed (by rintro rfl; cases slice)]
        exact idr awaited
      | false =>
        -- An empty NAL unit joins a picture that has begun, so that no IDR slice is awaited.
        have unawaited : before.requireIdr = false := by
          apply Bool.eq_false_of_not_eq_true
          intro awaited
          have headless := begins (resyncs.awaits awaited)
          rw [empties vcl slice] at headless
          cases headless
        have same := resyncs.resumes
        rw [unawaited] at same
        simpa using same
    · change after.requireIdr = true → _
      rw [awaits]
      exact nofun
    · change after.droppingTimestamp = true → _
      rw [keeping]
      exact nofun
  · have other : isVcl .h264 nal = false := Bool.eq_false_of_not_eq_true (mt kinds vcl)
    obtain ⟨requires, flag⟩ := admitted.other (Bool.eq_false_of_not_eq_true vcl)
    constructor
    · rw [unit, other]
      change Resumes _ after.requireIdr after.log
      rw [admitted.log, requires]
      simpa using resyncs.resumes
    · change after.requireIdr = true → after.accessUnitHasVcl = false
      rw [requires, flag]
      exact resyncs.awaits
    · change after.droppingTimestamp = true → _
      rw [keeping]
      exact nofun

end Growth

theorem cacheParameterSet_eq (sound : Sound next assembly) (nal : List UInt8) :
    ∃ sps pps, cacheParameterSet nal assembly = { assembly with sps := sps, pps := pps } ∧
      (sps ≠ [] → kindOf sps = 7) ∧ (pps ≠ [] → kindOf pps = 8) := by
  unfold cacheParameterSet
  split
  · exact ⟨_, _, rfl, sound.sps, sound.pps⟩
  · split
    · rename_i kind
      exact ⟨_, _, rfl, fun _ => kind, sound.pps⟩
    · split
      · rename_i kind
        exact ⟨_, _, rfl, sound.sps, fun _ => kind⟩
      · exact ⟨_, _, rfl, sound.sps, sound.pps⟩

/-! ### Payloads -/

/-- The packet at hand is among those accepted since the last reset. -/
structure Current (assembly : Assembly) : Prop where
  packet : assembly.packets ∈ (acceptedSinceReset assembly.log).map Prod.fst
  keeps : assembly.droppingTimestamp = false

/-- What becomes of a NAL unit that no fragments make up. -/
structure Joins (next : UInt16) (kind : UInt8) (nal : List UInt8) (before : Assembly)
    (result : Bool × Assembly) : Prop where
  sound : Sound next result.2
  closed : result.2.fuStarted = false
  current : result.1 = true → Current result.2
  resyncs : Resyncs before → (nalIsVcl kind = true → before.requireIdr = true ∨
    before.accessUnitHasVcl = true ∨ firstSliceStartsFrame nal = true) → Resyncs result.2
  slice : result.1 = true → nalIsVcl kind = true → result.2.accessUnitHasVcl = true
  other : nalIsVcl kind = false → result.2.requireIdr = before.requireIdr ∧
    result.2.accessUnitHasVcl = before.accessUnitHasVcl

theorem appendWholeNal_joins (typed : nal ≠ [] → kindOf nal = kind) (timestamp : UInt32)
    (sound : Sound next assembly) (current : Current assembly)
    (closed : assembly.fuStarted = false) :
    Joins next kind nal assembly (appendWholeNal kind nal timestamp assembly) := by
  obtain ⟨sps, pps, same, spsKind, ppsKind⟩ := cacheParameterSet_eq sound nal
  have cached : Sound next { assembly with sps := sps, pps := pps } :=
    { sound with sps := spsKind, pps := ppsKind }
  have resumed : Resyncs assembly → Resyncs { assembly with sps := sps, pps := pps } :=
    fun resyncs => { resyncs with }
  unfold appendWholeNal
  rw [same]
  obtain ⟨refused, vcl, away⟩ | ⟨passed, admitted⟩ := admitNal_cases kind nal timestamp cached
  · rw [andThen_refused refused]
    constructor
    · exact sound_turnedAway cached away
    · obtain ⟨waiting, incomplete, after⟩ := away.reset
      rw [after]
      rfl
    · simp [refused]
    · intro resyncs begins
      exact (resyncs_turnedAway (resumed resyncs) away (begins vcl)).1
    · simp [refused]
    · exact fun other => absurd vcl (by simp [other])
  · rw [andThen_passed passed]
    have made : PartsOf assembly.packets nal
        [.nal (admitNal kind nal timestamp { assembly with sps, pps }).2.packets nal] := by
      rw [admitted.packets]
      constructor
      · simp [source]
      · simp
      · exact fun unit => nalUnits_append unit _
    constructor
    · exact sound_grow admitted made typed cached current.packet
        (fun started => absurd (admitted.fuStarted.symm.trans started) (by simp [closed]))
    · exact admitted.fuStarted.trans closed
    · intro _
      constructor
      · change (admitNal ..).2.packets ∈ (acceptedSinceReset (admitNal ..).2.log).map Prod.fst
        rw [admitted.packets, admitted.log]
        exact current.packet
      · exact admitted.droppingTimestamp.trans current.keeps
    · exact fun resyncs _ => resyncs_grow admitted made typed (resumed resyncs) current.keeps
    · exact fun _ vcl => (admitted.slice vcl).2.2.2
    · exact admitted.other

/-- The type of a NAL unit in an aggregate is read from its first byte, if it has one. -/
theorem stapNals_typed (behind : UInt8) (payload : List UInt8) :
    ∀ unit ∈ stapNals behind payload, unit.2 ≠ [] → kindOf unit.2 = nalType .h264 unit.1 := by
  fun_induction stapNals behind payload with
  | case1 => exact nofun
  | case2 high low rest size fits ih =>
    rw [List.forall_mem_cons]
    refine ⟨?_, ih⟩
    intro filled
    have first : byteAt (rest.take size) 0 = rest.headD behind := by
      cases rest with
      | nil => simp at filled
      | cons byte more =>
        obtain _ | count := size
        · simp at filled
        · rfl
    rw [kindOf, first]
  | case3 => exact nofun

/-- The first slice of some NAL units begins its picture. -/
def FirstSliceStarts (units : List (UInt8 × List UInt8)) : Prop :=
  ∀ unit ∈ units.find? fun unit => nalIsVcl (nalType .h264 unit.1),
    firstSliceStartsFrame unit.2 = true

instance (units : List (UInt8 × List UInt8)) : Decidable (FirstSliceStarts units) := by
  unfold FirstSliceStarts
  infer_instance

theorem appendStapNals_keeps (timestamp : UInt32) (units : List (UInt8 × List UInt8))
    (typed : ∀ unit ∈ units, unit.2 ≠ [] → kindOf unit.2 = nalType .h264 unit.1)
    (sound : Sound next assembly) (current : Current assembly)
    (closed : assembly.fuStarted = false) :
    Sound next (appendStapNals timestamp units assembly).2 ∧
      (Resyncs assembly → assembly.requireIdr = true ∨ assembly.accessUnitHasVcl = true ∨
        FirstSliceStarts units → Resyncs (appendStapNals timestamp units assembly).2) := by
  induction units generalizing assembly with
  | nil => exact ⟨sound, fun resyncs _ => resyncs⟩
  | cons unit rest ih =>
    obtain ⟨first, nal⟩ := unit
    rw [List.forall_mem_cons] at typed
    have joins := appendWholeNal_joins typed.1 timestamp sound current closed
    have begins : assembly.requireIdr = true ∨ assembly.accessUnitHasVcl = true ∨
        FirstSliceStarts ((first, nal) :: rest) → nalIsVcl (nalType .h264 first) = true →
        assembly.requireIdr = true ∨ assembly.accessUnitHasVcl = true ∨
          firstSliceStartsFrame nal = true := by
      rintro (awaited | begun | starts) vcl
      · exact .inl awaited
      · exact .inr (.inl begun)
      · exact .inr (.inr (starts (first, nal) (by simp [vcl])))
    unfold appendStapNals andThen
    split
    · rename_i passed
      obtain ⟨further, resumed⟩ := ih typed.2 joins.sound (joins.current passed) joins.closed
      refine ⟨further, fun resyncs fits => resumed (joins.resyncs resyncs (begins fits)) ?_⟩
      by_cases vcl : nalIsVcl (nalType .h264 first) = true
      · exact .inr (.inl (joins.slice passed vcl))
      · have other := Bool.eq_false_of_not_eq_true vcl
        rw [(joins.other other).1, (joins.other other).2]
        obtain awaited | begun | starts := fits
        · exact .inl awaited
        · exact .inr (.inl begun)
        · refine .inr (.inr fun unit found => starts unit ?_)
          simpa [other] using found
    · exact ⟨joins.sound, fun resyncs fits => joins.resyncs resyncs (begins fits)⟩

/-- The NAL units a payload begins, each with the byte its type is read from. -/
def beginnings (behind : UInt8) (payload : List UInt8) : List (UInt8 × List UInt8) :=
  match payload with
  | [] => []
  | first :: rest =>
    let kind := nalType .h264 first
    if 1 ≤ kind ∧ kind ≤ 23 then [(first, payload)]
    else if kind = 24 then stapNals behind rest
    else if kind = 28 then
      match rest with
      | [] => []
      | fuHeader :: data =>
        let reconstructed := (first &&& 0xE0) ||| (fuHeader &&& 0x1F)
        if fuHeader &&& 0x80 ≠ 0 then [(reconstructed, reconstructed :: data)] else []
    else []

/-- A fragment of a NAL unit that another packet begins. -/
def isLaterFragment (payload : List UInt8) : Bool :=
  match payload with
  | first :: fuHeader :: _ => nalType .h264 first = 28 && fuHeader &&& 0x80 = 0
  | _ => false

/-- The payload is one that the access unit can take in. -/
structure Fits (behind : UInt8) (payload : List UInt8) (timestamp : UInt32)
    (assembly : Assembly) : Prop where
  begins : assembly.accessUnitHasVcl = true ∨ FirstSliceStarts (beginnings behind payload)
  continues : isLaterFragment payload = true →
    assembly.fuStarted = true ∧ assembly.fuTimestamp = timestamp

theorem sound_continueFragment (sound : Sound next assembly) (current : Current assembly)
    (started : assembly.fuStarted = true) (finish : Bool) (data : List UInt8) :
    Sound next (continueFragment finish data assembly) ∧
      (Resyncs assembly → Resyncs (continueFragment finish data assembly)) := by
  obtain ⟨before, nal, last, filled⟩ := sound.started started
  have kinds := sliceKinds_continuation last filled assembly.packets data
  constructor
  · refine { sound with shaped := ?_, hasVcl := ?_, started := ?_ }
    · exact sound.shaped.continuation last filled data current.packet
    · change assembly.accessUnitHasVcl = false ↔
        slices (assembly.accessUnit ++ [.continuation assembly.packets data]) = []
      rw [sound.hasVcl]
      unfold sliceKinds at kinds
      exact ⟨fun none => by simpa [none] using kinds, fun none => by simpa [none] using kinds.symm⟩
    · refine fun _ => ⟨before, nal ++ data, ?_, by simp [filled]⟩
      exact (nalUnits_append _ _).trans (by rw [last]; simp [joinPart])
  · intro resyncs
    refine { resyncs with resumes := ?_ }
    change Resumes (sliceKinds (assembly.accessUnit ++ [.continuation assembly.packets data])) _ _
    rw [kinds]
    exact resyncs.resumes

theorem appendFragment_keeps (start finish : Bool) (reconstructed : UInt8) (data : List UInt8)
    (timestamp : UInt32) (sound : Sound next assembly) (current : Current assembly) :
    let result := appendFragment start finish reconstructed data timestamp assembly
    Sound next result.2 ∧
      (Resyncs assembly → assembly.requireIdr = true ∨
        (start = true → assembly.accessUnitHasVcl = true ∨
          FirstSliceStarts [(reconstructed, reconstructed :: data)]) ∧
        (start = false → assembly.fuStarted = true ∧ assembly.fuTimestamp = timestamp) →
        Resyncs result.2) := by
  unfold appendFragment
  cases start with
  | true =>
    have typed : reconstructed :: data ≠ [] →
        kindOf (reconstructed :: data) = nalType .h264 reconstructed := fun _ => rfl
    dsimp only
    rw [if_pos rfl]
    obtain ⟨refused, vcl, away⟩ | ⟨passed, admitted⟩ := admitNal_cases
      (nalType .h264 reconstructed) (reconstructed :: data) timestamp sound
    · rw [andThen_refused refused]
      refine ⟨sound_turnedAway sound away, fun resyncs fits => ?_⟩
      apply (resyncs_turnedAway resyncs away _).1
      obtain awaited | ⟨begins, -⟩ := fits
      · exact .inl awaited
      · obtain begun | starts := begins rfl
        · exact .inr (.inl begun)
        · exact .inr (.inr (starts (reconstructed, reconstructed :: data) (by simp [vcl])))
    · rw [andThen_passed passed]
      have made : PartsOf assembly.packets (reconstructed :: data)
          [.nal assembly.packets [reconstructed], .continuation assembly.packets data] := by
        constructor
        · simp [source]
        · simp
        · intro unit
          simp [nalUnits, List.foldl_append, joinPart]
      have grown : continueFragment finish data
          { appendNal [reconstructed] (admitNal (nalType .h264 reconstructed)
              (reconstructed :: data) timestamp assembly).2 with
            fuStarted := true, fuTimestamp := timestamp } =
          grow [.nal assembly.packets [reconstructed], .continuation assembly.packets data]
            (!finish) timestamp (admitNal (nalType .h264 reconstructed) (reconstructed :: data)
              timestamp assembly).2 := by
        rw [← admitted.packets]
        cases finish <;> simp [continueFragment, appendNal, grow]
      dsimp only
      rw [grown]
      exact ⟨sound_grow admitted made typed sound current.packet fun _ => List.cons_ne_nil _ _,
        fun resyncs _ => resyncs_grow admitted made typed resyncs current.keeps⟩
  | false =>
    dsimp only
    rw [if_neg Bool.false_ne_true]
    by_cases stray : (!assembly.fuStarted || assembly.fuTimestamp ≠ timestamp) = true
    · rw [if_pos stray]
      refine ⟨{ sound with submitted := sound.submitted.cons ?_ }, fun resyncs fits => ?_⟩
      · intro unit pts same
        cases same
      have awaited : assembly.requireIdr = true := by
        obtain awaited | ⟨-, continues⟩ := fits
        · exact awaited
        · simp [continues rfl] at stray
      have none : sliceKinds assembly.accessUnit = [] := by
        rw [sliceKinds, sound.hasVcl.1 (resyncs.awaits awaited)]
        rfl
      refine { resyncs with resumes := ?_ }
      change Resumes (sliceKinds assembly.accessUnit) assembly.requireIdr _
      rw [none, awaited]
      exact resyncs.resumes.discarded rfl
    · rw [if_neg stray]
      have started : assembly.fuStarted = true := by
        apply Bool.eq_true_of_not_eq_false
        intro idle
        simp [idle] at stray
      obtain ⟨kept, resumed⟩ := sound_continueFragment sound current started finish data
      exact ⟨kept, fun resyncs _ => resumed resyncs⟩

theorem appendForm_keeps (behind : UInt8) (payload : List UInt8) (timestamp : UInt32)
    (sound : Sound next assembly) (current : Current assembly) :
    Sound next (appendForm behind payload timestamp assembly).2 ∧
      (Resyncs assembly → assembly.requireIdr = true ∨ Fits behind payload timestamp assembly →
        Resyncs (appendForm behind payload timestamp assembly).2) := by
  have closed : Sound next { assembly with fuStarted := false } := { sound with started := nofun }
  have still : Current { assembly with fuStarted := false } := ⟨current.packet, current.keeps⟩
  cases payload with
  | nil => exact ⟨sound, fun resyncs _ => resyncs⟩
  | cons first rest =>
    unfold appendForm
    dsimp only
    by_cases single : 1 ≤ nalType .h264 first ∧ nalType .h264 first ≤ 23
    · rw [if_pos single]
      have typed : first :: rest ≠ [] → kindOf (first :: rest) = nalType .h264 first :=
        fun _ => rfl
      have joins := appendWholeNal_joins typed timestamp closed still rfl
      refine ⟨joins.sound, fun resyncs fits => joins.resyncs { resyncs with } fun vcl => ?_⟩
      obtain awaited | ⟨begun | starts, -⟩ := fits
      · exact .inl awaited
      · exact .inr (.inl begun)
      · have own : beginnings behind (first :: rest) = [(first, first :: rest)] := if_pos single
        rw [own] at starts
        exact .inr (.inr (starts (first, first :: rest) (by simp [vcl])))
    · rw [if_neg single]
      by_cases aggregate : nalType .h264 first = 24
      · rw [if_pos aggregate]
        obtain ⟨kept, resumed⟩ := appendStapNals_keeps timestamp (stapNals behind rest)
          (stapNals_typed behind rest) closed still rfl
        refine ⟨kept, fun resyncs fits => resumed { resyncs with } ?_⟩
        obtain awaited | ⟨begun | starts, -⟩ := fits
        · exact .inl awaited
        · exact .inr (.inl begun)
        · have own : beginnings behind (first :: rest) = stapNals behind rest :=
            (if_neg single).trans (if_pos aggregate)
          rw [own] at starts
          exact .inr (.inr starts)
      · rw [if_neg aggregate]
        by_cases fragment : nalType .h264 first = 28
        · rw [if_pos fragment]
          cases rest with
          | nil => exact ⟨sound, fun resyncs _ => resyncs⟩
          | cons fuHeader data =>
            obtain ⟨kept, resumed⟩ := appendFragment_keeps (fuHeader &&& 0x80 ≠ 0)
              (fuHeader &&& 0x40 ≠ 0) ((first &&& 0xE0) ||| (fuHeader &&& 0x1F)) data timestamp
              sound current
            refine ⟨kept, fun resyncs fits => resumed resyncs ?_⟩
            obtain awaited | ⟨begins, continues⟩ := fits
            · exact .inl awaited
            · refine .inr ⟨fun start => ?_, fun later => ?_⟩
              · have own : beginnings behind (first :: fuHeader :: data) =
                    [(first &&& 0xE0 ||| fuHeader &&& 0x1F,
                      (first &&& 0xE0 ||| fuHeader &&& 0x1F) :: data)] :=
                  (if_neg single).trans ((if_neg aggregate).trans ((if_pos fragment).trans
                    (if_pos (of_decide_eq_true start))))
                rwa [own] at begins
              · apply continues
                simpa [isLaterFragment, fragment] using later
        · rw [if_neg fragment]
          exact ⟨sound, fun resyncs _ => resyncs⟩

end Glide.CedarNalUnits
