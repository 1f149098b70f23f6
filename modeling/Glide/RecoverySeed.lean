import Glide.RockchipSubmissions

/-! When the Rockchip decoder submits its recovery seed. Without the force option the
detector has to recognise the parameter sets of the stream first. -/
namespace Glide.RecoverySeed
open RtpPackets NalPayloads RtpDepacketizer RockchipMppRtpDecoder RtpFeed Library.Runs
open RockchipSubmissions

/-- The NAL units that were queued, the newest first. -/
def received : List Happening → List (List UInt8)
  | [] => []
  | .queued nal _ :: earlier => nal :: received earlier
  | .submitted _ :: earlier => received earlier

def isParameterSet (nal : List UInt8) : Bool :=
  byteAt nal 0 &&& 0x1F = 7 || byteAt nal 0 &&& 0x1F = 8

/-- A parameter set that is neither of the X20 nor of the X21. -/
def isForeign (nal : List UInt8) : Bool :=
  isParameterSet nal && nal ≠ x20Sps && nal ≠ x20Pps && !isX21Rv1126MppSps nal

/-- What has to have happened before the seed may be submitted. -/
def SeedDue (history : List Happening) : Prop :=
  (∃ nal timestamp earlier, history = .queued nal timestamp :: earlier ∧
      isParameterSet nal = true) ∧
    ((x20Sps ∈ received history ∧ x20Pps ∈ received history) ∨
      ∃ nal ∈ received history, isX21Rv1126MppSps nal = true) ∧
    ∀ nal ∈ received history, isForeign nal = false

/-- There is a seed file to be found before any parameter set was seen. -/
def SeedAvailable (setup : Setup) : Prop :=
  ∃ path ∈ headerPaths setup false, ∃ header, setup.files path = some header ∧ header ≠ []

/-- The seed is nowhere but in front, and it is there if it can be found. -/
def Leads (setup : Setup) (submitted : List Submitted) : Prop :=
  (∀ packet ∈ submitted.tail, packet.seed = false) ∧
    (SeedAvailable setup → ∀ packet ∈ submitted.head?, packet.seed = true)

def DueSeeds (history : List Happening) : Prop :=
  EachSubmission (fun earlier packet => packet.seed = true → SeedDue earlier) history

def seeds (submitted : List Submitted) : List Submitted := submitted.filter Submitted.seed

theorem seeds_eq_nil (none : ∀ packet ∈ submitted, packet.seed = false) : seeds submitted = [] := by
  rw [seeds, List.filter_eq_nil_iff]
  intro packet inside
  simp [none packet inside]

/-! ### The detector -/

theorem isForeign_other (sps : byteAt nal 0 &&& 0x1F ≠ 7) (pps : byteAt nal 0 &&& 0x1F ≠ 8) :
    isForeign nal = false := by
  simp [isForeign, isParameterSet, sps, pps]

theorem isX21_type (x21 : isX21Rv1126MppSps nal = true) : byteAt nal 0 &&& 0x1F = 7 := by
  simp only [isX21Rv1126MppSps, Bool.and_eq_true, beq_iff_eq] at x21
  exact x21.1.1.2

theorem isParameterSet_of_known
    (known : nal = x20Sps ∨ nal = x20Pps ∨ isX21Rv1126MppSps nal = true) :
    isParameterSet nal = true := by
  obtain rfl | rfl | x21 := known
  · decide
  · decide
  · simp [isParameterSet, isX21_type x21]

theorem isForeign_of_known
    (known : nal = x20Sps ∨ nal = x20Pps ∨ isX21Rv1126MppSps nal = true) :
    isForeign nal = false := by
  obtain rfl | rfl | x21 := known
  · decide
  · decide
  · simp [isForeign, x21]

/-- A NAL unit sets the flag it is looked for by, unless the detector has stopped. -/
theorem updateX20Detection_eq (nal : List UInt8) (assembly : Assembly) :
    updateX20Detection nal assembly =
      if assembly.x20HeaderInjected || assembly.x20CheckedNonX20 then assembly
      else { assembly with
        x20SpsSeen := assembly.x20SpsSeen || nal = x20Sps
        x20PpsSeen := assembly.x20PpsSeen || nal = x20Pps
        x21MppSpsSeen := assembly.x21MppSpsSeen || isX21Rv1126MppSps nal
        x20CheckedNonX20 := assembly.x20CheckedNonX20 || isForeign nal } := by
  unfold updateX20Detection
  by_cases stopped : (assembly.x20HeaderInjected || assembly.x20CheckedNonX20) = true
  · rw [if_pos stopped, if_pos (by simp [stopped])]
  · rw [if_neg stopped]
    by_cases sps : byteAt nal 0 &&& 0x1F = 7
    · have filled : nal ≠ [] := by
        rintro rfl
        exact absurd sps (by decide)
      have other : nal ≠ x20Pps := by
        rintro rfl
        exact absurd sps (by decide)
      rw [if_neg (by simpa [filled] using stopped), if_pos sps]
      split
      · rename_i exact
        have high : isX21Rv1126MppSps x20Sps = false := by decide
        have known : isForeign x20Sps = false := by decide
        simp [exact, high, known, show x20Sps ≠ x20Pps by decide]
      · rename_i apart
        split
        · rename_i high
          simp [apart, other, high, isForeign]
        · rename_i low
          simp [apart, other, low, isForeign, isParameterSet, sps]
    · have low : isX21Rv1126MppSps nal = false :=
        Bool.eq_false_of_not_eq_true fun high => sps (isX21_type high)
      have other : nal ≠ x20Sps := by
        rintro rfl
        exact sps (by decide)
      by_cases pps : byteAt nal 0 &&& 0x1F = 8
      · have filled : nal ≠ [] := by
          rintro rfl
          exact absurd pps (by decide)
        rw [if_neg (by simpa [filled] using stopped), if_neg sps, if_pos pps]
        split
        · rename_i exact
          have known : isForeign x20Pps = false := by decide
          simp [← exact, other, low, exact ▸ known]
        · rename_i apart
          simp [apart, other, low, isForeign, isParameterSet, pps]
      · have apart : nal ≠ x20Pps := by
          rintro rfl
          exact pps (by decide)
        rw [if_neg sps, if_neg pps, ite_self]
        simp [apart, other, low, isForeign_other sps pps]

/-- The flags say what was received, and while nothing was injected a clear detector has
seen no foreign parameter set. -/
structure Knows (known : List (List UInt8)) (assembly : Assembly) : Prop where
  sps : assembly.x20SpsSeen = true → x20Sps ∈ known
  pps : assembly.x20PpsSeen = true → x20Pps ∈ known
  x21 : assembly.x21MppSpsSeen = true → ∃ nal ∈ known, isX21Rv1126MppSps nal = true
  clean : assembly.x20CheckedNonX20 = false → assembly.x20HeaderInjected = false →
    ∀ nal ∈ known, isForeign nal = false

/-- The parameter sets that the detector looks for have come. -/
def calls (assembly : Assembly) : Bool :=
  assembly.x20SpsSeen && assembly.x20PpsSeen || assembly.x21MppSpsSeen

theorem wantsX20Header_eq (assembly : Assembly) :
    wantsX20Header assembly = (calls assembly && !assembly.x20HeaderInjected) := by
  simp only [wantsX20Header, calls]
  cases assembly.x20HeaderInjected <;> simp

theorem updateX20Detection_knows (knows : Knows known assembly) (nal : List UInt8) :
    Knows (nal :: known) (updateX20Detection nal assembly) := by
  rw [updateX20Detection_eq]
  split
  · rename_i stopped
    constructor
    · exact fun seen => List.mem_cons_of_mem _ (knows.sps seen)
    · exact fun seen => List.mem_cons_of_mem _ (knows.pps seen)
    · intro seen
      obtain ⟨high, inside, x21⟩ := knows.x21 seen
      exact ⟨high, List.mem_cons_of_mem _ inside, x21⟩
    · intro clear bare
      simp [clear, bare] at stopped
  · rename_i going
    have unstopped : assembly.x20HeaderInjected = false ∧ assembly.x20CheckedNonX20 = false := by
      simpa using going
    constructor
    · intro seen
      rw [Bool.or_eq_true, decide_eq_true_iff] at seen
      obtain before | rfl := seen
      · exact List.mem_cons_of_mem _ (knows.sps before)
      · exact List.mem_cons_self
    · intro seen
      rw [Bool.or_eq_true, decide_eq_true_iff] at seen
      obtain before | rfl := seen
      · exact List.mem_cons_of_mem _ (knows.pps before)
      · exact List.mem_cons_self
    · intro seen
      rw [Bool.or_eq_true] at seen
      obtain before | high := seen
      · obtain ⟨other, inside, x21⟩ := knows.x21 before
        exact ⟨other, List.mem_cons_of_mem _ inside, x21⟩
      · exact ⟨nal, List.mem_cons_self, high⟩
    · intro clear _
      rw [Bool.or_eq_false_iff] at clear
      rw [List.forall_mem_cons]
      exact ⟨clear.2, knows.clean unstopped.2 unstopped.1⟩

/-- The NAL unit with which the detector calls for the seed is one that it looks for, and
nothing has stopped it until then. -/
theorem called_by (idle : calls assembly = false)
    (called : calls (updateX20Detection nal assembly) = true) :
    isParameterSet nal = true ∧
      (updateX20Detection nal assembly).x20CheckedNonX20 = false := by
  rw [updateX20Detection_eq] at called ⊢
  split at called
  · rw [idle] at called
    cases called
  · rename_i going
    rw [if_neg going]
    have clear : assembly.x20CheckedNonX20 = false := (Bool.or_eq_false_iff.1
      (Bool.eq_false_of_not_eq_true going)).2
    have known : nal = x20Sps ∨ nal = x20Pps ∨ isX21Rv1126MppSps nal = true := by
      by_contra none
      rw [not_or, not_or] at none
      simp only [calls, none.1, none.2.1, none.2.2, decide_false, Bool.or_false] at called
      rw [calls, called] at idle
      cases idle
    exact ⟨isParameterSet_of_known known, by simp [clear, isForeign_of_known known]⟩

theorem updateX20Detection_flags (nal : List UInt8) (assembly : Assembly) :
    (updateX20Detection nal assembly).x20HeaderInjected = assembly.x20HeaderInjected ∧
      (updateX20Detection nal assembly).x20HeaderMissing = assembly.x20HeaderMissing := by
  rw [updateX20Detection_eq]
  split <;> exact ⟨rfl, rfl⟩

/-! ### Without the force option -/

/-- The seed was submitted once at most, and only when it was due. -/
structure Disciplined (history : List Happening) : Prop where
  once : (seeds (submissions history)).length ≤ 1
  due : DueSeeds history

structure Detects (known : List (List UInt8)) (recorded : Recorded) : Prop
    extends Knows known recorded.assembly, Disciplined recorded.history where
  tried : calls recorded.assembly = true →
    recorded.assembly.x20HeaderInjected = true ∨ recorded.assembly.x20HeaderMissing = true
  unseeded : recorded.assembly.x20HeaderInjected = false →
    ∀ packet ∈ submissions recorded.history, packet.seed = false

/-- A NAL unit was queued and the detector has not looked at it. -/
def Waiting (nal : List UInt8) (timestamp : UInt32) (recorded : Recorded) : Prop :=
  ∃ earlier, recorded.history = .queued nal timestamp :: earlier ∧
    Detects (received earlier) recorded

def Detecting (recorded : Recorded) : Prop := Detects (received recorded.history) recorded

theorem detecting_live (detects : Detecting before)
    (submits : Submits ⟨false, data, pts, accepted⟩ before after) : Detecting after := by
  obtain ⟨parsed, counted, stalls, rfl⟩ := submits
  refine ⟨{ detects.toKnows with }, ⟨?_, ?_⟩, detects.tried, ?_⟩
  · simpa [submissions, seeds] using detects.once
  · apply EachSubmission.cons detects.due
    rintro packet ⟨⟩ seed
    cases seed
  · intro bare packet inside
    rw [submissions, List.mem_append, List.mem_singleton] at inside
    obtain before | rfl := inside
    · exact detects.unseeded bare packet before
    · rfl

/-- An attempt to submit the seed, at a moment at which it is due. -/
theorem injects_detects (knows : Knows (received recorded.history) recorded.assembly)
    (disciplined : Disciplined recorded.history)
    (unseeded : recorded.assembly.x20HeaderInjected = false →
      ∀ packet ∈ submissions recorded.history, packet.seed = false)
    (due : recorded.assembly.x20HeaderInjected = false → recorded.assembly.x20HeaderMissing = false →
      SeedDue recorded.history)
    (injects : Injects setup recorded.assembly result) :
    Leaves Detecting (fun recorded => Disciplined recorded.history) (noting recorded result) := by
  cases injects with
  | settled held =>
    simp only [noting, extended_self]
    exact ⟨disciplined, fun _ => ⟨knows, disciplined, fun _ => held, unseeded⟩⟩
  | missing fresh =>
    have same : extended recorded.assembly { recorded.assembly with x20HeaderMissing := true }
        recorded.history = recorded.history := extended_same rfl _
    simp only [noting, same]
    exact ⟨disciplined, fun _ => ⟨{ knows with }, disciplined, fun _ => .inr rfl, unseeded⟩⟩
  | offered fresh held file filled taken parsed counted stalls injections =>
    rename_i header injected accepted
    simp only [noting]
    rw [extended_one rfl]
    have once : Disciplined (.submitted ⟨true, header, 0, accepted⟩ :: recorded.history) := by
      constructor
      · have none := seeds_eq_nil (unseeded fresh.1)
        rw [seeds] at none
        simp [submissions, seeds, none]
      · apply EachSubmission.cons disciplined.due
        intro packet _ _
        exact due fresh.1 fresh.2
    refine ⟨once, fun succeeded => ?_⟩
    have injected := taken.trans succeeded
    refine ⟨{ knows with clean := ?_ }, once, fun _ => .inl injected, ?_⟩
    · intro _ bare
      exact absurd (bare.symm.trans injected) (by decide)
    · intro bare
      exact absurd (bare.symm.trans injected) (by decide)

/-- The seed goes out at the parameter set that completes what the detector looks for. -/
theorem injectDetectedHeader_detects (same : setup.codec = .nal .h264)
    (waiting : Waiting nal timestamp recorded) :
    Leaves Detecting (fun recorded => Disciplined recorded.history)
      (noting recorded (injectDetectedHeader setup nal recorded.assembly)) := by
  obtain ⟨earlier, history, detects⟩ := waiting
  have flags := updateX20Detection_flags nal recorded.assembly
  have knows : Knows (received recorded.history) (updateX20Detection nal recorded.assembly) := by
    rw [history]
    exact updateX20Detection_knows detects.toKnows nal
  have unseeded : (updateX20Detection nal recorded.assembly).x20HeaderInjected = false →
      ∀ packet ∈ submissions recorded.history, packet.seed = false := by
    rw [flags.1]
    exact detects.unseeded
  unfold injectDetectedHeader
  rw [if_neg (by simp [same])]
  dsimp only
  rw [noting_updated nal, wantsX20Header_eq]
  split
  · rename_i wanted
    rw [Bool.and_eq_true] at wanted
    have nals : setup.codec ≠ .mjpeg := by simp [same]
    refine injects_detects knows detects.toDisciplined unseeded ?_
      (injectX20HeaderIfNeeded_injects nals _)
    intro bare unsought
    -- An attempt was made as soon as the flags called for one.
    have idle : calls recorded.assembly = false := by
      apply Bool.eq_false_of_not_eq_true
      intro called
      have tried := detects.tried called
      rw [← flags.1, ← flags.2] at tried
      obtain injected | missing := tried
      · exact absurd (bare.symm.trans injected) (by decide)
      · exact absurd (unsought.symm.trans missing) (by decide)
    obtain ⟨completes, clear⟩ := called_by idle wanted.1
    refine ⟨⟨nal, timestamp, earlier, history, completes⟩, ?_, knows.clean clear bare⟩
    have called := wanted.1
    rw [calls, Bool.or_eq_true, Bool.and_eq_true] at called
    obtain ⟨sps, pps⟩ | x21 := called
    · exact .inl ⟨knows.sps sps, knows.pps pps⟩
    · exact .inr (knows.x21 x21)
  · rename_i unwanted
    simp only [noting, extended_self]
    refine ⟨detects.toDisciplined, fun _ => ⟨knows, detects.toDisciplined, ?_, unseeded⟩⟩
    intro called
    left
    simpa [called] using unwanted

theorem isForeign_slice (slice : isVcl .h264 nal = true) : isForeign nal = false := by
  apply isForeign_other
  · intro sps
    simp [isVcl, nalType, sps] at slice
  · intro pps
    simp [isVcl, nalType, pps] at slice

/-- The detector need not look at a NAL unit that is no foreign parameter set. -/
theorem Waiting.detecting (waiting : Waiting nal timestamp recorded)
    (native : isForeign nal = false) : Detecting recorded := by
  obtain ⟨earlier, history, detects⟩ := waiting
  have knows : Knows (nal :: received earlier) recorded.assembly := by
    constructor
    · exact fun seen => List.mem_cons_of_mem _ (detects.sps seen)
    · exact fun seen => List.mem_cons_of_mem _ (detects.pps seen)
    · intro seen
      obtain ⟨high, inside, x21⟩ := detects.x21 seen
      exact ⟨high, List.mem_cons_of_mem _ inside, x21⟩
    · intro clear bare
      rw [List.forall_mem_cons]
      exact ⟨native, detects.clean clear bare⟩
  unfold Detecting
  rw [history]
  exact { detects with toKnows := knows }

theorem queueSlice_detects (detects : Detecting recorded) :
    Detecting { recorded with assembly := queueSlice nal timestamp recorded.assembly } := by
  unfold queueSlice
  dsimp only
  split <;> split <;> exact { detects with }

theorem recording_detects (same : setup.codec = .nal .h264)
    (unforced : setup.forceX20Header = false) :
    Preserves (recordingOps setup) Detecting (fun recorded => Disciplined recorded.history) where
  weaker := fun _ detects => detects.toDisciplined
  counted := by
    intro counted recorded detects
    cases counted <;> exact { detects with }
  discarded := fun _ detects => { detects with }
  queued := by
    intro nal timestamp recorded detects
    have waiting : Waiting nal timestamp
        { recorded with history := .queued nal timestamp :: recorded.history } :=
      ⟨recorded.history, rfl, { detects with due := detects.due.cons nofun }⟩
    refine queueNal_leaves (Waiting nal timestamp) Detecting same
      (fun _ detects => detects.toDisciplined) ?_ ?_
      (fun _ passed slice => queueSlice_detects (passed.detecting (isForeign_slice slice)))
      (fun _ passed _ => injectDetectedHeader_detects same passed)
      (fun _ _ _ detects _ _ submits => detecting_live detects submits)
    · rintro rfl
      exact waiting.detecting (by decide)
    · intro _
      have unasked : injectForcedHeader setup recorded.assembly = (true, recorded.assembly) := by
        simp [injectForcedHeader, unforced]
      rw [unasked]
      simp only [noting, extended_self]
      exact ⟨⟨detects.once, detects.due.cons nofun⟩, fun _ => waiting⟩
  flushed := by
    intro recorded detects
    refine flushAccessUnit_leaves (by simp [same]) (fun _ detects => detects.toDisciplined)
      (fun _ detects => { detects with }) ?_ detects
    exact fun _ _ _ submits => detecting_live detects submits

/-! ### With the force option -/

/-- No NAL unit has come. -/
structure Fresh (assembly : Assembly) : Prop where
  submitted : assembly.submitted = []
  accessUnit : assembly.accessUnit = []
  counted : assembly.submittedPackets = 0
  sps : assembly.x20SpsSeen = false
  pps : assembly.x20PpsSeen = false
  x21 : assembly.x21MppSpsSeen = false
  injected : assembly.x20HeaderInjected = false
  missing : assembly.x20HeaderMissing = false

def Leading (setup : Setup) (recorded : Recorded) : Prop :=
  Leads setup recorded.assembly.submitted

/-- The seed was submitted ahead of everything, or looked for in vain. -/
structure Decided (setup : Setup) (recorded : Recorded) : Prop where
  leads : Leading setup recorded
  tried : recorded.assembly.x20HeaderInjected = true ∨ recorded.assembly.x20HeaderMissing = true
  some : SeedAvailable setup → recorded.assembly.submitted ≠ []

def Forcing (setup : Setup) (recorded : Recorded) : Prop :=
  Fresh recorded.assembly ∨ Decided setup recorded

theorem forcing_leads (forcing : Forcing setup recorded) :
    Leading setup recorded := by
  obtain fresh | decided := forcing
  · rw [Leading, fresh.submitted]
    exact ⟨nofun, fun _ => nofun⟩
  · exact decided.leads

theorem decided_live (decided : Decided setup before)
    (submits : Submits ⟨false, data, pts, accepted⟩ before after) :
    Decided setup after := by
  obtain ⟨parsed, counted, stalls, rfl⟩ := submits
  refine ⟨?_, decided.tried, fun _ => by simp⟩
  obtain ⟨following, leading⟩ := decided.leads
  have some := decided.some
  change Leads setup (before.assembly.submitted ++ [⟨false, data, pts, accepted⟩])
  cases held : before.assembly.submitted with
  | nil => exact ⟨nofun, fun available => absurd held (some available)⟩
  | cons first rest =>
    rw [held] at following leading
    constructor
    · intro packet inside
      rw [List.cons_append, List.tail_cons, List.mem_append, List.mem_singleton] at inside
      obtain before | rfl := inside
      · exact following packet before
      · rfl
    · exact leading

theorem decided_injects (decided : Decided setup recorded)
    (injects : Injects setup recorded.assembly result) : noting recorded result = (true, recorded) := by
  have held := decided.tried
  cases injects with
  | settled => simp only [noting, extended_self]
  | missing fresh => simp [fresh.1, fresh.2] at held
  | offered fresh => simp [fresh.1, fresh.2] at held

theorem fresh_injects (fresh : Fresh recorded.assembly)
    (injects : Injects setup recorded.assembly result) :
    Leaves (Decided setup)
      (Leading setup) (noting recorded result) := by
  cases injects with
  | settled held => simp [fresh.injected, fresh.missing] at held
  | missing _ vain =>
    have absent : ¬ SeedAvailable setup := by
      rintro ⟨path, place, header, file, filled⟩
      exact filled (vain path (fresh.x21 ▸ place) header file)
    have leads : Leads setup recorded.assembly.submitted := by
      rw [fresh.submitted]
      exact ⟨nofun, fun _ => nofun⟩
    exact ⟨leads, fun _ => ⟨leads, .inr rfl, fun available => absurd available absent⟩⟩
  | offered bare held file filled taken parsed counted stalls injections =>
    rename_i header injected accepted
    have leads : Leads setup (recorded.assembly.submitted ++ [⟨true, header, 0, accepted⟩]) := by
      rw [fresh.submitted]
      refine ⟨nofun, fun _ => ?_⟩
      rintro packet ⟨⟩
      rfl
    refine ⟨leads, fun succeeded => ⟨leads, .inl (taken.trans succeeded), fun _ => ?_⟩⟩
    simp [noting]

theorem injectForcedHeader_decides (same : setup.codec = .nal .h264)
    (forced : setup.forceX20Header = true) (forcing : Forcing setup recorded) :
    Leaves (Decided setup)
      (Leading setup)
      (noting recorded (injectForcedHeader setup recorded.assembly)) := by
  have nals : setup.codec ≠ .mjpeg := by simp [same]
  have injects := injectX20HeaderIfNeeded_injects nals recorded.assembly
  obtain fresh | decided := forcing
  · have asked : injectForcedHeader setup recorded.assembly =
        injectX20HeaderIfNeeded setup recorded.assembly := by
      simp [injectForcedHeader, forced, same, fresh.counted, fresh.sps, fresh.pps, fresh.injected]
    rw [asked]
    exact fresh_injects fresh injects
  · unfold injectForcedHeader
    split
    · rw [decided_injects decided injects]
      exact ⟨decided.leads, fun _ => decided⟩
    · simp only [noting, extended_self]
      exact ⟨decided.leads, fun _ => decided⟩

theorem injectDetectedHeader_decided (same : setup.codec = .nal .h264)
    (decided : Decided setup recorded) :
    Leaves (Decided setup)
      (Leading setup)
      (noting recorded (injectDetectedHeader setup nal recorded.assembly)) := by
  have updated : Decided setup
      { recorded with assembly := updateX20Detection nal recorded.assembly } := by
    rw [updateX20Detection_eq]
    split <;> exact { decided with }
  have nals : setup.codec ≠ .mjpeg := by simp [same]
  unfold injectDetectedHeader
  rw [if_neg (by simp [same])]
  dsimp only
  rw [noting_updated nal]
  split
  · rw [decided_injects updated (injectX20HeaderIfNeeded_injects nals _)]
    exact ⟨updated.leads, fun _ => updated⟩
  · simp only [noting, extended_self]
    exact ⟨updated.leads, fun _ => updated⟩

theorem recording_forces (same : setup.codec = .nal .h264) (forced : setup.forceX20Header = true) :
    Preserves (recordingOps setup) (Forcing setup)
      (Leading setup) where
  weaker := fun _ => forcing_leads
  counted := by
    rintro counted recorded (fresh | decided)
    · left
      cases counted <;> exact { fresh with }
    · right
      cases counted <;> exact { decided with }
  discarded := by
    rintro recorded (fresh | decided)
    · exact .inl { fresh with accessUnit := rfl }
    · exact .inr { decided with }
  queued := by
    intro nal timestamp recorded forcing
    have queued : Forcing setup
        { recorded with history := .queued nal timestamp :: recorded.history } :=
      forcing.imp_right fun decided => { decided with }
    refine queueNal_leaves (Decided setup)
      (Decided setup) same (fun _ => forcing_leads)
      (fun _ => queued) ?_ ?_ ?_ ?_
    · exact fun _ => injectForcedHeader_decides same forced queued
    · intro recorded decided _
      right
      unfold queueSlice
      dsimp only
      split <;> split <;> exact { decided with }
    · exact fun _ decided _ => injectDetectedHeader_decided same decided
    · exact fun _ _ _ decided _ _ submits => .inr (decided_live decided submits)
  flushed := by
    intro recorded forcing
    refine flushAccessUnit_leaves (by simp [same]) (fun _ => forcing_leads) ?_ ?_ forcing
    · rintro recorded (fresh | decided)
      · exact .inl { fresh with accessUnit := rfl }
      · exact .inr { decided with }
    · intro after accepted filled submits
      obtain fresh | decided := forcing
      · exact absurd fresh.accessUnit filled
      · exact .inr (decided_live decided submits)

/-! ### Every run -/

theorem received_append (later earlier : List Happening) :
    received (later ++ earlier) = received later ++ received earlier := by
  induction later with
  | nil => rfl
  | cons happening later ih => cases happening <;> simp [received, ih]

theorem submissions_split (inside : packet ∈ submissions history) :
    ∃ later earlier, history = later ++ .submitted packet :: earlier := by
  induction history with
  | nil => cases inside
  | cons happening earlier ih =>
    have older (inside : packet ∈ submissions earlier) :
        ∃ later rest, happening :: earlier = later ++ .submitted packet :: rest := by
      obtain ⟨later, rest, split⟩ := ih inside
      exact ⟨happening :: later, rest, by rw [split, List.cons_append]⟩
    cases happening with
    | queued nal timestamp => exact older inside
    | submitted last =>
      rw [submissions, List.mem_append, List.mem_singleton] at inside
      obtain before | rfl := inside
      · exact older before
      · exact ⟨[], earlier, rfl⟩

/-- If the first parameter set is foreign, the seed never becomes due. -/
theorem seeds_of_foreign (due : DueSeeds history)
    (first : (received history).reverse.find? isParameterSet = some nal)
    (foreign : isForeign nal = true) : seeds (submissions history) = [] := by
  apply seeds_eq_nil
  intro packet inside
  apply Bool.eq_false_of_not_eq_true
  intro seed
  obtain ⟨later, earlier, rfl⟩ := submissions_split inside
  obtain ⟨⟨last, timestamp, rest, rfl, kind⟩, -, native⟩ := due later packet earlier rfl seed
  have known : last ∈ received (.queued last timestamp :: rest) := List.mem_cons_self
  cases found : (received (.queued last timestamp :: rest)).reverse.find? isParameterSet with
  | none =>
    rw [List.find?_eq_none] at found
    exact found last (List.mem_reverse.2 known) kind
  | some other =>
    rw [received_append, List.reverse_append, List.find?_append] at first
    change (((received (.queued last timestamp :: rest)).reverse.find? isParameterSet).or _) =
      some nal at first
    rw [found, Option.some_or, Option.some.injEq] at first
    have among := List.mem_reverse.1 (List.mem_of_find?_eq_some found)
    rw [first] at among
    exact absurd foreign (by simp [native nal among])

theorem seeds_of_leads (leads : Leads setup submitted) : (seeds submitted).length ≤ 1 := by
  cases submitted with
  | nil => exact Nat.zero_le 1
  | cons first rest =>
    have none : rest.filter Submitted.seed = [] := seeds_eq_nil leads.1
    rw [seeds, List.filter_cons]
    split <;> simp [none]

structure SeedDiscipline (setup : Setup) (submitted : List Submitted) (history : List Happening) :
    Prop where
  once : (seeds submitted).length ≤ 1
  leads : setup.forceX20Header = true → Leads setup submitted
  due : setup.forceX20Header = false → DueSeeds history
  foreign : setup.forceX20Header = false → ∀ nal,
    (received history).reverse.find? isParameterSet = some nal → isForeign nal = true →
      seeds submitted = []

/-- Over every run the seed goes out once at most: ahead of everything if it is forced, else
when the detector has recognised the stream. -/
theorem seed_discipline (setup : Setup) (same : setup.codec = .nal .h264)
    (datagrams : List (List UInt8)) :
    submissions (recordedRun setup .h264 datagrams).history =
        (datagrams.foldl (receive (handleRtpPacket setup))
          rockchipStart).decoder.assembly.submitted ∧
      SeedDiscipline setup
        (datagrams.foldl (receive (handleRtpPacket setup)) rockchipStart).decoder.assembly.submitted
        (recordedRun setup .h264 datagrams).history := by
  have listed := recordedRun_submissions same datagrams
  refine ⟨listed, ?_⟩
  cases forced : setup.forceX20Header with
  | true =>
    have initial : Forcing setup {} := .inl ⟨rfl, rfl, rfl, rfl, rfl, rfl, rfl, rfl⟩
    have leading := recordedRun_ended (recording_forces same forced) initial .h264 datagrams
    rw [Leading, recordedRun_assembly setup .h264 same datagrams] at leading
    constructor
    · exact seeds_of_leads leading
    · exact fun _ => leading
    · intro unforced
      cases forced.symm.trans unforced
    · intro unforced
      cases forced.symm.trans unforced
  | false =>
    have initial : Detecting {} :=
      ⟨⟨nofun, nofun, nofun, fun _ _ => nofun⟩, ⟨Nat.zero_le 1, eachSubmission_nil⟩, nofun,
        fun _ => nofun⟩
    have disciplined := recordedRun_ended (recording_detects same forced) initial .h264 datagrams
    rw [← listed]
    constructor
    · exact disciplined.once
    · intro unforced
      cases forced.symm.trans unforced
    · exact fun _ => disciplined.due
    · exact fun _ nal first foreign => seeds_of_foreign disciplined.due first foreign

/-- The parameter sets of an X20, with the PPS first. -/
def x20Stream : List (List UInt8) :=
  [rtpBytes .plain ⟨false, 7, 1000, x20Pps⟩, rtpBytes .plain ⟨false, 8, 1000, x20Sps⟩,
    rtpBytes .plain ⟨false, 9, 1000, x20Pps⟩]

/-- The seed goes out between the two, and not again. -/
theorem x20_stream_seeded :
    let setup := { forcedSetup with forceX20Header := false }
    (x20Stream.foldl (receive (handleRtpPacket setup)) rockchipStart).decoder.assembly.submitted =
      [⟨false, startCode ++ x20Pps, 1000, true⟩, ⟨true, startCode ++ x20Sps, 0, true⟩,
        ⟨false, startCode ++ x20Sps, 1000, true⟩, ⟨false, startCode ++ x20Pps, 1000, true⟩] ∧
      DueSeeds (recordedRun setup .h264 x20Stream).history :=
  ⟨by decide +kernel, (seed_discipline _ rfl x20Stream).2.due rfl⟩

end Glide.RecoverySeed
