import Glide.CedarRtpDecoder
import Mathlib.Data.List.Chain

/-! The access units that reach the Cedar decoder. Each is made of packets in an unbroken
row and begins like a picture; whether an IDR slice comes first after something was
discarded depends on what was discarded, and where. -/
namespace Glide.CedarAccessUnits
open RtpPackets NalPayloads SliceHeaders CedarRtpDecoder

/-! ### What an access unit is made of -/

def kindOf (nal : List UInt8) : UInt8 := nalType .h264 (byteAt nal 0)

/-- A part begins a NAL unit, or it goes on with the last one. -/
def joinPart (nals : List (List UInt8)) : Part → List (List UInt8)
  | .delimiter => nals ++ [[0x09, 0x10]]
  | .parameterSet bytes => nals ++ [bytes]
  | .nal _ bytes => nals ++ [bytes]
  | .continuation _ data => nals.dropLast ++ [nals.getLast?.getD [] ++ data]

def nalUnits (unit : List Part) : List (List UInt8) := unit.foldl joinPart []

/-- The VCL NAL units. -/
def slices (unit : List Part) : List (List UInt8) := (nalUnits unit).filter (isVcl .h264)

def sliceKinds (unit : List Part) : List UInt8 := (slices unit).map kindOf

/-- The packet that a part was taken from. The delimiter and the kept parameter sets are
the decoder's own. -/
def source : Part → Option Nat
  | .delimiter => none
  | .parameterSet _ => none
  | .nal packet _ => some packet
  | .continuation packet _ => some packet

/-- The packets accepted since the last reset and their numbers, in order. -/
def acceptedSinceReset : List Event → List (Nat × UInt16)
  | [] => []
  | .reset :: _ => []
  | .accepted packet sequence :: earlier => acceptedSinceReset earlier ++ [(packet, sequence)]
  | .skipped :: earlier => acceptedSinceReset earlier
  | .submitted _ _ :: earlier => acceptedSinceReset earlier

def Contiguous (accepted : List (Nat × UInt16)) : Prop :=
  accepted.IsChain fun earlier later => later.2 = earlier.2 + 1

/-- An access unit made of these packets: a delimiter, then whole NAL units, the first
slice among them at macroblock 0. -/
structure Shaped (accepted : List (Nat × UInt16)) (unit : List Part) : Prop where
  sources : ∀ part ∈ unit, ∀ packet ∈ source part, packet ∈ accepted.map Prod.fst
  kept : ∀ bytes, .parameterSet bytes ∈ unit → kindOf bytes = 7 ∨ kindOf bytes = 8
  delimiter : unit ≠ [] → unit.head? = some .delimiter
  picture : ∀ slice ∈ (slices unit).head?, firstSliceStartsFrame slice = true

/-- Every access unit that was submitted. -/
def UnitsIntact (log : List Event) : Prop :=
  ∀ later unit pts earlier, log = later ++ .submitted unit pts :: earlier →
    Contiguous (acceptedSinceReset earlier) ∧ unit.head? = some .delimiter ∧
      unitBytes unit = annexB (nalUnits unit) ∧ Shaped (acceptedSinceReset earlier) unit

/-- The slices submitted, in order. -/
def submittedKinds : List Event → List UInt8
  | [] => []
  | .submitted unit _ :: earlier => submittedKinds earlier ++ sliceKinds unit
  | .accepted _ _ :: earlier => submittedKinds earlier
  | .reset :: earlier => submittedKinds earlier
  | .skipped :: earlier => submittedKinds earlier

def discards : Event → Bool
  | .reset => true
  | .skipped => true
  | .accepted _ _ => false
  | .submitted _ _ => false

/-- The first slice submitted after anything was discarded is one of an IDR picture. -/
def ResumesWithIdr (log : List Event) : Prop :=
  ∀ later event earlier, log = later ++ event :: earlier → discards event = true →
    ∀ kind ∈ (submittedKinds later).head?, kind = 5

/-! ### Units that grow -/

theorem nalUnits_append (unit : List Part) (part : Part) :
    nalUnits (unit ++ [part]) = joinPart (nalUnits unit) part := by
  simp [nalUnits, List.foldl_append]

theorem isVcl_h264 (nal : List UInt8) : isVcl .h264 nal = nalIsVcl (kindOf nal) := rfl

theorem isVcl_nil : isVcl .h264 [] = false := by decide

/-- More data does not change what a NAL unit is. -/
theorem kindOf_append (filled : nal ≠ []) (data : List UInt8) :
    kindOf (nal ++ data) = kindOf nal := by
  obtain ⟨first, rest, rfl⟩ := List.exists_cons_of_ne_nil filled
  rfl

/-- The parts of a unit that begins with the delimiter are its NAL units, a start code
before each. -/
theorem unitBytes_of_delimiter (delimiter : unit.head? = some .delimiter) :
    unitBytes unit = annexB (nalUnits unit) := by
  have joined : ∀ (rest : List Part) (nals : List (List UInt8)), nals ≠ [] →
      annexB (rest.foldl joinPart nals) = annexB nals ++ unitBytes rest := by
    intro rest
    induction rest with
    | nil => simp [unitBytes]
    | cons part rest ih =>
      intro nals filled
      have grown : joinPart nals part ≠ [] ∧
          annexB (joinPart nals part) = annexB nals ++ part.bytes := by
        cases part with
        | delimiter => simp [joinPart, annexB, Part.bytes]
        | parameterSet bytes => simp [joinPart, annexB, Part.bytes]
        | nal packet bytes => simp [joinPart, annexB, Part.bytes]
        | continuation packet data =>
          obtain ⟨before, last, rfl⟩ : ∃ before last, nals = before ++ [last] :=
            ⟨_, _, (List.dropLast_concat_getLast filled).symm⟩
          simp [joinPart, annexB, Part.bytes]
      rw [List.foldl_cons, ih _ grown.1, grown.2]
      simp [unitBytes]
  cases unit with
  | nil => cases delimiter
  | cons part rest =>
    cases delimiter
    exact (joined rest [[0x09, 0x10]] (List.cons_ne_nil _ _)).symm

theorem nalUnits_delimited (unit : List Part) :
    slices (delimited unit) = slices unit ∧ delimited unit ≠ [] := by
  unfold delimited
  split
  · rename_i empty
    subst empty
    exact ⟨by decide, List.cons_ne_nil _ _⟩
  · rename_i filled
    exact ⟨rfl, filled⟩

/-- One more NAL unit. -/
theorem slices_of_joined (joined : nalUnits after = nalUnits unit ++ [nal]) :
    slices after = slices unit ++ if isVcl .h264 nal then [nal] else [] := by
  rw [slices, joined, List.filter_append, slices]
  cases slice : isVcl .h264 nal <;> simp [slice]

namespace Shaped
variable {accepted : List (Nat × UInt16)} {unit : List Part}

theorem nil : Shaped accepted [] := ⟨nofun, nofun, fun filled => absurd rfl filled, nofun⟩

theorem mono (shaped : Shaped accepted unit)
    (more : ∀ packet ∈ accepted.map Prod.fst, packet ∈ later.map Prod.fst) :
    Shaped later unit :=
  { shaped with
    sources := fun part inside packet from_part =>
      more packet (shaped.sources part inside packet from_part) }

theorem delimited (shaped : Shaped accepted unit) :
    Shaped accepted (CedarRtpDecoder.delimited unit) := by
  unfold CedarRtpDecoder.delimited
  split
  · constructor
    · simp [source]
    · simp
    · simp
    · have none : slices [.delimiter] = [] := by decide
      simp [none]
  · exact shaped

theorem add (shaped : Shaped accepted unit) (filled : unit ≠ [])
    (joined : nalUnits (unit ++ parts) = nalUnits unit ++ [nal])
    (sources : ∀ part ∈ parts, ∀ packet ∈ source part, packet ∈ accepted.map Prod.fst)
    (kept : ∀ bytes, .parameterSet bytes ∈ parts → kindOf bytes = 7 ∨ kindOf bytes = 8)
    (begins : isVcl .h264 nal = true → slices unit = [] → firstSliceStartsFrame nal = true) :
    Shaped accepted (unit ++ parts) := by
  constructor
  · intro part inside
    rw [List.mem_append] at inside
    exact inside.elim (shaped.sources part) (sources part)
  · intro bytes inside
    rw [List.mem_append] at inside
    exact inside.elim (shaped.kept bytes) (kept bytes)
  · intro _
    rw [List.head?_append_of_ne_nil _ filled]
    exact shaped.delimiter filled
  · intro slice first
    rw [slices_of_joined joined] at first
    by_cases empty : slices unit = []
    · rw [empty, List.nil_append] at first
      split at first
      · rename_i own
        cases first
        exact begins own empty
      · cases first
    · rw [List.head?_append_of_ne_nil _ empty] at first
      exact shaped.picture slice first

end Shaped

/-- A NAL unit that goes on is the slice it was, at the same macroblock. -/
theorem slices_continuation {unit : List Part} (last : nalUnits unit = before ++ [nal])
    (filled : nal ≠ []) (packet : Nat) (data : List UInt8) :
    slices (unit ++ [.continuation packet data]) =
      before.filter (isVcl .h264) ++ if isVcl .h264 nal then [nal ++ data] else [] := by
  have kind : isVcl .h264 (nal ++ data) = isVcl .h264 nal := by
    rw [isVcl_h264, kindOf_append filled, isVcl_h264]
  rw [slices, nalUnits_append, last]
  cases slice : isVcl .h264 nal <;> simp [joinPart, List.filter_append, kind, slice]

theorem sliceKinds_continuation {unit : List Part} (last : nalUnits unit = before ++ [nal])
    (filled : nal ≠ []) (packet : Nat) (data : List UInt8) :
    sliceKinds (unit ++ [.continuation packet data]) = sliceKinds unit := by
  have whole : slices unit =
      before.filter (isVcl .h264) ++ if isVcl .h264 nal then [nal] else [] := by
    rw [slices, last, List.filter_append]
    cases slice : isVcl .h264 nal <;> simp [slice]
  rw [sliceKinds, slices_continuation last filled, sliceKinds, whole]
  cases slice : isVcl .h264 nal <;> simp [kindOf_append filled]

theorem Shaped.continuation {unit : List Part} (shaped : Shaped accepted unit)
    (last : nalUnits unit = before ++ [nal]) (filled : nal ≠ []) (data : List UInt8)
    (own : packet ∈ accepted.map Prod.fst) :
    Shaped accepted (unit ++ [.continuation packet data]) := by
  have some_part : unit ≠ [] := by
    rintro rfl
    simp [nalUnits] at last
  constructor
  · intro part inside
    rw [List.mem_append, List.mem_singleton] at inside
    obtain before | rfl := inside
    · exact shaped.sources part before
    · rintro other ⟨⟩
      exact own
  · intro bytes inside
    rw [List.mem_append, List.mem_singleton] at inside
    exact shaped.kept bytes (inside.resolve_right nofun)
  · intro _
    rw [List.head?_append_of_ne_nil _ some_part]
    exact shaped.delimiter some_part
  · intro slice first
    have picture := shaped.picture
    rw [slices, last, List.filter_append] at picture
    rw [slices_continuation last filled] at first
    by_cases empty : before.filter (isVcl .h264) = []
    · rw [empty, List.nil_append] at first picture
      split at first
      · rename_i own
        cases first
        apply firstSliceStartsFrame_append
        exact picture nal (by simp [own])
      · cases first
    · rw [List.head?_append_of_ne_nil _ empty] at first picture
      exact picture slice first

/-! ### The log grows -/

theorem unitsIntact_nil : UnitsIntact [] := by
  intro later unit pts earlier split
  exact absurd split.symm (by simp)

/-- Only a submission has to be looked at again. -/
theorem UnitsIntact.cons (intact : UnitsIntact log)
    (submitted : ∀ unit pts, event = .submitted unit pts →
      Contiguous (acceptedSinceReset log) ∧ unit.head? = some .delimiter ∧
        Shaped (acceptedSinceReset log) unit) : UnitsIntact (event :: log) := by
  intro later unit pts earlier split
  cases later with
  | nil =>
    cases split
    obtain ⟨contiguous, delimiter, shaped⟩ := submitted unit pts rfl
    exact ⟨contiguous, delimiter, unitBytes_of_delimiter delimiter, shaped⟩
  | cons newest later =>
    cases split
    exact intact later unit pts earlier rfl

/-- Since anything was discarded, the slices that were submitted or wait begin with an IDR
slice, or there are none and one is awaited. -/
def Resumes (waiting : List UInt8) (requireIdr : Bool) (log : List Event) : Prop :=
  ∀ later event earlier, log = later ++ event :: earlier → discards event = true →
    (∀ kind ∈ (submittedKinds later ++ waiting).head?, kind = 5) ∧
      (submittedKinds later ++ waiting = [] → requireIdr = true)

theorem resumes_nil : Resumes waiting requireIdr [] := by
  intro later event earlier split
  exact absurd split.symm (by simp)

theorem Resumes.resumesWithIdr (resumes : Resumes waiting requireIdr log) :
    ResumesWithIdr log := by
  intro later event earlier split discarded kind first
  apply (resumes later event earlier split discarded).1
  rw [List.head?_append_of_ne_nil _ (List.ne_nil_of_mem (List.mem_of_mem_head? first))]
  exact first

theorem Resumes.accepted {sequence : UInt16} (resumes : Resumes waiting requireIdr log) :
    Resumes waiting requireIdr (.accepted packet sequence :: log) := by
  intro later event earlier split discarded
  cases later with
  | nil =>
    cases split
    cases discarded
  | cons newest later =>
    cases split
    exact resumes later event earlier rfl discarded

/-- What waited was submitted, whether or not it is still there. -/
theorem Resumes.submitted (resumes : Resumes (sliceKinds unit) requireIdr log)
    (left : waiting = [] ∨ waiting = sliceKinds unit) :
    Resumes waiting requireIdr (.submitted unit pts :: log) := by
  intro later event earlier split discarded
  cases later with
  | nil =>
    cases split
    cases discarded
  | cons newest later =>
    cases split
    obtain ⟨first, awaited⟩ := resumes later event earlier rfl discarded
    simp only [submittedKinds]
    obtain rfl | rfl := left
    · rw [List.append_nil]
      exact ⟨first, awaited⟩
    · constructor
      · intro kind inside
        by_cases empty : submittedKinds later ++ sliceKinds unit = []
        · have both := List.append_eq_nil_iff.1 empty
          rw [both.1, both.2] at inside
          cases inside
        · rw [List.head?_append_of_ne_nil _ empty] at inside
          exact first kind inside
      · intro empty
        exact awaited (List.append_eq_nil_iff.1 empty).1

/-- Everything that waits is discarded, and an IDR slice is awaited. -/
theorem Resumes.discarded (resumes : Resumes waiting requireIdr log)
    (dropped : discards event = true) : Resumes [] true (event :: log) := by
  intro later other earlier split discarded
  cases later with
  | nil =>
    cases split
    exact ⟨nofun, fun _ => rfl⟩
  | cons newest later =>
    cases split
    refine ⟨?_, fun _ => rfl⟩
    have begins := (resumes later other earlier rfl discarded).1
    have kept : submittedKinds (event :: later) = submittedKinds later := by
      cases event with
      | reset => rfl
      | skipped => rfl
      | accepted packet sequence => cases dropped
      | submitted unit pts => cases dropped
    intro kind inside
    rw [List.append_nil, kept] at inside
    apply begins
    rw [List.head?_append_of_ne_nil _ (List.ne_nil_of_mem (List.mem_of_mem_head? inside))]
    exact inside

/-- A slice that was let through joins the others. -/
theorem Resumes.add (resumes : Resumes waiting requireIdr log)
    (admitted : requireIdr = true → kind = 5) (further : Bool) :
    Resumes (waiting ++ [kind]) further log := by
  intro later event earlier split discarded
  obtain ⟨begins, awaited⟩ := resumes later event earlier split discarded
  rw [← List.append_assoc]
  constructor
  · intro other inside
    by_cases empty : submittedKinds later ++ waiting = []
    · rw [empty] at inside
      cases inside
      exact admitted (awaited empty)
    · rw [List.head?_append_of_ne_nil _ empty] at inside
      exact begins other inside
  · exact fun empty => absurd empty (by simp)

end Glide.CedarAccessUnits
