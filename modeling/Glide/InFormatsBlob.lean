import Glide.KmsPlanes
import Glide.Library.BinaryRecords
import Glide.Library.CheckedBuffers
import Glide.Library.MachineArithmetic

/-! The blob that tells which formats a plane takes with which modifiers: a header, a
table of formats and a table of records, each with a modifier and a bit for each of 64
formats. Numbers of the blob are not to be trusted. -/
namespace Glide.InFormatsBlob
open Glide.Library.BinaryRecords
open Glide.Library.CheckedBuffers
open Glide.Library.MachineArithmetic
open Glide.KmsPlanes (FormatModifierRecord)

/-- The kernel gives the length in 32 bits. -/
structure PropertyBlob where
  data : List UInt8
  held : data.length < 2 ^ 32

inductive Fault where
  | outside
deriving DecidableEq

/-- A number inside a record. -/
def field (bytes : List UInt8) (offset width : Nat) : Nat :=
  littleEndianValue ((bytes.drop offset).take width)

structure FormatModifierBlobHeader where
  version : Nat
  flags : Nat
  countFormats : Nat
  formatsOffset : Nat
  countModifiers : Nat
  modifiersOffset : Nat

def headerOf (bytes : List UInt8) : FormatModifierBlobHeader :=
  ⟨field bytes 0 4, field bytes 4 4, field bytes 8 4, field bytes 12 4, field bytes 16 4,
    field bytes 20 4⟩

def recordOf (bytes : List UInt8) : FormatModifierRecord :=
  ⟨field bytes 0 8, field bytes 8 4, field bytes 16 8⟩

def blobHasRange (blob : PropertyBlob) (offset count elementSize : Nat) : Bool :=
  if blob.data.length < offset then false
  else count ≤ (sub 64 blob.data.length offset).value / elementSize

/-- The bytes of a value. The copy is made when the check says that the blob has them. -/
def readBlobValue (blob : PropertyBlob) (size offset : Nat) :
    Except Fault (Option (List UInt8)) :=
  if blobHasRange blob offset 1 size then
    some <$> slice .outside blob.data offset (offset + size)
  else .ok none

/-- Where the entry of a table is, in 64 bits. -/
def entryOffset (start index size : Nat) : Nat :=
  (add 64 start (mul 64 index size).value).value

/-- The bit of the index in a record of the modifier. -/
def recordAllows (record : FormatModifierRecord) (formatIndex modifier : Nat) : Bool :=
  if record.modifier ≠ modifier ∨ formatIndex < record.offset then false
  else formatIndex - record.offset < 64 && record.formats.testBit (formatIndex - record.offset)

/-- The loop over the records, up to what the function returns there. -/
def searchRecords (blob : PropertyBlob) (start formatIndex modifier : Nat) :
    List Nat → Except Fault (Option Bool)
  | [] => pure none
  | index :: rest => do
    match ← readBlobValue blob 24 (entryOffset start index 24) with
    | none => pure (some false)
    | some bytes =>
      if recordAllows (recordOf bytes) formatIndex modifier then pure (some true)
      else searchRecords blob start formatIndex modifier rest

/-- The loop over the table of formats. The copies differ in what they do when a format
cannot be read: `unreadable` is what is returned then, if anything. -/
def searchFormats (unreadable : Option Bool) (blob : PropertyBlob)
    (header : FormatModifierBlobHeader) (format modifier : Nat) :
    List Nat → Except Fault (Option Bool)
  | [] => pure none
  | index :: rest => do
    match ← readBlobValue blob 4 (entryOffset header.formatsOffset index 4) with
    | none =>
      match unreadable with
      | some answer => pure (some answer)
      | none => searchFormats unreadable blob header format modifier rest
    | some bytes =>
      if field bytes 0 4 ≠ format then searchFormats unreadable blob header format modifier rest
      else
        match ← searchRecords blob header.modifiersOffset index modifier
            (List.range header.countModifiers) with
        | some answer => pure (some answer)
        | none => searchFormats unreadable blob header format modifier rest

def inFormatsBlobSupportsModifier (unreadable : Option Bool) (blob : PropertyBlob)
    (format : UInt32) (modifier : UInt64) : Except Fault Bool := do
  match ← readBlobValue blob 24 0 with
  | none => return false
  | some bytes =>
    let header := headerOf bytes
    if header.version ≠ 1 ∨ header.flags ≠ 0 then return false
    if !blobHasRange blob header.formatsOffset header.countFormats 4 ||
        !blobHasRange blob header.modifiersOffset header.countModifiers 24 then return false
    match ← searchFormats unreadable blob header format.toNat modifier.toNat
        (List.range header.countFormats) with
    | some answer => return answer
    | none => return false

/-- The function as `kms_atomic_compositor.cpp` has it. -/
def compositorBlobSupportsModifier := inFormatsBlobSupportsModifier (some false)

/-- The function as `kms_dmabuf_video_plane.cpp` has it. -/
def legacyPlaneBlobSupportsModifier := inFormatsBlobSupportsModifier none

/-- Some index has the format in the format table, and some record of the modifier has
the bit of that index. -/
structure Supports (blob : List UInt8) (format modifier : Nat) : Prop where
  headed : 24 ≤ blob.length
  version : (headerOf blob).version = 1
  flags : (headerOf blob).flags = 0
  formatsFit : (headerOf blob).formatsOffset + 4 * (headerOf blob).countFormats ≤ blob.length
  modifiersFit :
    (headerOf blob).modifiersOffset + 24 * (headerOf blob).countModifiers ≤ blob.length
  listed : ∃ index < (headerOf blob).countFormats,
    field blob ((headerOf blob).formatsOffset + 4 * index) 4 = format ∧
    ∃ place < (headerOf blob).countModifiers,
      let record := recordOf (blob.drop ((headerOf blob).modifiersOffset + 24 * place))
      record.modifier = modifier ∧ record.offset ≤ index ∧ index < record.offset + 64 ∧
        record.formats.testBit (index - record.offset) = true

theorem field_take (inside : offset + width ≤ size) (bytes : List UInt8) :
    field (bytes.take size) offset width = field bytes offset width := by
  unfold field
  rw [List.drop_take, List.take_take, Nat.min_eq_left (by omega)]

theorem headerOf_take (bytes : List UInt8) : headerOf (bytes.take 24) = headerOf bytes := by
  simp [headerOf, field_take]

theorem recordOf_take (bytes : List UInt8) : recordOf (bytes.take 24) = recordOf bytes := by
  simp [recordOf, field_take]

theorem blobHasRange_iff (blob : PropertyBlob) (offset count : Nat) (positive : 0 < elementSize) :
    blobHasRange blob offset count elementSize = true ↔
      offset + elementSize * count ≤ blob.data.length := by
  have held := blob.held
  unfold blobHasRange
  by_cases before : blob.data.length < offset
  · rw [if_pos before]
    simp only [Bool.false_eq_true, false_iff]
    omega
  · rw [if_neg before, sub_eq (by omega) (by omega), value_pure, decide_eq_true_eq,
      Nat.le_div_iff_mul_le positive, Nat.mul_comm]
    omega

theorem readBlobValue_inside (positive : 0 < size) (inside : offset + size ≤ blob.data.length) :
    readBlobValue blob size offset = .ok (some ((blob.data.drop offset).take size)) := by
  unfold readBlobValue slice
  rw [if_pos ((blobHasRange_iff blob offset 1 positive).2 (by omega)), if_pos (by omega),
    Nat.add_sub_cancel_left]
  rfl

/-- A value that is not there whole is not read. -/
theorem readBlobValue_outside (positive : 0 < size) (outside : blob.data.length < offset + size) :
    readBlobValue blob size offset = .ok none := by
  unfold readBlobValue
  rw [if_neg]
  intro inside
  have := (blobHasRange_iff blob offset 1 positive).1 inside
  omega

theorem entryOffset_eq (small : start + size * index < 2 ^ 64) :
    entryOffset start index size = start + size * index := by
  unfold entryOffset
  rw [mul_eq (by rw [Nat.mul_comm]; omega), value_pure, Nat.mul_comm, add_eq small, value_pure]

theorem recordAllows_iff (record : FormatModifierRecord) (formatIndex modifier : Nat) :
    recordAllows record formatIndex modifier = true ↔
      record.modifier = modifier ∧ record.offset ≤ formatIndex ∧
        formatIndex < record.offset + 64 ∧
        record.formats.testBit (formatIndex - record.offset) = true := by
  unfold recordAllows
  by_cases other : record.modifier ≠ modifier ∨ formatIndex < record.offset
  · rw [if_pos other]
    simp only [Bool.false_eq_true, false_iff]
    rintro ⟨same, reached, _⟩
    exact other.elim (absurd same) (Nat.not_lt.2 reached)
  · rw [if_neg other, Bool.and_eq_true, decide_eq_true_eq]
    rw [not_or, not_not, Nat.not_lt] at other
    constructor
    · rintro ⟨near, set⟩
      exact ⟨other.1, other.2, by omega, set⟩
    · rintro ⟨_, _, near, set⟩
      exact ⟨by omega, set⟩

section Tables
variable {blob : PropertyBlob} {start count format modifier : Nat} {unreadable : Option Bool}

/-- The record at an index of the table. -/
def recordAt (blob : PropertyBlob) (start place : Nat) : FormatModifierRecord :=
  recordOf (blob.data.drop (start + 24 * place))

theorem searchRecords_eq (formatIndex modifier : Nat)
    (fits : start + 24 * count ≤ blob.data.length) (places : List Nat)
    (listed : ∀ place ∈ places, place < count) :
    searchRecords blob start formatIndex modifier places =
      .ok (if places.any fun place => recordAllows (recordAt blob start place) formatIndex modifier
        then some true else none) := by
  have held := blob.held
  induction places with
  | nil => rfl
  | cons place rest ih =>
    have within := listed place List.mem_cons_self
    have found : readBlobValue blob 24 (entryOffset start place 24) =
        .ok (some ((blob.data.drop (start + 24 * place)).take 24)) := by
      rw [entryOffset_eq (by omega)]
      exact readBlobValue_inside (by decide) (by omega)
    unfold searchRecords
    rw [found]
    change (if recordAllows (recordOf (List.take 24 _)) formatIndex modifier = true then _
      else _) = _
    rw [recordOf_take, List.any_cons, ih fun place member => listed place (.tail _ member)]
    change (if recordAllows (recordAt blob start place) formatIndex modifier = true then _
      else _) = _
    cases recordAllows (recordAt blob start place) formatIndex modifier with
    | true => rfl
    | false => rfl

/-- Whether the search ends at an index of the format table. -/
def formatAllows (blob : PropertyBlob) (header : FormatModifierBlobHeader)
    (format modifier index : Nat) : Bool :=
  field blob.data (header.formatsOffset + 4 * index) 4 == format &&
    (List.range header.countModifiers).any fun place =>
      recordAllows (recordAt blob header.modifiersOffset place) index modifier

/-- With tables that fit no read fails, so that it does not matter what happens then. -/
theorem searchFormats_eq {header : FormatModifierBlobHeader}
    (formatsFit : header.formatsOffset + 4 * header.countFormats ≤ blob.data.length)
    (modifiersFit : header.modifiersOffset + 24 * header.countModifiers ≤ blob.data.length)
    (indices : List Nat) (listed : ∀ index ∈ indices, index < header.countFormats) :
    searchFormats unreadable blob header format modifier indices =
      .ok (if indices.any (formatAllows blob header format modifier) then some true else none) := by
  have held := blob.held
  induction indices with
  | nil => rfl
  | cons index rest ih =>
    have within := listed index List.mem_cons_self
    have found : readBlobValue blob 4 (entryOffset header.formatsOffset index 4) =
        .ok (some ((blob.data.drop (header.formatsOffset + 4 * index)).take 4)) := by
      rw [entryOffset_eq (by omega)]
      exact readBlobValue_inside (by decide) (by omega)
    have entry : field ((blob.data.drop (header.formatsOffset + 4 * index)).take 4) 0 4 =
        field blob.data (header.formatsOffset + 4 * index) 4 := by
      unfold field
      rw [List.drop_zero, List.take_take, Nat.min_self]
    have records := searchRecords_eq index modifier modifiersFit
      (List.range header.countModifiers) fun place => List.mem_range.1
    have later := ih fun index member => listed index (.tail _ member)
    unfold searchFormats
    rw [found]
    change (if field (List.take 4 _) 0 4 ≠ format then _ else _) = _
    rw [entry, List.any_cons, later]
    unfold formatAllows
    by_cases same : field blob.data (header.formatsOffset + 4 * index) 4 = format
    · rw [if_neg (not_not.2 same), records, beq_iff_eq.2 same, Bool.true_and]
      cases (List.range header.countModifiers).any fun place =>
          recordAllows (recordAt blob header.modifiersOffset place) index modifier with
      | true => rfl
      | false => rfl
    · rw [if_pos same, beq_eq_false_iff_ne.2 same, Bool.false_and, Bool.false_or]

end Tables

theorem supports_iff (headed : 24 ≤ blob.data.length) (format modifier : Nat) :
    Supports blob.data format modifier ↔
      ((headerOf blob.data).version = 1 ∧ (headerOf blob.data).flags = 0) ∧
      ((headerOf blob.data).formatsOffset + 4 * (headerOf blob.data).countFormats ≤
          blob.data.length ∧
        (headerOf blob.data).modifiersOffset + 24 * (headerOf blob.data).countModifiers ≤
          blob.data.length) ∧
      (List.range (headerOf blob.data).countFormats).any
        (formatAllows blob (headerOf blob.data) format modifier) = true := by
  simp only [List.any_eq_true, List.mem_range, formatAllows, Bool.and_eq_true, beq_iff_eq,
    recordAllows_iff]
  constructor
  · exact fun supports => ⟨⟨supports.version, supports.flags⟩,
      ⟨supports.formatsFit, supports.modifiersFit⟩, supports.listed⟩
  · rintro ⟨⟨version, flags⟩, ⟨formatsFit, modifiersFit⟩, listed⟩
    exact ⟨headed, version, flags, formatsFit, modifiersFit, listed⟩

/-- Whatever is done when a format cannot be read, the search stays inside the blob and
its answer is the one meant. -/
theorem inFormatsBlobSupportsModifier_spec (unreadable : Option Bool) (blob : PropertyBlob)
    (format : UInt32) (modifier : UInt64) :
    ∃ answer, inFormatsBlobSupportsModifier unreadable blob format modifier = .ok answer ∧
      (answer = true ↔ Supports blob.data format.toNat modifier.toNat) := by
  by_cases headed : 24 ≤ blob.data.length
  swap
  · refine ⟨false, ?_, iff_of_false Bool.false_ne_true fun supports => headed supports.headed⟩
    unfold inFormatsBlobSupportsModifier
    rw [readBlobValue_outside (by decide) (by omega)]
    rfl
  have found : readBlobValue blob 24 0 = .ok (some (blob.data.take 24)) :=
    readBlobValue_inside (by decide) (by omega)
  unfold inFormatsBlobSupportsModifier
  rw [found, supports_iff headed]
  change ∃ answer, (if (headerOf (blob.data.take 24)).version ≠ 1 ∨ _ then _ else _) = _ ∧ _
  rw [headerOf_take]
  by_cases refused : (headerOf blob.data).version ≠ 1 ∨ (headerOf blob.data).flags ≠ 0
  · refine ⟨false, if_pos refused, iff_of_false Bool.false_ne_true fun supports => ?_⟩
    exact refused.elim (absurd supports.1.1) (absurd supports.1.2)
  rw [if_neg refused]
  rw [not_or, not_not, not_not] at refused
  simp only [Bool.or_eq_true, Bool.not_eq_true', ← Bool.not_eq_true,
    blobHasRange_iff _ _ _ (show 0 < 4 by decide), blobHasRange_iff _ _ _ (show 0 < 24 by decide)]
  by_cases fit : (headerOf blob.data).formatsOffset + 4 * (headerOf blob.data).countFormats ≤
        blob.data.length ∧
      (headerOf blob.data).modifiersOffset + 24 * (headerOf blob.data).countModifiers ≤
        blob.data.length
  · rw [if_neg (by omega), searchFormats_eq fit.1 fit.2 _ fun index => List.mem_range.1]
    generalize (List.range (headerOf blob.data).countFormats).any
      (formatAllows blob (headerOf blob.data) format.toNat modifier.toNat) = allowed
    refine ⟨allowed, ?_, fun found => ⟨refused, fit, found⟩, fun supports => supports.2.2⟩
    cases allowed with
    | true => rfl
    | false => rfl
  · exact ⟨false, if_pos (by omega), iff_of_false Bool.false_ne_true fun supports =>
      fit supports.2.1⟩

section PlaneQueries
variable {bytes : List UInt8} {start count format modifier : Nat}

theorem planes_blobHasRange_iff (bytes : List UInt8) (offset count : Nat)
    (positive : 0 < elementSize) :
    KmsPlanes.blobHasRange bytes offset count elementSize = true ↔
      offset + elementSize * count ≤ bytes.length := by
  unfold KmsPlanes.blobHasRange
  by_cases before : bytes.length < offset
  · rw [if_pos before]
    simp only [Bool.false_eq_true, false_iff]
    omega
  · rw [if_neg before, decide_eq_true_eq, Nat.le_div_iff_mul_le positive, Nat.mul_comm]
    omega

theorem planes_readBlobValue (positive : 0 < size) (inside : offset + size ≤ bytes.length) :
    KmsPlanes.readBlobValue bytes size offset = some (field bytes offset size) :=
  if_pos ((planes_blobHasRange_iff bytes offset 1 positive).2 (by omega))

theorem planes_recordsAllow_eq (blob : PropertyBlob) (formatIndex modifier : Nat)
    (fits : start + 24 * count ≤ blob.data.length) (places : List Nat)
    (listed : ∀ place ∈ places, place < count) :
    KmsPlanes.recordsAllow blob.data modifier formatIndex
        (places.map fun place => start + place * 24) =
      some (places.any fun place =>
        recordAllows (recordAt blob start place) formatIndex modifier) := by
  induction places with
  | nil => rfl
  | cons place rest ih =>
    have within := listed place List.mem_cons_self
    have later := ih fun place member => listed place (.tail _ member)
    have found : KmsPlanes.readRecord blob.data (start + place * 24) =
        some (recordAt blob start place) := by
      unfold KmsPlanes.readRecord
      rw [planes_readBlobValue (by decide) (by omega),
        planes_readBlobValue (by decide) (by omega), planes_readBlobValue (by decide) (by omega)]
      simp [recordAt, recordOf, field, Nat.mul_comm 24]
    rw [List.map_cons, KmsPlanes.recordsAllow, found, List.any_cons, later]
    generalize recordAt blob start place = record
    unfold recordAllows
    by_cases other : record.modifier ≠ modifier ∨ formatIndex < record.offset
    · simp [other]
    · by_cases set : formatIndex - record.offset < 64 ∧
          record.formats.testBit (formatIndex - record.offset) = true
      · simp [other, set]
      · simp [other, set]

theorem planes_formatsAllow_eq (blob : PropertyBlob) {header : FormatModifierBlobHeader}
    (formatsFit : header.formatsOffset + 4 * header.countFormats ≤ blob.data.length)
    (modifiersFit : header.modifiersOffset + 24 * header.countModifiers ≤ blob.data.length)
    (indices : List Nat) (listed : ∀ index ∈ indices, index < header.countFormats) :
    KmsPlanes.formatsAllow blob.data header.formatsOffset
        ((List.range header.countModifiers).map fun place => header.modifiersOffset + place * 24)
        format modifier indices =
      some (indices.any (formatAllows blob header format modifier)) := by
  induction indices with
  | nil => rfl
  | cons index rest ih =>
    have within := listed index List.mem_cons_self
    have later := ih fun index member => listed index (.tail _ member)
    have found : KmsPlanes.readBlobValue blob.data 4 (header.formatsOffset + index * 4) =
        some (field blob.data (header.formatsOffset + 4 * index) 4) := by
      rw [Nat.mul_comm index]
      exact planes_readBlobValue (by decide) (by omega)
    have records := planes_recordsAllow_eq blob index modifier modifiersFit
      (List.range header.countModifiers) fun place => List.mem_range.1
    rw [KmsPlanes.formatsAllow, found, List.any_cons, later]
    unfold formatAllows
    by_cases same : field blob.data (header.formatsOffset + 4 * index) 4 = format
    · rw [Option.bind_eq_bind, Option.bind_some, if_neg (not_not.2 same), records,
        beq_iff_eq.2 same, Bool.true_and]
      generalize ((List.range header.countModifiers).any fun place =>
        recordAllows (recordAt blob header.modifiersOffset place) index modifier) = allowed
      cases allowed with
      | true => rfl
      | false => rfl
    · rw [Option.bind_eq_bind, Option.bind_some, if_pos same, beq_eq_false_iff_ne.2 same]
      rfl

end PlaneQueries

/-- The query that the choice of planes asks is this one. -/
theorem planes_query_iff (blob : PropertyBlob) (format modifier : Nat) :
    KmsPlanes.inFormatsBlobSupportsModifier blob.data format modifier = true ↔
      Supports blob.data format modifier := by
  have headedRange := planes_blobHasRange_iff blob.data 0 1 (show 0 < 24 by decide)
  unfold KmsPlanes.inFormatsBlobSupportsModifier
  by_cases headed : 24 ≤ blob.data.length
  swap
  · have short : KmsPlanes.blobHasRange blob.data 0 1 24 = false :=
      Bool.eq_false_iff.2 fun range => headed (by have := headedRange.1 range; omega)
    rw [short]
    exact iff_of_false Bool.false_ne_true fun supports => headed supports.headed
  have number : ∀ index, index < 6 →
      (KmsPlanes.readBlobValue blob.data 4 (index * 4)).getD 0 = field blob.data (index * 4) 4 := by
    intro index low
    rw [planes_readBlobValue (by decide) (by omega)]
    rfl
  rw [supports_iff headed, headedRange.2 (by omega), Bool.not_true, if_neg Bool.false_ne_true]
  simp (disch := decide) only [number]
  simp only [Bool.or_eq_true, Bool.not_eq_true', ← Bool.not_eq_true,
    planes_blobHasRange_iff _ _ _ (show 0 < 4 by decide),
    planes_blobHasRange_iff _ _ _ (show 0 < 24 by decide)]
  change (if (headerOf blob.data).version ≠ 1 ∨ (headerOf blob.data).flags ≠ 0 then false
    else if ¬ (headerOf blob.data).formatsOffset + 4 * (headerOf blob.data).countFormats ≤
        blob.data.length ∨ ¬ (headerOf blob.data).modifiersOffset +
        24 * (headerOf blob.data).countModifiers ≤ blob.data.length then false
    else (KmsPlanes.formatsAllow blob.data (headerOf blob.data).formatsOffset
      ((List.range (headerOf blob.data).countModifiers).map fun place =>
        (headerOf blob.data).modifiersOffset + place * 24) format modifier
      (List.range (headerOf blob.data).countFormats)).getD false) = true ↔ _
  by_cases accepted : (headerOf blob.data).version = 1 ∧ (headerOf blob.data).flags = 0
  swap
  · rw [if_pos (by omega)]
    exact iff_of_false Bool.false_ne_true fun supports => accepted supports.1
  rw [if_neg (by omega)]
  by_cases fit : (headerOf blob.data).formatsOffset + 4 * (headerOf blob.data).countFormats ≤
        blob.data.length ∧
      (headerOf blob.data).modifiersOffset + 24 * (headerOf blob.data).countModifiers ≤
        blob.data.length
  · rw [if_neg (by omega),
      planes_formatsAllow_eq blob fit.1 fit.2 _ fun index => List.mem_range.1]
    exact ⟨fun found => ⟨accepted, fit, found⟩, fun supports => supports.2.2⟩
  · rw [if_pos (by omega)]
    exact iff_of_false Bool.false_ne_true fun supports => fit supports.2.1

/-- Both copies read inside every blob only and give the same answer, which is that the
blob lists the format with the modifier. -/
theorem blob_queries_agree (blob : PropertyBlob) (format : UInt32) (modifier : UInt64) :
    ∃ answer, compositorBlobSupportsModifier blob format modifier = .ok answer ∧
      legacyPlaneBlobSupportsModifier blob format modifier = .ok answer ∧
      (answer = true ↔ Supports blob.data format.toNat modifier.toNat) := by
  obtain ⟨answer, computed, means⟩ :=
    inFormatsBlobSupportsModifier_spec (some false) blob format modifier
  obtain ⟨other, otherComputed, otherMeans⟩ :=
    inFormatsBlobSupportsModifier_spec none blob format modifier
  have same : other = answer := Bool.eq_iff_iff.2 (otherMeans.trans means.symm)
  exact ⟨answer, computed, same ▸ otherComputed, means⟩

end Glide.InFormatsBlob
