import Glide.RtpPackets

/-! H.264 and H.265 NAL units in RTP payloads. `h264Form` and `h265Form` are how
`append_h264_payload` and `append_h265_payload` take a payload apart; the packets
of a sender come out as the single units, aggregates and fragments it made. -/
namespace Glide.NalPayloads
open RtpPackets

inductive NalCodec where
  | h264
  | h265
  deriving DecidableEq, Repr

def nalType : NalCodec → UInt8 → UInt8
  | .h264, first => first &&& 0x1F
  | .h265, first => (first >>> 1) &&& 0x3F

/-- The slices of a picture, as `queue_nal` tells them from other NAL units. -/
def isVcl (codec : NalCodec) (nal : List UInt8) : Bool :=
  let kind := nalType codec (byteAt nal 0)
  match codec with
  | .h264 => 1 ≤ kind && kind ≤ 5
  | .h265 => kind ≤ 31

def startCode : List UInt8 := [0x00, 0x00, 0x00, 0x01]

/-- NAL units in a row, a start code before each. -/
def annexB (nals : List (List UInt8)) : List UInt8 := nals.flatMap (startCode ++ ·)

/-- What a payload turns out to be. An aggregate may be cut short; a fragment
brings the header its NAL unit is rebuilt with. -/
inductive PayloadForm where
  | ignored
  | single (nal : List UInt8)
  | aggregate (nals : List (List UInt8)) (cut : Bool)
  | fragment (start finish : Bool) (header data : List UInt8)
  deriving DecidableEq, Repr

private theorem drop_shorter (high low : UInt8) (rest : List UInt8) (size : Nat) :
    (rest.drop size).length < (high :: low :: rest).length := by
  rw [List.length_drop, List.length_cons, List.length_cons]
  omega

/-- The loop over the length-prefixed units of an aggregate. -/
def aggregatedNals (payload : List UInt8) : List (List UInt8) × Bool :=
  match payload with
  | high :: low :: rest =>
    let size := high.toNat * 256 + low.toNat
    if size > rest.length then ([], true)
    else
      let (nals, cut) := aggregatedNals (rest.drop size)
      (rest.take size :: nals, cut)
  | _ => ([], false)
termination_by payload.length
decreasing_by exact drop_shorter ..

def aggregateForm (payload : List UInt8) : PayloadForm :=
  let (nals, cut) := aggregatedNals payload
  .aggregate nals cut

def h264Form (payload : List UInt8) : PayloadForm :=
  match payload with
  | [] => .ignored
  | first :: rest =>
    let kind := nalType .h264 first
    if 1 ≤ kind ∧ kind ≤ 23 then .single payload
    else if kind = 24 then aggregateForm rest
    else if kind = 28 then
      match rest with
      | [] => .ignored
      | fuHeader :: data =>
        .fragment (fuHeader &&& 0x80 ≠ 0) (fuHeader &&& 0x40 ≠ 0)
          [(first &&& 0xE0) ||| (fuHeader &&& 0x1F)] data
    else .ignored

def h265Form (payload : List UInt8) : PayloadForm :=
  match payload with
  | first :: second :: rest =>
    let kind := nalType .h265 first
    if kind ≤ 47 then .single payload
    else if kind = 48 then aggregateForm rest
    else if kind = 49 then
      match rest with
      | [] => .ignored
      | fuHeader :: data =>
        .fragment (fuHeader &&& 0x80 ≠ 0) (fuHeader &&& 0x40 ≠ 0)
          [(first &&& 0x81) ||| ((fuHeader &&& (0x3F : UInt8)) <<< (1 : UInt8)), second] data
    else .ignored
  | _ => .ignored

def payloadForm : NalCodec → List UInt8 → PayloadForm
  | .h264 => h264Form
  | .h265 => h265Form

/-! ### The payloads of a sender -/

/-- A NAL unit that may travel on its own. -/
def ValidNal : NalCodec → List UInt8 → Prop
  | .h264, nal => nal ≠ [] ∧ 1 ≤ nalType .h264 (byteAt nal 0) ∧ nalType .h264 (byteAt nal 0) ≤ 23
  | .h265, nal => 2 ≤ nal.length ∧ nalType .h265 (byteAt nal 0) ≤ 47

instance (codec : NalCodec) (nal : List UInt8) : Decidable (ValidNal codec nal) := by
  cases codec <;> exact inferInstanceAs (Decidable (_ ∧ _))

def nalHeader : NalCodec → List UInt8 → List UInt8
  | .h264, nal => nal.take 1
  | .h265, nal => nal.take 2

/-- The part of a NAL unit that its fragments carry. -/
def nalBody : NalCodec → List UInt8 → List UInt8
  | .h264, nal => nal.drop 1
  | .h265, nal => nal.drop 2

def fuFlags (start finish : Bool) : UInt8 :=
  (if start then 0x80 else 0) ||| (if finish then 0x40 else 0)

def fragmentPayload (codec : NalCodec) (nal : List UInt8) (start finish : Bool)
    (chunk : List UInt8) : List UInt8 :=
  let first := byteAt nal 0
  let fuHeader := fuFlags start finish ||| nalType codec first
  match codec with
  | .h264 => (first &&& 0xE0 ||| 28) :: fuHeader :: chunk
  | .h265 => (first &&& 0x81 ||| 98) :: byteAt nal 1 :: fuHeader :: chunk

def aggregateType : NalCodec → UInt8
  | .h264 => 24
  | .h265 => 48

/-- An aggregate. Only H.265 has a second header byte. -/
def aggregatePayload (codec : NalCodec) (first second : UInt8) (nals : List (List UInt8)) :
    List UInt8 :=
  let units := nals.flatMap fun nal => bytesU16 nal.length ++ nal
  match codec with
  | .h264 => first :: units
  | .h265 => first :: second :: units

/-! ### The decoders recognise them -/

@[simp] theorem annexB_nil : annexB [] = [] := rfl

@[simp] theorem annexB_append (front rest : List (List UInt8)) :
    annexB (front ++ rest) = annexB front ++ annexB rest := List.flatMap_append

theorem annexB_single (nal : List UInt8) : annexB [nal] = startCode ++ nal := by
  simp [annexB]

/-- Every unit takes at least its start code. -/
theorem length_annexB_cons (nal : List UInt8) (rest : List (List UInt8)) :
    (annexB (nal :: rest)).length = 4 + nal.length + (annexB rest).length := by
  simp [annexB, startCode]
  omega

theorem annexB_eq_nil : annexB nals = [] ↔ nals = [] := by
  cases nals with
  | nil => simp
  | cons nal rest => simp [annexB, startCode]

theorem nalHeader_append_nalBody (codec : NalCodec) (nal : List UInt8) :
    nalHeader codec nal ++ nalBody codec nal = nal := by
  cases codec <;> exact List.take_append_drop _ nal

theorem valid_nal_ne_nil (valid : ValidNal codec nal) : nal ≠ [] := by
  cases codec with
  | h264 => exact valid.1
  | h265 =>
    rintro rfl
    exact absurd valid.1 (by simp)

theorem valid_header_ne_nil (valid : ValidNal codec nal) : nalHeader codec nal ≠ [] := by
  have filled := valid_nal_ne_nil valid
  cases codec <;> cases nal <;> simp_all [nalHeader]

/-- The type is all that a NAL unit's first byte has to show to be a slice. -/
theorem first_byte_of_other (valid : ValidNal codec nal) (other : isVcl codec nal = false) :
    byteAt nal 0 ≠ 0 := by
  intro zero
  cases codec with
  | h264 =>
    have kind := valid.2.1
    rw [zero] at kind
    exact absurd kind (by decide)
  | h265 =>
    simp only [isVcl, zero] at other
    exact absurd other (by decide)

theorem payloadForm_single (valid : ValidNal codec nal) : payloadForm codec nal = .single nal := by
  cases codec with
  | h264 =>
    obtain ⟨filled, low, high⟩ := valid
    obtain ⟨first, rest, rfl⟩ := List.exists_cons_of_ne_nil filled
    exact if_pos ⟨low, high⟩
  | h265 =>
    obtain ⟨long, kind⟩ := valid
    obtain _ | ⟨first, _ | ⟨second, rest⟩⟩ := nal
    · simp at long
    · simp at long
    · exact if_pos kind

theorem aggregatedNals_units (short : ∀ nal ∈ nals, nal.length ≤ 65535) :
    aggregatedNals (nals.flatMap fun nal => bytesU16 nal.length ++ nal) = (nals, false) := by
  induction nals with
  | nil => simp [aggregatedNals]
  | cons nal rest ih =>
    have fits := short nal List.mem_cons_self
    have size : (UInt8.ofNat (nal.length / 256)).toNat * 256 + (UInt8.ofNat nal.length).toNat =
        nal.length := by
      rw [UInt8.toNat_ofNat', UInt8.toNat_ofNat']
      omega
    rw [List.flatMap_cons, bytesU16, List.append_assoc, List.cons_append, List.cons_append,
      List.nil_append, aggregatedNals, size]
    simp only [List.length_append, List.drop_left, List.take_left,
      ih fun other inside => short other (List.mem_cons_of_mem _ inside)]
    rw [if_neg (by omega)]

theorem payloadForm_aggregate (kind : nalType codec first = aggregateType codec)
    (short : ∀ nal ∈ nals, nal.length ≤ 65535) :
    payloadForm codec (aggregatePayload codec first second nals) = .aggregate nals false := by
  cases codec with
  | h264 =>
    change nalType .h264 first = 24 at kind
    simp only [payloadForm, aggregatePayload, h264Form, kind, aggregateForm,
      aggregatedNals_units short]
    rfl
  | h265 =>
    change nalType .h265 first = 48 at kind
    simp only [payloadForm, aggregatePayload, h265Form, kind, aggregateForm,
      aggregatedNals_units short]
    rfl

/-- What a fragment's header bytes say, for every byte a NAL unit may start with. -/
private theorem fu_fields (first : UInt8) (start finish : Bool) :
    (nalType .h264 (first &&& 0xE0 ||| 28) = 28 ∧
      decide ((fuFlags start finish ||| nalType .h264 first) &&& 0x80 ≠ 0) = start ∧
      decide ((fuFlags start finish ||| nalType .h264 first) &&& 0x40 ≠ 0) = finish ∧
      ((first &&& 0xE0 ||| 28) &&& 0xE0) |||
        ((fuFlags start finish ||| nalType .h264 first) &&& 0x1F) = first) ∧
    (nalType .h265 (first &&& 0x81 ||| 98) = 49 ∧
      decide ((fuFlags start finish ||| nalType .h265 first) &&& 0x80 ≠ 0) = start ∧
      decide ((fuFlags start finish ||| nalType .h265 first) &&& 0x40 ≠ 0) = finish ∧
      ((first &&& 0x81 ||| 98) &&& 0x81) |||
        (((fuFlags start finish ||| nalType .h265 first) &&& (0x3F : UInt8)) <<< (1 : UInt8)) = first) := by
  have every : ∀ (value : Fin 256) (start finish : Bool),
      let first := UInt8.ofNat value.val
      (nalType .h264 (first &&& 0xE0 ||| 28) = 28 ∧
        decide ((fuFlags start finish ||| nalType .h264 first) &&& 0x80 ≠ 0) = start ∧
        decide ((fuFlags start finish ||| nalType .h264 first) &&& 0x40 ≠ 0) = finish ∧
        ((first &&& 0xE0 ||| 28) &&& 0xE0) |||
          ((fuFlags start finish ||| nalType .h264 first) &&& 0x1F) = first) ∧
      (nalType .h265 (first &&& 0x81 ||| 98) = 49 ∧
        decide ((fuFlags start finish ||| nalType .h265 first) &&& 0x80 ≠ 0) = start ∧
        decide ((fuFlags start finish ||| nalType .h265 first) &&& 0x40 ≠ 0) = finish ∧
        ((first &&& 0x81 ||| 98) &&& 0x81) |||
          (((fuFlags start finish ||| nalType .h265 first) &&& (0x3F : UInt8)) <<< (1 : UInt8)) = first) := by
    decide +kernel
  have read := every ⟨first.toNat, first.toNat_lt⟩ start finish
  rwa [show UInt8.ofNat (⟨first.toNat, first.toNat_lt⟩ : Fin 256).val = first from
    UInt8.ofNat_toNat] at read

theorem payloadForm_fragment (valid : ValidNal codec nal) (start finish : Bool)
    (chunk : List UInt8) :
    payloadForm codec (fragmentPayload codec nal start finish chunk) =
      .fragment start finish (nalHeader codec nal) chunk := by
  cases codec with
  | h264 =>
    obtain ⟨first, rest, rfl⟩ := List.exists_cons_of_ne_nil valid.1
    obtain ⟨⟨kind, started, finished, rebuilt⟩, -⟩ := fu_fields first start finish
    have same : byteAt (first :: rest) 0 = first := rfl
    simp only [payloadForm, fragmentPayload, h264Form, same, kind, started, finished, rebuilt]
    rw [if_neg (by decide), if_neg (by decide), if_pos trivial]
    rfl
  | h265 =>
    obtain ⟨long, -⟩ := valid
    obtain _ | ⟨first, _ | ⟨second, rest⟩⟩ := nal
    · simp at long
    · simp at long
    · obtain ⟨-, kind, started, finished, rebuilt⟩ := fu_fields first start finish
      have same : byteAt (first :: second :: rest) 0 = first := rfl
      have next : byteAt (first :: second :: rest) 1 = second := rfl
      simp only [payloadForm, fragmentPayload, h265Form, same, next, kind, started, finished,
        rebuilt]
      rw [if_neg (by decide), if_neg (by decide), if_pos trivial]
      rfl

end Glide.NalPayloads
