import Glide.CedarRtpDecoder
import Glide.CheckedParsing

/-! The Cedar decoder with every read checked. It takes the type of an aggregate's NAL
unit from the byte behind the unit's size, also when the size is 0 and the datagram ends
there: that is the only read that can leave a datagram. -/
namespace Glide.ParsingBounds
open RtpPackets NalPayloads SliceHeaders CedarRtpDecoder CheckedParsing
open Library.CheckedBuffers
open RtpDepacketizer (Depacketizer andThen andThen_passed andThen_refused)

/-! ### Slice headers -/

def checkedPrevention (data : Payload) (reader : RbspBitReader) : Checked Bool := do
  if reader.byteOffset ≥ 2 then
    let before ← data.byte (reader.byteOffset - 2)
    let last ← data.byte (reader.byteOffset - 1)
    let this ← data.byte reader.byteOffset
    return before == 0x00 && last == 0x00 && this == 0x03
  else return false

def checkedBitFrom (data : Payload) :
    Nat → RbspBitReader → Checked (Option (Bool × RbspBitReader))
  | 0, _ => return none
  | left + 1, reader => do
    if ← checkedPrevention data reader then
      checkedBitFrom data left { reader with byteOffset := reader.byteOffset + 1, bitOffset := 0 }
    else
      let byte ← data.byte reader.byteOffset
      return some ((byte >>> UInt8.ofNat (7 - reader.bitOffset)) &&& 1 ≠ 0, reader.advance)

def checkedBit (data : Payload) (reader : RbspBitReader) :
    Checked (Option (Bool × RbspBitReader)) :=
  checkedBitFrom data (data.size - reader.byteOffset) reader

def checkedZeros (data : Payload) :
    (allowed : Nat) → RbspBitReader → Checked (Option (Nat × RbspBitReader))
  | 0, reader => do
    match ← checkedBit data reader with
    | some (true, reader) => return some (0, reader)
    | _ => return none
  | allowed + 1, reader => do
    match ← checkedBit data reader with
    | none => return none
    | some (true, reader) => return some (0, reader)
    | some (false, reader) =>
      let counted ← checkedZeros data allowed reader
      return counted.map fun (zeros, reader) => (zeros + 1, reader)

def checkedBits (data : Payload) :
    (count : Nat) → (suffix : Nat) → RbspBitReader → Checked (Option (Nat × RbspBitReader))
  | 0, suffix, reader => return some (suffix, reader)
  | count + 1, suffix, reader => do
    match ← checkedBit data reader with
    | none => return none
    | some (bit, reader) => checkedBits data count (suffix * 2 + bit.toNat) reader

def checkedUe (data : Payload) (reader : RbspBitReader) :
    Checked (Option (Nat × RbspBitReader)) := do
  match ← checkedZeros data 31 reader with
  | none => return none
  | some (zeros, reader) =>
    let suffix ← checkedBits data zeros 0 reader
    return suffix.map fun (suffix, reader) => (1 <<< zeros - 1 + suffix, reader)

/-- A part of a payload. -/
def part (payload : Payload) (offset size : Nat) : Payload :=
  ⟨payload.buffer, payload.start + offset, size⟩

def checkedSliceStart (nal : Payload) : Checked Bool := do
  if nal.size ≤ 1 then return false
  else
    let data := part nal 1 (nal.size - 1)
    match ← checkedUe data { data := data.cells } with
    | some (firstMbInSlice, _) => return firstMbInSlice = 0
    | none => return false

section Readers
variable {data : Payload} {reader : RbspBitReader}

theorem readBitFrom_data (read : reader.readBitFrom left = some (bit, after)) :
    after.data = reader.data := by
  induction left generalizing reader with
  | zero => cases read
  | succ left ih =>
    unfold RbspBitReader.readBitFrom at read
    split at read
    · have found := ih read
      exact found
    · cases read
      unfold RbspBitReader.advance
      split <;> rfl

theorem leadingZeroBits_data (read : reader.leadingZeroBits allowed = some (zeros, after)) :
    after.data = reader.data := by
  induction allowed generalizing reader zeros with
  | zero =>
    unfold RbspBitReader.leadingZeroBits at read
    split at read
    · rename_i bit
      cases read
      exact readBitFrom_data bit
    · cases read
  | succ allowed ih =>
    unfold RbspBitReader.leadingZeroBits at read
    split at read
    · cases read
    · rename_i bit
      cases read
      exact readBitFrom_data bit
    · rename_i bit
      obtain ⟨⟨counted, later⟩, found, same⟩ := Option.map_eq_some_iff.1 read
      cases same
      exact (ih found).trans (readBitFrom_data bit)

variable (inside : data.Inside) (same : reader.data = data.cells)
include inside same

theorem checkedPrevention_eq (own : reader.byteOffset < data.size) :
    checkedPrevention data reader = .ok reader.atPreventionByte := by
  unfold checkedPrevention RbspBitReader.atPreventionByte
  rw [same]
  by_cases late : reader.byteOffset ≥ 2
  · rw [if_pos late, byte_inside inside (by omega), byte_inside inside (by omega),
      byte_inside inside own]
    simp [late, bind, Except.bind, pure, Except.pure]
  · rw [if_neg late]
    simp [late, pure, Except.pure]

theorem checkedBitFrom_eq (own : left ≤ data.size - reader.byteOffset) :
    checkedBitFrom data left reader = .ok (reader.readBitFrom left) := by
  induction left generalizing reader with
  | zero => rfl
  | succ left ih =>
    unfold checkedBitFrom RbspBitReader.readBitFrom
    rw [checkedPrevention_eq inside same (by omega), byte_inside inside (by omega), ← same]
    cases reader.atPreventionByte with
    | true => exact ih same (by dsimp only; omega)
    | false => rfl

theorem checkedBit_eq : checkedBit data reader = .ok reader.readBit := by
  unfold checkedBit RbspBitReader.readBit
  rw [checkedBitFrom_eq inside same (Nat.le_refl _), same, Window.length_cells inside]

theorem checkedZeros_eq : checkedZeros data allowed reader = .ok (reader.leadingZeroBits allowed) := by
  induction allowed generalizing reader with
  | zero =>
    unfold checkedZeros RbspBitReader.leadingZeroBits
    rw [checkedBit_eq inside same]
    cases reader.readBit with
    | none => rfl
    | some found =>
      obtain ⟨bit, after⟩ := found
      cases bit <;> rfl
  | succ allowed ih =>
    unfold checkedZeros RbspBitReader.leadingZeroBits
    rw [checkedBit_eq inside same]
    cases read : reader.readBit with
    | none => rfl
    | some found =>
      obtain ⟨bit, after⟩ := found
      cases bit with
      | true => rfl
      | false =>
        change (checkedZeros data allowed after >>= fun _ => _) = _
        rw [ih ((readBitFrom_data read).trans same)]
        rfl

theorem checkedBits_eq : checkedBits data count suffix reader = .ok (reader.readBits count suffix) := by
  induction count generalizing reader suffix with
  | zero => rfl
  | succ count ih =>
    unfold checkedBits RbspBitReader.readBits
    rw [checkedBit_eq inside same]
    cases read : reader.readBit with
    | none => rfl
    | some found => exact ih ((readBitFrom_data read).trans same)

theorem checkedUe_eq : checkedUe data reader = .ok reader.readUe := by
  unfold checkedUe RbspBitReader.readUe
  rw [checkedZeros_eq inside same]
  cases read : reader.leadingZeroBits 31 with
  | none => rfl
  | some found =>
    obtain ⟨zeros, after⟩ := found
    change (checkedBits data zeros 0 after >>= fun _ => _) = _
    rw [checkedBits_eq inside ((leadingZeroBits_data read).trans same)]
    rfl

end Readers

/-! ### NAL units -/

theorem part_inside {payload : Payload} (inside : payload.Inside)
    (own : offset + size ≤ payload.size) : (part payload offset size).Inside := by
  unfold Window.Inside at inside ⊢
  unfold part
  dsimp only
  omega

theorem cells_part {payload : Payload} (own : offset + size ≤ payload.size) :
    (part payload offset size).cells = (payload.cells.drop offset).take size := by
  unfold Window.cells part
  dsimp only
  rw [List.drop_take, List.drop_drop, List.take_take, Nat.min_eq_left (by omega)]

theorem checkedSliceStart_eq {nal : Payload} (inside : nal.Inside) :
    checkedSliceStart nal = .ok (firstSliceStartsFrame nal.cells) := by
  have length := Window.length_cells inside
  unfold checkedSliceStart
  by_cases short : nal.size ≤ 1
  · rw [if_pos short]
    match cells : nal.cells, length with
    | [], _ => rfl
    | [_], _ => rfl
    | _ :: _ :: _, length => simp only [List.length_cons] at length; omega
  · rw [if_neg short]
    have own : 1 + (nal.size - 1) ≤ nal.size := by omega
    have rest := cells_part own
    rw [List.take_of_length_le (by rw [List.length_drop, length])] at rest
    dsimp only
    rw [checkedUe_eq (part_inside inside own) rfl, rest]
    match nal.cells, length with
    | [], length => simp at length; omega
    | [_], length => simp at length; omega
    | kind :: second :: more, _ =>
      change _ = Except.ok (match ({ data := second :: more } : RbspBitReader).readUe with
        | some (firstMbInSlice, _) => decide (firstMbInSlice = 0)
        | none => false)
      rw [List.drop_succ_cons, List.drop_zero]
      cases ({ data := second :: more } : RbspBitReader).readUe <;> rfl

def checkedAdmit (kind : UInt8) (nal : Payload) (timestamp : UInt32) (assembly : Assembly) :
    Checked (Bool × Assembly) := do
  if !nalIsVcl kind then return (true, assembly)
  else if assembly.requireIdr && kind ≠ 5 then
    return (false, { dropPicture timestamp assembly with
      droppedWaitingForIdr := assembly.droppedWaitingForIdr + 1 })
  else
    let begins ← if assembly.accessUnitHasVcl then pure true else checkedSliceStart nal
    if !begins then
      return (false, { dropPicture timestamp assembly with
        droppedIncompleteFragments := assembly.droppedIncompleteFragments + 1 })
    else
      let assembly :=
        if kind = 5 then { appendCachedParameterSets assembly with requireIdr := false }
        else assembly
      return (true, { assembly with accessUnitHasVcl := true })

def checkedWhole (kind : UInt8) (nal : Payload) (timestamp : UInt32) (assembly : Assembly) :
    Checked (Bool × Assembly) := do
  let bytes ← nal.copied 0 nal.size
  let (goesOn, assembly) ← checkedAdmit kind nal timestamp (cacheParameterSet bytes assembly)
  return if goesOn then (true, appendNal bytes assembly) else (false, assembly)

theorem checkedAdmit_eq {nal : Payload} (inside : nal.Inside) (kind : UInt8) (timestamp : UInt32)
    (assembly : Assembly) :
    checkedAdmit kind nal timestamp assembly =
      .ok (admitNal kind nal.cells timestamp assembly) := by
  unfold checkedAdmit admitNal
  by_cases other : (!nalIsVcl kind) = true
  · rw [if_pos other, if_pos other]
    rfl
  · rw [if_neg other, if_neg other]
    by_cases awaits : (assembly.requireIdr && kind ≠ 5) = true
    · rw [if_pos awaits, if_pos awaits]
      rfl
    · rw [if_neg awaits, if_neg awaits]
      cases begun : assembly.accessUnitHasVcl with
      | true => rfl
      | false =>
        rw [checkedSliceStart_eq inside]
        cases firstSliceStartsFrame nal.cells <;> rfl

theorem checkedWhole_eq {nal : Payload} (inside : nal.Inside) (kind : UInt8) (timestamp : UInt32)
    (assembly : Assembly) :
    checkedWhole kind nal timestamp assembly =
      .ok (appendWholeNal kind nal.cells timestamp assembly) := by
  unfold checkedWhole appendWholeNal andThen
  rw [copied_rest inside (Nat.zero_le _), List.drop_zero]
  change (checkedAdmit kind nal timestamp _ >>= fun _ => _) = _
  rw [checkedAdmit_eq inside]
  cases admitted : (admitNal kind nal.cells timestamp (cacheParameterSet nal.cells assembly)).1 with
  | true => simp [admitted, bind, Except.bind, pure, Except.pure]
  | false =>
    simp only [admitted, bind, Except.bind, pure, Except.pure, Bool.false_eq_true, if_false]
    rw [← admitted]

/-! ### Aggregates -/

/-- The loop over the units, from one offset of the payload on. -/
def checkedStap (timestamp : UInt32) (payload : Payload) (offset : Nat) (assembly : Assembly) :
    Checked (Bool × Assembly) := do
  if offset + 2 ≤ payload.size then
    let nalSize ← payload.u16 offset
    if offset + 2 + nalSize > payload.size then return (true, assembly)
    else
      let first ← payload.byte (offset + 2)
      let (goesOn, assembly) ←
        checkedWhole (nalType .h264 first) (part payload (offset + 2) nalSize) timestamp assembly
      if goesOn then checkedStap timestamp payload (offset + 2 + nalSize) assembly
      else return (false, assembly)
  else return (true, assembly)
termination_by payload.size - offset

/-- The last unit is empty, and nothing follows it. -/
def endsEmpty (payload : List UInt8) : Bool :=
  match payload with
  | high :: low :: rest =>
    let size := high.toNat * 256 + low.toNat
    if size > rest.length then false
    else if rest = [] then true
    else endsEmpty (rest.drop size)
  | _ => false
termination_by payload.length
decreasing_by simp only [List.length_cons, List.length_drop]; omega

/-- What follows if the units so far let the loop go on. -/
def onwards (first : Bool × Assembly) (next : Assembly → Checked (Bool × Assembly)) :
    Checked (Bool × Assembly) :=
  if first.1 then next first.2 else .ok first

/-- The type of the empty unit is the byte behind the payload. -/
def appendEmpty (payload : Payload) (timestamp : UInt32) (assembly : Assembly) :
    Checked (Bool × Assembly) := do
  let behind ← payload.byte payload.size
  return appendWholeNal (nalType .h264 behind) [] timestamp assembly

theorem stapNals_drop (behind : UInt8) {bytes : List UInt8} (more : offset + 2 ≤ bytes.length) :
    stapNals behind (bytes.drop offset) =
      if offset + 2 + fieldU16 bytes offset > bytes.length then []
      else ((bytes.drop (offset + 2)).headD behind,
          (bytes.drop (offset + 2)).take (fieldU16 bytes offset)) ::
        stapNals behind (bytes.drop (offset + 2 + fieldU16 bytes offset)) := by
  have size : (byteAt bytes offset).toNat * 256 + (byteAt bytes (offset + 1)).toNat =
    fieldU16 bytes offset := rfl
  rw [drop_two more, stapNals]
  rw [size, List.length_drop, List.drop_drop]
  by_cases cut : offset + 2 + fieldU16 bytes offset > bytes.length
  · rw [if_pos cut, if_pos (by omega)]
  · rw [if_neg cut, if_neg (by omega)]

theorem endsEmpty_drop {bytes : List UInt8} (more : offset + 2 ≤ bytes.length) :
    endsEmpty (bytes.drop offset) =
      if offset + 2 + fieldU16 bytes offset > bytes.length then false
      else if offset + 2 = bytes.length then true
      else endsEmpty (bytes.drop (offset + 2 + fieldU16 bytes offset)) := by
  have size : (byteAt bytes offset).toNat * 256 + (byteAt bytes (offset + 1)).toNat =
    fieldU16 bytes offset := rfl
  rw [drop_two more, endsEmpty]
  rw [size, List.length_drop, List.drop_drop]
  by_cases cut : offset + 2 + fieldU16 bytes offset > bytes.length
  · rw [if_pos cut, if_pos (by omega)]
  · rw [if_neg cut, if_neg (by omega)]
    by_cases last : offset + 2 = bytes.length
    · rw [if_pos last, if_pos (List.drop_eq_nil_of_le (Nat.le_of_eq last.symm))]
    · rw [if_neg last, if_neg fun empty => last (by
        have past := List.drop_eq_nil_iff.1 empty
        omega)]

/-- The byte that follows a size is one of the payload unless the payload ends there. -/
theorem headD_drop (behind : UInt8) {bytes : List UInt8} (inside : index < bytes.length) :
    (bytes.drop index).headD behind = byteAt bytes index := by
  simp [byteAt, List.head?_drop, inside]

theorem short_ends (behind : UInt8) {bytes : List UInt8} (short : ¬ offset + 2 ≤ bytes.length) :
    stapNals behind (bytes.drop offset) = [] ∧ endsEmpty (bytes.drop offset) = false := by
  have few := short_drop short
  match bytes.drop offset, few with
  | [], _ => simp [stapNals, endsEmpty]
  | [_], _ => simp [stapNals, endsEmpty]

/-- An aggregate that ends with an empty unit has one. -/
theorem units_of_endsEmpty (behind : UInt8) (ends : endsEmpty bytes = true) :
    stapNals behind bytes ≠ [] := by
  match bytes, ends with
  | high :: low :: rest, ends =>
    rw [endsEmpty] at ends
    rw [stapNals]
    split at ends
    · cases ends
    · rename_i fits
      rw [if_neg fits]
      exact List.cons_ne_nil _ _
  | [], ends => simp [endsEmpty] at ends
  | [_], ends => simp [endsEmpty] at ends

theorem stapNals_nil (behind : UInt8) : stapNals behind [] = [] := by simp [stapNals]

/-- Only the empty unit bears the byte behind the payload. -/
theorem stapNals_endsEmpty (behind : UInt8) (ends : endsEmpty bytes = true) :
    stapNals behind bytes = (stapNals 0 bytes).dropLast ++ [(behind, [])] := by
  fun_induction endsEmpty bytes with
  | case1 => cases ends
  | case2 high low size fits =>
    have none : size = 0 := Nat.le_zero.1 (Nat.not_lt.1 fits)
    have units : ∀ byte, stapNals byte [high, low] = [(byte, [])] := by
      intro byte
      rw [stapNals, if_neg fits]
      change (_, List.take size []) :: stapNals byte (List.drop size []) = _
      rw [none]
      simp [stapNals]
    rw [units, units]
    rfl
  | case3 high low rest size fits filled ih =>
    obtain ⟨first, more, rfl⟩ := List.exists_cons_of_ne_nil filled
    rw [stapNals, if_neg fits, stapNals, if_neg fits, ih ends,
      List.dropLast_cons_of_ne_nil (units_of_endsEmpty 0 ends)]
    rfl
  | case4 => cases ends

/-- Behind the last unit the loop is left. -/
theorem whole_at_end (payload : Payload) (timestamp : UInt32) (whole : Bool × Assembly) :
    (if whole.1 then checkedStap timestamp payload payload.size whole.2
      else .ok (false, whole.2)) = .ok whole := by
  obtain ⟨goesOn, assembly⟩ := whole
  cases goesOn with
  | true =>
    rw [if_pos rfl, checkedStap, if_neg (by omega)]
    rfl
  | false => rfl

theorem checkedStap_eq (behind : UInt8) {payload : Payload} (inside : payload.Inside)
    (timestamp : UInt32) (offset : Nat) (assembly : Assembly) :
    checkedStap timestamp payload offset assembly =
      if endsEmpty (payload.cells.drop offset) then
        onwards
          (appendStapNals timestamp (stapNals 0 (payload.cells.drop offset)).dropLast assembly)
          (appendEmpty payload timestamp)
      else .ok (appendStapNals timestamp (stapNals behind (payload.cells.drop offset))
        assembly) := by
  have length := Window.length_cells inside
  induction left : payload.size - offset using Nat.strong_induction_on
    generalizing offset assembly with
  | _ left ih =>
    rw [checkedStap]
    by_cases more : offset + 2 ≤ payload.size
    · rw [if_pos more, u16_inside inside (by omega), stapNals_drop 0 (by omega),
        stapNals_drop behind (by omega), endsEmpty_drop (by omega), length]
      change (if offset + 2 + fieldU16 payload.cells offset > payload.size then _ else _) = _
      by_cases cut : offset + 2 + fieldU16 payload.cells offset > payload.size
      · rw [if_pos cut, if_pos cut, if_pos cut, if_pos cut]
        rfl
      · rw [if_neg cut, if_neg cut, if_neg cut, if_neg cut]
        by_cases last : offset + 2 = payload.size
        · have none : fieldU16 payload.cells offset = 0 := by omega
          have past : payload.cells.drop payload.size = [] :=
            List.drop_eq_nil_of_le (Nat.le_of_eq length)
          rw [if_pos last, if_pos rfl, none, last, past, stapNals_nil]
          change _ = appendEmpty payload timestamp assembly
          unfold appendEmpty
          congr 1
          funext first
          rw [checkedWhole_eq (part_inside inside (Nat.le_refl _)), cells_part (Nat.le_refl _), past]
          exact whole_at_end payload timestamp _
        · have own : offset + 2 + fieldU16 payload.cells offset ≤ payload.size := by omega
          have follows : offset + 2 < payload.cells.length := by omega
          rw [if_neg last, byte_inside inside (by omega), headD_drop 0 follows,
            headD_drop behind follows]
          change (checkedWhole _ _ timestamp assembly >>= fun _ => _) = _
          rw [checkedWhole_eq (part_inside inside own), cells_part own]
          generalize byteAt payload.cells (offset + 2) = first
          generalize (payload.cells.drop (offset + 2)).take (fieldU16 payload.cells offset) = nal
          change (if (appendWholeNal (nalType .h264 first) nal timestamp assembly).1 = true then _
            else _) = _
          cases joined : (appendWholeNal (nalType .h264 first) nal timestamp assembly).1 with
          | true =>
            rw [if_pos rfl, ih _ (by omega) _ _ rfl]
            generalize payload.cells.drop (offset + 2 + fieldU16 payload.cells offset) = rest
            by_cases ends : endsEmpty rest = true
            · rw [if_pos ends, if_pos ends,
                List.dropLast_cons_of_ne_nil (units_of_endsEmpty 0 ends), appendStapNals,
                andThen_passed joined]
            · rw [if_neg ends, if_neg ends, appendStapNals, andThen_passed joined]
          | false =>
            have stays : (false, (appendWholeNal (nalType .h264 first) nal timestamp assembly).2) =
                appendWholeNal (nalType .h264 first) nal timestamp assembly :=
              Prod.ext joined.symm rfl
            have stopped : ∀ rest, appendStapNals timestamp ((first, nal) :: rest) assembly =
                appendWholeNal (nalType .h264 first) nal timestamp assembly := fun rest => by
              rw [appendStapNals, andThen_refused joined]
            rw [if_neg Bool.false_ne_true, stays]
            generalize payload.cells.drop (offset + 2 + fieldU16 payload.cells offset) = rest
            by_cases ends : endsEmpty rest = true
            · rw [if_pos ends, List.dropLast_cons_of_ne_nil (units_of_endsEmpty 0 ends), stopped,
                onwards, if_neg (by rw [joined]; exact Bool.false_ne_true)]
              rfl
            · rw [if_neg ends, stopped]
              rfl
    · obtain ⟨units, ends⟩ := @short_ends offset behind payload.cells (by rw [length]; exact more)
      rw [if_neg more, units, ends]
      rfl

/-! ### Payloads and packets -/

def checkedCedarForm (payload : Payload) (timestamp : UInt32) (assembly : Assembly) :
    Checked (Bool × Assembly) := do
  let first ← payload.byte 0
  let kind := nalType .h264 first
  if 1 ≤ kind ∧ kind ≤ 23 then
    checkedWhole kind payload timestamp { assembly with fuStarted := false }
  else if kind = 24 then checkedStap timestamp payload 1 { assembly with fuStarted := false }
  else if kind = 28 ∧ payload.size ≥ 2 then
    let fuHeader ← payload.byte 1
    let data ← payload.copied 2 payload.size
    return appendFragment (fuHeader &&& 0x80 ≠ 0) (fuHeader &&& 0x40 ≠ 0)
      ((first &&& 0xE0) ||| (fuHeader &&& 0x1F)) data timestamp assembly
  else return (true, assembly)

def checkedCedarPacket (setup : Setup) (received : ReceivedPacket) (assembly : Assembly) :
    Checked (Bool × Assembly) :=
  onwards (turnTo setup received.timestamp assembly) fun assembly => do
    let (goesOn, assembly) ←
      checkedCedarForm received.payload received.timestamp (accept received.rtpPacket assembly)
    return if goesOn then submitIfMarked setup received.marker assembly else (true, assembly)

def checkedCedarPayload (setup : Setup) (received : ReceivedPacket) (decoder : Decoder) :
    Checked (Bool × Decoder) := do
  if received.payload.size = 0 then return (true, decoder)
  else if decoder.assembly.droppingTimestamp ∧
      received.timestamp = decoder.assembly.dropTimestamp then
    return (true, { decoder with
      assembly := { decoder.assembly with log := .skipped :: decoder.assembly.log } })
  else
    let decoder := { decoder with
      assembly := { decoder.assembly with droppingTimestamp := false } }
    if sequenceDelta decoder received.sequence < 0 then
      return (true, { decoder with lateOrDuplicatePackets := decoder.lateOrDuplicatePackets + 1 })
    else
      let decoder := checkSequence received.sequence decoder
      let (goesOn, assembly) ← checkedCedarPacket setup received decoder.assembly
      return (goesOn, { decoder with assembly })

def checkedCedar (setup : Setup) (packet : List UInt8) (decoder : Decoder) :
    Checked (Bool × Decoder) := do
  match ← checkedPacket packet with
  | none => return (true, decoder)
  | some received => checkedCedarPayload setup received (countPacket decoder)

/-- An aggregate whose last unit is empty. -/
def endsWithEmptyUnit : List UInt8 → Bool
  | [] => false
  | first :: rest => nalType .h264 first == 24 && endsEmpty rest

theorem endsWithEmptyUnit_other (other : nalType .h264 first ≠ 24) (rest : List UInt8) :
    endsWithEmptyUnit (first :: rest) = false := by
  rw [endsWithEmptyUnit, beq_false_of_ne other, Bool.false_and]

theorem endsWithEmptyUnit_aggregate (aggregate : nalType .h264 first = 24) (rest : List UInt8) :
    endsWithEmptyUnit (first :: rest) = endsEmpty rest := by
  rw [endsWithEmptyUnit, aggregate, beq_self_eq_true, Bool.true_and]

theorem checkedCedarForm_eq (behind : UInt8) {payload : Payload} (inside : payload.Inside)
    (filled : 0 < payload.size) (timestamp : UInt32) (assembly : Assembly) :
    checkedCedarForm payload timestamp assembly =
      if endsWithEmptyUnit payload.cells then
        onwards
          (appendStapNals timestamp (stapNals 0 (payload.cells.drop 1)).dropLast
            { assembly with fuStarted := false })
          (appendEmpty payload timestamp)
      else .ok (appendForm behind payload.cells timestamp assembly) := by
  have length := Window.length_cells inside
  unfold checkedCedarForm appendForm
  generalize cells : payload.cells = bytes at length
  match bytes, length with
  | [], length =>
    rw [List.length_nil] at length
    omega
  | first :: rest, length =>
    rw [List.length_cons] at length
    have read : payload.byte 0 = .ok first := by
      rw [byte_inside inside filled, cells]
      rfl
    rw [read]
    change (if 1 ≤ nalType .h264 first ∧ _ then _ else _) = _
    dsimp only
    by_cases whole : 1 ≤ nalType .h264 first ∧ nalType .h264 first ≤ 23
    · have other : nalType .h264 first ≠ 24 :=
        fun aggregate => absurd whole.2 (by rw [aggregate]; decide)
      rw [if_pos whole, if_pos whole, endsWithEmptyUnit_other other, if_neg Bool.false_ne_true,
        checkedWhole_eq inside, cells]
    · rw [if_neg whole, if_neg whole]
      by_cases aggregate : nalType .h264 first = 24
      · rw [if_pos aggregate, if_pos aggregate, checkedStap_eq behind inside, cells,
          endsWithEmptyUnit_aggregate aggregate]
        rfl
      · rw [if_neg aggregate, if_neg aggregate, endsWithEmptyUnit_other aggregate,
          if_neg Bool.false_ne_true]
        by_cases fragment : nalType .h264 first = 28
        · rw [if_pos fragment]
          match rest, length with
          | [], length =>
            rw [if_neg (by simp at length; omega)]
            rfl
          | fuHeader :: data, length =>
            rw [List.length_cons] at length
            rw [if_pos ⟨fragment, by omega⟩, byte_inside inside (by omega),
              copied_rest inside (by omega), cells]
            rfl
        · rw [if_neg fun all => fragment all.1, if_neg fragment]
          rfl

/-! ### The units in front of the empty one -/

/-- The first slice decides for all. -/
def admitsUnits (requireIdr hasVcl : Bool) (units : List (UInt8 × List UInt8)) : Bool :=
  match units.find? fun unit => nalIsVcl (nalType .h264 unit.1) with
  | none => true
  | some (first, nal) =>
    (!requireIdr || nalType .h264 first == 5) && (hasVcl || firstSliceStartsFrame nal)

theorem admitNal_other (other : nalIsVcl kind = false) (nal : List UInt8) (timestamp : UInt32)
    (assembly : Assembly) : admitNal kind nal timestamp assembly = (true, assembly) := by
  unfold admitNal
  rw [if_pos (by rw [other]; rfl)]

theorem admitNal_slice (slice : nalIsVcl kind = true) (nal : List UInt8) (timestamp : UInt32)
    (assembly : Assembly) :
    (admitNal kind nal timestamp assembly).1 =
        ((!assembly.requireIdr || kind == 5) &&
          (assembly.accessUnitHasVcl || firstSliceStartsFrame nal)) ∧
      ((admitNal kind nal timestamp assembly).1 = true →
        (admitNal kind nal timestamp assembly).2.requireIdr = false ∧
          (admitNal kind nal timestamp assembly).2.accessUnitHasVcl = true) := by
  unfold admitNal
  rw [if_neg (by rw [slice]; exact Bool.false_ne_true)]
  by_cases idr : kind = 5
  · cases assembly.accessUnitHasVcl <;> cases firstSliceStartsFrame nal <;> simp [idr]
  · cases required : assembly.requireIdr <;> cases assembly.accessUnitHasVcl <;>
      cases firstSliceStartsFrame nal <;> simp [idr, required]

theorem admitsUnits_begun (units : List (UInt8 × List UInt8)) : admitsUnits false true units := by
  unfold admitsUnits
  split <;> rfl

theorem admitsUnits_other (other : nalIsVcl (nalType .h264 first) = false) (requireIdr hasVcl : Bool)
    (nal : List UInt8) (rest : List (UInt8 × List UInt8)) :
    admitsUnits requireIdr hasVcl ((first, nal) :: rest) = admitsUnits requireIdr hasVcl rest := by
  simp [admitsUnits, other]

theorem admitsUnits_slice (slice : nalIsVcl (nalType .h264 first) = true) (requireIdr hasVcl : Bool)
    (nal : List UInt8) (rest : List (UInt8 × List UInt8)) :
    admitsUnits requireIdr hasVcl ((first, nal) :: rest) =
      ((!requireIdr || nalType .h264 first == 5) && (hasVcl || firstSliceStartsFrame nal)) := by
  simp [admitsUnits, slice]

theorem cacheParameterSet_flags (nal : List UInt8) (assembly : Assembly) :
    (cacheParameterSet nal assembly).requireIdr = assembly.requireIdr ∧
      (cacheParameterSet nal assembly).accessUnitHasVcl = assembly.accessUnitHasVcl := by
  unfold cacheParameterSet
  split
  · exact ⟨rfl, rfl⟩
  · split
    · exact ⟨rfl, rfl⟩
    · split <;> exact ⟨rfl, rfl⟩

theorem appendStapNals_admits (timestamp : UInt32) (units : List (UInt8 × List UInt8))
    (assembly : Assembly) :
    (appendStapNals timestamp units assembly).1 =
      admitsUnits assembly.requireIdr assembly.accessUnitHasVcl units := by
  induction units generalizing assembly with
  | nil => rfl
  | cons unit rest ih =>
    obtain ⟨first, nal⟩ := unit
    obtain ⟨required, begun⟩ := cacheParameterSet_flags nal assembly
    rw [appendStapNals, andThen, appendWholeNal, andThen]
    cases slice : nalIsVcl (nalType .h264 first) with
    | false =>
      rw [admitNal_other slice, if_pos rfl, if_pos rfl, ih, admitsUnits_other slice, ← required,
        ← begun]
      rfl
    | true =>
      obtain ⟨admitted, after⟩ :=
        admitNal_slice slice nal timestamp (cacheParameterSet nal assembly)
      rw [admitsUnits_slice slice, ← required, ← begun, ← admitted]
      cases done : (admitNal (nalType .h264 first) nal timestamp (cacheParameterSet nal assembly)).1 with
      | false => simp [done]
      | true =>
        obtain ⟨free, has⟩ := after done
        rw [if_pos rfl, if_pos rfl, ih]
        change admitsUnits (admitNal _ nal timestamp _).2.requireIdr
          (admitNal _ nal timestamp _).2.accessUnitHasVcl rest = true
        rw [free, has]
        exact admitsUnits_begun rest

/-! ### The packets that are read beyond -/

/-- The access unit at hand ends with the packet. -/
def Turns (received : ReceivedPacket) (assembly : Assembly) : Prop :=
  assembly.haveTimestamp ∧ received.timestamp ≠ assembly.currentTimestamp ∧
    assembly.accessUnit ≠ []

/-- The access unit at hand does not stop the decoder when it ends. -/
def Delivers (setup : Setup) (assembly : Assembly) : Prop :=
  assembly.fuStarted = true ∨ setup.requestBuffer assembly.requests ≠ .granted ∨
    setup.submitData assembly.requests = true ∧ setup.decodeStream assembly.requests = true

instance (received : ReceivedPacket) (assembly : Assembly) : Decidable (Turns received assembly) :=
  inferInstanceAs (Decidable (_ ∧ _))

theorem submitAccessUnit_delivers (setup : Setup) (filled : assembly.accessUnit ≠ []) :
    ((submitAccessUnit setup assembly).1 = true ↔
        setup.requestBuffer assembly.requests ≠ .granted ∨
          setup.submitData assembly.requests = true ∧ setup.decodeStream assembly.requests = true) ∧
      ((submitAccessUnit setup assembly).1 = true →
        (submitAccessUnit setup assembly).2.requireIdr = assembly.requireIdr ∧
          (submitAccessUnit setup assembly).2.accessUnitHasVcl = false) := by
  unfold submitAccessUnit
  rw [if_neg filled]
  dsimp only
  cases setup.requestBuffer assembly.requests with
  | refused => simp [resetAccessUnit]
  | short => simp [resetAccessUnit]
  | granted =>
    by_cases taken : setup.submitData assembly.requests = true
    · simp [taken]
    · simp [taken]

theorem turnTo_turns (setup : Setup) {received : ReceivedPacket} (turns : Turns received assembly) :
    turnTo setup received.timestamp assembly =
      if assembly.fuStarted then (true, resetAccessUnit assembly)
      else submitAccessUnit setup assembly := if_pos turns

theorem turnTo_stays (setup : Setup) {received : ReceivedPacket}
    (stays : ¬ Turns received assembly) :
    turnTo setup received.timestamp assembly = (true, assembly) := if_neg stays

theorem turnTo_delivers (setup : Setup) (received : ReceivedPacket) (assembly : Assembly) :
    ((turnTo setup received.timestamp assembly).1 = true ↔
        (Turns received assembly → Delivers setup assembly)) ∧
      ((turnTo setup received.timestamp assembly).1 = true →
        (turnTo setup received.timestamp assembly).2.requireIdr = assembly.requireIdr ∧
          (turnTo setup received.timestamp assembly).2.accessUnitHasVcl =
            (assembly.accessUnitHasVcl && !decide (Turns received assembly))) := by
  by_cases turns : Turns received assembly
  · rw [turnTo_turns setup turns]
    by_cases running : assembly.fuStarted = true
    · rw [if_pos running]
      simp [turns, Delivers, running, resetAccessUnit]
    · rw [if_neg running]
      obtain ⟨delivers, flags⟩ := submitAccessUnit_delivers setup turns.2.2
      rw [delivers, decide_eq_true turns, Bool.not_true, Bool.and_false]
      constructor
      · exact ⟨fun done _ => .inr done, fun done => (done turns).resolve_left running⟩
      · exact fun done => flags (delivers.2 done)
  · rw [turnTo_stays setup turns]
    simp [turns]

/-- A gap in the sequence in front of the packet. -/
def Gap (received : ReceivedPacket) (decoder : Decoder) : Prop :=
  sequenceDelta decoder received.sequence > 0

instance (received : ReceivedPacket) (decoder : Decoder) : Decidable (Gap received decoder) :=
  inferInstanceAs (Decidable (_ > _))

/-- The packet is an aggregate that ends the datagram with an empty unit, and the decoder
comes as far as that unit. The units in front do not depend on the byte behind. -/
structure ReadsBehind (setup : Setup) (packet : List UInt8) (decoder : Decoder)
    (received : ReceivedPacket) : Prop where
  found : receivedPacket packet = some received
  unpadded : received.payload.start + received.payload.size = packet.length
  emptyLast : endsWithEmptyUnit received.payload.cells = true
  kept : ¬ (decoder.assembly.droppingTimestamp = true ∧
    received.timestamp = decoder.assembly.dropTimestamp)
  inTime : ¬ sequenceDelta decoder received.sequence < 0
  delivered : ¬ Gap received decoder → Turns received decoder.assembly →
    Delivers setup decoder.assembly
  admitted : admitsUnits (decoder.assembly.requireIdr || decide (Gap received decoder))
    (decoder.assembly.accessUnitHasVcl && !decide (Gap received decoder) &&
      !decide (Turns received decoder.assembly))
    (stapNals 0 (received.payload.cells.drop 1)).dropLast = true

theorem appendEmpty_faults {payload : Payload} (inside : payload.Inside) (timestamp : UInt32)
    (assembly : Assembly) :
    (∃ result, appendEmpty payload timestamp assembly = .ok result) ↔
      payload.start + payload.size ≠ payload.buffer.length := by
  unfold Window.Inside at inside
  unfold appendEmpty Payload.byte Window.read
  by_cases ends : payload.start + payload.size = payload.buffer.length
  · rw [load_outside _ (Nat.le_of_eq ends.symm)]
    simp [ends, bind, Except.bind]
  · rw [load_inside _ (by omega) 0]
    simp [ends, bind, Except.bind, pure, Except.pure]

theorem onwards_ok (first : Bool × Assembly) (next : Assembly → Checked (Bool × Assembly)) :
    (∃ result, onwards first next = .ok result) ↔
      (first.1 = true → ∃ result, next first.2 = .ok result) := by
  unfold onwards
  by_cases goesOn : first.1 = true
  · simp [goesOn]
  · simp [goesOn]

theorem checkedCedarForm_ok {payload : Payload} (inside : payload.Inside) (filled : 0 < payload.size)
    (timestamp : UInt32) (assembly : Assembly) :
    (∃ result, checkedCedarForm payload timestamp assembly = .ok result) ↔
      ¬ (endsWithEmptyUnit payload.cells = true ∧
        admitsUnits assembly.requireIdr assembly.accessUnitHasVcl
          (stapNals 0 (payload.cells.drop 1)).dropLast = true ∧
        payload.start + payload.size = payload.buffer.length) := by
  rw [checkedCedarForm_eq 0 inside filled]
  by_cases ends : endsWithEmptyUnit payload.cells = true
  · rw [if_pos ends, onwards_ok, appendEmpty_faults inside, appendStapNals_admits]
    simp [ends]
  · rw [if_neg ends]
    simp [ends]

theorem checkedCedarPacket_ok (setup : Setup) (inside : received.payload.Inside)
    (filled : 0 < received.payload.size) (assembly : Assembly) :
    (∃ result, checkedCedarPacket setup received assembly = .ok result) ↔
      ¬ (endsWithEmptyUnit received.payload.cells = true ∧
        (Turns received assembly → Delivers setup assembly) ∧
        admitsUnits assembly.requireIdr
          (assembly.accessUnitHasVcl && !decide (Turns received assembly))
          (stapNals 0 (received.payload.cells.drop 1)).dropLast = true ∧
        received.payload.start + received.payload.size = received.payload.buffer.length) := by
  obtain ⟨delivers, flags⟩ := turnTo_delivers setup received assembly
  have form : ∀ assembly : Assembly,
      (∃ result, (do
        let (goesOn, assembly) ← checkedCedarForm received.payload received.timestamp
          (accept received.rtpPacket assembly)
        return if goesOn then submitIfMarked setup received.marker assembly
          else (true, assembly)) = Except.ok (ε := Fault) result) ↔
      ∃ result, checkedCedarForm received.payload received.timestamp
        (accept received.rtpPacket assembly) = .ok result := by
    intro assembly
    simp only [bind_ok_iff]
    constructor
    · rintro ⟨_, result, done, _⟩
      exact ⟨result, done⟩
    · rintro ⟨result, done⟩
      exact ⟨_, result, done, rfl⟩
  rw [checkedCedarPacket, onwards_ok, form, checkedCedarForm_ok inside filled]
  by_cases turned : (turnTo setup received.timestamp assembly).1 = true
  · obtain ⟨required, begun⟩ := flags turned
    have flagsKept : (accept received.rtpPacket
          (turnTo setup received.timestamp assembly).2).requireIdr = assembly.requireIdr ∧
        (accept received.rtpPacket
          (turnTo setup received.timestamp assembly).2).accessUnitHasVcl =
            (assembly.accessUnitHasVcl && !decide (Turns received assembly)) := ⟨required, begun⟩
    rw [flagsKept.1, flagsKept.2]
    have goesOn := delivers.1 turned
    exact ⟨fun free all => free turned ⟨all.1, all.2.2⟩,
      fun free _ all => free ⟨all.1, goesOn, all.2⟩⟩
  · have stops := mt delivers.2 turned
    exact ⟨fun _ all => stops all.2.1, fun _ goesOn => absurd goesOn turned⟩

theorem kept_ok (first : Checked (Bool × Assembly)) (keep : Bool × Assembly → Bool × Decoder) :
    (∃ result, (first >>= fun done => pure (keep done)) = Except.ok (ε := Fault) result) ↔
      ∃ result, first = .ok result := by
  cases first with
  | error fault =>
    constructor
    · rintro ⟨_, failed⟩
      cases failed
    · rintro ⟨_, failed⟩
      cases failed
  | ok done => exact ⟨fun _ => ⟨done, rfl⟩, fun _ => ⟨_, rfl⟩⟩

theorem checkedCedarPayload_ok (setup : Setup) (inside : received.payload.Inside)
    (filled : 0 < received.payload.size) (decoder : Decoder) :
    (∃ result, checkedCedarPayload setup received decoder = .ok result) ↔
      ¬ (endsWithEmptyUnit received.payload.cells = true ∧
        ¬ (decoder.assembly.droppingTimestamp = true ∧
          received.timestamp = decoder.assembly.dropTimestamp) ∧
        ¬ sequenceDelta decoder received.sequence < 0 ∧
        (¬ Gap received decoder → Turns received decoder.assembly →
          Delivers setup decoder.assembly) ∧
        admitsUnits (decoder.assembly.requireIdr || decide (Gap received decoder))
          (decoder.assembly.accessUnitHasVcl && !decide (Gap received decoder) &&
            !decide (Turns received decoder.assembly))
          (stapNals 0 (received.payload.cells.drop 1)).dropLast = true ∧
        received.payload.start + received.payload.size = received.payload.buffer.length) := by
  unfold checkedCedarPayload
  rw [if_neg (Nat.ne_of_gt filled)]
  by_cases dropped : decoder.assembly.droppingTimestamp = true ∧
      received.timestamp = decoder.assembly.dropTimestamp
  · rw [if_pos dropped]
    exact ⟨fun _ all => all.2.1 dropped, fun _ => ⟨_, rfl⟩⟩
  · rw [if_neg dropped]
    dsimp only
    have same : sequenceDelta { decoder with
        assembly := { decoder.assembly with droppingTimestamp := false } } received.sequence =
      sequenceDelta decoder received.sequence := rfl
    rw [same]
    by_cases late : sequenceDelta decoder received.sequence < 0
    · rw [if_pos late]
      exact ⟨fun _ all => all.2.2.1 late, fun _ => ⟨_, rfl⟩⟩
    · rw [if_neg late]
      unfold checkSequence
      rw [same]
      dsimp only
      by_cases gap : sequenceDelta decoder received.sequence > 0
      · have lost : decide (Gap received decoder) = true := decide_eq_true gap
        rw [if_pos gap, kept_ok, checkedCedarPacket_ok setup inside filled, lost]
        have fresh : ∀ assembly : Assembly, assembly.haveTimestamp = false →
            ¬ Turns received assembly := fun assembly none turns => by
          rw [Turns, none] at turns
          exact Bool.false_ne_true turns.1
        rw [decide_eq_false (fresh _ rfl)]
        simp only [resetAccessUnit, Bool.or_true, Bool.not_true, Bool.and_false, Bool.false_and]
        exact ⟨fun free all => free ⟨all.1, fun turns => absurd turns (fresh _ rfl),
            all.2.2.2.2⟩,
          fun free all => free ⟨all.1, dropped, late, fun none => absurd gap none, all.2.2⟩⟩
      · have none : decide (Gap received decoder) = false := decide_eq_false gap
        rw [if_neg gap, kept_ok, checkedCedarPacket_ok setup inside filled, none]
        simp only [Bool.or_false, Bool.not_false, Bool.and_true]
        exact ⟨fun free all => free ⟨all.1, all.2.2.2.1 gap, all.2.2.2.2⟩,
          fun free all => free ⟨all.1, dropped, late, fun _ => all.2.1, all.2.2⟩⟩

theorem receivedPacket_filled {packet : List UInt8} (found : receivedPacket packet = some received) :
    0 < received.payload.size := by
  unfold receivedPacket at found
  split at found
  · cases found
  · split at found
    · cases found
    · split at found
      · cases found
      · rename_i filled
        cases found
        exact Nat.pos_of_ne_zero filled

/-- Only an aggregate that ends the datagram with an empty unit is read beyond. -/
theorem checkedCedar_ok (setup : Setup) (packet : List UInt8) (decoder : Decoder) :
    (∃ result, checkedCedar setup packet decoder = .ok result) ↔
      ¬ ∃ received, ReadsBehind setup packet decoder received := by
  unfold checkedCedar
  rw [checkedPacket_eq]
  cases found : receivedPacket packet with
  | none =>
    refine ⟨fun _ behind => ?_, fun _ => ⟨_, rfl⟩⟩
    obtain ⟨received, reads⟩ := behind
    rw [reads.found] at found
    cases found
  | some received =>
    obtain ⟨inside, own⟩ := receivedPacket_inside found
    change (∃ result, checkedCedarPayload setup received (countPacket decoder) = .ok result) ↔ _
    rw [checkedCedarPayload_ok setup inside (receivedPacket_filled found), own]
    constructor
    · rintro free ⟨other, reads⟩
      cases reads.found.symm.trans found
      exact free ⟨reads.emptyLast, reads.kept, reads.inTime, reads.delivered, reads.admitted,
        reads.unpadded⟩
    · rintro free ⟨emptyLast, kept, inTime, delivered, admitted, unpadded⟩
      exact free ⟨received, found, unpadded, emptyLast, kept, inTime, delivered, admitted⟩

/-! ### What is read is what the parsing of lists takes -/

theorem appendStapNals_append (timestamp : UInt32) (units more : List (UInt8 × List UInt8))
    (assembly : Assembly) :
    appendStapNals timestamp (units ++ more) assembly =
      andThen (appendStapNals timestamp units assembly) (appendStapNals timestamp more) := by
  induction units generalizing assembly with
  | nil => rfl
  | cons unit rest ih =>
    obtain ⟨first, nal⟩ := unit
    rw [List.cons_append, appendStapNals, appendStapNals, andThen, andThen, andThen]
    split
    · rw [ih, andThen]
    · rfl

/-- The last unit of an aggregate that ends with an empty one. -/
theorem appendStapNals_empty (timestamp : UInt32) (behind : UInt8) (assembly : Assembly) :
    appendStapNals timestamp [(behind, [])] assembly =
      appendWholeNal (nalType .h264 behind) [] timestamp assembly := by
  rw [appendStapNals, andThen]
  generalize appendWholeNal (nalType .h264 behind) [] timestamp assembly = result
  obtain ⟨_ | _, _⟩ := result <;> rfl

/-- What a read behind the payload yields is the byte that the parsing of lists assumes. -/
theorem realizes_behind (setup : Setup) {packet : List UInt8} (decoder : Decoder)
    (found : receivedPacket packet = some received) :
    ∀ byte, received.payload.byte received.payload.size = .ok byte →
      byte = byteBehind setup packet decoder := by
  intro byte read
  unfold receivedPacket at found
  unfold byteBehind
  split at found
  · cases found
  · split at found
    · cases found
    · rename_i offset at_
      split at found
      · cases found
      · cases found
        rw [at_]
        change load Fault.outside packet (offset + payloadSize packet offset) = .ok byte at read
        unfold load at read
        split at read
        · rename_i value inside
          rw [Option.bind_some, inside]
          exact (Except.ok.inj read).symm
        · cases read

section Done
variable {received : ReceivedPacket}
variable (inside : received.payload.Inside) (filled : 0 < received.payload.size)
variable (realizes : ∀ byte, received.payload.byte received.payload.size = .ok byte → byte = behind)
include inside filled realizes

theorem checkedCedarForm_done {timestamp : UInt32} {assembly : Assembly}
    (done : checkedCedarForm received.payload timestamp assembly = .ok result) :
    appendForm behind received.payload.cells timestamp assembly = result := by
  rw [checkedCedarForm_eq behind inside filled] at done
  by_cases ends : endsWithEmptyUnit received.payload.cells = true
  · rw [if_pos ends] at done
    generalize received.payload.cells = cells at ends done
    match cells, ends with
    | first :: rest, ends =>
      have aggregate : nalType .h264 first = 24 := by
        by_contra other
        rw [endsWithEmptyUnit_other other] at ends
        cases ends
      rw [endsWithEmptyUnit_aggregate aggregate] at ends
      have form : appendForm behind (first :: rest) timestamp assembly =
          appendStapNals timestamp (stapNals behind rest) { assembly with fuStarted := false } := by
        have other : ¬ (1 ≤ nalType .h264 first ∧ nalType .h264 first ≤ 23) := by
          rw [aggregate]
          decide
        exact (if_neg other).trans (if_pos aggregate)
      rw [form, stapNals_endsEmpty behind ends, appendStapNals_append, andThen]
      rw [List.drop_one, List.tail_cons, onwards] at done
      split at done
      · rename_i goesOn
        rw [if_pos goesOn, appendStapNals_empty]
        unfold appendEmpty at done
        cases read : received.payload.byte received.payload.size with
        | error fault =>
          rw [read] at done
          cases done
        | ok byte =>
          rw [read, realizes byte read] at done
          exact Except.ok.inj done
      · rename_i stopped
        rw [if_neg stopped]
        exact Except.ok.inj done
  · rw [if_neg ends] at done
    exact Except.ok.inj done

theorem checkedCedarPacket_done {setup : Setup} {assembly : Assembly}
    (done : checkedCedarPacket setup received assembly = .ok result) :
    appendPacket setup behind received.rtpPacket assembly = result := by
  unfold checkedCedarPacket onwards at done
  change andThen (turnTo setup received.timestamp assembly) _ = result
  unfold andThen
  split at done
  · rename_i goesOn
    rw [if_pos goesOn]
    obtain ⟨⟨further, after⟩, formed, ended⟩ := bind_ok_iff.1 done
    have form := checkedCedarForm_done inside filled realizes formed
    change (let (goesOn, assembly) := appendForm behind received.payload.cells received.timestamp _
      if goesOn then submitIfMarked setup received.marker assembly else (true, assembly)) = result
    rw [form]
    exact Except.ok.inj ended
  · rename_i stopped
    rw [if_neg stopped]
    exact Except.ok.inj done

theorem checkedCedarPayload_done {setup : Setup} {decoder : Decoder}
    (done : checkedCedarPayload setup received decoder = .ok result) :
    appendH264Payload setup behind received.rtpPacket decoder = result := by
  have whole : received.rtpPacket.payload ≠ [] := by
    intro empty
    have length := Window.length_cells inside
    rw [show received.payload.cells = [] from empty, List.length_nil] at length
    omega
  unfold checkedCedarPayload at done
  unfold appendH264Payload
  rw [if_neg (Nat.ne_of_gt filled)] at done
  rw [if_neg whole]
  change (if decoder.assembly.droppingTimestamp = true ∧
      received.timestamp = decoder.assembly.dropTimestamp then _ else _) = result
  split at done
  · rename_i dropped
    rw [if_pos dropped]
    exact Except.ok.inj done
  · rename_i kept
    rw [if_neg kept]
    dsimp only at done ⊢
    change (if sequenceDelta _ received.sequence < 0 then _ else _) = result
    split at done
    · rename_i late
      rw [if_pos late]
      exact Except.ok.inj done
    · rename_i inTime
      rw [if_neg inTime]
      obtain ⟨after, packet, ended⟩ := bind_ok_iff.1 done
      have handled := checkedCedarPacket_done inside filled realizes packet
      let checked := checkSequence received.sequence { decoder with
        assembly := { decoder.assembly with droppingTimestamp := false } }
      have last : (after.1, { checked with assembly := after.2 }) = result := Except.ok.inj ended
      rw [← last, ← handled]
      rfl

end Done

/-- A packet that is not read beyond is handled as the parsing of lists says: padding that
is read for the type of an empty unit is the byte behind its payload. -/
theorem checkedCedar_done (setup : Setup) {packet : List UInt8} {decoder : Decoder}
    (done : checkedCedar setup packet decoder = .ok result) :
    handleRtpPacket setup packet decoder = result := by
  unfold checkedCedar at done
  unfold handleRtpPacket
  rw [checkedPacket_eq] at done
  rw [← receivedPacket_parsed]
  cases found : receivedPacket packet with
  | none =>
    rw [found] at done
    exact Except.ok.inj done
  | some received =>
    rw [found] at done
    exact checkedCedarPayload_done (receivedPacket_inside found).1 (receivedPacket_filled found)
      (realizes_behind setup decoder found) done

/-- Whatever arrives, the three decoders read the datagram and nothing else, unless the
Cedar decoder looks for the type of an empty unit where the datagram ends. -/
theorem reads_inside_iff (imx : ImxVpuRtpDecoder.Setup)
    (imxDecoder : Depacketizer ImxVpuRtpDecoder.Assembly) (rockchip : RockchipMppRtpDecoder.Setup)
    (rockchipDecoder : Depacketizer RockchipMppRtpDecoder.Assembly) (cedar : Setup)
    (cedarDecoder : Decoder) (packet : List UInt8) :
    ((∃ result, checkedImx imx packet imxDecoder = .ok result) ∧
      (∃ result, checkedRockchip rockchip packet rockchipDecoder = .ok result) ∧
      ∃ result, checkedCedar cedar packet cedarDecoder = .ok result) ↔
    ¬ ∃ received, ReadsBehind cedar packet cedarDecoder received := by
  rw [checkedImx_eq, checkedRockchip_eq, checkedCedar_ok]
  exact ⟨fun all => all.2.2, fun free => ⟨⟨_, rfl⟩, ⟨_, rfl⟩, free⟩⟩

/-- An aggregate of one empty unit and nothing behind it. -/
theorem empty_unit_read_behind :
    ¬ ∃ result, checkedCedar ⟨fun _ => .granted, fun _ => true, fun _ => true, fun _ => 0⟩
      [0x80, 0x60, 0, 1, 0, 0, 0, 0, 0, 0, 0, 0, 24, 0, 0] {} = .ok result := by
  rw [checkedCedar_ok, not_not]
  have cells : Window.cells (⟨[0x80, 0x60, 0, 1, 0, 0, 0, 0, 0, 0, 0, 0, 24, 0, 0], 12, 3⟩ :
    Payload) = [24, 0, 0] := rfl
  refine ⟨⟨false, 1, 0, ⟨_, 12, 3⟩⟩, rfl, rfl, ?_, ?_, ?_, ?_, ?_⟩
  · rw [cells]
    simp [endsWithEmptyUnit, endsEmpty, nalType]
    decide
  · exact fun dropped => Bool.false_ne_true dropped.1
  · decide
  · exact fun _ turns => absurd turns.1 Bool.false_ne_true
  · rw [cells]
    simp [stapNals, admitsUnits]

end Glide.ParsingBounds
