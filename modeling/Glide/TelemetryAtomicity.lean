import Glide.TelemetryHop

/-! Whether a line about the attitude, the position, the speed or the battery changes all the
fields of its message, or none of the snapshot. -/
namespace Glide.TelemetryAtomicity
open Library AsciiText BinaryFloat NumberText StreamExtraction
open MavlinkFrames MavlinkDecode MavlinkBridge MavlinkState TelemetrySnapshot TelemetryHop

inductive Message where
  | attitude
  | position
  | speed
  | battery
  deriving DecidableEq

def Message.key : Message → List UInt8
  | .attitude => ascii "attitude"
  | .position => ascii "position"
  | .speed => ascii "speed"
  | .battery => ascii "battery"

def Message.kinds : Message → List Kind
  | .attitude => [.single, .single, .single]
  | .position => [.double, .double, .single]
  | .speed => [.single, .single]
  | .battery => [.single, .integer]

/-- The fields of the snapshot that a message is about. -/
def Message.fields : (message : Message) → Telemetry → Values message.kinds
  | .attitude, telemetry =>
    (telemetry.rollDegrees, telemetry.pitchDegrees, telemetry.yawDegrees, ())
  | .position, telemetry => (telemetry.latitudeDeg, telemetry.longitudeDeg, telemetry.altitudeM, ())
  | .speed, telemetry => (telemetry.groundSpeedMps, telemetry.airspeedMps, ())
  | .battery, telemetry => (telemetry.voltageV, telemetry.batteryPercent, ())

/-- These fields are marked as valid. -/
def Message.Valid : Message → Telemetry → Prop
  | .attitude, telemetry => telemetry.attitudeValid
  | .position, telemetry => telemetry.positionValid ∧ telemetry.altitudeValid
  | .speed, telemetry => telemetry.speedValid
  | .battery, telemetry => telemetry.batteryValid

/-- The snapshot with all the fields of a message, marked as valid. -/
def Message.update : (message : Message) → Values message.kinds → Telemetry → Telemetry
  | .attitude, values, telemetry =>
    { telemetry with
      rollDegrees := values.1, pitchDegrees := values.2.1, yawDegrees := values.2.2.1
      attitudeValid := true }
  | .position, values, telemetry =>
    { telemetry with
      latitudeDeg := values.1, longitudeDeg := values.2.1, altitudeM := values.2.2.1
      positionValid := true, altitudeValid := true }
  | .speed, values, telemetry =>
    { telemetry with groundSpeedMps := values.1, airspeedMps := values.2.1, speedValid := true }
  | .battery, values, telemetry =>
    { telemetry with voltageV := values.1, batteryPercent := values.2.1, batteryValid := true }

/-- What follows the key of a line. -/
def numbersText (line : List UInt8) : List UInt8 := (nextWord (nextWord line).2).2

structure Carries (message : Message) (line : List UInt8) : Prop where
  start : (nextWord line).1 = ascii "mav"
  key : (nextWord (nextWord line).2).1 = message.key

/-- All numbers of the message can be read from the line. -/
def Complete (message : Message) (line : List UInt8) : Prop :=
  (numbersIn message.kinds (numbersText line)).isSome

/-- All the fields are those of the line, or the snapshot is unchanged, and nothing is marked as
valid that was not in the line. -/
structure Atomically (message : Message) (line : List UInt8) (before after : Telemetry) : Prop where
  whole : after = before ∨ ∃ values, numbersIn message.kinds (numbersText line) = some values ∧
    after = message.update values before
  honest : message.Valid after → ¬message.Valid before → ∃ values,
    numbersIn message.kinds (numbersText line) = some values ∧ message.fields after = values

theorem key_number (message : Message) : message.key ∈ numberKeys := by
  cases message <;> decide

theorem applyNumbers_message (message : Message) (text : List UInt8) (telemetry : Telemetry) :
    applyNumbers message.key text telemetry =
      message.update (extractAll message.kinds (message.fields telemetry) ⟨text, false⟩)
        telemetry := by
  cases message <;> rfl

theorem update_fields (message : Message) (values : Values message.kinds) (telemetry : Telemetry) :
    message.fields (message.update values telemetry) = values := by
  cases message <;> rfl

theorem update_valid (message : Message) (values : Values message.kinds) (telemetry : Telemetry) :
    message.Valid (message.update values telemetry) := by
  cases message with
  | attitude => rfl
  | position => exact ⟨rfl, rfl⟩
  | speed => rfl
  | battery => rfl

theorem update_own (message : Message) (telemetry : Telemetry) (valid : message.Valid telemetry) :
    message.update (message.fields telemetry) telemetry = telemetry := by
  cases message with
  | attitude =>
    exact congrArg (fun marked => { telemetry with attitudeValid := marked }) (Eq.symm valid)
  | position =>
    exact congrArg₂ (fun marked other => { telemetry with
      positionValid := marked, altitudeValid := other }) (Eq.symm valid.1) (Eq.symm valid.2)
  | speed =>
    exact congrArg (fun marked => { telemetry with speedValid := marked }) (Eq.symm valid)
  | battery =>
    exact congrArg (fun marked => { telemetry with batteryValid := marked }) (Eq.symm valid)

theorem update_same_iff (message : Message) (values : Values message.kinds)
    (telemetry : Telemetry) :
    message.update values telemetry = telemetry ↔
      message.Valid telemetry ∧ values = message.fields telemetry := by
  constructor
  · intro same
    have valid := update_valid message values telemetry
    have fields := update_fields message values telemetry
    rw [same] at valid fields
    exact ⟨valid, fields.symm⟩
  · rintro ⟨valid, rfl⟩
    exact update_own message telemetry valid

/-- A line is applied atomically if all its numbers can be read, or if it repeats what the
snapshot already has and marks as valid. -/
theorem line_atomic_iff (cameraName : Int → List UInt8) (telemetry : Telemetry)
    (carries : Carries message line) :
    Atomically message line telemetry (applyIpcLine cameraName line telemetry).2 ↔
      Complete message line ∨ (message.Valid telemetry ∧
        Repeats message.kinds (message.fields telemetry) (numbersText line)) := by
  obtain ⟨start, key⟩ := carries
  rw [number_line cameraName line telemetry start (by rw [key]; exact key_number message), key,
    applyNumbers_message]
  show Atomically message line telemetry (message.update (extractAll message.kinds _
    ⟨numbersText line, false⟩) telemetry) ↔ _
  constructor
  · rintro ⟨same | ⟨values, numbers, _⟩, _⟩
    · obtain ⟨valid, kept⟩ := (update_same_iff ..).1 same
      exact .inr ⟨valid, (extractAll_same_iff ..).1 kept⟩
    · exact .inl (by rw [Complete, numbers]; rfl)
  · rintro (complete | ⟨valid, repeats⟩)
    · obtain ⟨values, numbers⟩ := Option.isSome_iff_exists.1 complete
      rw [extractAll_numbers _ numbers]
      exact ⟨.inr ⟨values, numbers, rfl⟩, fun _ _ => ⟨values, numbers, update_fields ..⟩⟩
    · rw [(extractAll_same_iff ..).2 repeats, update_own message telemetry valid]
      exact ⟨.inl rfl, fun marked unmarked => absurd marked unmarked⟩

/-! ### Lines of frames -/

/-- A line of a message, with its numbers behind a blank. -/
def lineOf (message : Message) (numbers : List UInt8) : List UInt8 :=
  ascii "mav" ++ 32 :: (message.key ++ 32 :: numbers)

theorem carries_lineOf (message : Message) (numbers : List UInt8) :
    Carries message (lineOf message numbers) := by
  obtain ⟨start, next⟩ := keyed_words (key_number message) numbers
  exact ⟨by rw [lineOf, start], by rw [lineOf, start, next]⟩

theorem numbersText_lineOf (message : Message) (numbers : List UInt8) :
    numbersText (lineOf message numbers) = 32 :: numbers := by
  obtain ⟨start, next⟩ := keyed_words (key_number message) numbers
  rw [numbersText, lineOf, start, next]

theorem lineOf_unbroken (message : Message) (unbroken : 10 ∉ numbers) :
    10 ∉ lineOf message numbers := by
  have key : 10 ∉ message.key := by cases message <;> decide +kernel
  simp only [lineOf, List.mem_append, List.mem_cons, key, unbroken]
  decide

theorem numbersIn_number (kind : Kind) {value : kind.Value} (kinds : List Kind)
    (number : numberIn kind.convert text = some (value, rest)) :
    (numbersIn (kind :: kinds) text).isSome = (numbersIn kinds rest).isSome := by
  rw [numbersIn, number, Option.bind_some, Option.isSome_map]

theorem single_written (kinds : List Kind) (fits : value.isFinite → Fits binary32 value)
    (separated : Separated rest) :
    (numbersIn (.single :: kinds) (32 :: (fixedText 2 value ++ rest))).isSome =
      (value.isFinite && (numbersIn kinds rest).isSome) := by
  have number := numberIn_fixedText (by decide) (by decide) 2 value fits separated
  cases finite : value.isFinite with
  | true =>
    rw [if_pos finite] at number
    exact (numbersIn_number .single kinds number).trans (Bool.true_and _).symm
  | false =>
    rw [if_neg (Bool.eq_false_iff.1 finite)] at number
    unfold numbersIn
    show (Option.bind (numberIn (convertFloat binary32) _) _).isSome = _
    rw [number]
    rfl

theorem thousandths_written (kinds : List Kind) (number : Int) (small : number.natAbs ≤ 2 ^ 31)
    (separated : Separated rest) :
    (numbersIn (.single :: kinds) (32 :: (thousandths number ++ rest))).isSome =
      (numbersIn kinds rest).isSome := by
  have fits := (thousandths_held number small).fits
  rw [thousandths, single_written kinds (fun _ => fits) separated, fits.isFinite, Bool.true_and]

theorem degrees_written (kinds : List Kind) (number : Int) (small : number.natAbs ≤ 2 ^ 31)
    (separated : Separated rest) :
    (numbersIn (.double :: kinds) (32 :: (degrees number ++ rest))).isSome =
      (numbersIn kinds rest).isSome := by
  have exact : ofInt binary64 10000000 = .finite false 5368709120000000 (-29) := by decide +kernel
  have fits := (quotient_held (by decide) (by decide) (by decide) (by decide) exact (by norm_num)
    number small).fits
  have written := numberIn_fixedText (by decide) (by decide) 7 _ (fun _ => fits) separated
  rw [if_pos fits.isFinite] at written
  exact numbersIn_number .double kinds written

theorem integer_written (kinds : List Kind) (number : Int) (least : -2 ^ 31 ≤ number)
    (most : number < 2 ^ 31) (separated : Separated rest) :
    (numbersIn (.integer :: kinds) (32 :: (signedDecimal number ++ rest))).isSome =
      (numbersIn kinds rest).isSome :=
  numbersIn_number .integer kinds (numberIn_signed number least most separated)

/-- The voltage and the charge are written so that they can be read. -/
theorem battery_complete (sysid compid : UInt8) (p : List UInt8)
    (decoded : line ∈ decodedLines ⟨sysid, compid, 1, p⟩) :
    Carries .battery line ∧ Complete .battery line := by
  have frame : decodeFrame ⟨sysid, compid, 1, p⟩ = decodeSysStatus p := rfl
  unfold decodeSysStatus at frame
  dsimp only at frame
  split at frame
  · have text : ascii "mav battery " ++ thousandths (readLe 2 p 14) ++ [32] ++
        signedDecimal (readSigned 1 p 30) = lineOf .battery (thousandths (readLe 2 p 14) ++
          32 :: (signedDecimal (readSigned 1 p 30) ++ [])) := by
      rw [List.append_nil, List.append_assoc, List.append_assoc]
      rfl
    have voltage := readLe_small 2 p 14
    have charge := readI8_small p 30
    have unbroken : 10 ∉ thousandths (readLe 2 p 14) ++
        32 :: (signedDecimal (readSigned 1 p 30) ++ []) := by
      simp [thousandths, fixedText_unbroken, signedDecimal_unbroken]
    rw [text] at frame
    rw [decodedLines_single frame (lineOf_unbroken _ unbroken) (by simp [lineOf]),
      List.mem_singleton] at decoded
    subst decoded
    refine ⟨carries_lineOf .., ?_⟩
    unfold Complete
    rw [numbersText_lineOf]
    show (numbersIn [.single, .integer] _).isSome
    rw [thousandths_written _ _ (by omega) separated_blank,
      integer_written _ _ (by unfold readI8 at charge; omega) (by unfold readI8 at charge; omega)
        separated_nil]
    rfl
  · unfold decodedLines at decoded
    rw [frame] at decoded
    cases decoded

theorem position_text (lat lon alt : Int) :
    positionText lat lon alt =
      lineOf .position (degrees lat ++ 32 :: (degrees lon ++ 32 :: (thousandths alt ++ []))) := by
  unfold positionText
  rw [List.append_nil, List.append_assoc, List.append_assoc, List.append_assoc, List.append_assoc]
  rfl

theorem position_unbroken (lat lon alt : Int) : 10 ∉ positionText lat lon alt := by
  rw [position_text]
  apply lineOf_unbroken
  simp [thousandths, degrees, fixedText_unbroken]

theorem position_complete (lat lon alt : Int) (latSmall : lat.natAbs ≤ 2 ^ 31)
    (lonSmall : lon.natAbs ≤ 2 ^ 31) (altSmall : alt.natAbs ≤ 2 ^ 31) :
    Carries .position (positionText lat lon alt) ∧ Complete .position (positionText lat lon alt) := by
  rw [position_text]
  refine ⟨carries_lineOf .., ?_⟩
  unfold Complete
  rw [numbersText_lineOf]
  show (numbersIn [.double, .double, .single] _).isSome
  rw [degrees_written _ _ latSmall separated_blank, degrees_written _ _ lonSmall separated_blank,
    thousandths_written _ _ altSmall separated_nil]
  rfl

theorem readI32_small (p : List UInt8) (offset : Nat) : (readSigned 4 p offset).natAbs ≤ 2 ^ 31 := by
  have range := readI32_range p offset
  omega

theorem globalPosition_complete (sysid compid : UInt8) (p : List UInt8)
    (decoded : line ∈ decodedLines ⟨sysid, compid, 33, p⟩) :
    Carries .position line ∧ Complete .position line := by
  have frame : decodeFrame ⟨sysid, compid, 33, p⟩ =
      some (positionText (readSigned 4 p 4) (readSigned 4 p 8) (readSigned 4 p 16)) := rfl
  rw [decodedLines_single frame (position_unbroken _ _ _) (by simp [positionText]),
    List.mem_singleton] at decoded
  rw [decoded]
  exact position_complete _ _ _ (readI32_small ..) (readI32_small ..) (readI32_small ..)

/-- A GPS frame is two lines, of which the second has the satellites. -/
theorem gps_lines (sysid compid : UInt8) (p : List UInt8) :
    decodedLines ⟨sysid, compid, 24, p⟩ =
      [positionText (readSigned 4 p 8) (readSigned 4 p 12) (readSigned 4 p 16),
        ascii "mav gps " ++ decimal (readLe 1 p 29)] := by
  have frame : decodeFrame ⟨sysid, compid, 24, p⟩ =
      some (positionText (readSigned 4 p 8) (readSigned 4 p 12) (readSigned 4 p 16) ++
        10 :: (ascii "mav gps " ++ decimal (readLe 1 p 29))) := by
    show decodeGpsRawInt p = _
    unfold decodeGpsRawInt
    dsimp only
    rw [List.append_assoc]
    rfl
  have satellites : 10 ∉ ascii "mav gps " ++ decimal (readLe 1 p 29) := by
    rw [List.mem_append, not_or]
    exact ⟨by decide +kernel, decimal_unbroken⟩
  unfold decodedLines
  rw [frame]
  dsimp only
  rw [lines_break (position_unbroken _ _ _), lines_unbroken satellites (by simp)]
  simp [positionText]

theorem gps_applied (cameraName : Int → List UInt8) (p : List UInt8) (telemetry : Telemetry) :
    (applyIpcLine cameraName (ascii "mav gps " ++ decimal (readLe 1 p 29)) telemetry).2 =
      { telemetry with satellites := readLe 1 p 29 } := by
  have text : ascii "mav gps " ++ decimal (readLe 1 p 29) =
      ascii "mav" ++ 32 :: (ascii "gps" ++ 32 :: (decimal (readLe 1 p 29) ++ [])) := by
    rw [List.append_nil]
    rfl
  have small := readLe_small 1 p 29
  rw [text, keyed_line cameraName telemetry (by decide)]
  show applyGps _ telemetry = _
  unfold applyGps
  rw [intField_decimal _ _ (by omega) separated_nil]

theorem readFloat_fits (p : List UInt8) (offset : Nat) (finite : (readFloat p offset).isFinite) :
    Fits binary32 (readFloat p offset) :=
  decodeBits_fits _ (by decide) finite

/-- The angle of an attitude frame. -/
def angleValue (p : List UInt8) (offset : Nat) : FloatValue :=
  multiply binary32 (readFloat p offset) radToDeg

theorem attitude_complete_iff (sysid compid : UInt8) (p : List UInt8)
    (decoded : line ∈ decodedLines ⟨sysid, compid, 30, p⟩) :
    Carries .attitude line ∧
      (Complete .attitude line ↔ ∀ offset ∈ [4, 8, 12], (angleValue p offset).isFinite) := by
  have frame : decodeFrame ⟨sysid, compid, 30, p⟩ = some (lineOf .attitude
      (fixedText 2 (angleValue p 4) ++ 32 :: (fixedText 2 (angleValue p 8) ++
        32 :: (fixedText 2 (angleValue p 12) ++ [])))) := by
    show decodeAttitude p = _
    unfold decodeAttitude
    rw [List.append_nil, List.append_assoc, List.append_assoc, List.append_assoc, List.append_assoc]
    rfl
  have unbroken : 10 ∉ fixedText 2 (angleValue p 4) ++ 32 :: (fixedText 2 (angleValue p 8) ++
      32 :: (fixedText 2 (angleValue p 12) ++ [])) := by
    simp [fixedText_unbroken]
  have fits (offset : Nat) : (angleValue p offset).isFinite → Fits binary32 (angleValue p offset) :=
    multiply_fits _ _
  rw [decodedLines_single frame (lineOf_unbroken _ unbroken) (by simp [lineOf]),
    List.mem_singleton] at decoded
  subst decoded
  refine ⟨carries_lineOf .., ?_⟩
  unfold Complete
  rw [numbersText_lineOf]
  show (numbersIn [.single, .single, .single] _).isSome ↔ _
  rw [single_written _ (fits 4) separated_blank, single_written _ (fits 8) separated_blank,
    single_written _ (fits 12) separated_nil]
  simp [numbersIn]

theorem speed_complete_iff (sysid compid : UInt8) (p : List UInt8)
    (decoded : line ∈ decodedLines ⟨sysid, compid, 74, p⟩) :
    Carries .speed line ∧
      (Complete .speed line ↔ ∀ offset ∈ [16, 0], (readFloat p offset).isFinite) := by
  have frame : decodeFrame ⟨sysid, compid, 74, p⟩ = some (lineOf .speed
      (fixedText 2 (readFloat p 16) ++ 32 :: (fixedText 2 (readFloat p 0) ++ []))) := by
    show decodeVfrHud p = _
    unfold decodeVfrHud
    rw [List.append_nil, List.append_assoc, List.append_assoc]
    rfl
  have unbroken : 10 ∉ fixedText 2 (readFloat p 16) ++ 32 :: (fixedText 2 (readFloat p 0) ++ []) := by
    simp [fixedText_unbroken]
  rw [decodedLines_single frame (lineOf_unbroken _ unbroken) (by simp [lineOf]),
    List.mem_singleton] at decoded
  subst decoded
  refine ⟨carries_lineOf .., ?_⟩
  unfold Complete
  rw [numbersText_lineOf]
  show (numbersIn [.single, .single] _).isSome ↔ _
  rw [single_written _ (readFloat_fits p 16) separated_blank,
    single_written _ (readFloat_fits p 0) separated_nil]
  simp [numbersIn]

/-- A line is applied atomically exactly if all its numbers can be read, or if it repeats what the
snapshot has. The numbers of battery and position frames can always be read, those of attitude and
speed frames exactly if they are finite. -/
theorem numbers_atomic_iff (cameraName : Int → List UInt8) (sysid compid : UInt8)
    (p line : List UInt8) (telemetry : Telemetry) :
    (∀ message, Carries message line →
      (Atomically message line telemetry (applyIpcLine cameraName line telemetry).2 ↔
        Complete message line ∨ (message.Valid telemetry ∧
          Repeats message.kinds (message.fields telemetry) (numbersText line)))) ∧
    (line ∈ decodedLines ⟨sysid, compid, 1, p⟩ → Carries .battery line ∧ Complete .battery line) ∧
    (line ∈ decodedLines ⟨sysid, compid, 33, p⟩ →
      Carries .position line ∧ Complete .position line) ∧
    (line ∈ decodedLines ⟨sysid, compid, 24, p⟩ →
      (Carries .position line ∧ Complete .position line) ∨
        (applyIpcLine cameraName line telemetry).2 =
          { telemetry with satellites := readLe 1 p 29 }) ∧
    (line ∈ decodedLines ⟨sysid, compid, 30, p⟩ → Carries .attitude line ∧
      (Complete .attitude line ↔ ∀ offset ∈ [4, 8, 12], (angleValue p offset).isFinite)) ∧
    (line ∈ decodedLines ⟨sysid, compid, 74, p⟩ → Carries .speed line ∧
      (Complete .speed line ↔ ∀ offset ∈ [16, 0], (readFloat p offset).isFinite)) := by
  refine ⟨fun _ => line_atomic_iff cameraName telemetry, battery_complete sysid compid p,
    globalPosition_complete sysid compid p, fun gps => ?_, attitude_complete_iff sysid compid p,
    speed_complete_iff sysid compid p⟩
  rw [gps_lines, List.mem_cons, List.mem_singleton] at gps
  rcases gps with rfl | rfl
  · exact .inl (position_complete _ _ _ (readI32_small ..) (readI32_small ..) (readI32_small ..))
  · exact .inr (gps_applied cameraName p telemetry)

theorem speed_applied_whole :
    Atomically .speed (ascii "mav speed 1.50 -2.25") {}
      (applyIpcLine (fun _ => []) (ascii "mav speed 1.50 -2.25") {}).2 :=
  ((numbers_atomic_iff (fun _ => []) 0 0 [] (ascii "mav speed 1.50 -2.25") {}).1 .speed
    ⟨by decide +kernel, by decide +kernel⟩).2 (.inl (by unfold Complete; decide +kernel))

/-- A roll angle that is no number. -/
def unknownRoll : Frame :=
  ⟨1, 1, 30, [0, 0, 0, 0, 0, 0, 0xc0, 0x7f] ++ List.replicate 20 0⟩

/-- The snapshot shows a valid roll angle of zero that nobody has sent. -/
theorem unknown_roll_marked_valid :
    decodedLines unknownRoll = [ascii "mav attitude nan 0.00 0.00"] ∧
      ¬Atomically .attitude (ascii "mav attitude nan 0.00 0.00") {}
        (applyIpcLine (fun _ => []) (ascii "mav attitude nan 0.00 0.00") {}).2 := by
  refine ⟨by decide +kernel, fun atomically => ?_⟩
  have unread : numbersIn Message.attitude.kinds
      (numbersText (ascii "mav attitude nan 0.00 0.00")) = none := by decide +kernel
  have marked : (applyIpcLine (fun _ => []) (ascii "mav attitude nan 0.00 0.00")
      {}).2.attitudeValid = true := by decide +kernel
  obtain ⟨values, numbers, _⟩ := atomically.honest marked Bool.false_ne_true
  rw [unread] at numbers
  cases numbers

end Glide.TelemetryAtomicity
