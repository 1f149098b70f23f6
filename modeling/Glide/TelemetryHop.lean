import Glide.TelemetryLines
import Glide.TelemetrySnapshot
import Glide.ZeroTruncation

/-! Telemetry on its way from the radio to the snapshot: a frame is written as lines, and the
numbers are extracted from the lines again. -/
namespace Glide.TelemetryHop
open Library AsciiText BinaryFloat NumberText StreamExtraction
open MavlinkFrames MavlinkDecode MavlinkBridge MavlinkState TelemetrySnapshot

/-- A frame with all of its lines. -/
def applyFrame (cameraName : Int → List UInt8) (frame : Frame) (telemetry : Telemetry) :
    Telemetry :=
  applyLines cameraName (decodedLines frame) telemetry

/-! ### Numbers of a line -/

theorem signedDecimal_natCast (number : Nat) : signedDecimal number = decimal number :=
  if_neg (Int.not_lt.2 (Int.natCast_nonneg number))

theorem intField_written (field number : Int) (least : -2 ^ 31 ≤ number) (most : number < 2 ^ 31)
    (separated : Separated rest) :
    intField field ⟨32 :: (signedDecimal number ++ rest), false⟩ = (number, ⟨rest, false⟩) :=
  extract_int field number least most separated

theorem intField_decimal (field : Int) (number : Nat) (small : number < 2 ^ 31)
    (separated : Separated rest) :
    intField field ⟨32 :: (decimal number ++ rest), false⟩ = ((number : Int), ⟨rest, false⟩) := by
  rw [← signedDecimal_natCast]
  exact intField_written field number (by omega) (by omega) separated

/-! ### Numbers that are divided -/

/-- `1000.0F` -/
theorem thousand_exact : ofInt binary32 1000 = .finite false 16384000 (-14) := by decide +kernel

/-- A field of 32 bits, divided. -/
theorem quotient_held {format : FloatFormat} {divisor : Int} {mantissa : Nat} {exponent : Int}
    (precise : 9 ≤ format.fractionBits) (ordered : format.minExponent < format.maxExponent)
    (least : format.minExponent ≤ 1) (wide : 127 ≤ format.maxExponent + format.fractionBits)
    (exact : ofInt format divisor = .finite false mantissa exponent)
    (unit : (1 : ℚ) ≤ mantissa * 2 ^ exponent) (number : Int) (small : number.natAbs ≤ 2 ^ 31) :
    Held format (divide format (ofInt format number) (ofInt format divisor)) := by
  have small : (number.natAbs : ℚ) ≤ 2 ^ 31 := by exact_mod_cast small
  have limit : (2 : ℚ) ^ 127 ≤ 2 ^ (format.maxExponent + format.fractionBits) := by
    have powers := zpow_le_zpow_right₀ (by norm_num : (1 : ℚ) ≤ 2) wide
    exact_mod_cast powers
  have least : (2 : ℚ) ^ (format.minExponent - 1) ≤ 1 :=
    zpow_le_one_of_nonpos₀ (by norm_num) (by omega)
  have near := @ofInt_signed format number precise ordered (by linarith)
  rw [exact]
  obtain ⟨mantissa, exponent, shape, bound⟩ := divide_finite precise ordered near unit
    (by positivity) least (by linarith)
  exact ⟨_, mantissa, exponent, shape, by linarith⟩

theorem thousandths_held (number : Int) (small : number.natAbs ≤ 2 ^ 31) :
    Held binary32 (divide binary32 (ofInt binary32 number) (ofInt binary32 1000)) :=
  quotient_held (by decide) (by decide) (by decide) (by decide) thousand_exact (by norm_num) number
    small

theorem floatField_thousandths (field : FloatValue) (number : Int)
    (small : number.natAbs ≤ 2 ^ 31) (separated : Separated rest) :
    floatField field ⟨32 :: (thousandths number ++ rest), false⟩ =
      ((convertFloat binary32 (thousandths number)).value, ⟨rest, false⟩) :=
  extract_fixedText (by decide) (by decide) 2 field _ (thousandths_held number small).fits separated

/-! ### Lines of frames -/

theorem decodedLines_single (decoded : decodeFrame frame = some text) (unbroken : 10 ∉ text)
    (written : text ≠ []) : decodedLines frame = [text] := by
  unfold decodedLines
  rw [decoded]
  dsimp only
  rw [lines_unbroken unbroken written]
  simp [written]

theorem applyFrame_line (cameraName : Int → List UInt8) (telemetry : Telemetry)
    (decoded : decodeFrame frame = some text) (unbroken : 10 ∉ text) (written : text ≠ []) :
    applyFrame cameraName frame telemetry = (applyIpcLine cameraName text telemetry).2 := by
  unfold applyFrame applyLines
  rw [decodedLines_single decoded unbroken written]
  rfl

/-- The words of a line with numbers. -/
theorem keyed_words (number : key ∈ numberKeys) (rest : List UInt8) :
    nextWord (ascii "mav" ++ 32 :: (key ++ 32 :: rest)) =
        (ascii "mav", 32 :: (key ++ 32 :: rest)) ∧
      nextWord (32 :: (key ++ 32 :: rest)) = (key, 32 :: rest) := by
  have words : ∀ key ∈ numberKeys, (∀ byte ∈ key, isSpace byte = false) ∧ key ≠ [] := by decide +kernel
  obtain ⟨plain, some⟩ := words key number
  rw [nextWord_blank]
  exact ⟨nextWord_word (by decide +kernel) (by decide) _, nextWord_word plain some _⟩

/-- A line whose key is one of those with numbers. -/
theorem keyed_line (cameraName : Int → List UInt8) (telemetry : Telemetry)
    (number : key ∈ numberKeys) (rest : List UInt8) :
    applyIpcLine cameraName (ascii "mav" ++ 32 :: (key ++ 32 :: rest)) telemetry =
      (true, applyNumbers key (32 :: rest) telemetry) := by
  obtain ⟨start, next⟩ := keyed_words number rest
  rw [number_line cameraName _ telemetry (by rw [start]) (by rw [start, next]; exact number), start,
    next]

theorem openhd_line (plain : ∀ byte ∈ field, isSpace byte = false) (some : field ≠ [])
    (rest : List UInt8) (telemetry : Telemetry) :
    applyNumbers (ascii "openhd") (32 :: (field ++ 32 :: rest)) telemetry =
      if field = ascii "wifi_card" then applyWifiCard ⟨32 :: rest, false⟩ telemetry
      else if field = ascii "wifi_link" then applyWifiLink ⟨32 :: rest, false⟩ telemetry
      else if field = ascii "core" then applyCore ⟨32 :: rest, false⟩ telemetry
      else telemetry := by
  show applyOpenhd _ _ = _
  unfold applyOpenhd
  rw [nextWord_blank, nextWord_word plain some]

/-! ### The radio link -/

/-- What the applier makes of the numbers of the link. -/
def linked (p : List UInt8) (telemetry : Telemetry) : Telemetry :=
  { telemetry with
    frequencyMhz := if 0 < readLe 2 p 26 then readLe 2 p 26 else telemetry.frequencyMhz
    channelWidthMhz := if 0 < readLe 1 p 33 then readLe 1 p 33 else telemetry.channelWidthMhz
    mcsIndex := readLe 1 p 34
    linkBitrateMbit := atLeastZero (convertFloat binary32 (thousandths (readLe 2 p 28))).value
    rcQualityPercent := 100 - max 0 (min (readI8 p 32) 100)
    linkSnrAntenna1Db := readI8 p 38
    linkSnrAntenna2Db := readI8 p 39
    linkTxcTempC := readI8 p 40
    linkStatsValid := true }

theorem wifiLink_extracted (telemetry : Telemetry) (frequency width mcs : Nat)
    (rate quality first second temperature : Int)
    (small : frequency < 2 ^ 31 ∧ width < 2 ^ 31 ∧ mcs < 2 ^ 31 ∧ rate.natAbs ≤ 2 ^ 31)
    (percent : 0 ≤ quality ∧ quality ≤ 100) (firstSmall : -128 ≤ first ∧ first ≤ 127)
    (secondSmall : -128 ≤ second ∧ second ≤ 127)
    (temperatureSmall : -128 ≤ temperature ∧ temperature ≤ 127) :
    applyWifiLink ⟨32 :: (decimal frequency ++ 32 :: (decimal width ++ 32 :: (decimal mcs ++
      32 :: (thousandths rate ++ 32 :: (signedDecimal quality ++ 32 :: (signedDecimal first ++
      32 :: (signedDecimal second ++ 32 :: (signedDecimal temperature ++ [])))))))), false⟩
      telemetry =
    { telemetry with
      frequencyMhz := if 0 < frequency then frequency else telemetry.frequencyMhz
      channelWidthMhz := if 0 < width then width else telemetry.channelWidthMhz
      mcsIndex := mcs
      linkBitrateMbit := atLeastZero (convertFloat binary32 (thousandths rate)).value
      rcQualityPercent := quality
      linkSnrAntenna1Db := first
      linkSnrAntenna2Db := second
      linkTxcTempC := temperature
      linkStatsValid := true } := by
  obtain ⟨frequencySmall, widthSmall, mcsSmall, rateSmall⟩ := small
  have clamped : clampPercent quality = quality := by
    unfold clampPercent
    omega
  unfold applyWifiLink
  rw [intField_decimal _ _ frequencySmall separated_blank]
  dsimp only
  rw [intField_decimal _ _ widthSmall separated_blank]
  dsimp only
  rw [intField_decimal _ _ mcsSmall separated_blank]
  dsimp only
  rw [floatField_thousandths _ _ rateSmall separated_blank]
  dsimp only
  rw [intField_written _ _ (by omega) (by omega) separated_blank]
  dsimp only
  rw [intField_written _ _ (by omega) (by omega) separated_blank]
  dsimp only
  rw [intField_written _ _ (by omega) (by omega) separated_blank]
  dsimp only
  rw [intField_written _ _ (by omega) (by omega) separated_nil]
  dsimp only
  rw [clamped]
  simp only [Nat.cast_pos]

/-- The line of the link, cut at its blanks. -/
theorem wifiLink_text (p : List UInt8) :
    decodeWifiLink p = some (ascii "mav" ++ 32 :: (ascii "openhd" ++ 32 :: (ascii "wifi_link" ++
      32 :: (decimal (readLe 2 p 26) ++ 32 :: (decimal (readLe 1 p 33) ++
      32 :: (decimal (readLe 1 p 34) ++ 32 :: (thousandths (readLe 2 p 28) ++
      32 :: (signedDecimal (100 - max 0 (min (readI8 p 32) 100)) ++
      32 :: (signedDecimal (readI8 p 38) ++ 32 :: (signedDecimal (readI8 p 39) ++
      32 :: (signedDecimal (readI8 p 40) ++ []))))))))))) := by
  have start : ascii "mav openhd wifi_link " =
      ascii "mav" ++ 32 :: (ascii "openhd" ++ 32 :: (ascii "wifi_link" ++ [32])) := by decide
  unfold decodeWifiLink
  rw [start]
  simp only [List.append_assoc, List.cons_append, List.nil_append, List.append_nil]
  rfl

theorem wifi_link_applied (cameraName : Int → List UInt8) (sysid compid : UInt8) (p : List UInt8)
    (telemetry : Telemetry) :
    applyFrame cameraName ⟨sysid, compid, 1211, p⟩ telemetry = linked p telemetry := by
  have decoded : decodeFrame ⟨sysid, compid, 1211, p⟩ = _ :=
    (rfl : _ = decodeWifiLink p).trans (wifiLink_text p)
  have frequency := readLe_small 2 p 26
  have rate := readLe_small 2 p 28
  have width := readLe_small 1 p 33
  have mcs := readLe_small 1 p 34
  have unbroken : 10 ∉ fixedText 2 (divide binary32 (ofInt binary32 (readLe 2 p 28))
    (ofInt binary32 1000)) := fixedText_unbroken
  rw [applyFrame_line cameraName telemetry decoded]
  · rw [keyed_line cameraName telemetry (by decide), openhd_line (by decide +kernel) (by decide +kernel)]
    exact wifiLink_extracted telemetry _ _ _ _ _ _ _ _ (by omega) (by omega)
      (readI8_small p 38) (readI8_small p 39) (readI8_small p 40)
  · simp only [List.mem_append, List.mem_cons, decimal_unbroken, signedDecimal_unbroken, thousandths,
      unbroken, List.not_mem_nil]
    decide
  · simp

/-! ### The core -/

theorem core_text (p : List UInt8) :
    decodeCoreStatus p = some (ascii "mav" ++ 32 :: (ascii "openhd" ++ 32 :: (ascii "core" ++
      32 :: (signedDecimal (readI8 p 14) ++ 32 :: (decimal (readLe 1 p 18) ++ []))))) := by
  have start : ascii "mav openhd core " =
      ascii "mav" ++ 32 :: (ascii "openhd" ++ 32 :: (ascii "core" ++ [32])) := by decide
  unfold decodeCoreStatus
  rw [start]
  simp only [List.append_assoc, List.cons_append, List.nil_append, List.append_nil]
  rfl

theorem core_applied (cameraName : Int → List UInt8) (sysid compid : UInt8) (p : List UInt8)
    (telemetry : Telemetry) :
    applyFrame cameraName ⟨sysid, compid, 1227, p⟩ telemetry =
      { telemetry with
        linkTxcTempC := readI8 p 14
        platform := (platformName (readLe 1 p 18)).getD telemetry.platform } := by
  have decoded : decodeFrame ⟨sysid, compid, 1227, p⟩ = _ :=
    (rfl : _ = decodeCoreStatus p).trans (core_text p)
  have temperature := readI8_small p 14
  have platformType := readLe_small 1 p 18
  rw [applyFrame_line cameraName telemetry decoded]
  · rw [keyed_line cameraName telemetry (by decide), openhd_line (by decide +kernel) (by decide +kernel)]
    show applyCore _ telemetry = _
    unfold applyCore
    rw [intField_written _ _ (by omega) (by omega) separated_blank]
    dsimp only
    rw [intField_decimal _ _ (by omega) separated_nil]
  · simp only [List.mem_append, List.mem_cons, decimal_unbroken, signedDecimal_unbroken,
      List.not_mem_nil]
    decide
  · simp

/-! ### The remote control -/

/-- Numbers with a blank in front of each. -/
def listed (numbers : List Nat) : List UInt8 := numbers.flatMap fun number => 32 :: decimal number

theorem separated_listed (numbers : List Nat) : Separated (listed numbers) := by
  cases numbers with
  | nil => exact separated_nil
  | cons number rest => exact separated_blank

theorem intFields_listed (numbers : List Nat) (small : ∀ number ∈ numbers, number < 2 ^ 31)
    (fields : List Int) (same : fields.length = numbers.length) :
    (intFields fields ⟨listed numbers, false⟩).1 =
      numbers.map (Nat.cast : Nat → Int) := by
  induction numbers generalizing fields with
  | nil =>
    rw [List.length_eq_zero_iff.1 same]
    rfl
  | cons number rest ih =>
    obtain ⟨field, fields, rfl⟩ := List.exists_cons_of_length_eq_add_one same
    have later := ih (fun other member => small other (List.mem_cons_of_mem _ member)) fields
      (Nat.succ.inj same)
    have text : listed (number :: rest) = 32 :: (decimal number ++ listed rest) := rfl
    unfold intFields
    rw [text, intField_decimal field number (small number (List.mem_cons_self ..))
      (separated_listed rest)]
    dsimp only
    rw [later, List.map_cons]

theorem rc_applied (cameraName : Int → List UInt8) (sysid compid : UInt8) (p : List UInt8)
    (telemetry : Telemetry) :
    applyFrame cameraName ⟨sysid, compid, 65, p⟩ telemetry =
      { telemetry with
        rcChannels := ⟨[readLe 2 p 4, readLe 2 p 6, readLe 2 p 8, readLe 2 p 10], rfl⟩ } := by
  have decoded : decodeFrame ⟨sysid, compid, 65, p⟩ = some (ascii "mav" ++ 32 :: (ascii "rc" ++
      listed [readLe 2 p 4, readLe 2 p 6, readLe 2 p 8, readLe 2 p 10])) := by
    have start : ascii "mav rc" = ascii "mav" ++ 32 :: ascii "rc" := by decide
    show decodeRcChannels p = _
    unfold decodeRcChannels listed
    rw [start]
    simp only [List.flatMap_cons, List.flatMap_nil, List.append_assoc, List.cons_append,
      List.append_nil]
  have small : ∀ number ∈ [readLe 2 p 4, readLe 2 p 6, readLe 2 p 8, readLe 2 p 10],
      number < 2 ^ 31 := by
    have below (offset : Nat) : readLe 2 p offset < 2 ^ 31 :=
      Nat.lt_trans (readLe_small 2 p offset) (by decide)
    simp only [List.forall_mem_cons, below, true_and, List.not_mem_nil, false_implies,
      implies_true]
  rw [applyFrame_line cameraName telemetry decoded]
  · have applied : applyIpcLine cameraName (ascii "mav" ++ 32 :: (ascii "rc" ++
        listed [readLe 2 p 4, readLe 2 p 6, readLe 2 p 8, readLe 2 p 10])) telemetry =
        (true, applyRc ⟨listed [readLe 2 p 4, readLe 2 p 6, readLe 2 p 8, readLe 2 p 10], false⟩
          telemetry) := keyed_line cameraName telemetry (by decide) _
    rw [applied]
    have channels := intFields_listed _ small _ telemetry.rcChannels.2
    unfold applyRc
    simp only [channels]
    rfl
  · simp only [listed, List.flatMap_cons, List.flatMap_nil, List.mem_append, List.mem_cons,
      decimal_unbroken, List.not_mem_nil]
    decide
  · simp

/-- What a frame about the link, the core or the remote control carries is in the snapshot after
its lines, as the number it is; nothing else changes. -/
theorem numbers_survive (cameraName : Int → List UInt8) (sysid compid : UInt8) (p : List UInt8)
    (telemetry : Telemetry) :
    applyFrame cameraName ⟨sysid, compid, 1211, p⟩ telemetry = linked p telemetry ∧
    applyFrame cameraName ⟨sysid, compid, 1227, p⟩ telemetry =
      { telemetry with
        linkTxcTempC := readI8 p 14
        platform := (platformName (readLe 1 p 18)).getD telemetry.platform } ∧
    applyFrame cameraName ⟨sysid, compid, 65, p⟩ telemetry =
      { telemetry with
        rcChannels := ⟨[readLe 2 p 4, readLe 2 p 6, readLe 2 p 8, readLe 2 p 10], rfl⟩ } :=
  ⟨wifi_link_applied .., core_applied .., rc_applied ..⟩

end Glide.TelemetryHop
