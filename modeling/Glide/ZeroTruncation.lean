import Glide.MavlinkDecode

/-! A MAVLink 2 sender drops the zero bytes at the end of a payload. Reading
such a payload, a number that was dropped whole is zero as before, but a number
of which some bytes remain is read as zero as well. The decoded lines survive
exactly when no such number is printed as something else. -/
namespace Glide.ZeroTruncation
open Library AsciiText BinaryFloat MavlinkFrames MavlinkDecode

/-- The payload without its trailing zero bytes; the first byte is always sent. -/
def zeroTruncate : List UInt8 → List UInt8
  | [] => []
  | first :: rest => first :: rest.rdropWhile (· = 0)

theorem zeroTruncate_prefix (payload : List UInt8) :
    ∃ zeros, payload = zeroTruncate payload ++ List.replicate zeros 0 := by
  cases payload with
  | nil => exact ⟨0, rfl⟩
  | cons first rest =>
    have split := List.rdropWhile_append_rtakeWhile (p := (· = (0 : UInt8))) (l := rest)
    have zeros : rest.rtakeWhile (· = 0) = List.replicate (rest.rtakeWhile (· = 0)).length 0 := by
      rw [List.eq_replicate_iff]
      exact ⟨rfl, fun byte member => by simpa using List.mem_rtakeWhile_imp member⟩
    refine ⟨(rest.rtakeWhile (· = 0)).length, ?_⟩
    rw [← zeros, zeroTruncate, List.cons_append, split]

/-! ### Fields of a payload that lost its trailing zeros -/

theorem littleEndian_zeros (bytes : List UInt8) (count : Nat) :
    littleEndian (bytes ++ List.replicate count 0) = littleEndian bytes := by
  induction bytes with
  | nil =>
    induction count with
    | zero => rfl
    | succ count ih => simpa [List.replicate_succ, littleEndian] using ih
  | cons byte rest ih =>
    simp only [littleEndian, List.cons_append, List.foldr_cons] at ih ⊢
    rw [ih]

/-- The field is neither dropped whole nor kept whole. -/
def Cut (length offset width : Nat) : Prop := offset < length ∧ length < offset + width

instance : Decidable (Cut length offset width) := inferInstanceAs (Decidable (_ ∧ _))

theorem readLe_uncut (kept : List UInt8) (zeros : Nat) (uncut : ¬Cut kept.length offset width) :
    readLe width (kept ++ List.replicate zeros 0) offset = readLe width kept offset := by
  unfold Cut at uncut
  unfold readLe
  rcases Nat.lt_or_ge offset kept.length with inside | outside
  · have present : offset + width ≤ kept.length := by omega
    rw [if_pos (by rw [List.length_append]; omega), if_pos present,
      List.drop_append_of_le_length (by omega),
      List.take_append_of_le_length (by rw [List.length_drop]; omega)]
  · rw [List.drop_append, List.drop_eq_nil_of_le outside, List.nil_append]
    have zero (count : Nat) : littleEndian ((List.replicate count 0).take width) = 0 := by
      rw [List.take_replicate, ← List.nil_append (List.replicate _ _), littleEndian_zeros]
      rfl
    rw [List.drop_replicate, zero]
    split <;> split <;> simp [littleEndian]

/-- A cut field is read as zero; whole, it is small because its last byte is zero. -/
theorem readLe_cut (kept : List UInt8) (zeros : Nat) (cut : Cut kept.length offset width) :
    readLe width kept offset = 0 ∧
      readLe width (kept ++ List.replicate zeros 0) offset < 256 ^ (width - 1) := by
  obtain ⟨starts, ends⟩ := cut
  constructor
  · rw [readLe, if_neg (by omega)]
  · unfold readLe
    split
    · rw [List.drop_append_of_le_length (by omega), List.take_append,
        List.take_of_length_le (by rw [List.length_drop]; omega), List.take_replicate,
        littleEndian_zeros]
      refine Nat.lt_of_lt_of_le (littleEndian_lt _) (Nat.pow_le_pow_right (by decide) ?_)
      rw [List.length_drop]
      omega
    · exact Nat.pow_pos (by decide)

theorem readSigned_uncut (kept : List UInt8) (zeros : Nat) (uncut : ¬Cut kept.length offset width) :
    readSigned width (kept ++ List.replicate zeros 0) offset = readSigned width kept offset := by
  simp only [readSigned, readLe_uncut kept zeros uncut]

/-- A cut signed field is not negative: its sign was dropped with its last byte. -/
theorem readSigned_cut (kept : List UInt8) (zeros : Nat) (cut : Cut kept.length offset width) :
    readSigned width kept offset = 0 ∧
      readSigned width (kept ++ List.replicate zeros 0) offset =
        readLe width (kept ++ List.replicate zeros 0) offset := by
  obtain ⟨zero, small⟩ := readLe_cut kept zeros cut
  have positive : 0 < width := by
    obtain ⟨starts, ends⟩ := cut
    omega
  have half : 256 ^ (width - 1) ≤ 2 ^ (8 * width - 1) := by
    rw [show (256 : Nat) = 2 ^ 8 by rfl, ← pow_mul]
    exact Nat.pow_le_pow_right (by decide) (by omega)
  unfold readSigned
  rw [zero, if_pos (Nat.pow_pos (by decide)), if_pos (by omega)]
  exact ⟨rfl, rfl⟩

theorem cString_eq (payload : List UInt8) (offset length : Nat) :
    cString payload offset length =
      (((payload.drop offset).take length).takeWhile (· ≠ 0)).rdropWhile (· = 32) := by
  unfold cString
  split
  · rename_i outside
    rw [List.drop_eq_nil_of_le outside]
    simp
  · dsimp only
    rw [← List.length_drop, ← List.take_eq_take_min]

/-- A string ends before the dropped zeros. -/
theorem cString_kept (kept : List UInt8) (zeros offset length : Nat) :
    cString (kept ++ List.replicate zeros 0) offset length = cString kept offset length := by
  have ending (text : List UInt8) (count : Nat) :
      (text ++ List.replicate count 0).takeWhile (· ≠ 0) = text.takeWhile (· ≠ 0) := by
    rw [List.takeWhile_append]
    split
    · rename_i whole
      rw [List.takeWhile_replicate, if_neg (by decide), List.append_nil]
      exact ((List.takeWhile_prefix _).eq_of_length whole).symm
    · rfl
  rw [cString_eq, cString_eq, List.drop_append, List.take_append, List.drop_replicate,
    List.take_replicate, ending]

/-! ### What small numbers are printed as -/

private theorem ten_million : ofInt binary64 (10000000 : Nat) =
    .finite false 5368709120000000 (-29) := by decide

private theorem thousand : ofInt binary32 (1000 : Nat) = .finite false 16384000 (-14) := by decide

/-- No angle but zero is printed as zero. -/
theorem degrees_zero_iff (small : number < 2 ^ 24) :
    degrees (number : Nat) = degrees (0 : Nat) ↔ number < 1 := by
  have zero : degrees (0 : Nat) = fixedPoint 7 0 := by
    have prints := @zero_quotient_prints 7 binary64 5368709120000000 (-29) (by decide)
    rwa [← ten_million] at prints
  rw [zero]
  constructor
  · intro same
    by_contra large
    refine quotient_prints_nonzero (by decide) (by decide) (by decide) (by decide) ten_million
      (by norm_num) (by decide) (by omega) (by decide) ?_ same
    omega
  · intro none
    obtain rfl : number = 0 := by omega
    exact zero

/-- Up to five thousandths are printed as zero. -/
theorem thousandths_zero_iff (small : number < 2 ^ 24) :
    thousandths (number : Nat) = thousandths (0 : Nat) ↔ number < 6 := by
  have zeros : ∀ few : Fin 6, thousandths (few.val : Nat) = fixedPoint 2 0 := by decide
  have zero : thousandths (0 : Nat) = fixedPoint 2 0 := zeros 0
  rw [zero]
  constructor
  · intro same
    by_contra large
    refine quotient_prints_nonzero (by decide) (by decide) (by decide) (by decide) thousand
      (by norm_num) (by decide) (by omega) (by decide) ?_ same
    omega
  · intro few
    exact zeros ⟨number, few⟩

theorem decimal_zero_iff : decimal number = decimal 0 ↔ number < 1 :=
  ⟨fun same => by rw [decimal_injective same]; decide, fun none => by rw [Nat.lt_one_iff.mp none]⟩

/-- The value of a bit pattern below the second exponent. -/
theorem decodeBits_small (small : bits < 2 ^ 24) :
    decodeBits binary32 bits = .finite false bits (-149) := by
  have unsigned : bits / 2 ^ 31 % 2 = 0 := by omega
  simp only [decodeBits, binary32, Nat.reduceAdd, unsigned]
  rcases Nat.lt_or_ge bits (2 ^ 23) with subnormal | normal
  · have biased : bits / 2 ^ 23 % 2 ^ 8 = 0 := by omega
    have fraction : bits % 2 ^ 23 = bits := Nat.mod_eq_of_lt subnormal
    rw [biased, fraction]
    rfl
  · have biased : bits / 2 ^ 23 % 2 ^ 8 = 1 := by omega
    have fraction : bits % 2 ^ 23 + 2 ^ 23 = bits := by omega
    rw [biased, fraction]
    rfl

/-- A cut single-precision number is printed as zero. -/
theorem float_small (small : bits < 2 ^ 24) :
    fixedText 2 (decodeBits binary32 bits) = fixedText 2 (decodeBits binary32 0) := by
  have zero (number : Nat) (below : number < 2 ^ 24) :
      fixedText 2 (decodeBits binary32 number) = fixedPoint 2 0 := by
    rw [decodeBits_small below]
    apply fixedText_small
    have bound : (number : ℚ) < 2 ^ 24 := by exact_mod_cast below
    have step : (number : ℚ) * 2 ^ (-149 : Int) * 10 ^ 2 < 2 ^ 24 * 2 ^ (-149 : Int) * 10 ^ 2 := by
      gcongr
    refine step.trans ?_
    norm_num
  rw [zero bits small, zero 0 (by decide)]

/-- So is an angle computed from one. -/
theorem angle_small (small : bits < 2 ^ 24) :
    fixedText 2 (multiply binary32 (decodeBits binary32 bits) radToDeg) =
      fixedText 2 (multiply binary32 (decodeBits binary32 0) radToDeg) := by
  have constant : radToDeg = .finite false 15019745 (-18) := by decide
  have zero (number : Nat) (below : number < 2 ^ 24) :
      fixedText 2 (multiply binary32 (decodeBits binary32 number) radToDeg) = fixedPoint 2 0 := by
    rw [decodeBits_small below, constant]
    have bound : (number : ℚ) < 2 ^ 24 := by exact_mod_cast below
    have ratio : ((number * 15019745 * 2 ^ 0 : Nat) : ℚ) / (2 ^ 167 : Nat) < 1 / 2 ^ 119 := by
      rw [div_lt_iff₀ (by positivity)]
      push_cast
      norm_num
      linarith
    obtain ⟨mantissa, exponent, shape, close⟩ := roundRatio_near false (number * 15019745 * 2 ^ 0)
      (2 ^ 167) (by decide) (by positivity) (by decide : binary32.minExponent < binary32.maxExponent)
      (ratio.trans (by norm_num [binary32, FloatFormat.maxExponent, FloatFormat.minExponent]))
    change fixedText 2 (roundRatio binary32 false (number * 15019745 * 2 ^ 0) (2 ^ 167)) = _
    rw [shape]
    apply fixedText_small
    have high := (abs_le.mp close).2
    have least : (2 : ℚ) ^ (binary32.minExponent - 1) ≤ 1 / 2 ^ 119 := by
      norm_num [binary32, FloatFormat.minExponent]
    calc (mantissa : ℚ) * 2 ^ exponent * 10 ^ 2 ≤ (3 / 2 ^ 119) * 10 ^ 2 := by
          gcongr
          linarith
      _ < 1 / 2 := by norm_num
  rw [zero bits small, zero 0 (by decide)]

/-! ### Printed fields -/

/-- An unsigned field prints the same unless it is cut and would not print as zero. -/
theorem unsigned_piece {print : Nat → List UInt8} (kept : List UInt8) (zeros offset : Nat)
    (vanishes : ∀ number < 2 ^ 24, print number = print 0 ↔ number < threshold)
    (narrow : width ≤ 4) :
    print (readLe width kept offset) =
        print (readLe width (kept ++ List.replicate zeros 0) offset) ↔
      (Cut kept.length offset width →
        readLe width (kept ++ List.replicate zeros 0) offset < threshold) := by
  by_cases cut : Cut kept.length offset width
  · obtain ⟨zero, small⟩ := readLe_cut kept zeros cut
    have bound : 256 ^ (width - 1) ≤ 2 ^ 24 :=
      Nat.pow_le_pow_right (by decide : 0 < 256) (by omega : width - 1 ≤ 3)
    rw [zero, eq_comm, vanishes _ (by omega)]
    simp [cut]
  · rw [readLe_uncut kept zeros cut]
    simp [cut]

theorem signed_piece {print : Int → List UInt8} (kept : List UInt8) (zeros offset : Nat)
    (vanishes : ∀ number < 2 ^ 24, print (number : Nat) = print (0 : Nat) ↔ number < threshold)
    (narrow : width ≤ 4) :
    print (readSigned width kept offset) =
        print (readSigned width (kept ++ List.replicate zeros 0) offset) ↔
      (Cut kept.length offset width →
        readLe width (kept ++ List.replicate zeros 0) offset < threshold) := by
  by_cases cut : Cut kept.length offset width
  · obtain ⟨zero, whole⟩ := readSigned_cut kept zeros cut
    obtain ⟨_, small⟩ := readLe_cut kept zeros cut
    have bound : 256 ^ (width - 1) ≤ 2 ^ 24 :=
      Nat.pow_le_pow_right (by decide : 0 < 256) (by omega : width - 1 ≤ 3)
    have vanish := vanishes _ (show readLe width (kept ++ List.replicate zeros 0) offset < 2 ^ 24 by omega)
    rw [zero, whole, eq_comm]
    simpa [cut] using vanish
  · rw [readSigned_uncut kept zeros cut]
    simp [cut]

/-- A single byte is dropped whole or kept whole. -/
theorem not_cut_byte : ¬Cut length offset 1 := by
  unfold Cut
  omega

private theorem same_byte (kept : List UInt8) (zeros offset : Nat) :
    readLe 1 (kept ++ List.replicate zeros 0) offset = readLe 1 kept offset :=
  readLe_uncut kept zeros not_cut_byte

private theorem same_signed_byte (kept : List UInt8) (zeros offset : Nat) :
    readSigned 1 (kept ++ List.replicate zeros 0) offset = readSigned 1 kept offset :=
  readSigned_uncut kept zeros not_cut_byte

private theorem float_field (kept : List UInt8) (zeros offset : Nat) :
    fixedText 2 (readFloat (kept ++ List.replicate zeros 0) offset) =
      fixedText 2 (readFloat kept offset) := by
  unfold readFloat
  by_cases cut : Cut kept.length offset 4
  · obtain ⟨zero, small⟩ := readLe_cut kept zeros cut
    rw [zero, float_small small]
  · rw [readLe_uncut kept zeros cut]

private theorem angle_field (kept : List UInt8) (zeros offset : Nat) :
    angle (kept ++ List.replicate zeros 0) offset = angle kept offset := by
  unfold angle readFloat
  by_cases cut : Cut kept.length offset 4
  · obtain ⟨zero, small⟩ := readLe_cut kept zeros cut
    rw [zero, angle_small small]
  · rw [readLe_uncut kept zeros cut]

/-! ### Messages -/

theorem sysStatus_iff (kept : List UInt8) (zeros : Nat) :
    decodeSysStatus kept = decodeSysStatus (kept ++ List.replicate zeros 0) ↔
      (Cut kept.length 14 2 → readLe 2 (kept ++ List.replicate zeros 0) 14 < 6) := by
  have voltage := @unsigned_piece 6 2 (fun number => thousandths (number : Nat)) kept zeros 14
    (fun _ small => thousandths_zero_iff small) (by decide)
  rw [← voltage]
  unfold decodeSysStatus
  rw [same_signed_byte]
  by_cases cut : Cut kept.length 14 2
  · -- the battery byte lies behind the cut, so both lines are printed
    have battery : readSigned 1 kept 30 = 0 := by
      unfold Cut at cut
      simp [readSigned, readLe, show ¬31 ≤ kept.length by omega]
    simp [battery]
  · rw [readLe_uncut kept zeros cut]
    simp

/-- Of the three numbers of a position at most one is cut. -/
theorem position_iff (kept : List UInt8) (zeros first altitude : Nat) (apart : first + 8 ≤ altitude) :
    positionText (readSigned 4 kept first) (readSigned 4 kept (first + 4))
        (readSigned 4 kept altitude) =
      positionText (readSigned 4 (kept ++ List.replicate zeros 0) first)
        (readSigned 4 (kept ++ List.replicate zeros 0) (first + 4))
        (readSigned 4 (kept ++ List.replicate zeros 0) altitude) ↔
      (Cut kept.length first 4 → readLe 4 (kept ++ List.replicate zeros 0) first < 1) ∧
      (Cut kept.length (first + 4) 4 →
        readLe 4 (kept ++ List.replicate zeros 0) (first + 4) < 1) ∧
      (Cut kept.length altitude 4 → readLe 4 (kept ++ List.replicate zeros 0) altitude < 6) := by
  have angles (offset : Nat) := @signed_piece 1 4 degrees kept zeros offset
    (fun _ small => degrees_zero_iff small) (by decide)
  have height := @signed_piece 6 4 thousandths kept zeros altitude
    (fun _ small => thousandths_zero_iff small) (by decide)
  rw [← angles first, ← angles (first + 4), ← height]
  unfold positionText
  by_cases lat : Cut kept.length first 4
  · have lon : ¬Cut kept.length (first + 4) 4 := by unfold Cut at *; omega
    have alt : ¬Cut kept.length altitude 4 := by unfold Cut at *; omega
    rw [readSigned_uncut kept zeros lon, readSigned_uncut kept zeros alt]
    simp
  · rw [readSigned_uncut kept zeros lat]
    by_cases lon : Cut kept.length (first + 4) 4
    · have alt : ¬Cut kept.length altitude 4 := by unfold Cut at *; omega
      rw [readSigned_uncut kept zeros alt]
      simp
    · rw [readSigned_uncut kept zeros lon]
      simp

/-- Of the channels at most one is cut. -/
theorem rcChannels_iff (kept : List UInt8) (zeros : Nat) :
    decodeRcChannels kept = decodeRcChannels (kept ++ List.replicate zeros 0) ↔
      ∀ offset ∈ [4, 6, 8, 10], Cut kept.length offset 2 →
        readLe 2 (kept ++ List.replicate zeros 0) offset < 1 := by
  have channel (offset : Nat) := @unsigned_piece 1 2 decimal kept zeros offset
    (fun _ _ => decimal_zero_iff) (by decide)
  simp only [List.forall_mem_cons, List.not_mem_nil, false_imp_iff, implies_true, and_true]
  rw [← channel 4, ← channel 6, ← channel 8, ← channel 10]
  have others (cutAt other : Nat) (cut : Cut kept.length cutAt 2)
      (apart : cutAt + 2 ≤ other ∨ other + 2 ≤ cutAt) :
      readLe 2 (kept ++ List.replicate zeros 0) other = readLe 2 kept other := by
    apply readLe_uncut
    unfold Cut at *
    omega
  simp only [decodeRcChannels, List.flatMap_cons, List.flatMap_nil]
  by_cases first : Cut kept.length 4 2
  · rw [others 4 6 first (by omega), others 4 8 first (by omega), others 4 10 first (by omega)]
    simp
  · rw [readLe_uncut kept zeros first]
    by_cases second : Cut kept.length 6 2
    · rw [others 6 8 second (by omega), others 6 10 second (by omega)]
      simp
    · rw [readLe_uncut kept zeros second]
      by_cases third : Cut kept.length 8 2
      · rw [others 8 10 third (by omega)]
        simp
      · rw [readLe_uncut kept zeros third]
        simp

theorem wifiLink_iff (kept : List UInt8) (zeros : Nat) :
    decodeWifiLink kept = decodeWifiLink (kept ++ List.replicate zeros 0) ↔
      (Cut kept.length 26 2 → readLe 2 (kept ++ List.replicate zeros 0) 26 < 1) ∧
      (Cut kept.length 28 2 → readLe 2 (kept ++ List.replicate zeros 0) 28 < 6) := by
  have frequency := @unsigned_piece 1 2 decimal kept zeros 26
    (fun _ _ => decimal_zero_iff) (by decide)
  have rate := @unsigned_piece 6 2 (fun number => thousandths (number : Nat)) kept zeros 28
    (fun _ small => thousandths_zero_iff small) (by decide)
  rw [← frequency, ← rate]
  simp only [decodeWifiLink, readI8, same_byte, same_signed_byte, wifiLinkFrequencyMhzOffset,
    wifiLinkRateKbitsOffset]
  by_cases cut : Cut kept.length 26 2
  · have other : ¬Cut kept.length 28 2 := by unfold Cut at *; omega
    rw [readLe_uncut kept zeros other]
    simp
  · rw [readLe_uncut kept zeros cut]
    simp

theorem paramValue_same (kept : List UInt8) (zeros : Nat) :
    decodeParamValue (kept ++ List.replicate zeros 0) = decodeParamValue kept := by
  simp only [decodeParamValue, cString_kept, float_field]

/-- A cut value means a dropped type, and then the value is text. -/
theorem paramExtValue_same (kept : List UInt8) (zeros : Nat) :
    decodeParamExtValue (kept ++ List.replicate zeros 0) = decodeParamExtValue kept := by
  have value : paramExtValue (kept ++ List.replicate zeros 0) = paramExtValue kept := by
    unfold paramExtValue
    rw [same_byte]
    rcases Nat.lt_or_ge 148 kept.length with typed | untyped
    · have whole (width : Nat) (narrow : width ≤ 8) : ¬Cut kept.length 20 width := by
        unfold Cut
        omega
      simp only [readFloat, readLe_uncut kept zeros (whole _ (by decide : 1 ≤ 8)),
        readLe_uncut kept zeros (whole _ (by decide : 2 ≤ 8)),
        readLe_uncut kept zeros (whole _ (by decide : 4 ≤ 8)),
        readLe_uncut kept zeros (whole _ (by decide : 8 ≤ 8)),
        readSigned_uncut kept zeros (whole _ (by decide : 1 ≤ 8)),
        readSigned_uncut kept zeros (whole _ (by decide : 2 ≤ 8)),
        readSigned_uncut kept zeros (whole _ (by decide : 4 ≤ 8)),
        readSigned_uncut kept zeros (whole _ (by decide : 8 ≤ 8)), cString_kept]
    · have text : readLe 1 kept 148 = 0 := by
        rw [readLe, if_neg (by omega)]
      simp only [text, cString_kept]
  simp only [decodeParamExtValue, cString_kept, value]

/-- The longer limit for extended payloads never shows more of the text. -/
theorem statustext_same (kept : List UInt8) (zeros : Nat) :
    decodeStatustext (kept ++ List.replicate zeros 0) = decodeStatustext kept := by
  have text : cString (kept ++ List.replicate zeros 0) 1
        (if (kept ++ List.replicate zeros 0).length > 51 then 254 else 50) =
      cString kept 1 (if kept.length > 51 then 254 else 50) := by
    rw [cString_kept]
    rcases Nat.lt_or_ge 51 kept.length with long | short
    · rw [if_pos (by rw [List.length_append]; omega), if_pos long]
    · rw [if_neg (by omega : ¬kept.length > 51), cString_eq, cString_eq,
        List.take_of_length_le (by rw [List.length_drop]; split <;> omega),
        List.take_of_length_le (by rw [List.length_drop]; omega)]
  simp only [decodeStatustext, same_byte, text]

/-! ### Every message -/

/-- A printed number of several bytes, and the least value that is not printed as zero. -/
structure NumberField where
  offset : Nat
  width : Nat
  threshold : Nat
  deriving DecidableEq, Repr

/-- The numbers of each message whose cut shows: integers of more than a byte.
Single-precision numbers print as zero when they are cut, and in PARAM_EXT_VALUE
the type is dropped before the value is. -/
def numberFields : Nat → List NumberField
  | 1 => [⟨14, 2, 6⟩]
  | 24 => [⟨8, 4, 1⟩, ⟨12, 4, 1⟩, ⟨16, 4, 6⟩]
  | 33 => [⟨4, 4, 1⟩, ⟨8, 4, 1⟩, ⟨16, 4, 6⟩]
  | 65 => [⟨4, 2, 1⟩, ⟨6, 2, 1⟩, ⟨8, 2, 1⟩, ⟨10, 2, 1⟩]
  | 1211 => [⟨26, 2, 1⟩, ⟨28, 2, 6⟩]
  | _ => []

/-- No number that would be printed as something else than zero is cut. -/
def NumbersSurvive (frame : Frame) : Prop :=
  ∀ field ∈ numberFields frame.msgid.toNat,
    Cut (zeroTruncate frame.payload).length field.offset field.width →
      readLe field.width frame.payload field.offset < field.threshold

/-- For every message and every payload, dropping the trailing zeros leaves the
decoded lines as they are, if and only if no printed number is cut. -/
theorem truncation_keeps_lines_iff (frame : Frame) :
    decodeFrame { frame with payload := zeroTruncate frame.payload } = decodeFrame frame ↔
      NumbersSurvive frame := by
  obtain ⟨zeros, whole⟩ := zeroTruncate_prefix frame.payload
  obtain ⟨sysid, compid, msgid, payload⟩ := frame
  simp only [NumbersSurvive] at *
  generalize zeroTruncate payload = kept at whole ⊢
  subst whole
  unfold decodeFrame numberFields
  dsimp only
  generalize msgid.toNat = id
  split
  case h_1 => simp [decodeHeartbeat, fromFlightController, same_byte]
  case h_2 => simpa using sysStatus_iff kept zeros
  case h_3 => simp [paramValue_same]
  case h_4 =>
    have position := position_iff kept zeros 8 16 (by decide)
    simp only [decodeGpsRawInt, same_byte, Option.some.injEq, List.append_left_inj,
      List.forall_mem_cons, List.not_mem_nil, false_imp_iff, implies_true, and_true]
    exact position
  case h_5 => simp [decodeAttitude, angle_field]
  case h_6 =>
    have position := position_iff kept zeros 4 16 (by decide)
    simp only [decodeGlobalPositionInt, Option.some.injEq, List.forall_mem_cons,
      List.not_mem_nil, false_imp_iff, implies_true, and_true]
    exact position
  case h_7 => simpa using rcChannels_iff kept zeros
  case h_8 => simp [decodeVfrHud, float_field]
  case h_9 => simp [statustext_same]
  case h_10 => simp [paramExtValue_same]
  case h_11 => simpa using wifiLink_iff kept zeros
  case h_12 => simp [decodeWifiCard, readI8, same_byte, same_signed_byte]
  case h_13 => simp [decodeCoreStatus, readI8, same_byte, same_signed_byte]
  case h_14 =>
    rw [eq_self_iff_true, true_iff]
    split <;> simp_all

/-- A GPS_RAW_INT without a fix at an altitude of 200 mm; all later bytes are zero. -/
def lowAltitude : Frame :=
  ⟨1, 1, 24, List.replicate 16 0 ++ 200 :: List.replicate 13 0⟩

theorem truncation_loses_altitude :
    decodeFrame { lowAltitude with payload := zeroTruncate lowAltitude.payload } ≠
        decodeFrame lowAltitude ∧
      decodeFrame lowAltitude =
        some (ascii "mav position 0.0000000 0.0000000 0.20\nmav gps 0") ∧
      decodeFrame { lowAltitude with payload := zeroTruncate lowAltitude.payload } =
        some (ascii "mav position 0.0000000 0.0000000 0.00\nmav gps 0") := by
  decide +kernel

end Glide.ZeroTruncation
