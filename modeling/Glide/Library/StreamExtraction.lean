import Glide.Library.NumberText

/-! Numbers extracted from an input stream one after another, as the GNU library does it in
the C locale. A number that cannot be taken fails the stream, and nothing is extracted from a
failed stream; only where no text is left, the variable keeps its value. -/
namespace Glide.Library.StreamExtraction
open AsciiText NumberText BinaryFloat

structure InputStream where
  text : List UInt8
  failed : Bool := false
  deriving DecidableEq

/-- What a text starts with: the value that is stored, whether the stream fails, and the
text behind. -/
structure Conversion (α : Type) where
  value : α
  failed : Bool
  rest : List UInt8

/-- `stream >> field`. -/
def extract (convert : List UInt8 → Conversion α) (field : α) (stream : InputStream) :
    α × InputStream :=
  let text := stream.text.dropWhile isSpace
  if stream.failed ∨ text = [] then (field, ⟨[], true⟩)
  else ((convert text).value, ⟨(convert text).rest, (convert text).failed⟩)

/-- An `int`. A number outside the type is replaced by the nearest one in it. -/
def convertInt (text : List UInt8) : Conversion Int :=
  let (negative, unsigned) := takeSign text
  let digits := unsigned.takeWhile isDigit
  let rest := unsigned.dropWhile isDigit
  let number : Int := if negative then -decimalValue digits else decimalValue digits
  if digits = [] then ⟨0, true, rest⟩
  else if number < -2 ^ 31 then ⟨-2 ^ 31, true, rest⟩
  else if 2 ^ 31 ≤ number then ⟨2 ^ 31 - 1, true, rest⟩
  else ⟨number, false, rest⟩

/-- An `unsigned short`. A negative number that fits without its sign is taken modulo 65536. -/
def convertUnsignedShort (text : List UInt8) : Conversion Nat :=
  let (negative, unsigned) := takeSign text
  let digits := unsigned.takeWhile isDigit
  let rest := unsigned.dropWhile isDigit
  if digits = [] then ⟨0, true, rest⟩
  else if 65535 < decimalValue digits then ⟨65535, true, rest⟩
  else if negative then ⟨(65536 - decimalValue digits) % 65536, false, rest⟩
  else ⟨decimalValue digits, false, rest⟩

/-- `stream >> word` for a string that is empty before. -/
def extractWord (stream : InputStream) : List UInt8 × InputStream :=
  let (word, rest) := nextWord stream.text
  if stream.failed ∨ word = [] then ([], ⟨[], true⟩) else (word, ⟨rest, false⟩)

/-- The number that is stored where there is none. -/
def zero (format : FloatFormat) : FloatValue := .finite false 0 format.minExponent

/-- A rounded value; one outside the format is replaced by the nearest finite one. -/
def stored (format : FloatFormat) (rest : List UInt8) : FloatValue → Conversion FloatValue
  | .infinite negative =>
    ⟨.finite negative (2 ^ (format.fractionBits + 1) - 1) format.maxExponent, true, rest⟩
  | value => ⟨value, false, rest⟩

def written (format : FloatFormat) (negative : Bool) (digits : List UInt8) (exponent : Int)
    (rest : List UInt8) : Conversion FloatValue :=
  stored format rest (roundRatio format negative (decimalValue digits * 10 ^ exponent.toNat)
    (10 ^ (-exponent).toNat))

/-- A `float` or a `double`. Letters are taken for the mark of an exponent only, which then
has to have digits. -/
def convertFloat (format : FloatFormat) (text : List UInt8) : Conversion FloatValue :=
  let (negative, unsigned) := takeSign text
  let (whole, fraction, rest) := takeMantissa isDigit unsigned
  if whole = [] ∧ fraction = [] then ⟨zero format, true, rest⟩
  else
    match rest with
    | [] => written format negative (whole ++ fraction) (-fraction.length) []
    | mark :: marked =>
      if lowerCase mark = 101 then
        let (below, unsigned) := takeSign marked
        let digits := unsigned.takeWhile isDigit
        let rest := unsigned.dropWhile isDigit
        let exponent : Int := if below then -decimalValue digits else decimalValue digits
        if digits = [] then ⟨zero format, true, rest⟩
        else written format negative (whole ++ fraction) (exponent - fraction.length) rest
      else written format negative (whole ++ fraction) (-fraction.length) rest

/-! ### Streams -/

theorem extract_failed (convert : List UInt8 → Conversion α) (field : α) (text : List UInt8) :
    extract convert field ⟨text, true⟩ = (field, ⟨[], true⟩) := by
  unfold extract
  exact if_pos (.inl rfl)

theorem dropWhile_blank (plain : ∀ byte ∈ text.head?, isSpace byte = false) (some : text ≠ []) :
    (32 :: text).dropWhile isSpace = text := by
  obtain ⟨first, rest, rfl⟩ := List.exists_cons_of_ne_nil some
  rw [List.dropWhile_cons_of_pos (by decide), List.dropWhile_cons_of_neg]
  rw [plain first rfl]
  exact Bool.false_ne_true

/-- Behind a blank, what is not blank is converted. -/
theorem extract_blank (convert : List UInt8 → Conversion α) (field : α)
    (plain : ∀ byte ∈ text.head?, isSpace byte = false) (some : text ≠ []) :
    extract convert field ⟨32 :: text, false⟩ =
      ((convert text).value, ⟨(convert text).rest, (convert text).failed⟩) := by
  unfold extract
  dsimp only
  rw [dropWhile_blank plain some, if_neg (by simp [some])]

/-! ### Numbers that were written -/

/-- What follows a number: nothing, or a blank. -/
def Separated (rest : List UInt8) : Prop := ∀ byte ∈ rest.head?, byte = 32

theorem separated_nil : Separated [] := by
  intro byte none
  cases none

theorem separated_blank : Separated (32 :: rest) := by
  intro byte first
  exact (Option.some.inj first).symm

theorem digits_split (digits : ∀ byte ∈ number, isDigit byte) (separated : Separated rest) :
    (number ++ rest).takeWhile isDigit = number ∧ (number ++ rest).dropWhile isDigit = rest := by
  have stop : rest.takeWhile isDigit = [] ∧ rest.dropWhile isDigit = rest := by
    cases rest with
    | nil => exact ⟨rfl, rfl⟩
    | cons byte later =>
      obtain rfl := separated byte rfl
      exact ⟨List.takeWhile_cons_of_neg (by decide), List.dropWhile_cons_of_neg (by decide)⟩
  rw [List.takeWhile_append_of_pos digits, List.dropWhile_append_of_pos digits, stop.1, stop.2,
    List.append_nil]
  exact ⟨rfl, rfl⟩

theorem digit_plain (digit : isDigit byte) : isSpace byte = false ∧ byte ≠ 45 ∧ byte ≠ 43 := by
  have all : ∀ index : Fin 256, isDigit (UInt8.ofFin index) = true →
      isSpace (UInt8.ofFin index) = false ∧ UInt8.ofFin index ≠ 45 ∧ UInt8.ofFin index ≠ 43 := by
    decide +kernel
  exact all byte.toFin digit

/-- A text that starts with a digit has no sign. -/
theorem takeSign_digits (digit : isDigit first) :
    takeSign (first :: rest) = (false, first :: rest) := by
  obtain ⟨_, minus, plus⟩ := digit_plain digit
  unfold takeSign
  split
  · next same => exact absurd (List.cons.inj same).1 minus
  · next same => exact absurd (List.cons.inj same).1 plus
  · rfl

theorem decimal_start (number : Nat) :
    ∃ first later, decimal number = first :: later ∧ isDigit first := by
  obtain ⟨first, later, shape⟩ := List.exists_cons_of_ne_nil (@decimal_ne_nil number)
  exact ⟨first, later, shape, decimal_digits first (by rw [shape]; exact List.mem_cons_self ..)⟩

theorem takeSign_decimal (number : Nat) (rest : List UInt8) :
    takeSign (decimal number ++ rest) = (false, decimal number ++ rest) := by
  obtain ⟨first, later, shape, digit⟩ := decimal_start number
  rw [shape, List.cons_append]
  exact takeSign_digits digit

theorem takeSign_signed (number : Int) (rest : List UInt8) :
    takeSign (signedDecimal number ++ rest) = (decide (number < 0), decimal number.natAbs ++ rest) := by
  unfold signedDecimal
  by_cases negative : number < 0
  · rw [if_pos negative, decide_eq_true negative]
    rfl
  · rw [if_neg negative, decide_eq_false negative]
    exact takeSign_decimal _ _

/-- An `int` that was written is read back. -/
theorem convertInt_written (number : Int) (least : -2 ^ 31 ≤ number) (most : number < 2 ^ 31)
    (separated : Separated rest) :
    convertInt (signedDecimal number ++ rest) = ⟨number, false, rest⟩ := by
  obtain ⟨digits, behind⟩ := digits_split (@decimal_digits number.natAbs) separated
  have value : (if decide (number < 0) = true then -(decimalValue (decimal number.natAbs) : Int)
      else decimalValue (decimal number.natAbs)) = number := by
    rw [decimalValue_decimal]
    by_cases negative : number < 0
    · rw [decide_eq_true negative, if_pos rfl]
      omega
    · rw [decide_eq_false negative, if_neg Bool.false_ne_true]
      omega
  unfold convertInt
  rw [takeSign_signed]
  dsimp only
  rw [digits, behind, if_neg decimal_ne_nil, value, if_neg (by omega), if_neg (by omega)]

theorem signed_plain (number : Int) (rest : List UInt8) : signedDecimal number ≠ [] ∧
    ∀ byte ∈ (signedDecimal number ++ rest).head?, isSpace byte = false := by
  unfold signedDecimal
  obtain ⟨first, later, shape, digit⟩ := decimal_start number.natAbs
  split
  · exact ⟨List.cons_ne_nil _ _, fun byte head => by
      cases head
      decide⟩
  · rw [shape]
    exact ⟨List.cons_ne_nil _ _, fun byte head => by
      cases head
      exact (digit_plain digit).1⟩

theorem extract_int (field number : Int) (least : -2 ^ 31 ≤ number) (most : number < 2 ^ 31)
    (separated : Separated rest) :
    extract convertInt field ⟨32 :: (signedDecimal number ++ rest), false⟩ =
      (number, ⟨rest, false⟩) := by
  obtain ⟨some, plain⟩ := signed_plain number rest
  rw [extract_blank _ _ plain (List.append_ne_nil_of_left_ne_nil some _),
    convertInt_written number least most separated]

/-! ### Fixed-point numbers that were written -/

theorem decimalValue_append (front back : List UInt8) :
    decimalValue (front ++ back) = decimalValue front * 10 ^ back.length + decimalValue back := by
  have folded (start : Nat) : back.foldl (fun value digit => 10 * value + (digit.toNat - 48)) start =
      start * 10 ^ back.length + decimalValue back := by
    unfold decimalValue
    induction back generalizing start with
    | nil => simp
    | cons digit rest ih =>
      rw [List.foldl_cons, List.foldl_cons, ih, ih (10 * 0 + _), List.length_cons, pow_succ]
      ring
  rw [decimalValue, List.foldl_append, folded]
  rfl

theorem length_fractionDigits (width number : Nat) : (fractionDigits width number).length = width := by
  induction width generalizing number with
  | zero => rfl
  | succ width ih => simp [fractionDigits, ih]

theorem decimalValue_fractionDigits (width number : Nat) :
    decimalValue (fractionDigits width number) = number % 10 ^ width := by
  induction width generalizing number with
  | zero => simp [fractionDigits, decimalValue, Nat.mod_one]
  | succ width ih =>
    have last : decimalValue [UInt8.ofNat (48 + number % 10)] = number % 10 := by
      have small : number % 10 < 10 := Nat.mod_lt _ (by decide)
      simp only [decimalValue, List.foldl_cons, List.foldl_nil, UInt8.toNat_ofNat']
      omega
    rw [fractionDigits, decimalValue_append, ih, last, List.length_singleton, pow_one, pow_succ,
      Nat.mul_comm (10 ^ width), Nat.mod_mul]
    ring

/-- The digits around the point. -/
theorem takeMantissa_fixedPoint (places number : Nat) (separated : Separated rest) :
    takeMantissa isDigit (fixedPoint places number ++ rest) =
      (decimal (number / 10 ^ places), fractionDigits places (number % 10 ^ places), rest) := by
  have point : isDigit 46 = false := by decide
  have shape : fixedPoint places number ++ rest = decimal (number / 10 ^ places) ++
      (46 :: (fractionDigits places (number % 10 ^ places) ++ rest)) := by
    rw [fixedPoint, List.append_assoc, List.cons_append]
  obtain ⟨digits, behind⟩ := digits_split
    (@fractionDigits_digits places (number % 10 ^ places)) separated
  rw [shape]
  unfold takeMantissa
  rw [List.takeWhile_append_of_pos decimal_digits, List.dropWhile_append_of_pos decimal_digits,
    List.takeWhile_cons_of_neg (by simp [point]), List.dropWhile_cons_of_neg (by simp [point]),
    List.append_nil]
  simp only [digits, behind, decimal_ne_nil, false_and, if_false]

/-- A fixed-point number is taken whole. -/
theorem convertFloat_unsigned (format : FloatFormat) (negative : Bool) (places number : Nat)
    (signed : takeSign text = (negative, fixedPoint places number ++ rest))
    (separated : Separated rest) :
    convertFloat format text =
      stored format rest (roundRatio format negative number (10 ^ places)) := by
  have value : decimalValue (decimal (number / 10 ^ places) ++
      fractionDigits places (number % 10 ^ places)) = number := by
    rw [decimalValue_append, decimalValue_decimal, decimalValue_fractionDigits,
      length_fractionDigits, Nat.mod_mod, Nat.mul_comm, Nat.div_add_mod]
  have made : written format negative (decimal (number / 10 ^ places) ++
      fractionDigits places (number % 10 ^ places))
      (-(fractionDigits places (number % 10 ^ places)).length) rest =
      stored format rest (roundRatio format negative number (10 ^ places)) := by
    unfold written
    rw [value, length_fractionDigits, neg_neg, Int.toNat_natCast,
      Int.toNat_of_nonpos (by omega), pow_zero, Nat.mul_one]
  unfold convertFloat
  rw [signed]
  dsimp only
  rw [takeMantissa_fixedPoint places number separated]
  dsimp only
  rw [if_neg (fun none => decimal_ne_nil none.1)]
  cases rest with
  | nil => exact made
  | cons byte later =>
    obtain rfl := separated byte rfl
    exact made

/-- A value whose text a format can hold. -/
def Held (format : FloatFormat) (value : FloatValue) : Prop :=
  ∃ negative mantissa exponent, value = .finite negative mantissa exponent ∧
    (mantissa : ℚ) * 2 ^ exponent + 1 < 2 ^ (format.maxExponent + format.fractionBits)

theorem takeSign_fixedText (places : Nat) (negative : Bool) (mantissa : Nat) (exponent : Int)
    (rest : List UInt8) :
    takeSign (fixedText places (.finite negative mantissa exponent) ++ rest) =
      (negative, fixedPoint places (nearestEven (mantissa * 10 ^ places * 2 ^ exponent.toNat)
        (2 ^ (-exponent).toNat)) ++ rest) := by
  cases negative with
  | true => rfl
  | false =>
    show takeSign (fixedPoint _ _ ++ rest) = _
    rw [fixedPoint, List.append_assoc, takeSign_decimal]

theorem Held.fits {format : FloatFormat} (held : Held format value) : Fits format value := by
  obtain ⟨negative, mantissa, exponent, rfl, inRange⟩ := held
  refine ⟨negative, mantissa, exponent, rfl, ?_⟩
  have unit : (1 : ℚ) ≤ 2 ^ format.fractionBits := one_le_pow₀ (by norm_num)
  rw [zpow_add₀ (by norm_num), zpow_natCast] at inRange
  calc (mantissa : ℚ) * 2 ^ exponent ≤ 2 ^ format.fractionBits * 2 ^ format.maxExponent := by
        linarith
    _ ≤ (2 ^ (format.fractionBits + 1) - 1) * 2 ^ format.maxExponent := by
      gcongr
      rw [pow_succ]
      linarith

theorem fixedText_plain (places : Nat) (value : FloatValue) (rest : List UInt8) :
    ∀ byte ∈ (fixedText places value ++ rest).head?, isSpace byte = false := by
  intro byte head
  cases value with
  | nan negative =>
    cases negative with
    | true =>
      cases head
      decide
    | false =>
      cases head
      decide
  | infinite negative =>
    cases negative with
    | true =>
      cases head
      decide
    | false =>
      cases head
      decide
  | finite negative mantissa exponent =>
    cases negative with
    | true =>
      cases head
      decide
    | false =>
      rw [fixedText, if_neg Bool.false_ne_true, List.nil_append, fixedPoint,
        List.append_assoc] at head
      obtain ⟨first, later, shape, digit⟩ := decimal_start (nearestEven
        (mantissa * 10 ^ places * 2 ^ exponent.toNat) (2 ^ (-exponent).toNat) / 10 ^ places)
      rw [shape] at head
      cases head
      exact (digit_plain digit).1

/-- What is behind a finite number that was written is left over. -/
theorem convertFloat_written {format : FloatFormat} (ordered : format.minExponent ≤ format.maxExponent)
    (large : 0 < format.maxExponent) (places : Nat) (value : FloatValue) (fits : Fits format value)
    (separated : Separated rest) :
    convertFloat format (fixedText places value ++ rest) =
      ⟨(convertFloat format (fixedText places value)).value, false, rest⟩ := by
  obtain ⟨negative, mantissa, exponent, rfl, inRange⟩ := fits
  obtain ⟨result, resultExponent, shape⟩ := printed_finite negative places ordered large inRange
  have alone := takeSign_fixedText places negative mantissa exponent []
  rw [List.append_nil] at alone
  rw [convertFloat_unsigned format negative places _ (takeSign_fixedText ..) separated,
    convertFloat_unsigned format negative places _ alone separated_nil, shape]
  rfl

/-- Letters are no number. -/
theorem convertFloat_unwritten (format : FloatFormat) (places : Nat) (value : FloatValue)
    (unwritten : value.isFinite = false) (rest : List UInt8) :
    (convertFloat format (fixedText places value ++ rest)).failed = true := by
  cases value with
  | nan negative =>
    cases negative with
    | true => rfl
    | false => rfl
  | infinite negative =>
    cases negative with
    | true => rfl
    | false => rfl
  | finite negative mantissa exponent => cases unwritten

/-- A number with decimals that was written is extracted, and the stream goes on behind it. -/
theorem extract_fixedText {format : FloatFormat} (ordered : format.minExponent ≤ format.maxExponent)
    (large : 0 < format.maxExponent) (places : Nat) (field value : FloatValue)
    (fits : Fits format value) (separated : Separated rest) :
    extract (convertFloat format) field ⟨32 :: (fixedText places value ++ rest), false⟩ =
      ((convertFloat format (fixedText places value)).value, ⟨rest, false⟩) := by
  rw [extract_blank _ _ (fixedText_plain places value rest)
    (List.append_ne_nil_of_left_ne_nil fixedText_ne_nil _),
    convertFloat_written ordered large places value fits separated]

/-! ### Several numbers -/

/-- The number that a text has behind its blanks, and what is left over. -/
def numberIn (convert : List UInt8 → Conversion α) (text : List UInt8) : Option (α × List UInt8) :=
  let start := text.dropWhile isSpace
  if start = [] ∨ (convert start).failed then none
  else some ((convert start).value, (convert start).rest)

/-- The kinds of variables. -/
inductive Kind where
  | single
  | double
  | integer
  deriving DecidableEq

abbrev Kind.Value : Kind → Type
  | .single => FloatValue
  | .double => FloatValue
  | .integer => Int

def Kind.convert : (kind : Kind) → List UInt8 → Conversion kind.Value
  | .single => convertFloat binary32
  | .double => convertFloat binary64
  | .integer => convertInt

/-- A value of each kind. -/
abbrev Values : List Kind → Type
  | [] => Unit
  | kind :: kinds => kind.Value × Values kinds

/-- Variables in turn. -/
def extractAll : (kinds : List Kind) → Values kinds → InputStream → Values kinds
  | [], fields, _ => fields
  | kind :: kinds, fields, stream =>
    let extracted := extract kind.convert fields.1 stream
    (extracted.1, extractAll kinds fields.2 extracted.2)

/-- The numbers of a text that has one of each kind. -/
def numbersIn : (kinds : List Kind) → List UInt8 → Option (Values kinds)
  | [], _ => some ()
  | kind :: kinds, text =>
    (numberIn kind.convert text).bind fun number =>
      (numbersIn kinds number.2).map fun numbers => (number.1, numbers)

/-- A text that stores in the variables what they hold: up to its end, or to a place where
there is no number and zero or the nearest number is stored. -/
def Repeats : (kinds : List Kind) → Values kinds → List UInt8 → Prop
  | [], _, _ => True
  | kind :: kinds, fields, text =>
    let start := text.dropWhile isSpace
    start = [] ∨ ((kind.convert start).value = fields.1 ∧
      ((kind.convert start).failed ∨ Repeats kinds fields.2 (kind.convert start).rest))

theorem extract_number {convert : List UInt8 → Conversion α} (field : α)
    (number : numberIn convert text = some (value, rest)) :
    extract convert field ⟨text, false⟩ = (value, ⟨rest, false⟩) := by
  unfold numberIn at number
  dsimp only at number
  split at number
  · cases number
  · rename_i there
    obtain ⟨some, taken⟩ := not_or.1 there
    cases number
    unfold extract
    dsimp only
    rw [if_neg (by simp [some]), Bool.eq_false_iff.2 taken]

theorem extractAll_failed (kinds : List Kind) (fields : Values kinds) (text : List UInt8) :
    extractAll kinds fields ⟨text, true⟩ = fields := by
  induction kinds generalizing text with
  | nil => rfl
  | cons kind kinds ih =>
    unfold extractAll
    rw [extract_failed]
    exact Prod.ext rfl (ih fields.2 [])

/-- Numbers that are all there are stored. -/
theorem extractAll_numbers {kinds : List Kind} {values : Values kinds} (fields : Values kinds)
    (numbers : numbersIn kinds text = some values) :
    extractAll kinds fields ⟨text, false⟩ = values := by
  induction kinds generalizing text with
  | nil => rfl
  | cons kind kinds ih =>
    unfold numbersIn at numbers
    obtain ⟨number, first, rest⟩ := Option.bind_eq_some_iff.1 numbers
    obtain ⟨later, found, rfl⟩ := Option.map_eq_some_iff.1 rest
    unfold extractAll
    rw [extract_number fields.1 first]
    exact Prod.ext rfl (ih fields.2 found)

/-- The variables keep their values exactly if the text repeats these. -/
theorem extractAll_same_iff (kinds : List Kind) (fields : Values kinds) (text : List UInt8) :
    extractAll kinds fields ⟨text, false⟩ = fields ↔ Repeats kinds fields text := by
  induction kinds generalizing text with
  | nil => exact iff_of_true rfl trivial
  | cons kind kinds ih =>
    unfold extractAll Repeats extract
    dsimp only
    by_cases ended : text.dropWhile isSpace = []
    · rw [if_pos (.inr ended), extractAll_failed]
      exact iff_of_true rfl (.inl ended)
    · rw [if_neg (by simp [ended]), or_iff_right ended, Prod.ext_iff]
      refine and_congr_right fun _ => ?_
      by_cases failed : (kind.convert (text.dropWhile isSpace)).failed = true
      · rw [failed]
        exact iff_of_true (extractAll_failed ..) (.inl rfl)
      · rw [Bool.eq_false_iff.2 failed, ih, or_iff_right Bool.false_ne_true]

/-- What the stream is left with does not depend on the variable. -/
theorem extract_stream (convert : List UInt8 → Conversion α) (field other : α)
    (stream : InputStream) : (extract convert field stream).2 = (extract convert other stream).2 := by
  unfold extract
  dsimp only
  split
  · rfl
  · rfl

theorem extract_again (convert : List UInt8 → Conversion α) (field : α) (stream : InputStream) :
    extract convert (extract convert field stream).1 stream = extract convert field stream := by
  unfold extract
  dsimp only
  split
  · rfl
  · rfl

/-- The same text stores nothing new in variables that it was stored in. -/
theorem extractAll_again (kinds : List Kind) (fields : Values kinds) (stream : InputStream) :
    extractAll kinds (extractAll kinds fields stream) stream = extractAll kinds fields stream := by
  induction kinds generalizing stream with
  | nil => rfl
  | cons kind kinds ih =>
    simp only [extractAll, extract_again]
    rw [ih]

/-- The stream behind all the variables. -/
def streamBehind : (kinds : List Kind) → Values kinds → InputStream → InputStream
  | [], _, stream => stream
  | kind :: kinds, fields, stream =>
    streamBehind kinds fields.2 (extract kind.convert fields.1 stream).2

theorem streamBehind_failed (kinds : List Kind) (fields : Values kinds) (text : List UInt8) :
    (streamBehind kinds fields ⟨text, true⟩).failed = true := by
  induction kinds generalizing text with
  | nil => rfl
  | cons kind kinds ih =>
    unfold streamBehind
    rw [extract_failed]
    exact ih fields.2 []

/-- The stream has not failed exactly if the text has all the numbers. -/
theorem streamBehind_numbers (kinds : List Kind) (fields : Values kinds) (text : List UInt8) :
    (streamBehind kinds fields ⟨text, false⟩).failed = (numbersIn kinds text).isNone := by
  induction kinds generalizing text with
  | nil => rfl
  | cons kind kinds ih =>
    unfold streamBehind numbersIn
    cases first : numberIn kind.convert text with
    | some number =>
      rw [extract_number fields.1 first]
      show (streamBehind kinds fields.2 ⟨number.2, false⟩).failed = _
      rw [ih, Option.bind_some]
      cases numbersIn kinds number.2 with
      | none => rfl
      | some numbers => rfl
    | none =>
      have failed : (extract kind.convert fields.1 ⟨text, false⟩).2.failed = true := by
        unfold numberIn at first
        dsimp only at first
        split at first
        · rename_i absent
          unfold extract
          dsimp only
          split
          · rfl
          · rename_i there
            exact absent.resolve_left fun ended => there (.inr ended)
        · cases first
      obtain ⟨rest, shape⟩ : ∃ rest, (extract kind.convert fields.1 ⟨text, false⟩).2 = ⟨rest, true⟩ :=
        ⟨_, congrArg (InputStream.mk _) failed⟩
      rw [shape, streamBehind_failed]
      rfl

/-- A number with decimals is one exactly if it is finite. -/
theorem numberIn_fixedText {format : FloatFormat} (ordered : format.minExponent ≤ format.maxExponent)
    (large : 0 < format.maxExponent) (places : Nat) (value : FloatValue)
    (fits : value.isFinite → Fits format value) (separated : Separated rest) :
    numberIn (convertFloat format) (32 :: (fixedText places value ++ rest)) =
      if value.isFinite then some ((convertFloat format (fixedText places value)).value, rest)
      else none := by
  unfold numberIn
  dsimp only
  rw [dropWhile_blank (fixedText_plain places value rest)
    (List.append_ne_nil_of_left_ne_nil fixedText_ne_nil rest)]
  by_cases finite : value.isFinite = true
  · rw [if_pos finite, convertFloat_written ordered large places value (fits finite) separated,
      if_neg (by simp [fixedText_ne_nil])]
  · rw [if_neg finite,
      if_pos (.inr (convertFloat_unwritten format places value (Bool.eq_false_iff.2 finite) rest))]

/-- An `int` that was written is one. -/
theorem numberIn_signed (number : Int) (least : -2 ^ 31 ≤ number) (most : number < 2 ^ 31)
    (separated : Separated rest) :
    numberIn convertInt (32 :: (signedDecimal number ++ rest)) = some (number, rest) := by
  obtain ⟨some, plain⟩ := signed_plain number rest
  unfold numberIn
  dsimp only
  rw [dropWhile_blank plain (List.append_ne_nil_of_left_ne_nil some rest),
    convertInt_written number least most separated, if_neg (by simp [some])]

/-! ### Whole numbers and words -/

/-- The whole number that a text starts with behind its blanks: whether it has a minus, its digits'
value, and what is behind them. -/
def leadingNumber (text : List UInt8) : Option (Bool × Nat × List UInt8) :=
  let (negative, unsigned) := takeSign (text.dropWhile isSpace)
  let digits := unsigned.takeWhile isDigit
  if digits = [] then none
  else some (negative, decimalValue digits, unsigned.dropWhile isDigit)

theorem leadingNumber_blank (blank : text.dropWhile isSpace = []) : leadingNumber text = none := by
  unfold leadingNumber
  rw [blank]
  rfl

/-- An `int` is extracted as one exactly if the text starts with a plain one. -/
theorem extract_one (text : List UInt8) :
    (extract convertInt 0 ⟨text, false⟩).1 = 1 ↔
      ∃ rest, leadingNumber text = some (false, 1, rest) := by
  unfold extract
  dsimp only
  by_cases blank : text.dropWhile isSpace = []
  · rw [if_pos (.inr blank), leadingNumber_blank blank]
    simp
  · rw [if_neg (by simp [blank])]
    unfold convertInt leadingNumber
    generalize takeSign (text.dropWhile isSpace) = taken
    obtain ⟨negative, unsigned⟩ := taken
    dsimp only
    by_cases none : unsigned.takeWhile isDigit = []
    · simp [none]
    · rw [if_neg none, if_neg none]
      generalize decimalValue (unsigned.takeWhile isDigit) = value
      cases negative with
      | true =>
        have other : ¬∃ rest, some (true, value, unsigned.dropWhile isDigit) = some (false, 1, rest) := by
          simp
        refine iff_of_false ?_ other
        simp only [↓reduceIte]
        split
        · dsimp only
          omega
        · split
          · dsimp only
            omega
          · dsimp only
            omega
      | false =>
        have same : (∃ rest, some (false, value, unsigned.dropWhile isDigit) = some (false, 1, rest)) ↔
            value = 1 := by
          simp
        rw [same]
        simp only [Bool.false_eq_true, ↓reduceIte]
        split
        · omega
        · split
          · dsimp only
            omega
          · dsimp only
            omega

theorem extract_one_stream (number : leadingNumber text = some (false, 1, rest)) :
    (extract convertInt 0 ⟨text, false⟩).2 = ⟨rest, false⟩ := by
  have there : text.dropWhile isSpace ≠ [] := by
    intro blank
    rw [leadingNumber_blank blank] at number
    cases number
  unfold leadingNumber at number
  unfold extract convertInt
  dsimp only
  rw [if_neg (by simp [there])]
  generalize takeSign (text.dropWhile isSpace) = taken at number ⊢
  obtain ⟨negative, unsigned⟩ := taken
  dsimp only at number ⊢
  split at number
  · cases number
  · rename_i some
    rw [if_neg some]
    simp only [Option.some.injEq, Prod.mk.injEq] at number
    obtain ⟨rfl, value, rfl⟩ := number
    simp [value]

/-- What an `unsigned short` is where the text starts with a number. -/
def shortOf (negative : Bool) (number : Nat) : Nat :=
  if 65535 < number then 65535 else if negative then (65536 - number) % 65536 else number

theorem extract_short (text : List UInt8) :
    (extract convertUnsignedShort 0 ⟨text, false⟩).1 =
      match leadingNumber text with
      | none => 0
      | some (negative, number, _) => shortOf negative number := by
  unfold extract
  dsimp only
  by_cases blank : text.dropWhile isSpace = []
  · rw [if_pos (.inr blank), leadingNumber_blank blank]
  · rw [if_neg (by simp [blank])]
    unfold convertUnsignedShort leadingNumber
    generalize takeSign (text.dropWhile isSpace) = taken
    obtain ⟨negative, unsigned⟩ := taken
    dsimp only
    by_cases none : unsigned.takeWhile isDigit = []
    · rw [if_pos none, if_pos none]
    · rw [if_neg none, if_neg none]
      unfold shortOf
      dsimp only
      split
      · rfl
      · split
        · rfl
        · rfl

theorem shortOf_eq_zero_iff (negative : Bool) (number : Nat) :
    shortOf negative number = 0 ↔ number = 0 := by
  unfold shortOf
  split
  · omega
  · cases negative with
    | true =>
      simp only [↓reduceIte]
      omega
    | false => simp

/-- A word of digits is the number that the text starts with. -/
theorem leadingNumber_word (digits : ∀ byte ∈ (nextWord text).1, isDigit byte = true)
    (nonempty : (nextWord text).1 ≠ []) :
    leadingNumber text = some (false, decimalValue (nextWord text).1, (nextWord text).2) := by
  unfold nextWord at digits nonempty ⊢
  dsimp only at digits nonempty ⊢
  unfold leadingNumber
  generalize text.dropWhile isSpace = start at digits nonempty ⊢
  have whole : start = start.takeWhile (!isSpace ·) ++ start.dropWhile (!isSpace ·) :=
    List.takeWhile_append_dropWhile.symm
  have behind : ∀ byte ∈ (start.dropWhile (!isSpace ·)).head?, isDigit byte = false := by
    intro byte head
    have space := List.head?_dropWhile_not (!isSpace ·) start
    rw [Option.mem_def.mp head] at space
    cases digit : isDigit byte with
    | false => rfl
    | true =>
      have plain := (digit_plain digit).1
      simp [plain] at space
  generalize start.takeWhile (!isSpace ·) = word at *
  generalize start.dropWhile (!isSpace ·) = rest at *
  obtain ⟨first, later, rfl⟩ := List.exists_cons_of_ne_nil nonempty
  subst whole
  have stop : rest.takeWhile isDigit = [] ∧ rest.dropWhile isDigit = rest := by
    cases rest with
    | nil => exact ⟨rfl, rfl⟩
    | cons byte others =>
      have other := behind byte rfl
      exact ⟨List.takeWhile_cons_of_neg (by simp [other]),
        List.dropWhile_cons_of_neg (by simp [other])⟩
  rw [List.cons_append, takeSign_digits (digits first (List.mem_cons_self ..)), ← List.cons_append]
  dsimp only
  rw [List.takeWhile_append_of_pos digits, List.dropWhile_append_of_pos digits, stop.1, stop.2,
    List.append_nil, if_neg nonempty]

theorem leadingNumber_some (number : leadingNumber text = some found) : (nextWord text).1 ≠ [] := by
  intro none
  unfold nextWord at none
  dsimp only at none
  cases start : text.dropWhile isSpace with
  | nil =>
    rw [leadingNumber_blank start] at number
    cases number
  | cons first rest =>
    have plain : isSpace first = false := by
      have space := List.head?_dropWhile_not isSpace text
      rw [start] at space
      simpa using space
    rw [start, List.takeWhile_cons_of_pos (by simp [plain])] at none
    cases none

end Glide.Library.StreamExtraction
