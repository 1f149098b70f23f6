import Mathlib.Data.List.TakeWhile
import Mathlib.Tactic.Ring

/-! Text held as bytes: words and lines as an input stream cuts them, and
decimal numbers as an output stream writes them. A number is recovered from its
digits, so different numbers never print alike. -/
namespace Glide.Library.AsciiText

/-- The bytes of a literal. -/
def ascii (literal : String) : List UInt8 :=
  literal.toList.map fun character => UInt8.ofNat character.toNat

/-- Texts are told apart by their bytes. -/
instance bytesLawful : LawfulBEq (List UInt8) := inferInstance

/-- `isspace` in the C locale. -/
def isSpace (byte : UInt8) : Bool := byte = 32 || (9 ≤ byte && byte ≤ 13)

/-- Extracting a word skips blanks and stops before the next blank: the word,
and what the stream holds after it. -/
def nextWord (stream : List UInt8) : List UInt8 × List UInt8 :=
  let text := stream.dropWhile isSpace
  (text.takeWhile (!isSpace ·), text.dropWhile (!isSpace ·))

/-- A word that is followed by a blank. -/
theorem nextWord_word (plain : ∀ byte ∈ word, isSpace byte = false) (some : word ≠ [])
    (rest : List UInt8) : nextWord (word ++ 32 :: rest) = (word, 32 :: rest) := by
  obtain ⟨first, later, rfl⟩ := List.exists_cons_of_ne_nil some
  have start : (first :: later ++ 32 :: rest).dropWhile isSpace = first :: later ++ 32 :: rest :=
    List.dropWhile_cons_of_neg (by rw [plain first (List.mem_cons_self ..)]; exact Bool.false_ne_true)
  have inside : ∀ byte ∈ first :: later, (!isSpace byte) = true := by
    intro byte member
    rw [plain byte member]
    rfl
  unfold nextWord
  dsimp only
  rw [start, List.takeWhile_append_of_pos inside, List.dropWhile_append_of_pos inside,
    List.takeWhile_cons_of_neg (by decide), List.dropWhile_cons_of_neg (by decide),
    List.append_nil]

theorem nextWord_blank (text : List UInt8) : nextWord (32 :: text) = nextWord text := by
  have start : (32 :: text).dropWhile isSpace = text.dropWhile isSpace :=
    List.dropWhile_cons_of_pos (by decide)
  unfold nextWord
  rw [start]

/-- The lines a stream yields when it is read line by line; `current` is the
part of the line read so far. A final line break starts no further line. -/
def linesFrom (current : List UInt8) : List UInt8 → List (List UInt8)
  | [] => if current = [] then [] else [current]
  | byte :: rest =>
    if byte = 10 then current :: linesFrom [] rest else linesFrom (current ++ [byte]) rest

def lines (text : List UInt8) : List (List UInt8) := linesFrom [] text

theorem linesFrom_unbroken (unbroken : 10 ∉ text) (nonempty : current ++ text ≠ []) :
    linesFrom current text = [current ++ text] := by
  induction text generalizing current with
  | nil => simp_all [linesFrom]
  | cons byte rest ih =>
    have head : byte ≠ 10 := fun same => unbroken (by simp [same])
    simp only [linesFrom, head, ↓reduceIte]
    rw [ih (fun member => unbroken (List.mem_cons_of_mem _ member)) (by simp)]
    simp

theorem linesFrom_break (unbroken : 10 ∉ text) :
    linesFrom current (text ++ 10 :: rest) = (current ++ text) :: linesFrom [] rest := by
  induction text generalizing current with
  | nil => simp [linesFrom]
  | cons byte tail ih =>
    have head : byte ≠ 10 := fun same => unbroken (by simp [same])
    simp only [List.cons_append, linesFrom, head, ↓reduceIte]
    rw [ih (fun member => unbroken (List.mem_cons_of_mem _ member))]
    simp

/-- Text without a line break is a single line. -/
theorem lines_unbroken (unbroken : 10 ∉ text) (nonempty : text ≠ []) : lines text = [text] :=
  linesFrom_unbroken unbroken nonempty

/-- The first line break ends the first line. -/
theorem lines_break (unbroken : 10 ∉ text) : lines (text ++ 10 :: rest) = text :: lines rest :=
  linesFrom_break unbroken

/-- Only line breaks give no line with text in it. -/
theorem no_written_lines : (lines text).filter (· ≠ []) = [] ↔ ∀ byte ∈ text, byte = 10 := by
  have general (current : List UInt8) : (linesFrom current text).filter (· ≠ []) = [] ↔
      current = [] ∧ ∀ byte ∈ text, byte = 10 := by
    induction text generalizing current with
    | nil => by_cases empty : current = [] <;> simp [linesFrom, empty]
    | cons byte rest ih =>
      by_cases broken : byte = 10
      · subst broken
        by_cases empty : current = []
        · have later := ih []
          simp only [linesFrom, empty, ↓reduceIte, List.filter_cons, ne_eq, not_true_eq_false,
            decide_false, Bool.false_eq_true, later, List.forall_mem_cons, true_and]
        · simp [linesFrom, empty]
      · rw [linesFrom, if_neg broken, ih]
        simp [broken]
  simpa [lines] using general []

/-- The first line is the text before the first break; the others come after it. -/
theorem written_lines (start : text.takeWhile (· ≠ 10) ≠ []) :
    (lines text).filter (· ≠ []) = text.takeWhile (· ≠ 10) ::
      (lines (text.dropWhile (· ≠ 10)).tail).filter (· ≠ []) := by
  have unbroken : 10 ∉ text.takeWhile (· ≠ 10) := by
    intro member
    simpa using List.mem_takeWhile_imp member
  have whole := List.takeWhile_append_dropWhile (p := (· ≠ (10 : UInt8))) (l := text)
  generalize text.takeWhile (· ≠ 10) = head at *
  cases shape : text.dropWhile (· ≠ 10) with
  | nil =>
    rw [shape, List.append_nil] at whole
    rw [← whole, lines_unbroken unbroken start]
    simp [start, lines, linesFrom]
  | cons byte rest =>
    have broken : byte = 10 := by
      have first := List.head?_dropWhile_not (· ≠ (10 : UInt8)) text
      rw [shape] at first
      simpa using first
    rw [shape, broken] at whole
    rw [← whole, lines_break unbroken]
    simp [start]

def isDigit (byte : UInt8) : Bool := 48 ≤ byte && byte ≤ 57

theorem newline_not_digit (digit : isDigit byte) : byte ≠ 10 := by
  rintro rfl
  simp [isDigit] at digit

/-- An unsigned number as the stream inserter writes it. -/
def decimal (number : Nat) : List UInt8 :=
  (Nat.toDigits 10 number).map fun digit => UInt8.ofNat digit.toNat

/-- A signed number as the stream inserter writes it. -/
def signedDecimal (number : Int) : List UInt8 :=
  if number < 0 then 45 :: decimal number.natAbs else decimal number.natAbs

/-- The number a string of digits denotes. -/
def decimalValue (digits : List UInt8) : Nat :=
  digits.foldl (fun value digit => 10 * value + (digit.toNat - 48)) 0

private theorem digit_character (member : digit ∈ Nat.toDigits 10 number) :
    48 ≤ digit.toNat ∧ digit.toNat ≤ 57 := by
  have decimalDigit := Nat.isDigit_of_mem_toDigits (by decide) (by decide) member
  simpa [Char.isDigit, UInt32.le_iff_toNat_le] using decimalDigit

theorem decimal_digits : ∀ byte ∈ decimal number, isDigit byte := by
  intro byte member
  obtain ⟨digit, inside, rfl⟩ := List.mem_map.mp member
  obtain ⟨low, high⟩ := digit_character inside
  simp only [isDigit, Bool.and_eq_true, decide_eq_true_eq, UInt8.le_iff_toNat_le,
    UInt8.toNat_ofNat', UInt8.reduceToNat]
  omega

@[simp] theorem decimal_ne_nil : decimal number ≠ [] := by
  simp [decimal, Nat.toDigits_ne_nil]

@[simp] theorem decimal_zero : decimal 0 = [48] := by decide

theorem decimal_unbroken : 10 ∉ decimal number :=
  fun member => newline_not_digit (decimal_digits _ member) rfl

theorem signedDecimal_unbroken : 10 ∉ signedDecimal number := by
  unfold signedDecimal
  split
  · simp only [List.mem_cons, decimal_unbroken, or_false]
    decide
  · exact decimal_unbroken

private theorem fold_digits (digits : List Char) (value : Nat)
    (inRange : ∀ digit ∈ digits, digit.toNat ≤ 57) :
    (digits.map fun digit => UInt8.ofNat digit.toNat).foldl
      (fun value digit => 10 * value + (digit.toNat - 48)) value =
    digits.foldl (fun value digit => 10 * value + (digit.toNat - 48)) value := by
  induction digits generalizing value with
  | nil => rfl
  | cons digit rest ih =>
    have bound := inRange digit (by simp)
    have same : (UInt8.ofNat digit.toNat).toNat = digit.toNat := by
      rw [UInt8.toNat_ofNat']
      omega
    simp only [List.map_cons, List.foldl_cons, same]
    exact ih _ (fun later member => inRange later (List.mem_cons_of_mem _ member))

/-- The digits of a number denote it. -/
theorem decimalValue_decimal (number : Nat) : decimalValue (decimal number) = number := by
  rw [decimalValue, decimal, fold_digits _ _ (fun digit member => (digit_character member).2)]
  simpa [Nat.ofDigitChars] using Nat.ofDigitChars_ten_toDigits (n := number)

/-- Different numbers print differently. -/
theorem decimal_injective (same : decimal first = decimal second) : first = second := by
  rw [← decimalValue_decimal first, same, decimalValue_decimal]

/-- Exactly `width` digits, as the fraction of a fixed-point number is written. -/
def fractionDigits : Nat → Nat → List UInt8
  | 0, _ => []
  | width + 1, number => fractionDigits width (number / 10) ++ [UInt8.ofNat (48 + number % 10)]

private theorem digit_byte (digit : Nat) (small : digit < 10) :
    (UInt8.ofNat (48 + digit)).toNat = 48 + digit := by
  rw [UInt8.toNat_ofNat']
  omega

theorem fractionDigits_digits : ∀ byte ∈ fractionDigits width number, isDigit byte := by
  induction width generalizing number with
  | zero => simp [fractionDigits]
  | succ width ih =>
    intro byte member
    rcases List.mem_append.mp member with early | last
    · exact ih _ early
    · have small := digit_byte (number % 10) (Nat.mod_lt _ (by decide))
      rw [List.mem_singleton.mp last]
      simp only [isDigit, Bool.and_eq_true, decide_eq_true_eq, UInt8.le_iff_toNat_le, small,
        UInt8.reduceToNat]
      omega

theorem fractionDigits_injective (firstFits : first < 10 ^ width) (secondFits : second < 10 ^ width)
    (same : fractionDigits width first = fractionDigits width second) : first = second := by
  induction width generalizing first second with
  | zero =>
    simp only [pow_zero, Nat.lt_one_iff] at firstFits secondFits
    rw [firstFits, secondFits]
  | succ width ih =>
    obtain ⟨early, last⟩ := List.append_inj' same rfl
    have lastSame := congrArg UInt8.toNat (List.singleton_inj.mp last)
    rw [digit_byte _ (Nat.mod_lt _ (by decide)), digit_byte _ (Nat.mod_lt _ (by decide))] at lastSame
    rw [pow_succ] at firstFits secondFits
    have earlySame := ih (by omega) (by omega) early
    omega

/-- A scaled number with a decimal point before its last `places` digits. -/
def fixedPoint (places number : Nat) : List UInt8 :=
  decimal (number / 10 ^ places) ++ 46 :: fractionDigits places (number % 10 ^ places)

theorem fixedPoint_unbroken : 10 ∉ fixedPoint places number := by
  intro member
  rcases List.mem_append.mp member with whole | point
  · exact decimal_unbroken whole
  · rcases List.mem_cons.mp point with dot | fraction
    · exact absurd dot (by decide)
    · exact newline_not_digit (fractionDigits_digits _ fraction) rfl

private theorem point_not_digit (digit : isDigit byte) : byte ≠ 46 := by
  rintro rfl
  simp [isDigit] at digit

private theorem split_at_point (firstFree : 46 ∉ first) (secondFree : 46 ∉ second)
    (same : first ++ 46 :: firstRest = second ++ (46 : UInt8) :: secondRest) :
    first = second ∧ firstRest = secondRest := by
  induction first generalizing second with
  | nil =>
    cases second with
    | nil => exact ⟨rfl, by simpa using same⟩
    | cons byte rest =>
      simp only [List.nil_append, List.cons_append, List.cons.injEq] at same
      exact absurd (by simp [same.1]) secondFree
  | cons byte rest ih =>
    cases second with
    | nil =>
      simp only [List.nil_append, List.cons_append, List.cons.injEq] at same
      exact absurd (by simp [same.1]) firstFree
    | cons other tail =>
      simp only [List.cons_append, List.cons.injEq] at same
      obtain ⟨wholes, fractions⟩ := ih (fun member => firstFree (List.mem_cons_of_mem _ member))
        (fun member => secondFree (List.mem_cons_of_mem _ member)) same.2
      exact ⟨by rw [same.1, wholes], fractions⟩

/-- Two scaled numbers that print alike are equal. -/
theorem fixedPoint_injective (same : fixedPoint places first = fixedPoint places second) :
    first = second := by
  have free (number : Nat) : 46 ∉ decimal number :=
    fun member => point_not_digit (decimal_digits _ member) rfl
  obtain ⟨wholes, fractions⟩ := split_at_point (free _) (free _) same
  have positive : 0 < 10 ^ places := Nat.pow_pos (by decide)
  have whole := decimal_injective wholes
  have fraction := fractionDigits_injective (Nat.mod_lt _ positive) (Nat.mod_lt _ positive) fractions
  rw [← Nat.div_add_mod first (10 ^ places), whole, fraction, Nat.div_add_mod]

end Glide.Library.AsciiText
