import Glide.Library.BinaryFloat

/-! Numbers read from text as the C library reads them: `strtol` in base ten and
`strtof`, in the C locale. A conversion that finds no number reports the start
of the text as its end. -/
namespace Glide.Library.NumberText
open AsciiText BinaryFloat

/-- What the C standard leaves to a platform: the width of `long`, and the
fraction that the characters in `nan(...)` select. -/
structure Platform where
  longBits : Nat
  nanFraction : List UInt8 → Nat

/-- An optional sign: whether it is a minus, and the text after it. -/
def takeSign : List UInt8 → Bool × List UInt8
  | 45 :: rest => (true, rest)
  | 43 :: rest => (false, rest)
  | text => (false, text)

/-- `strtol(text, &end, 10)`: the saturated number and the text at `end`. -/
def strtol (platform : Platform) (text : List UInt8) : Int × List UInt8 :=
  let (negative, digits) := takeSign (text.dropWhile isSpace)
  let number := digits.takeWhile isDigit
  if number = [] then (0, text)
  else
    let magnitude := decimalValue number
    let limit := 2 ^ (platform.longBits - 1)
    let value : Int := if negative then -(min magnitude limit : Nat) else (min magnitude (limit - 1) : Nat)
    (value, digits.dropWhile isDigit)

/-- ASCII letters without their case. -/
def lowerCase (byte : UInt8) : UInt8 := if 65 ≤ byte && byte ≤ 90 then byte + 32 else byte

/-- The text after `word`, whatever the case of its letters. -/
def afterWord (word text : List UInt8) : Option (List UInt8) :=
  if (text.take word.length).map lowerCase = word then some (text.drop word.length) else none

def hexDigit (byte : UInt8) : Option Nat :=
  if isDigit byte then some (byte.toNat - 48)
  else if 97 ≤ lowerCase byte && lowerCase byte ≤ 102 then some ((lowerCase byte).toNat - 87)
  else none

def isWordCharacter (byte : UInt8) : Bool :=
  isDigit byte || (97 ≤ lowerCase byte && lowerCase byte ≤ 122) || byte = 95

/-- The digits before and after an optional point, and the text after them. -/
def takeMantissa (digit : UInt8 → Bool) (text : List UInt8) :
    List UInt8 × List UInt8 × List UInt8 :=
  let whole := text.takeWhile digit
  match text.dropWhile digit with
  | 46 :: rest =>
    if whole = [] ∧ rest.takeWhile digit = [] then ([], [], text)
    else (whole, rest.takeWhile digit, rest.dropWhile digit)
  | rest => (whole, [], rest)

/-- An optional exponent after the letter `mark`; a letter without digits is not one. -/
def takeExponent (mark : UInt8) (text : List UInt8) : Int × List UInt8 :=
  match text with
  | letter :: rest =>
    let (negative, digits) := takeSign rest
    let number := digits.takeWhile isDigit
    if lowerCase letter = mark ∧ number ≠ [] then
      let magnitude : Int := decimalValue number
      (if negative then -magnitude else magnitude, digits.dropWhile isDigit)
    else (0, text)
  | [] => (0, [])

/-- `mantissa * base ^ exponent`, rounded once. -/
def scaled (negative : Bool) (mantissa base : Nat) (exponent : Int) : FloatValue :=
  roundRatio binary32 negative (mantissa * base ^ exponent.toNat) (base ^ (-exponent).toNat)

/-- A hexadecimal number after `0x`; its exponent counts powers of two. -/
def hexFloat (negative : Bool) (text : List UInt8) : Option (FloatValue × List UInt8) :=
  let (whole, fraction, rest) := takeMantissa (fun byte => (hexDigit byte).isSome) text
  if whole = [] ∧ fraction = [] then none
  else
    let mantissa := (whole ++ fraction).foldl (fun value byte => 16 * value + (hexDigit byte).getD 0) 0
    let (exponent, rest) := takeExponent 112 rest
    some (scaled negative mantissa 2 (exponent - 4 * fraction.length), rest)

def decimalFloat (negative : Bool) (text : List UInt8) : Option (FloatValue × List UInt8) :=
  let (whole, fraction, rest) := takeMantissa isDigit text
  if whole = [] ∧ fraction = [] then none
  else
    let (exponent, rest) := takeExponent 101 rest
    some (scaled negative (decimalValue (whole ++ fraction)) 10 (exponent - fraction.length), rest)

/-- The characters in parentheses after `nan`, when the parentheses close. -/
def takeNanCharacters (text : List UInt8) : List UInt8 × List UInt8 :=
  match text with
  | 40 :: rest =>
    match rest.dropWhile isWordCharacter with
    | 41 :: later => (rest.takeWhile isWordCharacter, later)
    | _ => ([], text)
  | _ => ([], text)

def sign32 (negative : Bool) : Nat := if negative then 2 ^ 31 else 0

/-- The bits of a rounded binary32 value. A mantissa that rounded up to the next
power of two carries into the exponent. -/
def encode32 : FloatValue → UInt32
  | .nan negative => UInt32.ofNat (sign32 negative + 0x7fc00000)
  | .infinite negative => UInt32.ofNat (sign32 negative + 0x7f800000)
  | .finite negative mantissa exponent =>
    UInt32.ofNat (sign32 negative + (exponent - binary32.minExponent).toNat * 2 ^ 23 + mantissa)

/-- `strtof(text, &end)`: the bits of the value and the text at `end`. -/
def strtof (platform : Platform) (text : List UInt8) : UInt32 × List UInt8 :=
  let (negative, body) := takeSign (text.dropWhile isSpace)
  let finish : Option (FloatValue × List UInt8) → UInt32 × List UInt8
    | some (value, rest) => (encode32 value, rest)
    | none => (0, text)
  match afterWord (ascii "infinity") body, afterWord (ascii "inf") body with
  | some rest, _ => (encode32 (.infinite negative), rest)
  | none, some rest => (encode32 (.infinite negative), rest)
  | none, none =>
    match afterWord (ascii "nan") body with
    | some rest =>
      let (characters, rest) := takeNanCharacters rest
      let fraction := platform.nanFraction characters % 2 ^ 22
      (UInt32.ofNat (sign32 negative + 0x7fc00000 + fraction), rest)
    | none =>
      match (afterWord (ascii "0x") body).bind (hexFloat negative) with
      | some found => finish (some found)
      | none => finish (decimalFloat negative body)

example : strtol ⟨64, fun _ => 0⟩ (ascii " -42x") = (-42, ascii "x") := by decide
example : strtol ⟨32, fun _ => 0⟩ (ascii "4294967296") = (2147483647, []) := by decide

/-! ### Texts that are numbers as a whole -/

/-- The number that a text is: blanks, a sign and digits, and nothing behind them. -/
def wholeNumber (text : List UInt8) : Option Int :=
  let (negative, digits) := takeSign (text.dropWhile isSpace)
  if digits ≠ [] ∧ digits.all isDigit then
    some (if negative then -decimalValue digits else decimalValue digits)
  else none

/-- The nearest number that a `long` can hold. -/
def Platform.clamp (platform : Platform) (number : Int) : Int :=
  max (-2 ^ (platform.longBits - 1)) (min number (2 ^ (platform.longBits - 1) - 1))

theorem strtol_whole (platform : Platform) (whole : wholeNumber text = some number) :
    strtol platform text = (platform.clamp number, []) := by
  unfold wholeNumber at whole
  unfold strtol Platform.clamp
  generalize takeSign (text.dropWhile isSpace) = signed at whole ⊢
  obtain ⟨negative, digits⟩ := signed
  dsimp only at whole ⊢
  split at whole
  · rename_i numeral
    obtain ⟨some, plain⟩ := numeral
    rw [List.all_eq_true] at plain
    have all : digits.takeWhile isDigit = digits := List.takeWhile_eq_self_iff.2 plain
    have none : digits.dropWhile isDigit = [] := List.dropWhile_eq_nil_iff.2 plain
    have limit : (2 : Int) ^ (platform.longBits - 1) = (2 ^ (platform.longBits - 1) : Nat) := by
      push_cast
      rfl
    have positive : 0 < 2 ^ (platform.longBits - 1) := Nat.two_pow_pos _
    rw [all, none, if_neg some, limit]
    cases whole
    cases negative with
    | true =>
      simp only [if_true]
      congr 1
      omega
    | false =>
      simp only [Bool.false_eq_true, if_false]
      congr 1
      omega
  · cases whole

/-- Another text is not taken up to its end. -/
theorem strtol_other (platform : Platform) (other : wholeNumber text = none) :
    (strtol platform text).2 = text ∨ (strtol platform text).2 ≠ [] := by
  unfold wholeNumber at other
  unfold strtol
  generalize takeSign (text.dropWhile isSpace) = signed at other ⊢
  obtain ⟨negative, digits⟩ := signed
  dsimp only at other ⊢
  split at other
  · cases other
  · rename_i broken
    by_cases none : digits.takeWhile isDigit = []
    · rw [if_pos none]
      exact .inl rfl
    · rw [if_neg none]
      refine .inr fun ended => broken ⟨?_, List.all_eq_true.2 (List.dropWhile_eq_nil_iff.1 ended)⟩
      rintro rfl
      exact none rfl

theorem wholeNumber_ne_nil (whole : wholeNumber text = some number) : text ≠ [] := by
  rintro rfl
  cases whole

/-- A number has no zero byte. -/
theorem wholeNumber_terminated (whole : wholeNumber text = some number) : 0 ∉ text := by
  unfold wholeNumber at whole
  dsimp only at whole
  split at whole
  · rename_i numeral
    have blanks : 0 ∉ text.takeWhile isSpace := by
      intro member
      have space := List.mem_takeWhile_imp member
      revert space
      decide
    have digits : 0 ∉ (takeSign (text.dropWhile isSpace)).2 := by
      intro member
      have digit := List.all_eq_true.1 numeral.2 0 member
      revert digit
      decide
    have behind : 0 ∉ text.dropWhile isSpace := by
      generalize text.dropWhile isSpace = unsigned at digits
      unfold takeSign at digits
      split at digits
      · simpa using digits
      · simpa using digits
      · exact digits
    rw [← List.takeWhile_append_dropWhile (p := isSpace) (l := text), List.mem_append, not_or]
    exact ⟨blanks, behind⟩
  · cases whole

end Glide.Library.NumberText
