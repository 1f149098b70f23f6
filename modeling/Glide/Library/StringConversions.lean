import Glide.Library.NumberText

/-! Operations on strings that throw: `substr` and the conversions from text to
numbers, which refuse text that does not begin with a number and numbers that
their result type cannot hold. -/
namespace Glide.Library.StringConversions
open AsciiText NumberText

/-- `std::invalid_argument`, `std::out_of_range` and `std::filesystem::filesystem_error`. -/
inductive CppException where
  | invalidArgument
  | outOfRange
  | filesystemError
  deriving DecidableEq, Repr

/-- `text.substr(position)`. -/
def substr (text : List UInt8) (position : Nat) : Except CppException (List UInt8) :=
  if position ≤ text.length then .ok (text.drop position) else .error .outOfRange

/-- A caller that has seen a prefix may cut it off. -/
theorem substr_when_prefixed {word text : List UInt8} (start : word.isPrefixOf text = true) :
    substr text word.length = .ok (text.drop word.length) :=
  if_pos (List.isPrefixOf_iff_prefix.mp start).length_le

/-- `try { … } catch (...) { return fallback; }`. -/
def caught (fallback : α) : Except CppException α → α
  | .ok value => value
  | .error _ => fallback

/-- `std::stoi(text)`: a blank start and a sign may precede the digits, anything may follow. -/
def stoi (text : List UInt8) : Except CppException Int :=
  let (negative, digits) := takeSign (text.dropWhile isSpace)
  let number := digits.takeWhile isDigit
  let value : Int := if negative then -(decimalValue number : Nat) else decimalValue number
  if number = [] then .error .invalidArgument
  else if value < -2 ^ 31 ∨ 2 ^ 31 ≤ value then .error .outOfRange
  else .ok value

def isHexDigit (byte : UInt8) : Bool := (hexDigit byte).isSome

/-- The number that hexadecimal digits write. -/
def hexValue (digits : List UInt8) : Nat :=
  digits.foldl (fun value digit => 16 * value + (hexDigit digit).getD 0) 0

def hexCharacter (digit : Nat) : UInt8 :=
  if digit < 10 then UInt8.ofNat (48 + digit) else UInt8.ofNat (87 + digit)

/-- The last `width` hexadecimal digits of a number, filled up with zeros. -/
def hexDigits : Nat → Nat → List UInt8
  | 0, _ => []
  | width + 1, number => hexDigits width (number / 16) ++ [hexCharacter (number % 16)]

/-- The text behind an optional `0x`, which counts only in front of a digit. -/
def dropHexPrefix (text : List UInt8) : List UInt8 :=
  match afterWord (ascii "0x") text with
  | some (digit :: rest) => if isHexDigit digit then digit :: rest else text
  | _ => text

/-- `std::stoul(text, nullptr, 16)`. A minus negates in the unsigned type. -/
def stoulHex (platform : Platform) (text : List UInt8) : Except CppException Nat :=
  let (negative, unsigned) := takeSign (text.dropWhile isSpace)
  let number := (dropHexPrefix unsigned).takeWhile isHexDigit
  if number = [] then .error .invalidArgument
  else if 2 ^ platform.longBits ≤ hexValue number then .error .outOfRange
  else if negative then .ok ((2 ^ platform.longBits - hexValue number) % 2 ^ platform.longBits)
  else .ok (hexValue number)

theorem hexDigit_lt (is_digit : hexDigit byte = some digit) : digit < 16 := by
  have all : ∀ index : Fin 256, ∀ value, hexDigit (UInt8.ofFin index) = some value → value < 16 := by
    decide +kernel
  exact all byte.toFin digit is_digit

theorem hexValue_append (first second : List UInt8) : hexValue (first ++ second) =
    hexValue first * 16 ^ second.length + hexValue second := by
  suffices folded : ∀ start, second.foldl
      (fun value digit => 16 * value + (hexDigit digit).getD 0) start =
        start * 16 ^ second.length + hexValue second by
    rw [hexValue, List.foldl_append, folded]
    rfl
  unfold hexValue
  induction second with
  | nil => simp
  | cons digit rest ih =>
    intro start
    rw [List.foldl_cons, List.foldl_cons, ih, ih (16 * 0 + _), List.length_cons, pow_succ]
    ring

theorem hexValue_lt (digits : List UInt8) : hexValue digits < 16 ^ digits.length := by
  induction digits using List.reverseRecOn with
  | nil => decide
  | append_singleton front digit ih =>
    have small : (hexDigit digit).getD 0 < 16 := by
      cases found : hexDigit digit with
      | none => simp
      | some value => exact hexDigit_lt found
    rw [hexValue_append, List.length_append, List.length_singleton, pow_one, pow_succ]
    have one : hexValue [digit] = (hexDigit digit).getD 0 := by simp [hexValue]
    omega

theorem hexDigit_hexCharacter (small : digit < 16) : hexDigit (hexCharacter digit) = some digit := by
  have all : ∀ index : Fin 16, hexDigit (hexCharacter index) = some index.val := by decide
  exact all ⟨digit, small⟩

@[simp] theorem hexDigits_length (width number : Nat) : (hexDigits width number).length = width := by
  induction width generalizing number with
  | zero => rfl
  | succ width ih => simp [hexDigits, ih]

theorem hexDigits_digits (width number : Nat) : (hexDigits width number).all isHexDigit = true := by
  induction width generalizing number with
  | zero => rfl
  | succ width ih =>
    have last : isHexDigit (hexCharacter (number % 16)) = true := by
      rw [isHexDigit, hexDigit_hexCharacter (Nat.mod_lt _ (by decide)), Option.isSome_some]
    simp [hexDigits, ih, last]

theorem hexValue_hexDigits (width number : Nat) :
    hexValue (hexDigits width number) = number % 16 ^ width := by
  induction width generalizing number with
  | zero => simp [hexDigits, hexValue, Nat.mod_one]
  | succ width ih =>
    have last : hexValue [hexCharacter (number % 16)] = number % 16 := by
      simp [hexValue, hexDigit_hexCharacter (Nat.mod_lt number (by decide : 0 < 16))]
    rw [hexDigits, hexValue_append, ih, last, List.length_singleton, pow_one, pow_succ,
      Nat.mul_comm (16 ^ width), Nat.mod_mul]
    ring

/-- A hexadecimal digit is no blank and no sign, and ends no `0x`. -/
theorem hexDigit_plain (is_digit : isHexDigit byte = true) :
    isSpace byte = false ∧ byte ≠ 45 ∧ byte ≠ 43 ∧ lowerCase byte ≠ 120 := by
  have all : ∀ index : Fin 256, isHexDigit (UInt8.ofFin index) = true →
      isSpace (UInt8.ofFin index) = false ∧ UInt8.ofFin index ≠ 45 ∧ UInt8.ofFin index ≠ 43 ∧
        lowerCase (UInt8.ofFin index) ≠ 120 := by decide +kernel
  exact all byte.toFin is_digit

private theorem dropHexPrefix_digits (digits : ∀ byte ∈ text, isHexDigit byte = true) :
    dropHexPrefix text = text := by
  have none : afterWord (ascii "0x") text = none := by
    rw [afterWord, if_neg]
    intro same
    obtain ⟨first, second, rest, rfl⟩ : ∃ first second rest, text = first :: second :: rest := by
      have long := congrArg List.length same
      rcases text with _ | ⟨first, _ | ⟨second, rest⟩⟩
      · simp [ascii] at long
      · simp [ascii] at long
      · exact ⟨first, second, rest, rfl⟩
    have letter : lowerCase second = 120 := by
      have equal := congrArg (fun list => list[1]?) same
      simpa [ascii] using equal
    exact (hexDigit_plain (digits second (by simp))).2.2.2 letter
  rw [dropHexPrefix, none]

/-- The guarded use: text of hexadecimal digits alone, few enough for the type. -/
theorem stoulHex_digits (platform : Platform) (written : text ≠ [])
    (digits : text.all isHexDigit = true) (fits : 4 * text.length ≤ platform.longBits) :
    stoulHex platform text = .ok (hexValue text) := by
  have each : ∀ byte ∈ text, isHexDigit byte = true := List.all_eq_true.mp digits
  obtain ⟨first, rest, rfl⟩ := List.exists_cons_of_ne_nil written
  have plain := hexDigit_plain (each first (List.mem_cons_self ..))
  have unspaced : (first :: rest).dropWhile isSpace = first :: rest :=
    List.dropWhile_cons_of_neg (by simp [plain.1])
  have unsigned : takeSign (first :: rest) = (false, first :: rest) := by
    unfold takeSign
    split
    · rename_i same
      exact absurd (List.cons.inj same).1 plain.2.1
    · rename_i same
      exact absurd (List.cons.inj same).1 plain.2.2.1
    · rfl
  have whole : (first :: rest).takeWhile isHexDigit = first :: rest :=
    List.takeWhile_eq_self_iff.mpr each
  have small : hexValue (first :: rest) < 2 ^ platform.longBits := by
    calc hexValue (first :: rest) < 16 ^ (first :: rest).length := hexValue_lt _
      _ = 2 ^ (4 * (first :: rest).length) := by rw [pow_mul]; rfl
      _ ≤ 2 ^ platform.longBits := Nat.pow_le_pow_right (by decide) fits
  simp only [stoulHex, unspaced, unsigned, dropHexPrefix_digits each, whole]
  simp [small]

end Glide.Library.StringConversions
