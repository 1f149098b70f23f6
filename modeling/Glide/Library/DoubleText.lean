import Glide.Library.StreamExtraction
import Glide.Library.StringConversions

/-! Doubles read from text as `std::stod` reads them. A number is rounded once, and one that the
format cannot hold, or only without some of its digits, is refused. -/
namespace Glide.Library.DoubleText
open AsciiText NumberText BinaryFloat StringConversions StreamExtraction

/-- A number in decimal digits, as a ratio. -/
def decimalRatio (text : List UInt8) : Option (Nat × Nat) :=
  let (whole, fraction, rest) := takeMantissa isDigit text
  if whole = [] ∧ fraction = [] then none
  else
    let exponent := (takeExponent 101 rest).1 - fraction.length
    some (decimalValue (whole ++ fraction) * 10 ^ exponent.toNat, 10 ^ (-exponent).toNat)

/-- A number in hexadecimal digits behind `0x`, as a ratio. -/
def hexRatio (text : List UInt8) : Option (Nat × Nat) :=
  let (whole, fraction, rest) := takeMantissa isHexDigit text
  if whole = [] ∧ fraction = [] then none
  else
    let exponent := (takeExponent 112 rest).1 - 4 * fraction.length
    some (hexValue (whole ++ fraction) * 2 ^ exponent.toNat, 2 ^ (-exponent).toNat)

/-- The number is too large, or so small that digits of it are lost. -/
def outOfRange (num den : Nat) : FloatValue → Bool
  | .finite _ mantissa exponent =>
    num * 2 ^ 1022 < den && mantissa * 2 ^ exponent.toNat * den ≠ num * 2 ^ (-exponent).toNat
  | _ => true

/-- `std::stod(text)`; anything may follow the number. -/
def stod (text : List UInt8) : Except CppException FloatValue :=
  let (negative, body) := takeSign (text.dropWhile isSpace)
  if (afterWord (ascii "inf") body).isSome then .ok (.infinite negative)
  else if (afterWord (ascii "nan") body).isSome then .ok (.nan negative)
  else
    match ((afterWord (ascii "0x") body).bind hexRatio).or (decimalRatio body) with
    | none => .error .invalidArgument
    | some (num, den) =>
      let value := roundRatio binary64 negative num den
      if outOfRange num den value then .error .outOfRange else .ok value

/-- `std::stoul(text)`. A minus negates in the unsigned type. -/
def stoul (platform : Platform) (text : List UInt8) : Except CppException Nat :=
  let (negative, unsigned) := takeSign (text.dropWhile isSpace)
  let number := unsigned.takeWhile isDigit
  if number = [] then .error .invalidArgument
  else if 2 ^ platform.longBits ≤ decimalValue number then .error .outOfRange
  else if negative then .ok ((2 ^ platform.longBits - decimalValue number) % 2 ^ platform.longBits)
  else .ok (decimalValue number)

/-- A number that was written is read. -/
theorem stoul_decimal (platform : Platform) (small : number < 2 ^ platform.longBits) :
    stoul platform (decimal number) = .ok number := by
  have start : (decimal number).dropWhile isSpace = decimal number := by
    obtain ⟨first, later, shape, digit⟩ := decimal_start number
    rw [shape, List.dropWhile_cons_of_neg]
    rw [(digit_plain digit).1]
    exact Bool.false_ne_true
  have sign : takeSign (decimal number) = (false, decimal number) := by
    have signed := takeSign_decimal number []
    rwa [List.append_nil] at signed
  have digits : (decimal number).takeWhile isDigit = decimal number :=
    List.takeWhile_eq_self_iff.mpr fun _ member => decimal_digits _ member
  unfold stoul
  rw [start, sign]
  dsimp only
  rw [digits, if_neg decimal_ne_nil, decimalValue_decimal, if_neg (Nat.not_le.mpr small)]
  rfl

end Glide.Library.DoubleText
