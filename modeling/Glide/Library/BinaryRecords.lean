import Mathlib.Algebra.Group.Nat.Defs
import Mathlib.Data.List.Basic

/-! Records of numbers and texts, written one after the other and read back from
the front. Numbers are written least significant byte first. -/
namespace Glide.Library.BinaryRecords

def littleEndianBytes : Nat → Nat → List UInt8
  | 0, _ => []
  | width + 1, value => UInt8.ofNat value :: littleEndianBytes width (value / 256)

def littleEndianValue (bytes : List UInt8) : Nat :=
  bytes.foldr (fun byte value => byte.toNat + 256 * value) 0

/-- Takes what it reads from the front, unless the input ends before. -/
def Reader (α : Type) := List UInt8 → Option (α × List UInt8)

instance : Monad Reader where
  pure value := fun input => some (value, input)
  bind first next := fun input =>
    match first input with
    | some (value, rest) => next value rest
    | none => none

def readBytes (length : Nat) : Reader (List UInt8) := fun input =>
  if length ≤ input.length then some (input.take length, input.drop length) else none

def readNumber (width : Nat) : Reader Nat := do return littleEndianValue (← readBytes width)

/-- The reader takes these bytes for the value, whatever follows them. -/
def Reads (reader : Reader α) (bytes : List UInt8) (value : α) : Prop :=
  ∀ rest, reader (bytes ++ rest) = some (value, rest)

@[simp] theorem littleEndianBytes_length (width value : Nat) :
    (littleEndianBytes width value).length = width := by
  induction width generalizing value with
  | zero => rfl
  | succ width ih => simp [littleEndianBytes, ih]

theorem littleEndianValue_bytes {width value : Nat} (fits : value < 256 ^ width) :
    littleEndianValue (littleEndianBytes width value) = value := by
  induction width generalizing value with
  | zero =>
    have nothing : value = 0 := by simpa using fits
    rw [nothing]
    rfl
  | succ width ih =>
    have rest : value / 256 < 256 ^ width := by
      rw [Nat.pow_succ] at fits
      exact Nat.div_lt_of_lt_mul (by rwa [Nat.mul_comm] at fits)
    have value_eq := ih rest
    unfold littleEndianValue at value_eq ⊢
    rw [littleEndianBytes, List.foldr_cons, value_eq, UInt8.toNat_ofNat']
    exact Nat.mod_add_div value 256

/-- A wide number is two numbers one after the other. -/
theorem littleEndianBytes_add (first second : Nat) {low : Nat} (fits : low < 256 ^ first)
    (high : Nat) : littleEndianBytes (first + second) (low + 256 ^ first * high) =
      littleEndianBytes first low ++ littleEndianBytes second high := by
  induction first generalizing low with
  | zero =>
    have nothing : low = 0 := by simpa using fits
    rw [nothing, Nat.zero_add, Nat.pow_zero, Nat.one_mul, Nat.zero_add]
    rfl
  | succ first ih =>
    have rest : low / 256 < 256 ^ first := by
      rw [Nat.pow_succ] at fits
      exact Nat.div_lt_of_lt_mul (by rwa [Nat.mul_comm] at fits)
    have power : 256 ^ (first + 1) * high = 256 * (256 ^ first * high) := by
      rw [Nat.pow_succ, Nat.mul_comm _ 256, Nat.mul_assoc]
    have quotient : (low + 256 ^ (first + 1) * high) / 256 = low / 256 + 256 ^ first * high := by
      rw [power, Nat.add_mul_div_left _ _ (by decide)]
    have byte : UInt8.ofNat (low + 256 ^ (first + 1) * high) = UInt8.ofNat low := by
      apply UInt8.toNat_inj.1
      rw [power, UInt8.toNat_ofNat', UInt8.toNat_ofNat']
      exact Nat.add_mul_mod_self_left _ _ _
    rw [Nat.succ_add, littleEndianBytes, quotient, byte, ih rest]
    rfl

section Rules
variable {α β : Type} {reader : Reader α} {next : α → Reader β} {front back : List UInt8}

theorem reads_pure (value : α) : Reads (pure value) [] value := fun _ => rfl

theorem Reads.bind {value : α} {result : β} (first : Reads reader front value)
    (second : Reads (next value) back result) : Reads (reader >>= next) (front ++ back) result := by
  intro rest
  change (match reader (front ++ back ++ rest) with
    | some (value, rest) => next value rest
    | none => none) = _
  rw [List.append_assoc, first]
  exact second rest

/-- The last field of a record. -/
theorem Reads.last {value : α} {result : β} (first : Reads reader front value)
    (second : Reads (next value) [] result) : Reads (reader >>= next) front result := by
  have both := first.bind second
  rwa [List.append_nil] at both

theorem reads_bytes {bytes : List UInt8} (length : bytes.length = size) :
    Reads (readBytes size) bytes bytes := by
  intro rest
  unfold readBytes
  rw [if_pos (by simp [← length])]
  simp [← length]

theorem reads_number {width value : Nat} (fits : value < 256 ^ width) :
    Reads (readNumber width) (littleEndianBytes width value) value := by
  unfold readNumber
  refine (reads_bytes (littleEndianBytes_length width value)).last ?_
  rw [littleEndianValue_bytes fits]
  exact reads_pure value

end Rules

end Glide.Library.BinaryRecords
