import Mathlib.Tactic.Common

/-! The bit-serial register of a reflected cyclic redundancy check, of any
width. Shifting is linear in exclusive or, so the eight shifts after a byte
depend on the byte and the low byte of the register only through their
exclusive or, and the rest of the register moves down by one byte. -/
namespace Glide.Library.Crc

variable {width : Nat}

/-- One shift of the register; the bit that leaves it feeds the polynomial back. -/
def shift (polynomial register : BitVec width) : BitVec width :=
  if register.getLsbD 0 then (register >>> 1) ^^^ polynomial else register >>> 1

def shifts (polynomial : BitVec width) : Nat → BitVec width → BitVec width
  | 0, register => register
  | count + 1, register => shifts polynomial count (shift polynomial register)

/-- A byte enters through the low end and is shifted out bit by bit. -/
def accumulate (polynomial register : BitVec width) (byte : BitVec 8) : BitVec width :=
  shifts polynomial 8 (register ^^^ byte.setWidth width)

/-- The register after a message, from its initial contents. -/
def checksum (polynomial initial : BitVec width) (message : List (BitVec 8)) : BitVec width :=
  message.foldl (accumulate polynomial) initial

theorem shift_xor (polynomial first second : BitVec width) :
    shift polynomial (first ^^^ second) = shift polynomial first ^^^ shift polynomial second := by
  have cancel : (first >>> 1 ^^^ polynomial) ^^^ (second >>> 1 ^^^ polynomial) =
      first >>> 1 ^^^ second >>> 1 := by
    rw [BitVec.xor_comm (second >>> 1), BitVec.xor_assoc, ← BitVec.xor_assoc polynomial,
      BitVec.xor_self, BitVec.zero_xor]
  simp only [shift, BitVec.getLsbD_xor, BitVec.ushiftRight_xor_distrib]
  cases first.getLsbD 0 with
  | false => cases second.getLsbD 0 <;> simp [BitVec.xor_assoc]
  | true =>
    cases second.getLsbD 0 with
    | false => simp only [Bool.true_xor, Bool.not_false, ↓reduceIte, Bool.false_eq_true]; ac_rfl
    | true => simp [cancel]

theorem shifts_xor (polynomial first second : BitVec width) (count : Nat) :
    shifts polynomial count (first ^^^ second) =
      shifts polynomial count first ^^^ shifts polynomial count second := by
  induction count generalizing first second with
  | zero => rfl
  | succ count ih => rw [shifts, shift_xor, ih]; rfl

/-- A register whose low bits are clear only moves down. -/
theorem shifts_clear {register : BitVec width} (polynomial : BitVec width) (count : Nat)
    (clear : ∀ place < count, register.getLsbD place = false) :
    shifts polynomial count register = register >>> count := by
  induction count generalizing register with
  | zero => simp [shifts]
  | succ count ih =>
    have lowest := clear 0 (by omega)
    simp only [shifts, shift, lowest, Bool.false_eq_true, ↓reduceIte]
    rw [ih, ← BitVec.shiftRight_add, Nat.add_comm]
    intro place inside
    rw [BitVec.getLsbD_ushiftRight]
    exact clear (1 + place) (by omega)

/-- The low byte of a register, at the register's width. -/
def lowByte (register : BitVec width) : BitVec width := (register.setWidth 8).setWidth width

/-- Eight shifts of a register are those of its low byte, and the rest moved down. -/
theorem shifts_eight (polynomial register : BitVec width) :
    shifts polynomial 8 register = shifts polynomial 8 (lowByte register) ^^^ (register >>> 8) := by
  have parts : register = lowByte register ^^^ (register ^^^ lowByte register) := by
    rw [BitVec.xor_comm register, ← BitVec.xor_assoc, BitVec.xor_self, BitVec.zero_xor]
  have clear : ∀ place < 8, (register ^^^ lowByte register).getLsbD place = false := by
    intro place low
    simp only [lowByte, BitVec.getLsbD_xor, BitVec.getLsbD_setWidth, low, decide_true,
      Bool.true_and]
    cases inside : register.getLsbD place <;> simp
    exact BitVec.lt_of_getLsbD inside
  have moved : (register ^^^ lowByte register) >>> 8 = register >>> 8 := by
    ext place inside
    simp [lowByte, BitVec.getLsbD_setWidth]
  calc shifts polynomial 8 register
      = shifts polynomial 8 (lowByte register ^^^ (register ^^^ lowByte register)) := by rw [← parts]
    _ = shifts polynomial 8 (lowByte register) ^^^ (register >>> 8) := by
      rw [shifts_xor, shifts_clear polynomial 8 clear, moved]

/-- One byte of a message: the shifted exclusive or of the low bytes, and the
rest of the register moved down. -/
theorem accumulate_eq (polynomial register : BitVec width) (byte : BitVec 8) (wide : 8 ≤ width) :
    accumulate polynomial register byte =
      shifts polynomial 8 ((register.setWidth 8 ^^^ byte).setWidth width) ^^^ (register >>> 8) := by
  rw [accumulate, shifts_eight]
  congr 1
  · congr 1
    rw [lowByte, BitVec.setWidth_xor, BitVec.setWidth_setWidth_of_le _ wide, BitVec.setWidth_eq]
  · ext place inside
    simp

end Glide.Library.Crc
