import Mathlib.Algebra.Group.Nat.Defs
import Glide.Library.MachineArithmetic
import Glide.ParsingBounds

/-! Exp-Golomb numbers. The reader passes over prevention bytes as it comes to them; what it
reads are the bits of the bytes that are left when all prevention bytes are taken out first. -/
namespace Glide.ExpGolomb
open RtpPackets SliceHeaders ParsingBounds
open Library Library.MachineArithmetic

/-- The bits of a byte, the highest first. -/
def bitsOf (byte : UInt8) : List Bool := (List.range 8).map fun index => byte.toNat.testBit (7 - index)

def numberOf (bits : List Bool) : Nat := bits.foldl (fun number bit => number * 2 + bit.toNat) 0

/-- A 03 that follows two zero bytes. -/
def preventionAt (data : List UInt8) (index : Nat) : Bool :=
  2 ≤ index && byteAt data (index - 2) == 0 && byteAt data (index - 1) == 0 && byteAt data index == 3

/-- The bytes from an index on, without the prevention bytes. -/
def strippedFrom (data : List UInt8) (start : Nat) : List UInt8 :=
  ((List.range' start (data.length - start)).filter (!preventionAt data ·)).map (byteAt data)

def strippedBits (data : List UInt8) : List Bool := (strippedFrom data 0).flatMap bitsOf

/-- The bits of a number: as many zeros as there are bits behind the first one. -/
structure Code where
  zeros : Nat
  suffix : List Bool
  few : zeros ≤ 31
  length : suffix.length = zeros

namespace Code

def bits (code : Code) : List Bool := List.replicate code.zeros false ++ true :: code.suffix

def value (code : Code) : Nat := 2 ^ code.zeros - 1 + numberOf code.suffix

end Code

/-! ### The arithmetic of the reader -/

/-- `suffix = (suffix << 1U) | bit`, in 32 bits. -/
def appendBit (suffix : Computed Nat) (bit : Bool) : Computed Nat := do
  let suffix ← suffix
  let shifted ← mul 32 suffix 2
  add 32 shifted bit.toNat

def readBits32 : (count : Nat) → (suffix : Computed Nat) → RbspBitReader →
    Option (Computed Nat × RbspBitReader)
  | 0, suffix, reader => some (suffix, reader)
  | count + 1, suffix, reader =>
    match reader.readBit with
    | none => none
    | some (bit, reader) => readBits32 count (appendBit suffix bit) reader

/-- `read_ue` with every number in 32 bits. -/
def readUe32 (reader : RbspBitReader) : Option (Computed Nat × RbspBitReader) :=
  match reader.leadingZeroBits 31 with
  | none => none
  | some (zeros, reader) =>
    (readBits32 zeros (pure 0) reader).map fun (suffix, reader) =>
      (do
        let power ← hold 32 (1 <<< zeros)
        let least ← sub 32 power 1
        add 32 least (← suffix), reader)

/-! ### Bits that are left -/

/-- What the reader has yet to read. -/
def remaining (reader : RbspBitReader) : List Bool :=
  ((strippedFrom reader.data reader.byteOffset).flatMap bitsOf).drop reader.bitOffset

/-- Inside of a byte, the byte is one that is read. -/
structure Placed (reader : RbspBitReader) : Prop where
  bit : reader.bitOffset < 8
  byte : reader.bitOffset ≠ 0 → reader.byteOffset < reader.data.length ∧
    preventionAt reader.data reader.byteOffset = false

theorem length_bitsOf (byte : UInt8) : (bitsOf byte).length = 8 := by
  simp [bitsOf]

theorem bitsOf_shift (byte : UInt8) (inside : index < 8) :
    decide ((byte >>> UInt8.ofNat (7 - index)) &&& 1 ≠ 0) = byte.toNat.testBit (7 - index) := by
  have all : ∀ (value : Fin 256) (place : Fin 8),
      decide ((UInt8.ofFin value >>> UInt8.ofNat (7 - place.val)) &&& 1 ≠ 0) =
        (UInt8.ofFin value).toNat.testBit (7 - place.val) := by
    decide +kernel
  exact all byte.toFin ⟨index, inside⟩

theorem atPreventionByte_eq (reader : RbspBitReader) :
    reader.atPreventionByte = preventionAt reader.data reader.byteOffset := rfl

theorem strippedFrom_end (ended : data.length ≤ start) : strippedFrom data start = [] := by
  rw [strippedFrom, Nat.sub_eq_zero_of_le ended]
  rfl

theorem strippedFrom_step (inside : start < data.length) : strippedFrom data start =
    if preventionAt data start then strippedFrom data (start + 1)
    else byteAt data start :: strippedFrom data (start + 1) := by
  obtain ⟨left, length⟩ : ∃ left, data.length - start = left + 1 :=
    ⟨data.length - start - 1, by omega⟩
  have behind : data.length - (start + 1) = left := by omega
  unfold strippedFrom
  rw [length, behind, List.range'_succ, List.filter_cons]
  cases preventionAt data start with
  | true => rfl
  | false => rfl

/-- At a byte that is read, its bit is the next one. -/
theorem remaining_bit (inside : reader.byteOffset < reader.data.length)
    (bit : reader.bitOffset < 8)
    (read : preventionAt reader.data reader.byteOffset = false) :
    remaining reader =
      decide ((byteAt reader.data reader.byteOffset >>> UInt8.ofNat (7 - reader.bitOffset)) &&& 1 ≠ 0) ::
        remaining reader.advance ∧ Placed reader.advance := by
  have step := strippedFrom_step inside
  rw [read, if_neg Bool.false_ne_true] at step
  have length := length_bitsOf (byteAt reader.data reader.byteOffset)
  have within : reader.bitOffset < (bitsOf (byteAt reader.data reader.byteOffset)).length := by
    omega
  have first : (bitsOf (byteAt reader.data reader.byteOffset))[reader.bitOffset] =
      decide ((byteAt reader.data reader.byteOffset >>> UInt8.ofNat (7 - reader.bitOffset)) &&& 1 ≠ 0) := by
    rw [bitsOf_shift _ bit]
    simp [bitsOf]
  have start : remaining reader = decide ((byteAt reader.data reader.byteOffset >>>
      UInt8.ofNat (7 - reader.bitOffset)) &&& 1 ≠ 0) ::
        ((bitsOf (byteAt reader.data reader.byteOffset)).drop (reader.bitOffset + 1) ++
          (strippedFrom reader.data (reader.byteOffset + 1)).flatMap bitsOf) := by
    rw [remaining, step, List.flatMap_cons, List.drop_append_of_le_length (by omega),
      List.drop_eq_getElem_cons (by omega), first, List.cons_append]
  rw [start]
  unfold RbspBitReader.advance
  split
  · rename_i last
    refine ⟨?_, ⟨by dsimp only; omega, fun moved => absurd rfl moved⟩⟩
    rw [last, List.drop_of_length_le (by omega)]
    rfl
  · rename_i more
    refine ⟨?_, ⟨by dsimp only; omega, fun _ => ⟨inside, read⟩⟩⟩
    rw [remaining]
    dsimp only
    rw [step, List.flatMap_cons, List.drop_append_of_le_length (by omega)]

/-- The loop over prevention bytes reads the next bit that is left. -/
theorem readBitFrom_remaining (placed : Placed reader)
    (size : left = reader.data.length - reader.byteOffset) :
    match reader.readBitFrom left with
    | some (bit, after) => remaining reader = bit :: remaining after ∧ Placed after
    | none => remaining reader = [] := by
  induction left generalizing reader with
  | zero =>
    unfold RbspBitReader.readBitFrom
    dsimp only
    rw [remaining, strippedFrom_end (by omega)]
    exact List.drop_nil
  | succ left ih =>
    have inside : reader.byteOffset < reader.data.length := by omega
    unfold RbspBitReader.readBitFrom
    rw [atPreventionByte_eq]
    cases skipped : preventionAt reader.data reader.byteOffset with
    | true =>
      rw [if_pos rfl]
      have whole : reader.bitOffset = 0 := by
        by_contra some
        have read := (placed.byte some).2
        rw [skipped] at read
        cases read
      have behind : remaining reader =
          remaining { reader with byteOffset := reader.byteOffset + 1, bitOffset := 0 } := by
        rw [remaining, strippedFrom_step inside, skipped, if_pos rfl, whole]
        rfl
      rw [behind]
      refine ih ⟨Nat.succ_pos 7, fun moved => absurd rfl moved⟩ ?_
      dsimp only
      omega
    | false =>
      rw [if_neg Bool.false_ne_true]
      exact remaining_bit inside placed.bit skipped

theorem readBit_remaining (placed : Placed reader) :
    match reader.readBit with
    | some (bit, after) => remaining reader = bit :: remaining after ∧ Placed after
    | none => remaining reader = [] :=
  readBitFrom_remaining placed rfl

/-- The zeros in front of the first one are counted, if they are not too many. -/
theorem leadingZeroBits_remaining (placed : Placed reader) :
    match reader.leadingZeroBits allowed with
    | some (zeros, after) => zeros ≤ allowed ∧
      remaining reader = List.replicate zeros false ++ true :: remaining after ∧ Placed after
    | none => ∀ zeros ≤ allowed, ∀ rest,
      remaining reader ≠ List.replicate zeros false ++ true :: rest := by
  induction allowed generalizing reader with
  | zero =>
    have next := readBit_remaining placed
    unfold RbspBitReader.leadingZeroBits
    cases read : reader.readBit with
    | none =>
      rw [read] at next
      intro zeros none rest same
      obtain rfl := Nat.le_zero.1 none
      rw [next] at same
      cases same
    | some found =>
      obtain ⟨bit, after⟩ := found
      rw [read] at next
      cases bit with
      | true => exact ⟨Nat.le_refl 0, next⟩
      | false =>
        intro zeros none rest same
        obtain rfl := Nat.le_zero.1 none
        rw [next.1] at same
        cases same
  | succ allowed ih =>
    have next := readBit_remaining placed
    unfold RbspBitReader.leadingZeroBits
    cases read : reader.readBit with
    | none =>
      rw [read] at next
      intro zeros _ rest same
      rw [next] at same
      exact absurd same.symm (by simp)
    | some found =>
      obtain ⟨bit, after⟩ := found
      rw [read] at next
      obtain ⟨bits, later⟩ := next
      cases bit with
      | true => exact ⟨Nat.zero_le _, bits, later⟩
      | false =>
        have counted := ih later
        dsimp only
        cases found : after.leadingZeroBits allowed with
        | none =>
          rw [found] at counted
          intro zeros most rest same
          cases zeros with
          | zero =>
            rw [bits] at same
            cases same
          | succ zeros =>
            rw [bits, List.replicate_succ, List.cons_append, List.cons.injEq] at same
            exact counted zeros (Nat.le_of_succ_le_succ most) rest same.2
        | some result =>
          obtain ⟨zeros, last⟩ := result
          rw [found] at counted
          obtain ⟨most, shape, ready⟩ := counted
          refine ⟨Nat.succ_le_succ most, ?_, ready⟩
          rw [bits, shape, List.replicate_succ, List.cons_append]

/-- So many bits are read, if there are so many. -/
theorem readBits_remaining (placed : Placed reader) :
    match reader.readBits count suffix with
    | some (value, after) => ∃ bits : List Bool, bits.length = count ∧
      remaining reader = bits ++ remaining after ∧
      value = bits.foldl (fun number bit => number * 2 + bit.toNat) suffix
    | none => (remaining reader).length < count := by
  induction count generalizing reader suffix with
  | zero => exact ⟨[], rfl, rfl, rfl⟩
  | succ count ih =>
    have next := readBit_remaining placed
    unfold RbspBitReader.readBits
    cases read : reader.readBit with
    | none =>
      rw [read] at next
      dsimp only
      rw [next]
      exact Nat.succ_pos count
    | some found =>
      obtain ⟨bit, after⟩ := found
      rw [read] at next
      obtain ⟨start, later⟩ := next
      have rest := @ih after (suffix * 2 + bit.toNat) later
      dsimp only
      split
      · rename_i value last more
        rw [more] at rest
        obtain ⟨bits, length, shape, number⟩ := rest
        refine ⟨bit :: bits, ?_, ?_, number⟩
        · rw [List.length_cons, length]
        · rw [start, shape, List.cons_append]
      · rename_i more
        rw [more] at rest
        rw [start, List.length_cons]
        exact Nat.succ_lt_succ rest

/-! ### Numbers -/

theorem Code.length_bits (code : Code) : code.bits.length = 2 * code.zeros + 1 := by
  have length := code.length
  simp only [Code.bits, List.length_append, List.length_replicate, List.length_cons]
  omega

/-- What stands in front of the first one tells how long the number is. -/
theorem zeros_unique
    (same : List.replicate zeros false ++ true :: rest = List.replicate other false ++ true :: later) :
    zeros = other ∧ rest = later := by
  induction zeros generalizing other with
  | zero =>
    cases other with
    | zero => exact ⟨rfl, (List.cons.inj same).2⟩
    | succ other => cases (List.cons.inj same).1
  | succ zeros ih =>
    cases other with
    | zero => cases (List.cons.inj same).1
    | succ other =>
      obtain ⟨length, behind⟩ := ih (List.cons.inj same).2
      exact ⟨congrArg Nat.succ length, behind⟩

theorem readUe_remaining (placed : Placed reader) :
    match reader.readUe with
    | some (value, after) => ∃ code : Code,
      remaining reader = code.bits ++ remaining after ∧ value = code.value
    | none => ∀ (code : Code) (rest : List Bool), remaining reader ≠ code.bits ++ rest := by
  have start := @leadingZeroBits_remaining reader 31 placed
  unfold RbspBitReader.readUe
  cases counted : reader.leadingZeroBits 31 with
  | none =>
    rw [counted] at start
    intro code rest same
    rw [Code.bits, List.append_assoc, List.cons_append] at same
    exact start code.zeros code.few _ same
  | some found =>
    obtain ⟨zeros, after⟩ := found
    rw [counted] at start
    obtain ⟨few, shape, later⟩ := start
    have suffix := @readBits_remaining after zeros 0 later
    dsimp only
    cases read : after.readBits zeros 0 with
    | none =>
      rw [read] at suffix
      intro code rest same
      rw [shape, Code.bits, List.append_assoc, List.cons_append] at same
      obtain ⟨length, behind⟩ := zeros_unique same
      have short : (remaining after).length < zeros := suffix
      rw [behind, List.length_append, code.length] at short
      omega
    | some result =>
      obtain ⟨number, last⟩ := result
      rw [read] at suffix
      obtain ⟨bits, length, behind, value⟩ := suffix
      refine ⟨⟨zeros, bits, few, length⟩, ?_, ?_⟩
      · rw [shape, behind, Code.bits, List.append_assoc, List.cons_append]
      · rw [Code.value, numberOf, ← value, Nat.shiftLeft_eq, Nat.one_mul]

/-- With room for the bits that come, nothing is lost. -/
theorem readBits32_eq (room : suffix < 2 ^ written) (few : written + count ≤ 32) :
    readBits32 count (pure suffix) reader =
      (reader.readBits count suffix).map fun (value, after) => (pure value, after) := by
  induction count generalizing reader suffix written with
  | zero => rfl
  | succ count ih =>
    have power : 2 ^ (written + 1) ≤ 2 ^ 32 := Nat.pow_le_pow_right (by decide) (by omega)
    rw [Nat.pow_succ] at power
    unfold readBits32 RbspBitReader.readBits
    cases reader.readBit with
    | none => rfl
    | some found =>
      obtain ⟨bit, after⟩ := found
      have one : bit.toNat ≤ 1 := Bool.toNat_le bit
      have appended : appendBit (pure suffix) bit = pure (suffix * 2 + bit.toNat) := by
        unfold appendBit
        rw [pure_bind, mul_eq (by omega), pure_bind, add_eq (by omega)]
      dsimp only
      rw [appended]
      refine @ih (suffix * 2 + bit.toNat) (written + 1) after ?_ (by omega)
      rw [Nat.pow_succ]
      omega

theorem Code.value_lt (code : Code) : code.value < 2 ^ 32 := by
  have below (bits : List Bool) (start written : Nat) (room : start < 2 ^ written) :
      bits.foldl (fun number bit => number * 2 + bit.toNat) start < 2 ^ (written + bits.length) := by
    induction bits generalizing start written with
    | nil => exact room
    | cons bit bits ih =>
      have one : bit.toNat ≤ 1 := Bool.toNat_le bit
      have more := ih (start * 2 + bit.toNat) (written + 1) (by rw [Nat.pow_succ]; omega)
      rw [Nat.add_right_comm] at more
      exact more
  have suffix := below code.suffix 0 0 (by decide)
  have power : 2 ^ code.zeros ≤ 2 ^ 31 := Nat.pow_le_pow_right (by decide) code.few
  rw [Nat.zero_add, code.length] at suffix
  unfold Code.value numberOf
  omega

/-- Read in 32 bits, the number is the same. -/
theorem readUe32_eq (placed : Placed reader) :
    readUe32 reader = reader.readUe.map fun (value, after) => (pure value, after) := by
  have exact := readUe_remaining placed
  have start := @leadingZeroBits_remaining reader 31 placed
  unfold readUe32 RbspBitReader.readUe
  unfold RbspBitReader.readUe at exact
  cases counted : reader.leadingZeroBits 31 with
  | none => rfl
  | some found =>
    obtain ⟨zeros, after⟩ := found
    rw [counted] at start exact
    have few : zeros ≤ 31 := start.1
    have power : 2 ^ zeros ≤ 2 ^ 31 := Nat.pow_le_pow_right (by decide) few
    have positive : 0 < 2 ^ zeros := Nat.two_pow_pos zeros
    dsimp only at exact ⊢
    rw [@readBits32_eq 0 0 zeros after (by decide) (by omega)]
    cases read : after.readBits zeros 0 with
    | none => rfl
    | some result =>
      obtain ⟨number, last⟩ := result
      rw [read] at exact
      obtain ⟨code, _, value⟩ := exact
      have small := code.value_lt
      rw [← value] at small
      have shifted : 1 <<< zeros = 2 ^ zeros := Nat.one_shiftLeft zeros
      rw [shifted] at small ⊢
      simp only [Option.map_some]
      rw [hold_eq (by omega), pure_bind, sub_eq (by omega) (by omega), pure_bind, pure_bind,
        add_eq (by omega)]

/-- A number is read exactly if the bits that are left without prevention bytes begin with one,
and then no more than its bits are taken; nothing outside of the bytes is read, and 32 bits hold
every number on the way. -/
theorem read_ue_exact (data : List UInt8) :
    checkedUe ⟨data, 0, data.length⟩ { data } = .ok (RbspBitReader.readUe { data }) ∧
    readUe32 { data } =
      (RbspBitReader.readUe { data }).map (fun (value, after) => (pure value, after)) ∧
    match RbspBitReader.readUe { data } with
    | some (value, after) => ∃ code : Code, strippedBits data = code.bits ++ remaining after ∧
      code.bits.length = 2 * code.zeros + 1 ∧ value = code.value
    | none => ∀ (code : Code) (rest : List Bool), strippedBits data ≠ code.bits ++ rest := by
  have placed : Placed { data } := ⟨Nat.succ_pos 7, fun moved => absurd rfl moved⟩
  have whole : remaining { data } = strippedBits data := rfl
  have exact := readUe_remaining placed
  rw [whole] at exact
  refine ⟨checkedUe_eq ?_ ?_, readUe32_eq placed, ?_⟩
  · exact Nat.le_of_eq (Nat.zero_add _)
  · simp [CheckedBuffers.Window.cells]
  · cases read : RbspBitReader.readUe { data } with
    | none =>
      rw [read] at exact
      exact exact
    | some found =>
      rw [read] at exact
      obtain ⟨code, shape, value⟩ := exact
      exact ⟨code, shape, code.length_bits, value⟩

example : strippedFrom [0, 0, 3, 0, 0, 3, 0x80] 0 = [0, 0, 0, 0, 0x80] := by decide

end Glide.ExpGolomb
