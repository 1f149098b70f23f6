import Glide.NalPayloads

/-! The bits of a slice header. `read_bit` passes over the bytes that an encoder puts
in so that no start code appears inside a NAL unit, and `read_ue` reads the numbers
in which the header begins. -/
namespace Glide.SliceHeaders
open RtpPackets

structure RbspBitReader where
  data : List UInt8
  byteOffset : Nat := 0
  bitOffset : Nat := 0
  deriving DecidableEq, Repr

namespace RbspBitReader

/-- A 03 behind two zero bytes is no part of what the encoder wrote. -/
def atPreventionByte (reader : RbspBitReader) : Bool :=
  reader.byteOffset ≥ 2 && byteAt reader.data (reader.byteOffset - 2) == 0x00 &&
    byteAt reader.data (reader.byteOffset - 1) == 0x00 &&
    byteAt reader.data reader.byteOffset == 0x03

def advance (reader : RbspBitReader) : RbspBitReader :=
  if reader.bitOffset + 1 = 8 then
    { reader with bitOffset := 0, byteOffset := reader.byteOffset + 1 }
  else { reader with bitOffset := reader.bitOffset + 1 }

/-- The loop of `read_bit`, which goes on for at most the bytes that are left. -/
def readBitFrom : Nat → RbspBitReader → Option (Bool × RbspBitReader)
  | 0, _ => none
  | left + 1, reader =>
    if reader.atPreventionByte then
      readBitFrom left { reader with byteOffset := reader.byteOffset + 1, bitOffset := 0 }
    else
      some ((byteAt reader.data reader.byteOffset >>> UInt8.ofNat (7 - reader.bitOffset)) &&& 1 ≠ 0,
        reader.advance)

def readBit (reader : RbspBitReader) : Option (Bool × RbspBitReader) :=
  readBitFrom (reader.data.length - reader.byteOffset) reader

/-- The zeros in front of the first one, which are not to exceed `allowed`. -/
def leadingZeroBits : (allowed : Nat) → RbspBitReader → Option (Nat × RbspBitReader)
  | 0, reader =>
    match reader.readBit with
    | some (true, reader) => some (0, reader)
    | _ => none
  | allowed + 1, reader =>
    match reader.readBit with
    | none => none
    | some (true, reader) => some (0, reader)
    | some (false, reader) =>
      (leadingZeroBits allowed reader).map fun (zeros, reader) => (zeros + 1, reader)

def readBits : (count : Nat) → (suffix : Nat) → RbspBitReader → Option (Nat × RbspBitReader)
  | 0, suffix, reader => some (suffix, reader)
  | count + 1, suffix, reader =>
    match reader.readBit with
    | none => none
    | some (bit, reader) => readBits count (suffix * 2 + bit.toNat) reader

/-- An unsigned Exp-Golomb number. With at most 31 zeros in front it fits 32 bits. -/
def readUe (reader : RbspBitReader) : Option (Nat × RbspBitReader) :=
  match leadingZeroBits 31 reader with
  | none => none
  | some (zeros, reader) =>
    (readBits zeros 0 reader).map fun (suffix, reader) => (1 <<< zeros - 1 + suffix, reader)

end RbspBitReader

/-- A slice is the first of its picture when it begins at macroblock 0. -/
def firstSliceStartsFrame (nal : List UInt8) : Bool :=
  match nal with
  | _ :: second :: rest =>
    match ({ data := second :: rest } : RbspBitReader).readUe with
    | some (firstMbInSlice, _) => firstMbInSlice = 0
    | none => false
  | _ => false

/-- The first bit is read off the first byte, whatever follows. -/
theorem readBit_first (first : UInt8) (rest : List UInt8) :
    ({ data := first :: rest } : RbspBitReader).readBit =
      some (decide ((first >>> 7) &&& 1 ≠ 0), { data := first :: rest, bitOffset := 1 }) := rfl

theorem readUe_of_one {reader : RbspBitReader} (one : reader.readBit = some (true, after)) :
    reader.readUe = some (0, after) := by
  simp [RbspBitReader.readUe, RbspBitReader.leadingZeroBits, one, RbspBitReader.readBits]

/-- A number that begins with a zero is at least 1. -/
theorem readUe_of_zero {reader : RbspBitReader} (zero : reader.readBit = some (false, after))
    (read : reader.readUe = some (value, later)) : value ≠ 0 := by
  unfold RbspBitReader.readUe at read
  rw [RbspBitReader.leadingZeroBits, zero] at read
  cases counted : after.leadingZeroBits 30 with
  | none => simp [counted] at read
  | some found =>
    obtain ⟨zeros, reader⟩ := found
    simp only [counted, Option.map_some, Option.map_eq_some_iff] at read
    obtain ⟨⟨suffix, reader⟩, -, same⟩ := read
    have power : 2 ≤ 1 <<< (zeros + 1) := by
      rw [Nat.shiftLeft_eq, Nat.pow_succ]
      have := Nat.two_pow_pos zeros
      omega
    simp only [Prod.mk.injEq] at same
    omega

/-- The number 0 is a single one, the first bit behind the byte of the NAL unit's type. -/
theorem firstSliceStartsFrame_cons (kind second : UInt8) (rest : List UInt8) :
    firstSliceStartsFrame (kind :: second :: rest) = decide ((second >>> 7) &&& 1 ≠ 0) := by
  unfold firstSliceStartsFrame
  have first := readBit_first second rest
  by_cases one : (second >>> 7) &&& 1 ≠ 0
  · rw [decide_eq_true one] at first ⊢
    simp only [readUe_of_one first]
    rfl
  · rw [decide_eq_false one] at first ⊢
    dsimp only
    split
    · rename_i value later read
      simpa using readUe_of_zero first read
    · rfl

/-- What follows a slice's first fragment does not change where the slice begins. -/
theorem firstSliceStartsFrame_append (starts : firstSliceStartsFrame nal = true)
    (rest : List UInt8) : firstSliceStartsFrame (nal ++ rest) = true := by
  obtain _ | ⟨kind, _ | ⟨second, more⟩⟩ := nal
  · cases starts
  · cases starts
  · rw [firstSliceStartsFrame_cons] at starts
    rw [List.cons_append, List.cons_append, firstSliceStartsFrame_cons]
    exact starts

end Glide.SliceHeaders
