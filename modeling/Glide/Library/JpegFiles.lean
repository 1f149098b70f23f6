import Mathlib.Data.List.Basic

/-! JPEG files as a decoder reads them. A header is a row of segments, each a marker and a
body, up to the one that begins the scan. A table lists its quantisers in zig-zag order. -/
namespace Glide.Library.JpegFiles

/-- The frequencies of one diagonal, across and down. Every second one is walked upwards. -/
def diagonal (sum : Nat) : List (Nat × Nat) :=
  let downwards := (List.range 8).filterMap fun down =>
    if down ≤ sum ∧ sum - down < 8 then some (sum - down, down) else none
  if sum % 2 = 0 then downwards.reverse else downwards

def zigzag : List (Nat × Nat) := (List.range 15).flatMap diagonal

/-- The quantiser that a table has for a frequency. -/
def quantiserAt (table : List UInt8) (across down : Nat) : UInt8 :=
  table.getD (zigzag.idxOf (across, down)) 0

example : zigzag.take 6 = [(0, 0), (1, 0), (0, 1), (0, 2), (1, 1), (2, 0)] ∧
    zigzag.length = 64 := by
  decide

structure Component where
  id : UInt8
  sampling : UInt8
  table : UInt8
  deriving DecidableEq

/-- What the segments in front of the scan declare. A later table replaces an earlier one. -/
structure Header where
  tables : List (UInt8 × List UInt8) := []
  restartInterval : Nat := 0
  width : Nat := 0
  height : Nat := 0
  components : List Component := []
  deriving DecidableEq

def number (high low : UInt8) : Nat := high.toNat * 256 + low.toNat

/-- Tables of 64 quantisers, each behind its number. -/
def readTables (body : List UInt8) : Option (List (UInt8 × List UInt8)) :=
  match body with
  | [] => some []
  | id :: rest =>
    if rest.length < 64 then none
    else (readTables (rest.drop 64)).map ((id, rest.take 64) :: ·)
termination_by body.length
decreasing_by
  rw [List.length_drop, List.length_cons]
  omega

def readComponents : List UInt8 → Option (List Component)
  | [] => some []
  | id :: sampling :: table :: rest => (readComponents rest).map (⟨id, sampling, table⟩ :: ·)
  | _ => none

def readFrame (body : List UInt8) (header : Header) : Option Header :=
  match body with
  | _ :: heightHigh :: heightLow :: widthHigh :: widthLow :: count :: rest => do
    let components ← readComponents rest
    guard (components.length = count.toNat)
    return { header with
      height := number heightHigh heightLow, width := number widthHigh widthLow, components }
  | _ => none

def readRestart (body : List UInt8) (header : Header) : Option Header :=
  match body with
  | [high, low] => some { header with restartInterval := number high low }
  | _ => none

/-- Segments of other kinds declare nothing that is read here. -/
def interpret (marker : UInt8) (body : List UInt8) (header : Header) : Option Header :=
  if marker = 0xdb then
    (readTables body).map fun tables => { header with tables := tables.reverse ++ header.tables }
  else if marker = 0xdd then readRestart body header
  else if marker = 0xc0 then readFrame body header
  else some header

/-- What is left is the entropy-coded data. -/
def readSegments : Nat → Header → List UInt8 → Option (Header × List UInt8)
  | fuel + 1, header, first :: marker :: high :: low :: rest =>
    if first ≠ 0xff ∨ number high low < 2 ∨ rest.length + 2 < number high low then none
    else
      match interpret marker (rest.take (number high low - 2)) header with
      | none => none
      | some header =>
        let rest := rest.drop (number high low - 2)
        if marker = 0xda then some (header, rest) else readSegments fuel header rest
  | _, _, _ => none

def readFile : List UInt8 → Option (Header × List UInt8)
  | 0xff :: 0xd8 :: rest => readSegments rest.length {} rest
  | _ => none

/-- A segment as it is written. Its length counts the two bytes of the length. -/
def segmentBytes (marker : UInt8) (body : List UInt8) : List UInt8 :=
  [0xff, marker, UInt8.ofNat ((body.length + 2) / 256), UInt8.ofNat (body.length + 2)] ++ body

theorem number_bytes {value : Nat} (fits : value < 65536) :
    number (UInt8.ofNat (value / 256)) (UInt8.ofNat value) = value := by
  rw [number, UInt8.toNat_ofNat', UInt8.toNat_ofNat']
  omega

section Segments
variable {marker : UInt8} {body rest : List UInt8} {header next : Header}

private theorem readSegments_step (fuel : Nat) (fits : body.length + 2 < 65536)
    (known : interpret marker body header = some next) :
    readSegments (fuel + 1) header (segmentBytes marker body ++ rest) =
      if marker = 0xda then some (next, rest) else readSegments fuel next rest := by
  have taken : (body ++ rest).take (body.length + 2 - 2) = body := List.take_left
  have dropped : (body ++ rest).drop (body.length + 2 - 2) = rest := List.drop_left
  have whole : ¬ ((0xff : UInt8) ≠ 0xff ∨ body.length + 2 < 2 ∨
      (body ++ rest).length + 2 < body.length + 2) := by
    rw [List.length_append]
    rintro (wrong | wrong | wrong)
    · exact wrong rfl
    · omega
    · omega
  have read : ∀ high low, number high low = body.length + 2 →
      readSegments (fuel + 1) header (0xff :: marker :: high :: low :: (body ++ rest)) =
        if marker = 0xda then some (next, rest) else readSegments fuel next rest := by
    intro high low length
    rw [readSegments, length, if_neg whole, taken, known]
    dsimp only
    rw [dropped]
  exact read _ _ (number_bytes fits)

/-- A segment in front of the scan is read, and the next one follows. -/
theorem readSegments_segment (fuel : Nat) (other : marker ≠ 0xda) (fits : body.length + 2 < 65536)
    (known : interpret marker body header = some next) :
    readSegments (fuel + 1) header (segmentBytes marker body ++ rest) =
      readSegments fuel next rest := by
  rw [readSegments_step fuel fits known, if_neg other]

theorem readSegments_scan (fuel : Nat) (fits : body.length + 2 < 65536) :
    readSegments (fuel + 1) header (segmentBytes 0xda body ++ rest) = some (header, rest) := by
  have known : interpret 0xda body header = some header := rfl
  rw [readSegments_step fuel fits known, if_pos rfl]

theorem interpret_table {table : List UInt8} (id : UInt8) (full : table.length = 64) :
    interpret 0xdb (id :: table) header =
      some { header with tables := (id, table) :: header.tables } := by
  have short : ¬ table.length < 64 := by omega
  have all : table.take 64 = table := List.take_of_length_le (by omega)
  have none_ : table.drop 64 = [] := List.drop_eq_nil_of_le (by omega)
  change (readTables (id :: table)).map _ = _
  rw [readTables, if_neg short, none_, readTables, all]
  rfl

end Segments

end Glide.Library.JpegFiles
