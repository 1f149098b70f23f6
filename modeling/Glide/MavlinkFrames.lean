import Glide.Library.IncrementalParser

/-! MAVLink frames in datagrams and in the TCP byte stream. Both parsers look
for a magic byte, measure the frame it announces and wait when the frame is not
complete; the stream parser keeps what it has not consumed for the next read. -/
namespace Glide.MavlinkFrames
open Library

structure Frame where
  sysid : UInt8
  compid : UInt8
  msgid : UInt32
  payload : List UInt8
  deriving DecidableEq, Repr

def byteAt (data : List UInt8) (offset : Nat) : UInt8 := data.getD offset 0

def isMagic (byte : UInt8) : Bool := byte = 0xfe || byte = 0xfd

/-- Whether the frame at the front of the data announces MAVLink 2. -/
def mavlink2 (data : List UInt8) : Bool := byteAt data 0 = 0xfd

def headerLen (data : List UInt8) : Nat := if mavlink2 data then 10 else 6

def payloadLen (data : List UInt8) : Nat := (byteAt data 1).toNat

/-- A signed MAVLink 2 frame carries thirteen more bytes. -/
def signatureLen (data : List UInt8) : Nat :=
  if mavlink2 data && byteAt data 2 &&& 0x01 ≠ 0 then 13 else 0

def frameLen (data : List UInt8) : Nat :=
  headerLen data + payloadLen data + 2 + signatureLen data

/-- The frame at the front of data that holds all of it. -/
def frontFrame (data : List UInt8) : Frame :=
  if mavlink2 data then
    { sysid := byteAt data 5
      compid := byteAt data 6
      msgid := (byteAt data 7).toUInt32 ||| ((byteAt data 8).toUInt32 <<< 8) |||
        ((byteAt data 9).toUInt32 <<< 16)
      payload := (data.drop 10).take (payloadLen data) }
  else
    { sysid := byteAt data 3
      compid := byteAt data 4
      msgid := (byteAt data 5).toUInt32
      payload := (data.drop 6).take (payloadLen data) }

/-- The loop of `parse_datagram` over the data that remains. Every turn consumes
a byte or stops, so as many turns as there are bytes suffice. -/
def parseDatagramFrom : Nat → List UInt8 → List Frame
  | _, [] => []
  | 0, _ => []
  | turns + 1, magic :: rest =>
    let data := magic :: rest
    if !isMagic magic then parseDatagramFrom turns rest
    else if data.length < headerLen data + 2 then []
    else if data.length < frameLen data then []
    else frontFrame data :: parseDatagramFrom turns (data.drop (frameLen data))

def parseDatagram (data : List UInt8) : List Frame := parseDatagramFrom data.length data

/-- The loop of `parse_stream`: the frames, and the bytes that are not consumed. -/
def parseStreamFrom : Nat → List UInt8 → List Frame × List UInt8
  | _, [] => ([], [])
  | 0, bytes => ([], bytes)
  | turns + 1, magic :: rest =>
    let bytes := magic :: rest
    if !isMagic magic then parseStreamFrom turns rest
    else if bytes.length < headerLen bytes + 2 then ([], bytes)
    else if bytes.length < frameLen bytes then ([], bytes)
    else
      let parsed := parseDatagram (bytes.take (frameLen bytes))
      let later := parseStreamFrom turns (bytes.drop (frameLen bytes))
      (parsed.head?.toList ++ later.1, later.2)

def parseStream (bytes : List UInt8) : List Frame × List UInt8 :=
  parseStreamFrom bytes.length bytes

/-- One TCP read of `poll`: the bytes join the stream buffer and the complete
frames leave it. -/
def readChunk (received : List Frame × List UInt8) (chunk : List UInt8) :
    List Frame × List UInt8 :=
  let parsed := parseStream (received.2 ++ chunk)
  (received.1 ++ parsed.1, parsed.2)

/-! ### The decision at the front of the data -/

/-- What one turn of either loop decides: wait, skip a byte or take a frame. -/
def nextPiece : List UInt8 → Option (Option Frame × Nat)
  | [] => none
  | magic :: rest =>
    let data := magic :: rest
    if !isMagic magic then some (none, 1)
    else if data.length < headerLen data + 2 then none
    else if data.length < frameLen data then none
    else some (some (frontFrame data), frameLen data)

theorem headerLen_bounds (data : List UInt8) : 6 ≤ headerLen data ∧ headerLen data ≤ 10 := by
  unfold headerLen
  split <;> omega

theorem frameLen_bounds (data : List UInt8) :
    headerLen data + payloadLen data + 2 ≤ frameLen data ∧
      frameLen data ≤ headerLen data + payloadLen data + 15 := by
  unfold frameLen signatureLen
  split <;> omega

/-- A signed MAVLink 2 frame with a full payload is the longest one. -/
theorem frameLen_max (data : List UInt8) : frameLen data ≤ 280 := by
  have header := headerLen_bounds data
  have frame := frameLen_bounds data
  have payload : payloadLen data ≤ 255 := Nat.le_of_lt_succ (byteAt data 1).toNat_lt
  omega

theorem byteAt_append (inside : offset < data.length) :
    byteAt (data ++ later) offset = byteAt data offset := by
  simp [byteAt, List.getD_eq_getElem?_getD, List.getElem?_append_left inside]

/-- What a header says is read from the header alone. -/
theorem header_append (data later : List UInt8) (header : headerLen data + 2 ≤ data.length) :
    mavlink2 (data ++ later) = mavlink2 data ∧ payloadLen (data ++ later) = payloadLen data ∧
      headerLen (data ++ later) = headerLen data ∧ frameLen (data ++ later) = frameLen data := by
  have bounds := headerLen_bounds data
  have version : mavlink2 (data ++ later) = mavlink2 data := by
    unfold mavlink2
    rw [byteAt_append (by omega)]
  have payload : payloadLen (data ++ later) = payloadLen data := by
    unfold payloadLen
    rw [byteAt_append (by omega)]
  have signature : signatureLen (data ++ later) = signatureLen data := by
    unfold signatureLen
    rw [version, byteAt_append (by omega)]
  have length : headerLen (data ++ later) = headerLen data := by
    unfold headerLen
    rw [version]
  refine ⟨version, payload, length, ?_⟩
  unfold frameLen
  rw [length, payload, signature]

/-- More data after a complete frame does not change the frame. -/
theorem frontFrame_append (data later : List UInt8) (complete : frameLen data ≤ data.length) :
    frontFrame (data ++ later) = frontFrame data := by
  have bounds := frameLen_bounds data
  obtain ⟨version, payload, _, _⟩ := header_append data later (by omega)
  have slice (offset : Nat) (inside : offset + payloadLen data ≤ data.length) :
      ((data ++ later).drop offset).take (payloadLen data) =
        (data.drop offset).take (payloadLen data) := by
    rw [List.drop_append_of_le_length (by omega),
      List.take_append_of_le_length (by rw [List.length_drop]; omega)]
  unfold frontFrame
  rw [version, payload]
  cases newer : mavlink2 data with
  | true =>
    simp only [frameLen, headerLen, newer, ↓reduceIte] at complete ⊢
    rw [slice 10 (by omega)]
    simp (disch := omega) only [byteAt_append]
  | false =>
    simp only [frameLen, headerLen, newer, Bool.false_eq_true, ↓reduceIte] at complete ⊢
    rw [slice 6 (by omega)]
    simp (disch := omega) only [byteAt_append]

theorem nextPiece_skips (skipped : isMagic byte = false) :
    nextPiece (byte :: rest) = some (none, 1) := by
  simp [nextPiece, skipped]

/-- Both checks of the length wait for the whole frame. -/
theorem nextPiece_waits (magic : isMagic byte = true)
    (incomplete : (byte :: rest).length < frameLen (byte :: rest)) :
    nextPiece (byte :: rest) = none := by
  simp only [nextPiece, magic, incomplete, Bool.not_true, Bool.false_eq_true, ↓reduceIte, ite_self]

theorem nextPiece_frame (magic : isMagic byte = true)
    (complete : frameLen (byte :: rest) ≤ (byte :: rest).length) :
    nextPiece (byte :: rest) =
      some (some (frontFrame (byte :: rest)), frameLen (byte :: rest)) := by
  have bounds := frameLen_bounds (byte :: rest)
  simp only [nextPiece, magic, Bool.not_true, Bool.false_eq_true, ↓reduceIte]
  rw [if_neg (by omega), if_neg (by omega)]

/-- The three decisions a turn can make. -/
theorem nextPiece_cases (byte : UInt8) (rest : List UInt8) :
    isMagic byte = false ∧ nextPiece (byte :: rest) = some (none, 1) ∨
    isMagic byte = true ∧ (byte :: rest).length < frameLen (byte :: rest) ∧
      nextPiece (byte :: rest) = none ∨
    isMagic byte = true ∧ frameLen (byte :: rest) ≤ (byte :: rest).length ∧
      nextPiece (byte :: rest) =
        some (some (frontFrame (byte :: rest)), frameLen (byte :: rest)) := by
  cases magic : isMagic byte with
  | false => exact .inl ⟨rfl, nextPiece_skips magic⟩
  | true =>
    rcases Nat.lt_or_ge (byte :: rest).length (frameLen (byte :: rest)) with short | complete
    · exact .inr (.inl ⟨rfl, short, nextPiece_waits magic short⟩)
    · exact .inr (.inr ⟨rfl, complete, nextPiece_frame magic complete⟩)

/-- The decision is made on the front of the data, and it consumes at least a byte. -/
def streamParser : IncrementalParser UInt8 Frame where
  next := nextPiece
  progress := by
    intro input item size found
    cases input with
    | nil => cases found
    | cons byte rest =>
      obtain ⟨_, piece⟩ | ⟨_, _, piece⟩ | ⟨_, complete, piece⟩ := nextPiece_cases byte rest <;>
        rw [piece] at found <;> cases found
      · simp
      · have bounds := frameLen_bounds (byte :: rest)
        exact ⟨by omega, complete⟩
  stable := by
    intro input piece later found
    cases input with
    | nil => cases found
    | cons byte rest =>
      obtain ⟨skipped, front⟩ | ⟨_, _, front⟩ | ⟨magic, complete, front⟩ :=
        nextPiece_cases byte rest <;> rw [front] at found <;> cases found
      · exact nextPiece_skips skipped
      · have bounds := frameLen_bounds (byte :: rest)
        have same := (header_append (byte :: rest) later (by omega)).2.2.2
        have frame := frontFrame_append _ later complete
        rw [List.cons_append] at same frame ⊢
        rw [nextPiece_frame magic, same, frame]
        rw [same, ← List.cons_append, List.length_append]
        omega

theorem drain_frame (magic : isMagic byte = true)
    (complete : frameLen (byte :: rest) ≤ (byte :: rest).length) :
    streamParser.drain (byte :: rest) =
      (frontFrame (byte :: rest) ::
          (streamParser.drain ((byte :: rest).drop (frameLen (byte :: rest)))).1,
        (streamParser.drain ((byte :: rest).drop (frameLen (byte :: rest)))).2) := by
  have front : streamParser.next (byte :: rest) = _ := nextPiece_frame magic complete
  rw [streamParser.drain_consumes front]
  rfl

theorem drain_skips (skipped : isMagic byte = false) :
    streamParser.drain (byte :: rest) = streamParser.drain rest := by
  have front : streamParser.next (byte :: rest) = _ := nextPiece_skips skipped
  rw [streamParser.drain_consumes front]
  rfl

theorem drain_short (magic : isMagic byte = true)
    (incomplete : (byte :: rest).length < frameLen (byte :: rest)) :
    streamParser.drain (byte :: rest) = ([], byte :: rest) := by
  have front : streamParser.next (byte :: rest) = none := nextPiece_waits magic incomplete
  exact streamParser.drain_waits front

theorem drain_nil : streamParser.drain [] = ([], []) := streamParser.drain_waits rfl

/-- The datagram loop finds the frames of the incremental parser. -/
theorem parseDatagramFrom_eq (enough : data.length ≤ turns) :
    parseDatagramFrom turns data = (streamParser.drain data).1 := by
  induction turns generalizing data with
  | zero =>
    rw [List.length_eq_zero_iff.mp (by omega : data.length = 0), drain_nil]
    rfl
  | succ turns ih =>
    cases data with
    | nil => rw [drain_nil]; rfl
    | cons byte rest =>
      simp only [List.length_cons] at enough
      have bounds := frameLen_bounds (byte :: rest)
      unfold parseDatagramFrom
      dsimp only
      obtain ⟨skipped, _⟩ | ⟨magic, short, _⟩ | ⟨magic, complete, _⟩ := nextPiece_cases byte rest
      · rw [if_pos (by simp [skipped]), drain_skips skipped, ih (by omega)]
      · rw [drain_short magic short]
        simp only [magic, short, Bool.not_true, Bool.false_eq_true, ↓reduceIte, ite_self]
      · rw [drain_frame magic complete, if_neg (by simp [magic]), if_neg (by omega),
          if_neg (by omega), ih]
        simp only [List.length_drop, List.length_cons]
        omega

theorem parseDatagram_eq (data : List UInt8) : parseDatagram data = (streamParser.drain data).1 :=
  parseDatagramFrom_eq (Nat.le_refl _)

/-- The slice of one complete frame parses to that frame first. -/
theorem parseDatagram_front (magic : isMagic byte = true)
    (complete : frameLen (byte :: rest) ≤ (byte :: rest).length) :
    (parseDatagram ((byte :: rest).take (frameLen (byte :: rest)))).head? =
      some (frontFrame (byte :: rest)) := by
  have bounds := frameLen_bounds (byte :: rest)
  obtain ⟨count, length⟩ := Nat.exists_eq_add_of_le' (by omega : 1 ≤ frameLen (byte :: rest))
  have whole : (byte :: rest.take count) ++ rest.drop count = byte :: rest := by simp
  have header : headerLen (byte :: rest.take count) = headerLen (byte :: rest) := rfl
  have inside : (byte :: rest.take count).length = frameLen (byte :: rest) := by
    simp only [List.length_cons, List.length_take] at complete ⊢
    omega
  have same := (header_append (byte :: rest.take count) (rest.drop count) (by omega)).2.2.2
  rw [whole] at same
  have frame := frontFrame_append (byte :: rest.take count) (rest.drop count) (by omega)
  rw [whole] at frame
  rw [length, List.take_succ_cons, parseDatagram_eq, drain_frame magic (by omega), frame]
  rfl

/-- The stream loop is the incremental parser. -/
theorem parseStreamFrom_eq (enough : bytes.length ≤ turns) :
    parseStreamFrom turns bytes = streamParser.drain bytes := by
  induction turns generalizing bytes with
  | zero =>
    rw [List.length_eq_zero_iff.mp (by omega : bytes.length = 0), drain_nil]
    rfl
  | succ turns ih =>
    cases bytes with
    | nil => rw [drain_nil]; rfl
    | cons byte rest =>
      simp only [List.length_cons] at enough
      have bounds := frameLen_bounds (byte :: rest)
      unfold parseStreamFrom
      dsimp only
      obtain ⟨skipped, _⟩ | ⟨magic, short, _⟩ | ⟨magic, complete, _⟩ := nextPiece_cases byte rest
      · rw [if_pos (by simp [skipped]), drain_skips skipped, ih (by omega)]
      · rw [drain_short magic short]
        simp only [magic, short, Bool.not_true, Bool.false_eq_true, ↓reduceIte, ite_self]
      · rw [drain_frame magic complete, if_neg (by simp [magic]), if_neg (by omega),
          if_neg (by omega), parseDatagram_front magic complete, ih]
        · rfl
        · simp only [List.length_drop, List.length_cons]
          omega

theorem parseStream_eq (bytes : List UInt8) : parseStream bytes = streamParser.drain bytes :=
  parseStreamFrom_eq (Nat.le_refl _)

/-- Reading chunks one at a time finds what one read of all of them finds. -/
theorem read_chunks (chunks : List (List UInt8)) :
    chunks.foldl readChunk ([], []) = streamParser.drain chunks.flatten := by
  have read : readChunk = streamParser.read := by
    funext received chunk
    simp only [readChunk, IncrementalParser.read, parseStream_eq]
  have waits : streamParser.next [] = none := rfl
  have agree := @IncrementalParser.reads_agree _ _ streamParser [] [] chunks waits
  rw [read, agree]
  simp

/-- What a parse leaves is nothing, or starts with a magic byte and is shorter
than the longest frame. -/
theorem leftover_shape (bytes : List UInt8) :
    (parseStream bytes).2 = [] ∨
      ∃ magic rest, (parseStream bytes).2 = magic :: rest ∧ (magic = 0xfe ∨ magic = 0xfd) ∧
        (magic :: rest).length < 280 := by
  have waits : nextPiece (parseStream bytes).2 = none := by
    rw [parseStream_eq]
    exact streamParser.drain_leftover_waits bytes
  cases left : (parseStream bytes).2 with
  | nil => exact .inl rfl
  | cons byte rest =>
    rw [left] at waits
    obtain ⟨_, front⟩ | ⟨magic, short, _⟩ | ⟨_, _, front⟩ := nextPiece_cases byte rest
    · rw [front] at waits
      cases waits
    · refine .inr ⟨byte, rest, rfl, by simpa [isMagic] using magic, ?_⟩
      exact Nat.lt_of_lt_of_le short (frameLen_max _)
    · rw [front] at waits
      cases waits

/-- However a TCP stream is cut into reads, the same frames arrive in order and
the same bytes stay in the buffer: the end of the stream from a magic byte on,
shorter than a frame can be. -/
theorem reads_are_independent_of_chunks (chunks : List (List UInt8)) :
    chunks.foldl readChunk ([], []) = parseStream chunks.flatten ∧
      (parseStream chunks.flatten).2 <:+ chunks.flatten ∧
      ((parseStream chunks.flatten).2 = [] ∨
        ∃ magic rest, (parseStream chunks.flatten).2 = magic :: rest ∧
          (magic = 0xfe ∨ magic = 0xfd) ∧ (magic :: rest).length < 280) := by
  rw [read_chunks, ← parseStream_eq]
  refine ⟨rfl, ?_, leftover_shape _⟩
  rw [parseStream_eq]
  exact streamParser.drain_leftover_suffix _

end Glide.MavlinkFrames
