import Glide.MavlinkBridge

/-! Which lines a received frame can put into the result of `poll`. A parameter
or a status text is written behind a fixed key, and the decoded text is cut at
line breaks again, so the key holds for every line exactly when no line break
comes from the frame itself. -/
namespace Glide.TelemetryLines
open Library AsciiText BinaryFloat MavlinkFrames MavlinkDecode MavlinkBridge

/-- The lines a frame contributes; they do not depend on the state of the bridge. -/
def frameLines (frame : Frame) : List (List UInt8) := (handleFrame {} frame).2

/-- The frames that one `poll` handles. -/
def pollFrames (bridge : UdpBridge) (reads : List Receive) : List Frame :=
  if bridge.running then go bridge reads else []
where
  go (bridge : UdpBridge) : List Receive → List Frame
    | .bytes (byte :: data) sender :: rest =>
      let received := receiveFrames bridge (byte :: data) sender
      received.2 ++ go (handleFrames received.1 received.2).1 rest
    | _ => []

private theorem trackHeartbeat_lines (bridge : UdpBridge) (frame : Frame) :
    (trackHeartbeat bridge frame).2 = (trackHeartbeat {} frame).2 := by
  unfold trackHeartbeat
  split
  · rfl
  · split
    · rfl
    · split <;> rfl

theorem handleFrame_lines (bridge : UdpBridge) (frame : Frame) :
    (handleFrame bridge frame).2 = frameLines frame := by
  unfold frameLines handleFrame
  split
  · exact congrArg (· ++ decodedLines frame) (trackHeartbeat_lines bridge frame)
  · rfl

/-- Only heartbeats contribute lines besides the decoded text. -/
theorem frameLines_decoded (other : frame.msgid ≠ 0) : frameLines frame = decodedLines frame := by
  simp [frameLines, handleFrame, other]

theorem handleFrames_lines (bridge : UdpBridge) (frames : List Frame) :
    (handleFrames bridge frames).2 = frames.flatMap frameLines := by
  induction frames generalizing bridge with
  | nil => rfl
  | cons frame rest ih =>
    simp only [handleFrames, List.flatMap_cons, handleFrame_lines, ih]

theorem pollReads_lines (bridge : UdpBridge) (reads : List Receive) :
    (pollReads bridge reads).2 = (pollFrames.go bridge reads).flatMap frameLines := by
  induction reads generalizing bridge with
  | nil => rfl
  | cons read rest ih =>
    cases read with
    | failed error wouldBlock => cases wouldBlock <;> rfl
    | bytes data sender =>
      cases data with
      | nil => cases transport : bridge.transport <;> simp [pollReads, pollFrames.go, transport]
      | cons byte data =>
        simp only [pollReads, pollFrames.go, List.flatMap_append, handleFrames_lines, ih]

/-- The lines of a poll are those of its frames, in order. -/
theorem poll_lines (bridge : UdpBridge) (reads : List Receive) :
    (poll bridge reads).2 = (pollFrames bridge reads).flatMap frameLines := by
  unfold poll pollFrames
  split
  · exact pollReads_lines bridge reads
  · rfl

/-- A frame gives at most one line, and the line starts with the key. -/
def OneLine (key : List UInt8) (frame : Frame) : Prop :=
  (frameLines frame).length ≤ 1 ∧ ∀ line ∈ frameLines frame, key <+: line

/-- Parameters and status texts stay behind their keys. -/
def KeepsItsKey (frame : Frame) : Prop :=
  (frame.msgid = 22 ∨ frame.msgid = 322 → OneLine (ascii "mav param auto") frame) ∧
    (frame.msgid = 253 → OneLine (ascii "mav message") frame)

/-- The types of PARAM_EXT_VALUE whose value is printed as a number. -/
def NumericType (payload : List UInt8) : Prop :=
  1 ≤ readLe 1 payload 148 ∧ readLe 1 payload 148 ≤ 10

/-- No line break in a parameter name, and nothing but line breaks after the
first one in a textual value. -/
def Unbroken (frame : Frame) : Prop :=
  (frame.msgid = 22 → 10 ∉ cString frame.payload 8 16) ∧
    (frame.msgid = 322 → cString frame.payload 4 16 ≠ [] →
      10 ∉ cString frame.payload 4 16 ∧
        (¬NumericType frame.payload →
          ∀ byte ∈ (cString frame.payload 20 128).dropWhile (· ≠ 10), byte = 10))

/-- The lines of a text behind a key: one, exactly when only line breaks follow
the first line break. -/
theorem keyed_text {key rest : List UInt8} (present : key ≠ []) (unbroken : 10 ∉ key) :
    (((lines (key ++ rest)).filter (· ≠ [])).length ≤ 1 ∧
        ∀ line ∈ (lines (key ++ rest)).filter (· ≠ []), key <+: line) ↔
      ∀ byte ∈ rest.dropWhile (· ≠ 10), byte = 10 := by
  have free : ∀ byte ∈ key, decide (byte ≠ 10) = true := by
    intro byte member
    simp only [ne_eq, decide_not, Bool.not_eq_true', decide_eq_false_iff_not]
    rintro rfl
    exact unbroken member
  have front : (key ++ rest).takeWhile (· ≠ 10) = key ++ rest.takeWhile (· ≠ 10) :=
    List.takeWhile_append_of_pos free
  have back : (key ++ rest).dropWhile (· ≠ 10) = rest.dropWhile (· ≠ 10) :=
    List.dropWhile_append_of_pos free
  have start : (key ++ rest).takeWhile (· ≠ 10) ≠ [] := by
    rw [front]
    simp [present]
  have breaks : (∀ byte ∈ (rest.dropWhile (· ≠ 10)).tail, byte = 10) ↔
      ∀ byte ∈ rest.dropWhile (· ≠ 10), byte = 10 := by
    cases shape : rest.dropWhile (· ≠ 10) with
    | nil => simp
    | cons byte tail =>
      have first := List.head?_dropWhile_not (· ≠ (10 : UInt8)) rest
      rw [shape] at first
      simp only [List.head?_cons, ne_eq, decide_not, Bool.not_eq_false', decide_eq_true_eq] at first
      simp [first]
  rw [written_lines start, back, front, ← breaks, ← no_written_lines]
  constructor
  · rintro ⟨single, _⟩
    simpa using single
  · intro none
    rw [none]
    exact ⟨Nat.le_refl _, by simp⟩

theorem keyed_name {key name value : List UInt8} (present : key ≠ []) (unbroken : 10 ∉ key) :
    (((lines (key ++ name ++ [32] ++ value)).filter (· ≠ [])).length ≤ 1 ∧
        ∀ line ∈ (lines (key ++ name ++ [32] ++ value)).filter (· ≠ []), key <+: line) ↔
      10 ∉ name ∧ ∀ byte ∈ value.dropWhile (· ≠ 10), byte = 10 := by
  simp only [List.append_assoc]
  rw [keyed_text present unbroken]
  by_cases broken : 10 ∈ name
  · have kept : name.dropWhile (· ≠ 10) ≠ [] := by
      intro empty
      have all := List.dropWhile_eq_nil_iff.mp empty 10 broken
      simp at all
    have whole : (name ++ ([32] ++ value)).dropWhile (· ≠ 10) =
        name.dropWhile (· ≠ 10) ++ ([32] ++ value) := by
      rw [List.dropWhile_append, if_neg (by simpa using kept)]
    simp only [whole, broken, not_true_eq_false, false_and, iff_false]
    intro all
    exact absurd (all 32 (by simp)) (by decide)
  · have free : ∀ byte ∈ name ++ [32], decide (byte ≠ 10) = true := by
      intro byte member
      simp only [ne_eq, decide_not, Bool.not_eq_true', decide_eq_false_iff_not]
      rintro rfl
      rcases List.mem_append.mp member with inside | space
      · exact broken inside
      · exact absurd (List.mem_singleton.mp space) (by decide)
    rw [← List.append_assoc, List.dropWhile_append_of_pos free]
    simp [broken]

private theorem auto_line (name value : List UInt8) :
    (((lines (ascii "mav param auto " ++ name ++ [32] ++ value)).filter (· ≠ [])).length ≤ 1 ∧
        ∀ line ∈ (lines (ascii "mav param auto " ++ name ++ [32] ++ value)).filter (· ≠ []),
          ascii "mav param auto" <+: line) ↔
      10 ∉ name ∧ ∀ byte ∈ value.dropWhile (· ≠ 10), byte = 10 := by
  have spaced : ascii "mav param auto " ++ name = ascii "mav param auto" ++ (32 :: name) := rfl
  rw [spaced, keyed_name (by decide) (by decide)]
  simp

private theorem unbroken_rest {text : List UInt8} (unbroken : 10 ∉ text) :
    ∀ byte ∈ text.dropWhile (· ≠ 10), byte = 10 := by
  have empty : text.dropWhile (· ≠ 10) = [] := by
    rw [List.dropWhile_eq_nil_iff]
    intro byte member
    simp only [ne_eq, decide_not, Bool.not_eq_true', decide_eq_false_iff_not]
    rintro rfl
    exact unbroken member
  rw [empty]
  simp

/-- A PARAM_VALUE keeps its key exactly when its name has no line break. -/
theorem param_value_line (is : frame.msgid = 22) :
    OneLine (ascii "mav param auto") frame ↔ 10 ∉ cString frame.payload 8 16 := by
  have decoded : decodeFrame frame = decodeParamValue frame.payload := by simp [decodeFrame, is]
  unfold OneLine
  rw [frameLines_decoded (by simp [is]), decodedLines, decoded, decodeParamValue]
  by_cases empty : cString frame.payload 8 16 = []
  · simp [empty]
  · simp only [empty, ne_eq, not_false_eq_true, ↓reduceIte]
    rw [auto_line]
    exact and_iff_left (unbroken_rest fixedText_unbroken)

private theorem numeric_value (numeric : NumericType payload) : 10 ∉ paramExtValue payload := by
  unfold NumericType at numeric
  unfold paramExtValue
  split
  case h_11 => grind
  all_goals first
    | exact decimal_unbroken
    | exact signedDecimal_unbroken
    | exact fixedText_unbroken

private theorem text_value (text : ¬NumericType payload) :
    paramExtValue payload = cString payload 20 128 := by
  unfold NumericType at text
  unfold paramExtValue
  split
  case h_11 => rfl
  all_goals omega

/-- A PARAM_EXT_VALUE keeps its key exactly when neither its name nor a textual
value starts another line. -/
theorem param_ext_value_line (is : frame.msgid = 322) :
    OneLine (ascii "mav param auto") frame ↔
      (cString frame.payload 4 16 ≠ [] → 10 ∉ cString frame.payload 4 16 ∧
        (¬NumericType frame.payload →
          ∀ byte ∈ (cString frame.payload 20 128).dropWhile (· ≠ 10), byte = 10)) := by
  have decoded : decodeFrame frame = decodeParamExtValue frame.payload := by
    simp [decodeFrame, is]
  unfold OneLine
  rw [frameLines_decoded (by simp [is]), decodedLines, decoded, decodeParamExtValue]
  by_cases empty : cString frame.payload 4 16 = []
  · simp [empty]
  · simp only [empty, ne_eq, not_false_eq_true, ↓reduceIte, forall_const]
    rw [auto_line]
    apply and_congr_right
    intro _
    by_cases numeric : NumericType frame.payload
    · exact iff_of_true (unbroken_rest (numeric_value numeric)) fun text => absurd numeric text
    · rw [text_value numeric]
      exact ⟨fun all _ => all, fun all => all numeric⟩

/-- A status text is stripped of line breaks, so it always keeps its key. -/
theorem statustext_line (is : frame.msgid = 253) : OneLine (ascii "mav message") frame := by
  have decoded : decodeFrame frame = decodeStatustext frame.payload := by simp [decodeFrame, is]
  unfold OneLine
  rw [frameLines_decoded (by simp [is]), decodedLines, decoded, decodeStatustext]
  by_cases empty : trimPayloadString (cString frame.payload 1
      (if frame.payload.length > 51 then 254 else 50)) = []
  · simp [empty]
  · have shape (severity text : List UInt8) : ascii "mav message [" ++ severity ++ ascii "] " ++ text =
        ascii "mav message" ++ (ascii " [" ++ severity ++ ascii "] " ++ text) := by
      rw [show ascii "mav message [" = ascii "mav message" ++ ascii " [" from rfl]
      simp only [List.append_assoc]
    simp only [empty, ne_eq, not_false_eq_true, ↓reduceIte]
    rw [shape]
    refine (keyed_text (by decide) (by decide)).mpr (unbroken_rest ?_)
    have bracket : 10 ∉ ascii " [" ++ decimal (readLe 1 frame.payload 0) ++ ascii "] " := by
      simp only [List.mem_append, decimal_unbroken, or_false]
      decide
    intro member
    rcases List.mem_append.mp member with before | inside
    · exact bracket before
    · simp [trimPayloadString] at inside

/-- Every line of a poll comes from one of its frames, and the parameters and
status texts among them keep to one line behind their key exactly when none of
their names and values starts another line. -/
theorem telemetry_keeps_its_keys_iff (bridge : UdpBridge) (reads : List Receive) :
    (poll bridge reads).2 = (pollFrames bridge reads).flatMap frameLines ∧
      ((∀ frame ∈ pollFrames bridge reads, KeepsItsKey frame) ↔
        ∀ frame ∈ pollFrames bridge reads, Unbroken frame) := by
  refine ⟨poll_lines bridge reads, ?_⟩
  have each (frame : Frame) : KeepsItsKey frame ↔ Unbroken frame := by
    constructor
    · rintro ⟨parameter, _⟩
      exact ⟨fun is => (param_value_line is).mp (parameter (.inl is)),
        fun is => (param_ext_value_line is).mp (parameter (.inr is))⟩
    · rintro ⟨value, extended⟩
      refine ⟨?_, statustext_line⟩
      rintro (is | is)
      · exact (param_value_line is).mpr (value is)
      · exact (param_ext_value_line is).mpr (extended is)
  exact forall₂_congr fun frame _ => each frame

/-- A datagram with one PARAM_VALUE whose name is `X`, a line break and `mav armed 1`. -/
def forgedDatagram : List UInt8 :=
  [0xfe, 25, 0, 1, 1, 22] ++ [0, 0, 0, 0, 1, 0, 0, 0] ++ ascii "X\nmav armed 1" ++ [0, 0, 0] ++
    [9, 0, 0]

theorem parameter_name_forges_armed_line :
    (poll { running := true } [.bytes forgedDatagram []]).2 =
        [ascii "mav param auto X", ascii "mav armed 1 0.00"] ∧
      ¬∀ frame ∈ pollFrames { running := true } [.bytes forgedDatagram []],
        KeepsItsKey frame := by
  have frames : pollFrames { running := true } [.bytes forgedDatagram []] =
      [⟨1, 1, 22, forgedDatagram.drop 6 |>.take 25⟩] := by decide
  refine ⟨by decide, ?_⟩
  rw [frames]
  intro keeps
  have single := ((keeps _ (List.mem_singleton_self _)).1 (.inl rfl)).1
  revert single
  decide

end Glide.TelemetryLines
