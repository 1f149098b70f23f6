import Glide.TelemetrySnapshot

/-! What holds of the telemetry snapshot after any lines at all, well formed or not. -/
namespace Glide.TelemetryInvariants
open Library AsciiText BinaryFloat StreamExtraction MavlinkState TelemetrySnapshot

/-- A percentage as it is shown. -/
def Percent (value : Int) : Prop := 0 ≤ value ∧ value ≤ 100

structure Percents (telemetry : Telemetry) : Prop where
  link : Percent telemetry.linkQualityPercent
  rc : Percent telemetry.rcQualityPercent
  scan : Percent telemetry.scanProgress

/-- The message of a line, if it has one. -/
def messageOf (line : List UInt8) : List (List UInt8) :=
  let text := (nextWord line).2
  let rest := (nextWord text).2
  if (nextWord line).1 = ascii "mav" ∧ (nextWord text).1 = ascii "message" ∧ restAfter rest ≠ [] then
    [restAfter rest]
  else []

/-- The last five of what was received. -/
def lastFive (received : List α) : List α := received.drop (received.length - 5)

theorem clampPercent_percent (value : Int) : Percent (clampPercent value) := by
  unfold Percent clampPercent
  omega

/-! ### Numbers -/

/-- Numbers change no message, and take percentages to percentages. -/
structure Counts (before after : Telemetry) : Prop where
  messages : after.messages = before.messages
  percents : Percents before → Percents after

theorem counts_if {condition : Prop} [Decidable condition] {first second : Telemetry}
    (whenTrue : Counts before first) (whenFalse : Counts before second) :
    Counts before (if condition then first else second) := by
  split
  · exact whenTrue
  · exact whenFalse

/-- Neither messages nor percentages are touched. -/
theorem Counts.same (messages : after.messages = before.messages)
    (link : after.linkQualityPercent = before.linkQualityPercent)
    (rc : after.rcQualityPercent = before.rcQualityPercent)
    (scan : after.scanProgress = before.scanProgress) : Counts before after :=
  ⟨messages, fun percents => ⟨link ▸ percents.link, rc ▸ percents.rc, scan ▸ percents.scan⟩⟩

theorem counts_linkStats (stream : InputStream) (telemetry : Telemetry) :
    (applyLinkStats stream telemetry).messages = telemetry.messages ∧
      (applyLinkStats stream telemetry).scanProgress = telemetry.scanProgress := by
  unfold applyLinkStats
  dsimp only
  split
  · exact ⟨rfl, rfl⟩
  · exact ⟨rfl, rfl⟩

theorem counts_link (stream : InputStream) (telemetry : Telemetry) :
    Counts telemetry (applyLink stream telemetry) := by
  unfold applyLink
  dsimp only
  refine ⟨(counts_linkStats _ _).1, fun percents => ⟨clampPercent_percent _,
    clampPercent_percent _, ?_⟩⟩
  show Percent (applyLinkStats _ _).scanProgress
  rw [(counts_linkStats _ _).2]
  exact percents.scan

theorem counts_wifiCard (stream : InputStream) (telemetry : Telemetry) :
    Counts telemetry (applyWifiCard stream telemetry) := by
  unfold applyWifiCard
  dsimp only
  split
  · split
    · exact ⟨rfl, fun percents => ⟨clampPercent_percent _, clampPercent_percent _, percents.scan⟩⟩
    · exact ⟨rfl, fun percents => ⟨clampPercent_percent _, percents.rc, percents.scan⟩⟩
  · split
    · exact ⟨rfl, fun percents => ⟨percents.link, percents.link, percents.scan⟩⟩
    · exact ⟨rfl, fun percents => percents⟩

theorem counts_wifiLink (stream : InputStream) (telemetry : Telemetry) :
    Counts telemetry (applyWifiLink stream telemetry) :=
  ⟨rfl, fun percents => ⟨percents.link, clampPercent_percent _, percents.scan⟩⟩

theorem counts_openhd (text : List UInt8) (telemetry : Telemetry) :
    Counts telemetry (applyOpenhd text telemetry) :=
  counts_if (counts_wifiCard _ _) (counts_if (counts_wifiLink _ _)
    (counts_if (.same rfl rfl rfl rfl) (.same rfl rfl rfl rfl)))

theorem counts_alive (text : List UInt8) (telemetry : Telemetry) :
    Counts telemetry (applyAlive text telemetry) :=
  counts_if (.same rfl rfl rfl rfl) (counts_if (.same rfl rfl rfl rfl)
    (counts_if (.same rfl rfl rfl rfl) (.same rfl rfl rfl rfl)))

theorem counts_scan (stream : InputStream) (telemetry : Telemetry) :
    Counts telemetry (applyScan stream telemetry) :=
  ⟨rfl, fun percents => ⟨percents.link, percents.rc, clampPercent_percent _⟩⟩

theorem counts_numbers (key text : List UInt8) (telemetry : Telemetry) :
    Counts telemetry (applyNumbers key text telemetry) :=
  have same : Counts telemetry telemetry := .same rfl rfl rfl rfl
  counts_if (counts_alive _ _) (counts_if (.same rfl rfl rfl rfl) (counts_if (.same rfl rfl rfl rfl)
    (counts_if (.same rfl rfl rfl rfl) (counts_if (.same rfl rfl rfl rfl)
    (counts_if (.same rfl rfl rfl rfl) (counts_if (.same rfl rfl rfl rfl)
    (counts_if (counts_link _ _) (counts_if (counts_openhd _ _) (counts_if (counts_scan _ _)
    (counts_if (.same rfl rfl rfl rfl) same))))))))))

/-! ### Texts -/

theorem param_messages (cameraName : Int → List UInt8) (target name value : List UInt8)
    (snapshot : Snapshot) :
    (applyParam cameraName target name value snapshot).messages = snapshot.messages := by
  simp only [applyParam, apply_ite Snapshot.messages, ite_self]

theorem status_messages (field value : List UInt8) (snapshot : Snapshot) :
    (applyStatus field value snapshot).messages = snapshot.messages := by
  simp only [applyStatus, apply_ite Snapshot.messages, ite_self]

theorem lastFive_push (received : List α) (message : α) :
    lastFive (received ++ [message]) =
      (if (lastFive received).length < 5 then lastFive received else (lastFive received).tail) ++
        [message] := by
  have length : (lastFive received).length = min 5 received.length := by
    rw [lastFive, List.length_drop]
    omega
  rw [length]
  by_cases few : received.length < 5
  · have all : ∀ count ≤ 5, received.drop (count - 5) = received := by
      intro count below
      rw [Nat.sub_eq_zero_of_le below, List.drop_zero]
    rw [if_pos (by omega), lastFive, List.length_append, List.length_singleton,
      Nat.sub_eq_zero_of_le (by omega), List.drop_zero, lastFive, all _ (by omega)]
  · rw [if_neg (by omega), lastFive, lastFive, List.tail_drop, List.length_append,
      List.length_singleton, List.drop_append_of_le_length (by omega)]
    congr 2
    omega

/-- Only a message is pushed. -/
theorem text_messages (readers : Readers) (line : List UInt8) (snapshot : Snapshot)
    (own : (nextWord line).1 = ascii "mav")
    (texts : (nextWord (nextWord line).2).1 ∉ numberKeys) :
    (MavlinkState.applyIpcLine readers line snapshot).2.messages =
      if (nextWord (nextWord line).2).1 = ascii "message" then
        (pushMessage (restAfter (nextWord (nextWord line).2).2) snapshot).messages
      else snapshot.messages := by
  unfold MavlinkState.applyIpcLine
  dsimp only
  rw [if_neg (not_not.2 own), if_neg texts]
  by_cases mode : (nextWord (nextWord line).2).1 = ascii "mode"
  · rw [if_pos mode, mode]
    rfl
  · by_cases param : (nextWord (nextWord line).2).1 = ascii "param"
    · rw [if_neg mode, if_pos param, param, param_messages]
      rfl
    · by_cases status : (nextWord (nextWord line).2).1 = ascii "status"
      · rw [if_neg mode, if_neg param, if_pos status, status, status_messages]
        rfl
      · rw [if_neg mode, if_neg param, if_neg status]
        split
        · rfl
        · rfl

theorem push_messages (snapshot : Snapshot) (message : List UInt8)
    (kept : snapshot.messages = lastFive received) :
    (pushMessage message snapshot).messages =
      lastFive (received ++ if message ≠ [] then [message] else []) := by
  unfold pushMessage
  by_cases empty : message = []
  · rw [if_pos empty, if_neg (not_not.2 empty), List.append_nil]
    exact kept
  · rw [if_neg empty, if_pos empty, lastFive_push, ← kept]

/-- A line adds its message to the last ones, and nothing else. -/
theorem line_messages (cameraName : Int → List UInt8) (line : List UInt8) (telemetry : Telemetry)
    (kept : telemetry.messages = lastFive received) :
    (applyIpcLine cameraName line telemetry).2.messages =
      lastFive (received ++ messageOf line) := by
  by_cases own : (nextWord line).1 = ascii "mav"
  · by_cases number : (nextWord (nextWord line).2).1 ∈ numberKeys
    · have none : messageOf line = [] := by
        refine if_neg fun message => ?_
        rw [message.2.1] at number
        exact absurd number (by decide)
      rw [number_line _ _ _ own number, none, List.append_nil, ← kept]
      exact (counts_numbers _ _ _).messages
    · rw [text_line _ _ _ own number]
      refine (text_messages _ _ _ own number).trans ?_
      unfold messageOf
      by_cases message : (nextWord (nextWord line).2).1 = ascii "message"
      · rw [if_pos message, push_messages _ _ kept]
        simp only [own, message, true_and]
      · rw [if_neg message, if_neg fun all => message all.2.1, List.append_nil]
        exact kept
  · have none : messageOf line = [] := if_neg fun message => own message.1
    rw [foreign_line _ _ _ own, none, List.append_nil]
    exact kept

theorem line_percents (cameraName : Int → List UInt8) (line : List UInt8) (telemetry : Telemetry)
    (percents : Percents telemetry) : Percents (applyIpcLine cameraName line telemetry).2 := by
  by_cases own : (nextWord line).1 = ascii "mav"
  · by_cases number : (nextWord (nextWord line).2).1 ∈ numberKeys
    · rw [number_line _ _ _ own number]
      exact (counts_numbers _ _ _).percents percents
    · rw [text_line _ _ _ own number]
      exact ⟨percents.link, percents.rc, percents.scan⟩
  · rw [foreign_line _ _ _ own]
    exact percents

/-! ### The bitrate -/

/-- A line about the link of the radio. -/
def WifiLinkLine (line : List UInt8) : Prop :=
  (nextWord line).1 = ascii "mav" ∧ (nextWord (nextWord line).2).1 = ascii "openhd" ∧
    (nextWord (nextWord (nextWord line).2).2).1 = ascii "wifi_link"

theorem atLeastZero_unsigned (value : FloatValue) : (atLeastZero value).negative = false := by
  unfold atLeastZero
  split
  · next more =>
    cases value with
    | nan negative => cases more
    | infinite negative =>
      cases negative with
      | false => rfl
      | true => cases more
    | finite negative mantissa exponent =>
      cases negative with
      | false => rfl
      | true =>
        simp only [zero, FloatValue.less, Bool.false_eq_true, if_false, if_true, decide_eq_true_eq,
          Nat.cast_zero, zero_mul] at more
        exact absurd more (Int.not_lt.2 (Int.neg_nonpos_of_nonneg (by positivity)))
  · rfl

theorem wifi_link_bitrate (cameraName : Int → List UInt8) (line : List UInt8)
    (telemetry : Telemetry) (link : WifiLinkLine line) :
    (applyIpcLine cameraName line telemetry).2.linkBitrateMbit.negative = false := by
  obtain ⟨own, openhd, field⟩ := link
  have number : (nextWord (nextWord line).2).1 ∈ numberKeys := by
    rw [openhd]
    decide
  rw [number_line _ _ _ own number, openhd]
  have applied : applyNumbers (ascii "openhd") (nextWord (nextWord line).2).2 telemetry =
      applyWifiLink ⟨(nextWord (nextWord (nextWord line).2).2).2, false⟩ telemetry := by
    show applyOpenhd _ _ = _
    unfold applyOpenhd
    dsimp only
    rw [field]
    rfl
  dsimp only
  rw [applied]
  exact atLeastZero_unsigned _

/-! ### Any lines -/

theorem start_percents : Percents {} :=
  have none : Percent 0 := by
    unfold Percent
    decide
  ⟨none, none, none⟩

/-- After any lines from the start: the percentages are percentages, the messages are the last
ones that were received, and what the next line can do to the bitrate or, if it is none of
the telemetry's, to anything. -/
theorem any_lines_invariant (cameraName : Int → List UInt8) (lines : List (List UInt8)) :
    Percents (applyLines cameraName lines {}) ∧
      (applyLines cameraName lines {}).messages.length ≤ 5 ∧
      (applyLines cameraName lines {}).messages = lastFive (lines.flatMap messageOf) ∧
      (∀ line, WifiLinkLine line → (applyIpcLine cameraName line
        (applyLines cameraName lines {})).2.linkBitrateMbit.negative = false) ∧
      ∀ line, (nextWord line).1 ≠ ascii "mav" →
        applyIpcLine cameraName line (applyLines cameraName lines {}) =
          (false, applyLines cameraName lines {}) := by
  have run : Percents (applyLines cameraName lines {}) ∧
      (applyLines cameraName lines {}).messages = lastFive (lines.flatMap messageOf) := by
    induction lines using List.reverseRecOn with
    | nil => exact ⟨start_percents, rfl⟩
    | append_singleton lines line ih =>
      obtain ⟨percents, messages⟩ := ih
      have step : applyLines cameraName (lines ++ [line]) {} =
          (applyIpcLine cameraName line (applyLines cameraName lines {})).2 :=
        List.foldl_append
      rw [step, List.flatMap_append, List.flatMap_singleton]
      exact ⟨line_percents _ _ _ percents, line_messages _ _ _ messages⟩
  refine ⟨run.1, ?_, run.2, fun line => wifi_link_bitrate cameraName line _,
    fun line => foreign_line cameraName line _⟩
  rw [run.2, lastFive, List.length_drop]
  omega

end Glide.TelemetryInvariants
