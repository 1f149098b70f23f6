import Glide.TelemetryHop

/-! What the read-out of the link shows when one card of the radio reports. The snapshot keeps
the best report, to show several cards at once, and a report that is weaker than the one
before is not shown. -/
namespace Glide.LinkReadout
open Library AsciiText NumberText StreamExtraction
open MavlinkFrames MavlinkDecode MavlinkBridge MavlinkState TelemetrySnapshot TelemetryHop

/-- A report of the card, which is strong enough to be one. -/
structure CardReport where
  sysid : UInt8
  compid : UInt8
  payload : List UInt8
  strong : -127 < readI8 payload 23

namespace CardReport

def frame (report : CardReport) : Frame := ⟨report.sysid, report.compid, 1212, report.payload⟩

def rssi (report : CardReport) : Int := readI8 report.payload 23

def quality (report : CardReport) : Int := max 0 (min (readI8 report.payload 29) 100)

end CardReport

/-- The report is what is shown. -/
structure Shows (report : CardReport) (telemetry : Telemetry) : Prop where
  rssi : telemetry.linkRssiDbm = report.rssi
  quality : telemetry.linkQualityPercent = report.quality
  first : telemetry.linkSnrAntenna1Db = readI8 report.payload 34
  second : telemetry.linkSnrAntenna2Db = readI8 report.payload 35

/-- The reports of the card, one after another. -/
def receive (cameraName : Int → List UInt8) (telemetry : Telemetry) (reports : List CardReport) :
    Telemetry :=
  reports.foldl (fun telemetry report => applyFrame cameraName report.frame telemetry) telemetry

def cardNumbers (p : List UInt8) : List UInt8 :=
  signedDecimal (readI8 p 23) ++ 32 :: (signedDecimal (max 0 (min (readI8 p 29) 100)) ++
    32 :: (signedDecimal (readI8 p 34) ++ 32 :: (signedDecimal (readI8 p 35) ++
    32 :: (signedDecimal (readI8 p 36) ++ []))))

/-- The line of a report about the card, and the one about its chipset. -/
def cardLine (p : List UInt8) : List UInt8 :=
  ascii "mav" ++ 32 :: (ascii "openhd" ++ 32 :: (ascii "wifi_card" ++ 32 :: cardNumbers p))

def chipsetLine (frame : Frame) : List UInt8 :=
  ascii "mav param auto " ++
    (if frame.sysid = systemIdGround then ascii "GROUND_CHIPSET " else ascii "AIR_CHIPSET ") ++
    wifiCardTypeToString (readLe 1 frame.payload wifiCardTypeOffset)

theorem card_text (report : CardReport) :
    decodeFrame report.frame = some (cardLine report.payload ++ 10 :: chipsetLine report.frame) := by
  have start : ascii "mav openhd wifi_card " =
      ascii "mav" ++ 32 :: (ascii "openhd" ++ 32 :: (ascii "wifi_card" ++ [32])) := by decide
  show decodeWifiCard report.frame = _
  unfold decodeWifiCard cardLine cardNumbers chipsetLine
  rw [start]
  simp only [List.append_assoc, List.cons_append, List.nil_append, List.append_nil]
  rfl

theorem type_unbroken (cardType : Nat) : 10 ∉ wifiCardTypeToString cardType := by
  have names : ∀ entry ∈ wifiCardIds, 10 ∉ entry.2 := by decide +kernel
  unfold wifiCardTypeToString
  cases found : wifiCardIds.find? fun entry => entry.1 = cardType with
  | none => decide
  | some entry => exact names entry (List.mem_of_find?_eq_some found)

theorem card_lines (report : CardReport) :
    decodedLines report.frame = [cardLine report.payload, chipsetLine report.frame] := by
  have card : 10 ∉ cardLine report.payload := by
    simp only [cardLine, cardNumbers, List.mem_append, List.mem_cons, signedDecimal_unbroken, List.not_mem_nil]
    decide
  have chipset : 10 ∉ chipsetLine report.frame := by
    simp only [chipsetLine, List.mem_append, type_unbroken]
    split
    · decide
    · decide
  have written : chipsetLine report.frame ≠ [] := by simp [chipsetLine, ascii]
  unfold decodedLines
  rw [card_text]
  dsimp only
  rw [lines_break card, lines_unbroken chipset written]
  simp [cardLine, ascii, written]

/-! ### One report -/

/-- The numbers of a report that is taken. -/
def taken (report : CardReport) (telemetry : Telemetry) : Telemetry :=
  { telemetry with
    linkRssiDbm := report.rssi
    linkQualityPercent := report.quality
    linkSnrAntenna1Db := readI8 report.payload 34
    linkSnrAntenna2Db := readI8 report.payload 35
    linkTxcTempC := readI8 report.payload 36 }

/-- The card that is shown behind a report. -/
def best (report : CardReport) (telemetry : Telemetry) : Telemetry :=
  if telemetry.linkRssiDbm ≤ -127 ∨ telemetry.linkRssiDbm ≤ report.rssi then taken report telemetry
  else telemetry

/-- Two snapshots with the same read-out of the link. -/
def SameReadout (one other : Telemetry) : Prop :=
  one.linkRssiDbm = other.linkRssiDbm ∧ one.linkQualityPercent = other.linkQualityPercent ∧
    one.linkSnrAntenna1Db = other.linkSnrAntenna1Db ∧
    one.linkSnrAntenna2Db = other.linkSnrAntenna2Db

theorem card_extracted (report : CardReport) (telemetry : Telemetry) :
    SameReadout (applyWifiCard ⟨32 :: cardNumbers report.payload, false⟩ telemetry)
      (best report telemetry) := by
  have rssi := readI8_small report.payload 23
  have first := readI8_small report.payload 34
  have second := readI8_small report.payload 35
  have temperature := readI8_small report.payload 36
  have clamped : clampPercent (max 0 (min (readI8 report.payload 29) 100)) = report.quality := by
    unfold clampPercent CardReport.quality
    omega
  have better : (telemetry.linkRssiDbm ≤ -127 ∨ (-127 < readI8 report.payload 23 ∧
      telemetry.linkRssiDbm ≤ readI8 report.payload 23)) ↔
      (telemetry.linkRssiDbm ≤ -127 ∨ telemetry.linkRssiDbm ≤ report.rssi) :=
    or_congr_right (and_iff_right report.strong)
  unfold applyWifiCard cardNumbers
  rw [intField_written _ _ (by omega) (by omega) separated_blank]
  dsimp only
  rw [intField_written _ _ (by omega) (by omega) separated_blank]
  dsimp only
  rw [intField_written _ _ (by omega) (by omega) separated_blank]
  dsimp only
  rw [intField_written _ _ (by omega) (by omega) separated_blank]
  dsimp only
  rw [intField_written _ _ (by omega) (by omega) separated_nil]
  dsimp only
  rw [clamped]
  unfold best
  by_cases shown : telemetry.linkRssiDbm ≤ -127 ∨ telemetry.linkRssiDbm ≤ report.rssi
  · rw [if_pos shown, if_pos (better.2 shown)]
    split
    · exact ⟨rfl, rfl, rfl, rfl⟩
    · exact ⟨rfl, rfl, rfl, rfl⟩
  · rw [if_neg shown, if_neg (mt better.1 shown)]
    split
    · exact ⟨rfl, rfl, rfl, rfl⟩
    · exact ⟨rfl, rfl, rfl, rfl⟩

/-- The line about the chipset is one with a text. -/
theorem chipset_readout (cameraName : Int → List UInt8) (frame : Frame) (telemetry : Telemetry) :
    SameReadout (applyIpcLine cameraName (chipsetLine frame) telemetry).2 telemetry := by
  have start : chipsetLine frame = ascii "mav" ++ 32 :: (ascii "param" ++ 32 :: (ascii "auto " ++
      ((if frame.sysid = systemIdGround then ascii "GROUND_CHIPSET " else ascii "AIR_CHIPSET ") ++
      wifiCardTypeToString (readLe 1 frame.payload wifiCardTypeOffset)))) := by
    have words : ascii "mav param auto " =
        ascii "mav" ++ 32 :: (ascii "param" ++ 32 :: ascii "auto ") := by decide
    unfold chipsetLine
    rw [words]
    simp only [List.append_assoc, List.cons_append]
  have own : (nextWord (chipsetLine frame)).1 = ascii "mav" := by
    rw [start, nextWord_word (by decide +kernel) (by decide +kernel)]
  have texts : (nextWord (nextWord (chipsetLine frame)).2).1 ∉ numberKeys := by
    rw [start, nextWord_word (by decide +kernel) (by decide +kernel)]
    dsimp only
    rw [nextWord_blank, nextWord_word (by decide +kernel) (by decide +kernel)]
    show ascii "param" ∉ numberKeys
    decide
  rw [text_line cameraName _ telemetry own texts]
  exact ⟨rfl, rfl, rfl, rfl⟩

theorem report_readout (cameraName : Int → List UInt8) (report : CardReport)
    (telemetry : Telemetry) :
    SameReadout (applyFrame cameraName report.frame telemetry) (best report telemetry) := by
  have card : (applyIpcLine cameraName (cardLine report.payload) telemetry).2 =
      applyWifiCard ⟨32 :: cardNumbers report.payload, false⟩ telemetry := by
    unfold cardLine
    rw [keyed_line cameraName telemetry (by decide +kernel), openhd_line (by decide +kernel) (by decide +kernel)]
    rw [if_pos rfl]
  have both : applyFrame cameraName report.frame telemetry =
      (applyIpcLine cameraName (chipsetLine report.frame)
        (applyIpcLine cameraName (cardLine report.payload) telemetry).2).2 := by
    unfold applyFrame applyLines
    rw [card_lines]
    rfl
  have last := chipset_readout cameraName report.frame
    (applyIpcLine cameraName (cardLine report.payload) telemetry).2
  have first := card_extracted report telemetry
  rw [both]
  rw [card] at last ⊢
  exact ⟨last.1.trans first.1, last.2.1.trans first.2.1, last.2.2.1.trans first.2.2.1,
    last.2.2.2.trans first.2.2.2⟩

/-! ### Runs -/

theorem receive_cons (cameraName : Int → List UInt8) (telemetry : Telemetry) (report : CardReport)
    (rest : List CardReport) :
    receive cameraName telemetry (report :: rest) =
      receive cameraName (applyFrame cameraName report.frame telemetry) rest := by
  unfold receive
  rw [List.foldl_cons]

theorem receive_nil (cameraName : Int → List UInt8) (telemetry : Telemetry) :
    receive cameraName telemetry [] = telemetry := rfl

/-- A report is shown if it is not weaker than what is. -/
theorem report_shown_iff (cameraName : Int → List UInt8) (report : CardReport)
    (telemetry : Telemetry) :
    Shows report (applyFrame cameraName report.frame telemetry) ↔
      max (-127) telemetry.linkRssiDbm ≤ report.rssi := by
  have strong := report.strong
  obtain ⟨rssi, quality, first, second⟩ := report_readout cameraName report telemetry
  unfold best at rssi quality first second
  by_cases shown : telemetry.linkRssiDbm ≤ -127 ∨ telemetry.linkRssiDbm ≤ report.rssi
  · rw [if_pos shown] at rssi quality first second
    exact ⟨fun _ => by unfold CardReport.rssi at *; omega, fun _ => ⟨rssi, quality, first, second⟩⟩
  · rw [if_neg shown] at rssi
    have weaker : report.rssi < telemetry.linkRssiDbm := by omega
    exact ⟨fun shows => absurd (rssi.symm.trans shows.rssi) (by omega), fun stronger => by omega⟩

/-- Each report of a run is shown, until the next one comes, exactly when none is weaker than
the one before, and the first not weaker than what is shown already. -/
theorem read_out_follows_iff (cameraName : Int → List UInt8) (telemetry : Telemetry)
    (reports : List CardReport) :
    (∀ front last back, reports = front ++ last :: back →
      Shows last (receive cameraName telemetry (front ++ [last]))) ↔
    (max (-127) telemetry.linkRssiDbm :: reports.map CardReport.rssi).IsChain (· ≤ ·) := by
  induction reports generalizing telemetry with
  | nil =>
    refine ⟨fun _ => .singleton _, fun _ front last back split => ?_⟩
    simp at split
  | cons report rest ih =>
    have step := ih (applyFrame cameraName report.frame telemetry)
    have here := report_shown_iff cameraName report telemetry
    rw [List.map_cons, List.isChain_cons_cons]
    have strong : -127 < report.rssi := report.strong
    constructor
    · intro all
      have shown := all [] report rest rfl
      rw [List.nil_append, receive_cons, receive_nil] at shown
      refine ⟨here.1 shown, ?_⟩
      have later := step.1 fun front last back split => by
        have shows := all (report :: front) last back (by rw [split, List.cons_append])
        rw [List.cons_append, receive_cons] at shows
        exact shows
      rw [shown.rssi, max_eq_right (Int.le_of_lt strong)] at later
      exact later
    · rintro ⟨stronger, chain⟩ front last back split
      have shown := here.2 stronger
      cases front with
      | nil =>
        cases split
        rw [List.nil_append, receive_cons, receive_nil]
        exact shown
      | cons head front =>
        cases split
        rw [List.cons_append, receive_cons]
        refine step.2 ?_ front last back rfl
        rw [shown.rssi, max_eq_right (Int.le_of_lt strong)]
        exact chain

/-- A report with -50 dBm, and one of the same card with -70 dBm. -/
def near : CardReport where
  sysid := 100
  compid := 0
  payload := List.replicate 23 0 ++ [206] ++ List.replicate 5 0 ++ [90] ++ List.replicate 12 0
  strong := by decide

def far : CardReport where
  sysid := 100
  compid := 0
  payload := List.replicate 23 0 ++ [186] ++ List.replicate 5 0 ++ [40] ++ List.replicate 12 0
  strong := by decide

theorem fading_not_shown :
    ¬ Shows far (receive (fun _ => []) {} [near, far]) ∧
      (receive (fun _ => []) {} [near, far]).linkRssiDbm = -50 ∧ far.rssi = -70 := by
  have kept : (receive (fun _ => []) {} [near, far]).linkRssiDbm = -50 := by decide +kernel
  refine ⟨fun shows => ?_, kept, by decide⟩
  have same := kept.symm.trans shows.rssi
  exact absurd same (by decide)

end Glide.LinkReadout
