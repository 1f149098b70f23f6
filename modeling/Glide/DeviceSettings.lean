import Glide.Library.DoubleText
import Glide.Library.FloatArithmetic
import Glide.Library.Runs
import Glide.Library.SettingLines
import Glide.UserInterface

/-! The configuration file of the service, from which the user interface reads the video settings
when it starts and to which it writes them when they are changed. The other lines of the file belong
to the one who installed it. -/
namespace Glide.DeviceSettings
open Library AsciiText NumberText BinaryFloat StringConversions DoubleText KeyedLists SettingLines
open UserInterface (VideoMode UiState trim isBlank)

inductive DeviceSetting where
  | glideWidth
  | glideHeight
  | displayHz
  | flowFps
  | flowRenderScale
  deriving DecidableEq

def DeviceSetting.all : List DeviceSetting :=
  [.glideWidth, .glideHeight, .displayHz, .flowFps, .flowRenderScale]

def DeviceSetting.key : DeviceSetting → List UInt8
  | .glideWidth => ascii "GLIDE_WIDTH"
  | .glideHeight => ascii "GLIDE_HEIGHT"
  | .displayHz => ascii "GLIDE_DISPLAY_HZ"
  | .flowFps => ascii "GLIDE_FLOW_FPS"
  | .flowRenderScale => ascii "GLIDE_FLOW_RENDER_SCALE"

def DeviceSetting.get (mode : VideoMode) : DeviceSetting → Nat
  | .glideWidth => mode.glideWidth
  | .glideHeight => mode.glideHeight
  | .displayHz => mode.displayHz
  | .flowFps => mode.flowFps
  | .flowRenderScale => mode.flowScalePercent

def DeviceSetting.set (value : Nat) (mode : VideoMode) : DeviceSetting → VideoMode
  | .glideWidth => { mode with glideWidth := value }
  | .glideHeight => { mode with glideHeight := value }
  | .displayHz => { mode with displayHz := value }
  | .flowFps => { mode with flowFps := value }
  | .flowRenderScale => { mode with flowScalePercent := value }

/-- The machine, and what its `lround` yields for a number that no `long` is near to. -/
structure Machine extends Platform where
  noLong : Int

def lround (machine : Machine) (value : FloatValue) : Int :=
  match value.lround with
  | some number =>
    if -2 ^ (machine.longBits - 1) ≤ number ∧ number < 2 ^ (machine.longBits - 1) then number
    else machine.noLong
  | none => machine.noLong

def formatFlowScale (percent : Nat) : List UInt8 :=
  fixedText 2 (divide binary64 (ofInt binary64 percent) (ofInt binary64 100))

def parseU32Or (machine : Machine) (value : List UInt8) (fallback : Nat) : Nat :=
  let value := trim value
  if value = [] then fallback
  else caught fallback (do return (← stoul machine.toPlatform value) % 2 ^ 32)

def parseScalePercentOr (machine : Machine) (value : List UInt8) (fallback : Nat) : Nat :=
  let value := trim value
  if value = [] then fallback
  else caught fallback (do
    let percent := lround machine (multiply binary64 (← stod value) (ofInt binary64 100))
    return (max 25 (min 100 percent)).toNat)

def DeviceSetting.parse (machine : Machine) (value : List UInt8) (fallback : Nat) :
    DeviceSetting → Nat
  | .flowRenderScale => parseScalePercentOr machine value fallback
  | _ => parseU32Or machine value fallback

def DeviceSetting.text (mode : VideoMode) : DeviceSetting → List UInt8
  | .flowRenderScale => formatFlowScale mode.flowScalePercent
  | setting => decimal (setting.get mode)

/-- The setting that a line is read for. -/
def settingOf (line : List UInt8) : Option DeviceSetting :=
  if 61 ∈ line then
    DeviceSetting.all.find? fun setting => trim (line.takeWhile (· ≠ 61)) = setting.key
  else none

def valueOf (line : List UInt8) : List UInt8 := trim ((line.dropWhile (· ≠ 61)).drop 1)

def loadLine (machine : Machine) (mode : VideoMode) (line : List UInt8) : VideoMode :=
  match settingOf line with
  | some setting => setting.set (setting.parse machine (valueOf line) (setting.get mode)) mode
  | none => mode

def clampMode (mode : VideoMode) : VideoMode :=
  { mode with
    displayHz := max 24 (min 144 mode.displayHz)
    flowFps := max 15 (min 120 mode.flowFps)
    flowScalePercent := max 25 (min 100 mode.flowScalePercent) }

def loadDeviceSettings (machine : Machine) (text : List UInt8) (mode : VideoMode) : VideoMode :=
  clampMode ((lines text).foldl (loadLine machine) mode)

/-- Whether a line changed, and the lines. -/
def writeOrReplaceSetting (key value : List UInt8) :
    List (List UInt8) → Bool × List (List UInt8)
  | [] => (true, [key ++ [61] ++ value])
  | line :: rest =>
    if (key ++ [61]).isPrefixOf line then
      if line = key ++ [61] ++ value then (false, line :: rest)
      else (true, (key ++ [61] ++ value) :: rest)
    else
      let (changed, rest) := writeOrReplaceSetting key value rest
      (changed, line :: rest)

/-- One more setting, and whether a line has changed so far. -/
def writeSetting (mode : VideoMode) (state : Bool × List (List UInt8)) (setting : DeviceSetting) :
    Bool × List (List UInt8) :=
  let (changed, lines) := writeOrReplaceSetting setting.key (setting.text mode) state.2
  (state.1 || changed, lines)

def writeSettings (mode : VideoMode) (lines : List (List UInt8)) : Bool × List (List UInt8) :=
  DeviceSetting.all.foldl (writeSetting mode) (false, lines)

/-- The file, empty if there is none, and how often the service was restarted. -/
structure DeviceConfig where
  text : List UInt8
  restarts : Nat

/-- `copied` is whether the new file could be put in the place of the old one. -/
def persistDeviceSettingsAndRestart (copied : Bool) (mode : VideoMode) (config : DeviceConfig) :
    DeviceConfig :=
  let (changed, lines) := writeSettings mode (lines config.text)
  if changed && copied then
    { text := lines.flatMap (· ++ [10]), restarts := config.restarts + 1 }
  else config

/-! ### Lines of settings -/

def writes (setting : DeviceSetting) (line : List UInt8) : Bool :=
  (setting.key ++ [61]).isPrefixOf line

theorem key_plain (setting : DeviceSetting) : 61 ∉ setting.key ∧ 10 ∉ setting.key ∧
    trim setting.key = setting.key ∧
    (DeviceSetting.all.find? fun other => setting.key = other.key) = some setting := by
  cases setting <;> decide +kernel

theorem takeWhile_key (setting : DeviceSetting) (rest : List UInt8) :
    (setting.key ++ [61] ++ rest).takeWhile (· ≠ 61) = setting.key ∧
      (setting.key ++ [61] ++ rest).dropWhile (· ≠ 61) = 61 :: rest := by
  have plain : ∀ byte ∈ setting.key, decide (byte ≠ 61) = true := fun byte member =>
    decide_eq_true fun same => (key_plain setting).1 (same ▸ member)
  rw [List.append_assoc, List.takeWhile_append_of_pos plain, List.dropWhile_append_of_pos plain,
    List.singleton_append, List.takeWhile_cons_of_neg (by decide),
    List.dropWhile_cons_of_neg (by decide), List.append_nil]
  exact ⟨rfl, rfl⟩

theorem settingOf_writes (setting : DeviceSetting) (line : List UInt8)
    (written : writes setting line = true) : settingOf line = some setting := by
  obtain ⟨rest, rfl⟩ := List.isPrefixOf_iff_prefix.mp written
  unfold settingOf
  rw [if_pos (by simp), (takeWhile_key setting rest).1, (key_plain setting).2.2.1]
  exact (key_plain setting).2.2.2

/-- The lines of the file. -/
def format : Format (List UInt8) DeviceSetting := ⟨settingOf, writes, settingOf_writes⟩

/-- The line that is written for a setting. -/
def written (mode : VideoMode) (setting : DeviceSetting) : List UInt8 :=
  setting.key ++ [61] ++ setting.text mode

theorem writes_written (mode : VideoMode) (setting : DeviceSetting) :
    format.writes setting (written mode setting) = true :=
  List.isPrefixOf_iff_prefix.mpr (List.prefix_append _ _)

theorem writeOrReplaceSetting_eq (mode : VideoMode) (setting : DeviceSetting)
    (lines : List (List UInt8)) :
    writeOrReplaceSetting setting.key (setting.text mode) lines =
      (decide (lines.find? (writes setting) ≠ some (written mode setting)),
        replaced format setting (written mode setting) lines) := by
  have own := writes_written mode setting
  unfold SettingLines.replaced
  induction lines with
  | nil => rfl
  | cons line rest ih =>
    unfold writeOrReplaceSetting upsert
    by_cases same : writes setting line = true
    · have start : (setting.key ++ [61]).isPrefixOf line = true := same
      have equal : format.writes setting line = format.writes setting (written mode setting) :=
        same.trans own.symm
      have whole : setting.key ++ [61] ++ setting.text mode = written mode setting := rfl
      rw [if_pos start, if_pos equal, List.find?_cons_of_pos same, whole]
      by_cases there : line = written mode setting
      · rw [if_pos there, ← there, decide_eq_false (by simp)]
      · rw [if_neg there, decide_eq_true (by simpa using there)]
    · have start : ¬(setting.key ++ [61]).isPrefixOf line = true := same
      have different :
          ¬format.writes setting line = format.writes setting (written mode setting) :=
        fun equal => same (equal.trans own)
      rw [if_neg start, if_neg different, List.find?_cons_of_neg same, ih]

/-! ### All five settings -/

/-- The file holds exactly these settings where a writer looks for them. -/
def Written (mode : VideoMode) (lines : List (List UInt8)) : Prop :=
  ∀ setting, lines.find? (writes setting) = some (written mode setting)

theorem mem_all (setting : DeviceSetting) : setting ∈ DeviceSetting.all := by
  cases setting <;> decide

theorem all_nodup : DeviceSetting.all.Nodup := by decide

/-- The lines after the settings of a list are written. -/
def replaceAll (mode : VideoMode) (settings : List DeviceSetting) (lines : List (List UInt8)) :
    List (List UInt8) :=
  settings.foldl (fun lines setting => replaced format setting (written mode setting) lines) lines

theorem find_replaceAll (mode : VideoMode) (settings : List DeviceSetting)
    (lines : List (List UInt8)) (setting : DeviceSetting) :
    (replaceAll mode settings lines).find? (writes setting) =
      if setting ∈ settings then some (written mode setting) else lines.find? (writes setting) := by
  unfold replaceAll
  induction settings generalizing lines with
  | nil => rfl
  | cons first rest ih =>
    rw [List.foldl_cons, ih]
    by_cases later : setting ∈ rest
    · rw [if_pos later, if_pos (List.mem_cons_of_mem _ later)]
    · rw [if_neg later]
      by_cases same : setting = first
      · subst same
        rw [if_pos List.mem_cons_self]
        exact find_replaced_self (writes_written mode setting)
      · rw [if_neg fun member => (List.mem_cons.mp member).elim same later]
        exact find_replaced (Ne.symm same) (writes_written mode first)

theorem writeSetting_foldl (mode : VideoMode) (settings : List DeviceSetting)
    (distinct : settings.Nodup) (changed : Bool) (lines : List (List UInt8)) :
    settings.foldl (writeSetting mode) (changed, lines) =
      (changed || settings.any fun setting =>
        decide (lines.find? (writes setting) ≠ some (written mode setting)),
        replaceAll mode settings lines) := by
  induction settings generalizing changed lines with
  | nil => simp [replaceAll]
  | cons first rest ih =>
    obtain ⟨apart, distinct⟩ := List.nodup_cons.mp distinct
    have others : (rest.any fun setting => decide
        ((replaced format first (written mode first) lines).find? (writes setting) ≠
          some (written mode setting))) =
        rest.any fun setting =>
          decide (lines.find? (writes setting) ≠ some (written mode setting)) := by
      rw [Bool.eq_iff_iff, List.any_eq_true, List.any_eq_true]
      refine exists_congr fun setting => and_congr_right fun member => ?_
      have different : first ≠ setting := fun same => apart (same ▸ member)
      have same : (replaced format first (written mode first) lines).find? (writes setting) =
          lines.find? (writes setting) := find_replaced different (writes_written mode first)
      rw [same]
    rw [List.foldl_cons, writeSetting, writeOrReplaceSetting_eq, ih distinct, others, List.any_cons,
      Bool.or_assoc]
    rfl

theorem writeSettings_eq (mode : VideoMode) (lines : List (List UInt8)) :
    writeSettings mode lines = (DeviceSetting.all.any fun setting =>
        decide (lines.find? (writes setting) ≠ some (written mode setting)),
      replaceAll mode DeviceSetting.all lines) := by
  unfold writeSettings
  rw [writeSetting_foldl mode _ all_nodup, Bool.false_or]

theorem writeSettings_changed (mode : VideoMode) (lines : List (List UInt8)) :
    (writeSettings mode lines).1 = false ↔ Written mode lines := by
  rw [writeSettings_eq, List.any_eq_false]
  constructor
  · intro same setting
    simpa using same setting (mem_all setting)
  · intro written setting _
    simpa using written setting

theorem written_replaceAll (mode : VideoMode) (lines : List (List UInt8)) :
    Written mode (replaceAll mode DeviceSetting.all lines) := by
  intro setting
  rw [find_replaceAll, if_pos (mem_all setting)]

/-! ### What is written is read -/

/-- Settings that the video panel can show. Enter on the scale goes past 100 percent from a scale
that is no multiple of 25. -/
structure InRange (mode : VideoMode) : Prop where
  glideWidth : mode.glideWidth < 2 ^ 32
  glideHeight : mode.glideHeight < 2 ^ 32
  displayHz : 24 ≤ mode.displayHz ∧ mode.displayHz ≤ 144
  flowFps : 15 ≤ mode.flowFps ∧ mode.flowFps ≤ 120
  flowScale : 25 ≤ mode.flowScalePercent ∧ mode.flowScalePercent ≤ 124

theorem trim_plain (plain : ∀ byte ∈ text, isBlank byte = false) : trim text = text := by
  have kept {text : List UInt8} (plain : ∀ byte ∈ text, isBlank byte = false) :
      text.dropWhile isBlank = text := by
    cases text with
    | nil => rfl
    | cons first rest =>
      have letter := plain first List.mem_cons_self
      exact List.dropWhile_cons_of_neg (by rw [letter]; exact Bool.false_ne_true)
  unfold trim
  rw [kept plain, kept fun byte member => plain byte (List.mem_reverse.mp member),
    List.reverse_reverse]

theorem decimal_unblank (number : Nat) : ∀ byte ∈ decimal number, isBlank byte = false := by
  intro byte member
  have digit := decimal_digits byte member
  unfold isDigit at digit
  simp only [Bool.and_eq_true, decide_eq_true_eq] at digit
  unfold isBlank
  simp only [UInt8.le_iff_toNat_le] at digit
  simp only [Bool.or_eq_false_iff, decide_eq_false_iff_not, ← UInt8.toNat_inj]
  refine ⟨⟨⟨?_, ?_⟩, ?_⟩, ?_⟩ <;> (intro same; rw [same] at digit; exact absurd digit.1 (by decide))

/-- Every percentage has a text of its own, which names it. -/
theorem formatFlowScale_read : ∀ percent : Fin 125,
    (formatFlowScale percent).all (!isBlank ·) = true ∧ formatFlowScale percent ≠ [] ∧
      10 ∉ formatFlowScale percent ∧
      (stod (formatFlowScale percent)).toOption.bind
        (fun value => (multiply binary64 value (ofInt binary64 100)).lround) =
          some (percent.val : Int) := by
  decide +kernel

theorem parseU32Or_decimal (machine : Machine) (long : 32 ≤ machine.longBits)
    (small : number < 2 ^ 32) (fallback : Nat) :
    parseU32Or machine (decimal number) fallback = number := by
  have room : number < 2 ^ machine.longBits :=
    Nat.lt_of_lt_of_le small (Nat.pow_le_pow_right (by decide) long)
  unfold parseU32Or
  dsimp only
  rw [trim_plain (decimal_unblank number), if_neg decimal_ne_nil, stoul_decimal _ room]
  exact Nat.mod_eq_of_lt small

theorem parseScalePercentOr_format (machine : Machine) (long : 32 ≤ machine.longBits)
    (least : 25 ≤ percent) (most : percent ≤ 124) (fallback : Nat) :
    parseScalePercentOr machine (formatFlowScale percent) fallback = min 100 percent := by
  obtain ⟨plain, some, _, read⟩ := formatFlowScale_read ⟨percent, Nat.lt_succ_of_le most⟩
  dsimp only at plain some read
  have room : (2 : Int) ^ 31 ≤ 2 ^ (machine.longBits - 1) :=
    pow_le_pow_right₀ (by decide) (by omega)
  unfold parseScalePercentOr
  dsimp only
  rw [trim_plain fun byte member => by simpa using List.all_eq_true.mp plain byte member,
    if_neg some]
  cases converted : stod (formatFlowScale percent) with
  | error error =>
    rw [converted] at read
    cases read
  | ok value =>
    rw [converted] at read
    have rounded : (multiply binary64 value (ofInt binary64 100)).lround =
        Option.some (percent : Int) := read
    have found : lround machine (multiply binary64 value (ofInt binary64 100)) = percent := by
      unfold lround
      rw [rounded]
      exact if_pos (by omega)
    simp only [bind, Except.bind, pure, Except.pure, caught, found]
    omega

theorem text_plain (range : InRange mode) (setting : DeviceSetting) :
    trim (setting.text mode) = setting.text mode ∧ 10 ∉ setting.text mode := by
  cases setting with
  | flowRenderScale =>
    obtain ⟨plain, _, unbroken, _⟩ :=
      formatFlowScale_read ⟨mode.flowScalePercent, Nat.lt_succ_of_le range.flowScale.2⟩
    refine ⟨trim_plain fun byte member => ?_, unbroken⟩
    simpa using List.all_eq_true.mp plain byte member
  | glideWidth | glideHeight | displayHz | flowFps =>
    exact ⟨trim_plain (decimal_unblank _), decimal_unbroken⟩

theorem clampMode_range (range : InRange mode) :
    clampMode mode = { mode with flowScalePercent := min 100 mode.flowScalePercent } := by
  obtain ⟨_, _, ⟨hzLeast, hzMost⟩, ⟨fpsLeast, fpsMost⟩, ⟨scaleLeast, _⟩⟩ := range
  unfold clampMode
  rw [Nat.min_eq_right hzMost, Nat.max_eq_right hzLeast, Nat.min_eq_right fpsMost,
    Nat.max_eq_right fpsLeast, Nat.max_eq_right (Nat.le_min.mpr ⟨by decide, scaleLeast⟩)]

/-- The scale is cut where it is read. -/
theorem parse_written (machine : Machine) (long : 32 ≤ machine.longBits) (range : InRange mode)
    (setting : DeviceSetting) (fallback : Nat) :
    setting.parse machine (valueOf (written mode setting)) fallback =
      setting.get (clampMode mode) := by
  have value : valueOf (written mode setting) = setting.text mode := by
    unfold valueOf written
    rw [(takeWhile_key setting _).2]
    exact (text_plain range setting).1
  rw [value, clampMode_range range]
  cases setting with
  | flowRenderScale =>
    exact parseScalePercentOr_format machine long range.flowScale.1 range.flowScale.2 fallback
  | glideWidth => exact parseU32Or_decimal machine long range.glideWidth fallback
  | glideHeight => exact parseU32Or_decimal machine long range.glideHeight fallback
  | displayHz =>
    have small : mode.displayHz < 2 ^ 32 := Nat.lt_of_le_of_lt range.displayHz.2 (by decide)
    exact parseU32Or_decimal machine long small fallback
  | flowFps =>
    have small : mode.flowFps < 2 ^ 32 := Nat.lt_of_le_of_lt range.flowFps.2 (by decide)
    exact parseU32Or_decimal machine long small fallback

theorem mode_ext {first second : VideoMode}
    (same : ∀ setting : DeviceSetting, setting.get first = setting.get second) :
    first = second := by
  cases first
  cases second
  congr
  · exact same .glideWidth
  · exact same .glideHeight
  · exact same .displayHz
  · exact same .flowFps
  · exact same .flowRenderScale

/-- Settings with the same lines are the same. -/
theorem written_injective (first : InRange mode) (second : InRange other)
    (same : ∀ setting, written mode setting = written other setting) : mode = other := by
  refine mode_ext fun setting => ?_
  have text : setting.text mode = setting.text other := List.append_cancel_left (same setting)
  cases setting with
  | flowRenderScale =>
    obtain ⟨_, _, _, read⟩ := formatFlowScale_read ⟨_, Nat.lt_succ_of_le first.flowScale.2⟩
    obtain ⟨_, _, _, again⟩ := formatFlowScale_read ⟨_, Nat.lt_succ_of_le second.flowScale.2⟩
    have scales : formatFlowScale mode.flowScalePercent =
        formatFlowScale other.flowScalePercent := text
    rw [scales, again] at read
    exact Int.ofNat.inj (Option.some.inj read).symm
  | glideWidth | glideHeight | displayHz | flowFps => exact decimal_injective text

/-! ### Loading -/

theorem get_set (setting : DeviceSetting) (value : Nat) (mode : VideoMode) :
    setting.get (setting.set value mode) = value := by
  cases setting <;> rfl

theorem get_set_other {setting other : DeviceSetting} (different : setting ≠ other) (value : Nat)
    (mode : VideoMode) : setting.get (other.set value mode) = setting.get mode := by
  cases setting <;> cases other <;> first | rfl | exact absurd rfl different

theorem get_load (machine : Machine) (setting : DeviceSetting) (lines : List (List UInt8))
    (mode : VideoMode) :
    setting.get (lines.foldl (loadLine machine) mode) =
      (readFor format setting lines).foldl
        (fun value line => setting.parse machine (valueOf line) value) (setting.get mode) := by
  refine get_foldl (loadLine machine) (fun mode => setting.get mode)
    (fun line value => setting.parse machine (valueOf line) value) ?_ ?_ lines mode
  · intro mode line read
    unfold loadLine
    rw [show settingOf line = some setting from read]
    exact get_set ..
  · intro mode line unread
    unfold loadLine
    cases found : settingOf line with
    | none => rfl
    | some other =>
      refine get_set_other (fun same => unread ?_) _ _
      rw [same]
      exact found

theorem clampMode_idem (mode : VideoMode) : clampMode (clampMode mode) = clampMode mode := by
  unfold clampMode
  simp only [VideoMode.mk.injEq, true_and]
  omega

/-- Where a writer found what it looked for, a reader finds it, if nothing is read behind it. -/
theorem load_written (machine : Machine) (long : 32 ≤ machine.longBits) (range : InRange mode)
    {lines : List (List UInt8)} (settled : ∀ setting, Settled format setting lines)
    (there : Written mode lines)
    (start : VideoMode) : clampMode (lines.foldl (loadLine machine) start) = clampMode mode := by
  have loaded : lines.foldl (loadLine machine) start = clampMode mode := by
    refine mode_ext fun setting => ?_
    have again := readFor_replaced_self (settled setting) (writes_written mode setting)
    rw [replaced_same (there setting)] at again
    obtain ⟨front, shape, _⟩ := again
    rw [get_load, shape, List.foldl_concat]
    exact parse_written machine long range setting _
  rw [loaded, clampMode_idem]

theorem small_load (machine : Machine) (lines : List (List UInt8)) (mode : VideoMode)
    (width : mode.glideWidth < 2 ^ 32) (height : mode.glideHeight < 2 ^ 32) :
    (lines.foldl (loadLine machine) mode).glideWidth < 2 ^ 32 ∧
      (lines.foldl (loadLine machine) mode).glideHeight < 2 ^ 32 := by
  have parsed (value : List UInt8) {fallback : Nat} (small : fallback < 2 ^ 32) :
      parseU32Or machine value fallback < 2 ^ 32 := by
    unfold parseU32Or
    dsimp only
    split
    · exact small
    · cases stoul machine.toPlatform (trim value) with
      | error error => exact small
      | ok number => exact Nat.mod_lt _ (by decide)
  induction lines generalizing mode with
  | nil => exact ⟨width, height⟩
  | cons line rest ih =>
    refine ih _ ?_ ?_
    · unfold loadLine
      split
      · rename_i setting _
        cases setting with
        | glideWidth => exact parsed _ width
        | glideHeight | displayHz | flowFps | flowRenderScale => exact width
      · exact width
    · unfold loadLine
      split
      · rename_i setting _
        cases setting with
        | glideHeight => exact parsed _ height
        | glideWidth | displayHz | flowFps | flowRenderScale => exact height
      · exact height

theorem load_range (machine : Machine) (text : List UInt8) :
    InRange (loadDeviceSettings machine text {}) := by
  obtain ⟨width, height⟩ := small_load machine (lines text) {} (by decide) (by decide)
  refine ⟨width, height, ?_, ?_, ?_⟩
  · exact ⟨Nat.le_max_left _ _, Nat.max_le.mpr ⟨by decide, Nat.min_le_left _ _⟩⟩
  · exact ⟨Nat.le_max_left _ _, Nat.max_le.mpr ⟨by decide, Nat.min_le_left _ _⟩⟩
  · refine ⟨Nat.le_max_left _ _, Nat.max_le.mpr ⟨by decide, ?_⟩⟩
    exact Nat.le_trans (Nat.min_le_left _ _) (by decide)

/-! ### The file -/

theorem linesFrom_unbroken_all (text current : List UInt8) (unbroken : 10 ∉ current) :
    ∀ line ∈ linesFrom current text, 10 ∉ line := by
  induction text generalizing current with
  | nil =>
    unfold linesFrom
    split
    · exact fun _ none => absurd none List.not_mem_nil
    · exact fun line member => List.mem_singleton.mp member ▸ unbroken
  | cons byte rest ih =>
    unfold linesFrom
    split
    · intro line member
      rcases List.mem_cons.mp member with rfl | later
      · exact unbroken
      · exact ih [] List.not_mem_nil line later
    · rename_i other
      refine ih _ fun member => ?_
      rcases List.mem_append.mp member with before | last
      · exact unbroken before
      · exact other (List.mem_singleton.mp last).symm

theorem lines_flatMap (unbroken : ∀ line ∈ text, 10 ∉ line) :
    lines (text.flatMap (· ++ [10])) = text := by
  induction text with
  | nil => rfl
  | cons line rest ih =>
    rw [List.flatMap_cons, List.append_assoc, List.singleton_append,
      lines_break (unbroken line List.mem_cons_self),
      ih fun other later => unbroken other (List.mem_cons_of_mem _ later)]

theorem mem_replaceAll {mode : VideoMode} {settings : List DeviceSetting}
    {lines : List (List UInt8)} (member : line ∈ replaceAll mode settings lines) :
    line ∈ lines ∨ ∃ setting, line = written mode setting := by
  unfold replaceAll at member
  induction settings generalizing lines with
  | nil => exact .inl member
  | cons first rest ih =>
    rcases ih member with before | written
    · exact (mem_of_upsert before).imp_right fun same => ⟨first, same⟩
    · exact .inr written

theorem replaceAll_unbroken (range : InRange mode) (text : List UInt8) :
    ∀ line ∈ replaceAll mode DeviceSetting.all (lines text), 10 ∉ line := by
  intro line member
  rcases mem_replaceAll member with before | ⟨setting, rfl⟩
  · exact linesFrom_unbroken_all text [] List.not_mem_nil line before
  · unfold written
    rw [List.mem_append, List.mem_append]
    rintro ((key | equals) | value)
    · exact (key_plain setting).2.1 key
    · exact absurd (List.mem_singleton.mp equals) (by decide)
    · exact (text_plain range setting).2 value

theorem replaceAll_same {lines : List (List UInt8)} (there : Written mode lines)
    (settings : List DeviceSetting) : replaceAll mode settings lines = lines := by
  unfold replaceAll
  induction settings with
  | nil => rfl
  | cons first rest ih => rw [List.foldl_cons, replaced_same (there first), ih]

/-- The lines are the same whether the file had to be written or not. -/
theorem lines_persist (range : InRange mode) (config : DeviceConfig) :
    lines (persistDeviceSettingsAndRestart true mode config).text =
      replaceAll mode DeviceSetting.all (lines config.text) := by
  unfold persistDeviceSettingsAndRestart
  by_cases same : (writeSettings mode (lines config.text)).1 = false
  · rw [replaceAll_same ((writeSettings_changed ..).mp same)]
    dsimp only
    rw [same]
    rfl
  · dsimp only
    rw [(Bool.not_eq_false _).mp same, writeSettings_eq]
    exact lines_flatMap (replaceAll_unbroken range _)

theorem restarts_persist (mode : VideoMode) (config : DeviceConfig) :
    (Written mode (lines config.text) →
      (persistDeviceSettingsAndRestart true mode config).restarts = config.restarts) ∧
    (¬Written mode (lines config.text) →
      (persistDeviceSettingsAndRestart true mode config).restarts = config.restarts + 1) := by
  unfold persistDeviceSettingsAndRestart
  dsimp only
  rw [← writeSettings_changed]
  constructor
  · intro same
    rw [same]
    rfl
  · intro changed
    rw [(Bool.not_eq_false _).mp changed]
    rfl

theorem settled_replaceAll {lines : List (List UInt8)} (mode : VideoMode)
    (settings : List DeviceSetting) (settled : ∀ setting, Settled format setting lines) :
    ∀ setting, Settled format setting (replaceAll mode settings lines) := by
  unfold replaceAll
  induction settings generalizing lines with
  | nil => exact settled
  | cons first rest ih =>
    exact ih fun setting => (settled setting).replaced (writes_written mode first)

/-- A line that is none of the settings. -/
def foreign (line : List UInt8) : Bool := DeviceSetting.all.all fun setting => !writes setting line

theorem foreign_replaceAll (mode : VideoMode) (settings : List DeviceSetting)
    (lines : List (List UInt8)) :
    (replaceAll mode settings lines).filter foreign = lines.filter foreign := by
  unfold replaceAll
  induction settings generalizing lines with
  | nil => rfl
  | cons first rest ih =>
    rw [List.foldl_cons, ih]
    refine filter_replaced foreign (fun line written => ?_) (writes_written mode first)
    rw [foreign, List.all_eq_false]
    refine ⟨first, mem_all first, ?_⟩
    rw [show writes first line = true from written]
    decide

/-! ### The video panel -/

inductive Slider where
  | displayHz
  | flowFps
  | flowScale

def Slider.setting : Slider → DeviceSetting
  | .displayHz => .displayHz
  | .flowFps => .flowFps
  | .flowScale => .flowRenderScale

def Slider.least : Slider → Nat
  | .displayHz => 24
  | .flowFps => 15
  | .flowScale => 25

def Slider.most : Slider → Nat
  | .displayHz => 120
  | .flowFps => 120
  | .flowScale => 100

/-- A slider that is moved to some position stays in its range. -/
def videoSliderChanged (slider : Slider) (position : Nat) (released : Bool) (ui : UiState) :
    UiState :=
  let value := max slider.least (min slider.most position)
  let ui := { ui with videoMode := slider.setting.set value ui.videoMode }
  if released then UserInterface.persistDeviceSettingsAndRestart ui else ui

inductive VideoEvent where
  | enter (row : Int)
  | choose (index : Nat)
  | slide (slider : Slider) (position : Nat)
  | release (slider : Slider) (position : Nat)
  | restart

/-- A user interface and the file of its machine. -/
structure Session where
  ui : UiState
  config : DeviceConfig

/-- Whether the settings are written. The first four rows of the panel are settings. -/
def VideoEvent.saves : VideoEvent → Bool
  | .enter row => 0 ≤ row && row ≤ 3
  | .choose _ => true
  | .slide _ _ => false
  | .release _ _ => true
  | .restart => false

def VideoEvent.show (machine : Machine) (session : Session) : VideoEvent → UiState
  | .enter row =>
    UserInterface.enterRow { session.ui with activePanel := .video, selectedRow := row }
  | .choose index => UserInterface.setResolutionPreset index session.ui
  | .slide slider position => videoSliderChanged slider position false session.ui
  | .release slider position => videoSliderChanged slider position true session.ui
  | .restart =>
    { session.ui with videoMode := loadDeviceSettings machine session.config.text {} }

/-- A user interface whose file can be replaced, or not. -/
def Session.allow (copied : Bool) (session : Session) : Session :=
  { session with ui.environment.deviceWritable := copied }

theorem Session.allow_savedVideoMode (copied : Bool) (session : Session) :
    (session.allow copied).ui.savedVideoMode = session.ui.savedVideoMode := rfl

theorem Session.allow_restarts (copied : Bool) (session : Session) :
    (session.allow copied).ui.restarts = session.ui.restarts := rfl

/-- An event, and whether the file could be replaced then. -/
def step (machine : Machine) (session : Session) (event : VideoEvent × Bool) : Session :=
  let ui := event.1.show machine (session.allow event.2)
  { ui
    config :=
      if event.1.saves then persistDeviceSettingsAndRestart event.2 ui.videoMode session.config
      else session.config }

/-- What an event does to the user interface: a mode that is written to the file is told and
restarts the service, unless the file tells it already. -/
structure Shown (copied : Bool) (before after : UiState) : Prop where
  range : InRange after.videoMode
  saved : copied = true → after.savedVideoMode = some after.videoMode ∧
    after.restarts = before.restarts +
      if before.savedVideoMode = some after.videoMode then 0 else 1
  unsaved : copied = false → after.savedVideoMode = before.savedVideoMode ∧
    after.restarts = before.restarts

theorem shown_persist (ui before : UiState) (range : InRange ui.videoMode)
    (saved : ui.savedVideoMode = before.savedVideoMode) (restarts : ui.restarts = before.restarts)
    (writable : ui.environment.deviceWritable = copied) :
    Shown copied before (UserInterface.persistDeviceSettingsAndRestart ui) := by
  unfold UserInterface.persistDeviceSettingsAndRestart
  rw [saved, writable]
  split
  · rename_i same
    refine ⟨range, fun _ => ?_, fun _ => ⟨saved, restarts⟩⟩
    rw [if_pos same]
    exact ⟨saved.trans same, restarts⟩
  · rename_i different
    cases copied with
    | true =>
      rw [if_pos rfl]
      refine ⟨range, fun _ => ?_, nofun⟩
      rw [if_neg different]
      exact ⟨rfl, congrArg (· + 1) restarts⟩
    | false =>
      rw [if_neg Bool.false_ne_true]
      exact ⟨range, nofun, fun _ => ⟨saved, restarts⟩⟩

theorem presets_small (index : Nat) :
    ((UserInterface.resolutionPresets.getD (min index 3) (960, 540)).1 < 2 ^ 32) ∧
      (UserInterface.resolutionPresets.getD (min index 3) (960, 540)).2 < 2 ^ 32 := by
  have all : ∀ place : Fin 4,
      ((UserInterface.resolutionPresets.getD place (960, 540)).1 < 2 ^ 32) ∧
        (UserInterface.resolutionPresets.getD place (960, 540)).2 < 2 ^ 32 := by decide
  exact all ⟨min index 3, by omega⟩

theorem setResolutionPreset_shown (index : Nat) (ui before : UiState) (range : InRange ui.videoMode)
    (saved : ui.savedVideoMode = before.savedVideoMode) (restarts : ui.restarts = before.restarts)
    (writable : ui.environment.deviceWritable = copied) :
    Shown copied before (UserInterface.setResolutionPreset index ui) := by
  unfold UserInterface.setResolutionPreset
  dsimp only
  obtain ⟨width, height⟩ := presets_small index
  exact shown_persist _ before ⟨width, height, range.displayHz, range.flowFps, range.flowScale⟩
    saved restarts writable

theorem enterRow_shown (ui : UiState) (row : Int) (range : InRange ui.videoMode) :
    Shown ((0 ≤ row && row ≤ 3) && ui.environment.deviceWritable) ui
      (UserInterface.enterRow { ui with activePanel := .video, selectedRow := row }) := by
  have inside (rows : 0 ≤ row ∧ row ≤ 3) : (decide (0 ≤ row) && decide (row ≤ 3)) = true := by
    simpa using rows
  unfold UserInterface.enterRow
  dsimp only
  split
  · rw [inside (by omega), Bool.true_and]
    exact setResolutionPreset_shown _ _ ui range rfl rfl rfl
  · split
    · rw [inside (by omega), Bool.true_and]
      refine shown_persist _ ui ?_ rfl rfl rfl
      refine ⟨range.glideWidth, range.glideHeight, ?_, range.flowFps, range.flowScale⟩
      unfold UserInterface.nextDisplayHz
      dsimp only
      split
      · decide
      · split <;> decide
    · split
      · rw [inside (by omega), Bool.true_and]
        refine shown_persist _ ui ?_ rfl rfl rfl
        refine ⟨range.glideWidth, range.glideHeight, range.displayHz, ?_, range.flowScale⟩
        unfold UserInterface.nextFlowFps
        dsimp only
        split <;> decide
      · split
        · rw [inside (by omega), Bool.true_and]
          refine shown_persist _ ui ?_ rfl rfl rfl
          refine ⟨range.glideWidth, range.glideHeight, range.displayHz, range.flowFps, ?_⟩
          have least := range.flowScale
          unfold UserInterface.nextFlowScale
          dsimp only
          split
          · decide
          · omega
        · have outside : (decide (0 ≤ row) && decide (row ≤ 3)) = false := by
            simp only [Bool.and_eq_false_iff, decide_eq_false_iff_not]
            omega
          rw [outside, Bool.false_and]
          exact ⟨range, nofun, fun _ => ⟨rfl, rfl⟩⟩

theorem slider_range (slider : Slider) (position : Nat) (range : InRange mode) :
    InRange (slider.setting.set (max slider.least (min slider.most position)) mode) := by
  obtain ⟨width, height, hz, fps, scale⟩ := range
  have bounds (least most : Nat) (order : least ≤ most) :
      least ≤ max least (min most position) ∧ max least (min most position) ≤ most :=
    ⟨Nat.le_max_left _ _, Nat.max_le.mpr ⟨order, Nat.min_le_left _ _⟩⟩
  cases slider with
  | displayHz =>
    obtain ⟨least, most⟩ := bounds 24 120 (by decide)
    exact ⟨width, height, ⟨least, Nat.le_trans most (by decide)⟩, fps, scale⟩
  | flowFps => exact ⟨width, height, hz, bounds 15 120 (by decide), scale⟩
  | flowScale =>
    obtain ⟨least, most⟩ := bounds 25 100 (by decide)
    exact ⟨width, height, hz, fps, ⟨least, Nat.le_trans most (by decide)⟩⟩

theorem event_shown (machine : Machine) (session : Session) (event : VideoEvent)
    (range : InRange session.ui.videoMode) :
    Shown (event.saves && session.ui.environment.deviceWritable) session.ui
      (event.show machine session) := by
  cases event with
  | enter row => exact enterRow_shown session.ui row range
  | choose index => exact setResolutionPreset_shown index session.ui session.ui range rfl rfl rfl
  | slide slider position =>
    exact ⟨slider_range slider position range, nofun, fun _ => ⟨rfl, rfl⟩⟩
  | release slider position =>
    exact shown_persist _ session.ui (slider_range slider position range) rfl rfl rfl
  | restart => exact ⟨load_range machine session.config.text, nofun, fun _ => ⟨rfl, rfl⟩⟩

/-! ### What a restart shows -/

theorem persist_uncopied (mode : VideoMode) (config : DeviceConfig) :
    persistDeviceSettingsAndRestart false mode config = config := by
  unfold persistDeviceSettingsAndRestart
  dsimp only
  rw [Bool.and_false]
  rfl

/-- What holds before and after every event. -/
structure Kept (rest : List (List UInt8)) (session : Session) : Prop where
  range : InRange session.ui.videoMode
  settled : ∀ setting, Settled format setting (lines session.config.text)
  others : (lines session.config.text).filter foreign = rest

theorem Kept.step (machine : Machine) (kept : Kept rest session) (event : VideoEvent × Bool) :
    Kept rest (step machine session event) := by
  obtain ⟨event, copied⟩ := event
  have range := (event_shown machine (session.allow copied) event kept.range).range
  unfold DeviceSettings.step
  dsimp only
  cases event.saves with
  | false => exact ⟨range, kept.settled, kept.others⟩
  | true =>
    rw [if_pos rfl]
    cases copied with
    | false =>
      rw [persist_uncopied]
      exact ⟨range, kept.settled, kept.others⟩
    | true =>
      refine ⟨range, ?_, ?_⟩
      · dsimp only
        rw [lines_persist range]
        exact settled_replaceAll _ DeviceSetting.all kept.settled
      · dsimp only
        rw [lines_persist range, foreign_replaceAll]
        exact kept.others

theorem Kept.loads (machine : Machine) (long : 32 ≤ machine.longBits) (kept : Kept rest session)
    (event : VideoEvent) (saves : event.saves = true) :
    loadDeviceSettings machine (DeviceSettings.step machine session (event, true)).config.text {} =
      clampMode (DeviceSettings.step machine session (event, true)).ui.videoMode := by
  have range := (event_shown machine (session.allow true) event kept.range).range
  unfold DeviceSettings.step loadDeviceSettings
  dsimp only
  rw [if_pos saves, lines_persist range]
  exact load_written machine long range (settled_replaceAll _ DeviceSetting.all kept.settled)
    (written_replaceAll _ _) _

/-- Whatever happened in the video panel, once settings are saved a user interface that starts anew
reads them from the file, a scale past 100 percent cut to it, and the lines that are not its own
stay. -/
theorem saved_settings_are_loaded (machine : Machine) (long : 32 ≤ machine.longBits)
    (session : Session)
    (loaded : session.ui.videoMode = loadDeviceSettings machine session.config.text {})
    (settled : ∀ setting, Settled format setting (lines session.config.text))
    (events : List (VideoEvent × Bool)) (event : VideoEvent) (saves : event.saves = true) :
    let after := step machine (events.foldl (step machine) session) (event, true)
    loadDeviceSettings machine after.config.text {} = clampMode after.ui.videoMode ∧
      (loadDeviceSettings machine after.config.text {} = after.ui.videoMode ↔
        after.ui.videoMode.flowScalePercent ≤ 100) ∧
      (lines after.config.text).filter foreign = (lines session.config.text).filter foreign := by
  have range : InRange session.ui.videoMode := by
    rw [loaded]
    exact load_range machine _
  have before : Kept ((lines session.config.text).filter foreign)
      (events.foldl (step machine) session) :=
    Runs.invariant_after_any_run events (fun _ event kept => kept.step machine event)
      ⟨range, settled, rfl⟩
  have after := before.step machine (event, true)
  have loads := before.loads machine long event saves
  refine ⟨loads, ?_, after.others⟩
  rw [loads, clampMode_range after.range]
  constructor
  · intro same
    have scale := congrArg VideoMode.flowScalePercent same
    dsimp only at scale
    omega
  · intro most
    rw [Nat.min_eq_right most]

/-- A 64-bit machine. -/
def machine64 : Machine := ⟨⟨64, fun _ => 0⟩, 0⟩

/-- A file that was installed with a line of its own, and the user interface that has read it. -/
def installed : Session :=
  let text := ascii "OPENHD=1\nGLIDE_FLOW_RENDER_SCALE=0.80\nGLIDE_WIDTH=1280\n"
  ⟨{ videoMode := loadDeviceSettings machine64 text {} }, ⟨text, 0⟩⟩

theorem settled_installed (setting : DeviceSetting) :
    Settled format setting (lines installed.config.text) := by
  cases setting <;> decide +kernel

theorem installed_settings_are_loaded :
    let after := step machine64
      ([(.slide .displayHz 200, true), (.enter 2, false)].foldl (step machine64) installed)
      (.enter 3, true)
    loadDeviceSettings machine64 after.config.text {} = clampMode after.ui.videoMode ∧
      (loadDeviceSettings machine64 after.config.text {} = after.ui.videoMode ↔
        after.ui.videoMode.flowScalePercent ≤ 100) ∧
      (lines after.config.text).filter foreign = (lines installed.config.text).filter foreign :=
  saved_settings_are_loaded machine64 (by decide) installed rfl settled_installed
    [(.slide .displayHz 200, true), (.enter 2, false)] (.enter 3) rfl

/-! ### The model without a file -/

/-- The settings that are told, and the lines of the file. -/
structure Tells (saved : Option VideoMode) (lines : List (List UInt8)) : Prop where
  range : ∀ mode ∈ saved, InRange mode
  exact : ∀ mode, InRange mode → (saved = some mode ↔ Written mode lines)

theorem tells_replaceAll (range : InRange mode) (lines : List (List UInt8)) :
    Tells (some mode) (replaceAll mode DeviceSetting.all lines) := by
  have there := written_replaceAll mode lines
  refine ⟨fun other same => Option.some.inj same ▸ range, fun other inside => ?_⟩
  constructor
  · rintro same
    obtain rfl := Option.some.inj same
    exact there
  · intro also
    have equal := written_injective range inside fun setting =>
      Option.some.inj ((there setting).symm.trans (also setting))
    rw [equal]

structure Simulates (start session : Session) : Prop where
  range : InRange session.ui.videoMode
  tells : Tells session.ui.savedVideoMode (lines session.config.text)
  restarts : session.ui.restarts + start.config.restarts =
    start.ui.restarts + session.config.restarts

theorem Simulates.step (machine : Machine) (simulates : Simulates start session)
    (event : VideoEvent × Bool) : Simulates start (DeviceSettings.step machine session event) := by
  obtain ⟨event, copied⟩ := event
  have shown := event_shown machine (session.allow copied) event simulates.range
  have count := simulates.restarts
  unfold DeviceSettings.step
  dsimp only
  cases written : event.saves && copied with
  | false =>
    obtain ⟨saved, restarts⟩ := shown.unsaved written
    have kept : (if event.saves then
        persistDeviceSettingsAndRestart copied (event.show machine (session.allow copied)).videoMode
          session.config
      else session.config) = session.config := by
      split
      · rename_i saves
        obtain rfl : copied = false := by simpa [saves] using written
        exact persist_uncopied _ _
      · rfl
    rw [kept]
    refine ⟨shown.range, ?_, ?_⟩
    · dsimp only
      rw [saved]
      exact simulates.tells
    · dsimp only
      rw [restarts]
      exact count
  | true =>
    obtain ⟨saved, restarts⟩ := shown.saved written
    obtain ⟨saves, rfl⟩ := Bool.and_eq_true_iff.mp written
    rw [if_pos saves]
    refine ⟨shown.range, ?_, ?_⟩
    · dsimp only
      rw [saved, lines_persist shown.range]
      exact tells_replaceAll shown.range _
    · dsimp only
      rw [restarts]
      obtain ⟨unchanged, changed⟩ :=
        restarts_persist (event.show machine (session.allow true)).videoMode session.config
      have exact := simulates.tells.exact _ shown.range
      rw [Session.allow_restarts, Session.allow_savedVideoMode]
      split
      · rename_i same
        rw [unchanged (exact.mp same)]
        omega
      · rename_i different
        rw [changed fun there => different (exact.mpr there)]
        omega

/-- The model of the user interface that keeps no file, only the mode that the file tells, restarts
the service whenever the one with the file does, and tells what the file holds. -/
theorem file_refines_saved_mode (machine : Machine) (start : Session)
    (range : InRange start.ui.videoMode)
    (tells : Tells start.ui.savedVideoMode (lines start.config.text))
    (events : List (VideoEvent × Bool)) :
    let after := events.foldl (step machine) start
    Tells after.ui.savedVideoMode (lines after.config.text) ∧
      after.ui.restarts + start.config.restarts = start.ui.restarts + after.config.restarts := by
  have simulates : Simulates start (events.foldl (step machine) start) :=
    Runs.invariant_after_any_run events (fun _ event simulates => simulates.step machine event)
      ⟨range, tells, rfl⟩
  exact ⟨simulates.tells, simulates.restarts⟩

/-- There is no file yet. -/
def missing : Session := ⟨{}, ⟨[], 0⟩⟩

theorem tells_missing : Tells missing.ui.savedVideoMode (lines missing.config.text) :=
  ⟨nofun, fun _ _ => ⟨nofun, fun there => nomatch there .glideWidth⟩⟩

theorem missing_file_refines_saved_mode :
    let after := [(VideoEvent.enter 0, true), (.enter 1, false), (.restart, true),
      (.choose 1, true)].foldl (step machine64) missing
    Tells after.ui.savedVideoMode (lines after.config.text) ∧
      after.ui.restarts + missing.config.restarts = missing.ui.restarts + after.config.restarts :=
  file_refines_saved_mode machine64 missing (load_range machine64 []) tells_missing
    [(.enter 0, true), (.enter 1, false), (.restart, true), (.choose 1, true)]

end Glide.DeviceSettings
