import Glide.UserInterface

/-! What a line from the other side can do to a program. The conversion of a theme color and, where
a key opens the map, that of two variables are the only ones that neither a check in front of them
nor a handler around them makes safe. -/
namespace Glide.InputLines
open Library AsciiText NumberText StringConversions PreviewControl MavlinkState RuntimeControls
open BridgeConnection
open ControlClients hiding UiState sendLine changeSetting sendLine_step changeSetting_step
open UserInterface

/-- The key and the value of a theme line whose value has six characters. -/
def sixCharacters (command line : List UInt8) : Option (List UInt8 × List UInt8) :=
  if command.isPrefixOf line then
    (keyAndValue (line.drop command.length)).filter fun pair => pair.2.length = 6
  else none

/-- The line names a color by six hexadecimal digits. -/
def NamesColor (command line : List UInt8) : Prop :=
  ∃ key value, sixCharacters command line = some (key, value) ∧ value.all isHexDigit = true

/-- The program goes on after the line, and its theme is as before unless the line chooses a
color. -/
def Survives (colors : Prop) (unchanged : σ → Prop) (result : Except CppException σ) : Prop :=
  ∃ after, result = .ok after ∧ (¬colors → unchanged after)

/-- A value that is no color still begins with a number, and that is the color of the key already. -/
def Harmless (platform : Platform) (command line : List UInt8)
    (shows : List UInt8 → UInt32 → Prop) : Prop :=
  ∀ key value, sixCharacters command line = some (key, value) →
    value.all isHexDigit = true ∨
      ∃ rgb, stoulHex platform value = .ok rgb ∧ shows key (UInt32.ofNat rgb)

/-- Setting the key's file to the color shows no other color than before, of this key and of any
other that names the file. -/
def FileShows (files : ThemeFiles) (key : List UInt8) (rgb : UInt32) : Prop :=
  files.writable (files.file key) = true →
    ∀ other, files.file other = files.file key → shownColor files other = rgb &&& 0xffffff

theorem unchanged_iff_fileShows (files : ThemeFiles) (key : List UInt8) (rgb : UInt32) :
    shownColor (setThemeColor files key rgb) = shownColor files ↔ FileShows files key rgb := by
  rw [shownColor_setThemeColor, FileShows]
  split
  · rename_i writable
    constructor
    · intro same _ other file
      have shown := congrFun same other
      rw [if_pos file] at shown
      exact shown.symm
    · intro shows
      funext other
      split
      · exact (shows writable other ‹_›).symm
      · rfl
  · rename_i fixed
    exact ⟨fun _ writable => absurd writable fixed, fun _ => rfl⟩

theorem sixCharacters_some (found : sixCharacters command line = some (key, value)) :
    command.isPrefixOf line = true ∧
      keyAndValue (line.drop command.length) = some (key, value) ∧ value.length = 6 := by
  unfold sixCharacters at found
  split at found
  · rename_i start
    obtain ⟨split, long⟩ := Option.filter_eq_some_iff.mp found
    exact ⟨start, split, of_decide_eq_true long⟩
  · cases found

/-- A program that converts the value of such a line, and of no other, survives exactly the
harmless lines. -/
theorem survives_iff_harmless (long : 32 ≤ platform.longBits) {unchanged : σ → Prop}
    (colored : List UInt8 → UInt32 → σ)
    (plain : sixCharacters command line = none → ∃ after, result = .ok after ∧ unchanged after)
    (converts : ∀ key value, sixCharacters command line = some (key, value) →
      result = (do return colored key (UInt32.ofNat (← stoulHex platform value))))
    (same : ∀ key rgb, unchanged (colored key rgb) ↔ shows key rgb) :
    Survives (NamesColor command line) unchanged result ↔
      Harmless platform command line shows := by
  unfold Survives Harmless
  cases found : sixCharacters command line with
  | none =>
    obtain ⟨after, done, kept⟩ := plain found
    refine ⟨fun _ key value impossible => (Option.some_ne_none _ impossible.symm).elim, fun _ => ?_⟩
    exact ⟨after, done, fun _ => kept⟩
  | some pair =>
    obtain ⟨key, value⟩ := pair
    have result_eq := converts key value found
    have only : ∀ other text, some (key, value) = some (other, text) → other = key ∧ text = value := by
      rintro other text ⟨⟩
      exact ⟨rfl, rfl⟩
    by_cases color : value.all isHexDigit = true
    · have six := (sixCharacters_some found).2.2
      rw [stoulHex_digits platform (List.ne_nil_of_length_pos (by omega)) color (by omega)] at result_eq
      constructor
      · rintro _ other text equal
        obtain ⟨rfl, rfl⟩ := only other text equal
        exact .inl color
      · intro _
        exact ⟨_, result_eq, fun unnamed => absurd ⟨key, value, found, color⟩ unnamed⟩
    · have unnamed : ¬NamesColor command line := by
        rintro ⟨other, text, equal, digits⟩
        rw [found] at equal
        obtain ⟨rfl, rfl⟩ := only other text equal
        exact color digits
      cases converted : stoulHex platform value with
      | error exception =>
        rw [converted] at result_eq
        constructor
        · rintro ⟨after, done, _⟩
          rw [result_eq] at done
          cases done
        · intro harmless
          obtain digits | ⟨rgb, done, _⟩ := harmless key value rfl
          · exact absurd digits color
          · rw [converted] at done
            cases done
      | ok rgb =>
        rw [converted] at result_eq
        constructor
        · rintro ⟨after, done, kept⟩ other text equal
          obtain ⟨rfl, rfl⟩ := only other text equal
          rw [result_eq] at done
          cases done
          exact .inr ⟨rgb, converted, (same other _).mp (kept unnamed)⟩
        · intro harmless
          obtain digits | ⟨other, done, shows⟩ := harmless key value rfl
          · exact absurd digits color
          · rw [converted] at done
            cases done
            exact ⟨_, result_eq, fun _ => (same key _).mpr shows⟩

/-! ### The controller -/

/-- The controller after a color was set and told. -/
def colored (controller : Controller) (key : List UInt8) (rgb : UInt32) : Controller :=
  let themes := setThemeColor controller.themes key rgb
  { controller with themes }.send
    [.all (ascii "state theme " ++ key ++ [32] ++ rgbHex (shownColor themes key))]

theorem handleThemeLine_colored (long : 32 ≤ platform.longBits)
    (found : sixCharacters setThemeCommand line = some (key, value)) :
    handleThemeLine platform line controller =
      (do return (true, colored controller key (UInt32.ofNat (← stoulHex platform value)))) := by
  obtain ⟨start, split, six⟩ := sixCharacters_some found
  have other : line ≠ ascii "get theme" := by
    rintro rfl
    exact absurd start (by decide)
  unfold handleThemeLine
  rw [if_neg other, if_neg (by simp [start]), split]
  dsimp only
  rw [if_pos six]
  cases stoulHex platform value with
  | error exception => rfl
  | ok rgb =>
    dsimp only [bind, Except.bind]
    rw [themeStateLine_eq (by omega)]
    rfl

theorem handleThemeLine_plain (platform : Platform) (controller : Controller)
    (plain : sixCharacters setThemeCommand line = none) :
    ∃ handled, handleThemeLine platform line controller = .ok (handled, controller) := by
  unfold handleThemeLine
  split
  · exact ⟨_, rfl⟩
  · split
    · exact ⟨_, rfl⟩
    · rename_i start
      split
      · exact ⟨_, rfl⟩
      · rename_i key value split
        split
        · rename_i six
          have found : sixCharacters setThemeCommand line = some (key, value) := by
            rw [sixCharacters, if_pos (by simpa using start), split]
            simp [six]
          rw [plain] at found
          cases found
        · exact ⟨_, rfl⟩

/-- A theme line passes the tests in front of its own. -/
theorem handleLine_colored (long : 32 ≤ platform.longBits) (loop : ControlLoop)
    (client : BitVec 32) (reply : LineReply) (controller : Controller)
    (found : sixCharacters setThemeCommand line = some (key, value)) :
    handleLine platform loop client line reply controller =
      (do return colored controller key (UInt32.ofNat (← stoulHex platform value))) := by
  have taken : handleThemeLine platform line controller = _ := handleThemeLine_colored long found
  obtain ⟨rest, rfl⟩ := List.isPrefixOf_iff_prefix.mp (sixCharacters_some found).1
  have hello : ¬(ascii "hello ").isPrefixOf (setThemeCommand ++ rest) = true := Bool.false_ne_true
  have asks : getSetting (setThemeCommand ++ rest) = none := by
    simp [getSetting, settings, getLine, Setting.name, setThemeCommand, ascii]
  have theme : setThemeCommand ++ rest ≠ ascii "get theme" := by simp [setThemeCommand, ascii]
  have telemetry : (handleTelemetryConnectionLine (setThemeCommand ++ rest) client reply.connect
      controller.telemetry).1 = false := by
    simp [handleTelemetryConnectionLine, setThemeCommand, ascii]
  have network : (handleNetworkLine (setThemeCommand ++ rest) client reply.ip controller).1 = false := by
    simp [handleNetworkLine, setThemeCommand, ascii]
  have sets : setSetting (setThemeCommand ++ rest) = none := by
    simp [setSetting, settings, setLine, Setting.name, Setting.values, setThemeCommand, ascii]
  unfold handleLine
  rw [if_neg hello, asks]
  dsimp only
  rw [if_neg theme, telemetry, network, sets]
  dsimp only
  rw [taken]
  cases stoulHex platform value <;> rfl

theorem handleLine_plain (long : 32 ≤ platform.longBits) (loop : ControlLoop)
    (client : BitVec 32) (reply : LineReply) (controller : Controller)
    (plain : sixCharacters setThemeCommand line = none) :
    ∃ after, handleLine platform loop client line reply controller = .ok after ∧
      after.themes = controller.themes := by
  obtain ⟨handled, passed⟩ := handleThemeLine_plain platform controller plain
  obtain ⟨setting, value, _, _, assigned⟩ | ⟨_, outcome⟩ :=
    handleLine_cases (by omega : 24 ≤ platform.longBits) loop client line reply controller
  · exact ⟨_, assigned, rfl⟩
  · generalize handleLine platform loop client line reply controller = result at outcome
    cases outcome with
    | told messages discovery truthful welcomed => exact ⟨_, rfl, rfl⟩
    | connection ungreeted taken => exact ⟨_, rfl, rfl⟩
    | action start endpoint sent => exact ⟨_, rfl, rfl⟩
    | theme ungreeted taken =>
      rw [passed] at taken
      cases taken
      exact ⟨_, rfl, rfl⟩
    | failed thrown =>
      rw [passed] at thrown
      cases thrown

theorem controller_survives_iff (long : 32 ≤ platform.longBits) (loop : ControlLoop)
    (client : BitVec 32) (line : List UInt8) (reply : LineReply) (controller : Controller) :
    Survives (NamesColor setThemeCommand line)
        (fun after => shownColor after.themes = shownColor controller.themes)
        (handleLine platform loop client line reply controller) ↔
      Harmless platform setThemeCommand line (FileShows controller.themes) := by
  apply survives_iff_harmless long (colored controller)
  · intro plain
    obtain ⟨after, done, kept⟩ := handleLine_plain long loop client reply controller plain
    exact ⟨after, done, by rw [kept]⟩
  · intro key value found
    exact handleLine_colored long loop client reply controller found
  · intro key rgb
    exact unchanged_iff_fileShows controller.themes key rgb

/-! ### The clients -/

/-- A theme line is no line of a setting. -/
theorem stateSetting_theme (rest : List UInt8) : stateSetting (stateThemeCommand ++ rest) = none := by
  simp [stateSetting, settings, stateLine, Setting.name, Setting.values, stateThemeCommand, ascii]

/-- A line for the theme that changes no color passes or is dropped. -/
theorem keyAndValue_plain {command line : List UInt8} (start : command.isPrefixOf line = true)
    (plain : sixCharacters command line = none)
    (split : keyAndValue (line.drop command.length) = some (key, value)) : value.length ≠ 6 := by
  intro six
  rw [sixCharacters, if_pos start, split] at plain
  simp [six] at plain

theorem applyThemeStateLine_plain (platform : Platform) (ui : ControlClients.UiState)
    (plain : sixCharacters stateThemeCommand line = none) :
    ∃ handled, applyThemeStateLine platform line ui = .ok (handled, ui) := by
  unfold applyThemeStateLine
  split
  · exact ⟨_, rfl⟩
  · rename_i start
    split
    · exact ⟨_, rfl⟩
    · rename_i key value split
      rw [if_neg (keyAndValue_plain (by simpa using start) plain split)]
      exact ⟨_, rfl⟩

/-- The theme of the user interface: its colors and those in the files. -/
def sameColors (before after : UiState) : Prop :=
  after.theme = before.theme ∧ shownColor after.files = shownColor before.files

/-- The map can be built: its two variables are numbers, and nothing keeps its packages from being
looked for. -/
structure MapBuilds (environment : Environment) : Prop where
  zoom : ∀ text ∈ environment.minimapZoom, ∃ value, stoi text = .ok value
  grid : ∀ text ∈ environment.minimapGrid, ∃ value, stoi text = .ok value
  packages : environment.packageLookups = none

/-- A key that opens or expands the map finds all that it is built from, and one that zooms it the
tiles. -/
def KeyHarmless (line : List UInt8) (ui : UiState) : Prop :=
  ∀ key, line = ascii "ui key " ++ key →
    ((key = ascii "n" ∨ key = ascii "map") ∧ ui.overlayMode ≠ .minimap ∨
        key = ascii "enter" ∧ ui.overlayMode = .minimap → MapBuilds ui.environment) ∧
      (key ∈ zoomKeys ∧ ui.overlayMode = .minimap → ui.environment.tileLookups = none)

theorem readNumber_ok (text : Option (List UInt8)) :
    readNumber text = .ok () ↔ ∀ word ∈ text, ∃ value, stoi word = .ok value := by
  cases text with
  | none => simp [readNumber]
  | some word =>
    unfold readNumber
    dsimp only
    cases converted : stoi word with
    | error exception =>
      constructor
      · intro impossible
        cases impossible
      · intro number
        obtain ⟨value, done⟩ := number word rfl
        rw [converted] at done
        cases done
    | ok value =>
      refine ⟨fun _ other same => ⟨value, ?_⟩, fun _ => rfl⟩
      cases same
      exact converted

theorem lookUp_ok (exception : Option CppException) :
    lookUp exception = .ok () ↔ exception = none := by
  cases exception with
  | none => exact ⟨fun _ => rfl, fun _ => rfl⟩
  | some exception =>
    constructor
    · intro impossible
      cases impossible
    · intro impossible
      cases impossible

/-- Two steps one after the other throw nothing if neither of them does. -/
theorem bind_ok {first : Except CppException Unit} {second : Unit → Except CppException Unit} :
    (first >>= second) = .ok () ↔ first = .ok () ∧ second () = .ok () := by
  cases first with
  | error exception =>
    constructor
    · intro impossible
      cases impossible
    · rintro ⟨impossible, _⟩
      cases impossible
  | ok _ => exact ⟨fun done => ⟨rfl, done⟩, fun both => both.2⟩

theorem buildMinimapCard_ok (environment : Environment) :
    buildMinimapCard environment = .ok () ↔ MapBuilds environment := by
  unfold buildMinimapCard
  rw [bind_ok, bind_ok, readNumber_ok, readNumber_ok, lookUp_ok]
  exact ⟨fun all => ⟨all.1, all.2.1, all.2.2⟩, fun map => ⟨map.zoom, map.grid, map.packages⟩⟩

theorem keyThrows_ok (key : List UInt8) (ui : UiState) :
    keyThrows key ui.overlayMode ui.environment = .ok () ↔
      ((key = ascii "n" ∨ key = ascii "map") ∧ ui.overlayMode ≠ .minimap ∨
          key = ascii "enter" ∧ ui.overlayMode = .minimap → MapBuilds ui.environment) ∧
        (key ∈ zoomKeys ∧ ui.overlayMode = .minimap → ui.environment.tileLookups = none) := by
  unfold keyThrows
  split
  · rename_i builds
    rw [buildMinimapCard_ok]
    refine ⟨fun map => ⟨fun _ => map, fun zoom => ?_⟩, fun all => all.1 builds⟩
    rcases builds with ⟨rfl | rfl, other⟩ | ⟨rfl, _⟩
    · exact absurd zoom.2 other
    · exact absurd zoom.2 other
    · exact absurd zoom.1 (by decide)
  · rename_i quiet
    split
    · rename_i zoom
      rw [lookUp_ok]
      exact ⟨fun none => ⟨fun builds => absurd builds quiet, fun _ => none⟩, fun all => all.2 zoom⟩
    · rename_i still
      exact ⟨fun _ => ⟨fun builds => absurd builds quiet, fun zoom => absurd zoom still⟩, fun _ => rfl⟩

theorem lineThrows_ok (line : List UInt8) (ui : UiState) :
    lineThrows line ui.overlayMode ui.environment = .ok () ↔ KeyHarmless line ui := by
  unfold lineThrows KeyHarmless
  split
  · rename_i start
    obtain ⟨key, rfl⟩ := List.isPrefixOf_iff_prefix.mp start
    rw [show (ascii "ui key " ++ key).drop 7 = key from List.drop_left' rfl, keyThrows_ok]
    refine ⟨fun harmless other same => ?_, fun harmless => harmless key rfl⟩
    rw [← List.append_cancel_left same]
    exact harmless
  · rename_i other
    refine ⟨fun _ key same => absurd ?_ other, fun _ => rfl⟩
    exact List.isPrefixOf_iff_prefix.mpr ⟨key, same.symm⟩

/-- A line that chooses a color, by its text or as a key. -/
def ChoosesColors (line : List UInt8) (ui : UiState) : Prop :=
  NamesColor stateThemeCommand line ∨ ChoosesColor line ui

/-- A line that is neither a color nor a key has no effect on the theme. -/
theorem pollIpcLine_plain (platform : Platform) (readers : Readers) (now : Nat) (ui : UiState)
    (plain : sixCharacters stateThemeCommand line = none) (unkeyed : line.head? ≠ some 117) :
    ∃ after, pollIpcLine platform readers now line ui = .ok after ∧ sameColors ui after := by
  have unprefixed {word : List UInt8} (start : word.head? = some 117) :
      ¬word.isPrefixOf line = true := by
    cases word with
    | nil => cases start
    | cons byte rest =>
      cases start
      exact fun named => unkeyed (head_when_prefixed named)
  cases told : stateSetting line with
  | some assigned =>
    refine ⟨_, pollIpcLine_told platform readers now ui told, ?_⟩
    unfold updateSetting
    split <;> exact ⟨rfl, rfl⟩
  | none =>
    obtain ⟨handled, passed⟩ := applyThemeStateLine_plain platform ui.toUiState plain
    cases handled with
    | true => exact ⟨ui, pollIpcLine_command readers now told passed, rfl, rfl⟩
    | false =>
      rcases applyNetworkStateLine_cases line ui.toUiState with
        unknown | ⟨_, status, net, scan, peers, answer⟩
      · cases spoken : (applyIpcLine readers line ui.mavlink).1 with
        | true =>
          refine ⟨_, pollIpcLine_mavlink now told passed unknown spoken, ?_⟩
          have base := requestIfShown_base panelUsesMavlink now
            { ui with mavlink := (applyIpcLine readers line ui.mavlink).2 }
          exact ⟨congrArg (·.theme) base, congrArg (shownColor ·.files) base⟩
        | false =>
          rw [pollIpcLine_key now told passed unknown spoken, applyTerminalKey_eq,
            lineThrows_plain unkeyed]
          have step : KeyStep ui (pressLine line ui) := by
            refine pressLine_step fun chooses => unkeyed ?_
            rw [chooses.line]
            rfl
          exact ⟨_, rfl, step.theme, congrArg shownColor step.files⟩
      · refine ⟨_, pollIpcLine_state readers now told passed answer, ?_⟩
        have base := requestIfShown_base panelUsesNetwork now { ui with
          telemetryStatus := status, netStatus := net, netScanning := scan, netPeers := peers }
        exact ⟨congrArg (·.theme) base, congrArg (shownColor ·.files) base⟩

/-- The user interface after a color was told. -/
def recolored (ui : UiState) (key : List UInt8) (rgb : UInt32) : UiState :=
  if key ∈ themeKeys then
    { ui with theme := Function.update ui.theme key rgb, files := setThemeColor ui.files key rgb }
  else ui

theorem pollIpcLine_colored (platform : Platform) (readers : Readers) (now : Nat) (ui : UiState)
    (found : sixCharacters stateThemeCommand line = some (key, value)) :
    pollIpcLine platform readers now line ui =
      (do return recolored ui key (UInt32.ofNat (← stoulHex platform value))) := by
  obtain ⟨start, split, six⟩ := sixCharacters_some found
  obtain ⟨rest, rfl⟩ := List.isPrefixOf_iff_prefix.mp start
  unfold pollIpcLine
  rw [stateSetting_theme]
  dsimp only
  rw [applyThemeStateLine, if_neg (by simp [start]), split]
  dsimp only
  rw [if_pos six]
  cases stoulHex platform value with
  | error exception => rfl
  | ok rgb =>
    unfold recolored
    dsimp only [bind, Except.bind]
    by_cases known : key ∈ themeKeys
    · rw [if_pos known, if_pos known]
      rfl
    · rw [if_neg known, if_neg known]
      rfl

/-- What a color must be to change nothing in the user interface. -/
def UiShows (ui : UiState) (key : List UInt8) (rgb : UInt32) : Prop :=
  key ∈ themeKeys → ui.theme key = rgb ∧ FileShows ui.files key rgb

theorem recolored_same (ui : UiState) (key : List UInt8) (rgb : UInt32) :
    sameColors ui (recolored ui key rgb) ↔ UiShows ui key rgb := by
  unfold sameColors recolored UiShows
  split
  · rename_i known
    dsimp only
    rw [Function.update_eq_self_iff, unchanged_iff_fileShows]
    exact ⟨fun same _ => ⟨same.1.symm, same.2⟩, fun shows => ⟨(shows known).1.symm, (shows known).2⟩⟩
  · rename_i unknown
    exact ⟨fun _ known => absurd known unknown, fun _ => ⟨rfl, rfl⟩⟩

/-- A line that starts as keys do is a key, or has no effect. -/
theorem key_survives_iff (platform : Platform) (readers : Readers) (now : Nat) (ui : UiState)
    (keyed : line.head? = some 117) :
    Survives (ChoosesColors line ui) (sameColors ui) (pollIpcLine platform readers now line ui) ↔
      KeyHarmless line ui := by
  have pressed : pollIpcLine platform readers now line ui =
      (lineThrows line ui.overlayMode ui.environment).map fun _ => pressLine line ui := by
    rcases pollIpcLine_cases platform readers line with
      ⟨setting, value, told, _⟩ | ⟨_, ⟨start, _⟩ | answers⟩
    · rw [setting_head told] at keyed
      cases keyed
    · have head : line.head? = some 115 := head_when_prefixed start
      rw [head] at keyed
      cases keyed
    · rcases answers now ui with ⟨_, _, plain, _⟩ | pressed
      · exact absurd keyed plain
      · exact pressed
  rw [← lineThrows_ok, pressed]
  unfold Survives
  cases lineThrows line ui.overlayMode ui.environment with
  | error exception =>
    refine ⟨?_, fun impossible => by cases impossible⟩
    rintro ⟨after, impossible, _⟩
    cases impossible
  | ok _ =>
    refine ⟨fun _ => rfl, fun _ => ⟨_, rfl, fun other => ?_⟩⟩
    have step : KeyStep ui (pressLine line ui) := pressLine_step fun chooses => other (.inr chooses)
    exact ⟨step.theme, congrArg shownColor step.files⟩

theorem ui_survives_iff (long : 32 ≤ platform.longBits) (readers : Readers) (now : Nat)
    (line : List UInt8) (ui : UiState) :
    Survives (ChoosesColors line ui) (sameColors ui) (pollIpcLine platform readers now line ui) ↔
      Harmless platform stateThemeCommand line (UiShows ui) ∧ KeyHarmless line ui := by
  by_cases keyed : line.head? = some 117
  · have uncolored : ¬stateThemeCommand.isPrefixOf line = true := by
      intro start
      have head : line.head? = some 115 := head_when_prefixed start
      rw [head] at keyed
      cases keyed
    rw [key_survives_iff platform readers now ui keyed]
    refine ⟨fun harmless => ⟨fun key value found => ?_, harmless⟩, fun both => both.2⟩
    exact absurd (sixCharacters_some found).1 uncolored
  · have quiet : KeyHarmless line ui := (lineThrows_ok line ui).mp (lineThrows_plain keyed _ _)
    have unchosen : ChoosesColors line ui ↔ NamesColor stateThemeCommand line := by
      refine ⟨fun chooses => chooses.resolve_right fun key => keyed ?_, .inl⟩
      rw [key.line]
      rfl
    have survives : Survives (NamesColor stateThemeCommand line) (sameColors ui)
        (pollIpcLine platform readers now line ui) ↔
          Harmless platform stateThemeCommand line (UiShows ui) :=
      survives_iff_harmless long (recolored ui)
        (fun plain => pollIpcLine_plain platform readers now ui plain keyed)
        (fun _ _ found => pollIpcLine_colored platform readers now ui found)
        (recolored_same ui)
    unfold Survives at survives ⊢
    rw [unchosen, survives]
    exact ⟨fun harmless => ⟨harmless, quiet⟩, fun both => both.1⟩

theorem headless_survives_iff (long : 32 ≤ platform.longBits) (readers : Readers)
    (line : List UInt8) (ui : HeadlessUi) :
    Survives (NamesColor stateThemeCommand line)
        (fun after => shownColor after.files = shownColor ui.files)
        (headlessLine platform readers line ui) ↔
      Harmless platform stateThemeCommand line (FileShows ui.files) := by
  apply survives_iff_harmless long fun key rgb => { ui with files := setThemeColor ui.files key rgb }
  · intro plain
    unfold headlessLine
    split
    · exact ⟨_, rfl, rfl⟩
    · split
      · rename_i start
        split
        · exact ⟨_, rfl, rfl⟩
        · rename_i key value split
          rw [if_neg (keyAndValue_plain start plain split)]
          exact ⟨_, rfl, rfl⟩
      · exact ⟨_, rfl, rfl⟩
  · intro key value found
    obtain ⟨start, split, six⟩ := sixCharacters_some found
    obtain ⟨rest, rfl⟩ := List.isPrefixOf_iff_prefix.mp start
    unfold headlessLine
    rw [stateSetting_theme]
    dsimp only
    rw [if_pos start, split]
    dsimp only
    rw [if_pos six]
  · intro key rgb
    exact unchanged_iff_fileShows ui.files key rgb

theorem loadTheme_eq (long : 24 ≤ platform.longBits) (files : ThemeFiles) :
    loadTheme platform files = .ok (themeKeys.map (shownColor files)) := by
  simp only [loadTheme, themeKeys, List.mapM_cons, List.mapM_nil, themeColor_eq long]
  rfl

/-- The files show the same colors; the overlay has kept its own or read them again. -/
def sameOverlay (before after : FlowState) : Prop :=
  shownColor after.files = shownColor before.files ∧
    (after.theme = before.theme ∨ after.theme = themeKeys.map (shownColor before.files))

/-- The overlay after a color was told. -/
def reloaded (flow : FlowState) (key : List UInt8) (rgb : UInt32) : FlowState :=
  { flow with
    files := setThemeColor flow.files key rgb
    theme := themeKeys.map (shownColor (setThemeColor flow.files key rgb)) }

theorem applyThemeLine_plain (platform : Platform) (files : ThemeFiles)
    (plain : sixCharacters stateThemeCommand line = none) :
    ∃ handled, applyThemeLine platform line files = .ok (handled, files) := by
  unfold applyThemeLine
  split
  · exact ⟨_, rfl⟩
  · rename_i start
    split
    · exact ⟨_, rfl⟩
    · rename_i key value split
      rw [if_neg (keyAndValue_plain (by simpa using start) plain split)]
      exact ⟨_, rfl⟩

theorem flowLine_plain (long : 32 ≤ platform.longBits) (readers : Readers) (flow : FlowState)
    (plain : sixCharacters stateThemeCommand line = none) :
    ∃ after, flowLine platform readers line flow = .ok after ∧ sameOverlay flow after := by
  unfold flowLine
  split
  · refine ⟨_, rfl, ?_, .inl ?_⟩ <;> (unfold toggleVideoStream; split <;> rfl)
  · obtain ⟨numbers, read⟩ := mapNumbers_ok line
    rw [read]
    dsimp only [bind, Except.bind]
    split
    · exact ⟨flow, rfl, rfl, .inl rfl⟩
    · split
      · exact ⟨flow, rfl, rfl, .inl rfl⟩
      · exact ⟨_, rfl, rfl, .inl rfl⟩
      · obtain ⟨handled, passed⟩ := applyThemeLine_plain platform flow.files plain
        rw [passed]
        dsimp only
        split
        · rw [loadTheme_eq (by omega)]
          exact ⟨_, rfl, rfl, .inr rfl⟩
        · exact ⟨_, rfl, rfl, .inl rfl⟩

theorem flowLine_colored (long : 32 ≤ platform.longBits) (readers : Readers) (flow : FlowState)
    (found : sixCharacters stateThemeCommand line = some (key, value)) :
    flowLine platform readers line flow =
      (do return reloaded flow key (UInt32.ofNat (← stoulHex platform value))) := by
  obtain ⟨start, split, six⟩ := sixCharacters_some found
  obtain ⟨rest, rfl⟩ := List.isPrefixOf_iff_prefix.mp start
  have no_key : stateThemeCommand ++ rest ≠ ascii "ui key space" := by
    simp [stateThemeCommand, ascii]
  have no_map : mapNumbers (stateThemeCommand ++ rest) = .ok none := by
    simp [mapNumbers, stateThemeCommand, ascii]
  unfold flowLine
  rw [if_neg no_key, no_map, stateSetting_theme]
  dsimp only [bind, Except.bind]
  rw [if_neg (by simp), applyThemeLine, if_neg (by simp [start]), split]
  dsimp only
  rw [if_pos six]
  cases stoulHex platform value with
  | error exception => rfl
  | ok rgb =>
    dsimp only [bind, Except.bind, pure, Except.pure]
    rw [if_pos rfl, loadTheme_eq (by omega)]
    rfl

theorem flow_survives_iff (long : 32 ≤ platform.longBits) (readers : Readers) (line : List UInt8)
    (flow : FlowState) :
    Survives (NamesColor stateThemeCommand line) (sameOverlay flow)
        (flowLine platform readers line flow) ↔
      Harmless platform stateThemeCommand line (FileShows flow.files) := by
  apply survives_iff_harmless long (reloaded flow)
  · exact flowLine_plain long readers flow
  · intro key value found
    exact flowLine_colored long readers flow found
  · intro key rgb
    rw [← unchanged_iff_fileShows]
    refine ⟨fun same => same.1, fun same => ⟨same, .inr ?_⟩⟩
    exact congrArg themeKeys.map same

theorem letters_harm (found : sixCharacters command line = some (key, ascii "zzzzzz")) :
    ¬Harmless linux command line shows := by
  intro harmless
  obtain digits | ⟨rgb, done, _⟩ := harmless key _ found
  · exact absurd digits (by decide)
  · have thrown : stoulHex linux (ascii "zzzzzz") = .error .invalidArgument := rfl
    rw [thrown] at done
    cases done

/-- Five digits and a letter are converted as far as they go. -/
theorem five_digits_harm (found : sixCharacters command line = some (key, ascii "12345z"))
    (other : ¬shows key 0x012345) : ¬Harmless linux command line shows := by
  intro harmless
  obtain digits | ⟨rgb, done, shown⟩ := harmless key _ found
  · exact absurd digits (by decide)
  · have converted : stoulHex linux (ascii "12345z") = .ok 0x012345 := rfl
    rw [converted] at done
    cases done
    exact other shown

/-- `GLIDE_MINIMAP_ZOOM` is no number. -/
def autoZoom : UiState := { environment := { minimapZoom := some (ascii "auto") } }

end Glide.InputLines
