import Glide.Library.Runs
import Glide.UserInterface

/-! What telemetry can do to the selection in the menu. `Selection` is the menu without what
it shows: keys steer it, and the number of rows of the panel stops it. A run of the user
interface is compared with the run of its keys alone. -/
namespace Glide.MenuSelection
open Library Runs AsciiText NumberText StringConversions PreviewControl MavlinkState
  RuntimeControls UserInterface
open ControlClients (OverlayMode SidebarPanel neighbour zoomKeys)

/-- The menu, and what the map that covers it is built from. -/
structure Selection where
  environment : Environment
  overlayMode : OverlayMode
  activePanel : SidebarPanel
  focusPanel : Bool
  selectedRow : Int

def selection (ui : UiState) : Selection where
  environment := ui.environment
  overlayMode := ui.overlayMode
  activePanel := ui.activePanel
  focusPanel := ui.focusPanel
  selectedRow := ui.selectedRow

namespace Selection

def choose (panel : SidebarPanel) (menu : Selection) : Selection :=
  { menu with activePanel := panel, selectedRow := 0, focusPanel := false }

def turnTo (mode : OverlayMode) (menu : Selection) : Selection :=
  if menu.overlayMode = mode then menu else { menu with overlayMode := mode, focusPanel := false }

def toggle (mode : OverlayMode) (menu : Selection) : Selection :=
  menu.turnTo (if menu.overlayMode = mode then .hidden else mode)

/-- A key while the menu is shown, on a panel with some number of rows. -/
def menuKey (rowCount : Int) (key : List UInt8) (menu : Selection) : Selection :=
  if key = ascii "up" then
    if menu.focusPanel then { menu with selectedRow := max 0 (menu.selectedRow - 1) }
    else menu.choose (neighbour menu.activePanel (-1))
  else if key = ascii "down" then
    if menu.focusPanel then
      { menu with selectedRow := min (max 0 (rowCount - 1)) (menu.selectedRow + 1) }
    else menu.choose (neighbour menu.activePanel 1)
  else if key = ascii "left" ∨ key = ascii "back" then
    if menu.focusPanel then { menu with focusPanel := false } else menu.turnTo .hidden
  else if key = ascii "right" then { menu with focusPanel := true, selectedRow := 0 }
  else if key = ascii "enter" then
    if menu.focusPanel then menu else { menu with focusPanel := true, selectedRow := 0 }
  else menu

def press (rowCount : Int) (key : List UInt8) (menu : Selection) : Selection :=
  if key = ascii "m" ∨ key = ascii "menu" then menu.toggle .menu
  else if key = ascii "n" ∨ key = ascii "map" then menu.toggle .minimap
  else if key ∈ zoomKeys ∧ menu.overlayMode = .minimap then menu
  else if key = ascii "enter" ∧ menu.overlayMode = .minimap then menu
  else if menu.overlayMode = .hidden ∧ key = ascii "enter" then menu.turnTo .menu
  else if menu.overlayMode = .menu then menu.menuKey rowCount key
  else menu

def obey (rowCount : Int) (line : List UInt8) (menu : Selection) : Selection :=
  if line = ascii "ui show" ∨ line = ascii "ui menu" then menu.turnTo .menu
  else if line = ascii "ui hide" ∨ line = ascii "ui close" then menu.turnTo .hidden
  else if line = ascii "ui toggle" then menu.toggle .menu
  else if (ascii "ui key ").isPrefixOf line then menu.press rowCount (line.drop 7)
  else menu

end Selection

/-! ### The menu of the user interface -/

theorem selection_rebuildUi (low : 0 ≤ ui.selectedRow) :
    selection (rebuildUi ui) = selection ui := by
  unfold rebuildUi buildOverlay
  split
  · simp only [selection, Int.max_eq_right low]
  · rfl

theorem selection_sendLine (line : List UInt8) (ui : UiState) :
    selection (sendLine line ui) = selection ui := by
  unfold sendLine ControlClients.sendLine
  split <;> rfl

theorem selection_changeSetting (setting : Setting) (value : List UInt8) (ui : UiState) :
    selection (changeSetting setting value ui) = selection ui := by
  unfold changeSetting ControlClients.changeSetting ControlClients.sendSetting
    ControlClients.sendLine
  split <;> rfl

theorem selection_persistDeviceSettings (ui : UiState) :
    selection (persistDeviceSettingsAndRestart ui) = selection ui := by
  unfold persistDeviceSettingsAndRestart
  split
  · rfl
  · split <;> rfl

theorem selection_persistMapSettings (ui : UiState) :
    selection (persistMapSettings ui) = selection ui := by
  unfold persistMapSettings
  split <;> rfl

theorem selection_setActivePanel (panel : SidebarPanel) (ui : UiState) :
    selection (setActivePanel panel ui) = (selection ui).choose panel :=
  selection_rebuildUi (Int.le_refl 0)

theorem selection_suppress (ui : UiState) :
    selection (suppressSeparateCoordinatesForMap ui) = selection ui := by
  unfold suppressSeparateCoordinatesForMap
  split
  · rfl
  · dsimp only
    split
    · exact (selection_changeSetting _ _ _).trans (selection_persistMapSettings _)
    · exact selection_persistMapSettings _

theorem selection_restore (ui : UiState) :
    selection (restoreSeparateCoordinatesAfterMap ui) = selection ui := by
  unfold restoreSeparateCoordinatesAfterMap
  split
  · dsimp only
    split
    · exact (selection_changeSetting _ _ _).trans (selection_persistMapSettings _)
    · exact selection_persistMapSettings _
  · rfl

theorem selection_leaveMap (ui : UiState) : selection (leaveMap ui) = selection ui := by
  unfold leaveMap
  split
  · exact selection_restore ui
  · rfl

/-- The overlay is another, and the panel loses the focus. -/
theorem selection_turned (mode : OverlayMode) (kept : selection left = selection ui)
    (low : 0 ≤ ui.selectedRow) :
    selection (rebuildUi { left with overlayMode := mode, focusPanel := false }) =
      { selection ui with overlayMode := mode, focusPanel := false } := by
  have row : left.selectedRow = ui.selectedRow := congrArg (·.selectedRow) kept
  rw [← row] at low
  rw [← kept]
  exact selection_rebuildUi low

theorem selection_showMenu (low : 0 ≤ ui.selectedRow) :
    selection (showMenu ui) = (selection ui).turnTo .menu := by
  unfold showMenu Selection.turnTo
  by_cases shown : ui.overlayMode = .menu
  · rw [if_pos shown, if_pos (show (selection ui).overlayMode = .menu from shown)]
  · rw [if_neg shown, if_neg (show (selection ui).overlayMode ≠ .menu from shown)]
    exact selection_turned .menu (selection_leaveMap ui) low

theorem selection_hideOverlay (low : 0 ≤ ui.selectedRow) :
    selection (hideOverlay ui) = (selection ui).turnTo .hidden := by
  unfold hideOverlay Selection.turnTo
  by_cases shown : ui.overlayMode = .hidden
  · rw [if_pos shown, if_pos (show (selection ui).overlayMode = .hidden from shown)]
  · rw [if_neg shown, if_neg (show (selection ui).overlayMode ≠ .hidden from shown)]
    exact selection_turned .hidden (selection_leaveMap ui) low

theorem selection_cycleOverlayFromMenuKey (low : 0 ≤ ui.selectedRow) :
    selection (cycleOverlayFromMenuKey ui) = (selection ui).toggle .menu := by
  unfold cycleOverlayFromMenuKey Selection.toggle
  by_cases shown : ui.overlayMode = .menu
  · rw [if_pos shown, if_pos (show (selection ui).overlayMode = .menu from shown)]
    exact selection_hideOverlay low
  · rw [if_neg shown, if_neg (show (selection ui).overlayMode ≠ .menu from shown)]
    exact selection_showMenu low

theorem selection_toggleMap (low : 0 ≤ ui.selectedRow) :
    selection (toggleMap ui) = (selection ui).toggle .minimap := by
  unfold toggleMap Selection.toggle Selection.turnTo
  by_cases shown : ui.overlayMode = .minimap
  · have other : (selection ui).overlayMode ≠ .hidden := by
      rw [show (selection ui).overlayMode = .minimap from shown]
      decide
    rw [if_pos shown, if_pos (show (selection ui).overlayMode = .minimap from shown),
      if_neg other]
    exact selection_turned .hidden (selection_restore ui) low
  · rw [if_neg shown, if_neg (show (selection ui).overlayMode ≠ .minimap from shown),
      if_neg (show (selection ui).overlayMode ≠ .minimap from shown)]
    exact selection_turned .minimap (selection_suppress ui) low

/-- What enter does to a row is told to others, and moves nothing. -/
theorem selection_enterRow (low : 0 ≤ ui.selectedRow) :
    selection (enterRow ui) = selection ui := by
  unfold enterRow
  split
  case h_1 =>
    split
    · split <;> exact selection_sendLine _ ui
    · split
      · exact selection_sendLine _ ui
      · rfl
  case h_2 => iterate 5 (split; exact selection_sendLine _ ui)
              rfl
  case h_3 =>
    iterate 4 (split; exact selection_persistDeviceSettings _)
    rfl
  case h_4 =>
    split
    · exact selection_persistMapSettings _
    · split
      · exact selection_changeSetting _ _ ui
      · rfl
  case h_5 =>
    iterate 2 (split; exact selection_sendLine _ _)
    rfl
  case h_6 =>
    iterate 4 (split; exact selection_sendLine _ ui)
    rfl
  case h_7 =>
    iterate 3 (split; exact selection_sendLine _ ui)
    rfl
  case h_8 =>
    split
    · exact selection_rebuildUi low
    · rfl
  case h_9 => rfl
  case h_10 => rfl

theorem selection_ite {condition : Prop} [Decidable condition]
    (yes : condition → selection one = first) (no : ¬ condition → selection other = second) :
    selection (if condition then one else other) = if condition then first else second := by
  split
  · exact yes ‹_›
  · exact no ‹_›

theorem selection_menuKey (key : List UInt8) (low : 0 ≤ ui.selectedRow) :
    selection (menuKey key ui) = (selection ui).menuKey ui.rowCount key := by
  refine selection_ite (fun _ => ?up) fun _ => selection_ite (fun _ => ?down) fun _ =>
    selection_ite (fun _ => ?left) fun _ => selection_ite (fun _ => ?right) fun _ =>
    selection_ite (fun _ => ?enter) fun _ => rfl
  case up =>
    refine selection_ite (fun _ => ?_) fun _ => selection_setActivePanel _ ui
    have inside : 0 ≤ max 0 (ui.selectedRow - 1) := Int.le_max_left _ _
    exact selection_rebuildUi inside
  case down =>
    refine selection_ite (fun _ => ?_) fun _ => selection_setActivePanel _ ui
    have inside : 0 ≤ min (max 0 (ui.rowCount - 1)) (ui.selectedRow + 1) := by omega
    exact selection_rebuildUi inside
  case left =>
    refine selection_ite (fun _ => ?_) fun _ => selection_hideOverlay low
    exact selection_rebuildUi low
  case right => exact selection_rebuildUi (Int.le_refl 0)
  case enter =>
    refine selection_ite (fun _ => selection_enterRow low) fun _ => ?_
    exact selection_rebuildUi (Int.le_refl 0)

theorem selection_pressKey (key : List UInt8) (low : 0 ≤ ui.selectedRow) :
    selection (pressKey key ui) = (selection ui).press ui.rowCount key := by
  refine selection_ite (fun _ => selection_cycleOverlayFromMenuKey low) fun _ =>
    selection_ite (fun _ => selection_toggleMap low) fun _ =>
    selection_ite (fun _ => rfl) fun _ => selection_ite (fun _ => ?expand) fun _ =>
    selection_ite (fun _ => selection_showMenu low) fun _ =>
    selection_ite (fun _ => selection_menuKey key low) fun _ => rfl
  case expand => exact selection_rebuildUi low

theorem selection_pressLine (line : List UInt8) (low : 0 ≤ ui.selectedRow) :
    selection (pressLine line ui) = (selection ui).obey ui.rowCount line :=
  selection_ite (fun _ => selection_showMenu low) fun _ =>
    selection_ite (fun _ => selection_hideOverlay low) fun _ =>
    selection_ite (fun _ => selection_cycleOverlayFromMenuKey low) fun _ =>
    selection_ite (fun _ => selection_pressKey _ low) fun _ => rfl

/-! ### Lines that are no keys -/

/-- Keys come in lines that start with a "u". -/
theorem obey_plain (plain : line.head? ≠ some 117) (rowCount : Int) (menu : Selection) :
    menu.obey rowCount line = menu := by
  unfold Selection.obey
  rw [if_neg, if_neg, if_neg, if_neg]
  · exact fun start => plain (head_when_prefixed start)
  · rintro rfl
    exact plain rfl
  · rintro (rfl | rfl) <;> exact plain rfl
  · rintro (rfl | rfl) <;> exact plain rfl

theorem selection_updateSetting (setting : Setting) (value : List UInt8) (ui : UiState) :
    selection (updateSetting setting value ui) = selection ui := by
  unfold updateSetting
  split <;> rfl

theorem selection_requestIfShown (uses : SidebarPanel → Bool) (now : Nat) (ui : UiState) :
    selection (requestIfShown uses now ui) = selection ui := by
  unfold requestIfShown
  split <;> rfl

theorem selection_effect (effect : LineEffect now ui after) : selection after = selection ui := by
  cases effect with
  | theme theme files => rfl
  | network status net scanning peers => exact selection_requestIfShown _ _ _
  | mavlink mavlink => exact selection_requestIfShown _ _ _

/-- Whether a line ends the program is settled by the line and the menu. Otherwise it does to the
selection what it does as a key. -/
theorem polled (platform : Platform) (readers : Readers) (line : List UInt8) :
    (ControlClients.stateThemeCommand.isPrefixOf line = true ∧
        ∃ exception, ∀ now ui, pollIpcLine platform readers now line ui = .error exception) ∨
      ∀ now ui, 0 ≤ ui.selectedRow →
        ∃ after, pollIpcLine platform readers now line ui =
            (lineThrows line ui.overlayMode ui.environment).map (fun _ => after) ∧
          selection after = (selection ui).obey ui.rowCount line := by
  rcases pollIpcLine_cases platform readers line with
    ⟨setting, value, told, answer⟩ | ⟨_, fails | answers⟩
  · right
    intro now ui _
    have plain : line.head? ≠ some 117 := by simp [setting_head told]
    refine ⟨updateSetting setting value ui, ?_, ?_⟩
    · rw [answer, lineThrows_plain plain]
      rfl
    · rw [selection_updateSetting, obey_plain plain]
  · exact .inl fails
  · right
    intro now ui low
    rcases answers now ui with ⟨after, answer, plain, effect⟩ | pressed
    · refine ⟨after, ?_, by rw [selection_effect effect, obey_plain plain]⟩
      rw [answer, lineThrows_plain plain]
      rfl
    · exact ⟨_, pressed, selection_pressLine line low⟩

/-! ### Rows -/

/-- A key that moves the selection, with the number of rows the panel had then. -/
inductive Move where
  | up
  | down (rowCount : Int)
  deriving DecidableEq, Repr

/-- The key of a move: whether it goes down. -/
def Move.goesDown : Move → Bool
  | .up => false
  | .down _ => true

def Move.apply (row : Int) : Move → Int
  | .up => max 0 (row - 1)
  | .down rowCount => min (max 0 (rowCount - 1)) (row + 1)

/-- Where some moves lead to from the first row. -/
def rowAfter (moves : List Move) : Int := moves.foldl Move.apply 0

theorem rowAfter_nonneg (moves : List Move) : 0 ≤ rowAfter moves := by
  suffices inside : ∀ row, 0 ≤ row → 0 ≤ moves.foldl Move.apply row from inside 0 (Int.le_refl 0)
  induction moves with
  | nil => exact fun row low => low
  | cons move rest ih =>
    intro row low
    refine ih _ ?_
    cases move with
    | up => exact Int.le_max_left _ _
    | down rowCount => simp only [Move.apply]; omega

theorem rowAfter_snoc (moves : List Move) (move : Move) :
    rowAfter (moves ++ [move]) = move.apply (rowAfter moves) := by
  simp only [rowAfter, List.foldl_append, List.foldl_cons, List.foldl_nil]

namespace Selection

/-- The moves since the selection was last put on the first row, after a key. -/
def keyMoves (rowCount : Int) (key : List UInt8) (menu : Selection) (moves : List Move) :
    List Move :=
  if menu.overlayMode ≠ .menu then moves
  else if key = ascii "up" then if menu.focusPanel then moves ++ [.up] else []
  else if key = ascii "down" then if menu.focusPanel then moves ++ [.down rowCount] else []
  else if key = ascii "right" ∨ key = ascii "enter" ∧ menu.focusPanel = false then []
  else moves

def lineMoves (rowCount : Int) (line : List UInt8) (menu : Selection) (moves : List Move) :
    List Move :=
  if (ascii "ui key ").isPrefixOf line then menu.keyMoves rowCount (line.drop 7) moves else moves

theorem turnTo_row (mode : OverlayMode) (menu : Selection) :
    (menu.turnTo mode).selectedRow = menu.selectedRow := by
  unfold turnTo
  split <;> rfl

theorem menuKey_row (rowCount : Int) (key : List UInt8) {menu : Selection}
    (shown : menu.overlayMode = .menu) (row : menu.selectedRow = rowAfter moves) :
    (menu.menuKey rowCount key).selectedRow = rowAfter (menu.keyMoves rowCount key moves) := by
  unfold menuKey keyMoves
  rw [if_neg (not_not_intro shown)]
  by_cases up : key = ascii "up"
  · rw [if_pos up, if_pos up]
    split
    · rw [rowAfter_snoc, ← row]
      rfl
    · rfl
  rw [if_neg up, if_neg up]
  by_cases down : key = ascii "down"
  · rw [if_pos down, if_pos down]
    split
    · rw [rowAfter_snoc, ← row]
      rfl
    · rfl
  rw [if_neg down, if_neg down]
  by_cases left : key = ascii "left" ∨ key = ascii "back"
  · have stays : ¬ (key = ascii "right" ∨ key = ascii "enter" ∧ menu.focusPanel = false) := by
      rcases left with rfl | rfl <;> simp [ascii]
    rw [if_pos left, if_neg stays]
    split
    · exact row
    · exact (turnTo_row _ menu).trans row
  rw [if_neg left]
  by_cases right : key = ascii "right"
  · rw [if_pos right, if_pos (.inl right)]
    rfl
  rw [if_neg right]
  by_cases enter : key = ascii "enter"
  · rw [if_pos enter]
    cases focus : menu.focusPanel with
    | true => simpa [right, focus] using row
    | false => simp [enter, rowAfter]
  · rw [if_neg enter, if_neg (by simp [right, enter])]
    exact row

theorem toggle_row (mode : OverlayMode) (menu : Selection) :
    (menu.toggle mode).selectedRow = menu.selectedRow := turnTo_row _ menu

theorem keyMoves_away {menu : Selection} (away : menu.overlayMode ≠ .menu) :
    menu.keyMoves rowCount key moves = moves := if_pos away

theorem keyMoves_other {menu : Selection}
    (other : key ∉ [ascii "up", ascii "down", ascii "right", ascii "enter"]) :
    menu.keyMoves rowCount key moves = moves := by
  simp only [List.mem_cons, List.not_mem_nil, or_false, not_or] at other
  obtain ⟨up, down, right, enter⟩ := other
  simp only [keyMoves, up, down, right, enter, if_false, false_and, or_self, ite_self]

theorem press_row (rowCount : Int) (key : List UInt8) {menu : Selection}
    (row : menu.selectedRow = rowAfter moves) :
    (menu.press rowCount key).selectedRow = rowAfter (menu.keyMoves rowCount key moves) := by
  unfold Selection.press
  split
  · rename_i named
    rw [keyMoves_other (by rcases named with rfl | rfl <;> decide), toggle_row]
    exact row
  · split
    · rename_i named
      rw [keyMoves_other (by rcases named with rfl | rfl <;> decide), toggle_row]
      exact row
    · split
      · rename_i zoom
        have away : menu.overlayMode ≠ .menu := by simp [zoom.2]
        rw [keyMoves_away away]
        exact row
      · split
        · rename_i expand
          have away : menu.overlayMode ≠ .menu := by simp [expand.2]
          rw [keyMoves_away away]
          exact row
        · split
          · rename_i hidden
            have away : menu.overlayMode ≠ .menu := by simp [hidden.1]
            rw [keyMoves_away away, turnTo_row]
            exact row
          · split
            · exact menuKey_row rowCount key ‹_› row
            · rw [keyMoves_away ‹_›]
              exact row

theorem obey_row (rowCount : Int) (line : List UInt8) {menu : Selection}
    (row : menu.selectedRow = rowAfter moves) :
    (menu.obey rowCount line).selectedRow = rowAfter (menu.lineMoves rowCount line moves) := by
  unfold Selection.obey lineMoves
  split
  · rename_i named
    rw [if_neg (by rcases named with rfl | rfl <;> decide), turnTo_row]
    exact row
  · split
    · rename_i named
      rw [if_neg (by rcases named with rfl | rfl <;> decide), turnTo_row]
      exact row
    · split
      · rename_i named
        rw [if_neg (by rw [named]; decide), toggle_row]
        exact row
      · split
        · exact press_row rowCount _ row
        · exact row

/-! ### What is left without the row -/

/-- The menu, with the first row selected. -/
def forget (menu : Selection) : Selection := { menu with selectedRow := 0 }

theorem forget_ite {condition : Prop} [Decidable condition]
    (yes : condition → forget one = forget first)
    (no : ¬ condition → forget other = forget second) :
    forget (if condition then one else other) = forget (if condition then first else second) := by
  split
  · exact yes ‹_›
  · exact no ‹_›

theorem forget_turnTo (mode : OverlayMode) (menu : Selection) :
    forget (menu.turnTo mode) = forget (menu.forget.turnTo mode) :=
  forget_ite (fun _ => rfl) fun _ => rfl

theorem forget_menuKey (rowCount : Int) (key : List UInt8) (menu : Selection) :
    forget (menu.menuKey rowCount key) = forget (menu.forget.menuKey 0 key) :=
  forget_ite (fun _ => forget_ite (fun _ => rfl) fun _ => rfl) fun _ =>
    forget_ite (fun _ => forget_ite (fun _ => rfl) fun _ => rfl) fun _ =>
    forget_ite (fun _ => forget_ite (fun _ => rfl) fun _ => forget_turnTo _ menu) fun _ =>
    forget_ite (fun _ => rfl) fun _ =>
    forget_ite (fun _ => forget_ite (fun _ => rfl) fun _ => rfl) fun _ => rfl

theorem forget_press (rowCount : Int) (key : List UInt8) (menu : Selection) :
    forget (menu.press rowCount key) = forget (menu.forget.press 0 key) :=
  forget_ite (fun _ => forget_turnTo _ menu) fun _ =>
    forget_ite (fun _ => forget_turnTo _ menu) fun _ =>
    forget_ite (fun _ => rfl) fun _ => forget_ite (fun _ => rfl) fun _ =>
    forget_ite (fun _ => forget_turnTo _ menu) fun _ =>
    forget_ite (fun _ => forget_menuKey rowCount key menu) fun _ => rfl

/-- Neither the row nor the number of rows matters to the rest of the menu. -/
theorem forget_obey (rowCount : Int) (line : List UInt8) (menu : Selection) :
    forget (menu.obey rowCount line) = forget (menu.forget.obey 0 line) :=
  forget_ite (fun _ => forget_turnTo _ menu) fun _ =>
    forget_ite (fun _ => forget_turnTo _ menu) fun _ =>
    forget_ite (fun _ => forget_turnTo _ menu) fun _ =>
    forget_ite (fun _ => forget_press rowCount _ menu) fun _ => rfl

/-- Nor do they matter to which keys are moves. -/
theorem lineMoves_goesDown (same : forget one = forget other)
    (keys : moves.map Move.goesDown = others.map Move.goesDown) :
    (one.lineMoves rowCount line moves).map Move.goesDown =
      (other.lineMoves otherCount line others).map Move.goesDown := by
  have overlay : one.overlayMode = other.overlayMode := congrArg (·.overlayMode) same
  have focus : one.focusPanel = other.focusPanel := congrArg (·.focusPanel) same
  unfold lineMoves keyMoves
  rw [overlay, focus]
  repeat' split
  all_goals simp [keys, Move.goesDown]

theorem lineMoves_plain (plain : line.head? ≠ some 117) (rowCount : Int) (menu : Selection)
    (moves : List Move) : menu.lineMoves rowCount line moves = moves :=
  if_neg fun start => plain (head_when_prefixed start)

end Selection

/-! ### Runs -/

/-- The lines of telemetry and of the network. -/
def isTelemetry (line : List UInt8) : Bool :=
  (ascii "mav ").isPrefixOf line || (ascii "state net ").isPrefixOf line ||
    (ascii "state telemetry ").isPrefixOf line

inductive Event where
  | line (now : Nat) (line : List UInt8)
  /-- The end of a poll, where a panel is built anew and a connection is tried. -/
  | finishPoll (now : Nat)

/-- A line that telemetry has no part in. -/
def Event.key : Event → Option (List UInt8)
  | .line _ text => if isTelemetry text then none else some text
  | .finishPoll _ => none

/-- The user interface, and how the selection came where it is. -/
structure Run where
  ui : UiState
  moves : List Move := []

def Run.receive (platform : Platform) (readers : Readers) (now : Nat) (line : List UInt8)
    (run : Run) : Except CppException Run := do
  let ui ← pollIpcLine platform readers now line run.ui
  return { ui, moves := (selection run.ui).lineMoves run.ui.rowCount line run.moves }

/-- An exception ends the program. -/
def step (platform : Platform) (readers : Readers) (process : Except CppException Run) :
    Event → Except CppException Run
  | .line now line => process.bind (Run.receive platform readers now line)
  | .finishPoll now => process.map fun run => { run with ui := finishPoll now run.ui }

def begun (before : UiState) : Except CppException Run :=
  (start before).map fun ui => { ui }

def run (platform : Platform) (readers : Readers) (before : UiState) (events : List Event) :
    Except CppException Run := events.foldl (step platform readers) (begun before)

/-- A panel that is built anew is not in focus, and its first row is selected. -/
def Undisturbed : Except CppException Run → Event → Prop
  | .ok run, .finishPoll now =>
    run.ui.panelRebuildPending = true ∧ run.ui.nextPanelRebuild ≤ now →
      run.ui.focusPanel = false ∧ run.ui.selectedRow = 0
  | _, _ => True

/-- The selections are the same, but for the rows that the moves were stopped at: each comes
from the same keys, with the numbers of rows of its own panel. -/
structure SameSelection (one other : Run) : Prop where
  environment : one.ui.environment = other.ui.environment
  overlayMode : one.ui.overlayMode = other.ui.overlayMode
  activePanel : one.ui.activePanel = other.ui.activePanel
  focusPanel : one.ui.focusPanel = other.ui.focusPanel
  keys : one.moves.map Move.goesDown = other.moves.map Move.goesDown
  row : one.ui.selectedRow = rowAfter one.moves
  otherRow : other.ui.selectedRow = rowAfter other.moves

def Alike : Except CppException Run → Except CppException Run → Prop
  | .ok one, .ok other => SameSelection one other
  | .error _, .error _ => True
  | _, _ => False

/-- Panels that had as many rows at each move have the same row selected. -/
theorem SameSelection.selectedRow_eq (same : SameSelection one other)
    (stops : one.moves = other.moves) : one.ui.selectedRow = other.ui.selectedRow := by
  rw [same.row, same.otherRow, stops]

theorem SameSelection.symm (same : SameSelection one other) : SameSelection other one :=
  ⟨same.environment.symm, same.overlayMode.symm, same.activePanel.symm, same.focusPanel.symm,
    same.keys.symm, same.otherRow, same.row⟩

theorem SameSelection.trans (first : SameSelection one middle)
    (second : SameSelection middle other) : SameSelection one other :=
  ⟨first.environment.trans second.environment, first.overlayMode.trans second.overlayMode,
    first.activePanel.trans second.activePanel, first.focusPanel.trans second.focusPanel,
    first.keys.trans second.keys, first.row, second.otherRow⟩

theorem Alike.symm (alike : Alike one other) : Alike other one := by
  cases one with
  | error exception =>
    cases other with
    | error _ => trivial
    | ok _ => exact alike
  | ok run =>
    cases other with
    | error _ => exact alike
    | ok _ => exact SameSelection.symm alike

theorem Alike.trans (first : Alike one middle) (second : Alike middle other) :
    Alike one other := by
  cases one <;> cases middle <;> cases other <;>
    first
      | trivial
      | exact SameSelection.trans first second

theorem SameSelection.forget_eq (same : SameSelection one other) :
    (selection one.ui).forget = (selection other.ui).forget := by
  simp only [Selection.forget, selection, same.environment, same.overlayMode, same.activePanel,
    same.focusPanel]

/-- The same menu, and the rows that the moves lead to. -/
theorem SameSelection.of_forget
    (menu : (selection one.ui).forget = (selection other.ui).forget)
    (keys : one.moves.map Move.goesDown = other.moves.map Move.goesDown)
    (row : one.ui.selectedRow = rowAfter one.moves)
    (otherRow : other.ui.selectedRow = rowAfter other.moves) : SameSelection one other :=
  ⟨congrArg (·.environment) menu, congrArg (·.overlayMode) menu, congrArg (·.activePanel) menu,
    congrArg (·.focusPanel) menu, keys, row, otherRow⟩

theorem telemetry_plain (telemetry : isTelemetry line = true) :
    line.head? ≠ some 117 ∧ ControlClients.stateThemeCommand.isPrefixOf line = false := by
  simp only [isTelemetry, Bool.or_eq_true] at telemetry
  rcases telemetry with (start | start) | start
  · obtain ⟨rest, rfl⟩ := List.isPrefixOf_iff_prefix.1 start
    exact ⟨by simp [ascii], rfl⟩
  · obtain ⟨rest, rfl⟩ := List.isPrefixOf_iff_prefix.1 start
    exact ⟨by simp [ascii], rfl⟩
  · obtain ⟨rest, rfl⟩ := List.isPrefixOf_iff_prefix.1 start
    exact ⟨by simp [ascii], rfl⟩

theorem selection_rebuildPendingPanel
    (undisturbed : ui.panelRebuildPending = true ∧ ui.nextPanelRebuild ≤ now →
      ui.focusPanel = false ∧ ui.selectedRow = 0) :
    selection (rebuildPendingPanel now ui) = selection ui := by
  unfold rebuildPendingPanel
  split
  · rename_i due
    obtain ⟨focus, row⟩ := undisturbed due
    rw [selection_setActivePanel]
    simp only [Selection.choose, selection, focus, row]
  · rfl

theorem selection_reconnectTelemetry (now : Nat) (ui : UiState) :
    selection (reconnectTelemetry now ui) = selection ui := by
  unfold reconnectTelemetry
  split
  · exact selection_sendLine _ _
  · rfl

/-- An event of telemetry leaves a run like the run of its keys. -/
theorem alike_hidden (platform : Platform) (readers : Readers) (alike : Alike one other)
    (undisturbed : Undisturbed one event) (hidden : event.key = none) :
    Alike (step platform readers one event) other := by
  cases one with
  | error exception => cases event <;> exact alike
  | ok run =>
    cases other with
    | error exception => exact absurd alike id
    | ok other =>
      have same : SameSelection run other := alike
      have low : 0 ≤ run.ui.selectedRow := same.row ▸ rowAfter_nonneg _
      cases event with
      | line now line =>
        have telemetry : isTelemetry line = true := by
          simpa [Event.key] using hidden
        obtain ⟨plain, unthemed⟩ := telemetry_plain telemetry
        rcases polled platform readers line with ⟨start, _⟩ | told
        · rw [start] at unthemed
          cases unthemed
        · obtain ⟨after, received, kept⟩ := told now run.ui low
          rw [obey_plain plain] at kept
          rw [lineThrows_plain plain] at received
          have moves := Selection.lineMoves_plain plain run.ui.rowCount (selection run.ui) run.moves
          simp only [step, Except.bind, Run.receive, received, moves]
          change SameSelection { ui := after, moves := run.moves } other
          refine .of_forget (by rw [kept]; exact same.forget_eq) same.keys ?_ same.otherRow
          exact (congrArg (·.selectedRow) kept).trans same.row
      | finishPoll now =>
        have kept : selection (finishPoll now run.ui) = selection run.ui :=
          (selection_reconnectTelemetry now _).trans (selection_rebuildPendingPanel undisturbed)
        change SameSelection { run with ui := finishPoll now run.ui } other
        refine .of_forget (by rw [kept]; exact same.forget_eq) same.keys ?_ same.otherRow
        exact (congrArg (·.selectedRow) kept).trans same.row

/-- A line that both get leaves them alike, at whatever times it comes. -/
theorem alike_received (platform : Platform) (readers : Readers) (now late : Nat)
    (line : List UInt8) (alike : Alike one other) :
    Alike (one.bind (Run.receive platform readers now line))
      (other.bind (Run.receive platform readers late line)) := by
  cases one with
  | error exception =>
    cases other with
    | error _ => trivial
    | ok _ => exact absurd alike id
  | ok one =>
    cases other with
    | error _ => exact absurd alike id
    | ok other =>
      have same : SameSelection one other := alike
      rcases polled platform readers line with ⟨_, exception, fails⟩ | told
      · simp only [Except.bind, Run.receive, fails]
        trivial
      · obtain ⟨after, received, moved⟩ := told now one.ui (same.row ▸ rowAfter_nonneg _)
        obtain ⟨later, receivedLate, movedLate⟩ :=
          told late other.ui (same.otherRow ▸ rowAfter_nonneg _)
        rw [same.environment, same.overlayMode] at received
        simp only [Except.bind, Run.receive, received, receivedLate]
        cases lineThrows line other.ui.overlayMode other.ui.environment with
        | error exception => trivial
        | ok _ =>
          refine SameSelection.of_forget ?_
            (Selection.lineMoves_goesDown same.forget_eq same.keys) ?_ ?_
          · rw [moved, movedLate, Selection.forget_obey one.ui.rowCount,
              Selection.forget_obey other.ui.rowCount, same.forget_eq]
          · exact (congrArg (·.selectedRow) moved).trans (Selection.obey_row _ line same.row)
          · exact (congrArg (·.selectedRow) movedLate).trans
              (Selection.obey_row _ line same.otherRow)

theorem loadTelemetrySettings_row (row : ui.selectedRow = 0) :
    (loadTelemetrySettings ui).selectedRow = 0 := by
  have kept : ∀ (ui : UiState) line, ui.selectedRow = 0 →
      (loadTelemetryLine ui line).selectedRow = 0 := by
    intro ui line row
    unfold loadTelemetryLine
    dsimp only
    split
    · split <;> exact row
    · exact row
  exact invariant_after_any_run _ kept row

theorem loadMapSettings_row (row : ui.selectedRow = 0) :
    (loadMapSettings ui).selectedRow = 0 := by
  have kept : ∀ (ui : UiState) line, ui.selectedRow = 0 →
      (loadMapLine ui line).selectedRow = 0 := by
    intro ui line row
    unfold loadMapLine
    dsimp only
    split
    · split <;> exact row
    · split <;> exact row
  exact invariant_after_any_run _ kept row

theorem started_selectedRow (before : UiState) : (started before).selectedRow = 0 := by
  have built {ui : UiState} (row : ui.selectedRow = 0) : (buildOverlay ui).selectedRow = 0 := by
    unfold buildOverlay
    split
    · simp only [row, Int.max_self]
    · exact row
  have loaded : (load before).selectedRow = 0 := by
    apply loadMapSettings_row
    apply loadTelemetrySettings_row
    rfl
  apply built
  split
  · exact (congrArg (·.selectedRow)
      (selection_suppress { load before with overlayMode := .minimap })).trans loaded
  · exact loaded

theorem begun_alike (before : UiState) : Alike (begun before) (begun before) := by
  unfold begun
  rcases start_eq before with begins | ⟨exception, fails⟩
  · rw [begins]
    exact { environment := rfl, overlayMode := rfl, activePanel := rfl, focusPanel := rfl, keys := rfl
            row := started_selectedRow before, otherRow := started_selectedRow before }
  · rw [fails]
    trivial

/-- The run of the keys alone. -/
def keyRun (platform : Platform) (readers : Readers) (before : UiState)
    (keys : List (List UInt8)) : Except CppException Run :=
  keys.foldl (fun process line => process.bind (Run.receive platform readers 0 line))
    (begun before)

theorem run_alike_keyRun (platform : Platform) (readers : Readers) (before : UiState)
    (undisturbed : Meets (step platform readers) Undisturbed (begun before) events) :
    Alike (run platform readers before events)
      (keyRun platform readers before (events.filterMap Event.key)) := by
  refine related_to_seen events ?_ ?_ (begun_alike before) undisturbed
  · intro one other event alike quiet hidden
    exact alike_hidden platform readers alike quiet hidden
  · intro one other event line alike _ seen
    cases event with
    | line now text =>
      simp only [Event.key, Option.ite_none_left_eq_some, Option.some.injEq] at seen
      rw [← seen.2]
      exact alike_received platform readers now 0 text alike
    | finishPoll now => cases seen

/-- Two runs that get the same keys make the same selection, as long as no panel is built anew
under it. -/
theorem selection_ignores_telemetry (platform : Platform) (readers : Readers) (before : UiState)
    (keys : events.filterMap Event.key = others.filterMap Event.key)
    (undisturbed : Meets (step platform readers) Undisturbed (begun before) events)
    (otherUndisturbed : Meets (step platform readers) Undisturbed (begun before) others) :
    Alike (run platform readers before events) (run platform readers before others) := by
  have one := run_alike_keyRun platform readers before undisturbed
  have other := run_alike_keyRun platform readers before otherUndisturbed
  rw [keys] at one
  exact one.trans other.symm

def platform64 : Platform where
  longBits := 64
  nanFraction := fun _ => 0

/-- The panel is built anew before it is in focus. -/
def toldBeforeFocus : List Event :=
  [.line 0 (ascii "ui show"), .line 10 (ascii "mav alive 1"), .finishPoll 120,
    .line 130 (ascii "ui key right")]

def untold : List Event := [.line 0 (ascii "ui show"), .line 5 (ascii "ui key right")]

theorem told_before_focus_alike :
    Alike (run platform64 noReaders {} toldBeforeFocus) (run platform64 noReaders {} untold) :=
  selection_ignores_telemetry platform64 noReaders {} rfl
    ⟨trivial, trivial, fun _ => ⟨rfl, rfl⟩, trivial, trivial⟩ ⟨trivial, trivial, trivial⟩

/-- The button that looks for an air unit is selected. -/
def selectFindAirUnit : List Event :=
  untold ++ List.replicate 4 (.line 10 (ascii "ui key down"))

def pressedUntold : List Event := selectFindAirUnit ++ [.line 140 (ascii "ui key enter")]

/-- The panel is built anew while it is in focus. -/
def pressedTold : List Event :=
  selectFindAirUnit ++
    [.line 20 (ascii "mav alive 1"), .finishPoll 130, .line 140 (ascii "ui key enter")]

/-- A heartbeat takes the focus from the panel, and the key that was to press the button moves
the focus back instead. -/
theorem told_in_focus_differs :
    pressedTold.filterMap Event.key = pressedUntold.filterMap Event.key ∧
      ∃ told other, run platform64 noReaders {} pressedTold = .ok told ∧
        run platform64 noReaders {} pressedUntold = .ok other ∧ ¬ SameSelection told other ∧
        told.ui.sent = [] ∧
        other.ui.sent = [ascii "mav command scan bands=openhd width=0"] := by
  refine ⟨rfl, _, _, rfl, rfl, ?_, rfl, rfl⟩
  intro same
  have keys : [] = [true, true, true, true] := same.keys
  cases keys

end Glide.MenuSelection
