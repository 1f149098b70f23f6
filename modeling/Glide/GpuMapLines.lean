import Glide.Library.StreamExtraction

/-! The lines that tell the map renderer what to show. The numbers of a line are stored in the state
one after another, and only then it is known whether all of them were there. -/
namespace Glide.GpuMapLines
open Library AsciiText BinaryFloat NumberText StreamExtraction

structure GpuMapState where
  visible : Bool
  x : FloatValue
  y : FloatValue
  width : FloatValue
  height : FloatValue
  zoom : FloatValue
  panX : FloatValue
  panY : FloatValue
  latitude : FloatValue
  longitude : FloatValue
  heading : FloatValue
  homeValid : Bool
  homeLatitude : FloatValue
  homeLongitude : FloatValue
  deriving DecidableEq

/-- The variables in the order of the line; `visible` and `home_valid` are numbers in it. -/
def mapKinds : List Kind :=
  [.integer, .single, .single, .single, .single, .double, .double, .double, .double, .double,
    .single, .integer, .double, .double]

/-- The variables before a line is read, of which the two numbers are not in the state. -/
def fieldsOf (state : GpuMapState) (visible homeValid : Int) : Values mapKinds :=
  (visible, state.x, state.y, state.width, state.height, state.zoom, state.panX, state.panY,
    state.latitude, state.longitude, state.heading, homeValid, state.homeLatitude,
    state.homeLongitude, ())

/-- The state that shares its variables with the line. -/
def store (state : GpuMapState) : Values mapKinds → GpuMapState
  | (_, x, y, width, height, zoom, panX, panY, latitude, longitude, heading, _, homeLatitude,
      homeLongitude, _) =>
    { state with
      x, y, width, height, zoom, panX, panY, latitude, longitude, heading, homeLatitude
      homeLongitude }

/-- The state of a line that has all the numbers. -/
def stateOf : Values mapKinds → GpuMapState
  | (visible, x, y, width, height, zoom, panX, panY, latitude, longitude, heading, homeValid,
      homeLatitude, homeLongitude, _) =>
    { visible := visible != 0, homeValid := homeValid != 0
      x, y, width, height, zoom, panX, panY, latitude, longitude, heading, homeLatitude
      homeLongitude }

def hiddenLine : List UInt8 := ascii "ui map hidden"

def stateCommand : List UInt8 := ascii "ui map state "

def applyGpuMapIpcLine (line : List UInt8) (state : GpuMapState) : GpuMapState × Bool :=
  if line = hiddenLine then ({ state with visible := false }, true)
  else if stateCommand.isPrefixOf line then
    let values := extractAll mapKinds (fieldsOf state 0 0) ⟨line.drop 13, false⟩
    let state := store state values
    if (streamBehind mapKinds (fieldsOf state 0 0) ⟨line.drop 13, false⟩).failed then (state, false)
    else
      let (visible, _, _, _, _, _, _, _, _, _, _, homeValid, _) := values
      ({ state with visible := visible != 0, homeValid := homeValid != 0 }, true)
  else (state, false)

/-- The line changes the state as a whole or not at all. -/
structure Obeyed (line : List UInt8) (state : GpuMapState) : Prop where
  rejected : (applyGpuMapIpcLine line state).2 = false → (applyGpuMapIpcLine line state).1 = state
  accepted : (applyGpuMapIpcLine line state).2 = true → stateCommand.isPrefixOf line = true →
    ∃ values, numbersIn mapKinds (line.drop 13) = some values ∧
      (applyGpuMapIpcLine line state).1 = stateOf values
  hidden : line = hiddenLine → applyGpuMapIpcLine line state = ({ state with visible := false }, true)

/-- All the numbers of the state are in the line. -/
def Complete (line : List UInt8) : Prop := (numbersIn mapKinds (line.drop 13)).isSome

/-- As far as its numbers go, the line says what the state has. -/
def Repeated (line : List UInt8) (state : GpuMapState) : Prop :=
  ∃ visible homeValid, Repeats mapKinds (fieldsOf state visible homeValid) (line.drop 13)

/-! ### The variables -/

theorem store_fields (state : GpuMapState) (visible homeValid : Int) :
    store state (fieldsOf state visible homeValid) = state := rfl

theorem fields_store (state : GpuMapState) (values : Values mapKinds) :
    ∃ visible homeValid, fieldsOf (store state values) visible homeValid = values :=
  ⟨values.1, values.2.2.2.2.2.2.2.2.2.2.2.1, rfl⟩

/-- What is stored in the state does not depend on the two numbers beside it. -/
theorem store_extractAll (state : GpuMapState) (visible homeValid : Int) (stream : InputStream) :
    store state (extractAll mapKinds (fieldsOf state visible homeValid) stream) =
      store state (extractAll mapKinds (fieldsOf state 0 0) stream) := by
  have first := extract_stream convertInt visible 0 stream
  simp only [mapKinds, fieldsOf, extractAll, store, Kind.convert, first]
  rw [extract_stream convertInt homeValid 0]

/-- Nothing in the state changes exactly if the line repeats it. -/
theorem store_same_iff (line : List UInt8) (state : GpuMapState) :
    store state (extractAll mapKinds (fieldsOf state 0 0) ⟨line.drop 13, false⟩) = state ↔
      Repeated line state := by
  constructor
  · intro same
    obtain ⟨visible, homeValid, values⟩ :=
      fields_store state (extractAll mapKinds (fieldsOf state 0 0) ⟨line.drop 13, false⟩)
    rw [same] at values
    refine ⟨visible, homeValid, (extractAll_same_iff ..).mp ?_⟩
    rw [values, extractAll_again]
  · rintro ⟨visible, homeValid, repeats⟩
    rw [← store_extractAll state visible homeValid, (extractAll_same_iff ..).mpr repeats,
      store_fields]

/-! ### Any line -/

theorem applyGpuMapIpcLine_state (state : GpuMapState) (command : stateCommand.isPrefixOf line = true) :
    applyGpuMapIpcLine line state =
      match numbersIn mapKinds (line.drop 13) with
      | none => (store state (extractAll mapKinds (fieldsOf state 0 0) ⟨line.drop 13, false⟩), false)
      | some values => (stateOf values, true) := by
  have notHidden : line ≠ hiddenLine := by
    rintro rfl
    exact absurd command (by decide)
  unfold applyGpuMapIpcLine
  rw [if_neg notHidden, if_pos command]
  dsimp only
  rw [streamBehind_numbers]
  cases numbers : numbersIn mapKinds (line.drop 13) with
  | none => rfl
  | some values =>
    rw [extractAll_numbers _ numbers]
    rfl

theorem applyGpuMapIpcLine_other (state : GpuMapState) (other : ¬stateCommand.isPrefixOf line = true) :
    applyGpuMapIpcLine line state =
      if line = hiddenLine then ({ state with visible := false }, true) else (state, false) := by
  unfold applyGpuMapIpcLine
  rw [if_neg other]

/-- A line obeys the rule exactly if it is no state line, or has all the numbers, or stops before it
says anything new. -/
theorem obeyed_iff (line : List UInt8) (state : GpuMapState) :
    Obeyed line state ↔
      ¬stateCommand.isPrefixOf line = true ∨ Complete line ∨ Repeated line state := by
  by_cases command : stateCommand.isPrefixOf line = true
  · have applied := applyGpuMapIpcLine_state state command
    have notHidden : line ≠ hiddenLine := by
      rintro rfl
      exact absurd command (by decide)
    rw [or_iff_right (not_not.mpr command)]
    unfold Complete
    cases numbers : numbersIn mapKinds (line.drop 13) with
    | none =>
      rw [numbers] at applied
      rw [or_iff_right (by simp), ← store_same_iff]
      constructor
      · intro obeyed
        have kept := obeyed.rejected (by rw [applied])
        rwa [applied] at kept
      · intro same
        refine ⟨fun _ => ?_, fun accepted => ?_, fun hidden => absurd hidden notHidden⟩
        · rw [applied]
          exact same
        · rw [applied] at accepted
          cases accepted
    | some values =>
      rw [numbers] at applied
      refine iff_of_true ⟨fun rejected => ?_, fun _ _ => ?_, fun hidden => absurd hidden notHidden⟩
        (.inl rfl)
      · rw [applied] at rejected
        cases rejected
      · exact ⟨values, numbers, by rw [applied]⟩
  · have applied := applyGpuMapIpcLine_other state command
    refine iff_of_true ⟨fun rejected => ?_, fun _ prefixed => absurd prefixed command,
      fun hidden => ?_⟩ (.inl command)
    · rw [applied] at rejected ⊢
      split at rejected
      · cases rejected
      · rename_i notHidden
        rw [if_neg notHidden]
    · rw [applied, if_pos hidden]

/-- The state before the first line. -/
def initialState : GpuMapState where
  visible := false
  x := zero binary32
  y := zero binary32
  width := zero binary32
  height := zero binary32
  zoom := ofInt binary64 15
  panX := zero binary64
  panY := zero binary64
  latitude := zero binary64
  longitude := zero binary64
  heading := zero binary32
  homeValid := false
  homeLatitude := zero binary64
  homeLongitude := zero binary64

/-- A line that is cut behind its second number moves the map. -/
theorem cut_line_moves : ¬∀ line state, Obeyed line state := by
  intro obeyed
  have rejected := (obeyed (ascii "ui map state 1 5") initialState).rejected (by decide +kernel)
  have moved : (applyGpuMapIpcLine (ascii "ui map state 1 5") initialState).1.x ≠ initialState.x := by
    decide +kernel
  exact moved (congrArg GpuMapState.x rejected)

end Glide.GpuMapLines
