import Mathlib.Data.List.Chain
import Mathlib.Tactic.Linarith
import Mathlib.Tactic.Ring

/-! The lines of the minimap. A line is drawn point by point until its end point is met, and the
error term decides after every point which of the two coordinates moves. -/
namespace Glide.LineRasteriser

abbrev Point := Int × Int

/-- A value of the type `int`; beyond its range the program has no meaning. -/
def int (value : Int) : Option Int :=
  if -2 ^ 31 ≤ value ∧ value < 2 ^ 31 then some value else none

structure Canvas where
  width : Int
  height : Int
  pixels : List UInt32

def putPixel (canvas : Canvas) (x y : Int) (color : UInt32) : Canvas :=
  if x < 0 || y < 0 || canvas.width ≤ x || canvas.height ≤ y then canvas
  else { canvas with pixels := canvas.pixels.set (y.toNat * canvas.width.toNat + x.toNat) color }

/-- What stays the same while a line is drawn. -/
structure Line where
  dx : Int
  dy : Int
  sx : Int
  sy : Int
  x1 : Int
  y1 : Int

/-- `x0`, `y0` and `error`. -/
structure Pen where
  x : Int
  y : Int
  error : Int

def drawPoint (canvas : Canvas) (pen : Pen) (color : UInt32) : Option Canvas := do
  let canvas := putPixel canvas pen.x pen.y color
  let right ← int (pen.x + 1)
  let canvas := putPixel canvas right pen.y color
  let below ← int (pen.y + 1)
  return putPixel canvas pen.x below color

def stepX (line : Line) (twice : Int) (pen : Pen) : Option Pen :=
  if line.dy ≤ twice then do
    let error ← int (pen.error + line.dy)
    let x ← int (pen.x + line.sx)
    return { pen with x, error }
  else some pen

def stepY (line : Line) (twice : Int) (pen : Pen) : Option Pen :=
  if twice ≤ line.dx then do
    let error ← int (pen.error + line.dx)
    let y ← int (pen.y + line.sy)
    return { pen with y, error }
  else some pen

def movePen (line : Line) (pen : Pen) : Option Pen := do
  let twice ← int (2 * pen.error)
  let pen ← stepX line twice pen
  stepY line twice pen

inductive Outcome where
  | overflow
  | unfinished
  | drawn (canvas : Canvas) (visited : List Point)

/-- A point that is visited in front of the others. -/
def Outcome.behind (point : Point) : Outcome → Outcome
  | .drawn canvas visited => .drawn canvas (point :: visited)
  | outcome => outcome

/-- The loop, for so many points at most. -/
def drawFrom : (fuel : Nat) → Line → UInt32 → Canvas → Pen → Outcome
  | 0, _, _, _, _ => .unfinished
  | fuel + 1, line, color, canvas, pen =>
    match drawPoint canvas pen color with
    | none => .overflow
    | some canvas =>
      if pen.x == line.x1 && pen.y == line.y1 then .drawn canvas [(pen.x, pen.y)]
      else
        match movePen line pen with
        | none => .overflow
        | some next => (drawFrom fuel line color canvas next).behind (pen.x, pen.y)

/-- The line's numbers and the first error. -/
def startLine (x0 y0 x1 y1 : Int) : Option (Line × Pen) := do
  let dx ← int |← int (x1 - x0)|
  let sx := if x0 < x1 then 1 else -1
  let dy ← int (-(← int |← int (y1 - y0)|))
  let sy := if y0 < y1 then 1 else -1
  let error ← int (dx + dy)
  return (⟨dx, dy, sx, sy, x1, y1⟩, ⟨x0, y0, error⟩)

def drawLine (fuel : Nat) (canvas : Canvas) (x0 y0 x1 y1 : Int) (color : UInt32) : Outcome :=
  match startLine x0 y0 x1 y1 with
  | none => .overflow
  | some (line, pen) => drawFrom fuel line color canvas pen

/-! ### What is asked of a line -/

/-- End points of the type `int` whose differences fit in a quarter of its range. -/
structure Ends where
  x0 : Int
  y0 : Int
  x1 : Int
  y1 : Int
  held : ∀ value ∈ [x0, y0, x1, y1], -2 ^ 31 ≤ value ∧ value < 2 ^ 31
  near : |x1 - x0| ≤ 2 ^ 29 ∧ |y1 - y0| ≤ 2 ^ 29

/-- How many points there are behind the first one. -/
def Ends.distance (ends : Ends) : Nat := max (ends.x1 - ends.x0).natAbs (ends.y1 - ends.y0).natAbs

def Neighbours (first second : Point) : Prop :=
  first ≠ second ∧ |second.1 - first.1| ≤ 1 ∧ |second.2 - first.2| ≤ 1

structure Rasterised (ends : Ends) (visited : List Point) : Prop where
  count : visited.length = ends.distance + 1
  first : visited.head? = some (ends.x0, ends.y0)
  last : visited.getLast? = some (ends.x1, ends.y1)
  connected : visited.IsChain Neighbours

/-! ### The error term

Of the two coordinates one has the longer way. With `longer` and `shorter` the two ways and
`ahead` and `aside` what is left of them, the error is bounded on both sides by the ways, so that
the coordinate with the longer way moves every time, and both arrive together. -/

structure Balanced (longer shorter ahead aside error : Int) : Prop where
  positive : 0 < longer
  shorter_nonneg : 0 ≤ shorter
  order : shorter ≤ longer
  ahead_nonneg : 0 ≤ ahead
  ahead_le : ahead ≤ longer
  balance : error = (1 - aside) * longer - (1 - ahead) * shorter
  above : longer - 2 * shorter < 2 * error
  below : 2 * error ≤ 3 * longer - 2 * shorter

variable {longer shorter ahead aside error : Int}

theorem Balanced.start (positive : 0 < longer) (nonneg : 0 ≤ shorter) (order : shorter ≤ longer) :
    Balanced longer shorter longer shorter (longer - shorter) where
  positive := positive
  shorter_nonneg := nonneg
  order := order
  ahead_nonneg := by omega
  ahead_le := Int.le_refl _
  balance := by ring
  above := by omega
  below := by omega

theorem Balanced.aside_nonneg (balanced : Balanced longer shorter ahead aside error) : 0 ≤ aside := by
  obtain ⟨positive, nonneg, order, aheadNonneg, aheadLe, balance, above, below⟩ := balanced
  by_contra negative
  have far : longer ≤ -aside * longer := by nlinarith
  have left : 0 ≤ ahead * shorter := Int.mul_nonneg aheadNonneg nonneg
  nlinarith

theorem Balanced.aside_le (balanced : Balanced longer shorter ahead aside error) : aside ≤ shorter := by
  obtain ⟨positive, nonneg, order, aheadNonneg, aheadLe, balance, above, below⟩ := balanced
  by_contra more
  have far : (shorter + 1) * longer ≤ aside * longer := by nlinarith
  have left : ahead * shorter ≤ longer * shorter := Int.mul_le_mul_of_nonneg_right aheadLe nonneg
  nlinarith

theorem Balanced.arrived (balanced : Balanced longer shorter 0 aside error) : aside = 0 := by
  have nonneg := balanced.aside_nonneg
  obtain ⟨positive, _, order, _, _, balance, above, below⟩ := balanced
  by_contra left
  have far : longer ≤ aside * longer := by nlinarith [show 1 ≤ aside by omega]
  nlinarith

/-- The longer way always goes on. -/
theorem Balanced.moves (balanced : Balanced longer shorter ahead aside error) :
    -shorter ≤ 2 * error := by
  have above := balanced.above
  have order := balanced.order
  omega

theorem Balanced.straight (balanced : Balanced longer shorter ahead aside error) (left : 0 < ahead)
    (stays : longer < 2 * error) : Balanced longer shorter (ahead - 1) aside (error - shorter) := by
  obtain ⟨positive, nonneg, order, aheadNonneg, aheadLe, balance, above, below⟩ := balanced
  constructor
  · exact positive
  · exact nonneg
  · exact order
  · omega
  · omega
  · rw [balance]
    ring
  · omega
  · omega

theorem Balanced.diagonal (balanced : Balanced longer shorter ahead aside error) (left : 0 < ahead)
    (moves : 2 * error ≤ longer) :
    Balanced longer shorter (ahead - 1) (aside - 1) (error - shorter + longer) := by
  obtain ⟨positive, nonneg, order, aheadNonneg, aheadLe, balance, above, below⟩ := balanced
  constructor
  · exact positive
  · exact nonneg
  · exact order
  · omega
  · omega
  · rw [balance]
    ring
  · omega
  · omega

/-! ### The pen on its way -/

/-- A pen with so many points to go. -/
inductive OnLine (line : Line) (pen : Pen) (remaining : Nat) : Prop where
  | wide (aside : Int) (x : pen.x = line.x1 - line.sx * remaining)
      (y : pen.y = line.y1 - line.sy * aside)
      (balanced : Balanced line.dx (-line.dy) remaining aside pen.error)
  | tall (aside : Int) (x : pen.x = line.x1 - line.sx * aside)
      (y : pen.y = line.y1 - line.sy * remaining)
      (balanced : Balanced (-line.dy) line.dx remaining aside (-pen.error))

/-- A coordinate whose successor is of the type as well. -/
def Inside (coordinate : Int) : Prop := -2 ^ 31 ≤ coordinate ∧ coordinate < 2 ^ 31 - 1

/-- A line whose end points are inside. -/
structure Drawable (line : Line) : Prop where
  stepX : line.sx = 1 ∨ line.sx = -1
  stepY : line.sy = 1 ∨ line.sy = -1
  wayX : 0 ≤ line.dx ∧ line.dx ≤ 2 ^ 29
  wayY : line.dy ≤ 0 ∧ -2 ^ 29 ≤ line.dy
  endX : Inside line.x1
  endY : Inside line.y1
  startX : Inside (line.x1 - line.sx * line.dx)
  startY : Inside (line.y1 - line.sy * -line.dy)

variable {line : Line} {pen : Pen}

/-- A coordinate between two that are inside is inside. -/
theorem inside_between (direction : step = 1 ∨ step = -1) (stop : Inside last)
    (start : Inside (last - step * way)) (nonneg : 0 ≤ left) (most : left ≤ way) :
    Inside (last - step * left) := by
  unfold Inside at *
  rcases direction with rfl | rfl
  · omega
  · omega

theorem OnLine.inside (onLine : OnLine line pen remaining) (drawable : Drawable line) :
    Inside pen.x ∧ Inside pen.y := by
  cases onLine with
  | wide aside x y balanced =>
    rw [x, y]
    exact ⟨inside_between drawable.stepX drawable.endX drawable.startX balanced.ahead_nonneg
        balanced.ahead_le,
      inside_between drawable.stepY drawable.endY drawable.startY balanced.aside_nonneg
        balanced.aside_le⟩
  | tall aside x y balanced =>
    rw [x, y]
    exact ⟨inside_between drawable.stepX drawable.endX drawable.startX balanced.aside_nonneg
        balanced.aside_le,
      inside_between drawable.stepY drawable.endY drawable.startY balanced.ahead_nonneg
        balanced.ahead_le⟩

theorem OnLine.error_bounded (onLine : OnLine line pen remaining) (drawable : Drawable line) :
    -2 ^ 30 ≤ pen.error ∧ pen.error < 2 ^ 30 := by
  have wayX := drawable.wayX
  have wayY := drawable.wayY
  cases onLine with
  | wide aside x y balanced =>
    have above := balanced.above
    have below := balanced.below
    have order := balanced.order
    omega
  | tall aside x y balanced =>
    have above := balanced.above
    have below := balanced.below
    have order := balanced.order
    omega

/-- Where the pen goes. -/
def moved (line : Line) (pen : Pen) : Pen where
  x := if line.dy ≤ 2 * pen.error then pen.x + line.sx else pen.x
  y := if 2 * pen.error ≤ line.dx then pen.y + line.sy else pen.y
  error := pen.error + (if line.dy ≤ 2 * pen.error then line.dy else 0) +
    (if 2 * pen.error ≤ line.dx then line.dx else 0)

theorem OnLine.next (onLine : OnLine line pen (remaining + 1)) :
    OnLine line (moved line pen) remaining := by
  cases onLine with
  | wide aside x y balanced =>
    have goes : line.dy ≤ 2 * pen.error := by
      have moves := balanced.moves
      omega
    have ahead : (0 : Int) < (remaining + 1 : Nat) := by omega
    by_cases turns : 2 * pen.error ≤ line.dx
    · refine .wide (aside - 1) ?_ ?_ ?_
      · simp only [moved, goes, ↓reduceIte, x, Nat.cast_add, Nat.cast_one]
        ring
      · simp only [moved, turns, ↓reduceIte, y]
        ring
      · have next := balanced.diagonal ahead turns
        simpa [moved, goes, turns] using next
    · refine .wide aside ?_ ?_ ?_
      · simp only [moved, goes, ↓reduceIte, x, Nat.cast_add, Nat.cast_one]
        ring
      · simp only [moved, turns, ↓reduceIte, y]
      · have next := balanced.straight ahead (by omega)
        simpa [moved, goes, turns] using next
  | tall aside x y balanced =>
    have goes : 2 * pen.error ≤ line.dx := by
      have moves := balanced.moves
      omega
    have ahead : (0 : Int) < (remaining + 1 : Nat) := by omega
    by_cases turns : line.dy ≤ 2 * pen.error
    · refine .tall (aside - 1) ?_ ?_ ?_
      · simp only [moved, turns, ↓reduceIte, x]
        ring
      · simp only [moved, goes, ↓reduceIte, y, Nat.cast_add, Nat.cast_one]
        ring
      · have next := balanced.diagonal ahead (by omega)
        have error : -(pen.error + line.dy + line.dx) = -pen.error - line.dx + -line.dy := by ring
        simpa [moved, goes, turns, error] using next
    · refine .tall aside ?_ ?_ ?_
      · simp only [moved, turns, ↓reduceIte, x]
      · simp only [moved, goes, ↓reduceIte, y, Nat.cast_add, Nat.cast_one]
        ring
      · have next := balanced.straight ahead (by omega)
        have error : -(pen.error + line.dx) = -pen.error - line.dx := by ring
        simpa [moved, goes, turns, error] using next

/-- One of the coordinates moves, and each by one at most. -/
theorem Drawable.neighbours (drawable : Drawable line) (pen : Pen) :
    Neighbours (pen.x, pen.y) ((moved line pen).x, (moved line pen).y) := by
  obtain ⟨stepX, stepY, wayX, wayY, _, _, _, _⟩ := drawable
  simp only [Neighbours, moved, abs_le, ne_eq, Prod.mk.injEq]
  split
  · split
    · omega
    · omega
  · split
    · omega
    · omega

/-! ### The program's numbers -/

theorem int_eq (low : -2 ^ 31 ≤ value) (high : value < 2 ^ 31) : int value = some value :=
  if_pos ⟨low, high⟩

theorem int_some (held : int value = some result) :
    result = value ∧ -2 ^ 31 ≤ value ∧ value < 2 ^ 31 := by
  unfold int at held
  split at held
  · rename_i range
    exact ⟨(Option.some.inj held).symm, range⟩
  · cases held

theorem Inside.int_eq (inside : Inside value) : int value = some value :=
  LineRasteriser.int_eq inside.1 (by have := inside.2; omega)

theorem Inside.int_succ (inside : Inside value) : int (value + 1) = some (value + 1) := by
  obtain ⟨low, high⟩ := inside
  exact LineRasteriser.int_eq (by omega) (by omega)

theorem drawPoint_some (insideX : Inside pen.x) (insideY : Inside pen.y) (canvas : Canvas)
    (color : UInt32) : ∃ after, drawPoint canvas pen color = some after := by
  simp [drawPoint, insideX.int_succ, insideY.int_succ]

theorem drawPoint_inside (drawn : drawPoint canvas pen color = some after) :
    pen.x + 1 < 2 ^ 31 ∧ pen.y + 1 < 2 ^ 31 := by
  simp only [drawPoint, Option.bind_eq_bind, Option.bind_eq_some_iff] at drawn
  obtain ⟨right, heldX, below, heldY, _⟩ := drawn
  exact ⟨(int_some heldX).2.2, (int_some heldY).2.2⟩

/-- No number leaves the type on the way to the next point. -/
theorem OnLine.movePen_eq (onLine : OnLine line pen (remaining + 1)) (drawable : Drawable line) :
    movePen line pen = some (moved line pen) := by
  obtain ⟨low, high⟩ := onLine.error_bounded drawable
  obtain ⟨insideX, insideY⟩ := onLine.next.inside drawable
  obtain ⟨_, _, wayX, wayY, _, _, _, _⟩ := drawable
  have twice : int (2 * pen.error) = some (2 * pen.error) := int_eq (by omega) (by omega)
  have errorX : int (pen.error + line.dy) = some (pen.error + line.dy) := int_eq (by omega) (by omega)
  have nextX : stepX line (2 * pen.error) pen = some
      { pen with
        x := (moved line pen).x
        error := pen.error + if line.dy ≤ 2 * pen.error then line.dy else 0 } := by
    simp only [moved] at insideX ⊢
    unfold stepX
    split
    · rename_i goes
      rw [if_pos goes] at insideX
      simp [errorX, insideX.int_eq]
    · simp
  simp only [movePen, twice, nextX, Option.bind_eq_bind, Option.bind_some]
  simp only [moved] at insideY ⊢
  unfold stepY
  split
  · rename_i goes
    rw [if_pos goes] at insideY
    have error : int (pen.error + (if line.dy ≤ 2 * pen.error then line.dy else 0) + line.dx) =
        some (pen.error + (if line.dy ≤ 2 * pen.error then line.dy else 0) + line.dx) := by
      apply int_eq
      · split <;> omega
      · split <;> omega
    simp [error, insideY.int_eq]
  · simp

/-! ### The whole line -/

theorem OnLine.arrived (onLine : OnLine line pen 0) : pen.x = line.x1 ∧ pen.y = line.y1 := by
  cases onLine with
  | wide aside x y balanced =>
    have none : aside = 0 := Balanced.arrived balanced
    simp [x, y, none]
  | tall aside x y balanced =>
    have none : aside = 0 := Balanced.arrived balanced
    simp [x, y, none]

theorem OnLine.not_arrived (onLine : OnLine line pen (remaining + 1)) (drawable : Drawable line) :
    ¬(pen.x == line.x1 && pen.y == line.y1) = true := by
  have stepX := drawable.stepX
  have stepY := drawable.stepY
  simp only [Bool.and_eq_true, beq_iff_eq, not_and]
  intro sameX sameY
  cases onLine with
  | wide aside x y balanced =>
    rw [sameX] at x
    rcases stepX with step | step
    · rw [step] at x
      omega
    · rw [step] at x
      omega
  | tall aside x y balanced =>
    rw [sameY] at y
    rcases stepY with step | step
    · rw [step] at y
      omega
    · rw [step] at y
      omega

/-- What a pen draws that has so many points to go. -/
structure DrawnFrom (line : Line) (pen : Pen) (remaining : Nat) (visited : List Point) : Prop where
  count : visited.length = remaining + 1
  first : visited.head? = some (pen.x, pen.y)
  last : visited.getLast? = some (line.x1, line.y1)
  connected : visited.IsChain Neighbours

theorem drawFrom_arrived (arrived : pen.x = line.x1 ∧ pen.y = line.y1) (insideX : Inside pen.x)
    (insideY : Inside pen.y) (color : UInt32) (canvas : Canvas) :
    ∃ after visited, (∀ fuel, 0 < fuel → drawFrom fuel line color canvas pen = .drawn after visited) ∧
      DrawnFrom line pen 0 visited := by
  obtain ⟨after, drawn⟩ := drawPoint_some insideX insideY canvas color
  refine ⟨after, [(pen.x, pen.y)], ?_, ?_⟩
  · intro fuel enough
    obtain ⟨fuel, rfl⟩ : ∃ more, fuel = more + 1 := ⟨fuel - 1, by omega⟩
    simp [drawFrom, drawn, arrived]
  · exact ⟨rfl, rfl, by simp [arrived], List.IsChain.singleton _⟩

/-- Every pen on a line draws the rest of it: by induction on the points to go. -/
theorem OnLine.drawFrom (onLine : OnLine line pen remaining) (drawable : Drawable line)
    (color : UInt32) (canvas : Canvas) :
    ∃ after visited,
      (∀ fuel, remaining < fuel → drawFrom fuel line color canvas pen = .drawn after visited) ∧
      DrawnFrom line pen remaining visited := by
  induction remaining generalizing pen canvas with
  | zero =>
    obtain ⟨insideX, insideY⟩ := onLine.inside drawable
    exact drawFrom_arrived onLine.arrived insideX insideY color canvas
  | succ remaining ih =>
    obtain ⟨insideX, insideY⟩ := onLine.inside drawable
    obtain ⟨next, drawn⟩ := drawPoint_some insideX insideY canvas color
    obtain ⟨after, visited, runs, count, first, last, connected⟩ := ih onLine.next next
    obtain ⟨second, others, rfl⟩ := List.exists_cons_of_length_eq_add_one count
    refine ⟨after, (pen.x, pen.y) :: second :: others, ?_, ?_⟩
    · intro fuel enough
      obtain ⟨fuel, rfl⟩ : ∃ more, fuel = more + 1 := ⟨fuel - 1, by omega⟩
      simp only [LineRasteriser.drawFrom, drawn, onLine.not_arrived drawable,
        onLine.movePen_eq drawable, runs fuel (Nat.lt_of_succ_lt_succ enough)]
      rfl
    · have neighbour : Neighbours (pen.x, pen.y) second := by
        rw [Option.some.inj first]
        exact drawable.neighbours pen
      constructor
      · rw [List.length_cons, count]
      · rfl
      · rw [List.getLast?_cons_cons]
        exact last
      · exact List.IsChain.cons_cons neighbour connected

/-- Beside a point there is room for the two others that are drawn with it. -/
theorem drawFrom_room (drawn : drawFrom fuel line color canvas pen = .drawn after visited) :
    ∀ point ∈ visited, point.1 + 1 < 2 ^ 31 ∧ point.2 + 1 < 2 ^ 31 := by
  induction fuel generalizing canvas pen visited with
  | zero => cases drawn
  | succ fuel ih =>
    rw [LineRasteriser.drawFrom] at drawn
    split at drawn
    · cases drawn
    · rename_i next drawnPoint
      have room := drawPoint_inside drawnPoint
      split at drawn
      · cases drawn
        intro point member
        rw [List.mem_singleton.mp member]
        exact room
      · split at drawn
        · cases drawn
        · rename_i movedPen _
          cases rest : LineRasteriser.drawFrom fuel line color next movedPen with
          | overflow | unfinished =>
            rw [rest] at drawn
            cases drawn
          | drawn canvas points =>
            rw [rest] at drawn
            cases drawn
            intro point member
            rcases List.mem_cons.mp member with rfl | later
            · exact room
            · exact ih rest point later

/-! ### Any end points -/

def Ends.fixed (ends : Ends) : Line where
  dx := |ends.x1 - ends.x0|
  dy := -|ends.y1 - ends.y0|
  sx := if ends.x0 < ends.x1 then 1 else -1
  sy := if ends.y0 < ends.y1 then 1 else -1
  x1 := ends.x1
  y1 := ends.y1

def Ends.begun (ends : Ends) : Pen := ⟨ends.x0, ends.y0, |ends.x1 - ends.x0| + -|ends.y1 - ends.y0|⟩

theorem int_way (near : |difference| ≤ 2 ^ 29) :
    int difference = some difference ∧ int |difference| = some |difference| ∧
      int (-|difference|) = some (-|difference|) := by
  have nonneg := abs_nonneg difference
  have range := abs_le.mp near
  exact ⟨int_eq (by omega) (by omega), int_eq (by omega) (by omega), int_eq (by omega) (by omega)⟩

theorem startLine_eq (ends : Ends) :
    startLine ends.x0 ends.y0 ends.x1 ends.y1 = some (ends.fixed, ends.begun) := by
  obtain ⟨nearX, nearY⟩ := ends.near
  obtain ⟨differenceX, wayX, _⟩ := int_way nearX
  obtain ⟨differenceY, wayY, negated⟩ := int_way nearY
  have nonnegX := abs_nonneg (ends.x1 - ends.x0)
  have nonnegY := abs_nonneg (ends.y1 - ends.y0)
  have error : int (|ends.x1 - ends.x0| + -|ends.y1 - ends.y0|) =
      some (|ends.x1 - ends.x0| + -|ends.y1 - ends.y0|) := int_eq (by omega) (by omega)
  simp [startLine, differenceX, wayX, differenceY, wayY, negated, error, Ends.fixed, Ends.begun]

/-- Neither of two coordinates is the greatest of the type. -/
def Below (first second : Int) : Prop := first < 2 ^ 31 - 1 ∧ second < 2 ^ 31 - 1

theorem way_back (first second : Int) :
    second - (if first < second then 1 else -1) * |second - first| = first := by
  split
  · rw [abs_of_pos (by omega)]
    omega
  · rw [abs_of_nonpos (by omega)]
    omega

theorem Ends.drawable (ends : Ends) (belowX : Below ends.x0 ends.x1) (belowY : Below ends.y0 ends.y1) :
    Drawable ends.fixed := by
  have held := ends.held
  simp only [List.mem_cons, List.not_mem_nil, or_false, forall_eq_or_imp, forall_eq] at held
  obtain ⟨heldX0, heldY0, heldX1, heldY1⟩ := held
  obtain ⟨nearX, nearY⟩ := ends.near
  constructor
  · simp only [Ends.fixed]
    split <;> simp
  · simp only [Ends.fixed]
    split <;> simp
  · exact ⟨abs_nonneg _, nearX⟩
  · have nonneg := abs_nonneg (ends.y1 - ends.y0)
    simp only [Ends.fixed]
    omega
  · exact ⟨heldX1.1, belowX.2⟩
  · exact ⟨heldY1.1, belowY.2⟩
  · simp only [Ends.fixed, way_back]
    exact ⟨heldX0.1, belowX.1⟩
  · simp only [Ends.fixed, neg_neg, way_back]
    exact ⟨heldY0.1, belowY.1⟩

theorem Ends.onLine (ends : Ends) (apart : 0 < ends.distance) :
    OnLine ends.fixed ends.begun ends.distance := by
  have backX := way_back ends.x0 ends.x1
  have backY := way_back ends.y0 ends.y1
  have wayX : |ends.x1 - ends.x0| = ((ends.x1 - ends.x0).natAbs : Int) := Int.abs_eq_natAbs _
  have wayY : |ends.y1 - ends.y0| = ((ends.y1 - ends.y0).natAbs : Int) := Int.abs_eq_natAbs _
  unfold Ends.distance at apart ⊢
  rcases Nat.le_total (ends.y1 - ends.y0).natAbs (ends.x1 - ends.x0).natAbs with wide | tall
  · rw [max_eq_left wide] at apart ⊢
    refine .wide |ends.y1 - ends.y0| ?_ ?_ ?_
    · simp only [Ends.fixed, Ends.begun, ← wayX, backX]
    · simp only [Ends.fixed, Ends.begun, backY]
    · have start := Balanced.start (by omega : 0 < |ends.x1 - ends.x0|) (abs_nonneg (ends.y1 - ends.y0))
        (by omega)
      simpa [Ends.fixed, Ends.begun, ← wayX, sub_eq_add_neg] using start
  · rw [max_eq_right tall] at apart ⊢
    refine .tall |ends.x1 - ends.x0| ?_ ?_ ?_
    · simp only [Ends.fixed, Ends.begun, backX]
    · simp only [Ends.fixed, Ends.begun, ← wayY, backY]
    · have start := Balanced.start (by omega : 0 < |ends.y1 - ends.y0|) (abs_nonneg (ends.x1 - ends.x0))
        (by omega)
      simpa [Ends.fixed, Ends.begun, ← wayY, sub_eq_add_neg] using start

theorem Ends.drawn (ends : Ends) (belowX : Below ends.x0 ends.x1) (belowY : Below ends.y0 ends.y1)
    (canvas : Canvas) (color : UInt32) :
    ∃ after visited, (∀ fuel, ends.distance < fuel →
        drawFrom fuel ends.fixed color canvas ends.begun = .drawn after visited) ∧
      DrawnFrom ends.fixed ends.begun ends.distance visited := by
  have drawable := ends.drawable belowX belowY
  rcases Nat.eq_zero_or_pos ends.distance with none | some
  · have same : ends.x0 = ends.x1 ∧ ends.y0 = ends.y1 := by
      unfold Ends.distance at none
      omega
    have insideX : Inside ends.begun.x := by
      have inside := drawable.endX
      rwa [show ends.begun.x = ends.fixed.x1 from same.1]
    have insideY : Inside ends.begun.y := by
      have inside := drawable.endY
      rwa [show ends.begun.y = ends.fixed.y1 from same.2]
    rw [none]
    exact drawFrom_arrived same insideX insideY color canvas
  · exact (ends.onLine some).drawFrom drawable color canvas

/-- A line is drawn as it should be exactly if no end point has the greatest coordinate of the type:
beside every point the one to its right and the one below it are drawn, and their coordinates are
computed first. -/
theorem drawLine_rasterised_iff (ends : Ends) (canvas : Canvas) (color : UInt32) :
    (∃ after visited, (∀ fuel, ends.distance < fuel →
        drawLine fuel canvas ends.x0 ends.y0 ends.x1 ends.y1 color = .drawn after visited) ∧
      Rasterised ends visited) ↔ Below ends.x0 ends.x1 ∧ Below ends.y0 ends.y1 := by
  constructor
  · rintro ⟨after, visited, runs, rasterised⟩
    have drawn := runs (ends.distance + 1) (Nat.lt_succ_self _)
    simp only [drawLine, startLine_eq] at drawn
    have room := drawFrom_room drawn
    obtain ⟨startX, startY⟩ := room _ (List.mem_of_mem_head? rasterised.first)
    obtain ⟨stopX, stopY⟩ := room _ (List.mem_of_mem_getLast? rasterised.last)
    unfold Below
    omega
  · rintro ⟨belowX, belowY⟩
    obtain ⟨after, visited, runs, count, first, last, connected⟩ := ends.drawn belowX belowY canvas color
    refine ⟨after, visited, ?_, count, first, last, connected⟩
    intro fuel enough
    simp only [drawLine, startLine_eq]
    exact runs fuel enough

/-- A point in the last column. -/
theorem last_column_overflows : ¬∀ (ends : Ends) (canvas : Canvas) (color : UInt32),
    ∃ after visited, (∀ fuel, ends.distance < fuel →
        drawLine fuel canvas ends.x0 ends.y0 ends.x1 ends.y1 color = .drawn after visited) ∧
      Rasterised ends visited := by
  intro all
  obtain ⟨after, visited, runs, _⟩ := all
    ⟨2 ^ 31 - 1, 0, 2 ^ 31 - 1, 0, by decide, by decide⟩ ⟨0, 0, []⟩ 0
  have drawn := runs 1 (by decide)
  cases drawn

end Glide.LineRasteriser
