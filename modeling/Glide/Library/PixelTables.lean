import Mathlib.Data.List.Basic
import Glide.Library.CheckedBuffers

/-! Tables of cells in a buffer whose rows are some pitch apart, and loops that fill them cell by
cell. Such a loop stays inside the buffer, and leaves what is between and beside the rows as it
was. -/
namespace Glide.Library.PixelTables
open CheckedBuffers

/-- A loop that gets from each state to one that is a turn further. -/
theorem forRange_reaches {body : σ → Nat → Except ε σ} {reached : Nat → σ → Prop}
    (start : reached 0 state)
    (step : ∀ index < count, ∀ state, reached index state →
      ∃ next, body state index = .ok next ∧ reached (index + 1) next) :
    ∃ final, forRange count state body = .ok final ∧ reached count final := by
  induction count with
  | zero => exact ⟨state, rfl, start⟩
  | succ count ih =>
    obtain ⟨middle, ran, kept⟩ := ih fun index below => step index (Nat.lt_succ_of_lt below)
    obtain ⟨final, last, kept⟩ := step count (Nat.lt_succ_self count) middle kept
    refine ⟨final, ?_, kept⟩
    rw [forRange_succ, ran]
    exact last

/-! ### Filling -/

/-- So many cells were written, each at its place, and no other. -/
structure Filled (place : Nat → Nat) (value : Nat → α) (before : List α) (count : Nat)
    (after : List α) : Prop where
  length : after.length = before.length
  written : ∀ turn < count, after[place turn]? = some (value turn)
  beside : ∀ index, (∀ turn < count, place turn ≠ index) → after[index]? = before[index]?

/-- What is written in a turn. -/
def fill (fault : ε) (place : Nat → Nat) (value : Nat → Except ε α) (cells : List α)
    (turn : Nat) : Except ε (List α) := value turn >>= store fault cells (place turn)

theorem fill_filled (fault : ε) {value : Nat → Except ε α} {content : Nat → α}
    (values : ∀ turn < count, value turn = .ok (content turn))
    (inside : ∀ turn < count, place turn < cells.length)
    (apart : ∀ turn < count, ∀ earlier < turn, place earlier ≠ place turn) :
    ∃ after, forRange count cells (fill fault place value) = .ok after ∧
      Filled place content cells count after := by
  have start : Filled place content cells 0 cells := ⟨rfl, nofun, fun _ _ => rfl⟩
  refine forRange_reaches start fun turn below state filled => ?_
  have room : place turn < state.length := by
    rw [filled.length]
    exact inside turn below
  refine ⟨state.set (place turn) (content turn), ?_, ?_, ?_, ?_⟩
  · unfold fill
    rw [values turn below]
    exact if_pos room
  · rw [List.length_set]
    exact filled.length
  · intro other before
    rcases Nat.lt_succ_iff_lt_or_eq.mp before with earlier | rfl
    · rw [List.getElem?_set_ne (Ne.symm (apart turn below other earlier))]
      exact filled.written other earlier
    · exact List.getElem?_set_self room
  · intro index others
    rw [List.getElem?_set_ne (others turn (Nat.lt_succ_self turn))]
    exact filled.beside index fun other earlier => others other (Nat.lt_succ_of_lt earlier)

/-! ### Tables -/

/-- The table of so many rows and columns that begins at an offset shows the picture. -/
def Holds (cells : List α) (offset pitch columns rows : Nat) (picture : Nat → Nat → α) : Prop :=
  ∀ y < rows, ∀ x < columns, cells[offset + y * pitch + x]? = some (picture x y)

/-- The index is in none of the rows. -/
def Beside (offset pitch columns rows index : Nat) : Prop :=
  ∀ y < rows, index < offset + y * pitch ∨ offset + y * pitch + columns ≤ index

/-- A loop over the rows and in each of them over its columns. -/
def fillTable (fault : ε) (offset pitch columns rows : Nat) (value : Nat → Nat → Except ε α)
    (cells : List α) : Except ε (List α) :=
  forRange rows cells fun cells y =>
    forRange columns cells (fill fault (offset + y * pitch + ·) (value · y))

section Table
variable {fault : ε} {offset pitch columns rows : Nat} {cells : List α}

theorem row_filled {value : Nat → Except ε α} {content : Nat → α}
    (values : ∀ x < columns, value x = .ok (content x)) (room : start + columns ≤ cells.length) :
    ∃ after, forRange columns cells (fill fault (start + ·) value) = .ok after ∧
      Filled (start + ·) content cells columns after := by
  refine fill_filled fault values (fun x below => ?_) fun x _ earlier before => ?_
  · exact Nat.lt_of_lt_of_le (Nat.add_lt_add_left below start) room
  · exact fun same => Nat.ne_of_lt before (Nat.add_left_cancel same)

/-- What is known when so many rows were written. -/
def RowsFilled (offset pitch columns : Nat) (picture : Nat → Nat → α) (before : List α) (rows : Nat)
    (after : List α) : Prop :=
  after.length = before.length ∧ Holds after offset pitch columns rows picture ∧
    ∀ index, Beside offset pitch columns rows index → after[index]? = before[index]?

/-- Every cell of the table is written, inside the buffer, and no other cell is. -/
theorem fillTable_holds {value : Nat → Nat → Except ε α} {picture : Nat → Nat → α}
    (values : ∀ y < rows, ∀ x < columns, value x y = .ok (picture x y)) (narrow : columns ≤ pitch)
    (room : ∀ y < rows, offset + y * pitch + columns ≤ cells.length) :
    ∃ after, fillTable fault offset pitch columns rows value cells = .ok after ∧
      RowsFilled offset pitch columns picture cells rows after := by
  have start : RowsFilled offset pitch columns picture cells 0 cells := ⟨rfl, nofun, fun _ _ => rfl⟩
  refine forRange_reaches start fun y below state kept => ?_
  obtain ⟨length, held, beside⟩ := kept
  have fits : offset + y * pitch + columns ≤ state.length := by
    rw [length]
    exact room y below
  obtain ⟨after, ran, filled⟩ := row_filled (values y below) fits
  refine ⟨after, ran, filled.length.trans length, fun other before x inside => ?_,
    fun index outside => ?_⟩
  · rcases Nat.lt_succ_iff_lt_or_eq.mp before with earlier | rfl
    · -- the rows before are above the new one
      have above : other * pitch + pitch ≤ y * pitch := by
        rw [← Nat.succ_mul]
        exact Nat.mul_le_mul_right pitch earlier
      rw [filled.beside _ fun turn inside => by omega]
      exact held other earlier x inside
    · exact filled.written x inside
  · have apart := outside y (Nat.lt_succ_self y)
    rw [filled.beside index fun turn inside => by omega]
    exact beside index fun other earlier => outside other (Nat.lt_succ_of_lt earlier)

/-- The index of a cell tells its row and its column. -/
theorem place_eq (narrow : x < pitch) (other : x' < pitch)
    (same : y * pitch + x = y' * pitch + x') : y = y' ∧ x = x' := by
  have rows : y = y' := by
    have quotient := congrArg (· / pitch) same
    have positive : 0 < pitch := Nat.lt_of_le_of_lt (Nat.zero_le x) narrow
    simpa [Nat.mul_comm _ pitch, Nat.mul_add_div positive, Nat.div_eq_of_lt narrow,
      Nat.div_eq_of_lt other] using quotient
  subst rows
  exact ⟨rfl, Nat.add_left_cancel same⟩

end Table

end Glide.Library.PixelTables
