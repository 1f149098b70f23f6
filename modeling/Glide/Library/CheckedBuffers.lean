/-! Buffers of a fixed size whose cells are read and written one at a time. An access
outside the buffer ends the computation with a fault. -/
namespace Glide.Library.CheckedBuffers

/-- The cell at an index. -/
def load (fault : ε) (buffer : List α) (index : Nat) : Except ε α :=
  match buffer[index]? with
  | some value => .ok value
  | none => .error fault

def store (fault : ε) (buffer : List α) (index : Nat) (value : α) : Except ε (List α) :=
  if index < buffer.length then .ok (buffer.set index value) else .error fault

/-- The cells from one index to another. -/
def slice (fault : ε) (buffer : List α) (start stop : Nat) : Except ε (List α) :=
  if start ≤ stop ∧ stop ≤ buffer.length then .ok ((buffer.drop start).take (stop - start))
  else .error fault

/-- Every index of a range in turn. -/
def forRange (count : Nat) (state : σ) (body : σ → Nat → Except ε σ) : Except ε σ :=
  (List.range count).foldlM body state

theorem bind_ok_iff {first : Except ε α} {next : α → Except ε β} :
    (first >>= next) = .ok result ↔ ∃ value, first = .ok value ∧ next value = .ok result := by
  cases first with
  | error fault =>
    constructor
    · intro failed
      cases failed
    · rintro ⟨value, failed, _⟩
      cases failed
  | ok value =>
    constructor
    · exact fun done => ⟨value, rfl, done⟩
    · rintro ⟨other, same, done⟩
      cases same
      exact done

theorem bind_error_iff {first : Except ε α} {next : α → Except ε β} :
    (first >>= next) = .error fault ↔
      first = .error fault ∨ ∃ value, first = .ok value ∧ next value = .error fault := by
  cases first with
  | error other =>
    constructor
    · intro failed
      cases failed
      exact .inl rfl
    · rintro (failed | ⟨value, done, _⟩)
      · cases failed
        rfl
      · cases done
  | ok value =>
    constructor
    · exact fun failed => .inr ⟨value, rfl, failed⟩
    · rintro (failed | ⟨other, same, failed⟩)
      · cases failed
      · cases same
        exact failed

@[simp] theorem forRange_zero (state : σ) (body : σ → Nat → Except ε σ) :
    forRange 0 state body = .ok state := rfl

theorem forRange_succ (count : Nat) (state : σ) (body : σ → Nat → Except ε σ) :
    forRange (count + 1) state body = forRange count state body >>= (body · count) := by
  unfold forRange
  rw [List.range_succ, List.foldlM_append]
  simp only [List.foldlM_cons, List.foldlM_nil, bind_pure]

/-- Loops whose bodies do the same at each index they reach do the same. -/
theorem forRange_congr {body other : σ → Nat → Except ε σ}
    (same : ∀ state index, index < count → body state index = other state index) :
    forRange count state body = forRange count state other := by
  induction count with
  | zero => rfl
  | succ count ih =>
    rw [forRange_succ, forRange_succ, ih fun state index below => same state index (by omega)]
    exact congrArg _ (funext fun state => same state count (by omega))

theorem forRange_add (count more : Nat) (state : σ) (body : σ → Nat → Except ε σ) :
    forRange (count + more) state body =
      forRange count state body >>= fun state =>
        forRange more state fun state index => body state (count + index) := by
  unfold forRange
  rw [List.range_add, List.foldlM_append]
  simp only [List.foldlM_map]

/-- A loop in a loop goes through a table row by row. -/
theorem forRange_mul (rows columns : Nat) (state : σ) (body : σ → Nat → Except ε σ) :
    forRange (rows * columns) state body =
      forRange rows state fun state row =>
        forRange columns state fun state column => body state (row * columns + column) := by
  induction rows with
  | zero => rw [Nat.zero_mul, forRange_zero, forRange_zero]
  | succ rows ih => rw [forRange_succ, ← ih, Nat.succ_mul, forRange_add]

/-- A loop whose body leads from each state to the next one. -/
theorem forRange_states {body : σ → Nat → Except ε σ} (states : Nat → σ)
    (next : ∀ index < count, body (states index) index = .ok (states (index + 1))) :
    forRange count (states 0) body = .ok (states count) := by
  induction count with
  | zero => rfl
  | succ count ih =>
    rw [forRange_succ, ih fun index below => next index (Nat.lt_succ_of_lt below)]
    exact next count (Nat.lt_succ_self count)

/-- What is known of a result, and of a fault. -/
def Ends (kept : α → Prop) (expected : ε → Prop) : Except ε α → Prop
  | .ok result => kept result
  | .error fault => expected fault

theorem ends_bind {kept : β → Prop} {expected : ε → Prop} {first : Except ε α}
    {next : α → Except ε β} :
    Ends kept expected (first >>= next) ↔
      Ends (fun result => Ends kept expected (next result)) expected first := by
  cases first with
  | error fault => exact Iff.rfl
  | ok result => exact Iff.rfl

theorem Ends.imp {kept later : α → Prop} {expected : ε → Prop} {result : Except ε α}
    (ended : Ends kept expected result) (implied : ∀ value, kept value → later value) :
    Ends later expected result := by
  cases result with
  | error fault => exact ended
  | ok value => exact implied value ended

theorem Ends.bind {kept : α → Prop} {later : β → Prop} {expected : ε → Prop} {first : Except ε α}
    {next : α → Except ε β} (ended : Ends kept expected first)
    (step : ∀ result, kept result → Ends later expected (next result)) :
    Ends later expected (first >>= next) :=
  ends_bind.2 (ended.imp step)

/-- A loop whose body keeps an invariant, or ends with a fault that is expected. -/
theorem forRange_ends {body : σ → Nat → Except ε σ} {kept : σ → Prop} {expected : ε → Prop}
    (start : kept state)
    (step : ∀ index < count, ∀ state, kept state → Ends kept expected (body state index)) :
    Ends kept expected (forRange count state body) := by
  induction count with
  | zero => exact start
  | succ count ih =>
    rw [forRange_succ]
    exact (ih fun index below => step index (Nat.lt_succ_of_lt below)).bind
      (step count (Nat.lt_succ_self count))

/-- A loop that comes to its end has done so at every index. -/
theorem forRange_each {body : σ → Nat → Except ε σ} (done : forRange count state body = .ok result) :
    ∀ index < count, ∃ before after, body before index = .ok after := by
  induction count generalizing result with
  | zero => exact fun index below => absurd below (Nat.not_lt_zero index)
  | succ count ih =>
    rw [forRange_succ, bind_ok_iff] at done
    obtain ⟨before, earlier, last⟩ := done
    intro index below
    rcases Nat.lt_succ_iff_lt_or_eq.1 below with early | rfl
    · exact ih earlier index early
    · exact ⟨before, result, last⟩

/-! ### Accesses inside the buffer -/

theorem load_inside (fault : ε) {buffer : List α} (inside : index < buffer.length) (other : α) :
    load fault buffer index = .ok (buffer.getD index other) := by
  unfold load
  rw [List.getD_eq_getElem?_getD, List.getElem?_eq_getElem inside]
  rfl

theorem load_outside (fault : ε) {buffer : List α} (outside : buffer.length ≤ index) :
    load fault buffer index = .error fault := by
  unfold load
  rw [List.getElem?_eq_none outside]

theorem slice_inside (fault : ε) {buffer : List α} (ordered : start ≤ stop)
    (inside : stop ≤ buffer.length) :
    slice fault buffer start stop = .ok ((buffer.drop start).take (stop - start)) :=
  if_pos ⟨ordered, inside⟩

/-- A buffer that is filled from its start: so many of its cells are written. -/
def filledTo (length count : Nat) (value : Nat → α) (rest : α) : List α :=
  (List.range length).map fun index => if index < count then value index else rest

@[simp] theorem length_filledTo : (filledTo length count value rest).length = length := by
  simp [filledTo]

theorem filledTo_zero : filledTo length 0 value rest = List.replicate length rest := by
  simp [filledTo, List.map_const']

theorem filledTo_full : filledTo length length value rest = (List.range length).map value :=
  List.map_congr_left fun _ member => if_pos (List.mem_range.1 member)

theorem load_filledTo (fault : ε) (inside : index < count) (room : count ≤ length) :
    load fault (filledTo length count value rest) index = .ok (value index) := by
  unfold load filledTo
  rw [List.getElem?_map, List.getElem?_range (Nat.lt_of_lt_of_le inside room)]
  simp [inside]

theorem store_filledTo (fault : ε) (room : count < length) :
    store fault (filledTo length count value rest) count (value count) =
      .ok (filledTo length (count + 1) value rest) := by
  rw [store, length_filledTo, if_pos room]
  congr 1
  refine List.ext_getElem (by simp) fun index inside _ => ?_
  simp only [filledTo, List.getElem_set, List.getElem_map, List.getElem_range]
  by_cases same : count = index
  · rw [if_pos same, if_pos (by omega), same]
  · rw [if_neg same]
    by_cases earlier : index < count
    · rw [if_pos earlier, if_pos (by omega)]
    · rw [if_neg earlier, if_neg (by omega)]

theorem length_table {row : Nat → List α} (width : ∀ y, (row y).length = columns) :
    ((List.range rows).flatMap row).length = rows * columns := by
  induction rows with
  | zero => simp
  | succ rows ih => simp [List.range_succ, ih, width, Nat.succ_mul]

/-- A table of rows of one length, row after row. -/
theorem getElem?_table {row : Nat → List α} (width : ∀ y, (row y).length = columns)
    (inside : y < rows) (column : x < columns) :
    ((List.range rows).flatMap row)[y * columns + x]? = (row y)[x]? := by
  induction rows with
  | zero => exact absurd inside (Nat.not_lt_zero y)
  | succ rows ih =>
    have length : ((List.range rows).flatMap row).length = rows * columns := length_table width
    rw [List.range_succ, List.flatMap_append]
    by_cases last : y < rows
    · have before : y * columns + x < rows * columns := by
        have next : (y + 1) * columns ≤ rows * columns := Nat.mul_le_mul_right _ last
        rw [Nat.succ_mul] at next
        omega
      rw [List.getElem?_append_left (by rw [length]; exact before), ih last]
    · have same : y = rows := by omega
      rw [List.getElem?_append_right (by rw [length, same]; omega), length, same,
        Nat.add_sub_cancel_left]
      simp

theorem ends_load {kept : α → Prop} {expected : ε → Prop} {buffer : List α}
    (unexpected : ¬ expected fault) (other : α) :
    Ends kept expected (load fault buffer index) ↔
      index < buffer.length ∧ kept (buffer.getD index other) := by
  by_cases inside : index < buffer.length
  · rw [load_inside fault inside other]
    exact ⟨fun held => ⟨inside, held⟩, And.right⟩
  · rw [load_outside fault (Nat.not_lt.1 inside)]
    exact ⟨fun held => absurd held unexpected, fun held => absurd held.1 inside⟩

theorem ends_store {kept : List α → Prop} {expected : ε → Prop} {buffer : List α}
    (unexpected : ¬ expected fault) :
    Ends kept expected (store fault buffer index value) ↔
      index < buffer.length ∧ kept (buffer.set index value) := by
  unfold store
  split
  · next inside => exact ⟨fun held => ⟨inside, held⟩, And.right⟩
  · next outside => exact ⟨fun held => absurd held unexpected, fun held => absurd held.1 outside⟩

theorem ends_slice {kept : List α → Prop} {expected : ε → Prop} {buffer : List α}
    (unexpected : ¬ expected fault) :
    Ends kept expected (slice fault buffer start stop) ↔
      (start ≤ stop ∧ stop ≤ buffer.length) ∧ kept ((buffer.drop start).take (stop - start)) := by
  unfold slice
  split
  · next inside => exact ⟨fun held => ⟨inside, held⟩, And.right⟩
  · next outside => exact ⟨fun held => absurd held unexpected, fun held => absurd held.1 outside⟩

/-- A part of a buffer, as a pointer into it and a size give it to a function. What is
read through the pointer is checked against the buffer, not against the size. -/
structure Window (α : Type _) where
  buffer : List α
  start : Nat
  size : Nat

namespace Window
variable {window : Window α}

def Inside (window : Window α) : Prop := window.start + window.size ≤ window.buffer.length

def cells (window : Window α) : List α := (window.buffer.drop window.start).take window.size

def read (fault : ε) (window : Window α) (index : Nat) : Except ε α :=
  load fault window.buffer (window.start + index)

/-- A copy of some of the window's own cells. -/
def copy (fault : ε) (window : Window α) (start stop : Nat) : Except ε (List α) :=
  slice fault window.cells start stop

theorem length_cells (inside : window.Inside) : window.cells.length = window.size := by
  unfold Inside at inside
  rw [cells, List.length_take, List.length_drop]
  omega

theorem getD_cells (own : index < window.size) (other : α) :
    window.buffer.getD (window.start + index) other = window.cells.getD index other := by
  rw [List.getD_eq_getElem?_getD, List.getD_eq_getElem?_getD, cells, List.getElem?_take_of_lt own,
    List.getElem?_drop]

theorem read_inside (fault : ε) (inside : window.Inside) (own : index < window.size) (other : α) :
    window.read fault index = .ok (window.cells.getD index other) := by
  have bound : window.start + index < window.buffer.length :=
    Nat.lt_of_lt_of_le (Nat.add_lt_add_left own _) inside
  rw [read, load_inside fault bound other, getD_cells own]

theorem copy_inside (fault : ε) {start stop : Nat} (inside : window.Inside) (ordered : start ≤ stop)
    (own : stop ≤ window.size) :
    window.copy fault start stop = .ok ((window.cells.drop start).take (stop - start)) :=
  slice_inside fault ordered (by rw [length_cells inside]; exact own)

end Window

end Glide.Library.CheckedBuffers
