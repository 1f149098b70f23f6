import Mathlib.Data.List.Basic

/-! Lines on a local socket. Both ends keep what they have read and not yet
delivered in a buffer, and take the finished lines out of it. -/
namespace Glide.IpcLines

/-- A line loses one carriage return at its end. -/
def dropReturn (line : List UInt8) : List UInt8 :=
  if line.getLast? = some 13 then line.dropLast else line

/-- `line` is the part of the first line that has been looked at. -/
def drainFrom (line : List UInt8) : List UInt8 → List (List UInt8) × List UInt8
  | [] => ([], line)
  | byte :: rest =>
    if byte = 10 then (dropReturn line :: (drainFrom [] rest).1, (drainFrom [] rest).2)
    else drainFrom (line ++ [byte]) rest

/-- The finished lines of a buffer, and what stays in it. -/
def drainLines (buffer : List UInt8) : List (List UInt8) × List UInt8 := drainFrom [] buffer

/-- The lines of a stream that a newline ends. -/
def completeLines (stream : List UInt8) : List (List UInt8) :=
  ((stream.splitOn 10).dropLast).map dropReturn

/-- What follows the last newline of a stream. -/
def unfinished (stream : List UInt8) : List UInt8 := (drainLines stream).2

theorem drainFrom_unbroken (unbroken : 10 ∉ text) : drainFrom line text = ([], line ++ text) := by
  induction text generalizing line with
  | nil => simp [drainFrom]
  | cons byte rest ih =>
    obtain ⟨head, tail⟩ := not_or.1 (mt List.mem_cons.2 unbroken)
    rw [drainFrom, if_neg (Ne.symm head), ih tail, List.append_assoc, List.singleton_append]

theorem drainFrom_line (unbroken : 10 ∉ text) : drainFrom line (text ++ 10 :: rest) =
    (dropReturn (line ++ text) :: (drainLines rest).1, (drainLines rest).2) := by
  induction text generalizing line with
  | nil => simp [drainFrom, drainLines]
  | cons byte tail ih =>
    obtain ⟨head, unbroken_tail⟩ := not_or.1 (mt List.mem_cons.2 unbroken)
    rw [List.cons_append, drainFrom, if_neg (Ne.symm head), ih unbroken_tail, List.append_assoc,
      List.singleton_append]

/-- Without a newline nothing is taken out. -/
theorem drainLines_unbroken (unbroken : 10 ∉ buffer) : drainLines buffer = ([], buffer) :=
  drainFrom_unbroken unbroken

/-- The first line is taken out up to the first newline. -/
theorem drainLines_line (unbroken : 10 ∉ text) : drainLines (text ++ 10 :: rest) =
    (dropReturn text :: (drainLines rest).1, (drainLines rest).2) :=
  drainFrom_line unbroken

private theorem drainFrom_append (line first second : List UInt8) :
    drainFrom line (first ++ second) =
      ((drainFrom line first).1 ++ (drainFrom (drainFrom line first).2 second).1,
        (drainFrom (drainFrom line first).2 second).2) := by
  induction first generalizing line with
  | nil => rfl
  | cons byte rest ih =>
    rw [List.cons_append, drainFrom, drainFrom]
    split
    · rw [ih]
      rfl
    · exact ih _

theorem unfinished_unbroken (stream : List UInt8) : 10 ∉ unfinished stream := by
  have clear : ∀ (line : List UInt8), 10 ∉ line → 10 ∉ (drainFrom line stream).2 := by
    induction stream with
    | nil => exact fun line clear => clear
    | cons byte rest ih =>
      intro line clear
      rw [drainFrom]
      split
      · exact ih [] List.not_mem_nil
      · rename_i other
        refine ih _ ?_
        rw [List.mem_append, not_or]
        exact ⟨clear, fun same => other (List.mem_singleton.1 same).symm⟩
  exact clear [] List.not_mem_nil

/-- Bytes that arrive later are drained after what was left of the earlier ones. -/
theorem drainLines_append (first second : List UInt8) :
    drainLines (first ++ second) =
      ((drainLines first).1 ++ (drainLines (unfinished first ++ second)).1,
        unfinished (unfinished first ++ second)) := by
  have left : drainFrom [] (unfinished first) = ([], unfinished first) :=
    drainLines_unbroken (unfinished_unbroken first)
  have joined := drainFrom_append [] (unfinished first) second
  rw [left] at joined
  simp only [unfinished, drainLines] at joined ⊢
  rw [drainFrom_append, joined]
  simp

theorem unfinished_append (first second : List UInt8) :
    unfinished (first ++ second) = unfinished (unfinished first ++ second) := by
  rw [unfinished, drainLines_append]

private theorem drainFrom_splitOn (line stream : List UInt8) (clear : 10 ∉ line) :
    (drainFrom line stream).1 = (((line ++ stream).splitOn 10).dropLast).map dropReturn := by
  induction stream generalizing line with
  | nil =>
    rw [List.append_nil, List.splitOn_eq_singleton clear]
    rfl
  | cons byte rest ih =>
    rw [drainFrom]
    split
    · rename_i newline
      subst newline
      have pieces := List.splitOn_ne_nil 10 rest
      rw [List.splitOn_append_cons_self_of_not_mem clear, List.dropLast_cons_of_ne_nil pieces]
      exact congrArg (dropReturn line :: ·) (ih [] List.not_mem_nil)
    · rename_i other
      rw [ih (line ++ [byte]), List.append_assoc, List.singleton_append]
      rw [List.mem_append, not_or]
      exact ⟨clear, fun same => other (List.mem_singleton.1 same).symm⟩

/-- Draining finds exactly the complete lines. -/
theorem drainLines_complete (stream : List UInt8) : (drainLines stream).1 = completeLines stream :=
  drainFrom_splitOn [] stream List.not_mem_nil

theorem completeLines_append (first second : List UInt8) : completeLines (first ++ second) =
    completeLines first ++ completeLines (unfinished first ++ second) := by
  rw [← drainLines_complete, drainLines_append, drainLines_complete, drainLines_complete]

/-- More of a stream only adds lines. -/
theorem completeLines_grow (first second : List UInt8) :
    completeLines first <+: completeLines (first ++ second) := by
  rw [completeLines_append]
  exact List.prefix_append _ _

theorem completeLines_unbroken (unbroken : 10 ∉ text) : completeLines text = [] := by
  rw [← drainLines_complete, drainLines_unbroken unbroken]

end Glide.IpcLines
