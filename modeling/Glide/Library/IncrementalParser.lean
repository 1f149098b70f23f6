import Mathlib.Data.List.Basic

/-! A parser that looks at the front of its input and either waits for more or
consumes a nonempty piece of it. When a decision, once made, does not change
with the input that arrives later, the items found do not depend on how the
input was cut into chunks. -/
namespace Glide.Library

/-- `next` inspects the front of the input: `none` waits, and `some (item, size)`
consumes `size` symbols and may yield an item. -/
structure IncrementalParser (α β : Type) where
  next : List α → Option (Option β × Nat)
  progress : ∀ {input item size}, next input = some (item, size) → 0 < size ∧ size ≤ input.length
  stable : ∀ {input piece} (later : List α), next input = some piece →
    next (input ++ later) = some piece

namespace IncrementalParser
variable (parser : IncrementalParser α β)

/-- Consume pieces until the parser waits: the items found and what is left. -/
def drain (input : List α) : List β × List α :=
  match _found : parser.next input with
  | none => ([], input)
  | some (item, size) =>
    let later := drain (input.drop size)
    (item.toList ++ later.1, later.2)
termination_by input.length
decreasing_by
  have bounds := parser.progress _found
  simp only [List.length_drop]
  omega

theorem drain_waits (waits : parser.next input = none) : parser.drain input = ([], input) := by
  rw [drain]
  split
  · rfl
  · rename_i found
    rw [waits] at found
    cases found

theorem drain_consumes (found : parser.next input = some (item, size)) :
    parser.drain input = (item.toList ++ (parser.drain (input.drop size)).1,
      (parser.drain (input.drop size)).2) := by
  rw [drain]
  split
  · rename_i waits
    rw [waits] at found
    cases found
  · rename_i seen
    rw [seen] at found
    cases found
    rfl

/-- Draining stops only where the parser waits for more input. -/
theorem drain_leftover_waits (input : List α) : parser.next (parser.drain input).2 = none := by
  induction size : input.length using Nat.strongRecOn generalizing input with
  | ind length ih =>
    cases found : parser.next input with
    | none => rw [drain_waits parser found]; exact found
    | some piece =>
      obtain ⟨item, count⟩ := piece
      have bounds := parser.progress found
      rw [drain_consumes parser found]
      exact ih _ (by simp only [List.length_drop]; omega) _ rfl

/-- Only a front part of the input is ever consumed. -/
theorem drain_leftover_suffix (input : List α) : (parser.drain input).2 <:+ input := by
  induction size : input.length using Nat.strongRecOn generalizing input with
  | ind length ih =>
    cases found : parser.next input with
    | none => simpa only [drain_waits parser found] using List.suffix_refl input
    | some piece =>
      obtain ⟨item, count⟩ := piece
      have bounds := parser.progress found
      rw [drain_consumes parser found]
      exact (ih _ (by simp only [List.length_drop]; omega) _ rfl).trans (List.drop_suffix _ _)

/-- Input that arrives later is parsed after what the first part left over. -/
theorem drain_append (input later : List α) :
    parser.drain (input ++ later) =
      ((parser.drain input).1 ++ (parser.drain ((parser.drain input).2 ++ later)).1,
        (parser.drain ((parser.drain input).2 ++ later)).2) := by
  induction size : input.length using Nat.strongRecOn generalizing input with
  | ind length ih =>
    cases found : parser.next input with
    | none => rw [drain_waits parser found]; simp
    | some piece =>
      obtain ⟨item, count⟩ := piece
      have bounds := parser.progress found
      have rest := ih _ (by simp only [List.length_drop]; omega) (input.drop count) rfl
      rw [drain_consumes parser found, drain_consumes parser (parser.stable later found),
        List.drop_append_of_le_length bounds.2, rest]
      simp

/-- One read: the chunk joins what was left over, and the items found join
those already delivered. -/
def read (delivered : List β × List α) (chunk : List α) : List β × List α :=
  let drained := parser.drain (delivered.2 ++ chunk)
  (delivered.1 ++ drained.1, drained.2)

/-- However the input is cut into reads, the items of the whole input are
delivered in order and the same rest is left over. -/
theorem reads_agree (chunks : List (List α)) (waits : parser.next pending = none) :
    chunks.foldl parser.read (items, pending) =
      let drained := parser.drain (pending ++ chunks.flatten)
      (items ++ drained.1, drained.2) := by
  induction chunks generalizing items pending with
  | nil => simp [drain_waits parser waits]
  | cons chunk rest ih =>
    have joined := drain_append parser (pending ++ chunk) rest.flatten
    simp only [List.append_assoc] at joined
    simp only [List.foldl_cons, read, List.flatten_cons, joined]
    rw [ih (drain_leftover_waits parser _)]
    simp

end IncrementalParser
end Glide.Library
