import Mathlib.Data.List.Basic
import Glide.Library.CheckedBuffers
import Glide.Library.DoubleText

/-! Arguments of a program, scanned one after the other. An option that is known is a flag or takes
the argument behind it, whatever that is; an option without an argument behind it and an argument
that is no option are passed over. Options that are written one by one are read one by one. -/
namespace Glide.Library.OptionScanning
open AsciiText NumberText StringConversions StreamExtraction

inductive Rule (σ : Type) where
  | flag (update : σ → σ)
  | value (update : List UInt8 → σ → Except CppException σ)

/-- The options that a program knows. -/
abbrev Rules (σ : Type) := List UInt8 → Option (Rule σ)

def scan (rules : Rules σ) : List (List UInt8) → σ → Except CppException σ
  | [], state => .ok state
  | [argument], state =>
    match rules argument with
    | some (.flag update) => .ok (update state)
    | _ => .ok state
  | argument :: text :: rest, state =>
    match rules argument with
    | some (.flag update) => scan rules (text :: rest) (update state)
    | some (.value update) => do
      let next ← update text state
      scan rules rest next
    | none => scan rules (text :: rest) state

/-- What holds before an option is read holds after it, given only the texts that are allowed. -/
def Rule.Keeps (allowed : List UInt8 → Prop) (invariant : σ → Prop) : Rule σ → Prop
  | .flag update => ∀ state, invariant state → invariant (update state)
  | .value update => ∀ text state result, allowed text → update text state = .ok result →
      invariant state → invariant result

section Scan
variable {rules : Rules σ} {state : σ}

theorem scan_other (unknown : rules text = none) (rest : List (List UInt8)) :
    scan rules (text :: rest) state = scan rules rest state := by
  cases rest <;> simp only [scan, unknown]

theorem scan_flag (known : rules name = some (.flag update)) (rest : List (List UInt8)) :
    scan rules (name :: rest) state = scan rules rest (update state) := by
  cases rest <;> simp only [scan, known]

theorem scan_value (known : rules name = some (.value update)) (text : List UInt8)
    (rest : List (List UInt8)) :
    scan rules (name :: text :: rest) state = update text state >>= scan rules rest := by
  simp only [scan, known]

/-- At the end, an option that needs an argument is passed over. -/
theorem scan_last (plain : ∀ update, rules text ≠ some (.flag update)) :
    scan rules [text] state = .ok state := by
  unfold scan
  split
  · exact absurd ‹_› (plain _)
  · rfl

/-- What every option keeps, the whole scan keeps. -/
theorem scan_keeps (allowed : List UInt8 → Prop) (invariant : σ → Prop)
    (each : ∀ name rule, rules name = some rule → rule.Keeps allowed invariant)
    (texts : ∀ text ∈ arguments, allowed text) (start : invariant state)
    (read : scan rules arguments state = .ok result) : invariant result := by
  fun_induction scan rules arguments state with
  | case1 state =>
    cases read
    exact start
  | case2 argument state update known =>
    cases read
    exact each _ _ known _ start
  | case3 argument state =>
    cases read
    exact start
  | case4 argument text rest state update known ih =>
    exact ih (fun text later => texts text (List.mem_cons_of_mem _ later))
      (each _ _ known _ start) read
  | case5 argument text rest state update known ih =>
    obtain ⟨next, updated, read⟩ := CheckedBuffers.bind_ok_iff.mp read
    have kept := each _ _ known text _ _ (texts text (by simp)) updated start
    exact ih next (fun text later => texts text (by simp [later])) kept read
  | case6 argument text rest state unknown ih =>
    exact ih (fun text later => texts text (List.mem_cons_of_mem _ later)) start read

theorem lookup_keeps {table : List (List UInt8 × Rule σ)} {invariant : σ → Prop}
    (each : ∀ entry ∈ table, entry.2.Keeps allowed invariant) :
    ∀ name rule, table.lookup name = some rule → rule.Keeps allowed invariant := by
  intro name rule known
  obtain ⟨before, after, rfl, -⟩ := List.lookup_eq_some_iff.mp known
  exact each (name, rule) (by simp)

end Scan

/-! ### Texts that are no options -/

/-- The text begins as options do. -/
def dashed (text : List UInt8) : Bool := text.take 2 == [45, 45]

theorem lookup_plain {table : List (List UInt8 × ρ)} (names : table.all (dashed ·.1) = true)
    (plain : dashed text = false) : table.lookup text = none := by
  refine List.lookup_eq_none_iff.mpr fun entry member => ?_
  have name := List.all_eq_true.mp names entry member
  rw [bne_iff_ne]
  rintro rfl
  rw [plain] at name
  cases name

theorem decimal_plain (number : Nat) : dashed (decimal number) = false := by
  obtain ⟨first, later, shape, digit⟩ := decimal_start number
  have other := (digit_plain digit).2.1
  rw [shape]
  unfold dashed
  cases later <;> simp [other]

theorem signedDecimal_plain (number : Int) : dashed (signedDecimal number) = false := by
  unfold signedDecimal
  split
  · obtain ⟨first, later, shape, digit⟩ := decimal_start number.natAbs
    have other := (digit_plain digit).2.1
    rw [shape]
    unfold dashed
    simp [other]
  · exact decimal_plain _

/-- A signed number that was written as an argument is read. -/
theorem stoi_written (number : Int) (least : -2 ^ 31 ≤ number) (most : number < 2 ^ 31) :
    stoi (signedDecimal number) = .ok number := by
  obtain ⟨written, plain⟩ := signed_plain number []
  have start : (signedDecimal number).dropWhile isSpace = signedDecimal number := by
    obtain ⟨first, later, shape⟩ := List.exists_cons_of_ne_nil written
    rw [shape, List.dropWhile_cons_of_neg]
    rw [plain first (by rw [shape]; rfl)]
    exact Bool.false_ne_true
  have sign := takeSign_signed number []
  have digits : (decimal number.natAbs).takeWhile isDigit = decimal number.natAbs :=
    List.takeWhile_eq_self_iff.mpr fun _ member => decimal_digits _ member
  have value : (if decide (number < 0) = true then -(decimalValue (decimal number.natAbs) : Int)
      else decimalValue (decimal number.natAbs)) = number := by
    rw [decimalValue_decimal]
    by_cases negative : number < 0
    · rw [decide_eq_true negative, if_pos rfl]
      omega
    · rw [decide_eq_false negative, if_neg Bool.false_ne_true]
      omega
  rw [List.append_nil, List.append_nil] at sign
  unfold stoi
  rw [start, sign]
  dsimp only
  rw [digits, value, if_neg decimal_ne_nil, if_neg (by omega)]

end Glide.Library.OptionScanning
