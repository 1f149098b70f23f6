import Mathlib.Data.List.TakeWhile
import Glide.Library.AsciiText
import Glide.Library.CommandLines

/-! The command line a worker is started with on Windows. An argument without blanks and quotation
marks is written as it is, and so is one without any characters. -/
namespace Glide.WindowsArguments
open Library.CommandLines Library.AsciiText

/-- A string that can stand in a command line at all. -/
abbrev Argument := { text : List UInt8 // 0 ∉ text }

/-- A program as Windows can start it: no file's name has a quotation mark. -/
structure Program where
  path : List UInt8
  named : path ≠ []
  unquoted : 34 ∉ path
  terminated : 0 ∉ path

/-- A character of `" \\t\\""`. -/
def special (character : UInt8) : Bool := character == 32 || character == 9 || character == 34

/-- The argument so far, and the backslashes that are not written yet. -/
structure Quoting where
  quoted : List UInt8
  backslashes : Nat

def quoteCharacter (quoting : Quoting) (character : UInt8) : Quoting :=
  if character == 92 then { quoting with backslashes := quoting.backslashes + 1 }
  else if character == 34 then
    ⟨quoting.quoted ++ List.replicate (quoting.backslashes * 2 + 1) 92 ++ [34], 0⟩
  else ⟨quoting.quoted ++ List.replicate quoting.backslashes 92 ++ [character], 0⟩

def quoteWindowsArgument (argument : List UInt8) : List UInt8 :=
  if argument.any special then
    let quoting := argument.foldl quoteCharacter ⟨[34], 0⟩
    quoting.quoted ++ List.replicate (quoting.backslashes * 2) 92 ++ [34]
  else argument

def appendArgument (command argument : List UInt8) : List UInt8 :=
  (if command.isEmpty then command else command ++ [32]) ++ quoteWindowsArgument argument

/-- `command` in `launch_windows_child`. -/
def childCommand (arguments : List (List UInt8)) : List UInt8 := arguments.foldl appendArgument []

/-! ### One argument -/

/-- The writer encloses what is left. -/
theorem quoting_enclosed (quoting : Quoting) (text : List UInt8) :
    let done := text.foldl quoteCharacter quoting
    done.quoted ++ List.replicate (done.backslashes * 2) 92 ++ [34] =
      quoting.quoted ++ enclosed quoting.backslashes text := by
  induction text generalizing quoting with
  | nil => simp [enclosed]
  | cons character text ih =>
    simp only [List.foldl_cons, ih, quoteCharacter, enclosed]
    split
    · rfl
    · split <;> simp

theorem quoted_special {argument : List UInt8} (some : argument.any special = true) :
    quoteWindowsArgument argument = 34 :: enclosed 0 argument := by
  have written := quoting_enclosed ⟨[34], 0⟩ argument
  rw [quoteWindowsArgument, if_pos some]
  exact written

theorem plain_of_not_special {argument : List UInt8} (none : ¬argument.any special = true) :
    ∀ character ∈ argument, character ≠ 34 ∧ blank character = false := by
  intro character member
  have ordinary : special character = false := by
    cases held : special character with
    | false => rfl
    | true => exact absurd (List.any_eq_true.mpr ⟨character, member, held⟩) none
  simp only [special, blank, Bool.or_eq_false_iff, beq_eq_false_iff_ne] at ordinary ⊢
  exact ⟨ordinary.2, ordinary.1⟩

theorem quoted_nonempty (some : argument ≠ []) : quoteWindowsArgument argument ≠ [] := by
  by_cases any : argument.any special = true
  · rw [quoted_special any]
    exact List.cons_ne_nil _ _
  · rw [quoteWindowsArgument, if_neg any]
    exact some

/-- An argument is read back from how it is written, unless there is nothing to read. -/
theorem quoted_stands (argument : List UInt8) : Stands (quoteWindowsArgument argument) argument := by
  by_cases empty : argument = []
  · subst empty
    exact .inl ⟨rfl, rfl⟩
  · refine .inr ⟨?_, quoted_nonempty empty, empty, ?_⟩
    · by_cases any : argument.any special = true
      · rw [quoted_special any]
        rfl
      · rw [quoteWindowsArgument, if_neg any]
        obtain ⟨first, later, rfl⟩ := List.exists_cons_of_ne_nil empty
        have plain := (plain_of_not_special any first (List.mem_cons_self ..)).2
        simp [plain]
    · intro rest ended
      by_cases any : argument.any special = true
      · have read := @splitArgument_enclosed rest [] 0 argument ended
        rw [quoted_special any]
        simpa [splitArgument, Place.passed] using read
      · have read := @splitArgument_plain argument rest 0 [] (plain_of_not_special any) ended
        rw [quoteWindowsArgument, if_neg any]
        simpa using read

/-! ### The command line -/

theorem command_from (some : command ≠ []) (arguments : List (List UInt8)) :
    arguments.foldl appendArgument command =
      command ++ arguments.flatMap fun argument => 32 :: quoteWindowsArgument argument := by
  induction arguments generalizing command with
  | nil => simp
  | cons argument arguments ih =>
    have written : appendArgument command argument = command ++ 32 :: quoteWindowsArgument argument := by
      simp [appendArgument, some]
    rw [List.foldl_cons, written, ih (by simp), List.flatMap_cons]
    simp

theorem childCommand_program (named : program ≠ []) (arguments : List (List UInt8)) :
    childCommand (program :: arguments) = quoteWindowsArgument program ++
      arguments.flatMap fun argument => 32 :: quoteWindowsArgument argument := by
  have written := command_from (quoted_nonempty named) arguments
  simpa [childCommand, appendArgument] using written

/-- Blanks in the program's path are kept inside of quotation marks. -/
theorem splitProgram_quoted_path (program : Program) (ended : Ended rest) :
    (splitProgram false [] (quoteWindowsArgument program.path ++ rest)).2 = rest := by
  by_cases any : program.path.any special = true
  · obtain ⟨body, absent, written⟩ := enclosed_unquoted program.unquoted 0
    have read := @splitProgram_quoted body rest [] absent ended
    rw [quoted_special any, written]
    simp [splitProgram, read]
  · rw [quoteWindowsArgument, if_neg any,
      splitProgram_plain (plain_of_not_special any) ended]

theorem quoted_terminated (terminated : 0 ∉ argument) : 0 ∉ quoteWindowsArgument argument := by
  by_cases any : argument.any special = true
  · rw [quoted_special any]
    intro member
    rcases List.mem_cons.mp member with same | member
    · exact absurd same (by decide)
    · rcases mem_enclosed member with backslash | quote | inner
      · exact absurd backslash (by decide)
      · exact absurd quote (by decide)
      · exact terminated inner
  · rw [quoteWindowsArgument, if_neg any]
    exact terminated

theorem childCommand_terminated (program : Program) (arguments : List Argument) :
    0 ∉ childCommand (program.path :: arguments.map (·.val)) := by
  rw [childCommand_program program.named]
  intro member
  rcases List.mem_append.mp member with inPath | inArguments
  · exact quoted_terminated program.terminated inPath
  · obtain ⟨argument, listed, inArgument⟩ := List.mem_flatMap.mp inArguments
    obtain ⟨known, _, rfl⟩ := List.mem_map.mp listed
    rcases List.mem_cons.mp inArgument with same | inner
    · exact absurd same (by decide)
    · exact quoted_terminated known.property inner

/-- What the child is given. -/
theorem argumentsOf_childCommand (program : Program) (arguments : List Argument) :
    argumentsOf (childCommand (program.path :: arguments.map (·.val))) =
      (arguments.map (·.val)).filter (· ≠ []) := by
  have whole : (childCommand (program.path :: arguments.map (·.val))).takeWhile (· != 0) =
      childCommand (program.path :: arguments.map (·.val)) := by
    apply List.takeWhile_eq_self_iff.mpr
    intro character member
    have other : character ≠ 0 := fun same =>
      childCommand_terminated program arguments (same ▸ member)
    simpa using other
  have ended : Ended ((arguments.map (·.val)).flatMap fun argument =>
      32 :: quoteWindowsArgument argument) := by
    cases arguments with
    | nil => exact .inl rfl
    | cons argument arguments => exact .inr ⟨32, _, rfl, rfl⟩
  have enough := Nat.lt_succ_of_le (length_flatMap_blank quoteWindowsArgument (arguments.map (·.val)))
  unfold argumentsOf
  rw [whole, childCommand_program program.named]
  dsimp only
  rw [splitProgram_quoted_path program ended]
  exact splitArguments_arguments (fun argument _ => quoted_stands argument) enough

/-- The child is given the arguments it was launched with exactly if none of them is empty: an empty
one has no blank or quotation mark, so it is written without any of its own. -/
theorem arguments_kept_iff (program : Program) (arguments : List Argument) :
    argumentsOf (childCommand (program.path :: arguments.map (·.val))) = arguments.map (·.val) ↔
      ∀ argument ∈ arguments, argument.val ≠ [] := by
  rw [argumentsOf_childCommand, List.filter_eq_self]
  simp

theorem userInterface_plain : ascii "glide-ui.exe" ≠ [] ∧ 34 ∉ ascii "glide-ui.exe" ∧
    0 ∉ ascii "glide-ui.exe" := by decide

def userInterface : Program where
  path := ascii "glide-ui.exe"
  named := userInterface_plain.1
  unquoted := userInterface_plain.2.1
  terminated := userInterface_plain.2.2

/-- The user interface is given no name for its buffer: it takes the option behind it for one. -/
theorem empty_argument_lost : ¬∀ (program : Program) (arguments : List Argument),
    argumentsOf (childCommand (program.path :: arguments.map (·.val))) = arguments.map (·.val) := by
  intro kept
  have lost := kept userInterface
    [⟨ascii "--buffer-path", by decide⟩, ⟨[], by decide⟩, ⟨ascii "--ipc-socket", by decide⟩]
  exact absurd lost (by decide)

end Glide.WindowsArguments
