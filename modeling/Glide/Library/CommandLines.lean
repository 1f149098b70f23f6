import Mathlib.Data.List.Basic

/-! Command lines as a Windows program splits them into arguments: blanks delimit, quotation
marks enclose, and backslashes are plain unless a quotation mark follows them. -/
namespace Glide.Library.CommandLines

/-- A space or a tab. -/
def blank (character : UInt8) : Bool := character == 32 || character == 9

/-- The program's name and what is behind it. Quotation marks only keep blanks in the name; there
are no escapes in it. -/
def splitProgram (quoted : Bool) (name : List UInt8) : List UInt8 → List UInt8 × List UInt8
  | [] => (name, [])
  | character :: text =>
    if character == 34 then splitProgram (!quoted) name text
    else if blank character && !quoted then (name, character :: text)
    else splitProgram quoted (name ++ [character]) text

/-- Where the splitter is: outside of quotation marks, between two of them, or right behind one
that closes. -/
inductive Place where
  | outside | inside | closing
  deriving DecidableEq, Repr

def Place.continued : Place → Place
  | .closing => .outside
  | place => place

def Place.passed : Place → Place
  | .inside => .closing
  | _ => .inside

/-- One argument and what is behind it; `backslashes` are those right in front. -/
def splitArgument (place : Place) (backslashes : Nat) (argument : List UInt8) :
    List UInt8 → List UInt8 × List UInt8
  | [] => (argument ++ List.replicate backslashes 92, [])
  | character :: text =>
    if character == 34 then
      -- two quotation marks between quotation marks are one of the argument
      if place == .closing then splitArgument .inside 0 (argument ++ [34]) text
      else if backslashes % 2 == 1 then
        splitArgument place 0 (argument ++ List.replicate (backslashes / 2) 92 ++ [34]) text
      else splitArgument place.passed 0 (argument ++ List.replicate (backslashes / 2) 92) text
    else if character == 92 then splitArgument place.continued (backslashes + 1) argument text
    else if blank character && place != .inside then
      (argument ++ List.replicate backslashes 92, character :: text)
    else
      splitArgument place.continued 0 (argument ++ List.replicate backslashes 92 ++ [character]) text

/-- The arguments of a text; every one takes a character at least. -/
def splitArguments : (fuel : Nat) → List UInt8 → List (List UInt8)
  | 0, _ => []
  | fuel + 1, text =>
    match text.dropWhile blank with
    | [] => []
    | character :: text =>
      let (argument, text) := splitArgument .outside 0 [] (character :: text)
      argument :: splitArguments fuel text

/-- The arguments behind the program's name. The text ends at its first NUL. -/
def argumentsOf (command : List UInt8) : List (List UInt8) :=
  let (_, text) := splitProgram false [] (command.takeWhile (· != 0))
  splitArguments (text.length + 1) text

/-! ### Plain texts -/

/-- A text that a blank ends. -/
def Ended (text : List UInt8) : Prop :=
  text = [] ∨ ∃ character rest, blank character = true ∧ text = character :: rest

theorem plain_of_blank (isBlank : blank character = true) : character ≠ 34 ∧ character ≠ 92 := by
  constructor
  · rintro rfl
    exact absurd isBlank (by decide)
  · rintro rfl
    exact absurd isBlank (by decide)

theorem splitProgram_plain (plain : ∀ character ∈ text, character ≠ 34 ∧ blank character = false)
    (ended : Ended rest) : splitProgram false name (text ++ rest) = (name ++ text, rest) := by
  induction text generalizing name with
  | nil =>
    rcases ended with rfl | ⟨character, behind, isBlank, rfl⟩
    · simp [splitProgram]
    · simp [splitProgram, isBlank, (plain_of_blank isBlank).1]
  | cons character text ih =>
    obtain ⟨noQuote, noBlank⟩ := plain character (List.mem_cons_self ..)
    have later := @ih (name ++ [character]) fun other member =>
      plain other (List.mem_cons_of_mem _ member)
    simp [splitProgram, noQuote, noBlank, later]

theorem splitProgram_quoted (unquoted : 34 ∉ text) (ended : Ended rest) :
    splitProgram true name (text ++ 34 :: rest) = (name ++ text, rest) := by
  induction text generalizing name with
  | nil =>
    have closed : splitProgram false name ([] ++ rest) = (name ++ [], rest) :=
      splitProgram_plain (by simp) ended
    simpa [splitProgram] using closed
  | cons character text ih =>
    have noQuote : character ≠ 34 := fun same => unquoted (by simp [same])
    have later := @ih (name ++ [character]) fun member =>
      unquoted (List.mem_cons_of_mem _ member)
    simp [splitProgram, noQuote, later]

theorem splitArgument_ended (outside : place ≠ .inside) (ended : Ended rest) :
    splitArgument place backslashes argument rest =
      (argument ++ List.replicate backslashes 92, rest) := by
  rcases ended with rfl | ⟨character, behind, isBlank, rfl⟩
  · rfl
  · obtain ⟨noQuote, noBackslash⟩ := plain_of_blank isBlank
    simp [splitArgument, isBlank, noQuote, noBackslash, outside]

theorem splitArgument_plain (plain : ∀ character ∈ text, character ≠ 34 ∧ blank character = false)
    (ended : Ended rest) : splitArgument .outside backslashes argument (text ++ rest) =
      (argument ++ List.replicate backslashes 92 ++ text, rest) := by
  induction text generalizing backslashes argument with
  | nil => simpa using splitArgument_ended (by decide) ended
  | cons character text ih =>
    obtain ⟨noQuote, noBlank⟩ := plain character (List.mem_cons_self ..)
    have later := fun backslashes argument => @ih backslashes argument
      fun other member => plain other (List.mem_cons_of_mem _ member)
    by_cases backslash : character = 92
    · subst backslash
      simp [splitArgument, Place.continued, later, List.replicate_succ']
    · simp [splitArgument, Place.continued, noQuote, noBlank, backslash, later]

/-! ### Enclosed texts -/

/-- A text between quotation marks, from where `backslashes` are right in front to the mark that
closes. -/
def enclosed (backslashes : Nat) : List UInt8 → List UInt8
  | [] => List.replicate (backslashes * 2) 92 ++ [34]
  | character :: text =>
    if character == 92 then enclosed (backslashes + 1) text
    else if character == 34 then List.replicate (backslashes * 2 + 1) 92 ++ 34 :: enclosed 0 text
    else List.replicate backslashes 92 ++ character :: enclosed 0 text

theorem splitArgument_backslashes (inside : place ≠ .closing) (more : Nat) (rest : List UInt8) :
    splitArgument place backslashes argument (List.replicate more 92 ++ rest) =
      splitArgument place (backslashes + more) argument rest := by
  induction more generalizing backslashes with
  | zero => rfl
  | succ more ih =>
    have kept : place.continued = place := by
      cases place with
      | closing => exact absurd rfl inside
      | outside | inside => rfl
    simp [splitArgument, List.replicate_succ, kept, ih, Nat.add_assoc, Nat.add_comm 1 more]

/-- The splitter reads an enclosed text back. -/
theorem splitArgument_enclosed (ended : Ended rest) :
    splitArgument .inside 0 argument (enclosed backslashes text ++ rest) =
      (argument ++ List.replicate backslashes 92 ++ text, rest) := by
  have ready : Place.inside ≠ .closing := by decide
  induction text generalizing backslashes argument with
  | nil =>
    have closed := @splitArgument_ended .closing rest 0 (argument ++ List.replicate backslashes 92)
      (by decide) ended
    rw [enclosed, List.append_assoc, splitArgument_backslashes ready]
    simpa [splitArgument, Place.passed] using closed
  | cons character text ih =>
    by_cases backslash : character = 92
    · subst backslash
      simp [enclosed, ih, List.replicate_succ']
    · by_cases quote : character = 34
      · subst quote
        have half : (backslashes * 2 + 1) / 2 = backslashes := by omega
        have later := @ih (argument ++ List.replicate backslashes 92 ++ [34]) 0
        simp only [List.replicate_zero, List.append_nil] at later
        simp only [enclosed, beq_self_eq_true, ↓reduceIte, beq_iff_eq, backslash, List.append_assoc,
          splitArgument_backslashes ready]
        simp only [List.cons_append, splitArgument, beq_self_eq_true, ↓reduceIte, Nat.zero_add]
        simpa [half] using later
      · have later := @ih (argument ++ List.replicate backslashes 92 ++ [character]) 0
        simp only [List.replicate_zero, List.append_nil] at later
        simp only [enclosed, beq_iff_eq, backslash, quote, ↓reduceIte, List.append_assoc,
          splitArgument_backslashes ready]
        simpa [splitArgument, Place.continued, backslash, quote] using later

theorem mem_enclosed (member : character ∈ enclosed backslashes text) :
    character = 92 ∨ character = 34 ∨ character ∈ text := by
  induction text generalizing backslashes with
  | nil =>
    simp only [enclosed, List.mem_append, List.mem_replicate, List.mem_singleton] at member
    exact member.imp And.right .inl
  | cons first text ih =>
    simp only [enclosed] at member
    split at member
    · rcases ih member with backslash | quote | inner
      · exact .inl backslash
      · exact .inr (.inl quote)
      · exact .inr (.inr (List.mem_cons_of_mem _ inner))
    · split at member
      all_goals
        simp only [List.mem_append, List.mem_replicate, List.mem_cons] at member ⊢
        rcases member with ⟨_, backslash⟩ | same | later
        · exact .inl backslash
        · simp_all
        · rcases ih later with backslash | quote | inner
          · exact .inl backslash
          · exact .inr (.inl quote)
          · exact .inr (.inr (.inr inner))

/-- Without a quotation mark in the text there is only the one that closes. -/
theorem enclosed_unquoted (unquoted : 34 ∉ text) (backslashes : Nat) :
    ∃ body, 34 ∉ body ∧ enclosed backslashes text = body ++ [34] := by
  induction text generalizing backslashes with
  | nil => exact ⟨List.replicate (backslashes * 2) 92, by simp, rfl⟩
  | cons character text ih =>
    have noQuote : character ≠ 34 := fun same => unquoted (by simp [same])
    have later := ih fun member => unquoted (List.mem_cons_of_mem _ member)
    by_cases backslash : character = 92
    · obtain ⟨body, absent, written⟩ := later (backslashes + 1)
      exact ⟨body, absent, by simp [enclosed, backslash, written]⟩
    · obtain ⟨body, absent, written⟩ := later 0
      refine ⟨List.replicate backslashes 92 ++ character :: body, ?_, ?_⟩
      · simp [absent, Ne.symm noQuote]
      · simp [enclosed, backslash, noQuote, written]

/-! ### Whole command lines -/

/-- What a text stands for: nothing is nothing, and the splitter reads everything else back. -/
def Stands (written argument : List UInt8) : Prop :=
  written = [] ∧ argument = [] ∨
    written.head?.all (!blank ·) = true ∧ written ≠ [] ∧ argument ≠ [] ∧
      ∀ rest, Ended rest → splitArgument .outside 0 [] (written ++ rest) = (argument, rest)

theorem splitArguments_blank (fuel : Nat) (text : List UInt8) :
    splitArguments fuel (32 :: text) = splitArguments fuel text := by
  cases fuel with
  | zero => rfl
  | succ fuel =>
    have skipped : (32 :: text).dropWhile blank = text.dropWhile blank :=
      List.dropWhile_cons_of_pos rfl
    rw [splitArguments, splitArguments, skipped]

theorem splitArguments_written (nonempty : written ≠ []) (start : written.head?.all (!blank ·) = true)
    (reads : splitArgument .outside 0 [] (written ++ rest) = (argument, rest)) :
    splitArguments (fuel + 1) (written ++ rest) = argument :: splitArguments fuel rest := by
  obtain ⟨first, later, rfl⟩ := List.exists_cons_of_ne_nil nonempty
  have plain : ¬blank first = true := by simpa using start
  have kept : (first :: later ++ rest).dropWhile blank = first :: later ++ rest :=
    List.dropWhile_cons_of_neg plain
  rw [splitArguments, kept]
  simp only [List.cons_append] at reads ⊢
  rw [reads]

theorem length_flatMap_blank (write : List UInt8 → List UInt8) (arguments : List (List UInt8)) :
    arguments.length ≤ (arguments.flatMap fun argument => 32 :: write argument).length := by
  induction arguments with
  | nil => exact Nat.le_refl 0
  | cons argument arguments ih =>
    simp only [List.flatMap_cons, List.length_append, List.length_cons]
    omega

/-- The empty arguments are lost: two blanks stand where one was. -/
theorem splitArguments_arguments {write : List UInt8 → List UInt8} {arguments : List (List UInt8)}
    (stands : ∀ argument ∈ arguments, Stands (write argument) argument)
    (enough : arguments.length < fuel) :
    splitArguments fuel (arguments.flatMap fun argument => 32 :: write argument) =
      arguments.filter (· ≠ []) := by
  induction arguments generalizing fuel with
  | nil =>
    cases fuel with
    | zero => rfl
    | succ fuel => rfl
  | cons argument arguments ih =>
    have others : ∀ argument ∈ arguments, Stands (write argument) argument := fun argument member =>
      stands argument (List.mem_cons_of_mem _ member)
    rw [List.flatMap_cons, List.cons_append, splitArguments_blank]
    rcases stands argument (List.mem_cons_self ..) with
      ⟨nothing, empty⟩ | ⟨start, nonempty, some, reads⟩
    · rw [nothing, List.nil_append, ih others (Nat.lt_of_succ_lt enough)]
      simp [empty]
    · obtain ⟨fuel, rfl⟩ : ∃ more, fuel = more + 1 := ⟨fuel - 1, by omega⟩
      have ended : Ended (arguments.flatMap fun argument => 32 :: write argument) := by
        cases arguments with
        | nil => exact .inl rfl
        | cons next arguments => exact .inr ⟨32, _, rfl, rfl⟩
      rw [splitArguments_written nonempty start (reads _ ended),
        ih others (Nat.lt_of_succ_lt_succ enough)]
      simp [some]

end Glide.Library.CommandLines
