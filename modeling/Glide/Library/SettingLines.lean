import Glide.Library.KeyedLists

/-! A file of lines, some of which hold settings. A reader goes through all lines and keeps what the
last one for a setting tells, but a writer replaces the first one that looks like its own. The two
agree in a file where nothing is read behind what the writer finds. -/
namespace Glide.Library.SettingLines
open KeyedLists

/-- Which setting a line is read for, and which lines a writer takes for those of a setting. -/
structure Format (α κ : Type) where
  reads : α → Option κ
  writes : κ → α → Bool
  reads_of_writes : ∀ setting line, writes setting line = true → reads line = some setting

variable {format : Format α κ} {setting other : κ} {line : α} {lines : List α}

/-- The first line of a setting is replaced, or the line becomes the last. -/
def replaced (format : Format α κ) (setting : κ) (line : α) (lines : List α) : List α :=
  upsert (format.writes setting) line lines

variable [DecidableEq κ]

/-- The lines that are read for a setting. -/
def readFor (format : Format α κ) (setting : κ) (lines : List α) : List α :=
  lines.filter fun line => format.reads line = some setting

/-- No line is read for the setting behind the first one that a writer would replace. -/
def Settled (format : Format α κ) (setting : κ) (lines : List α) : Prop :=
  ∀ line ∈ (readFor format setting lines).dropLast, format.writes setting line = false

instance decidableSettled (format : Format α κ) (setting : κ) (lines : List α) :
    Decidable (Settled format setting lines) :=
  inferInstanceAs (Decidable (∀ line ∈ (readFor format setting lines).dropLast,
    format.writes setting line = false))

theorem readFor_append (first second : List α) : readFor format setting (first ++ second) =
    readFor format setting first ++ readFor format setting second := List.filter_append ..

theorem readFor_written (written : format.writes setting line = true) (lines : List α) :
    readFor format setting (line :: lines) = line :: readFor format setting lines :=
  List.filter_cons_of_pos (decide_eq_true (format.reads_of_writes setting line written))

theorem readFor_other (different : setting ≠ other) (written : format.writes setting line = true)
    (lines : List α) : readFor format other (line :: lines) = readFor format other lines := by
  refine List.filter_cons_of_neg ?_
  rw [format.reads_of_writes setting line written]
  simpa using different

/-- A line of one setting changes nothing for another one. -/
theorem readFor_replaced (different : setting ≠ other)
    (written : format.writes setting line = true) :
    readFor format other (replaced format setting line lines) = readFor format other lines := by
  unfold replaced
  rcases upsert_cases (format.writes setting) line lines with ⟨_, added⟩ |
    ⟨front, old, back, rfl, _, same, changed⟩
  · rw [added, readFor_append, readFor_other different written]
    exact List.append_nil _
  · rw [changed, readFor_append, readFor_append, readFor_other different written,
      readFor_other different (same.trans written)]

/-- What was written is what is read last. -/
theorem readFor_replaced_self (settled : Settled format setting lines)
    (written : format.writes setting line = true) :
    ∃ front, readFor format setting (replaced format setting line lines) = front ++ [line] ∧
      ∀ other ∈ front, format.writes setting other = false := by
  unfold replaced
  rcases upsert_cases (format.writes setting) line lines with ⟨apart, added⟩ |
    ⟨front, old, back, rfl, apart, same, changed⟩
  · refine ⟨readFor format setting lines, ?_, fun other member => ?_⟩
    · rw [added, readFor_append, readFor_written written]
      rfl
    · have different := apart other (List.mem_filter.mp member).1
      rw [written] at different
      exact Bool.eq_false_iff.mpr different
  · have old_written := same.trans written
    have last : readFor format setting back = [] := by
      by_contra some
      have found := settled old (by
        rw [readFor_append, readFor_written old_written, List.dropLast_append_of_ne_nil (by simp),
          List.dropLast_cons_of_ne_nil some]
        exact List.mem_append_right _ List.mem_cons_self)
      rw [old_written] at found
      cases found
    refine ⟨readFor format setting front, ?_, fun other member => ?_⟩
    · rw [changed, readFor_append, readFor_written written, last]
    · have different := apart other (List.mem_filter.mp member).1
      rw [written] at different
      exact Bool.eq_false_iff.mpr different

theorem Settled.replaced (settled : Settled format other lines)
    (written : format.writes setting line = true) :
    Settled format other (replaced format setting line lines) := by
  unfold Settled
  by_cases same : setting = other
  · subst same
    obtain ⟨front, shape, unwritten⟩ := readFor_replaced_self settled written
    rw [shape, List.dropLast_concat]
    exact unwritten
  · rw [readFor_replaced same written]
    exact settled

omit [DecidableEq κ] in
theorem find_replaced_self (written : format.writes setting line = true) :
    (replaced format setting line lines).find? (format.writes setting) = some line := by
  unfold SettingLines.replaced
  rcases upsert_cases (format.writes setting) line lines with ⟨apart, added⟩ |
    ⟨front, old, back, rfl, apart, same, changed⟩
  · have none : lines.find? (format.writes setting) = none :=
      List.find?_eq_none.mpr fun other member => written ▸ apart other member
    rw [added, List.find?_append, none, List.find?_cons_of_pos written]
    rfl
  · have none : front.find? (format.writes setting) = none :=
      List.find?_eq_none.mpr fun other member => written ▸ apart other member
    rw [changed, List.find?_append, none, List.find?_cons_of_pos written]
    rfl

omit [DecidableEq κ] in
theorem writes_other (different : setting ≠ other) (written : format.writes setting line = true) :
    format.writes other line = false := by
  by_contra both
  have first := format.reads_of_writes setting line written
  rw [format.reads_of_writes other line ((Bool.not_eq_false _).mp both)] at first
  exact different (Option.some.inj first).symm

omit [DecidableEq κ] in
theorem find_replaced (different : setting ≠ other) (written : format.writes setting line = true) :
    (replaced format setting line lines).find? (format.writes other) =
      lines.find? (format.writes other) := by
  have unwanted {line : α} (written : format.writes setting line = true) :
      ¬format.writes other line = true := by
    rw [writes_other different written]
    exact Bool.false_ne_true
  unfold SettingLines.replaced
  rcases upsert_cases (format.writes setting) line lines with ⟨_, added⟩ |
    ⟨front, old, back, rfl, _, same, changed⟩
  · rw [added, List.find?_append, List.find?_cons_of_neg (unwanted written)]
    exact Option.or_none
  · rw [changed, List.find?_append, List.find?_append, List.find?_cons_of_neg (unwanted written),
      List.find?_cons_of_neg (unwanted (same.trans written))]

omit [DecidableEq κ] in
/-- A line that is there already changes nothing. -/
theorem replaced_same (found : lines.find? (format.writes setting) = some line) :
    replaced format setting line lines = lines := by
  have written := List.find?_some found
  unfold SettingLines.replaced
  induction lines with
  | nil => cases found
  | cons first rest ih =>
    unfold upsert
    by_cases own : format.writes setting first = true
    · rw [List.find?_cons_of_pos own] at found
      rw [if_pos (own.trans written.symm), Option.some.inj found]
    · rw [List.find?_cons_of_neg own] at found
      rw [if_neg fun same => own (same.trans written), ih found]

omit [DecidableEq κ] in
/-- The lines that no writer takes for its own stay. -/
theorem filter_replaced (kept : α → Bool)
    (unwritten : ∀ line, format.writes setting line = true → kept line = false)
    (written : format.writes setting line = true) :
    (replaced format setting line lines).filter kept = lines.filter kept := by
  have dropped {line : α} (written : format.writes setting line = true) : ¬kept line = true := by
    rw [unwritten line written]
    exact Bool.false_ne_true
  unfold SettingLines.replaced
  rcases upsert_cases (format.writes setting) line lines with ⟨_, added⟩ |
    ⟨front, old, back, rfl, _, same, changed⟩
  · rw [added, List.filter_append, List.filter_cons_of_neg (dropped written)]
    exact List.append_nil _
  · rw [changed, List.filter_append, List.filter_append, List.filter_cons_of_neg (dropped written),
      List.filter_cons_of_neg (dropped (same.trans written))]

/-- What a reader keeps for a setting depends on the lines for it. -/
theorem get_foldl (load : σ → α → σ) (get : σ → ν) (parse : α → ν → ν)
    (own : ∀ state line, format.reads line = some setting →
      get (load state line) = parse line (get state))
    (others : ∀ state line, format.reads line ≠ some setting → get (load state line) = get state)
    (lines : List α) (state : σ) :
    get (lines.foldl load state) =
      (readFor format setting lines).foldl (fun value line => parse line value) (get state) := by
  induction lines generalizing state with
  | nil => rfl
  | cons line rest ih =>
    rw [List.foldl_cons, ih]
    by_cases read : format.reads line = some setting
    · have kept : readFor format setting (line :: rest) = line :: readFor format setting rest :=
        List.filter_cons_of_pos (decide_eq_true read)
      rw [own state line read, kept, List.foldl_cons]
    · have dropped : readFor format setting (line :: rest) = readFor format setting rest :=
        List.filter_cons_of_neg (by simpa using read)
      rw [others state line read, dropped]

end Glide.Library.SettingLines
