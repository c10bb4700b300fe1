import ParseScope.Text.Basic

/-!
Texts as sequences of lines. With their terminators such a sequence is known by its shape and by the
text it makes up: every line ends in its only line feed, and the last one may lack it. Without them
there is always a last line, which may be empty.
-/
namespace ParseScope.Text

/-- The shape of the lines of a text. -/
inductive AreLines : List (List Char) → Prop
  | none : AreLines []
  | last (line : List Char) (nonempty : line ≠ []) (unbroken : '\n' ∉ line) : AreLines [line]
  | ended (line : List Char) (rest : List (List Char)) (unbroken : '\n' ∉ line)
      (lines : AreLines rest) : AreLines ((line ++ ['\n']) :: rest)

theorem flatten_terminatedLines (text : List Char) : (terminatedLines text).flatten = text := by
  induction text with
  | nil => rfl
  | cons c rest ih =>
    rw [terminatedLines]
    split
    next => rw [List.flatten_cons,ih,List.singleton_append]
    next =>
      cases split : terminatedLines rest with
      | nil =>
        rw [split] at ih
        simp [← ih]
      | cons line more =>
        rw [split,List.flatten_cons] at ih
        simp [← ih]

theorem areLines_terminatedLines (text : List Char) : AreLines (terminatedLines text) := by
  induction text with
  | nil => exact .none
  | cons c rest ih =>
    rw [terminatedLines]
    split
    next feed => exact feed ▸ .ended [] _ List.not_mem_nil ih
    next other =>
      -- The character goes before the first of the other lines.
      cases split : terminatedLines rest with
      | nil => exact .last [c] (List.cons_ne_nil c []) (by simpa using Ne.symm other)
      | cons line more =>
        rw [split] at ih
        have unbroken {line : List Char} (h : '\n' ∉ line) : '\n' ∉ c :: line :=
          List.not_mem_cons_of_ne_of_not_mem (Ne.symm other) h
        cases ih with
        | last _ _ h => exact .last (c :: line) (List.cons_ne_nil c line) (unbroken h)
        | ended body _ h lines => exact .ended (c :: body) more (unbroken h) lines

theorem terminatedLines_ended (line rest : List Char) (unbroken : '\n' ∉ line) :
    terminatedLines (line ++ '\n' :: rest) = (line ++ ['\n']) :: terminatedLines rest := by
  induction line with
  | nil => rfl
  | cons c line ih =>
    obtain ⟨other,unbroken⟩ := List.ne_and_not_mem_of_not_mem_cons unbroken
    rw [List.cons_append,terminatedLines,if_neg (Ne.symm other),ih unbroken]
    rfl

theorem terminatedLines_last (line : List Char) (nonempty : line ≠ []) (unbroken : '\n' ∉ line) :
    terminatedLines line = [line] := by
  induction line with
  | nil => exact absurd rfl nonempty
  | cons c line ih =>
    obtain ⟨other,unbroken⟩ := List.ne_and_not_mem_of_not_mem_cons unbroken
    rw [terminatedLines,if_neg (Ne.symm other)]
    cases line with
    | nil => rfl
    | cons d line => rw [ih (List.cons_ne_nil d line) unbroken]

/-- Lines are those of the text they make up. -/
theorem terminatedLines_flatten (lines : List (List Char)) (areLines : AreLines lines) :
    terminatedLines lines.flatten = lines := by
  induction areLines with
  | none => rfl
  | last line nonempty unbroken =>
    rw [List.flatten_singleton,terminatedLines_last line nonempty unbroken]
  | ended line rest unbroken _ ih =>
    rw [List.flatten_cons,List.append_assoc,List.singleton_append,
      terminatedLines_ended line _ unbroken,ih]

theorem terminatedLines_eq_iff (text : List Char) (lines : List (List Char)) :
    terminatedLines text = lines ↔ AreLines lines ∧ lines.flatten = text := by
  constructor
  · rintro rfl
    exact ⟨areLines_terminatedLines text,flatten_terminatedLines text⟩
  · rintro ⟨areLines,rfl⟩
    exact terminatedLines_flatten lines areLines

/-- A line with the line feed that ends it. -/
def Ended (line : List Char) : Prop := ∃ body, '\n' ∉ body ∧ line = body ++ ['\n']

/-- All lines but the last are ended. -/
theorem areLines_append_iff (front : List (List Char)) (line : List Char) (rest : List (List Char)) :
    AreLines (front ++ line :: rest) ↔ (∀ earlier ∈ front, Ended earlier) ∧ AreLines (line :: rest) := by
  induction front with
  | nil => simp
  | cons first front ih =>
    rw [List.forall_mem_cons,and_assoc,← ih]
    constructor
    · intro areLines
      generalize others : front ++ line :: rest = more at areLines
      rw [List.cons_append,others] at areLines
      cases areLines with
      | last _ _ _ => simp at others
      | ended body _ unbroken lines => exact ⟨⟨body,unbroken,rfl⟩,lines⟩
    · rintro ⟨⟨body,unbroken,rfl⟩,lines⟩
      exact .ended body _ unbroken lines

/-! ### Lines without their terminators -/

/-- The lines of a text, each ended by a line feed, are the text with one line feed more. -/
theorem flatMap_lines (text : List Char) :
    (lines text).flatMap (fun line => line ++ ['\n']) = text ++ ['\n'] := by
  induction text with
  | nil => rfl
  | cons c rest ih =>
    rw [lines]
    split
    next feed => rw [List.flatMap_cons,ih,feed,List.nil_append,List.singleton_append,List.cons_append]
    next =>
      cases split : lines rest with
      | nil => simp [split] at ih
      | cons line more =>
        simp only [split,List.flatMap_cons,List.cons_append] at ih ⊢
        rw [ih]

theorem exists_lines (text : List Char) : ∃ line more, lines text = line :: more := by
  apply List.exists_cons_of_ne_nil
  intro none
  have whole := flatMap_lines text
  simp [none] at whole

theorem lines_unbroken (line : List Char) (unbroken : '\n' ∉ line) : lines line = [line] := by
  induction line with
  | nil => rfl
  | cons c line ih =>
    obtain ⟨other,unbroken⟩ := List.ne_and_not_mem_of_not_mem_cons unbroken
    rw [lines,if_neg (Ne.symm other),ih unbroken]

theorem lines_feed (line rest : List Char) (unbroken : '\n' ∉ line) :
    lines (line ++ '\n' :: rest) = line :: lines rest := by
  induction line with
  | nil => rfl
  | cons c line ih =>
    obtain ⟨other,unbroken⟩ := List.ne_and_not_mem_of_not_mem_cons unbroken
    rw [List.cons_append,lines,if_neg (Ne.symm other),ih unbroken]

/-- Behind the last line feed there is a line without characters. -/
theorem lines_flatMap (ended : List (List Char)) (unbroken : ∀ line ∈ ended, '\n' ∉ line) :
    lines (ended.flatMap fun line => line ++ ['\n']) = ended ++ [[]] := by
  induction ended with
  | nil => rfl
  | cons line ended ih =>
    obtain ⟨first,others⟩ := List.forall_mem_cons.mp unbroken
    rw [List.flatMap_cons,List.append_assoc,List.singleton_append,lines_feed _ _ first,ih others,
      List.cons_append]

/-- Induction over a text line by line. -/
@[elab_as_elim]
theorem byLines {motive : List Char → Prop} (last : ∀ line, '\n' ∉ line → motive line)
    (ended : ∀ line rest, '\n' ∉ line → motive rest → motive (line ++ '\n' :: rest))
    (text : List Char) : motive text := by
  rw [← flatten_terminatedLines text]
  have areLines := areLines_terminatedLines text
  generalize terminatedLines text = lines at areLines ⊢
  induction areLines with
  | none => exact last [] List.not_mem_nil
  | last line _ unbroken =>
    rw [List.flatten_singleton]
    exact last line unbroken
  | ended line rest unbroken _ ih =>
    rw [List.flatten_cons,List.append_assoc,List.singleton_append]
    exact ended line rest.flatten unbroken ih

/-- Lines that are all ended are not changed by what follows them. -/
theorem terminatedLines_append (front rest : List Char) :
    terminatedLines (front ++ '\n' :: rest) =
      terminatedLines (front ++ ['\n']) ++ terminatedLines rest := by
  induction front using byLines with
  | last line unbroken =>
    rw [terminatedLines_ended line rest unbroken,terminatedLines_ended line [] unbroken]
    rfl
  | ended line front unbroken ih =>
    simp only [List.append_assoc,List.cons_append]
    rw [terminatedLines_ended line _ unbroken,terminatedLines_ended line _ unbroken,ih,
      List.cons_append]

end ParseScope.Text
