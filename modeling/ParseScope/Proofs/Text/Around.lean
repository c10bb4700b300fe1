import ParseScope.Proofs.Text.Position

/-!
The line around an offset, as a part of the text. Its number is that of the line feeds before it,
and the column of the offset counts from where it begins.
-/
namespace ParseScope.Text

/-- The text is cut around the line on which the offset stands; the line feed that ends it, if one
does, comes first in `after`. An offset behind the last character of a line is still on it. -/
structure LineAround (text : List Char) (offset : Nat) (before line after : List Char) : Prop where
  whole : before ++ (line ++ after) = text
  begins : before = [] ∨ before.getLast? = some '\n'
  unbroken : '\n' ∉ line
  ends : after = [] ∨ after.head? = some '\n'
  first_le : before.length ≤ offset
  le_last : offset ≤ before.length + line.length

section LineAround

variable {text before part after : List Char} {offset : Nat}
  (around : LineAround text offset before part after)

include around

theorem LineAround.getElem?_line (k : Nat) (inside : k < part.length) :
    text[before.length + k]? = part[k]? := by
  rw [← around.whole,List.getElem?_append_right (Nat.le_add_right _ _),Nat.add_sub_cancel_left,
    List.getElem?_append_left inside]

theorem LineAround.getElem?_end : text[before.length + part.length]? = after.head? := by
  rw [← around.whole,List.getElem?_append_right (Nat.le_add_right _ _),Nat.add_sub_cancel_left,
    List.getElem?_append_right (Nat.le_refl _),Nat.sub_self,List.head?_eq_getElem?]

theorem LineAround.exists_ne_feed (k : Nat) (inside : k < part.length) :
    ∃ c, text[before.length + k]? = some c ∧ c ≠ '\n' := by
  refine ⟨part[k],?_,fun feed => around.unbroken (feed ▸ List.getElem_mem inside)⟩
  rw [around.getElem?_line k inside,List.getElem?_eq_getElem inside]

/-- A line behind others comes after a line feed. -/
theorem LineAround.feed_before (later : before ≠ []) : text[before.length - 1]? = some '\n' := by
  have inside : before.length - 1 < before.length := Nat.sub_one_lt (mt List.length_eq_zero_iff.mp later)
  rw [← around.whole,List.getElem?_append_left inside,← List.getLast?_eq_getElem?]
  exact around.begins.resolve_left later

theorem LineAround.length : text.length = before.length + part.length + after.length := by
  rw [← around.whole,List.length_append,List.length_append,Nat.add_assoc]

end LineAround

theorem foldl_advance_unbroken (line : List Char) (unbroken : '\n' ∉ line) (p : Position) :
    line.foldl Position.advance p = ⟨p.line,p.column + line.length⟩ := by
  induction line generalizing p with
  | nil => rfl
  | cons c line ih =>
    obtain ⟨other,unbroken⟩ := List.ne_and_not_mem_of_not_mem_cons unbroken
    rw [List.foldl_cons,ih unbroken,Position.advance,if_neg (Ne.symm other),List.length_cons]
    simp only [Position.mk.injEq,true_and]
    omega

/-- On the first line the column counts the characters passed. -/
theorem positionAt_within (line rest : List Char) (unbroken : '\n' ∉ line) (offset : Nat)
    (inside : offset ≤ line.length) : positionAt (line ++ rest) offset = ⟨1,1 + offset⟩ := by
  rw [positionAt,List.take_append_of_le_length inside,
    foldl_advance_unbroken _ (mt List.mem_of_mem_take unbroken),List.length_take,
    Nat.min_eq_left inside]

/-- Behind the first line feed the lines are counted anew. -/
theorem positionAt_feed (line rest : List Char) (unbroken : '\n' ∉ line) (offset : Nat) :
    positionAt (line ++ '\n' :: rest) (line.length + 1 + offset) =
      ⟨(positionAt rest offset).line + 1,(positionAt rest offset).column⟩ := by
  have passed : (line ++ '\n' :: rest).take (line.length + 1 + offset) =
      line ++ '\n' :: rest.take offset := by
    rw [Nat.add_assoc,List.take_length_add_append,Nat.add_comm 1,List.take_succ_cons]
  rw [positionAt,passed,List.foldl_append,foldl_advance_unbroken line unbroken,List.foldl_cons]
  exact foldl_advance_behind (rest.take offset) '\n' ⟨1,1⟩ (Nat.le_refl 1)

theorem lineOf_first (line rest : List Char) (unbroken : '\n' ∉ line) :
    lineOf (line ++ '\n' :: rest) 1 = line := by
  simp [lineOf,lines_feed line rest unbroken]

theorem lineOf_behind (line rest : List Char) (unbroken : '\n' ∉ line) (number : Nat)
    (counted : 1 ≤ number) : lineOf (line ++ '\n' :: rest) (number + 1) = lineOf rest number := by
  obtain ⟨number,rfl⟩ := Nat.exists_eq_add_of_le' counted
  simp [lineOf,lines_feed line rest unbroken]

/-- A line stays a line when others are put before it. -/
theorem LineAround.behind {rest before line after : List Char} {offset : Nat}
    (around : LineAround rest offset before line after) (front : List Char) :
    LineAround (front ++ '\n' :: rest) (front.length + 1 + offset) (front ++ '\n' :: before) line
      after := by
  obtain ⟨whole,begins,unbroken,ends,first_le,le_last⟩ := around
  have length : (front ++ '\n' :: before).length = front.length + 1 + before.length := by
    rw [List.length_append,List.length_cons]
    omega
  refine ⟨?_,?_,unbroken,ends,?_,?_⟩
  · rw [List.append_assoc,List.cons_append,whole]
  · rcases begins with rfl | feed
    · simp
    · simp [List.getLast?_append,List.getLast?_cons,feed]
  · omega
  · omega

/-- Every offset of a text is on one of its lines, which the number of its position finds. -/
theorem exists_lineAround (text : List Char) (offset : Nat) (inside : offset ≤ text.length) :
    ∃ before after, LineAround text offset before (lineOf text (positionAt text offset).line) after ∧
      (positionAt text offset).line = 1 + before.count '\n' ∧
      (positionAt text offset).column = 1 + (offset - before.length) := by
  induction text using byLines generalizing offset with
  | last line unbroken =>
    have position := positionAt_within line [] unbroken offset inside
    rw [List.append_nil] at position
    have shown : lineOf line 1 = line := by simp [lineOf,lines_unbroken line unbroken]
    rw [position,shown]
    exact ⟨[],[],⟨by simp,.inl rfl,unbroken,.inl rfl,Nat.zero_le _,by simpa using inside⟩,rfl,rfl⟩
  | ended line rest unbroken ih =>
    by_cases first : offset ≤ line.length
    · rw [positionAt_within line ('\n' :: rest) unbroken offset first,
        lineOf_first line rest unbroken]
      exact ⟨[],'\n' :: rest,⟨rfl,.inl rfl,unbroken,.inr rfl,Nat.zero_le _,by simpa using first⟩,
        rfl,rfl⟩
    · obtain ⟨later,rfl⟩ := Nat.exists_eq_add_of_le (Nat.lt_of_not_le first)
      rw [List.length_append,List.length_cons] at inside
      obtain ⟨before,after,around,number,column⟩ := ih later (by omega)
      rw [Nat.succ_eq_add_one,positionAt_feed line rest unbroken later,
        lineOf_behind line rest unbroken _ (inside_positionAt rest later).firstLine]
      refine ⟨line ++ '\n' :: before,after,around.behind line,?_,?_⟩
      · simp only [List.count_append,List.count_eq_zero_of_not_mem unbroken,List.count_cons_self,
          number]
        omega
      · simp only [List.length_append,List.length_cons,column]
        omega

/-- One character back is the same line, unless the line begins at the offset. -/
theorem LineAround.line_pred {text before line after : List Char} {offset : Nat}
    (around : LineAround text offset before line after) (inside : offset ≤ text.length)
    (number : (positionAt text offset).line = 1 + before.count '\n') :
    (before ≠ [] ∧ before.length = offset →
      (positionAt text (offset - 1)).line + 1 = 1 + before.count '\n') ∧
    (¬ (before ≠ [] ∧ before.length = offset) →
      (positionAt text (offset - 1)).line = 1 + before.count '\n') := by
  have begins := around.first_le
  cases offset with
  | zero =>
    obtain rfl : before = [] := List.length_eq_zero_iff.mp (Nat.le_zero.mp begins)
    exact ⟨fun later => absurd rfl later.1,fun _ => number⟩
  | succ offset =>
    rw [positionAt_succ text offset inside,Position.advance] at number
    rw [Nat.add_sub_cancel]
    constructor
    · rintro ⟨later,first⟩
      have feed := around.feed_before later
      rw [first,Nat.add_sub_cancel,List.getElem?_eq_getElem inside] at feed
      rwa [if_pos (Option.some.inj feed)] at number
    · intro behind
      have within : before.length ≤ offset := by
        by_contra above
        have first : before.length = offset + 1 := by omega
        exact behind ⟨List.ne_nil_of_length_eq_add_one first,first⟩
      have last := around.le_last
      obtain ⟨c,stands,other⟩ := around.exists_ne_feed (offset - before.length) (by omega)
      rw [Nat.add_sub_cancel' within,List.getElem?_eq_getElem inside] at stands
      rwa [Option.some.inj stands,if_neg other] at number

end ParseScope.Text
