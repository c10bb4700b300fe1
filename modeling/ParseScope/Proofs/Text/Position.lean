import Mathlib.Data.Nat.SuccPred
import Mathlib.Data.Prod.Lex
import Mathlib.Data.Set.Function
import Mathlib.Order.Interval.Set.Monotone
import ParseScope.Proofs.Text.Lines
import ParseScope.Text.Position

/-!
Offsets and positions. The offsets of a text, its end among them, stand in the same order as its
positions by line and column, one for one; a line and column that are no position of the text still
have an offset in it.
-/
namespace ParseScope.Text

/-- A line of a text without its line feed, counted from 1. -/
def lineOf (text : List Char) (line : Nat) : List Char := ((lines text)[line - 1]?).getD []

/-- The position of a character of the text, or the one after the last. -/
structure Inside (text : List Char) (p : Position) : Prop where
  firstLine : 1 ≤ p.line
  lastLine : p.line ≤ 1 + text.count '\n'
  firstColumn : 1 ≤ p.column
  lastColumn : p.column ≤ 1 + (lineOf text p.line).length

/-- Positions are ordered by line, and on a line by column. -/
def Position.place (p : Position) : Nat ×ₗ Nat := toLex (p.line,p.column)

/-- Where a position of a text comes to stand when `c` is put before the text. -/
def Position.behind (c : Char) (p : Position) : Position :=
  if c = '\n' then ⟨p.line + 1,p.column⟩
  else if p.line = 1 then ⟨1,p.column + 1⟩
  else p

theorem Position.place_lt_advance (p : Position) (c : Char) : p.place < (p.advance c).place := by
  rw [place,place,Prod.Lex.toLex_lt_toLex,advance]
  split
  · exact .inl (Nat.lt_succ_self _)
  · exact .inr ⟨rfl,Nat.lt_succ_self _⟩

theorem Position.advance_behind (p : Position) (c next : Char) (counted : 1 ≤ p.line) :
    (p.behind c).advance next = (p.advance next).behind c := by
  by_cases feed : c = '\n'
  · by_cases nextFeed : next = '\n'
    · simp [behind,advance,feed,nextFeed]
    · simp [behind,advance,feed,nextFeed]
  · by_cases nextFeed : next = '\n'
    · by_cases first : p.line = 1
      · simp [behind,advance,feed,nextFeed,first]
      · simp [behind,advance,feed,nextFeed,first,Nat.ne_of_gt counted]
    · by_cases first : p.line = 1
      · simp [behind,advance,feed,nextFeed,first]
      · simp [behind,advance,feed,nextFeed,first]

theorem foldl_advance_behind (text : List Char) (c : Char) (p : Position) (counted : 1 ≤ p.line) :
    text.foldl Position.advance (p.behind c) = (text.foldl Position.advance p).behind c := by
  induction text generalizing p with
  | nil => rfl
  | cons next rest ih =>
    have still : 1 ≤ (p.advance next).line := by
      rw [Position.advance]
      split
      · exact Nat.le_add_left 1 p.line
      · exact counted
    rw [List.foldl_cons,List.foldl_cons,p.advance_behind c next counted,ih _ still]

theorem positionAt_cons (c : Char) (rest : List Char) (offset : Nat) :
    positionAt (c :: rest) (offset + 1) = (positionAt rest offset).behind c := by
  have start : (⟨1,1⟩ : Position).advance c = (⟨1,1⟩ : Position).behind c := by
    by_cases feed : c = '\n'
    · simp [Position.advance,Position.behind,feed]
    · simp [Position.advance,Position.behind,feed]
  rw [positionAt,List.take_succ_cons,List.foldl_cons,start,
    foldl_advance_behind _ c _ (Nat.le_refl 1)]
  rfl

theorem positionAt_succ (text : List Char) (offset : Nat) (inside : offset < text.length) :
    positionAt text (offset + 1) = (positionAt text offset).advance text[offset] := by
  rw [positionAt,List.take_succ_eq_append_getElem inside,List.foldl_append]
  rfl

theorem strictMonoOn_positionAt (text : List Char) :
    StrictMonoOn (fun offset => (positionAt text offset).place) (Set.Iic text.length) := by
  apply strictMonoOn_Iic_of_lt_succ
  intro offset inside
  rw [Nat.succ_eq_succ,positionAt_succ text offset inside]
  exact Position.place_lt_advance _ _

/-! ### Lines -/

theorem lineOf_feed_first (rest : List Char) : lineOf ('\n' :: rest) 1 = [] := by
  simp [lineOf,lines]

theorem lineOf_feed (rest : List Char) (line : Nat) (later : 1 ≤ line) :
    lineOf ('\n' :: rest) (line + 1) = lineOf rest line := by
  obtain ⟨line,rfl⟩ := Nat.exists_eq_succ_of_ne_zero (Nat.ne_of_gt later)
  simp [lineOf,lines]

theorem lineOf_cons_first (c : Char) (rest : List Char) (other : c ≠ '\n') :
    lineOf (c :: rest) 1 = c :: lineOf rest 1 := by
  obtain ⟨line,more,split⟩ := exists_lines rest
  simp [lineOf,lines,other,split]

theorem lineOf_cons (c : Char) (rest : List Char) (line : Nat) (other : c ≠ '\n')
    (later : 2 ≤ line) : lineOf (c :: rest) line = lineOf rest line := by
  obtain ⟨first,more,split⟩ := exists_lines rest
  obtain ⟨line,rfl⟩ := Nat.exists_eq_add_of_le' later
  simp [lineOf,lines,other,split]

theorem inside_start (text : List Char) : Inside text ⟨1,1⟩ :=
  ⟨Nat.le_refl 1,Nat.le_add_right 1 _,Nat.le_refl 1,Nat.le_add_right 1 _⟩

/-- The positions of a text are still positions when a character is put before it. -/
theorem Inside.behind {rest : List Char} {p : Position} (inside : Inside rest p) (c : Char) :
    Inside (c :: rest) (p.behind c) := by
  obtain ⟨firstLine,lastLine,firstColumn,lastColumn⟩ := inside
  rw [Position.behind]
  by_cases feed : c = '\n'
  · subst feed
    rw [if_pos rfl]
    refine ⟨Nat.le_add_left 1 _,?_,firstColumn,?_⟩
    · rw [List.count_cons_self]
      exact Nat.add_le_add_right lastLine 1
    · rwa [lineOf_feed rest p.line firstLine]
  · rw [if_neg feed]
    have breaks : (c :: rest).count '\n' = rest.count '\n' := List.count_cons_of_ne feed
    by_cases first : p.line = 1
    · rw [if_pos first]
      rw [first] at lastColumn
      refine ⟨Nat.le_refl 1,Nat.le_add_right 1 _,Nat.le_add_left 1 _,?_⟩
      rw [lineOf_cons_first c rest feed,List.length_cons]
      exact Nat.add_le_add_right lastColumn 1
    · rw [if_neg first]
      refine ⟨firstLine,breaks ▸ lastLine,firstColumn,?_⟩
      rwa [lineOf_cons c rest p.line feed (by omega)]

/-- There are no others but the first. -/
theorem Inside.eq_behind {c : Char} {rest : List Char} {p : Position}
    (inside : Inside (c :: rest) p) : p = ⟨1,1⟩ ∨ ∃ q, Inside rest q ∧ q.behind c = p := by
  obtain ⟨line,column⟩ := p
  obtain ⟨firstLine,lastLine,firstColumn,lastColumn⟩ := inside
  simp only at firstLine lastLine firstColumn lastColumn
  by_cases feed : c = '\n'
  · subst feed
    rw [List.count_cons_self] at lastLine
    by_cases first : line = 1
    · subst first
      rw [lineOf_feed_first] at lastColumn
      exact .inl (congrArg _ (Nat.le_antisymm lastColumn firstColumn))
    · obtain ⟨before,rfl⟩ := Nat.exists_eq_add_of_le' firstLine
      have counted : 1 ≤ before := by omega
      rw [lineOf_feed rest before counted] at lastColumn
      have last : before ≤ 1 + rest.count '\n' := by omega
      exact .inr ⟨⟨before,column⟩,⟨counted,last,firstColumn,lastColumn⟩,rfl⟩
  · rw [List.count_cons_of_ne feed] at lastLine
    by_cases first : line = 1
    · subst first
      rw [lineOf_cons_first c rest feed,List.length_cons] at lastColumn
      obtain ⟨before,rfl⟩ := Nat.exists_eq_add_of_le' firstColumn
      by_cases start : before = 0
      · subst start
        exact .inl rfl
      · have counted : 1 ≤ before := by omega
        have last : before ≤ 1 + (lineOf rest 1).length := by omega
        refine .inr ⟨⟨1,before⟩,⟨firstLine,Nat.le_add_right 1 _,counted,last⟩,?_⟩
        rw [Position.behind,if_neg feed,if_pos rfl]
    · rw [lineOf_cons c rest line feed (by omega)] at lastColumn
      refine .inr ⟨⟨line,column⟩,⟨firstLine,lastLine,firstColumn,lastColumn⟩,?_⟩
      rw [Position.behind,if_neg feed,if_neg first]

theorem inside_positionAt (text : List Char) (offset : Nat) :
    Inside text (positionAt text offset) := by
  induction text generalizing offset with
  | nil =>
    rw [positionAt,List.take_nil]
    exact inside_start []
  | cons c rest ih =>
    cases offset with
    | zero => exact inside_start (c :: rest)
    | succ offset =>
      rw [positionAt_cons]
      exact (ih offset).behind c

theorem exists_positionAt (text : List Char) (p : Position) (inside : Inside text p) :
    ∃ offset ≤ text.length, positionAt text offset = p := by
  induction text generalizing p with
  | nil =>
    obtain ⟨line,column⟩ := p
    obtain ⟨firstLine,lastLine,firstColumn,lastColumn⟩ := inside
    obtain rfl : line = 1 := Nat.le_antisymm lastLine firstLine
    obtain rfl : column = 1 := Nat.le_antisymm lastColumn firstColumn
    exact ⟨0,Nat.le_refl 0,rfl⟩
  | cons c rest ih =>
    rcases inside.eq_behind with rfl | ⟨q,insideRest,rfl⟩
    · exact ⟨0,Nat.zero_le _,rfl⟩
    · obtain ⟨offset,bound,rfl⟩ := ih q insideRest
      exact ⟨offset + 1,Nat.succ_le_succ bound,positionAt_cons c rest offset⟩

/-! ### Back to offsets -/

/-- Counting from the start of its line leads back to where a position stands. -/
theorem lineStart_positionAt (text : List Char) (offset : Nat) (bound : offset ≤ text.length) :
    lineStart text ((positionAt text offset).line - 1) + ((positionAt text offset).column - 1) =
      offset := by
  induction text generalizing offset with
  | nil =>
    obtain rfl : offset = 0 := Nat.le_zero.mp bound
    rfl
  | cons c rest ih =>
    cases offset with
    | zero => rfl
    | succ offset =>
      have back := ih offset (Nat.le_of_succ_le_succ bound)
      have inside := inside_positionAt rest offset
      have firstColumn := inside.firstColumn
      rw [positionAt_cons,Position.behind]
      by_cases feed : c = '\n'
      · obtain ⟨line,counted⟩ := Nat.exists_eq_add_of_le' inside.firstLine
        rw [if_pos feed]
        simp only [counted,Nat.add_sub_cancel,lineStart,feed,if_true] at back ⊢
        omega
      · rw [if_neg feed]
        by_cases first : (positionAt rest offset).line = 1
        · rw [if_pos first]
          simp only [first,Nat.sub_self,lineStart] at back ⊢
          omega
        · obtain ⟨line,later⟩ : ∃ line, (positionAt rest offset).line - 1 = line + 1 :=
            Nat.exists_eq_add_of_le' (by have := inside.firstLine; omega)
          rw [if_neg first]
          simp only [later,lineStart,feed,if_false] at back ⊢
          omega

theorem offsetOf_positionAt (text : List Char) (offset : Nat) (bound : offset ≤ text.length) :
    offsetOf text (positionAt text offset) = offset := by
  rw [offsetOf,lineStart_positionAt text offset bound]
  exact Nat.min_eq_left bound

/-- Past the last line feed there is no further line. -/
theorem lineStart_past (text : List Char) (breaks : Nat) (past : text.count '\n' < breaks) :
    lineStart text breaks = text.length := by
  fun_induction lineStart text breaks with
  | case1 => exact absurd past (Nat.not_lt_zero _)
  | case2 => rfl
  | case3 c rest breaks ih =>
    by_cases feed : c = '\n'
    · subst feed
      rw [List.count_cons_self] at past
      rw [if_pos rfl] at ih ⊢
      rw [ih (Nat.lt_of_succ_lt_succ past),List.length_cons]
    · rw [List.count_cons_of_ne feed] at past
      rw [if_neg feed] at ih ⊢
      rw [ih past,List.length_cons]

/-- A line begins at the offset whose position is its first column. -/
theorem positionAt_lineStart (text : List Char) (breaks : Nat)
    (line : breaks ≤ text.count '\n') :
    lineStart text breaks ≤ text.length ∧
      positionAt text (lineStart text breaks) = ⟨breaks + 1,1⟩ := by
  have last : breaks + 1 ≤ 1 + text.count '\n' := by omega
  have inside : Inside text ⟨breaks + 1,1⟩ :=
    ⟨Nat.le_add_left 1 _,last,Nat.le_refl 1,Nat.le_add_right 1 _⟩
  obtain ⟨offset,bound,same⟩ := exists_positionAt text _ inside
  have back := lineStart_positionAt text offset bound
  rw [same] at back
  change lineStart text breaks = offset at back
  rw [back]
  exact ⟨bound,same⟩

/-- The offsets of a text and its positions are in bijection and in the same order. Offsets past
the end stand at the end; a zero in a position reads as 1, a line past the last one is at the end,
and a column past the end of its line counts on from where the line begins, up to the end. Sums of
64 bits give the same offsets unless they overflow. -/
theorem positionAt_bijOn (text : List Char) :
    StrictMonoOn (fun offset => (positionAt text offset).place) (Set.Iic text.length) ∧
    Set.BijOn (positionAt text) (Set.Iic text.length) {p | Inside text p} ∧
    Set.InvOn (offsetOf text) (positionAt text) (Set.Iic text.length) {p | Inside text p} ∧
    (∀ offset, positionAt text offset = positionAt text (min offset text.length)) ∧
    (∀ p : Position, (1 + text.count '\n' < p.line ∧ offsetOf text p = text.length) ∨
      ∃ start ≤ text.length, positionAt text start = ⟨max p.line 1,1⟩ ∧
        offsetOf text p = min (start + (max p.column 1 - 1)) text.length) ∧
    ∀ p, overflows text p = true ∨ wrappedOffsetOf text p = offsetOf text p := by
  have ascends := strictMonoOn_positionAt text
  have injective : Set.InjOn (positionAt text) (Set.Iic text.length) := by
    intro a aBound b bBound same
    exact ascends.injOn aBound bBound (congrArg Position.place same)
  have onto : Set.SurjOn (positionAt text) (Set.Iic text.length) {p | Inside text p} := by
    intro p inside
    exact exists_positionAt text p inside
  refine ⟨ascends,⟨fun offset _ => inside_positionAt text offset,injective,onto⟩,
    ⟨offsetOf_positionAt text,?_⟩,?_,?_,?_⟩
  · intro p inside
    obtain ⟨offset,bound,rfl⟩ := onto inside
    rw [offsetOf_positionAt text offset bound]
  · intro offset
    rw [positionAt,positionAt,List.take_eq_take_min]
  · intro p
    by_cases line : p.line - 1 ≤ text.count '\n'
    · obtain ⟨bound,same⟩ := positionAt_lineStart text (p.line - 1) line
      have counted : p.line - 1 + 1 = max p.line 1 := by omega
      have columns : p.column - 1 = max p.column 1 - 1 := by omega
      exact .inr ⟨_,bound,counted ▸ same,columns ▸ rfl⟩
    · refine .inl ⟨by omega,?_⟩
      rw [offsetOf,lineStart_past text _ (Nat.lt_of_not_le line)]
      exact Nat.min_eq_right (Nat.le_add_right _ _)
  · intro p
    cases fits : overflows text p with
    | true => exact .inl rfl
    | false => exact .inr (wrappedOffsetOf_eq text p fits)

end ParseScope.Text
