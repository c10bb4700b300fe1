import ParseScope.Command.Underline
import ParseScope.Proofs.Text.Around

/-!
Underlined lines. Carets stand under exactly the characters of the line that a span covers, and
under one place when the span begins behind what is shown of its line.
-/
namespace ParseScope.Command

open Text

/-- A line with its number and the marks under it. -/
structure Excerpt where
  number : Nat
  source : List Char
  marks : List Char

/-- Both lines stand behind margins of the same width. -/
def Excerpt.print (excerpt : Excerpt) : List Char :=
  let digits := (toString excerpt.number).toList
  let bar := [' ', '|', ' ']
  digits ++ bar ++ excerpt.source ++ ['\n'] ++
    (List.replicate digits.length ' ' ++ bar ++ excerpt.marks ++ ['\n'])

def carets (column width : Nat) : List Char :=
  List.replicate column ' ' ++ List.replicate width '^'

/-- The line ends where it is shown to end, or with a carriage return that is not shown. -/
inductive Shown (source : List Char) : List Char → Prop
  | all (last : source.getLast? ≠ some '\r') : Shown source source
  | butReturn : Shown source (source ++ ['\r'])

/-- The carets under a line, from `column` on, are those for a span of the text. -/
structure Covers (text : List Char) (span : Span) (column : Nat) (source : List Char)
    (width : Nat) : Prop where
  caret_iff : column < source.length → ∀ k, (carets column width)[k]? = some '^' ↔
    column ≤ k ∧ k < source.length ∧
      span.first ≤ span.first - column + k ∧ span.first - column + k ≤ span.last
  source_eq : column < source.length → ∀ k < source.length,
    source[k]? = text[span.first - column + k]?
  single : source.length ≤ column → width = 1
  behind_iff : source.length ≤ column ↔ text.length ≤ span.first ∨
    text[span.first]? = some '\n' ∨ text[span.first]? = some '\r' ∧
      (text[span.first + 1]? = some '\n' ∨ text[span.first + 1]? = none)

theorem shown_dropFinalReturn (line : List Char) : Shown (dropFinalReturn line) line := by
  rw [dropFinalReturn]
  split
  · next last =>
    obtain ⟨front,rfl⟩ := List.getLast?_eq_some_iff.mp last
    rw [List.dropLast_concat]
    exact .butReturn
  · next last => exact .all last

theorem Shown.length_le {source line : List Char} (shown : Shown source line) :
    source.length ≤ line.length := by
  cases shown with
  | all => exact Nat.le_refl _
  | butReturn => simp

theorem Shown.getElem? {source part : List Char} (shown : Shown source part) (k : Nat)
    (inside : k < source.length) : source[k]? = part[k]? := by
  cases shown with
  | all => rfl
  | butReturn => rw [List.getElem?_append_left inside]

theorem getElem?_carets (column width k : Nat) :
    (carets column width)[k]? = some '^' ↔ column ≤ k ∧ k < column + width := by
  rw [carets,List.getElem?_append,List.length_replicate]
  split
  · next before =>
    rw [List.getElem?_replicate_of_lt before]
    simp [Nat.not_le_of_lt before]
  · next behind =>
    simp only [List.getElem?_replicate,Option.ite_none_right_eq_some,and_true]
    omega

theorem underline_eq_print (text : List Char) (span : Span)
    (fits : span.last - span.first < 2 ^ 64 - 1) :
    underline text span = Excerpt.print ⟨(positionAt text span.first).line,
      lineAt text (positionAt text span.first).line,
      carets ((positionAt text span.first).column - 1) (min (span.last - span.first + 1)
        (max ((lineAt text (positionAt text span.first).line).length -
          ((positionAt text span.first).column - 1)) 1))⟩ := by
  have length : (span.last - span.first + 1) % UInt64.size = span.last - span.first + 1 :=
    Nat.mod_eq_of_lt (Nat.add_lt_of_lt_sub fits)
  simp [underline,Excerpt.print,carets,length]

section Covers

variable {text before line after source : List Char} {span : Span}
  (around : LineAround text (min span.first text.length) before line after)
  (shown : Shown source line)

include around shown

/-- A span that begins on what is shown of its line begins inside the text. -/
theorem first_eq_of_inside
    (inside : min span.first text.length - before.length < source.length) :
    span.first = before.length + (min span.first text.length - before.length) := by
  have length := around.length
  have part := shown.length_le
  have begins := around.first_le
  omega

theorem getElem?_source (k : Nat) (inside : k < source.length) :
    text[before.length + k]? = source[k]? := by
  rw [shown.getElem? k inside,around.getElem?_line k (Nat.lt_of_lt_of_le inside shown.length_le)]

/-- What is not shown of a line that goes on behind `source` is its terminator. -/
theorem terminator_of_behind (past : span.first < text.length)
    (behind : source.length ≤ min span.first text.length - before.length) :
    text[span.first]? = some '\n' ∨ text[span.first]? = some '\r' ∧
      (text[span.first + 1]? = some '\n' ∨ text[span.first + 1]? = none) := by
  have length := around.length
  have begins := around.first_le
  have ends := around.le_last
  have last := around.getElem?_end
  rw [Nat.min_eq_left (Nat.le_of_lt past)] at *
  -- At the end of the line stands a line feed, unless the text ends there.
  have feed (atEnd : span.first = before.length + line.length) : text[span.first]? = some '\n' := by
    rcases around.ends with none | feed
    · rw [none,List.length_nil] at length
      omega
    · rw [atEnd,last,feed]
  cases shown with
  | all => exact .inl (feed (by omega))
  | butReturn =>
    rw [List.length_append,List.length_singleton] at *
    by_cases atEnd : span.first = before.length + (source.length + 1)
    · exact .inl (feed atEnd)
    · have here : span.first = before.length + source.length := by omega
      have found := around.getElem?_line source.length (by simp)
      rw [List.getElem?_append_right (Nat.le_refl _),Nat.sub_self] at found
      rw [here,Nat.add_assoc,last]
      refine .inr ⟨found,?_⟩
      rcases around.ends with none | feed
      · exact .inr (none ▸ rfl)
      · exact .inl feed

/-- What is shown of a line is not its terminator. -/
theorem not_terminator_of_inside (k : Nat) (inside : k < source.length) :
    text[before.length + k]? ≠ some '\n' ∧ (text[before.length + k]? = some '\r' →
      ∃ c, text[before.length + k + 1]? = some c ∧ c ≠ '\n') := by
  have onLine := Nat.lt_of_lt_of_le inside shown.length_le
  obtain ⟨c,found,other⟩ := around.exists_ne_feed k onLine
  refine ⟨fun feed => other (Option.some.inj (found.symm.trans feed)),fun back => ?_⟩
  apply around.exists_ne_feed (k + 1)
  cases shown with
  | all notReturn =>
    -- The carriage return is not the last of the line.
    rcases Nat.lt_or_eq_of_le (Nat.succ_le_of_lt inside) with next | last
    · exact next
    · rw [around.getElem?_line k inside] at back
      rw [List.getLast?_eq_getElem?,← last,Nat.succ_sub_one] at notReturn
      exact absurd back notReturn
  | butReturn =>
    rw [List.length_append,List.length_singleton]
    exact Nat.succ_lt_succ inside

/-- A span begins behind what is shown of its line when it begins at a terminator, or at the end of
the text or past it. -/
theorem behind_iff :
    source.length ≤ min span.first text.length - before.length ↔ text.length ≤ span.first ∨
      text[span.first]? = some '\n' ∨ text[span.first]? = some '\r' ∧
        (text[span.first + 1]? = some '\n' ∨ text[span.first + 1]? = none) := by
  constructor
  · intro behind
    rcases Nat.lt_or_ge span.first text.length with past | past
    · exact .inr (terminator_of_behind around shown past behind)
    · exact .inl past
  · intro stands
    by_contra inside
    have inside := Nat.lt_of_not_le inside
    have start := first_eq_of_inside around shown inside
    have length := around.length
    have part := shown.length_le
    obtain ⟨notFeed,next⟩ := not_terminator_of_inside around shown _ inside
    rw [← start] at notFeed next
    rcases stands with past | feed | ⟨back,after⟩
    · omega
    · exact notFeed feed
    · obtain ⟨c,found,other⟩ := next back
      rw [found] at after
      rcases after with feed | none
      · exact other (Option.some.inj feed)
      · exact Option.some_ne_none c none

/-- The carets under what is shown of a line stand under what the span covers of it. -/
theorem covers_carets (ordered : span.first ≤ span.last) :
    Covers text span (min span.first text.length - before.length) source
      (min (span.last - span.first + 1)
        (max (source.length - (min span.first text.length - before.length)) 1)) := by
  have first := first_eq_of_inside around shown
  have behind := behind_iff around shown
  have same := getElem?_source around shown
  generalize min span.first text.length - before.length = column at *
  refine ⟨?_,?_,?_,behind⟩
  · intro inside k
    have start := first inside
    rw [getElem?_carets]
    omega
  · intro inside k kInside
    rw [← same k kInside,first inside,Nat.add_sub_cancel]
  · intro outside
    omega

end Covers

/-- What is printed for a span of a text: the line on which it begins, behind its number and without
its terminator, and under it carets where the span covers it. The last line of a text is shown
without a carriage return at its end as well. The length of the span must fit 64 bits. -/
theorem underline_marks_covered (text : List Char) (span : Span) (ordered : span.first ≤ span.last)
    (fits : span.last - span.first < 2 ^ 64 - 1) :
    let p := positionAt text span.first
    ∃ before line after source width,
      LineAround text (min span.first text.length) before line after ∧ Shown source line ∧
      p.line = 1 + before.count '\n' ∧ p.column - 1 = min span.first text.length - before.length ∧
      underline text span = Excerpt.print ⟨p.line, source, carets (p.column - 1) width⟩ ∧
      Covers text span (p.column - 1) source width := by
  have clamped : positionAt text span.first = positionAt text (min span.first text.length) := by
    rw [positionAt,positionAt,List.take_eq_take_min]
  obtain ⟨before,after,around,number,column⟩ :=
    exists_lineAround text (min span.first text.length) (Nat.min_le_right _ _)
  rw [← clamped] at around number column
  have shown := shown_dropFinalReturn (lineOf text (positionAt text span.first).line)
  have covers := covers_carets around shown ordered
  have place : (positionAt text span.first).column - 1 =
      min span.first text.length - before.length := by
    rw [column,Nat.add_sub_cancel_left]
  rw [← place] at covers
  exact ⟨before,_,after,_,_,around,shown,number,place,underline_eq_print text span fits,
    covers⟩

/-- Three lines, the second of which is to be underlined from its second character on. -/
def threeLines : List Char := ['a','b','\r','\n','c','d','\r','\n','e','f']

theorem threeLines_underlined : ∃ before line after source width,
    LineAround threeLines 5 before line after ∧ Shown source line ∧
    underline threeLines ⟨5,9⟩ = Excerpt.print ⟨2,source,carets 1 width⟩ ∧
    Covers threeLines ⟨5,9⟩ 1 source width ∧
    underline threeLines ⟨5,9⟩ = Excerpt.print ⟨2,['c','d'],carets 1 1⟩ := by
  obtain ⟨before,line,after,source,width,around,shown,_,_,printed,covers⟩ :=
    underline_marks_covered threeLines ⟨5,9⟩ (by decide) (by decide)
  exact ⟨before,line,after,source,width,around,shown,printed,covers,by rfl⟩

/-- A carriage return at the end of a text is not shown, although no line feed follows it. -/
theorem underline_hides_last_return : LineAround ['a','\r'] 0 [] ['a','\r'] [] ∧
    ∀ width, underline ['a','\r'] ⟨0,1⟩ ≠ Excerpt.print ⟨1,['a','\r'],carets 0 width⟩ := by
  refine ⟨⟨rfl,.inl rfl,by decide,.inl rfl,by decide,by decide⟩,fun width same => ?_⟩
  have printed : underline ['a','\r'] ⟨0,1⟩ = Excerpt.print ⟨1,['a'],carets 0 1⟩ := rfl
  rw [printed] at same
  have returns := congrArg (List.count '\r') same
  have unmarked (width : Nat) : (carets 0 width).count '\r' = 0 := by
    simp [carets,List.count_replicate]
  simp [Excerpt.print,unmarked] at returns

end ParseScope.Command
