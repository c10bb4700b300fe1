import Mathlib.Data.List.TakeWhile
import ParseScope.Grammar.Patterns
import ParseScope.Proofs.Grammar.Definition

/-!
Where a text defines a rule. A definition is the indentation of a line, the name, and a `=` behind
blanks; a name that holds blanks or line feeds itself may have several on one line. The search finds
the earliest line, and on it the latest place.
-/
namespace ParseScope.Grammar

open Text (isBlank)

/-- A line begins at the offset: it is 0 or comes right after a line feed. -/
def LineBegins (text : List Char) : Nat → Prop
  | 0 => True
  | before + 1 => text[before]? = some '\n'

/-- The text begins with a definition of the name behind `blanks` spaces and tabs: the name is
there letter by letter, and after it only spaces and tabs stand before `=`. -/
def DefinesAfter (blanks : Nat) (name text : List Char) : Prop :=
  ∃ indent gap after, text = indent ++ (name ++ (gap ++ '=' :: after)) ∧ indent.length = blanks ∧
    (∀ c ∈ indent, isBlank c = true) ∧ ∀ c ∈ gap, isBlank c = true

/-- On the line that begins at `line` the text defines the name, which stands at `first`. -/
structure DefinesAt (text name : List Char) (line first : Nat) : Prop where
  lineBegins : LineBegins text line
  defines : ∃ blanks, first = line + blanks ∧ DefinesAfter blanks name (text.drop line)

/-- Of the places where the name is defined on a line that begins at `start` or later, this one is
on the earliest line, and there it is the latest. -/
structure FirstFrom (start : Nat) (text name : List Char) (line first : Nat) : Prop where
  defines : DefinesAt text name line first
  inside : start ≤ line
  before : ∀ otherLine other, start ≤ otherLine → DefinesAt text name otherLine other →
    line < otherLine ∨ line = otherLine ∧ other ≤ first

theorem FirstFrom.unique {start line first otherLine other : Nat} {text name : List Char}
    (this : FirstFrom start text name line first)
    (that : FirstFrom start text name otherLine other) : first = other := by
  have behind := this.before otherLine other that.inside that.defines
  have ahead := that.before line first this.inside this.defines
  omega

theorem DefinesAfter.drop {blanks : Nat} {name text : List Char}
    (defines : DefinesAfter blanks name text) :
    ∃ gap after, text.drop blanks = name ++ (gap ++ '=' :: after) ∧
      ∀ c ∈ gap, isBlank c = true := by
  obtain ⟨indent,gap,after,rfl,rfl,_,blank⟩ := defines
  exact ⟨gap,after,List.drop_left,blank⟩

/-- The name stands at its place. -/
theorem DefinesAt.slice {text name : List Char} {line first : Nat}
    (defines : DefinesAt text name line first) :
    Text.slice text first (first + name.length) = name := by
  obtain ⟨_,blanks,rfl,defines⟩ := defines
  obtain ⟨gap,after,split,_⟩ := defines.drop
  rw [Text.slice_eq_take_drop,← List.drop_drop,split,Nat.add_sub_cancel_left,List.take_left]

/-! ### At one line -/

theorem definesNext_iff (text : List Char) : definesNext text = true ↔
    ∃ gap after, text = gap ++ '=' :: after ∧ ∀ c ∈ gap, isBlank c = true := by
  rw [definesNext,decide_eq_true_eq]
  constructor
  · intro head
    obtain ⟨after,rest⟩ := List.head?_eq_some_iff.mp head
    refine ⟨text.takeWhile isBlank,after,?_,fun c member => List.mem_takeWhile_imp member⟩
    rw [← rest,List.takeWhile_append_dropWhile]
  · rintro ⟨gap,after,rfl,blank⟩
    rw [List.dropWhile_append_of_pos blank]
    rfl

theorem beginsDefinition_iff (rule text : List Char) : beginsDefinition rule text = true ↔
    ∃ gap after, text = rule ++ (gap ++ '=' :: after) ∧ ∀ c ∈ gap, isBlank c = true := by
  rw [beginsDefinition,Bool.and_eq_true,List.isPrefixOf_iff_prefix,definesNext_iff]
  constructor
  · rintro ⟨⟨rest,rfl⟩,gap,after,split,blank⟩
    rw [List.drop_left] at split
    exact ⟨gap,after,congrArg (rule ++ ·) split,blank⟩
  · rintro ⟨gap,after,rfl,blank⟩
    exact ⟨List.prefix_append _ _,gap,after,List.drop_left,blank⟩

/-- Of the blanks at the head of the text, any number may be the indentation. -/
theorem definesAfter_iff (blanks : Nat) (rule text : List Char) : DefinesAfter blanks rule text ↔
    blanks ≤ (text.takeWhile isBlank).length ∧ beginsDefinition rule (text.drop blanks) = true := by
  rw [beginsDefinition_iff]
  constructor
  · intro defines
    refine ⟨?_,defines.drop⟩
    obtain ⟨indent,gap,after,rfl,rfl,blank,_⟩ := defines
    rw [List.takeWhile_append_of_pos blank,List.length_append]
    exact Nat.le_add_right _ _
  · rintro ⟨bound,gap,after,split,blank⟩
    have whole := List.takeWhile_append_dropWhile (p := isBlank) (l := text)
    have indent : text.take blanks = (text.takeWhile isBlank).take blanks :=
      (congrArg (List.take blanks) whole).symm.trans (List.take_append_of_le_length bound)
    refine ⟨text.take blanks,gap,after,?_,?_,?_,blank⟩
    · rw [← split,List.take_append_drop]
    · rw [indent,List.length_take,Nat.min_eq_left bound]
    · intro c member
      rw [indent] at member
      exact List.mem_takeWhile_imp (List.mem_of_mem_take member)

theorem indentOf?_eq_none (rule text : List Char) (most : Nat)
    (none : indentOf? rule text most = none) :
    ∀ blanks ≤ most, beginsDefinition rule (text.drop blanks) ≠ true := by
  induction most with
  | zero =>
    intro blanks bound
    obtain rfl := Nat.le_zero.mp bound
    simpa [indentOf?] using none
  | succ most ih =>
    rw [indentOf?] at none
    split at none
    · exact absurd none (Option.some_ne_none _)
    · next fails =>
      intro blanks bound
      rcases Nat.le_or_eq_of_le_succ bound with less | rfl
      · exact ih none blanks less
      · exact fails

/-- A line that begins here defines the rule behind as many blanks as it can. -/
theorem definitionAt?_eq_some (rule text : List Char) (blanks : Nat)
    (found : definitionAt? rule text = some blanks) :
    DefinesAfter blanks rule text ∧ ∀ more, DefinesAfter more rule text → more ≤ blanks := by
  obtain ⟨bound,begins,greatest⟩ := indentOf?_eq_some rule text _ blanks found
  refine ⟨(definesAfter_iff blanks rule text).mpr ⟨bound,begins⟩,fun more defines => ?_⟩
  obtain ⟨moreBound,others⟩ := (definesAfter_iff more rule text).mp defines
  exact greatest more moreBound others

theorem definitionAt?_eq_none (rule text : List Char) (none : definitionAt? rule text = none)
    (blanks : Nat) : ¬ DefinesAfter blanks rule text := by
  intro defines
  obtain ⟨bound,begins⟩ := (definesAfter_iff blanks rule text).mp defines
  exact indentOf?_eq_none rule text _ none blanks bound begins

/-! ### In the whole text -/

theorem lineBegins_succ (text : List Char) (offset : Nat) (c : Char) (rest : List Char)
    (remaining : text.drop offset = c :: rest) : LineBegins text (offset + 1) ↔ c = '\n' := by
  have here : text[offset]? = some c := by
    rw [← Nat.add_zero offset,← List.getElem?_drop,remaining]
    rfl
  rw [LineBegins,here,Option.some_inj]

/-- What a search from `start` on tells: the first place, or that there is none. -/
def Searched (start : Nat) (text name : List Char) : Option Nat → Prop
  | some first => ∃ line, FirstFrom start text name line first
  | none => ∀ line first, start ≤ line → ¬ DefinesAt text name line first

/-- A line that does not define the name is passed by. -/
theorem Searched.pass {start : Nat} {text name : List Char} {result : Option Nat}
    (searched : Searched (start + 1) text name result)
    (undefined : ∀ first, ¬ DefinesAt text name start first) : Searched start text name result := by
  have later {line first : Nat} (inside : start ≤ line) (defines : DefinesAt text name line first) :
      start + 1 ≤ line := by
    rcases Nat.eq_or_lt_of_le inside with rfl | less
    · exact absurd defines (undefined first)
    · exact less
  cases result with
  | some first =>
    obtain ⟨line,defines,inside,before⟩ := searched
    refine ⟨line,defines,Nat.le_of_succ_le inside,fun otherLine other otherInside others => ?_⟩
    exact before otherLine other (later otherInside others) others
  | none =>
    intro line first inside defines
    exact searched line first (later inside defines) defines

theorem searched_findFrom? (rule text rest : List Char) (start : Nat)
    (remaining : text.drop start = rest) (lineBegins : Bool)
    (here : lineBegins = true ↔ LineBegins text start) :
    Searched start text rule (findFrom? rule start lineBegins rest) := by
  induction rest generalizing start lineBegins with
  | nil =>
    -- At the end of the text there is no room for the `=`.
    rintro line first inside ⟨_,blanks,_,indent,gap,after,pieces,_⟩
    have past : text.drop line = [] :=
      List.drop_eq_nil_of_le (Nat.le_trans (List.drop_eq_nil_iff.mp remaining) inside)
    simp [past] at pieces
  | cons c rest ih =>
    rw [findFrom?]
    split
    · next blanks found =>
      obtain ⟨begins,found⟩ := Option.ite_none_right_eq_some.mp found
      rw [← remaining] at found
      obtain ⟨defines,greatest⟩ := definitionAt?_eq_some rule _ blanks found
      refine ⟨start,⟨here.mp begins,blanks,rfl,defines⟩,Nat.le_refl start,?_⟩
      intro otherLine other inside others
      -- Any other place is on this line, behind fewer blanks, or on a later one.
      rcases Nat.eq_or_lt_of_le inside with rfl | less
      · obtain ⟨_,more,rfl,others⟩ := others
        exact .inr ⟨rfl,Nat.add_le_add_left (greatest more others) start⟩
      · exact .inl less
    · next missing =>
      have rests : text.drop (start + 1) = rest := by
        rw [← List.drop_drop,remaining]
        rfl
      have breaks : decide (c = '\n') = true ↔ LineBegins text (start + 1) :=
        decide_eq_true_iff.trans (lineBegins_succ text start c rest remaining).symm
      refine (ih (start + 1) rests _ breaks).pass ?_
      rintro first ⟨begins,blanks,_,defines⟩
      rw [if_pos (here.mpr begins)] at missing
      rw [remaining] at defines
      exact definitionAt?_eq_none rule _ missing blanks defines

/-- A rule whose pattern compiles is found exactly when some line defines it. Its name is then
marked where it stands in the first definition: on the earliest of these lines, behind as much
indentation as possible. -/
theorem find?_first_place [Patterns] (grammar rule : String) (named : rule ≠ "")
    (compiles : Patterns.compiles rule = true) :
    ((find? grammar rule).isSome = true ↔
      ∃ line first, DefinesAt grammar.toList rule.toList line first) ∧
    ∀ span, find? grammar rule = some span ↔ ∃ line first,
      FirstFrom 0 grammar.toList rule.toList line first ∧
      span = ⟨first,first + rule.length - 1⟩ ∧
      Text.slice grammar.toList span.first (span.last + 1) = rule.toList := by
  have searched := searched_findFrom? rule.toList grammar.toList grammar.toList 0 rfl true
    (iff_of_true rfl trivial)
  rw [find?_eq_search? grammar rule named compiles,search?,String.length_toList]
  cases found : findFrom? rule.toList 0 true grammar.toList with
  | none =>
    rw [found] at searched
    have undefined (line first : Nat) : ¬ DefinesAt grammar.toList rule.toList line first :=
      searched line first (Nat.zero_le line)
    refine ⟨by simp [undefined],fun span => iff_of_false (Option.some_ne_none span).symm ?_⟩
    rintro ⟨line,first,isFirst,_⟩
    exact undefined line first isFirst.defines
  | some first =>
    rw [found] at searched
    obtain ⟨line,isFirst⟩ := searched
    have positive : 0 < rule.length := Nat.pos_of_ne_zero (mt String.length_eq_zero_iff.mp named)
    have last : first + rule.length - 1 + 1 = first + rule.length := by omega
    have holds := isFirst.defines.slice
    rw [String.length_toList] at holds
    refine ⟨iff_of_true rfl ⟨line,first,isFirst.defines⟩,fun span => ?_⟩
    rw [Option.map_some,Option.some_inj]
    constructor
    · rintro rfl
      exact ⟨line,first,isFirst,rfl,last ▸ holds⟩
    · rintro ⟨_,other,others,rfl,_⟩
      rw [isFirst.unique others]

/-- A name of two blanks could stand at three places on the second line; a name may hold a line feed
and mean its dots literally. -/
theorem find?_first_place_blanks :
    (find? "é\n\t    = 1" "  " = some ⟨5,6⟩ ∧
      ∃ line, FirstFrom 0 "é\n\t    = 1".toList [' ',' '] line 5) ∧
    ∃ line first, DefinesAt "=\n .\n. =".toList ['.','\n','.'] line first := by
  have blanks := find?_first_place "é\n\t    = 1" "  " (by decide) (by decide)
  have dots := find?_first_place "=\n .\n. =" ".\n." (by decide) (by decide)
  have found : find? "é\n\t    = 1" "  " = some ⟨5,6⟩ := by decide
  obtain ⟨line,first,isFirst,span,_⟩ := (blanks.2 _).mp found
  obtain rfl : 5 = first := congrArg Span.first span
  exact ⟨⟨found,line,isFirst⟩,dots.1.mp (by decide)⟩

end ParseScope.Grammar
