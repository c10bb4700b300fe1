import Mathlib.Data.List.TakeWhile
import ParseScope.Proofs.Location

/-!
The spans of locations. What stands at a position decides how far it widens; the span of a location
holds the position that its cause is about, and stays in the input when the trace does.
-/
namespace ParseScope

/-- The position that a cause is about. -/
def Cause.position : Cause → Nat
  | trailingInput matched => matched
  | failedRule _ _ stop => stop

namespace Location

/-- A line feed or a carriage return stands at the offset. -/
def BreakAt (text : List Char) (offset : Nat) : Prop :=
  text[offset]? = some '\n' ∨ text[offset]? = some '\r'

/-- A character of a token stands at the offset. -/
def TokenAt (text : List Char) (offset : Nat) : Prop :=
  ∃ c, text[offset]? = some c ∧ Text.isTokenPart c = true

/-- Characters of a token from `first` up to `last`, behind which the token does not go on. -/
structure Run (text : List Char) (first last : Nat) : Prop where
  ordered : first ≤ last
  token : ∀ offset, first ≤ offset → offset ≤ last → TokenAt text offset
  stops : last + 1 = text.length ∨ ∃ c, text[last + 1]? = some c ∧ Text.isTokenPart c = false

/-- How a position widens, by what stands there. -/
inductive Widens (text : List Char) (position : Nat) : Span → Prop
  | outside (past : text.length ≤ position) : Widens text position ⟨position, position⟩
  | lineBreak (breaks : BreakAt text position) :
      Widens text position ⟨position - 1, min text.length (position + 1)⟩
  | alone (inside : position < text.length) (noBreak : ¬ BreakAt text position)
      (noToken : ¬ TokenAt text position) : Widens text position ⟨position, position⟩
  | token (last : Nat) (run : Run text position last) : Widens text position ⟨position, last⟩

/-! ### Runs -/

theorem BreakAt.lt {text : List Char} {offset : Nat} (breaks : BreakAt text offset) :
    offset < text.length := by
  rcases breaks with feed | back
  · exact (List.getElem?_eq_some_iff.mp feed).1
  · exact (List.getElem?_eq_some_iff.mp back).1

theorem TokenAt.lt {text : List Char} {offset : Nat} (token : TokenAt text offset) :
    offset < text.length := by
  obtain ⟨_,stands,_⟩ := token
  exact (List.getElem?_eq_some_iff.mp stands).1

theorem TokenAt.not_breakAt {text : List Char} {offset : Nat} (token : TokenAt text offset) :
    ¬ BreakAt text offset := by
  obtain ⟨c,stands,part⟩ := token
  rintro (feed | back)
  · obtain rfl := Option.some.inj (stands.symm.trans feed)
    exact absurd part (by decide)
  · obtain rfl := Option.some.inj (stands.symm.trans back)
    exact absurd part (by decide)

namespace Run

variable {text : List Char} {first last : Nat}

theorem last_lt (run : Run text first last) : last < text.length :=
  (run.token last run.ordered (Nat.le_refl _)).lt

/-- A run goes on as far as the token does. -/
theorem not_tokenAt_succ (run : Run text first last) : ¬ TokenAt text (last + 1) := by
  intro token
  rcases run.stops with ends | ⟨c,stands,other⟩
  · have inside := token.lt
    omega
  · obtain ⟨d,same,part⟩ := token
    obtain rfl := Option.some.inj (stands.symm.trans same)
    exact absurd part (by simp [other])

theorem later (run : Run text first last) {middle : Nat} (behind : first ≤ middle)
    (within : middle ≤ last) : Run text middle last :=
  ⟨within,fun offset low high => run.token offset (Nat.le_trans behind low) high,run.stops⟩

theorem last_le {other : Nat} (run : Run text first last) (shorter : Run text first other) :
    last ≤ other := by
  by_contra further
  have ordered := shorter.ordered
  exact shorter.not_tokenAt_succ (run.token (other + 1) (by omega) (by omega))

theorem unique {other : Nat} (run : Run text first last) (again : Run text first other) :
    last = other :=
  Nat.le_antisymm (run.last_le again) (again.last_le run)

end Run

/-- A run in a text that is cut before and behind it. -/
theorem run_of_parts (before run rest : List Char) (c : Char)
    (token : ∀ d ∈ c :: run, Text.isTokenPart d = true)
    (stops : ∀ d, rest.head? = some d → Text.isTokenPart d = false) :
    Run (before ++ (c :: run ++ rest)) before.length (before.length + run.length) := by
  have stands (n : Nat) : (before ++ (c :: run ++ rest))[before.length + n]? =
      (c :: run ++ rest)[n]? := by
    rw [List.getElem?_append_right (Nat.le_add_right _ _),Nat.add_sub_cancel_left]
  refine ⟨Nat.le_add_right _ _,fun offset low high => ?_,?_⟩
  · obtain ⟨n,rfl⟩ := Nat.exists_eq_add_of_le low
    have inside : n < (c :: run).length := by
      rw [List.length_cons]
      omega
    refine ⟨(c :: run)[n],?_,token _ (List.getElem_mem inside)⟩
    rw [stands,List.getElem?_append_left inside,List.getElem?_eq_getElem]
  · cases rest with
    | nil => exact .inl (by simp [Nat.add_assoc])
    | cons d rest =>
      refine .inr ⟨d,?_,stops d rfl⟩
      rw [Nat.add_assoc,stands]
      simp

/-- The characters of tokens taken behind one of them make up the rest of its run. -/
theorem run_takeWhile (text : List Char) (position : Nat) (token : TokenAt text position) :
    Run text position
      (position + ((text.drop (position + 1)).takeWhile Text.isTokenPart).length) := by
  obtain ⟨c,stands,part⟩ := token
  obtain ⟨inside,here⟩ := List.getElem?_eq_some_iff.mp stands
  have whole : text.take position ++ (c :: (text.drop (position + 1)).takeWhile Text.isTokenPart ++
      (text.drop (position + 1)).dropWhile Text.isTokenPart) = text := by
    rw [List.cons_append,List.takeWhile_append_dropWhile,← here,← List.drop_eq_getElem_cons,
      List.take_append_drop]
  have token : ∀ d ∈ c :: (text.drop (position + 1)).takeWhile Text.isTokenPart,
      Text.isTokenPart d = true :=
    List.forall_mem_cons.mpr ⟨part,fun _ member => List.mem_takeWhile_imp member⟩
  have stops (d : Char)
      (next : ((text.drop (position + 1)).dropWhile Text.isTokenPart).head? = some d) :
      Text.isTokenPart d = false := by
    have stopped := List.head?_dropWhile_not Text.isTokenPart (text.drop (position + 1))
    rw [next] at stopped
    exact stopped
  have run := run_of_parts (text.take position) _ _ c token stops
  rwa [whole,List.length_take_of_le (Nat.le_of_lt inside)] at run

/-! ### Positions -/

theorem isLineBreak_iff {text : List Char} {offset : Nat} {c : Char}
    (stands : text[offset]? = some c) : Text.isLineBreak c = true ↔ BreakAt text offset := by
  simp [Text.isLineBreak,BreakAt,stands]

theorem isTokenPart_iff {text : List Char} {offset : Nat} {c : Char}
    (stands : text[offset]? = some c) : Text.isTokenPart c = true ↔ TokenAt text offset := by
  simp [TokenAt,stands]

theorem widens_spanAt (text : List Char) (position : Nat) :
    Widens text position (spanAt text position) := by
  rw [spanAt]
  cases stands : text[position]? with
  | none => exact .outside (List.getElem?_eq_none_iff.mp stands)
  | some c =>
    dsimp only
    split
    next breaks =>
      rw [Nat.min_comm]
      exact .lineBreak ((isLineBreak_iff stands).mp breaks)
    next noBreak =>
      split
      next part => exact .token _ (run_takeWhile text position ((isTokenPart_iff stands).mp part))
      next noPart =>
        exact .alone (List.getElem?_eq_some_iff.mp stands).1
          (mt (isLineBreak_iff stands).mpr noBreak) (mt (isTokenPart_iff stands).mpr noPart)

theorem spanAt_of_widens {text : List Char} {position : Nat} {span : Span}
    (widens : Widens text position span) : spanAt text position = span := by
  cases widens with
  | outside past =>
    rw [spanAt,List.getElem?_eq_none past]
    rfl
  | lineBreak breaks =>
    rw [Nat.min_comm]
    rcases breaks with stands | stands
    · rw [spanAt,stands]
      rfl
    · rw [spanAt,stands]
      rfl
  | alone inside noBreak noToken =>
    have stands := List.getElem?_eq_getElem inside
    rw [spanAt,stands]
    dsimp only
    rw [if_neg (mt (isLineBreak_iff stands).mp noBreak),
      if_neg (mt (isTokenPart_iff stands).mp noToken)]
    rfl
  | token last run =>
    have token := run.token position (Nat.le_refl _) run.ordered
    have stands := List.getElem?_eq_getElem token.lt
    rw [spanAt,stands,run.unique (run_takeWhile text position token)]
    dsimp only
    rw [if_neg (mt (isLineBreak_iff stands).mp token.not_breakAt),
      if_pos ((isTokenPart_iff stands).mpr token)]

/-- A position widens by what stands there and in no other way: a position behind the text and a
character of no token stay alone, a line break takes in both its sides, and a token is marked to its
end. From every later position of a run the end is the same. -/
theorem spanAt_eq_iff_widens (text : List Char) (position : Nat) :
    (∀ span, spanAt text position = span ↔ Widens text position span) ∧
    ∀ last, Run text position last → ∀ later, position ≤ later → later ≤ last →
      (spanAt text later).last = (spanAt text position).last := by
  have eq_iff (position : Nat) (span : Span) :
      spanAt text position = span ↔ Widens text position span := by
    constructor
    · rintro rfl
      exact widens_spanAt text position
    · exact spanAt_of_widens
  refine ⟨eq_iff position,fun last run later behind within => ?_⟩
  have whole := (eq_iff position _).mpr (.token last run)
  have part := (eq_iff later _).mpr (.token last (run.later behind within))
  rw [whole,part]

/-- From the dollar and the digit of one token the end is the same, behind which an accent that
stands alone belongs to no token. -/
theorem spanAt_identifier : Run ['x',' ','$','i','9','\u0301','\n'] 2 4 ∧
    (spanAt ['x',' ','$','i','9','\u0301','\n'] 4).last =
      (spanAt ['x',' ','$','i','9','\u0301','\n'] 2).last ∧
    spanAt ['x',' ','$','i','9','\u0301','\n'] 2 = ⟨2,4⟩ := by
  obtain ⟨eq_iff,sameEnd⟩ := spanAt_eq_iff_widens ['x',' ','$','i','9','\u0301','\n'] 2
  have token : TokenAt ['x',' ','$','i','9','\u0301','\n'] 2 := ⟨'$',rfl,by decide⟩
  have run : Run ['x',' ','$','i','9','\u0301','\n'] 2 4 := run_takeWhile _ 2 token
  exact ⟨run,sameEnd 4 run 4 (by decide) (by decide),(eq_iff _).mpr (.token 4 run)⟩

/-! ### Locations -/

theorem Widens.holds {text : List Char} {position : Nat} {span : Span}
    (widens : Widens text position span) : span.first ≤ position ∧ position ≤ span.last := by
  cases widens with
  | outside | alone => exact ⟨Nat.le_refl _,Nat.le_refl _⟩
  | lineBreak breaks =>
    have inside := breaks.lt
    dsimp only
    omega
  | token last run => exact ⟨Nat.le_refl _,run.ordered⟩

/-- A position in a text, or right behind it, widens within these bounds. -/
theorem Widens.last_le {text : List Char} {position : Nat} {span : Span}
    (widens : Widens text position span) (within : position ≤ text.length) :
    span.last ≤ text.length ∧ (span.last = text.length →
      position = text.length ∨ position + 1 = text.length ∧ BreakAt text position) := by
  cases widens with
  | outside | alone => exact ⟨within,.inl⟩
  | lineBreak breaks =>
    have inside := breaks.lt
    dsimp only
    exact ⟨Nat.min_le_left _ _,fun last => .inr ⟨by omega,breaks⟩⟩
  | token last run =>
    have inside := run.last_lt
    exact ⟨Nat.le_of_lt inside,fun same => absurd same (Nat.ne_of_lt inside)⟩

/-- The span of a location is in order and holds the position that its cause is about. -/
structure Explains (location : Location) : Prop where
  ordered : location.span.first ≤ location.span.last
  first_le : location.span.first ≤ location.cause.position
  le_last : location.cause.position ≤ location.span.last

/-- The span of a location reaches the end of the input: for a failure that ends there, or at a line
break before it. -/
def ReachesEnd (trace : Trace) (input : List Char) (location : Location) : Prop :=
  ∃ record, Deciding trace record ∧
    location.cause = .failedRule record.verdict record.depth record.stop ∧
    (record.stop = input.length ∨ record.stop + 1 = input.length ∧ BreakAt input record.stop)

/-- Every location has a span in order, which holds the position of its cause. If no record ends
past the input, neither does the span, and it reaches the end of the input only for a failure that
ends there or at a last line break. -/
theorem ofTrace?_explains (trace : Trace) (input : List Char) (location : Location)
    (found : ofTrace? trace input = some location) :
    Explains location ∧ ((∀ record ∈ trace, record.stop ≤ input.length) →
      location.span.last ≤ input.length ∧
      (location.span.last = input.length → ReachesEnd trace input location)) := by
  have located := located_ofTrace? trace input
  rw [found] at located
  cases located with
  | trailing matched greatest short =>
    have last : matched ≤ input.length - 1 := Nat.le_sub_one_of_lt short
    refine ⟨⟨last,Nat.le_refl _,last⟩,fun _ => ⟨Nat.sub_le _ _,fun reaches => ?_⟩⟩
    dsimp only at reaches
    omega
  | failed record complete deciding =>
    have widens := widens_spanAt input record.stop
    obtain ⟨low,high⟩ := widens.holds
    refine ⟨⟨Nat.le_trans low high,low,high⟩,fun within => ?_⟩
    obtain ⟨before,after,split,_⟩ := deciding.earliest
    obtain ⟨bounded,reaches⟩ := widens.last_le (within record (by simp [split]))
    exact ⟨bounded,fun same => ⟨record,deciding,rfl,reaches same⟩⟩

/-- A failure at the line feed that ends the input, deeper than another that reaches as far. -/
def brokenTrace : Trace := [⟨.failure 0, 0, 0, 1⟩, ⟨.success 1, 2, 0, 1⟩, ⟨.failure 2, 1, 1, 1⟩]

theorem brokenTrace_explained : ofTrace? brokenTrace ['a','\n'] =
      some ⟨⟨0,2⟩, .failedRule (.failure 2) 1 1⟩ ∧
    (∀ record ∈ brokenTrace, record.stop ≤ ['a','\n'].length) ∧
    Explains ⟨⟨0,2⟩, .failedRule (.failure 2) 1 1⟩ ∧
    ReachesEnd brokenTrace ['a','\n'] ⟨⟨0,2⟩, .failedRule (.failure 2) 1 1⟩ := by
  obtain ⟨explains,bounded⟩ := ofTrace?_explains brokenTrace ['a','\n'] _ rfl
  have within : ∀ record ∈ brokenTrace, record.stop ≤ ['a','\n'].length := by decide
  exact ⟨rfl,within,explains,(bounded within).2 rfl⟩

end Location

end ParseScope
