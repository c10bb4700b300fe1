import ParseScope.Proofs.Attempt.Tree
import ParseScope.Proofs.Command.Failures
import ParseScope.Proofs.Location.Span
import ParseScope.Proofs.Text.Around

/-!
The line that is named for an error. It is the one on which the span of the error begins. For a
failed rule this is the line of the failure, but the line before it when the failure stands at a
line break with which its line begins.
-/
namespace ParseScope

open Grammar (Patterns)

namespace Location

/-- Only at a line break does a span begin before its position. -/
theorem first_spanAt (text : List Char) (position : Nat) :
    (BreakAt text position → (spanAt text position).first = position - 1) ∧
      (¬ BreakAt text position → (spanAt text position).first = position) := by
  generalize same : spanAt text position = span
  have widens := same ▸ widens_spanAt text position
  cases widens with
  | outside past => exact ⟨fun breaks => absurd breaks.lt (Nat.not_lt.mpr past),fun _ => rfl⟩
  | lineBreak breaks => exact ⟨fun _ => rfl,absurd breaks⟩
  | alone inside noBreak noToken => exact ⟨fun breaks => absurd breaks noBreak,fun _ => rfl⟩
  | token last run =>
    have token := run.token position (Nat.le_refl _) run.ordered
    exact ⟨fun breaks => absurd breaks token.not_breakAt,fun _ => rfl⟩

theorem span_of_ofTrace? (trace : Trace) (input : List Char) (location : Location)
    (found : ofTrace? trace input = some location) (verdict : Verdict) (depth stop : Nat)
    (cause : location.cause = .failedRule verdict depth stop) :
    location.span = spanAt input stop := by
  have located := located_ofTrace? trace input
  rw [found] at located
  cases located with
  | trailing => exact Cause.noConfusion cause
  | failed record =>
    obtain ⟨_,_,rfl⟩ := Cause.failedRule.inj cause
    rfl

end Location

/-- The span of an error at a failed rule is that of the position where the rule ended. -/
theorem Attempt.span_of_failedRule [Patterns] (attempt : Attempt) (settings : Settings)
    (report : Report) (reported : attempt.report settings = .ok report) (tree : Option String)
    (location : Location) (log : Trace.Log)
    (failed : report.outcome = .parseFailed tree (some location) log) (verdict : Verdict)
    (depth stop : Nat) (cause : location.cause = .failedRule verdict depth stop) :
    location.span = Location.spanAt attempt.input.toList stop := by
  rcases attempt.report_eq_ok settings report reported with
    ⟨error,_,rfl⟩ | ⟨_,trace,_,⟨_,rfl⟩ | ⟨accepted,_,rfl⟩⟩
  · cases failed
  · obtain ⟨_,found,_⟩ := Outcome.parseFailed.inj failed
    exact Location.span_of_ofTrace? trace _ location found verdict depth stop cause
  · -- With a tree no failed rule is the cause.
    dsimp only at failed
    rw [success] at failed
    split at failed
    · cases failed
    · next other found =>
      obtain ⟨_,same,_⟩ := Outcome.parseFailed.inj failed
      obtain rfl := Option.some.inj same
      obtain ⟨matched,trailing⟩ := Location.isTrailing_of_ofTrailing? trace _ other found
      rw [trailing] at cause
      exact Cause.noConfusion cause

namespace Command

open Text

/-- The line that tells of an error at a position. -/
def errorLine (p : Position) (reason : String) : String :=
  s!"\nError at line {p.line}, column {p.column}: {reason}\n"

/-- The number of the line is followed by a comma. -/
theorem exists_toList_errorLine (p : Position) (reason rest : String) : ∃ after,
    (errorLine p reason ++ rest).toList =
      "\nError at line ".toList ++ (decimal p.line ++ ',' :: after) := by
  have number : (toString p.line).toList = decimal p.line := Nat.toList_repr
  unfold errorLine
  simp [← number,toString]

theorem takeWhile_decimal (n : Nat) (after : List Char) :
    (decimal n ++ ',' :: after).takeWhile Char.isDigit = decimal n := by
  rw [List.takeWhile_append_of_pos (Json.isDigit_of_mem_decimal n)]
  simp

/-- No other line is named by the same text. -/
theorem line_eq_of_errorLine (p q : Position) (reason other rest more : String)
    (same : errorLine p reason ++ rest = errorLine q other ++ more) : p.line = q.line := by
  obtain ⟨after,first⟩ := exists_toList_errorLine p reason rest
  obtain ⟨behind,second⟩ := exists_toList_errorLine q other more
  have numbers := List.append_cancel_left (first.symm.trans (same ▸ second))
  have digits := congrArg (List.takeWhile Char.isDigit) numbers
  rw [takeWhile_decimal,takeWhile_decimal] at digits
  rw [← natOfDecimal_decimal p.line,digits,natOfDecimal_decimal]

theorem describe_some (settings : Settings) (rules : Rules) (input : Surface) (location : Location) :
    describe settings rules input (some location) =
      errorLine (positionAt input.text.toList location.span.first) (reason rules location.cause) ++
        (underlineOn input location.span ++ remark input settings.errorSet 1) := by
  rw [← String.append_assoc]
  rfl

/-- The line at the offset is behind others and begins with a line break, which stands there. -/
structure OpensWithBreak (text before : List Char) (offset : Nat) : Prop where
  later : before ≠ []
  first : before.length = offset
  breaks : Location.BreakAt text offset

/-- A number that is that of the line at the offset unless this line begins there with a line break,
and then is that of the line before. -/
structure Numbers (text before : List Char) (offset number : Nat) : Prop where
  right_iff : number = 1 + before.count '\n' ↔ ¬ OpensWithBreak text before offset
  low : OpensWithBreak text before offset → number + 1 = 1 + before.count '\n'

theorem Numbers.right {text before : List Char} {offset number : Nat}
    (same : number = 1 + before.count '\n') (closed : ¬ OpensWithBreak text before offset) :
    Numbers text before offset number :=
  ⟨iff_of_true same closed,fun opens => absurd opens closed⟩

/-- Where the span of an offset begins is on the line of the offset or on the one before. -/
theorem numbers_spanAt (text : List Char) (offset : Nat) (inside : offset < text.length) :
    ∃ before line after, LineAround text offset before line after ∧
      Numbers text before offset (positionAt text (Location.spanAt text offset).first).line := by
  obtain ⟨before,after,around,number,_⟩ := exists_lineAround text offset (Nat.le_of_lt inside)
  obtain ⟨back,same⟩ := around.line_pred (Nat.le_of_lt inside) number
  obtain ⟨atBreak,elsewhere⟩ := Location.first_spanAt text offset
  refine ⟨before,_,after,around,?_⟩
  by_cases breaks : Location.BreakAt text offset
  · rw [atBreak breaks]
    by_cases begins : before ≠ [] ∧ before.length = offset
    · have line := back begins
      have opens : OpensWithBreak text before offset := ⟨begins.1,begins.2,breaks⟩
      exact ⟨iff_of_false (by omega) (not_not_intro opens),fun _ => line⟩
    · exact .right (same begins) fun opens => begins ⟨opens.later,opens.first⟩
  · rw [elsewhere breaks]
    exact .right number fun opens => breaks opens.breaks

/-- Of a rule that failed inside the input the line is named on which it ended, unless it ended at a
line break with which a line behind others begins: then the line before is named. -/
theorem render_names_line [Patterns] (settings : Settings) (disk : Disk) (path : String)
    (attempt : Attempt) (report : Report) (tree : Option String) (location : Location)
    (log : Trace.Log) (verdict : Verdict) (depth stop : Nat) (loads : Attempt.Loads disk path attempt)
    (reported : attempt.report settings = .ok report)
    (failed : report.outcome = .parseFailed tree (some location) log)
    (cause : location.cause = .failedRule verdict depth stop)
    (inside : stop < attempt.input.toList.length) :
    ∃ p rest before line after,
      render settings disk path .text = .ok (report.outcome.text ++
        (errorLine p s!"rule '{attempt.rules.nameOf verdict}' failed" ++ rest)) ∧
      LineAround attempt.input.toList stop before line after ∧
      Numbers attempt.input.toList before stop p.line := by
  have printed := render_parseFailed settings disk path attempt report tree (some location) log
    loads reported failed
  have span := attempt.span_of_failedRule settings report reported tree location log failed verdict
    depth stop cause
  obtain ⟨before,line,after,around,numbers⟩ := numbers_spanAt attempt.input.toList stop inside
  rw [account,describe_some,cause,span] at printed
  simp only [String.append_assoc] at printed
  exact ⟨_,_,before,line,after,printed,around,numbers⟩

/-- The only rule fails at the second line of the input. -/
def secondLineAttempt : Attempt where
  input := "a\n+b"
  rules := ⟨["s"]⟩
  trace := [-1,0,0,2]

theorem secondLineAttempt_named : ∃ report location log p rest before line after,
    Attempt.Loads (diskOf secondLineAttempt) "a.json" secondLineAttempt ∧
    secondLineAttempt.report {} = .ok report ∧
    report.outcome = .parseFailed none (some location) log ∧
    location.cause = .failedRule (.failure 0) 0 2 ∧ 2 < secondLineAttempt.input.toList.length ∧
    render {} (diskOf secondLineAttempt) "a.json" .text =
      .ok (report.outcome.text ++ (errorLine p "rule 's' failed" ++ rest)) ∧
    LineAround secondLineAttempt.input.toList 2 before line after ∧
    Numbers secondLineAttempt.input.toList before 2 p.line := by
  have loads := loads_diskOf secondLineAttempt "a.json" (by decide)
  have inside : 2 < secondLineAttempt.input.toList.length := by decide
  obtain ⟨p,rest,before,line,after,printed,around,numbers⟩ := render_names_line {}
    (diskOf secondLineAttempt) "a.json" secondLineAttempt _ none _ _ (.failure 0) 0 2 loads rfl rfl
    rfl inside
  exact ⟨_,_,_,p,rest,before,line,after,loads,rfl,rfl,rfl,inside,printed,around,numbers⟩

/-- The only rule fails at the line feed that is all of the second line. -/
def emptyLineAttempt : Attempt where
  input := "a\n\nb"
  rules := ⟨["s"]⟩
  trace := [-1,0,0,2]

/-- The first line is named for it. -/
theorem emptyLineAttempt_misnamed : ∃ report location log rest,
    Attempt.Loads (diskOf emptyLineAttempt) "a.json" emptyLineAttempt ∧
    emptyLineAttempt.report {} = .ok report ∧
    report.outcome = .parseFailed none (some location) log ∧
    location.cause = .failedRule (.failure 0) 0 2 ∧
    LineAround emptyLineAttempt.input.toList 2 ['a','\n'] [] ['\n','b'] ∧
    1 + ['a','\n'].count '\n' = 2 ∧
    render {} (diskOf emptyLineAttempt) "a.json" .text =
      .ok (report.outcome.text ++ (errorLine ⟨1,2⟩ "rule 's' failed" ++ rest)) ∧
    ∀ column reason rest, render {} (diskOf emptyLineAttempt) "a.json" .text ≠
      .ok (report.outcome.text ++ (errorLine ⟨2,column⟩ reason ++ rest)) := by
  have loads := loads_diskOf emptyLineAttempt "a.json" (by decide)
  have printed := render_parseFailed {} (diskOf emptyLineAttempt) "a.json" emptyLineAttempt _ none
    (some _) _ loads rfl rfl
  rw [account,describe_some] at printed
  simp only [String.append_assoc] at printed
  refine ⟨_,_,_,_,loads,rfl,rfl,rfl,⟨rfl,.inr rfl,by decide,.inr rfl,by decide,by decide⟩,
    by decide,printed,fun column reason rest named => ?_⟩
  have same := (String.append_right_inj _).mp (Except.ok.inj (printed.symm.trans named))
  have lines : 1 = 2 := line_eq_of_errorLine ⟨1,2⟩ ⟨2,column⟩ _ _ _ _ same
  contradiction

end Command

end ParseScope
