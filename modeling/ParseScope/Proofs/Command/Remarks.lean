import ParseScope.Proofs.Command.ErrorLine
import ParseScope.Proofs.Span

/-!
Remarks on spans that are not shown. They count the located spans that cover fewer than two
positions of their text, and nothing else that is printed depends on the names of the sets.
-/
namespace ParseScope.Command

open Text

/-- What an outcome locates: spans of one text, to be shown as one set. -/
structure Findings where
  text : String
  set : String
  spans : List Span

/-- The rule and the position of a compile error lie on the grammar, and the error of a parse on the
input. -/
def findings (settings : Settings) (attempt : Attempt) : Outcome → Findings
  | .compileFailed diagnosis =>
    ⟨attempt.grammar,settings.grammarSet,diagnosis.ruleSpan.toList ++ diagnosis.position.toList⟩
  | .parseFailed _ (some location) _ => ⟨attempt.input,settings.errorSet,[location.span]⟩
  | .parsed _ | .parseFailed _ none _ => ⟨attempt.input,settings.errorSet,[]⟩

/-- The findings that cover fewer than two positions. -/
def Findings.short (findings : Findings) : Nat :=
  findings.spans.countP fun span => span.IsShort findings.text.toList.length

/-- The line which says that `short` of `located` spans are missing from a set. -/
def noteLine (short located : Nat) (set : String) : String :=
  s!"note: {short} of {located} located span(s) have no extent on the text "
    ++ s!"(a single position, or past its end) and are not projected as '{set}' highlights\n"

/-- The line which says how many of the located spans are short, if any is. -/
def Findings.remark (findings : Findings) : String :=
  if findings.short = 0 then ""
  else noteLine findings.short findings.spans.length findings.set

/-- What is printed up to the remark. -/
def beforeRemark (attempt : Attempt) : Outcome → String
  | .compileFailed diagnosis =>
    s!"Grammar failed to compile:\n{diagnosis.message}\n"
      ++ String.join (diagnosis.spans.map (underlineOn (.ofText attempt.grammar)))
  | .parsed tree => tree
  | .parseFailed tree none log =>
    (Outcome.parseFailed tree none log).text
      ++ "\nParse failed, but no error position could be located\n"
  | .parseFailed tree (some location) log =>
    (Outcome.parseFailed tree (some location) log).text
      ++ (errorLine (positionAt attempt.input.toList location.span.first)
          (reason attempt.rules location.cause)
        ++ underlineOn (.ofText attempt.input) location.span)

/-- What is printed behind the remark. -/
def afterRemark : Outcome → String
  | .parseFailed _ _ log => countLine log.failed.length
  | .compileFailed _ | .parsed _ => ""

theorem noteLine_ne_empty (short located : Nat) (set : String) :
    noteLine short located set ≠ "" := by
  have last : EndsLine "' highlights\n" := by decide
  have ends : EndsLine (noteLine short located set) := (last.append _).append _
  intro empty
  rw [empty] at ends
  exact absurd ends (by decide)

theorem Findings.remark_ne_empty_iff (findings : Findings) :
    findings.remark ≠ "" ↔ ∃ span ∈ findings.spans, span.IsShort findings.text.toList.length := by
  have some_iff : findings.short ≠ 0 ↔
      ∃ span ∈ findings.spans, span.IsShort findings.text.toList.length := by
    simp [short,List.countP_eq_zero]
  rw [← some_iff,remark]
  split
  · next none => simp [none]
  · next some => exact iff_of_true (noteLine_ne_empty _ _ _) some

/-- The spans that a set lacks are the short ones. -/
theorem remark_eq (surface : Surface) (findings : Findings) (same : surface.text = findings.text)
    (shown : surface.plain? findings.set =
      some (findings.spans.filterMap (·.cut? surface.length))) :
    remark surface findings.set findings.spans.length = findings.remark := by
  have length : surface.length = findings.text.toList.length := by rw [Surface.length,same]
  have missing := Span.length_sub_filterMap_cut? findings.spans surface.length
  rw [length] at shown missing
  change _ = findings.short at missing
  rw [remark,shown,Findings.remark,← missing]
  simp only [Option.map_some,Option.getD_some,Nat.sub_eq_zero_iff_le]
  split
  · next lacking =>
    rw [if_neg (Nat.not_le.mpr lacking)]
    rfl
  · next full => rw [if_pos (Nat.not_lt.mp full)]

theorem remark_grammar (settings : Settings) (attempt : Attempt) (report : Report)
    (diagnosis : Grammar.Diagnosis) (outcome : report.outcome = .compileFailed diagnosis) :
    remark (report.mark settings (.of attempt report.outcome)).grammar settings.grammarSet
        diagnosis.spans.length =
      (findings settings attempt (.compileFailed diagnosis)).remark := by
  have shown := (attempt.mark_of settings report).2.1
  rw [outcome] at shown ⊢
  exact remark_eq _ (findings settings attempt (.compileFailed diagnosis)) rfl shown

/-- No other plain set is written on the input, whatever the names of the sets are. -/
theorem remark_input (settings : Settings) (attempt : Attempt) (report : Report)
    (tree : Option String) (location : Location) (log : Trace.Log)
    (outcome : report.outcome = .parseFailed tree (some location) log) :
    remark (report.mark settings (.of attempt report.outcome)).input settings.errorSet 1 =
      (findings settings attempt (.parseFailed tree (some location) log)).remark := by
  have shown : (report.mark settings (.of attempt report.outcome)).input.plain? settings.errorSet =
      some (report.outcome.located?.toList.filterMap (·.cut? attempt.input.toList.length)) := by
    simp [Report.mark,Outcome.mark,Panes.of,Surface.plain?_mark]
  rw [outcome] at shown ⊢
  exact remark_eq _ (findings settings attempt (.parseFailed tree (some location) log)) rfl shown

theorem describeReport_eq (settings : Settings) (attempt : Attempt) (report : Report) :
    describeReport settings attempt report = beforeRemark attempt report.outcome ++
      ((findings settings attempt report.outcome).remark ++ afterRemark report.outcome) := by
  have none (set : String) : (Findings.mk attempt.input set []).remark = "" := rfl
  cases outcome : report.outcome with
  | compileFailed diagnosis =>
    have remarked := remark_grammar settings attempt report diagnosis outcome
    rw [outcome] at remarked
    rw [describeReport,outcome,← remarked,afterRemark,String.append_empty]
    rfl
  | parsed tree =>
    rw [describeReport,outcome,findings,none,afterRemark,String.append_empty,String.append_empty]
    rfl
  | parseFailed tree location log =>
    cases location with
    | none =>
      rw [describeReport,outcome,findings,none,afterRemark,String.empty_append,← failureCount_eq]
      rfl
    | some location =>
      have remarked := remark_input settings attempt report tree location log outcome
      rw [outcome] at remarked
      have described := describe_some settings attempt.rules
        (report.mark settings (.of attempt report.outcome)).input location
      rw [outcome] at described
      rw [describeReport,outcome,← remarked,afterRemark,← failureCount_eq]
      dsimp only
      rw [described]
      unfold beforeRemark
      simp only [String.append_assoc]
      rfl

theorem EndsLine.append_join {front : String} (ends : EndsLine front) (texts : List String)
    (all : ∀ text ∈ texts, EndsLine text) : EndsLine (front ++ String.join texts) := by
  induction texts generalizing front with
  | nil =>
    rw [String.join_nil,String.append_empty]
    exact ends
  | cons text texts ih =>
    rw [String.join_cons,← String.append_assoc]
    exact ih ((all text (by simp)).append front) fun other among => all other (by simp [among])

/-- The remark begins a line. -/
theorem endsLine_beforeRemark (attempt : Attempt) (outcome : Outcome)
    (failed : ∀ tree, outcome ≠ .parsed tree) : EndsLine (beforeRemark attempt outcome) := by
  cases outcome with
  | compileFailed diagnosis =>
    have newline : EndsLine "\n" := by decide
    refine EndsLine.append_join (newline.append _) _ fun text among => ?_
    obtain ⟨span,_,rfl⟩ := List.mem_map.mp among
    exact endsLine_underlineOn ..
  | parsed tree => exact absurd rfl (failed tree)
  | parseFailed tree location log =>
    cases location with
    | none =>
      have last : EndsLine "\nParse failed, but no error position could be located\n" := by decide
      exact last.append _
    | some location => exact ((endsLine_underlineOn ..).append _).append _

/-- A remark is printed, on a line of its own, exactly when a located span covers fewer than two
positions of its text, and it counts these among all that are located, whatever the names of the
sets. -/
theorem render_remarks_short [Grammar.Patterns] (settings : Settings) (disk : Disk) (path : String)
    (attempt : Attempt) (report : Report) (loads : Attempt.Loads disk path attempt)
    (reported : attempt.report settings = .ok report) :
    render settings disk path .text = .ok (beforeRemark attempt report.outcome ++
      ((findings settings attempt report.outcome).remark ++ afterRemark report.outcome)) ∧
    ((findings settings attempt report.outcome).remark ≠ "" ↔
      ∃ span ∈ (findings settings attempt report.outcome).spans,
        span.IsShort (findings settings attempt report.outcome).text.toList.length) ∧
    ((findings settings attempt report.outcome).remark ≠ "" →
      EndsLine (beforeRemark attempt report.outcome)) := by
  have printed := render_reported settings disk path attempt report loads reported
  rw [describeReport_eq] at printed
  refine ⟨printed,Findings.remark_ne_empty_iff _,fun remarked => ?_⟩
  refine endsLine_beforeRemark attempt report.outcome fun tree parsed => remarked ?_
  rw [parsed]
  rfl

/-- The rule of the compile error covers three positions of the grammar, and its position one. -/
theorem faultyAttempt_remarked : ∃ report findings,
    Attempt.Loads (diskOf faultyAttempt) "a.json" faultyAttempt ∧
    faultyAttempt.report { grammarSet := "rules" } = .ok report ∧
    Command.findings { grammarSet := "rules" } faultyAttempt report.outcome = findings ∧
    findings.remark = noteLine 1 2 "rules" ∧
    render { grammarSet := "rules" } (diskOf faultyAttempt) "a.json" .text =
      .ok (beforeRemark faultyAttempt report.outcome ++ (findings.remark ++ "")) ∧
    (∃ span ∈ findings.spans, span.IsShort findings.text.toList.length) ∧
    EndsLine (beforeRemark faultyAttempt report.outcome) := by
  have loads := loads_diskOf faultyAttempt "a.json" (by decide)
  obtain ⟨printed,remarked,begins⟩ := render_remarks_short { grammarSet := "rules" }
    (diskOf faultyAttempt) "a.json" faultyAttempt _ loads rfl
  have some : noteLine 1 2 "rules" ≠ "" := noteLine_ne_empty _ _ _
  exact ⟨_,_,loads,rfl,rfl,rfl,printed,remarked.mp some,begins some⟩

end ParseScope.Command
