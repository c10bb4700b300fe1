import ParseScope.Attempt.Panes
import ParseScope.Grammar.Patterns
import ParseScope.Proofs.Except
import ParseScope.Proofs.Grammar.Definition
import ParseScope.Proofs.Surface
import ParseScope.Proofs.Trace.Log

/-!
Reports on fresh panes. The spans of a report index the texts that are shown, so that cutting them
to these texts only drops the ones that cover a single position.
-/
namespace ParseScope

open Grammar (Patterns)

/-- What the panes show of a report, but for the input's: under the names of the settings, spans of
the report as they are and in their order. -/
structure Panes.Shows [Patterns] (attempt : Attempt) (settings : Settings) (report : Report)
    (panes : Panes) : Prop where
  /-- The definitions of rules whose names have two characters. -/
  definitions : panes.grammar.labelled? settings.ruleDefinitionSet =
    some (report.definitions.filter fun definition => 2 ≤ definition.label.length)
  /-- The rule of the compile error, when it was found and its name has two characters, and never
  the position of the error. -/
  faultyRule : panes.grammar.plain? settings.grammarSet =
    some (match attempt.compileError with
      | some error => (Grammar.diagnose attempt.grammar error).ruleSpan.toList.filter fun _ =>
          2 ≤ (error.rule.getD "").length
      | none => [])
  /-- The failures of the log that cover two characters, when the log is shown. -/
  failures : panes.output.plain? settings.traceFailureSet =
    some (match report.outcome with
      | .parseFailed none _ log => log.failed.filter fun span => span.first < span.last
      | _ => [])

theorem filterMap_cut?_definitions (grammar : String) :
    (Grammar.definitions grammar).filterMap (·.cut? grammar.toList.length) =
      (Grammar.definitions grammar).filter fun definition => 2 ≤ definition.label.length := by
  rw [Labelled.filterMap_cut?]
  · apply List.filter_congr
    intro definition member
    have spans := Grammar.spans_of_mem_definitions grammar definition member
    rw [decide_eq_decide,spans.first_lt_last_iff,String.length_toList]
  · intro definition member
    have inside := (Grammar.spans_of_mem_definitions grammar definition member).inside
    omega

theorem cut?_single (offset length : Nat) : (Span.single offset).cut? length = none := by
  simp [Span.cut?,Span.single]

/-- The point of a compile error collapses; the span of its rule stays when it covers enough. -/
theorem filterMap_cut?_diagnose [Patterns] (grammar : String) (error : Grammar.CompileError) :
    (Grammar.diagnose grammar error).spans.filterMap (·.cut? grammar.toList.length) =
      (Grammar.diagnose grammar error).ruleSpan.toList.filter fun _ =>
        2 ≤ (error.rule.getD "").length := by
  have point : (Grammar.diagnose grammar error).position.toList.filterMap
      (·.cut? grammar.toList.length) = [] := by
    cases position : error.position? with
    | none => simp [Grammar.diagnose,position]
    | some p => simp [Grammar.diagnose,position,cut?_single]
  rw [Grammar.Diagnosis.spans,List.filterMap_append,point,List.append_nil]
  cases found : (Grammar.diagnose grammar error).ruleSpan with
  | none => rfl
  | some span =>
    obtain ⟨rule,named,found⟩ := Option.bind_eq_some_iff.mp found
    obtain ⟨named,_⟩ := Option.filter_eq_some_iff.mp named
    have spans := Grammar.spans_of_find? grammar rule span found
    rw [Option.toList_some,Span.filterMap_cut?,named,Option.getD_some]
    · apply List.filter_congr
      intro span member
      obtain rfl := List.mem_singleton.mp member
      rw [decide_eq_decide,spans.first_lt_last_iff,String.length_toList]
    · intro span member
      obtain rfl := List.mem_singleton.mp member
      have inside := spans.inside
      omega

theorem filterMap_cut?_log (trace : Trace) (input : String) (rules : Rules) (indent : String) :
    (trace.log input rules indent).failed.filterMap
        (·.cut? (trace.log input rules indent).text.toList.length) =
      (trace.log input rules indent).failed.filter fun span => span.first < span.last := by
  apply Span.filterMap_cut?
  intro span member
  have inside := Trace.logSpans_inside indent.toList 0 _ span member
  simpa [Trace.log] using inside

namespace Attempt

/-- The ways in which a report comes about: from a grammar that did not compile, or from a trace,
without or with a tree. -/
theorem report_eq_ok [Patterns] (attempt : Attempt) (settings : Settings) (report : Report)
    (reported : attempt.report settings = .ok report) :
    (∃ error, attempt.compileError = some error ∧
      report = ⟨.compileFailed (Grammar.diagnose attempt.grammar error),
        Grammar.definitions attempt.grammar,[]⟩) ∨
    (attempt.compileError = none ∧
      ∃ trace, Trace.ofWire attempt.trace attempt.rules = .ok trace ∧
        ((attempt.tree = none ∧
          report = ⟨attempt.failure settings trace,Grammar.definitions attempt.grammar,[]⟩) ∨
        ∃ tree, attempt.tree = some tree ∧
          report = ⟨attempt.success settings trace tree,Grammar.definitions attempt.grammar,
            trace.matched attempt.rules⟩)) := by
  rw [Attempt.report] at reported
  cases compiled : attempt.compileError with
  | some error =>
    simp only [compiled,Except.ok.injEq] at reported
    exact .inl ⟨error,rfl,reported.symm⟩
  | none =>
    simp only [compiled,bind_eq_ok_iff] at reported
    obtain ⟨trace,decoded,reported⟩ := reported
    refine .inr ⟨rfl,trace,decoded,?_⟩
    cases accepted : attempt.tree with
    | none =>
      simp only [accepted,pure_eq_ok_iff] at reported
      exact .inl ⟨rfl,reported.symm⟩
    | some tree =>
      simp only [accepted,pure_eq_ok_iff] at reported
      exact .inr ⟨tree,rfl,reported.symm⟩

/-- A parse that failed comes from a trace that decodes, and its log is that of this trace. -/
theorem log_of_parseFailed [Patterns] (attempt : Attempt) (settings : Settings) (report : Report)
    (reported : attempt.report settings = .ok report) (tree : Option String)
    (location : Option Location) (log : Trace.Log)
    (failed : report.outcome = .parseFailed tree location log) :
    ∃ trace, Trace.ofWire attempt.trace attempt.rules = .ok trace ∧
      log = trace.log attempt.input attempt.rules settings.traceIndent := by
  rcases attempt.report_eq_ok settings report reported with
    ⟨error,_,rfl⟩ | ⟨_,trace,decoded,⟨_,rfl⟩ | ⟨accepted,_,rfl⟩⟩
  · cases failed
  · cases failed
    exact ⟨trace,decoded,rfl⟩
  · refine ⟨trace,decoded,?_⟩
    dsimp only at failed
    rw [success] at failed
    split at failed
    · cases failed
    · cases failed
      rfl

/-- An outcome with a tree marks nothing on the grammar or the rendering. -/
theorem success_spans (attempt : Attempt) (settings : Settings) (trace : Trace) (tree : Tree) :
    (attempt.success settings trace tree).grammarSpans = [] ∧
    (attempt.success settings trace tree).outputSpans = [] := by
  rw [success]
  split <;> exact ⟨rfl,rfl⟩

/-- What the sets on the grammar and on the rendering hold, each cut to its text. -/
theorem mark_of (attempt : Attempt) (settings : Settings) (report : Report) :
    (report.mark settings (.of attempt report.outcome)).grammar.labelled?
        settings.ruleDefinitionSet =
      some (report.definitions.filterMap (·.cut? attempt.grammar.toList.length)) ∧
    (report.mark settings (.of attempt report.outcome)).grammar.plain? settings.grammarSet =
      some (report.outcome.grammarSpans.filterMap (·.cut? attempt.grammar.toList.length)) ∧
    (report.mark settings (.of attempt report.outcome)).output.plain? settings.traceFailureSet =
      some (report.outcome.outputSpans.filterMap (·.cut? report.outcome.text.toList.length)) := by
  simp [Report.mark,Outcome.mark,Panes.of,Surface.labelled?_markLabelled,Surface.plain?_mark]

/-- Fresh panes show the spans of a report unmoved, under whatever names, which may coincide. -/
theorem report_mark_shows [Patterns] (attempt : Attempt) (settings : Settings) (report : Report)
    (reported : attempt.report settings = .ok report) :
    Panes.Shows attempt settings report (report.mark settings (.of attempt report.outcome)) := by
  obtain ⟨definitions,grammarSpans,outputSpans⟩ := attempt.mark_of settings report
  have labels := filterMap_cut?_definitions attempt.grammar
  rcases attempt.report_eq_ok settings report reported with
    ⟨error,compiled,rfl⟩ | ⟨compiled,trace,_,⟨_,rfl⟩ | ⟨tree,_,rfl⟩⟩
  · refine ⟨definitions.trans (congrArg some labels),?_,outputSpans⟩
    rw [grammarSpans,compiled]
    exact congrArg some (filterMap_cut?_diagnose attempt.grammar error)
  · refine ⟨definitions.trans (congrArg some labels),?_,?_⟩
    · rw [grammarSpans,compiled]
      rfl
    · rw [outputSpans]
      exact congrArg some (filterMap_cut?_log trace attempt.input attempt.rules settings.traceIndent)
  · obtain ⟨onGrammar,onOutput⟩ := attempt.success_spans settings trace tree
    refine ⟨definitions.trans (congrArg some labels),?_,?_⟩
    · rw [grammarSpans,compiled,onGrammar]
      rfl
    · rw [outputSpans,onOutput]
      rw [success]
      split <;> rfl

end Attempt

/-- A grammar that does not compile: the error lies in the rule of its second line. -/
def faultyAttempt : Attempt where
  grammar := "n = '1'\n sum = n\n"
  compileError := some
    { kind := "undefined", message := "no such rule", line := some 2, column := some 2
      rule := some "sum" }

theorem faultyAttempt_shown : ∃ report panes,
    faultyAttempt.report { grammarSet := "marks", ruleDefinitionSet := "marks" } = .ok report ∧
    panes = report.mark { grammarSet := "marks", ruleDefinitionSet := "marks" }
      (.of faultyAttempt report.outcome) ∧
    panes.grammar.labelled? "marks" = some [⟨⟨9,11⟩,"sum"⟩] ∧
    panes.grammar.plain? "marks" = some [⟨9,11⟩] ∧
    panes.output.plain? "trace-failures" = some [] := by
  obtain ⟨definitions,faultyRule,failures⟩ := Attempt.report_mark_shows faultyAttempt
    { grammarSet := "marks", ruleDefinitionSet := "marks" } _ rfl
  refine ⟨_,_,rfl,rfl,definitions.trans ?_,faultyRule.trans ?_,failures⟩
  · decide
  · decide

end ParseScope
