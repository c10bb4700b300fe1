import ParseScope.Proofs.Attempt.Panes

/-!
Panes that show one attempt after another. A report replaces the five sets that the settings name
and touches nothing else, so after a run of attempts the panes are as the last one that has a report
leaves them on its own.
-/
namespace ParseScope

open Grammar (Patterns)

/-- Two surfaces have the same text and the same sets, but for plain sets of some names and labelled
ones of others. -/
structure Surface.AgreesApart (plain labelled : List String) (surface other : Surface) : Prop where
  text : surface.text = other.text
  plain : ∀ name ∉ plain, surface.plain? name = other.plain? name
  labelled : ∀ name ∉ labelled, surface.labelled? name = other.labelled? name

/-- What a report leaves on panes: the five sets are its spans, each cut to the text it is shown on,
and all else is as it was before. -/
structure Panes.Rewritten (settings : Settings) (report : Report) (before after : Panes) :
    Prop where
  grammarSet : after.grammar.plain? settings.grammarSet =
    some (report.outcome.grammarSpans.filterMap (·.cut? before.grammar.length))
  ruleDefinitionSet : after.grammar.labelled? settings.ruleDefinitionSet =
    some (report.definitions.filterMap (·.cut? before.grammar.length))
  errorSet : after.input.plain? settings.errorSet =
    some (report.outcome.located?.toList.filterMap (·.cut? before.input.length))
  ruleMatchSet : after.input.labelled? settings.ruleMatchSet =
    some (report.matched.filterMap (·.cut? before.input.length))
  traceFailureSet : after.output.plain? settings.traceFailureSet =
    some (report.outcome.outputSpans.filterMap (·.cut? before.output.length))
  grammar : after.grammar.AgreesApart [settings.grammarSet] [settings.ruleDefinitionSet]
    before.grammar
  input : after.input.AgreesApart [settings.errorSet] [settings.ruleMatchSet] before.input
  output : after.output.AgreesApart [settings.traceFailureSet] [] before.output

theorem Surface.mark_agreesApart (surface : Surface) (name : String) (spans : List Span) :
    (surface.mark name spans).AgreesApart [name] [] surface where
  text := rfl
  plain other apart := surface.plain?_mark_of_ne name other spans (List.ne_of_not_mem_cons apart)
  labelled other _ := surface.labelled?_mark name other spans

theorem Surface.markLabelled_mark_agreesApart (surface : Surface) (name labelledName : String)
    (spans : List Span) (labelled : List Labelled) :
    ((surface.mark name spans).markLabelled labelledName labelled).AgreesApart [name]
      [labelledName] surface where
  text := rfl
  plain other apart := surface.plain?_mark_of_ne name other spans (List.ne_of_not_mem_cons apart)
  labelled other apart :=
    surface.labelled?_markLabelled_of_ne labelledName other labelled (List.ne_of_not_mem_cons apart)

theorem Report.rewritten_mark (report : Report) (settings : Settings) (panes : Panes) :
    Panes.Rewritten settings report panes (report.mark settings panes) where
  grammarSet := panes.grammar.plain?_mark settings.grammarSet _
  ruleDefinitionSet := (panes.grammar.mark _ _).labelled?_markLabelled settings.ruleDefinitionSet _
  errorSet := panes.input.plain?_mark settings.errorSet _
  ruleMatchSet := (panes.input.mark _ _).labelled?_markLabelled settings.ruleMatchSet _
  traceFailureSet := panes.output.plain?_mark settings.traceFailureSet _
  grammar := panes.grammar.markLabelled_mark_agreesApart _ _ _ _
  input := panes.input.markLabelled_mark_agreesApart _ _ _ _
  output := panes.output.mark_agreesApart _ _

/-- Every set of an earlier outcome is written again. -/
theorem Report.mark_after_outcome (report : Report) (earlier : Outcome) (settings : Settings)
    (panes : Panes) : report.mark settings (earlier.mark settings panes) =
      report.mark settings panes := by
  simp [Report.mark,Outcome.mark]

theorem Report.mark_after_report (report earlier : Report) (settings : Settings) (panes : Panes) :
    report.mark settings (earlier.mark settings panes) = report.mark settings panes := by
  simp [Report.mark,Outcome.mark]

/-! ### Runs of attempts -/

/-- An attempt to be shown, with all of its sets or with those of its outcome alone. -/
structure Showing where
  attempt : Attempt
  outcomeOnly : Bool := false

namespace Panes

/-- Shows an attempt; one that has no report leaves the panes as they are. -/
def after [Patterns] (settings : Settings) (panes : Panes) (showing : Showing) : Panes :=
  match showing.attempt.report settings with
  | .error _ => panes
  | .ok report =>
    if showing.outcomeOnly then report.outcome.mark settings panes else report.mark settings panes

/-- Shows attempts one after another. -/
def afterAll [Patterns] (settings : Settings) (panes : Panes) (history : List Showing) : Panes :=
  history.foldl (after settings) panes

theorem afterAll_append [Patterns] (settings : Settings) (panes : Panes)
    (history more : List Showing) :
    panes.afterAll settings (history ++ more) =
      (panes.afterAll settings history).afterAll settings more :=
  List.foldl_append

theorem after_of_error [Patterns] (settings : Settings) (panes : Panes) (showing : Showing)
    (error : Trace.WireError) (refused : showing.attempt.report settings = .error error) :
    panes.after settings showing = panes := by
  rw [after,refused]

/-- A report does not show whether another attempt came before it. -/
theorem mark_after [Patterns] (settings : Settings) (panes : Panes) (showing : Showing)
    (report : Report) :
    report.mark settings (panes.after settings showing) = report.mark settings panes := by
  cases reported : showing.attempt.report settings with
  | error error => rw [after_of_error settings panes showing error reported]
  | ok earlier =>
    rw [after,reported]
    cases showing.outcomeOnly with
    | true => exact report.mark_after_outcome earlier.outcome settings panes
    | false => exact report.mark_after_report earlier settings panes

theorem mark_afterAll [Patterns] (settings : Settings) (panes : Panes) (history : List Showing)
    (report : Report) :
    report.mark settings (panes.afterAll settings history) = report.mark settings panes := by
  induction history generalizing panes with
  | nil => rfl
  | cons showing history ih => exact (ih _).trans (mark_after settings panes showing report)

/-- Attempts without a report change nothing. -/
theorem afterAll_of_errors [Patterns] (settings : Settings) (panes : Panes) (failed : List Showing)
    (refused : ∀ showing ∈ failed, ∃ error, showing.attempt.report settings = .error error) :
    panes.afterAll settings failed = panes := by
  induction failed with
  | nil => rfl
  | cons showing failed ih =>
    obtain ⟨⟨error,first⟩,later⟩ := List.forall_mem_cons.mp refused
    rw [afterAll,List.foldl_cons,after_of_error settings panes showing error first]
    exact ih later

/-- A report leaves the panes as it leaves them on its own: nothing of a report or an outcome shown
before it remains, and of a run of attempts only the last one with a report is seen. -/
theorem report_forgets [Patterns] (settings : Settings) (panes : Panes) (report : Report) :
    (∀ earlier : Report,
      report.mark settings (earlier.mark settings panes) = report.mark settings panes) ∧
    (∀ earlier : Outcome,
      report.mark settings (earlier.mark settings panes) = report.mark settings panes) ∧
    Rewritten settings report panes (report.mark settings panes) ∧
    ∀ history failed : List Showing,
      (∀ showing ∈ failed, ∃ error, showing.attempt.report settings = .error error) →
      panes.afterAll settings (history ++ failed) = panes.afterAll settings history ∧
      ∀ last : Attempt, last.report settings = .ok report →
        panes.afterAll settings (history ++ ⟨last,false⟩ :: failed) =
          report.mark settings panes := by
  refine ⟨fun earlier => report.mark_after_report earlier settings panes,
    fun earlier => report.mark_after_outcome earlier settings panes,
    report.rewritten_mark settings panes,fun history failed refused => ⟨?_,fun last reported => ?_⟩⟩
  · rw [afterAll_append]
    exact afterAll_of_errors settings _ failed refused
  · have shown : (panes.afterAll settings history).after settings ⟨last,false⟩ =
        report.mark settings panes := by
      rw [after,reported]
      exact mark_afterAll settings panes history report
    rw [afterAll_append,afterAll,List.foldl_cons,shown]
    exact afterAll_of_errors settings _ failed refused

end Panes

/-- A parse that stops before the end of its input. -/
def shortAttempt : Attempt where
  input := "abc def"
  rules := ⟨["word"]⟩
  trace := [0,0,0,3]

/-- One name for all sets. -/
def oneName : Settings where
  errorSet := "marks"
  traceFailureSet := "marks"
  grammarSet := "marks"
  ruleMatchSet := "marks"
  ruleDefinitionSet := "marks"

/-- A compile error shown before and a trace of one number shown after leave no mark. -/
theorem shortAttempt_alone : ∃ report,
    shortAttempt.report oneName = .ok report ∧
    ({ trace := [0] } : Attempt).report oneName = .error (.truncated 1) ∧
    (Panes.of faultyAttempt (.parsed "")).afterAll oneName
        [⟨faultyAttempt,false⟩,⟨shortAttempt,false⟩,⟨{ trace := [0] },false⟩] =
      report.mark oneName (Panes.of faultyAttempt (.parsed "")) ∧
    (report.mark oneName (Panes.of faultyAttempt (.parsed ""))).grammar.plain? "marks" =
      some [] := by
  obtain ⟨_,_,rewritten,runs⟩ := Panes.report_forgets oneName
    (Panes.of faultyAttempt (.parsed "")) _
  obtain ⟨_,alone⟩ := runs [⟨faultyAttempt,false⟩] [⟨{ trace := [0] },false⟩]
    (List.forall_mem_singleton.mpr ⟨_,rfl⟩)
  exact ⟨_,rfl,rfl,alone shortAttempt rfl,rewritten.grammarSet⟩

end ParseScope
