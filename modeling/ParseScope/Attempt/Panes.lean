import ParseScope.Attempt.Report
import ParseScope.Surface

/-!
Reports shown on the three texts of an attempt. Every set that the settings name is written each
time, so nothing of an earlier attempt is left.
-/
namespace ParseScope

/-- The surfaces of the grammar, the input and the rendering. -/
structure Panes where
  grammar : Surface
  input : Surface
  output : Surface

/-- Writes the sets of an outcome, those that do not apply to it empty. -/
def Outcome.mark (outcome : Outcome) (settings : Settings) (panes : Panes) : Panes :=
  { grammar := panes.grammar.mark settings.grammarSet outcome.grammarSpans
    input := panes.input.mark settings.errorSet outcome.located?.toList
    output := panes.output.mark settings.traceFailureSet outcome.outputSpans }

/-- Writes the sets of the outcome and the labelled sets of rules. -/
def Report.mark (report : Report) (settings : Settings) (panes : Panes) : Panes :=
  let panes := report.outcome.mark settings panes
  { panes with
    grammar := panes.grammar.markLabelled settings.ruleDefinitionSet report.definitions
    input := panes.input.markLabelled settings.ruleMatchSet report.matched }

/-- Fresh surfaces over the texts of an attempt and the rendering of its outcome. -/
def Panes.of (attempt : Attempt) (outcome : Outcome) : Panes :=
  ⟨.ofText attempt.grammar, .ofText attempt.input, .ofText outcome.text⟩

end ParseScope
