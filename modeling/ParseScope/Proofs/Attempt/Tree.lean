import ParseScope.Proofs.Attempt.Panes
import ParseScope.Proofs.Location

/-!
What a tree changes in a report. With a tree only input after the match is an error, and without it
such input is still the first thing looked for, so that the two reports never disagree on it.
-/
namespace ParseScope

open Grammar (Patterns)

/-- The location is where the input goes on after the match. -/
def Location.IsTrailing (location : Location) : Prop :=
  ∃ matched, location.cause = .trailingInput matched

theorem Location.isTrailing_of_ofTrailing? (trace : Trace) (input : List Char)
    (location : Location) (found : ofTrailing? trace input = some location) :
    location.IsTrailing := by
  obtain ⟨matched,_,_,rfl⟩ := (ofTrailing?_eq_some_iff trace input location).mp found
  exact ⟨matched,rfl⟩

/-- Of the failures only a failed rule can be the cause. -/
theorem Location.not_isTrailing_of_ofFailures? (trace : Trace) (input : List Char)
    (location : Location) (found : ofFailures? trace input = some location) :
    ¬ location.IsTrailing := by
  obtain ⟨record,_,rfl⟩ := Option.map_eq_some_iff.mp found
  rintro ⟨matched,cause⟩
  exact Cause.noConfusion cause

/-- The outcome of a parse with a tree, and that of the same parse without it. -/
inductive Outcome.Agree : Outcome → Outcome → Prop
  | parsed (drawing : String) (location : Option Location) (log : Trace.Log)
      (elsewhere : ∀ found ∈ location, ¬ found.IsTrailing) :
      Agree (.parsed drawing) (.parseFailed none location log)
  | cutShort (drawing : String) (location : Location) (log : Trace.Log)
      (trailing : location.IsTrailing) :
      Agree (.parseFailed (some drawing) (some location) log)
        (.parseFailed none (some location) log)

/-- The tree was accepted exactly when the parse without it was not found to stop early. -/
theorem Outcome.Agree.parsed_iff {outcome bare : Outcome} (agree : outcome.Agree bare) :
    (∃ drawing, outcome = .parsed drawing) ↔
      ∀ tree location log, bare = .parseFailed tree (some location) log →
        ¬ location.IsTrailing := by
  cases agree with
  | parsed drawing location log elsewhere =>
    refine iff_of_true ⟨drawing,rfl⟩ ?_
    rintro _ found _ same
    obtain ⟨_,rfl,_⟩ := Outcome.parseFailed.inj same
    exact elsewhere found rfl
  | cutShort drawing location log trailing =>
    constructor
    · rintro ⟨_,same⟩
      exact Outcome.noConfusion same
    · intro elsewhere
      exact absurd trailing (elsewhere none location log rfl)

/-- What the reports on a parse with a tree and on the same parse without it have in common. -/
structure Report.Agree (report bare : Report) : Prop where
  outcome : report.outcome.Agree bare.outcome
  parsed_iff : (∃ drawing, report.outcome = .parsed drawing) ↔
    ∀ tree location log, bare.outcome = .parseFailed tree (some location) log →
      ¬ location.IsTrailing
  definitions : report.definitions = bare.definitions
  unmatched : bare.matched = []

namespace Attempt

theorem success_agrees_failure (attempt : Attempt) (settings : Settings) (trace : Trace)
    (tree : Tree) : (attempt.success settings trace tree).Agree (attempt.failure settings trace) := by
  rw [success,failure,Location.ofTrace?]
  cases found : Location.ofTrailing? trace attempt.input.toList with
  | none =>
    rw [Option.none_or]
    exact .parsed _ _ _ (Location.not_isTrailing_of_ofFailures? trace _)
  | some location =>
    rw [Option.some_or]
    exact .cutShort _ _ _ (Location.isTrailing_of_ofTrailing? trace _ location found)

/-- A parse with a tree and the same parse without it both have a report or fail with the same
error, and the reports agree: on whether input follows the match, on where, and on the log. -/
theorem report_agrees_without_tree [Patterns] (attempt : Attempt) (settings : Settings)
    (tree : Tree) (compiled : attempt.compileError = none) (accepted : attempt.tree = some tree) :
    (∃ error, attempt.report settings = .error error ∧
      { attempt with tree := none }.report settings = .error error) ∨
    ∃ report bare, attempt.report settings = .ok report ∧
      { attempt with tree := none }.report settings = .ok bare ∧ report.Agree bare := by
  simp only [report,compiled,accepted]
  cases Trace.ofWire attempt.trace attempt.rules with
  | error error => exact .inl ⟨error,rfl,rfl⟩
  | ok trace =>
    have outcomes := attempt.success_agrees_failure settings trace tree
    exact .inr ⟨_,_,rfl,rfl,outcomes,outcomes.parsed_iff,rfl,rfl⟩

end Attempt

/-- A parse with a tree that stops early, after an attempt that failed further on. -/
def earlyAttempt : Attempt where
  input := "ab cd"
  rules := ⟨["words","word"]⟩
  trace := [-2,1,3,5, 0,0,0,2]
  tree := some (.leaf "words" "ab")

theorem earlyAttempt_without_tree : ∃ report bare, earlyAttempt.report {} = .ok report ∧
    { earlyAttempt with tree := none }.report {} = .ok bare ∧ report.Agree bare ∧
    report.outcome.located? = some ⟨2,4⟩ ∧ bare.outcome.located? = some ⟨2,4⟩ := by
  rcases earlyAttempt.report_agrees_without_tree {} (.leaf "words" "ab") rfl rfl with
    ⟨error,failed,_⟩ | ⟨report,bare,reported,reportedBare,agree⟩
  · cases failed
  · obtain rfl := Except.ok.inj reported
    obtain rfl := Except.ok.inj reportedBare
    exact ⟨_,_,rfl,rfl,agree,by decide,by decide⟩

end ParseScope
