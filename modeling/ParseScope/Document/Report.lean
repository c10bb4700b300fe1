import ParseScope.Attempt.Report
import ParseScope.Json.Value

/-!
Reports as documents.
-/
namespace ParseScope

open Json (Value)

def Span.write (span : Span) : Value :=
  .object [("start", .ofNat span.first), ("end", .ofNat span.last)]

def Labelled.write (labelled : Labelled) : Value :=
  .object [("range", labelled.span.write), ("label", .string labelled.label)]

def Verdict.write (verdict : Verdict) : Value :=
  .object [("outcome", .string (if verdict.isSuccess then "success" else "failure")),
    ("rule", .ofNat verdict.rule)]

def Cause.write : Cause → Value
  | trailingInput matchedEnd =>
    .object [("kind", .string "trailing-input"), ("matched_end", .ofNat matchedEnd)]
  | failedRule verdict depth stop =>
    .object [("kind", .string "failed-rule"), ("attempt", verdict.write), ("depth", .ofNat depth),
      ("end", .ofNat stop)]

def Location.write (location : Location) : Value :=
  .object [("span", location.span.write), ("cause", location.cause.write)]

def Trace.Log.write (log : Trace.Log) : Value :=
  .object [("text", .string log.text), ("failures", .list (log.failed.map Span.write))]

/-- The outcome's status comes first. -/
def Outcome.write : Outcome → Value
  | compileFailed diagnosis =>
    .object [("status", .string "compile-failed"), ("message", .string diagnosis.message),
      ("rule_span", .ofOption Span.write diagnosis.ruleSpan),
      ("position", .ofOption Span.write diagnosis.position)]
  | parsed tree => .object [("status", .string "parsed"), ("tree", .string tree)]
  | parseFailed tree location log =>
    .object [("status", .string "parse-failed"), ("tree", .ofOption .string tree),
      ("location", .ofOption Location.write location), ("trace", log.write)]

def Report.write (report : Report) : Value :=
  .object [("outcome", report.outcome.write),
    ("rule_definitions", .list (report.definitions.map Labelled.write)),
    ("rule_matches", .list (report.matched.map Labelled.write))]

end ParseScope
