import ParseScope.Span
import ParseScope.Text.Classes
import ParseScope.Trace.Basic

/-!
The most likely place of the error in an input. Input that goes on past the top-level match comes
first; otherwise the failed attempt that reached furthest decides.
-/
namespace ParseScope

/-- Why a span was chosen. -/
inductive Cause
  | trailingInput (matchedEnd : Nat)
  | failedRule (verdict : Verdict) (depth stop : Nat)
  deriving DecidableEq, Repr

structure Location where
  span : Span
  cause : Cause
  deriving DecidableEq, Repr

namespace Location

/-- The span worth highlighting at a position: the rest of the token there, a line break with one
position on either side, or the position alone. -/
def spanAt (text : List Char) (position : Nat) : Span :=
  match text[position]? with
  | none => .single position
  | some c =>
    if Text.isLineBreak c then ⟨position - 1, min (position + 1) text.length⟩
    else if Text.isTokenPart c then
      ⟨position, position + ((text.drop (position + 1)).takeWhile Text.isTokenPart).length⟩
    else .single position

/-- The greatest end of a successful top-level record. -/
def matchedEnd? (trace : Trace) : Option Nat :=
  ((trace.filter fun record => record.depth = 0 && record.isSuccess).map Record.stop).max?

/-- The input after the top-level match, if there is any: the whole check for a parse that gave a
tree. -/
def ofTrailing? (trace : Trace) (input : List Char) : Option Location :=
  match matchedEnd? trace with
  | none => none
  | some matched =>
    if matched < input.length then
      some ⟨⟨matched, input.length - 1⟩, .trailingInput matched⟩
    else none

/-- Whether `record` reached further than `best`, or as far and deeper. -/
def reachesFurther (record best : Record) : Bool :=
  best.stop < record.stop || (record.stop = best.stop && best.depth < record.depth)

/-- The record that reaches furthest; of several such the earliest. -/
def furthest? : List Record → Option Record
  | [] => none
  | record :: rest =>
    some (rest.foldl (fun best next => if reachesFurther next best then next else best) record)

def ofFailures? (trace : Trace) (input : List Char) : Option Location :=
  (furthest? trace.failed).map fun record =>
    ⟨spanAt input record.stop, .failedRule record.verdict record.depth record.stop⟩

/-- The most likely error, if there is anything to report. -/
def ofTrace? (trace : Trace) (input : List Char) : Option Location :=
  (ofTrailing? trace input).or (ofFailures? trace input)

end Location

end ParseScope
