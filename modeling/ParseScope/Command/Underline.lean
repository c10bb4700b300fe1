import ParseScope.Span
import ParseScope.Text.Position

/-!
A line of a text with a span underlined.
-/
namespace ParseScope.Command

/-- The line on which a span begins, behind its number, and under it carets for what the span covers
of that line, one at least. The length of the span is a sum of 64 bits. -/
def underline (text : List Char) (span : Span) : List Char :=
  let p := Text.positionAt text span.first
  let source := Text.lineAt text p.line
  let room := max (source.length - (p.column - 1)) 1
  let width := min ((span.last - span.first + 1) % UInt64.size) room
  let number := (toString p.line).toList
  number ++ ' ' :: '|' :: ' ' :: source ++ '\n' ::
    (List.replicate number.length ' ' ++ ' ' :: '|' :: ' ' ::
      (List.replicate (p.column - 1) ' ' ++ List.replicate width '^' ++ ['\n']))

end ParseScope.Command
