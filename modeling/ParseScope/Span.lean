/-!
Inclusive spans of character offsets into one text. `Span.cut?` keeps what a span covers of a
text, when that is at least two positions.
-/
namespace ParseScope

/-- The positions from `first` up to and including `last`. -/
structure Span where
  first : Nat
  last : Nat
  deriving DecidableEq, Repr, Inhabited

/-- The span of a single position. -/
def Span.single (offset : Nat) : Span := ⟨offset, offset⟩

/-- Cut to a text of `length` characters; `none` when no positive extent is left. -/
def Span.cut? (span : Span) (length : Nat) : Option Span :=
  if length = 0 then none
  else
    let first := min span.first (length - 1)
    let last := min span.last (length - 1)
    if first < last then some ⟨first, last⟩ else none

/-- A span together with the name of the rule it belongs to. -/
structure Labelled where
  span : Span
  label : String
  deriving DecidableEq, Repr

def Labelled.cut? (labelled : Labelled) (length : Nat) : Option Labelled :=
  (labelled.span.cut? length).map (⟨·, labelled.label⟩)

end ParseScope
