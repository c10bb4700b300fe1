import Mathlib.Data.List.Forall2
import ParseScope.Trace.Log

/-!
The names marked in a log. The spans are counted line by line; a span holds its name because the
count at a line is the length of all lines before it.
-/
namespace ParseScope.Trace

/-- The span of a record's name in the text of a log: it lies in the text and holds just the name,
on the record's own line, after the indentation and before a blank and the quote that opens the
match. -/
structure Marks (text : List Char) (lines : List LogLine) (input : List Char) (rules : Rules)
    (indent : List Char) (span : Span) (record : Record) : Prop where
  inside : span.last < text.length
  holds : Text.slice text span.first (span.last + 1) = (rules.nameOf record.verdict).toList
  indented : ∃ earlier, earlier ++ [.ofRecord input rules record] <+: lines ∧
    text.take span.first = earlier.flatMap (LogLine.render indent) ++
      (List.replicate record.depth indent).flatten ∧
    (earlier = [] ∨ (earlier.flatMap (LogLine.render indent)).getLast? = some '\n')
  quoted : [' ','"'] <+: text.drop (span.last + 1)

/-- Whether a line opens with the name of a failed rule. -/
def LogLine.isMarked (line : LogLine) : Bool := line.isFailure && !line.name.isEmpty

theorem LogLine.getLast?_render (indent : List Char) (line : LogLine) :
    (line.render indent).getLast? = some '\n' := by
  cases line <;> simp [LogLine.render,LogLine.tail,List.getLast?_append,List.getLast?_cons]

theorem getLast?_flatMap_render (indent : List Char) (earlier : List LogLine) :
    earlier = [] ∨ (earlier.flatMap (LogLine.render indent)).getLast? = some '\n' := by
  rcases List.eq_nil_or_concat earlier with rfl | ⟨front,line,rfl⟩
  · exact .inl rfl
  · right
    simp [List.getLast?_append,LogLine.getLast?_render]

theorem LogLine.name_length_pos (line : LogLine) (marked : line.isMarked = true) :
    0 < line.name.length := by
  simp only [LogLine.isMarked,Bool.and_eq_true,Bool.not_eq_true',List.isEmpty_eq_false_iff]
    at marked
  exact List.length_pos_iff.mpr marked.2

theorem LogLine.span?_eq_some_iff (indent : List Char) (offset : Nat) (line : LogLine)
    (span : Span) : line.span? indent offset = some span ↔ line.isMarked = true ∧
      span.first = offset + (List.replicate line.depth indent).flatten.length ∧
      span.last + 1 = span.first + line.name.length := by
  obtain ⟨first,last⟩ := span
  simp only [LogLine.span?,Text.repeated_eq_flatten,LogLine.isMarked]
  split
  · next marked =>
    have named := line.name_length_pos marked
    simp only [Option.some.injEq,Span.mk.injEq,marked,true_and]
    omega
  · next unmarked => simp only [reduceCtorEq,unmarked,false_and]

theorem LogLine.isSome_span? (indent : List Char) (offset : Nat) (line : LogLine) :
    (line.span? indent offset).isSome = line.isMarked := by
  simp only [LogLine.span?,LogLine.isMarked]
  split <;> simp [*]

/-- A marked name ends before its line does. -/
theorem LogLine.span?_last_lt (indent : List Char) (offset : Nat) (line : LogLine) (span : Span)
    (found : line.span? indent offset = some span) :
    span.first ≤ span.last ∧ span.last < offset + (line.render indent).length := by
  obtain ⟨marked,first,last⟩ := (line.span?_eq_some_iff indent offset span).mp found
  have named := line.name_length_pos marked
  simp only [LogLine.render,Text.repeated_eq_flatten,List.length_append]
  omega

/-- The line of a record, cut at its name. -/
theorem render_ofRecord (input : List Char) (rules : Rules) (indent : List Char) (record : Record) :
    ∃ rest, (LogLine.ofRecord input rules record).render indent =
      (List.replicate record.depth indent).flatten ++
        ((rules.nameOf record.verdict).toList ++ ([' ','"'] ++ rest)) := by
  refine ⟨Text.oneLine (Text.slice input record.start record.stop) ++ ['"','\n'],?_⟩
  simp [LogLine.render,LogLine.ofRecord,LogLine.depth,LogLine.name,LogLine.tail,
    Text.repeated_eq_flatten]

/-- A text of four pieces, cut at both ends of the third. -/
theorem cut_pieces (lead margin name rest : List Char) (span : Span)
    (first : span.first = lead.length + margin.length)
    (last : span.last + 1 = span.first + name.length) :
    (lead ++ margin ++ name ++ rest).take span.first = lead ++ margin ∧
      Text.slice (lead ++ margin ++ name ++ rest) span.first (span.last + 1) = name ∧
      (lead ++ margin ++ name ++ rest).drop (span.last + 1) = rest := by
  have toFirst : (lead ++ margin).length = span.first := by rw [List.length_append,first]
  have toLast : (lead ++ margin ++ name).length = span.last + 1 := by
    rw [List.length_append,toFirst,last]
  refine ⟨?_,?_,List.drop_left' toLast⟩
  · rw [List.append_assoc]
    exact List.take_left' toFirst
  · rw [Text.slice,List.take_left' toLast]
    exact List.drop_left' toFirst

/-- A span counted from the length of the lines before a record's line marks the record. -/
theorem marks_of_line (input : List Char) (rules : Rules) (indent : List Char) (record : Record)
    (before after : List LogLine) (span : Span)
    (found : (LogLine.ofRecord input rules record).span? indent
      (before.flatMap (LogLine.render indent)).length = some span) :
    Marks ((before ++ .ofRecord input rules record :: after).flatMap (LogLine.render indent))
      (before ++ .ofRecord input rules record :: after) input rules indent span record := by
  obtain ⟨rest,rendered⟩ := render_ofRecord input rules indent record
  obtain ⟨_,first,last⟩ := (LogLine.span?_eq_some_iff _ _ _ _).mp found
  obtain ⟨lead,held,tail⟩ := cut_pieces (before.flatMap (LogLine.render indent))
    (List.replicate record.depth indent).flatten (rules.nameOf record.verdict).toList
    ([' ','"'] ++ (rest ++ after.flatMap (LogLine.render indent))) span first last
  have text : (before ++ .ofRecord input rules record :: after).flatMap (LogLine.render indent) =
      before.flatMap (LogLine.render indent) ++ (List.replicate record.depth indent).flatten ++
        (rules.nameOf record.verdict).toList ++
        ([' ','"'] ++ (rest ++ after.flatMap (LogLine.render indent))) := by
    simp only [List.flatMap_append,List.flatMap_cons,rendered,List.append_assoc]
  rw [text]
  refine ⟨?_,held,⟨before,⟨after,by simp⟩,lead,getLast?_flatMap_render indent before⟩,?_⟩
  · apply Nat.lt_of_succ_lt
    apply List.length_lt_of_drop_ne_nil
    rw [tail]
    exact List.cons_ne_nil _ _
  · rw [tail]
    exact List.prefix_append _ _

/-- The spans of the lines from `rest` on mark the records of those lines that open with the name
of a failed rule. -/
theorem forall₂_marks (input : List Char) (rules : Rules) (indent : List Char)
    (before rest : List LogLine) :
    List.Forall₂ (fun span line => ∀ record, line = .ofRecord input rules record →
        Marks ((before ++ rest).flatMap (LogLine.render indent)) (before ++ rest) input rules
          indent span record)
      (logSpans indent (before.flatMap (LogLine.render indent)).length rest)
      (rest.filter LogLine.isMarked) := by
  induction rest generalizing before with
  | nil => exact .nil
  | cons line rest ih =>
    have others := ih (before ++ [line])
    simp only [List.append_assoc,List.cons_append,List.nil_append,List.flatMap_append,
      List.flatMap_singleton,List.length_append] at others
    rw [logSpans,List.filter_cons,← LogLine.isSome_span? indent
      (before.flatMap (LogLine.render indent)).length line]
    cases found : line.span? indent (before.flatMap (LogLine.render indent)).length with
    | none => simpa using others
    | some span =>
      simp only [Option.toList_some,List.cons_append,List.nil_append,Option.isSome_some,if_true]
      refine .cons ?_ (by simpa using others)
      rintro record rfl
      exact marks_of_line input rules indent record before rest span found

theorem isMarked_ofRecord (input : List Char) (rules : Rules) (record : Record) :
    (LogLine.ofRecord input rules record).isMarked =
      (record.isFailure && rules.nameOf record.verdict ≠ "") := by
  by_cases unnamed : rules.nameOf record.verdict = ""
  · simp [LogLine.isMarked,LogLine.ofRecord,LogLine.name,unnamed]
  · have named := mt String.toList_eq_nil_iff.mp unnamed
    simp [LogLine.isMarked,LogLine.ofRecord,LogLine.isFailure,LogLine.name,unnamed,named]

/-- Gap lines are never marked. -/
theorem filter_logLinesAfter (input : List Char) (rules : Rules) (previous : Record)
    (trace : Trace) :
    (logLinesAfter input rules previous trace).filter LogLine.isMarked =
      (trace.map (LogLine.ofRecord input rules)).filter LogLine.isMarked := by
  induction trace generalizing previous with
  | nil => rfl
  | cons record rest ih =>
    simp only [logLinesAfter,List.map_cons]
    split
    · rw [List.filter_cons_of_neg (by simp [LogLine.isMarked,LogLine.isFailure])]
      simp only [List.filter_cons,ih record]
    · simp only [List.filter_cons,ih record]

theorem filter_logLines (input : List Char) (rules : Rules) (trace : Trace) :
    (logLines input rules trace).filter LogLine.isMarked =
      (trace.filter fun record => record.isFailure && rules.nameOf record.verdict ≠ "").map
        (LogLine.ofRecord input rules) := by
  have lines : (logLines input rules trace).filter LogLine.isMarked =
      (trace.map (LogLine.ofRecord input rules)).filter LogLine.isMarked := by
    cases trace with
    | nil => rfl
    | cons record rest =>
      simp only [logLines,List.map_cons,List.filter_cons,filter_logLinesAfter]
  rw [lines,List.filter_map]
  congr 2
  funext record
  exact isMarked_ofRecord input rules record

/-- The spans of the lines from `offset` on end before these lines do. -/
theorem logSpans_inside (indent : List Char) (offset : Nat) (lines : List LogLine) :
    ∀ span ∈ logSpans indent offset lines,
      span.last < offset + (lines.flatMap (LogLine.render indent)).length := by
  induction lines generalizing offset with
  | nil => simp [logSpans]
  | cons line rest ih =>
    intro span member
    rw [logSpans,List.mem_append,Option.mem_toList] at member
    rw [List.flatMap_cons,List.length_append]
    rcases member with found | member
    · have inLine := (line.span?_last_lt indent offset span found).2
      omega
    · have inRest := ih _ span member
      omega

end ParseScope.Trace
