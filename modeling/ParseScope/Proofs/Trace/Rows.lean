import ParseScope.Proofs.Text.Lines
import ParseScope.Proofs.Text.OneLine
import ParseScope.Trace.Log

/-!
Logs split at line feeds. Whatever the input holds, each record has a row of its own, and so has each
gap, right before the row of the record behind it.
-/
namespace ParseScope.Trace

section Rows

variable (input : List Char) (rules : Rules) (indent : List Char)

/-- A stretch of the input on one line, between quotes. -/
def quoted (start stop : Nat) : List Char :=
  '"' :: Text.oneLine (Text.slice input start stop) ++ ['"']

def margin (depth : Nat) : List Char := (List.replicate depth indent).flatten

def recordRow (record : Record) : List Char :=
  margin indent record.depth ++ (rules.nameOf record.verdict).toList ++
    ' ' :: quoted input record.start record.stop

/-- The row of what was skipped between two neighbours; it stands under the earlier of them. -/
def gapRow (earlier later : Record) : List Char :=
  margin indent earlier.depth ++ quoted input earlier.stop later.start

/-- The rows of a record, given the record before it. -/
def rowsOf : Option Record → Record → List (List Char)
  | none, record => [recordRow input rules indent record]
  | some earlier, record =>
    if earlier.stop < record.start then
      [gapRow input indent earlier record, recordRow input rules indent record]
    else [recordRow input rules indent record]

/-- The rows of all records in trace order, each record taken with its predecessor. -/
def rows (trace : Trace) : List (List Char) :=
  (List.zipWith (rowsOf input rules indent) (none :: trace.map some) trace).flatten

/-- How often a record starts past the end of its predecessor. -/
def gaps (trace : Trace) : Nat :=
  (trace.zip trace.tail).countP fun (earlier, later) => earlier.stop < later.start

/-! ### Rows -/

theorem flatten_zipWith_cons (previous? : Option Record) (record : Record) (rest : Trace) :
    (List.zipWith (rowsOf input rules indent) (previous? :: (record :: rest).map some)
      (record :: rest)).flatten = rowsOf input rules indent previous? record ++
        (List.zipWith (rowsOf input rules indent) (some record :: rest.map some) rest).flatten := by
  rw [List.zipWith_cons_cons,List.flatten_cons,List.map_cons]

theorem length_rowsAfter (earlier : Record) (trace : Trace) :
    (List.zipWith (rowsOf input rules indent) (some earlier :: trace.map some) trace).flatten.length =
      trace.length + gaps (earlier :: trace) := by
  induction trace generalizing earlier with
  | nil => rfl
  | cons record rest ih =>
    have counted : gaps (earlier :: record :: rest) =
        gaps (record :: rest) + if earlier.stop < record.start then 1 else 0 := by
      simp [gaps,List.countP_cons]
    rw [flatten_zipWith_cons,List.length_append,ih,counted,rowsOf,List.length_cons]
    split
    · simp only [List.length_cons,List.length_nil]
      omega
    · simp only [List.length_cons,List.length_nil]
      omega

theorem length_rows (trace : Trace) :
    (rows input rules indent trace).length = trace.length + gaps trace := by
  cases trace with
  | nil => rfl
  | cons record rest =>
    rw [rows,flatten_zipWith_cons,List.length_append,length_rowsAfter,rowsOf,List.length_cons]
    simp only [List.length_cons,List.length_nil]
    omega

variable {indent} in
theorem feed_not_mem_margin (unbroken : '\n' ∉ indent) (depth : Nat) : '\n' ∉ margin indent depth := by
  simp only [margin,List.mem_flatten,List.mem_replicate,not_exists,not_and]
  rintro piece ⟨_,rfl⟩
  exact unbroken

theorem feed_not_mem_quoted (start stop : Nat) : '\n' ∉ quoted input start stop := by
  have escaped := Text.feed_not_mem_oneLine (Text.slice input start stop)
  simp [quoted,escaped]

theorem mem_rows {trace : Trace} {row : List Char} (member : row ∈ rows input rules indent trace) :
    ∃ record ∈ trace, row = recordRow input rules indent record ∨
      ∃ earlier, row = gapRow input indent earlier record := by
  obtain ⟨block,inBlocks,inBlock⟩ := List.mem_flatten.mp member
  obtain ⟨place,bound,rfl⟩ := List.getElem_of_mem inBlocks
  have inside : place < trace.length := by
    rw [List.length_zipWith] at bound
    omega
  rw [List.getElem_zipWith] at inBlock
  refine ⟨_,List.getElem_mem inside,?_⟩
  unfold rowsOf at inBlock
  split at inBlock
  · exact .inl (List.mem_singleton.mp inBlock)
  · next earlier _ =>
    split at inBlock
    · rcases List.mem_cons.mp inBlock with gap | row
      · exact .inr ⟨earlier,gap⟩
      · exact .inl (List.mem_singleton.mp row)
    · exact .inl (List.mem_singleton.mp inBlock)

variable {input rules indent} in
/-- No row is broken by the input: only names and the indentation could break one. -/
theorem feed_not_mem_rows {trace : Trace}
    (named : ∀ record ∈ trace, '\n' ∉ (rules.nameOf record.verdict).toList)
    (unbroken : '\n' ∉ indent) : ∀ row ∈ rows input rules indent trace, '\n' ∉ row := by
  intro row member
  obtain ⟨record,inTrace,rfl | ⟨earlier,rfl⟩⟩ := mem_rows input rules indent member
  · have name := named record inTrace
    simp [recordRow,feed_not_mem_margin unbroken,feed_not_mem_quoted,name]
  · simp [gapRow,feed_not_mem_margin unbroken,feed_not_mem_quoted]

theorem render_ofRecord_row (record : Record) :
    (LogLine.ofRecord input rules record).render indent =
      recordRow input rules indent record ++ ['\n'] := by
  simp [LogLine.render,LogLine.ofRecord,LogLine.depth,LogLine.name,LogLine.tail,
    Text.repeated_eq_flatten,recordRow,margin,quoted]

theorem render_gap_row (earlier later : Record) :
    (LogLine.gap earlier.depth (Text.slice input earlier.stop later.start)).render indent =
      gapRow input indent earlier later ++ ['\n'] := by
  simp [LogLine.render,LogLine.depth,LogLine.name,LogLine.tail,Text.repeated_eq_flatten,gapRow,
    margin,quoted]

theorem map_render_logLinesAfter (earlier : Record) (trace : Trace) :
    (logLinesAfter input rules earlier trace).map (LogLine.render indent) =
      (List.zipWith (rowsOf input rules indent) (some earlier :: trace.map some) trace).flatten.map
        (· ++ ['\n']) := by
  induction trace generalizing earlier with
  | nil => rfl
  | cons record rest ih =>
    rw [logLinesAfter,flatten_zipWith_cons,rowsOf]
    split
    · simp [ih,render_ofRecord_row,render_gap_row]
    · simp [ih,render_ofRecord_row]

/-- The lines of a log are the rows, each ended by a line feed. -/
theorem map_render_logLines (trace : Trace) :
    (logLines input rules trace).map (LogLine.render indent) =
      (rows input rules indent trace).map (· ++ ['\n']) := by
  cases trace with
  | nil => rfl
  | cons record rest =>
    rw [logLines,rows,flatten_zipWith_cons,rowsOf]
    simp [render_ofRecord_row,map_render_logLinesAfter]

end Rows

theorem toList_text_log (input : String) (rules : Rules) (indent : String) (trace : Trace) :
    (trace.log input rules indent).text.toList =
      (rows input.toList rules indent.toList trace).flatMap fun row => row ++ ['\n'] := by
  rw [log,String.toList_ofList,List.flatMap_def,map_render_logLines,← List.flatMap_def]

/-- Split at its line feeds, a log is one row for each record and one for each gap, in trace order,
with nothing behind the last line feed. Only names and the indentation could break a row: the
input may hold any characters. -/
theorem lines_log (input : String) (rules : Rules) (indent : String) (trace : Trace)
    (named : ∀ record ∈ trace, '\n' ∉ (rules.nameOf record.verdict).toList)
    (unbroken : '\n' ∉ indent.toList) :
    Text.lines (trace.log input rules indent).text.toList =
      rows input.toList rules indent.toList trace ++ [[]] ∧
    (rows input.toList rules indent.toList trace).length = trace.length + gaps trace ∧
    (trace = [] → (trace.log input rules indent).text = "") ∧
    (trace ≠ [] → (trace.log input rules indent).text.toList.getLast? = some '\n') := by
  have text := toList_text_log input rules indent trace
  have count := length_rows input.toList rules indent.toList trace
  refine ⟨?_,count,?_,fun some => ?_⟩
  · rw [text]
    exact Text.lines_flatMap _ (feed_not_mem_rows named unbroken)
  · rintro rfl
    rfl
  · have counted := List.length_pos_iff.mpr some
    rcases List.eq_nil_or_concat (rows input.toList rules indent.toList trace) with
      none | ⟨front,last,split⟩
    · rw [none,List.length_nil] at count
      omega
    · rw [text,split]
      simp

/-- A gap, a rule that the table lacks, a record that ends past the input, and a step back. -/
def jumpingTrace : Trace := [⟨.failure 0, 2, 0, 1⟩, ⟨.success 1, 1, 3, 9⟩, ⟨.success 0, 0, 1, 4⟩]

/-- Its rows for an input that breaks in each of three ways. -/
def jumpingRows : List (List Char) :=
  ["» » ñ \"a\"".toList, "» » \"\\n\"".toList, "» ? \"\\n\"b\\n\"".toList, "ñ \"\\n\\n\"".toList]

theorem lines_log_jumping :
    Text.lines (jumpingTrace.log "a\r\n\n\"b\r" ⟨["ñ"]⟩ "» ").text.toList = jumpingRows ++ [[]] ∧
    gaps jumpingTrace = 1 := by
  obtain ⟨split,count,_⟩ :=
    lines_log "a\r\n\n\"b\r" ⟨["ñ"]⟩ "» " jumpingTrace (by decide) (by decide)
  have told : rows "a\r\n\n\"b\r".toList ⟨["ñ"]⟩ "» ".toList jumpingTrace = jumpingRows := by decide
  rw [told] at split count
  exact ⟨split,Nat.add_left_cancel count.symm⟩

end ParseScope.Trace
