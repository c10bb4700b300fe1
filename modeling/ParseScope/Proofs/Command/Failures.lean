import ParseScope.Proofs.Attempt.Document
import ParseScope.Proofs.Attempt.Load
import ParseScope.Proofs.Attempt.Panes
import ParseScope.Proofs.Command.Printing

/-!
How the commands tell of failures. The names of all failed rules are listed with the trace, while
what is counted under a failed parse are the marks of its log: a rule without a name has none.
-/
namespace ParseScope

/-- The names of the failed records, in trace order. -/
def Trace.failedNames (trace : Trace) (rules : Rules) : List String :=
  trace.failed.map fun record => rules.nameOf record.verdict

/-- As many spans are marked in a log as there are failed rules with a name. -/
theorem Trace.length_failed_log (input : String) (rules : Rules) (indent : String) (trace : Trace) :
    (trace.log input rules indent).failed.length =
      ((trace.failedNames rules).filter (· ≠ "")).length := by
  have marks := (forall₂_marks input.toList rules indent.toList []
    (logLines input.toList rules trace)).length_eq
  rw [List.flatMap_nil,List.length_nil,filter_logLines,List.length_map] at marks
  rw [log,marks,failedNames,List.filter_map,List.length_map,failed,List.filter_filter]
  simp only [Function.comp_def,Bool.and_comm]

/-- All failed records are among those with a name unless one has none. -/
theorem Trace.length_named_eq_iff (rules : Rules) (trace : Trace) :
    ((trace.failedNames rules).filter (· ≠ "")).length = trace.failed.length ↔
      "" ∉ trace.failedNames rules := by
  have all : trace.failed.length = (trace.failedNames rules).length := by
    rw [failedNames,List.length_map]
  rw [all,List.length_filter_eq_length_iff]
  constructor
  · intro named unnamed
    simpa using named "" unnamed
  · rintro named name member
    have other : name ≠ "" := fun unnamed => named (unnamed ▸ member)
    simpa using other

/-- A file that holds the document of an attempt loads as this attempt, unless it nests too deep. -/
theorem Attempt.loads_render {disk : Disk} {path : String} (attempt : Attempt)
    (holds : disk.Holds path attempt.write.render)
    (shallow : attempt.write.outline.depth ≤ Document.maxLevels) : Loads disk path attempt := by
  have document := Json.holds_render attempt.write attempt.hasWords_write
  refine ⟨_,holds,?_⟩
  rw [ofText,Document.readDocument_of_holds read _ _ document,
    attempt.read_write Document.maxLevels (by decide),if_pos shallow]

namespace Command

open Grammar (Patterns)

/-- The line that tells how many attempts failed, if any did. -/
def countLine (number : Nat) : String :=
  if number = 0 then "" else s!"{number} failed attempts in trace\n"

/-- The lines that list names, if there are any. -/
def listLines (names : List String) : String :=
  if names = [] then "" else "\nFailed rules: " ++ String.intercalate ", " names ++ "\n"

theorem failureCount_eq (log : Trace.Log) : failureCount log = countLine log.failed.length := by
  simp only [failureCount,countLine,List.isEmpty_iff,List.length_eq_zero_iff]

theorem failedRules_eq (rules : Rules) (trace : Trace) :
    failedRules rules trace = listLines (trace.failedNames rules) := by
  rw [failedRules,listLines,Trace.failedNames]
  cases trace.failed with
  | nil => rfl
  | cons record rest => rfl

/-- What is printed of a parse that failed, up to the count of its failures. -/
def account (settings : Settings) (attempt : Attempt) (report : Report)
    (location : Option Location) : String :=
  report.outcome.text ++ describe settings attempt.rules
    (report.mark settings (.of attempt report.outcome)).input location

/-- The text is lines, the last of them ended. -/
def EndsLine (text : String) : Prop := text.toList.getLast? = some '\n'

instance (text : String) : Decidable (EndsLine text) :=
  inferInstanceAs (Decidable (text.toList.getLast? = some '\n'))

theorem EndsLine.append {text : String} (ends : EndsLine text) (front : String) :
    EndsLine (front ++ text) := by
  rw [EndsLine,String.toList_append,List.getLast?_append,ends,Option.some_or]

theorem endsLine_underlineOn (surface : Surface) (span : Span) :
    EndsLine (underlineOn surface span) := by
  rw [EndsLine,underlineOn,String.toList_ofList]
  simp [underline,List.getLast?_append,List.getLast?_cons]

theorem endsLine_describe (settings : Settings) (rules : Rules) (input : Surface)
    (location : Option Location) : EndsLine (describe settings rules input location) := by
  unfold describe
  cases location with
  | none =>
    dsimp only
    decide
  | some location =>
    -- The remark ends a line, and without one the excerpt before it does.
    unfold remark
    dsimp only
    split
    · have last : EndsLine "' highlights\n" := by decide
      exact ((last.append _).append _).append _
    · rw [String.append_empty]
      exact (endsLine_underlineOn input location.span).append _

/-- What the two commands say of the failures of a trace: `traced` lists a name for each failed
record, and `rendered` counts the names among these that are not empty, on a line behind
`before`. -/
structure Counts (rules : Rules) (trace : Trace) (before log : String)
    (rendered traced : Except Attempt.LoadError String) : Prop where
  listed : traced = .ok (log ++ listLines (trace.failedNames rules))
  all : (trace.failedNames rules).length = trace.failed.length
  counted : rendered =
    .ok (before ++ countLine ((trace.failedNames rules).filter (· ≠ "")).length)
  ended : EndsLine before
  omitted_iff : rendered = .ok before ↔ ∀ name ∈ trace.failedNames rules, name = ""
  agree_iff : ((trace.failedNames rules).filter (· ≠ "")).length = trace.failed.length ↔
    "" ∉ trace.failedNames rules

/-- Of an attempt that loads and has a report, the text of this report is printed. -/
theorem render_reported [Patterns] (settings : Settings) (disk : Disk) (path : String)
    (attempt : Attempt) (report : Report) (loads : Attempt.Loads disk path attempt)
    (reported : attempt.report settings = .ok report) :
    render settings disk path .text = .ok (describeReport settings attempt report) := by
  have loaded := (Attempt.load_eq_ok_iff disk path attempt).mpr loads
  rw [render_eq,bind_eq_ok_iff]
  refine ⟨attempt,loaded,(bind_eq_ok_iff _ _ _).mpr ⟨report,?_,rfl⟩⟩
  exact (mapError_eq_ok_iff _ _ _).mpr reported

theorem render_parseFailed [Patterns] (settings : Settings) (disk : Disk) (path : String)
    (attempt : Attempt) (report : Report) (tree : Option String) (location : Option Location)
    (log : Trace.Log) (loads : Attempt.Loads disk path attempt)
    (reported : attempt.report settings = .ok report)
    (failed : report.outcome = .parseFailed tree location log) :
    render settings disk path .text =
      .ok (account settings attempt report location ++ countLine log.failed.length) := by
  have text : describeReport settings attempt report =
      account settings attempt report location ++ countLine log.failed.length := by
    rw [describeReport,failed,← failureCount_eq,account,failed]
    rfl
  rw [render_reported settings disk path attempt report loads reported,text]

theorem trace_decoded (settings : Settings) (disk : Disk) (path : String) (attempt : Attempt)
    (trace : Trace) (loads : Attempt.Loads disk path attempt)
    (decoded : Trace.ofWire attempt.trace attempt.rules = .ok trace) :
    Command.trace settings disk path =
      .ok ((trace.log attempt.input attempt.rules settings.traceIndent).text ++
        listLines (trace.failedNames attempt.rules)) := by
  have loaded := (Attempt.load_eq_ok_iff disk path attempt).mpr loads
  rw [trace_eq,bind_eq_ok_iff]
  refine ⟨attempt,loaded,(bind_eq_ok_iff _ _ _).mpr ⟨trace,?_,?_⟩⟩
  · exact (mapError_eq_ok_iff _ _ _).mpr decoded
  · rw [failedRules_eq]
    rfl

theorem append_countLine_eq_iff (before : String) (number : Nat) :
    before ++ countLine number = before ↔ number = 0 := by
  have empty_iff : before ++ countLine number = before ↔ countLine number = "" := by
    rw [← String.toList_inj,String.toList_append,List.append_right_eq_self,String.toList_eq_nil_iff]
  rw [empty_iff,countLine]
  split
  · simp [*]
  · next some =>
    have last : EndsLine " failed attempts in trace\n" := by decide
    refine iff_of_false (fun empty => ?_) some
    have ends := last.append (toString number)
    change toString number ++ " failed attempts in trace\n" = "" at empty
    rw [empty] at ends
    exact absurd ends (by decide)

/-- Of a parse that failed, the failures are counted whose rule has a name. This is the number of
all failed records, for which the other command lists a name each, exactly when none of these names
is empty. -/
theorem render_counts_named [Patterns] (settings : Settings) (disk : Disk) (path : String)
    (attempt : Attempt) (report : Report) (tree : Option String) (location : Option Location)
    (log : Trace.Log) (loads : Attempt.Loads disk path attempt)
    (reported : attempt.report settings = .ok report)
    (failed : report.outcome = .parseFailed tree location log) :
    ∃ trace, Trace.ofWire attempt.trace attempt.rules = .ok trace ∧
      Counts attempt.rules trace (account settings attempt report location) log.text
        (render settings disk path .text) (Command.trace settings disk path) := by
  obtain ⟨trace,decoded,rfl⟩ :=
    attempt.log_of_parseFailed settings report reported tree location log failed
  have counted := render_parseFailed settings disk path attempt report tree location _ loads
    reported failed
  rw [Trace.length_failed_log] at counted
  refine ⟨trace,decoded,trace_decoded settings disk path attempt trace loads decoded,
    List.length_map _,counted,(endsLine_describe ..).append _,?_,trace.length_named_eq_iff _⟩
  rw [counted,Except.ok.injEq,append_countLine_eq_iff,List.length_eq_zero_iff,
    List.filter_eq_nil_iff]
  simp

/-- A disk with the document of an attempt at each path. -/
def diskOf (attempt : Attempt) : Disk where
  find _ := .ok (.file attempt.write.render.toUTF8)

theorem loads_diskOf (attempt : Attempt) (path : String)
    (shallow : attempt.write.outline.depth ≤ Document.maxLevels) :
    Attempt.Loads (diskOf attempt) path attempt :=
  attempt.loads_render (Disk.holds_toUTF8 _ path _ rfl) shallow

/-- Two rules fail, the second of which has no name. -/
def halfNamedAttempt : Attempt where
  rules := ⟨["num",""]⟩
  trace := [-1,0,0,0, -2,0,0,0]

theorem halfNamedAttempt_counted : ∃ report location log,
    Attempt.Loads (diskOf halfNamedAttempt) "a.json" halfNamedAttempt ∧
    halfNamedAttempt.report {} = .ok report ∧ report.outcome = .parseFailed none location log ∧
    render {} (diskOf halfNamedAttempt) "a.json" .text =
      .ok (account {} halfNamedAttempt report location ++ "1 failed attempts in trace\n") ∧
    Command.trace {} (diskOf halfNamedAttempt) "a.json" =
      .ok (log.text ++ "\nFailed rules: num, \n") := by
  have loads := loads_diskOf halfNamedAttempt "a.json" (by decide)
  obtain ⟨trace,decoded,counts⟩ := render_counts_named {} (diskOf halfNamedAttempt) "a.json"
    halfNamedAttempt _ none _ _ loads rfl rfl
  have records : Trace.ofWire halfNamedAttempt.trace halfNamedAttempt.rules =
      .ok [⟨.failure 0, 0, 0, 0⟩, ⟨.failure 1, 0, 0, 0⟩] := by decide
  obtain rfl := Except.ok.inj (records.symm.trans decoded)
  exact ⟨_,_,_,loads,rfl,rfl,counts.counted,counts.listed⟩

/-- The only rule has no name. -/
def unnamedAttempt : Attempt where
  rules := ⟨[""]⟩
  trace := [-1,0,0,0]

/-- Its failure is not counted, although it is in the trace. -/
theorem unnamedAttempt_uncounted : ∃ report location log,
    unnamedAttempt.report {} = .ok report ∧ report.outcome = .parseFailed none location log ∧
    Trace.ofWire unnamedAttempt.trace unnamedAttempt.rules = .ok [⟨.failure 0, 0, 0, 0⟩] ∧
    Trace.failed [⟨.failure 0, 0, 0, 0⟩] = [⟨.failure 0, 0, 0, 0⟩] ∧
    render {} (diskOf unnamedAttempt) "a.json" .text =
      .ok (account {} unnamedAttempt report location) ∧
    render {} (diskOf unnamedAttempt) "a.json" .text ≠
      .ok (account {} unnamedAttempt report location ++ countLine 1) := by
  have loads := loads_diskOf unnamedAttempt "a.json" (by decide)
  have printed := render_parseFailed {} (diskOf unnamedAttempt) "a.json" unnamedAttempt _ none _ _
    loads rfl rfl
  have silent := printed.trans (congrArg Except.ok ((append_countLine_eq_iff _ _).mpr (by decide)))
  refine ⟨_,_,_,rfl,rfl,by decide,rfl,silent,fun counted => ?_⟩
  have same := Except.ok.inj (silent.symm.trans counted)
  exact absurd ((append_countLine_eq_iff _ _).mp same.symm) (by decide)

end Command

end ParseScope
