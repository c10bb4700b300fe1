import ParseScope.Command.Run
import ParseScope.Proofs.Except

/-!
What steps print. All steps that can fail come before those that print, so that a request either
prints its whole text or fails with nothing printed.
-/
namespace ParseScope.Command

/-- How steps end that print the text of a result, or fail as it does with nothing printed. -/
def ended (printed : String) : Except ε String → Except ε Unit × String
  | .ok text => (.ok (),printed ++ text)
  | .error error => (.error error,printed)

/-- The steps end as the result tells, whatever was printed before them. -/
def Yields (steps : Printing ε Unit) (result : Except ε String) : Prop :=
  ∀ printed, steps.after printed = ended printed result

theorem Printing.after_bind_of_ok {ε α β : Type} {first : Printing ε α} {printed since : String}
    {value : α} (passed : first.after printed = (.ok value,since)) (next : α → Printing ε β) :
    (first >>= next).after printed = (next value).after since := by
  change StateT.bind first (ExceptT.bindCont next) printed = _
  rw [Printing.after] at passed
  rw [StateT.bind,passed]
  rfl

namespace Yields

section

variable {ε δ α : Type}

theorem print (text : String) : Yields (print text : Printing ε Unit) (.ok text) := fun _ => rfl

theorem of_eq {steps : Printing ε Unit} {text other : String} (yields : Yields steps (.ok text))
    (same : text = other) : Yields steps (.ok other) :=
  same ▸ yields

theorem nothing : Yields (pure () : Printing ε Unit) (.ok "") := by
  intro printed
  rw [ended,String.append_empty]
  rfl

/-- Steps that print, one after the other. -/
theorem seq {first second : Printing ε Unit} {front back : String} (a : Yields first (.ok front))
    (b : Yields second (.ok back)) :
    Yields (first >>= fun _ => second) (.ok (front ++ back)) := by
  intro printed
  rw [Printing.after_bind_of_ok (a printed),b,ended,ended,String.append_assoc]

theorem forM {items : List α} {step : α → Printing ε Unit} {text : α → String}
    (steps : ∀ item ∈ items, Yields (step item) (.ok (text item))) :
    Yields (items.forM step) (.ok (String.join (items.map text))) := by
  induction items with
  | nil => exact nothing
  | cons item rest ih =>
    obtain ⟨first,others⟩ := List.forall_mem_cons.mp steps
    rw [List.map_cons,String.join_cons]
    exact first.seq (ih others)

/-- A stage that may fail, before anything is printed. -/
theorem stage {next : α → Printing ε Unit} {result : α → Except ε String}
    (rest : ∀ value, Yields (next value) (result value)) (first : Except ε α) :
    Yields (liftM first >>= next) (first >>= result) := by
  cases first with
  | error error => exact fun _ => rfl
  | ok value => exact rest value

theorem adapt {steps : Printing ε Unit} {result : Except ε String} (yields : Yields steps result)
    (f : ε → δ) : Yields (ExceptT.adapt f steps) (result.mapError f) := by
  intro printed
  have same : Printing.after (ExceptT.adapt f steps) printed =
      ((steps.after printed).1.mapError f,(steps.after printed).2) := rfl
  rw [same,yields]
  cases result with
  | error error => rfl
  | ok text => rfl

theorem output {steps : Printing ε Unit} {result : Except ε String} (yields : Yields steps result) :
    steps.output = result := by
  rw [Printing.output,yields ""]
  cases result with
  | error error => rfl
  | ok text => simp only [ended,String.empty_append]

end

end Yields

/-! ### Texts -/

/-- What is said about the location of an error. -/
def describe (settings : Settings) (rules : Rules) (input : Surface) :
    Option Location → String
  | none => "\nParse failed, but no error position could be located\n"
  | some location =>
    let p := Text.positionAt input.text.toList location.span.first
    s!"\nError at line {p.line}, column {p.column}: {reason rules location.cause}\n"
      ++ underlineOn input location.span ++ remark input settings.errorSet 1

/-- The text of a report. -/
def describeReport (settings : Settings) (attempt : Attempt) (report : Report) : String :=
  let panes := report.mark settings (Panes.of attempt report.outcome)
  match report.outcome with
  | .compileFailed diagnosis =>
    s!"Grammar failed to compile:\n{diagnosis.message}\n"
      ++ String.join (diagnosis.spans.map (underlineOn panes.grammar))
      ++ remark panes.grammar settings.grammarSet diagnosis.spans.length
  | .parsed tree => tree
  | .parseFailed _ location log =>
    panes.output.text ++ describe settings attempt.rules panes.input location
      ++ failureCount log

/-- What is said about a fixture. -/
def summary (fixture : Fixture) : String :=
  let mark := if fixture.highlighted then " *" else ""
  let lines := (Text.terminatedLines fixture.grammar.toList).length
  s!"{fixture.title}{mark}\n"
    ++ s!"    grammar: {lines} lines, input: {fixture.input.length} chars\n"

/-- What a list of fixtures prints. -/
def listing (fixtures : List Fixture) : Format → String
  | .json => (Json.Value.list (fixtures.map Fixture.write)).renderIndented ++ "\n"
  | .text => String.join (fixtures.map summary)

section Texts

variable {ε : Type}

theorem yields_printLocation (settings : Settings) (rules : Rules) (input : Surface)
    (location : Option Location) :
    Yields (printLocation settings rules input location : Printing ε Unit)
      (.ok (describe settings rules input location)) := by
  unfold printLocation describe
  cases location with
  | none => exact .print _
  | some location =>
    refine .of_eq (.seq (.print _) (.seq (.print _) (.print _))) ?_
    simp only [String.append_assoc]

theorem yields_printReport (settings : Settings) (attempt : Attempt) (report : Report) :
    Yields (printReport settings attempt report : Printing ε Unit)
      (.ok (describeReport settings attempt report)) := by
  rw [printReport,describeReport]
  cases report.outcome with
  | compileFailed diagnosis =>
    refine .of_eq (.seq (.print _) (.seq (.forM fun _ _ => .print _) (.print _))) ?_
    simp only [String.append_assoc]
  | parsed tree => exact .print _
  | parseFailed tree location log =>
    refine .of_eq (.seq (.print _) (.seq (yields_printLocation _ _ _ location) (.print _))) ?_
    simp only [String.append_assoc]

theorem yields_printSummary (fixture : Fixture) :
    Yields (printSummary fixture : Printing ε Unit) (.ok (summary fixture)) :=
  .seq (.print _) (.print _)

end Texts

/-! ### Tasks -/

theorem yields_renderSteps [Grammar.Patterns] (settings : Settings) (disk : Disk) (path : String)
    (format : Format) : Yields (renderSteps settings disk path format) do
      let attempt ← Attempt.load disk path
      let report ← (attempt.report settings).mapError .badTrace
      match format with
      | .json => return report.write.renderIndented ++ "\n"
      | .text => return describeReport settings attempt report := by
  refine .stage (fun attempt => .stage (fun report => ?_) _) _
  cases format with
  | json => exact .print _
  | text => exact yields_printReport settings attempt report

theorem render_eq [Grammar.Patterns] (settings : Settings) (disk : Disk) (path : String)
    (format : Format) : render settings disk path format = do
      let attempt ← Attempt.load disk path
      let report ← (attempt.report settings).mapError .badTrace
      match format with
      | .json => return report.write.renderIndented ++ "\n"
      | .text => return describeReport settings attempt report :=
  (yields_renderSteps settings disk path format).output

theorem yields_traceSteps (settings : Settings) (disk : Disk) (path : String) :
    Yields (traceSteps settings disk path) do
      let attempt ← Attempt.load disk path
      let trace ← (Trace.ofWire attempt.trace attempt.rules).mapError .badTrace
      return (trace.log attempt.input attempt.rules settings.traceIndent).text ++
        failedRules attempt.rules trace :=
  .stage (fun _ => .stage (fun _ => (Yields.print _).seq (.print _)) _) _

theorem trace_eq (settings : Settings) (disk : Disk) (path : String) :
    trace settings disk path = do
      let attempt ← Attempt.load disk path
      let trace ← (Trace.ofWire attempt.trace attempt.rules).mapError .badTrace
      return (trace.log attempt.input attempt.rules settings.traceIndent).text ++
        failedRules attempt.rules trace :=
  (yields_traceSteps settings disk path).output

/-- The fixtures of a directory, or the one of a file. -/
def loadFixtures (disk : Disk) (path : String) : Except Fixture.LoadError (List Fixture) :=
  if disk.isDirectory path then Fixture.loadDirectory disk path
  else (Fixture.load disk path).map ([·])

theorem yields_fixtureSteps (disk : Disk) (path : String) (format : Format) :
    Yields (fixtureSteps disk path format)
      ((loadFixtures disk path).map fun fixtures => listing fixtures format) := by
  have printed (fixtures : List Fixture) : Yields (match format with
      | .json => print ((Json.Value.list (fixtures.map Fixture.write)).renderIndented ++ "\n")
      | .text => fixtures.forM printSummary : Printing Fixture.LoadError Unit)
      (.ok (listing fixtures format)) := by
    cases format with
    | json => exact .print _
    | text => exact .forM fun fixture _ => yields_printSummary fixture
  rw [fixtureSteps,loadFixtures]
  split
  · exact .stage printed (Fixture.loadDirectory disk path)
  · exact .stage printed ((Fixture.load disk path).map ([·]))

theorem fixture_eq (disk : Disk) (path : String) (format : Format) :
    fixture disk path format =
      (loadFixtures disk path).map fun fixtures => listing fixtures format :=
  (yields_fixtureSteps disk path format).output

/-! ### Requests -/

section Requests

variable [Grammar.Patterns]

/-- What the task of a request prints once there are settings. -/
def performTask (settings : Settings) (disk : Disk) (request : Request) : Except Failure String :=
  match request.task with
  | .render => (render settings disk request.path request.format).mapError .attempt
  | .trace => (trace settings disk request.path).mapError .attempt
  | .fixture => (fixture disk request.path request.format).mapError .fixture

variable [Settings.Layering] (request : Request) (disk : Disk)

theorem yields_perform : Yields (perform request disk)
    ((loadSettings request disk).mapError .settings >>= (performTask · disk request)) := by
  refine .stage (fun settings => ?_) _
  rw [performTask]
  cases request.task with
  | render =>
    rw [render_eq]
    exact (yields_renderSteps settings disk _ _).adapt Failure.attempt
  | trace =>
    rw [trace_eq]
    exact (yields_traceSteps settings disk _).adapt Failure.attempt
  | fixture =>
    rw [fixture_eq]
    exact (yields_fixtureSteps disk _ _).adapt Failure.fixture

theorem perform_eq : (perform request disk).output =
    (loadSettings request disk).mapError .settings >>= (performTask · disk request) :=
  (yields_perform request disk).output

/-- A request that fails has printed nothing. -/
theorem after_perform :
    (perform request disk).after "" = ended "" (perform request disk).output := by
  rw [perform_eq]
  exact yields_perform request disk ""

end Requests

end ParseScope.Command
