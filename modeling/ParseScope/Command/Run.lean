import ParseScope.Attempt.Load
import ParseScope.Attempt.Panes
import ParseScope.Command.Arguments
import ParseScope.Command.Printing
import ParseScope.Command.Underline
import ParseScope.Document.Fixture
import ParseScope.Document.Report
import ParseScope.Fixture.Directory
import ParseScope.Grammar.Patterns
import ParseScope.Settings.Standard

/-!
The commands. Each is a run of steps: those that can fail come first, then those that print.
-/
namespace ParseScope.Command

inductive Failure
  | settings (error : Settings.LoadError)
  | attempt (error : Attempt.LoadError)
  | fixture (error : Fixture.LoadError)
  deriving DecidableEq, Repr

def Failure.message : Failure → String
  | settings error => error.message
  | attempt error => error.message
  | fixture error => error.message

/-- The settings that a request asks for. -/
def loadSettings [Settings.Layering] (request : Request) (disk : Disk) :
    Except Settings.LoadError Settings := do
  let layers : Settings.Layers := {}
  let layers := match request.config with
    | some path => layers.addFile path
    | none => layers
  let layers ← match request.style with
    | some style => layers.setStyle style
    | none => pure layers
  layers.load disk

/-- A remark when some of the spans located on a surface are missing from a set. -/
def remark (surface : Surface) (set : String) (located : Nat) : String :=
  let kept := ((surface.plain? set).map List.length).getD 0
  if kept < located then
    s!"note: {located - kept} of {located} located span(s) have no extent on the text "
      ++ s!"(a single position, or past its end) and are not projected as '{set}' highlights\n"
  else ""

def underlineOn (surface : Surface) (span : Span) : String :=
  String.ofList (underline surface.text.toList span)

/-- Why an error was located where it was. -/
def reason (rules : Rules) : Cause → String
  | .trailingInput _ => "input continues past the match"
  | .failedRule verdict _ _ => s!"rule '{rules.nameOf verdict}' failed"

/-- Tells where and why an error was located. -/
def printLocation (settings : Settings) (rules : Rules) (input : Surface) :
    Option Location → Printing ε Unit
  | none => print "\nParse failed, but no error position could be located\n"
  | some location => do
    let p := Text.positionAt input.text.toList location.span.first
    print s!"\nError at line {p.line}, column {p.column}: {reason rules location.cause}\n"
    print (underlineOn input location.span)
    print (remark input settings.errorSet 1)

/-- How many attempts failed, if any did. -/
def failureCount (log : Trace.Log) : String :=
  if log.failed.isEmpty then "" else s!"{log.failed.length} failed attempts in trace\n"

def printReport (settings : Settings) (attempt : Attempt) (report : Report) : Printing ε Unit := do
  let panes := report.mark settings (Panes.of attempt report.outcome)
  match report.outcome with
  | .compileFailed diagnosis =>
    print s!"Grammar failed to compile:\n{diagnosis.message}\n"
    diagnosis.spans.forM fun span => print (underlineOn panes.grammar span)
    print (remark panes.grammar settings.grammarSet diagnosis.spans.length)
  | .parsed tree => print tree
  | .parseFailed _ location log =>
    print panes.output.text
    printLocation settings attempt.rules panes.input location
    print (failureCount log)

def renderSteps [Grammar.Patterns] (settings : Settings) (disk : Disk) (path : String)
    (format : Format) : Printing Attempt.LoadError Unit := do
  let attempt ← Attempt.load disk path
  let report ← (attempt.report settings).mapError Attempt.LoadError.badTrace
  match format with
  | .json => print (report.write.renderIndented ++ "\n")
  | .text => printReport settings attempt report

/-- The names of the rules that failed, if any did. -/
def failedRules (rules : Rules) (trace : Trace) : String :=
  match trace.failed with
  | [] => ""
  | failures =>
    "\nFailed rules: "
      ++ String.intercalate ", " (failures.map fun record => rules.nameOf record.verdict) ++ "\n"

def traceSteps (settings : Settings) (disk : Disk) (path : String) :
    Printing Attempt.LoadError Unit := do
  let attempt ← Attempt.load disk path
  let trace ← (Trace.ofWire attempt.trace attempt.rules).mapError Attempt.LoadError.badTrace
  print (trace.log attempt.input attempt.rules settings.traceIndent).text
  print (failedRules attempt.rules trace)

/-- Two lines about a fixture. -/
def printSummary (fixture : Fixture) : Printing ε Unit := do
  let mark := if fixture.highlighted then " *" else ""
  let lines := (Text.terminatedLines fixture.grammar.toList).length
  print s!"{fixture.title}{mark}\n"
  print s!"    grammar: {lines} lines, input: {fixture.input.length} chars\n"

def fixtureSteps (disk : Disk) (path : String) (format : Format) :
    Printing Fixture.LoadError Unit := do
  let fixtures ← if disk.isDirectory path then Fixture.loadDirectory disk path
    else (Fixture.load disk path).map ([·])
  match format with
  | .json => print ((Json.Value.list (fixtures.map Fixture.write)).renderIndented ++ "\n")
  | .text => fixtures.forM printSummary

/-- What is printed of an attempt, unless it has no report. -/
def render [Grammar.Patterns] (settings : Settings) (disk : Disk) (path : String)
    (format : Format) : Except Attempt.LoadError String :=
  (renderSteps settings disk path format).output

def trace (settings : Settings) (disk : Disk) (path : String) : Except Attempt.LoadError String :=
  (traceSteps settings disk path).output

def fixture (disk : Disk) (path : String) (format : Format) : Except Fixture.LoadError String :=
  (fixtureSteps disk path format).output

section

variable [Grammar.Patterns] [Settings.Layering]

/-- The steps of a request. The settings come first, whatever the task. -/
def perform (request : Request) (disk : Disk) : Printing Failure Unit := do
  let settings ← (loadSettings request disk).mapError Failure.settings
  match request.task with
  | .render => (renderSteps settings disk request.path request.format).adapt .attempt
  | .trace => (traceSteps settings disk request.path).adapt .attempt
  | .fixture => (fixtureSteps disk request.path request.format).adapt .fixture

end

/-- The paths that a command line may look at, apart from what lies in a directory among them. -/
def paths (arguments : List String) : List String :=
  match parse arguments with
  | .error _ => []
  | .ok request => request.path :: request.config.toList.flatMap Settings.Standard.candidates

/-- What a command leaves behind. -/
structure Result where
  exit : UInt32
  output : String := ""
  error : String := ""
  deriving DecidableEq, Repr

def versionText : String := "pegview 0.1.0\n"

def usageText : String :=
  String.join
    [ "Usage: pegview [OPTIONS] <COMMAND>\n\n",
      "Commands:\n",
      "  render <path> [--format text|json]   Render the outcome of a parse attempt\n",
      "  trace <path>                         Print the annotated attempt trace\n",
      "  fixture <path> [--format text|json]  List example fixtures\n\n",
      "Options:\n",
      "  -c, --config <path>                  TOML file layered over the defaults\n",
      "      --tree-style connectors|bars     How tree lines show ancestry\n",
      "  -v, --verbose                        Log more\n",
      "  -h, --help                           Print help\n",
      "  -V, --version                        Print version\n" ]

/-- Runs a command line against a disk, in a build where sums of 64 bits wrap around. -/
def run [Grammar.Patterns] [Settings.Layering] (arguments : List String) (disk : Disk) : Result :=
  match parse arguments with
  | .error .version => { exit := 0, output := versionText }
  | .error .help => { exit := 0, output := usageText }
  | .error .usage => { exit := 2, error := usageText }
  | .ok request =>
    match (perform request disk).after "" with
    | (.ok _, output) => { exit := 0, output }
    | (.error failure, output) => { exit := 1, output, error := s!"Error: {failure.message}\n" }

/-- Whether a request comes to a sum that 64 bits do not hold. The one such sum is that for the
place of a compile error, before anything is printed of it. -/
def Request.overflows [Settings.Layering] (request : Request) (disk : Disk) : Bool :=
  match request.task, loadSettings request disk, Attempt.load disk request.path with
  | .render, .ok _, .ok attempt =>
    (attempt.compileError.bind (·.position?)).any (Text.overflows attempt.grammar.toList)
  | _, _, _ => false

/-- Runs a command line in a build that checks sums of 64 bits and stops at one that overflows. -/
def runChecked [Grammar.Patterns] [Settings.Layering] (arguments : List String) (disk : Disk) :
    Result :=
  match parse arguments with
  | .error _ => run arguments disk
  | .ok request =>
    if request.overflows disk then { exit := 101, error := "attempt to add with overflow\n" }
    else run arguments disk

end ParseScope.Command
