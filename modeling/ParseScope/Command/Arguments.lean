import ParseScope.Tree.Drawing

/-!
The command line: options, one command, and its path. Options may stand anywhere, those of a command
after its name; after `--` comes a path only. No option is given twice in the same place, and one
given after the command's name counts more than one before it.
-/
namespace ParseScope.Command

inductive Format
  | text
  | json
  deriving DecidableEq, Repr

inductive Task
  | render
  | trace
  | fixture
  deriving DecidableEq, Repr

/-- What a well-formed command line asks for. -/
structure Request where
  task : Task
  path : String
  format : Format
  config : Option String
  style : Option Tree.Style
  verbose : Bool
  deriving DecidableEq, Repr

/-- Why there is nothing to run: the line is wrong, or asks for the version or for help. -/
inductive Stop
  | usage
  | version
  | help
  deriving DecidableEq, Repr

/-- An option that is followed by a value. -/
inductive Valued
  | config
  | style
  | format
  deriving DecidableEq, Repr

inductive Switch
  | valued (option : Valued)
  | verbose
  | stop (reason : Stop)
  deriving DecidableEq, Repr

/-- Where an argument stands: before the command's name, or after it. -/
inductive Place
  | top
  | after (task : Task)
  deriving DecidableEq, Repr

/-- What was given in one place. -/
structure Given where
  path : Option String := none
  config : Option String := none
  style : Option Tree.Style := none
  format : Option Format := none
  verbose : Bool := false
  deriving DecidableEq, Repr

namespace Place

/-- Whether the place takes a format. -/
def hasFormat : Place → Bool
  | after .render | after .fixture => true
  | _ => false

def long? (place : Place) : String → Option Switch
  | "config" => some (.valued .config)
  | "tree-style" => some (.valued .style)
  | "verbose" => some .verbose
  | "help" => some (.stop .help)
  | "version" => if place = top then some (.stop .version) else none
  | "format" => if place.hasFormat then some (.valued .format) else none
  | _ => none

def short? (place : Place) : Char → Option Switch
  | 'c' => some (.valued .config)
  | 'v' => some .verbose
  | 'h' => some (.stop .help)
  | 'V' => if place = top then some (.stop .version) else none
  | 'f' => if place.hasFormat then some (.valued .format) else none
  | _ => none

end Place

namespace Given

def setVerbose (given : Given) : Except Stop Given :=
  if given.verbose then .error .usage else .ok { given with verbose := true }

def setConfig (given : Given) (path : String) : Except Stop Given :=
  if given.config.isSome then .error .usage else .ok { given with config := some path }

def setStyle (given : Given) (style : Tree.Style) : Except Stop Given :=
  if given.style.isSome then .error .usage else .ok { given with style := some style }

def setFormat (given : Given) (format : Format) : Except Stop Given :=
  if given.format.isSome then .error .usage else .ok { given with format := some format }

/-- Gives an option its value. -/
def set (given : Given) (option : Valued) (value : String) : Except Stop Given :=
  match option with
  | .config => given.setConfig value
  | .style =>
    if value = "connectors" then given.setStyle .connectors
    else if value = "bars" then given.setStyle .bars
    else .error .usage
  | .format =>
    if value = "text" then given.setFormat .text
    else if value = "json" then given.setFormat .json
    else .error .usage

def setPath (given : Given) (path : String) : Except Stop Given :=
  if given.path.isSome then .error .usage else .ok { given with path := some path }

end Given

/-- What was given, and the option that still waits for its value. -/
abbrev Step := Given × Option Valued

/-- Takes letters that follow one dash: switches, and at most one option with the rest of the
letters, if any, as its value. -/
def letters (place : Place) : List Char → Given → Except Stop Step
  | [], given => .ok (given, none)
  | c :: rest, given =>
    match place.short? c with
    | none => .error .usage
    | some (.stop reason) => .error reason
    | some .verbose => do letters place rest (← given.setVerbose)
    | some (.valued option) =>
      match rest with
      | [] => .ok (given, some option)
      | '=' :: value => return (← given.set option (String.ofList value), none)
      | value => return (← given.set option (String.ofList value), none)

/-- Takes what follows two dashes: a name, with a value after `=` or without. -/
def word (place : Place) (text : List Char) (given : Given) : Except Stop Step :=
  let name := text.takeWhile (· ≠ '=')
  let value := text.drop (name.length + 1)
  let hasValue := name.length < text.length
  match place.long? (String.ofList name) with
  | none => .error .usage
  | some (.stop reason) => .error (if hasValue then .usage else reason)
  | some .verbose => if hasValue then .error .usage else return (← given.setVerbose, none)
  | some (.valued option) =>
    if hasValue then return (← given.set option (String.ofList value), none)
    else .ok (given, some option)

/-- An argument that is an option, with what follows its dashes. A dash alone is none. -/
inductive Dashed
  | plain
  | escape
  | letters (text : List Char)
  | word (text : List Char)

def Dashed.of (argument : String) : Dashed :=
  match argument.toList with
  | ['-', '-'] => .escape
  | '-' :: '-' :: text => .word text
  | ['-'] => .plain
  | '-' :: text => .letters text
  | _ => .plain

/-- Takes the arguments after the name of a command. `waiting` is the option whose value comes next,
and `escaped` tells that only paths follow. -/
def takeAfter (task : Task) (given : Given) (waiting : Option Valued) (escaped : Bool) :
    List String → Except Stop Given
  | [] => if waiting.isSome then .error .usage else .ok given
  | argument :: rest =>
    if escaped then do takeAfter task (← given.setPath argument) none true rest
    else
      match Dashed.of argument, waiting with
      | .plain, some option => do
        takeAfter task (← given.set option argument) none false rest
      | .plain, none => do takeAfter task (← given.setPath argument) none false rest
      | _, some _ => .error .usage
      | .escape, none => takeAfter task given none true rest
      | .letters text, none => do
        let (given, waiting) ← letters (.after task) text given
        takeAfter task given waiting false rest
      | .word text, none => do
        let (given, waiting) ← word (.after task) text given
        takeAfter task given waiting false rest

/-- The request of a command, given what stands before and after its name. -/
def request (task : Task) (top given : Given) : Except Stop Request :=
  match given.path with
  | none => .error .usage
  | some path =>
    .ok { task, path
          format := given.format.getD .text
          config := given.config.or top.config
          style := given.style.or top.style
          verbose := given.verbose || top.verbose }

def taskOf? : String → Option Task
  | "render" => some .render
  | "trace" => some .trace
  | "fixture" => some .fixture
  | _ => none

/-- What a call for help amounts to: it takes at most one argument, the name of a command or `help`
itself. -/
def stopOfHelp : List String → Stop
  | [] => .help
  | [topic] => if topic = "help" || (taskOf? topic).isSome then .help else .usage
  | _ => .usage

/-- Takes the arguments up to the name of a command, and then those after it. -/
def takeTop (top : Given) (waiting : Option Valued) : List String → Except Stop Request
  | [] => .error .usage
  | argument :: rest =>
    match Dashed.of argument, waiting with
    | .plain, some option => do takeTop (← top.set option argument) none rest
    | .plain, none =>
      match taskOf? argument with
      | some task => do request task top (← takeAfter task {} none false rest)
      | none => .error (if argument = "help" then stopOfHelp rest else .usage)
    | _, some _ | .escape, none => .error .usage
    | .letters text, none => do
      let (top, waiting) ← letters .top text top
      takeTop top waiting rest
    | .word text, none => do
      let (top, waiting) ← word .top text top
      takeTop top waiting rest

/-- The request of a whole command line. -/
def parse (arguments : List String) : Except Stop Request := takeTop {} none arguments

end ParseScope.Command
