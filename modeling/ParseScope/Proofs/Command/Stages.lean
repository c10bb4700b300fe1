import ParseScope.Grammar.Patterns
import ParseScope.Proofs.Attempt.Load
import ParseScope.Proofs.Command.Failures
import ParseScope.Proofs.Command.Printing
import ParseScope.Proofs.Fixture.Directory
import ParseScope.Proofs.Settings.Standard

/-!
The stages of a command line: settings, reading, the form of what is read, and the trace. All output
comes after the last of them, so that a line which stops at one of them prints nothing.
-/
namespace ParseScope.Command

open Grammar (Patterns)

/-- What a task needs of the file at its path. -/
inductive Passes (disk : Disk) (path : String) : Task → Prop
  | render (attempt : Attempt) (loads : Attempt.Loads disk path attempt)
      (shown : attempt.compileError ≠ none ∨ attempt.Decodes) : Passes disk path .render
  | trace (attempt : Attempt) (loads : Attempt.Loads disk path attempt)
      (decodes : attempt.Decodes) : Passes disk path .trace
  | file (single : ∀ names, disk.find path ≠ .ok (.directory names))
      (loads : Fixture.Loads disk path) : Passes disk path .fixture
  | directory (names : List String) (lists : disk.find path = .ok (.directory names))
      (load : ∀ name ∈ names, Fixture.Chosen disk path name →
        Fixture.Loads disk (Disk.join path name)) : Passes disk path .fixture

/-- Why a task stops: the first of its stages that fails. -/
inductive Fails (disk : Disk) (path : String) : Task → Failure → Prop
  | loading {task : Task} (error : Attempt.LoadError) (reads : task = .render ∨ task = .trace)
      (stage : Attempt.Fails disk path error) : Fails disk path task (.attempt error)
  | decoding {task : Task} (attempt : Attempt) (error : Trace.WireError)
      (loads : Attempt.Loads disk path attempt)
      (needed : (task = .render ∧ attempt.compileError = none) ∨ task = .trace)
      (stage : Trace.ofWire attempt.trace attempt.rules = .error error) :
      Fails disk path task (.attempt (.badTrace error))
  | file (error : Fixture.LoadError) (single : ∀ names, disk.find path ≠ .ok (.directory names))
      (stage : Fixture.Fails disk path error) : Fails disk path .fixture (.fixture error)
  | directory (names : List String) (error : Fixture.LoadError)
      (lists : disk.find path = .ok (.directory names))
      (stage : Fixture.FirstFails disk path names error) : Fails disk path .fixture (.fixture error)

theorem exists_render_iff [Patterns] (settings : Settings) (disk : Disk) (path : String)
    (format : Format) :
    (∃ output, render settings disk path format = .ok output) ↔ Passes disk path .render := by
  simp only [render_eq,bind_eq_ok_iff,mapError_eq_ok_iff,Attempt.load_eq_ok_iff]
  constructor
  · rintro ⟨output,attempt,loads,report,reported,_⟩
    exact .render attempt loads ((attempt.exists_report_iff settings).mp ⟨report,reported⟩)
  · intro passes
    cases passes with
    | render attempt loads shown =>
      obtain ⟨report,reported⟩ := (attempt.exists_report_iff settings).mpr shown
      cases format with
      | json => exact ⟨_,attempt,loads,report,reported,rfl⟩
      | text => exact ⟨_,attempt,loads,report,reported,rfl⟩

theorem render_eq_error_iff [Patterns] (settings : Settings) (disk : Disk) (path : String)
    (format : Format) (error : Attempt.LoadError) :
    render settings disk path format = .error error ↔ Fails disk path .render (.attempt error) := by
  simp only [render_eq,bind_eq_error_iff,mapError_eq_ok_iff,mapError_eq_error_iff,
    Attempt.load_eq_ok_iff,Attempt.load_eq_error_iff,Attempt.report_eq_error_iff]
  constructor
  · rintro (stage | ⟨attempt,loads,⟨wire,⟨compiled,stage⟩,rfl⟩ | ⟨report,_,printed⟩⟩)
    · exact .loading error (.inl rfl) stage
    · exact .decoding attempt wire loads (.inl ⟨rfl,compiled⟩) stage
    · cases format with
      | json => exact absurd printed (pure_ne_error _ _)
      | text => exact absurd printed (pure_ne_error _ _)
  · intro fails
    cases fails with
    | loading _ _ stage => exact .inl stage
    | decoding attempt wire loads needed stage =>
      obtain ⟨_,compiled⟩ := needed.resolve_right nofun
      exact .inr ⟨attempt,loads,.inl ⟨wire,⟨compiled,stage⟩,rfl⟩⟩

theorem exists_trace_iff (settings : Settings) (disk : Disk) (path : String) :
    (∃ output, trace settings disk path = .ok output) ↔ Passes disk path .trace := by
  simp only [trace_eq,bind_eq_ok_iff,mapError_eq_ok_iff,Attempt.load_eq_ok_iff]
  constructor
  · rintro ⟨output,attempt,loads,trace,decoded,_⟩
    exact .trace attempt loads ⟨trace,decoded⟩
  · intro passes
    cases passes with
    | trace attempt loads decodes =>
      obtain ⟨trace,decoded⟩ := decodes
      exact ⟨_,attempt,loads,trace,decoded,rfl⟩

theorem trace_eq_error_iff (settings : Settings) (disk : Disk) (path : String)
    (error : Attempt.LoadError) :
    trace settings disk path = .error error ↔ Fails disk path .trace (.attempt error) := by
  simp only [trace_eq,bind_eq_error_iff,mapError_eq_ok_iff,mapError_eq_error_iff,
    Attempt.load_eq_ok_iff,Attempt.load_eq_error_iff]
  constructor
  · rintro (stage | ⟨attempt,loads,⟨wire,stage,rfl⟩ | ⟨trace,_,printed⟩⟩)
    · exact .loading error (.inr rfl) stage
    · exact .decoding attempt wire loads (.inr rfl) stage
    · exact absurd printed (pure_ne_error _ _)
  · intro fails
    cases fails with
    | loading _ _ stage => exact .inl stage
    | decoding attempt wire loads _ stage => exact .inr ⟨attempt,loads,.inl ⟨wire,stage,rfl⟩⟩

theorem fixture_of_directory {disk : Disk} {path : String} (format : Format) {names : List String}
    (lists : disk.find path = .ok (.directory names)) :
    fixture disk path format = (Fixture.loadDirectory disk path).map (listing · format) := by
  rw [fixture_eq,loadFixtures,(disk.isDirectory_iff path).mpr ⟨names,lists⟩,if_pos rfl]

theorem fixture_of_file {disk : Disk} {path : String} (format : Format)
    (single : ∀ names, disk.find path ≠ .ok (.directory names)) :
    fixture disk path format = (Fixture.load disk path).map (listing [·] format) := by
  have notDirectory : ¬ disk.isDirectory path = true := by
    rw [disk.isDirectory_iff]
    exact not_exists.mpr single
  rw [fixture_eq,loadFixtures,if_neg notDirectory]
  cases Fixture.load disk path with
  | error error => rfl
  | ok fixture => rfl

theorem exists_fixture_iff (disk : Disk) (path : String) (format : Format) :
    (∃ output, fixture disk path format = .ok output) ↔ Passes disk path .fixture := by
  by_cases directory : ∃ names, disk.find path = .ok (.directory names)
  · obtain ⟨names,lists⟩ := directory
    simp only [fixture_of_directory format lists,map_eq_ok_iff]
    constructor
    · rintro ⟨_,fixtures,loaded,_⟩
      exact .directory names lists ((Fixture.exists_loadDirectory_iff lists).mp ⟨fixtures,loaded⟩)
    · intro passes
      cases passes with
      | file single => exact absurd lists (single names)
      | directory others listsOthers load =>
        obtain ⟨fixtures,loaded⟩ := (Fixture.exists_loadDirectory_iff listsOthers).mpr load
        exact ⟨_,fixtures,loaded,rfl⟩
  · have single := not_exists.mp directory
    simp only [fixture_of_file format single,map_eq_ok_iff]
    constructor
    · rintro ⟨_,fixture,loaded,_⟩
      exact .file single ((Fixture.exists_load_iff disk path).mp ⟨fixture,loaded⟩)
    · intro passes
      cases passes with
      | file _ loads =>
        obtain ⟨fixture,loaded⟩ := (Fixture.exists_load_iff disk path).mpr loads
        exact ⟨_,fixture,loaded,rfl⟩
      | directory names lists => exact absurd lists (single names)

theorem fixture_eq_error_iff (disk : Disk) (path : String) (format : Format)
    (error : Fixture.LoadError) :
    fixture disk path format = .error error ↔ Fails disk path .fixture (.fixture error) := by
  by_cases directory : ∃ names, disk.find path = .ok (.directory names)
  · obtain ⟨names,lists⟩ := directory
    rw [fixture_of_directory format lists,map_eq_error_iff,
      Fixture.loadDirectory_eq_error_iff lists]
    constructor
    · exact .directory names error lists
    · intro fails
      cases fails with
      | file _ single => exact absurd lists (single names)
      | directory others _ listsOthers stage =>
        obtain rfl : others = names := by simpa [lists] using listsOthers.symm
        exact stage
  · have single := not_exists.mp directory
    rw [fixture_of_file format single,map_eq_error_iff,Fixture.load_eq_error_iff]
    constructor
    · exact .file error single
    · intro fails
      cases fails with
      | file _ _ stage => exact stage
      | directory names _ lists => exact absurd lists (single names)

theorem exists_performTask_iff [Patterns] (settings : Settings) (disk : Disk) (request : Request) :
    (∃ output, performTask settings disk request = .ok output) ↔
      Passes disk request.path request.task := by
  rw [performTask]
  cases request.task with
  | render => simp only [mapError_eq_ok_iff,exists_render_iff]
  | trace => simp only [mapError_eq_ok_iff,exists_trace_iff]
  | fixture => simp only [mapError_eq_ok_iff,exists_fixture_iff]

/-- Tasks that read an attempt stop at a failure of attempts. -/
theorem fails_attempt_iff {disk : Disk} {path : String} {task : Task} {failure : Failure}
    (reads : task = .render ∨ task = .trace) :
    (∃ error, Fails disk path task (.attempt error) ∧ .attempt error = failure) ↔
      Fails disk path task failure := by
  constructor
  · rintro ⟨error,fails,rfl⟩
    exact fails
  · intro fails
    cases fails with
    | loading error _ stage => exact ⟨error,.loading error reads stage,rfl⟩
    | decoding attempt error loads needed stage =>
      exact ⟨.badTrace error,.decoding attempt error loads needed stage,rfl⟩
    | file | directory => exact absurd reads (by simp)

theorem fails_fixture_iff {disk : Disk} {path : String} {failure : Failure} :
    (∃ error, Fails disk path .fixture (.fixture error) ∧ .fixture error = failure) ↔
      Fails disk path .fixture failure := by
  constructor
  · rintro ⟨error,fails,rfl⟩
    exact fails
  · intro fails
    cases fails with
    | loading _ reads => exact absurd reads (by simp)
    | decoding _ _ _ needed => exact absurd needed (by simp)
    | file error single stage => exact ⟨error,.file error single stage,rfl⟩
    | directory names error lists stage => exact ⟨error,.directory names error lists stage,rfl⟩

theorem performTask_eq_error_iff [Patterns] (settings : Settings) (disk : Disk) (request : Request)
    (failure : Failure) : performTask settings disk request = .error failure ↔
      Fails disk request.path request.task failure := by
  rw [performTask]
  cases request.task with
  | render =>
    simp only [mapError_eq_error_iff,render_eq_error_iff]
    exact fails_attempt_iff (.inl rfl)
  | trace =>
    simp only [mapError_eq_error_iff,trace_eq_error_iff]
    exact fails_attempt_iff (.inr rfl)
  | fixture =>
    simp only [mapError_eq_error_iff,fixture_eq_error_iff]
    exact fails_fixture_iff

/-! ### Whole lines -/

section Lines

variable [Patterns] [Settings.Layering]

/-- The settings load, and the task has what it needs. -/
structure Ready (disk : Disk) (request : Request) : Prop where
  settings : ∃ settings, loadSettings request disk = .ok settings
  passes : Passes disk request.path request.task

/-- Why a request stops: the first of all its stages that fails. -/
inductive Stops (disk : Disk) (request : Request) : Failure → Prop
  | settings (error : Settings.LoadError) (stage : loadSettings request disk = .error error) :
      Stops disk request (.settings error)
  | task (settings : Settings) (failure : Failure)
      (loaded : loadSettings request disk = .ok settings)
      (stage : Fails disk request.path request.task failure) : Stops disk request failure

theorem exists_perform_iff (request : Request) (disk : Disk) :
    (∃ output, (perform request disk).output = .ok output) ↔ Ready disk request := by
  simp only [perform_eq,bind_eq_ok_iff,mapError_eq_ok_iff]
  constructor
  · rintro ⟨output,settings,loaded,printed⟩
    exact ⟨⟨settings,loaded⟩,(exists_performTask_iff settings disk request).mp ⟨output,printed⟩⟩
  · rintro ⟨⟨settings,loaded⟩,passes⟩
    obtain ⟨output,printed⟩ := (exists_performTask_iff settings disk request).mpr passes
    exact ⟨output,settings,loaded,printed⟩

theorem perform_eq_error_iff (request : Request) (disk : Disk) (failure : Failure) :
    (perform request disk).output = .error failure ↔ Stops disk request failure := by
  simp only [perform_eq,bind_eq_error_iff,mapError_eq_ok_iff,mapError_eq_error_iff,
    performTask_eq_error_iff]
  constructor
  · rintro (⟨error,stage,rfl⟩ | ⟨settings,loaded,stage⟩)
    · exact .settings error stage
    · exact .task settings failure loaded stage
  · rintro (⟨error,stage⟩ | ⟨settings,_,loaded,stage⟩)
    · exact .inl ⟨error,stage,rfl⟩
    · exact .inr ⟨settings,loaded,stage⟩

theorem Stops.unique {disk : Disk} {request : Request} {failure other : Failure}
    (a : Stops disk request failure) (b : Stops disk request other) : failure = other := by
  rw [← perform_eq_error_iff] at a b
  exact Except.error.inj (a.symm.trans b)

/-- How a request ends: with status 0, or with status 1, no output and the one stage that it stops
at. -/
structure Ends (disk : Disk) (request : Request) (result : Result) : Prop where
  status : result.exit = 0 ∨ result.exit = 1
  silent : result.exit = 1 → result.output = ""
  ready_iff : result.exit = 0 ↔ Ready disk request
  stops_iff : result.exit = 1 ↔ ∃ failure, Stops disk request failure
  tells : ∀ failure, Stops disk request failure →
    result.error = s!"Error: {failure.message}\n"
  first : ∀ failure other, Stops disk request failure → Stops disk request other → failure = other

theorem ends_run (arguments : List String) (disk : Disk) (request : Request)
    (parsed : parse arguments = .ok request) : Ends disk request (run arguments disk) := by
  have first (failure other : Failure) (a : Stops disk request failure)
      (b : Stops disk request other) : failure = other := a.unique b
  simp only [run,parsed,after_perform]
  cases performed : (perform request disk).output with
  | ok output =>
    have ready := (exists_perform_iff request disk).mp ⟨output,performed⟩
    have goesOn (failure : Failure) : ¬ Stops disk request failure := by
      rw [← perform_eq_error_iff,performed]
      nofun
    refine ⟨.inl rfl,nofun,iff_of_true rfl ready,?_,?_,first⟩
    · exact iff_of_false nofun (not_exists.mpr goesOn)
    · intro failure stops
      exact absurd stops (goesOn failure)
  | error failure =>
    have stops := (perform_eq_error_iff request disk failure).mp performed
    have unready : ¬ Ready disk request := by
      rw [← exists_perform_iff,performed]
      nofun
    refine ⟨.inr rfl,fun _ => rfl,iff_of_false nofun unready,iff_of_true rfl ⟨failure,stops⟩,?_,
      first⟩
    intro other stopsOther
    rw [first other failure stopsOther stops]
    rfl

/-- A build that checks its sums differs only where the place of a compile error overflows: it stops
there with nothing printed, where the other build goes on to print the error. -/
theorem runChecked_eq_or (arguments : List String) (disk : Disk) :
    runChecked arguments disk = run arguments disk ∨
      ∃ request attempt p, parse arguments = .ok request ∧ request.task = .render ∧
        Attempt.Loads disk request.path attempt ∧
        attempt.compileError.bind (·.position?) = some p ∧
        Text.overflows attempt.grammar.toList p = true ∧
        (runChecked arguments disk).exit = 101 ∧ (runChecked arguments disk).output = "" ∧
        (run arguments disk).exit = 0 := by
  cases parsed : parse arguments with
  | error stop => exact .inl (by rw [runChecked,parsed])
  | ok request =>
    have ends := ends_run arguments disk request parsed
    simp only [runChecked,parsed]
    split
    next overflows =>
      rw [Request.overflows] at overflows
      split at overflows
      next settings attempt task loaded read =>
        obtain ⟨p,position,beyond⟩ := (Option.any_eq_true _ _).mp overflows
        have loads := (Attempt.load_eq_ok_iff _ _ _).mp read
        have compiled : attempt.compileError ≠ none := by
          intro none
          rw [none] at position
          exact absurd position nofun
        have passes : Passes disk request.path request.task :=
          task ▸ .render attempt loads (.inl compiled)
        exact .inr ⟨request,attempt,p,rfl,task,loads,position,beyond,rfl,rfl,
          ends.ready_iff.mpr ⟨⟨settings,loaded⟩,passes⟩⟩
      next => exact absurd overflows nofun
    next => exact .inl rfl

end Lines

end ParseScope.Command
