import ParseScope.Command.Run

/-!
The program: it looks at the files that a command line names, runs the command on them, and prints
what it leaves behind.
-/
namespace ParseScope.Main

/-- The cause of a failure of the operating system. -/
def fileError : IO.Error → FileError
  | .noFileOrDirectory .. => .notFound
  | .inappropriateType .. => .notDirectory
  | error => .other (toString error)

/-- What stands at a path, with the paths of the names in a directory. -/
def look (path : String) : IO (Except FileError Entry × List String) := do
  try
    let real ← IO.FS.realPath path
    if ← real.isDir then
      let names := (← real.readDir).toList.map (·.fileName)
      return (.ok (.directory names), names.map (Disk.join path))
    else
      return (.ok (.file (← IO.FS.readBinFile path)), [])
  catch error => return (.error (fileError error), [])

/-- What stands at each of some paths, and right inside those that are directories. -/
def survey (paths : List String) : IO Disk := do
  let mut found : List (String × Except FileError Entry) := []
  for path in paths do
    let (entry, inside) ← look path
    found := (path, entry) :: found
    for path in inside do
      let (entry, _) ← look path
      found := (path, entry) :: found
  let known := found
  return ⟨fun path => ((known.find? (·.1 = path)).map (·.2)).getD (.error .notFound)⟩

end ParseScope.Main

open ParseScope in
def main (arguments : List String) : IO UInt32 := do
  let disk ← Main.survey (Command.paths arguments)
  let result := Command.run arguments disk
  (← IO.getStdout).putStr result.output
  (← IO.getStderr).putStr result.error
  return result.exit
