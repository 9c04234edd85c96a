-- SUMMARY: The program: gathers the files that a command reads, runs it, and writes its lines.
import DocSieve.CommandLine.Run
import DocSieve.Json.Printer

/-!
# The program

The files that a command reads are found through its settings, so the settings
are loaded once to gather them.
-/

namespace DocSieve.Program

/-- Why the system could not reach an entry. -/
def reason : IO.Error → Files.Error
  | .inappropriateType .. => .notDirectory
  | .invalidArgument .. => .nameTooLong
  | _ => .notFound

/-- The entry at a path that may be followed, with the files of a directory
one level deep. -/
def reach (path : String) : IO Files.Entry := do
  let place := (← IO.currentDir) / path
  if (← place.metadata).type != .dir then return .file (← IO.FS.readBinFile place)
  let entries ← (← place.readDir).toList.mapM fun e => do
    if ← e.path.isDir then return (e.fileName, Files.Entry.directory [])
    return (e.fileName, Files.Entry.file (← IO.FS.readBinFile e.path))
  return .directory entries

/-- What is at a path. -/
def readEntry (path : String) : IO (Except Files.Error Files.Entry) := do
  match Files.checkPath path with
  | .error e => return .error e
  | .ok () =>
    try return .ok (← reach path)
    catch e => return .error (reason e)

/-- The file system that has the given paths and no others. -/
def fileSystem (known : List (String × Except Files.Error Files.Entry)) : Files.FileSystem :=
  .ofFind fun path => (known.lookup path).getD (.error .notFound)

/-- Gathers the paths that a command with this configuration reads. -/
def gather (config : String) : IO Files.FileSystem := do
  let known := [(config, ← readEntry config)]
  match Settings.load (fileSystem known) config with
  | .error _ => return fileSystem known
  | .ok settings =>
    let dirs ← (settings.schemaDir :: settings.dataDir.toList).mapM fun dir =>
      return (dir, ← readEntry dir)
    return fileSystem (known ++ dirs)

/-- The standard input, which only a server does not read. -/
def readInput : Command → IO ByteArray
  | .serve _ _ => return .empty
  | _ => do (← IO.getStdin).readBinToEnd

/-- The configuration of a command. -/
def config : Command → String
  | .compile config _ | .query config _ | .serve config _ => config

end DocSieve.Program

open DocSieve in
/-- Runs the command that the arguments give. -/
def main (args : List String) : IO UInt32 := do
  match Arguments.parse args with
  | .error e =>
    IO.eprintln e.name
    return if e = .displayHelp || e = .displayVersion then 0 else 2
  | .ok command =>
    let files ← Program.gather (Program.config command)
    match Surroundings.run ⟨files, ← Program.readInput command, [], .insertion⟩ command with
    | .ok (some lines) =>
      lines.forM fun line => IO.println line.toText
      return 0
    | .ok none =>
      IO.eprintln "The documents cannot be sorted"
      return 101
    | .error f =>
      IO.eprintln f.text
      return 1
