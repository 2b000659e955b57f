/-
The tool as a program.

Calls are answered by the file system of the machine, and lines of a schema's hooks
are run by the shell of `Scaffold.Shell`. Downloads are not answered.
-/
import Scaffold.CommandLine
import Scaffold.Host.Disk
import Scaffold.Shell
import Std.Time.Zoned

namespace Scaffold.Machine

/-- The reason that the machine gives with a number. Some of its parts negate the
numbers of others. -/
def numbered (number : UInt32) (details : String) : String :=
  let number := (min number (0 - number)).toNat
  let known := (DiskFault.numbered.find? fun entry => entry.1 = number).map (·.2.1)
  DiskFault.reason number (known.getD details)

/-- The reason of an error. -/
def reasonOf : IO.Error → String
  | .noFileOrDirectory _ number details | .alreadyExists _ number details
  | .inappropriateType _ number details | .permissionDenied _ number details
  | .resourceExhausted _ number details | .invalidArgument _ number details
  | .noSuchThing _ number details | .interrupted _ number details
  | .otherError number details | .resourceBusy number details
  | .resourceVanished number details | .unsupportedOperation number details
  | .hardwareFault number details | .unsatisfiedConstraints number details
  | .illegalOperation number details | .protocolError number details
  | .timeExpired number details => numbered number details
  | .unexpectedEof => "unexpected end of file"
  | .userError text => text

/-- The reply of an operation at a path. -/
def attempt {α : Type} (path operation : String) (action : IO α) : IO (Except Failure α) := do
  try
    return .ok (← action)
  catch e =>
    return .error (.filesystem path s!"Failed to {operation}: {reasonOf e}")

/-- What is at a path. -/
def entryAt (path : String) : IO (Option Entry) := do
  let place : IO.FS.DirEntry := ⟨path, ""⟩
  try
    let data ← place.root.symlinkMetadata
    return some (if data.type == .dir then ⟨.folder, 0⟩ else ⟨.file, data.byteSize.toNat⟩)
  catch
    | .noFileOrDirectory .. => return none
    | e => throw e

/-- The names in a folder. -/
def namesIn (path : String) : IO (List String) := do
  let place : IO.FS.DirEntry := ⟨path, ""⟩
  return (← place.root.readDir).toList.map (·.fileName)

/-- The file system of the machine. -/
def host : Host IO
  | .entry path => attempt path "inspect path" (entryAt path)
  | .makeFolder path => attempt path "create directory" (IO.FS.createDirAll path)
  | .write path bytes => attempt path "write file" (IO.FS.writeBinFile path bytes)
  | .read path => attempt path "read file" (IO.FS.readBinFile path)
  | .list path => attempt path "list directory" (namesIn path)
  | .removeFile path => attempt path "remove file" (IO.FS.removeFile path)
  | .removeFolder path => attempt path "remove directory" (IO.FS.removeDir path)
  | .fetch url => return .error (.fetch url "no connection")
  | .generate request => return request.bytes
  | .command text _ => return { command := text, success := false }

/-- Asks a question on a terminal. -/
def confirm (question : String) : IO (Except String Bool) := do
  let input ← IO.getStdin
  if ← input.isTty then
    IO.eprint s!"{question} [y/N] "
    (← IO.getStderr).flush
    return .ok ((← input.getLine).trimAscii.toString.toLower ∈ ["y", "yes"])
  else
    return .error "IO error: not a terminal"

/-- The date of today. -/
def today : IO Calendar.Date := do
  let now ← Std.Time.PlainDate.now
  return (Calendar.Date.of? now.year.toInt now.month.val.toNat now.day.val.toNat).getD
    Calendar.Date.epoch

/-- The environment variables that matter, as far as they are set. -/
def environment : IO (List (String × String)) := do
  let names := "HOME" :: "XDG_CONFIG_HOME" :: CommandLine.variableNames
  let found ← names.mapM fun name => do return (← IO.getEnv name).map fun text => (name, text)
  return found.filterMap id

/-- What the tool works with on the machine. -/
def surroundings : IO (CommandLine.Surroundings IO) := do
  let folder := (← IO.currentDir).toString
  return {
    host := host.withShell folder
    load := fun path => do return (← attempt path "read file" (IO.FS.readBinFile path)).toOption
    save := fun path bytes => do
      try
        IO.FS.writeBinFile path bytes
        return .ok ()
      catch e => return .error (reasonOf e)
    confirm := confirm
    environment := ← environment
    folder := folder
    today := ← today }

end Scaffold.Machine

/-- Carries out the words of a command line. -/
def main (words : List String) : IO UInt32 := do
  match ← Scaffold.CommandLine.run (← Scaffold.Machine.surroundings) words with
  | .ok report =>
    IO.print report.output
    IO.eprint report.errors
    return report.exitCode
  | .error fault =>
    IO.eprintln s!"error: {fault.message}"
    return 2
