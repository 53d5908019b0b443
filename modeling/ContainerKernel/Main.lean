import ContainerKernel.Command
import ContainerKernel.Log.Stamp
import Std.Time.DateTime.Timestamp

/-!
# The command line

The outer layer of the command: it reads the files that the arguments name, runs the command on
what it found, prints what the command prints, and returns its exit code.
-/

namespace ContainerKernel

/-- The code of the system for a path that is a directory. -/
def directoryCode : UInt32 := 21

/-- What the system finds at a way from the root. -/
def entryOnDisk (way : List Bytes) : IO (Option Entry) := do
  match decodeChars? (Path.text way) with
  | none => return none
  | some chars =>
    match ← (IO.FS.readBinFile ⟨String.ofList chars⟩).toBaseIO with
    | .ok contents => return some (.file contents.toList)
    | .error (.permissionDenied ..) => return some .closed
    | .error (.inappropriateType _ code _) =>
      return if code = directoryCode then some .directory else none
    | .error _ => return none

/-- What the system finds on the way to a path and at its end. -/
def entriesOnDisk (way : List Bytes) : IO (List (List Bytes × Entry)) := do
  let found ← (List.range way.length).mapM fun shorter => do
    let part := way.take (shorter + 1)
    return (← entryOnDisk part).map fun entry => (part, entry)
  return found.filterMap id

/-- The part of the file system that the command reads with the given arguments. -/
def treeOnDisk (arguments : List Bytes) : IO FileTree := do
  let workingDirectory := Path.names (utf8 (← IO.currentDir).toString)
  let ways := (Command.pathsRead arguments).map (Path.absolute workingDirectory)
  return { workingDirectory, entries := (← ways.mapM entriesOnDisk).flatten }

/-- Print bytes. -/
def print (stream : IO.FS.Stream) (text : Bytes) : IO Unit := do
  stream.write ⟨text.toArray⟩
  stream.flush

end ContainerKernel

open ContainerKernel in
/-- Run the command. -/
def main (arguments : List String) : IO UInt32 := do
  let given := arguments.map utf8
  let now ← Std.Time.Timestamp.now
  let result := Command.run given (← treeOnDisk given)
    (Stamp.ofNanoseconds now.toNanosecondsSinceUnixEpoch.val)
  print (← IO.getStdout) result.stdout
  print (← IO.getStderr) result.stderr
  return result.code.toUInt32
