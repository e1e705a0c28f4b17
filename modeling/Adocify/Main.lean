import Adocify.CommandLine.Command

/-! The program. It shows the command the files that it may touch, and brings about what the command
leaves of them. -/

namespace Adocify.CommandLine

/-- The paths that a command may touch, each after the directories that lead to it. -/
def touchedPaths (arguments : Arguments) : List Path :=
  let input := Path.ofText arguments.input
  let output := match arguments.destination with
    | some (.toFile path) => path
    | some _ => []
    | none => input.withSuffix FileSource.outputSuffix
  let log := (Path.ofText (arguments.logFile.getD [])).normalized
  [input, output, log].flatMap fun path => (List.range path.length).map fun count => path.take (count + 1)

def nameOf (path : Path) : String := String.ofList path.toText

/-- What stands at a path now. What is there but cannot be read as a file counts as a directory. -/
def lookAt (path : Path) : IO (Option FileEntry) := do
  try
    let content ← IO.FS.readBinFile (nameOf path)
    return some (.file content.toList FileTree.defaultMode)
  catch
    | .noFileOrDirectory .. => return none
    | _ => return some .directory

def gather (paths : List Path) : IO FileTree :=
  paths.foldlM (fun files path => do
    match ← lookAt path with
    | some entry => return files.put path entry
    | none => return files) {}

/-- A file takes the place of another as a whole. -/
def bringAbout (path : Path) (entry : FileEntry) : IO Unit :=
  match entry with
  | .directory => IO.FS.createDirAll (nameOf path)
  | .file content _ => do
    let temporary := nameOf path ++ ".tmp"
    IO.FS.writeBinFile temporary (ByteArray.mk content.toArray)
    IO.FS.rename temporary (nameOf path)

def readInput : IO (Except SystemError (List UInt8)) := do
  try
    let content ← (← IO.getStdin).readBinToEnd
    return .ok content.toList
  catch _ => return .error .inputOutput

def program (words : List String) : IO UInt32 := do
  let output ← IO.getStdout
  let errors ← IO.getStderr
  match Arguments.ofTexts (words.map String.toList) with
  | .error stop =>
    output.putStr (String.ofList stop.output)
    errors.putStr (String.ofList stop.errors)
    return stop.exitCode.toUInt32
  | .ok arguments =>
    let before ← gather (touchedPaths arguments)
    let input ← if arguments.input = Arguments.hyphen then readInput else pure (.ok [])
    let result := run {} arguments input before
    for (path, entry) in result.files.entries do
      unless before.entry? path == some entry do bringAbout path entry
    output.putStr (String.ofList result.output)
    errors.putStr (String.ofList result.errors)
    if let some failure := result.unreported then errors.putStrLn (String.ofList failure.message)
    return result.exitCode.toUInt32

end Adocify.CommandLine

def main (words : List String) : IO UInt32 := Adocify.CommandLine.program words
