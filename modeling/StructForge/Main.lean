import StructForge.CommandLine.Run

/-!
# The program

The outer layer: it shows a command the files that the command may ask for, runs it, and does what the outcome says.
Files that would be written are looked at in a second round.
-/

open StructForge CommandLine

/-- What is at a path of the file system whose directory exists. -/
def nodeAt? (p : Path) : IO (Option Node) := do
  try
    let bytes ← IO.FS.readBinFile p.text.asString
    return some (.file (bytes.toList.map UInt8.toNat))
  catch
    | .noFileOrDirectory _ _ _ => return none
    | _ => return some .directory

/-- The tree with what is at the parts of a path, as far as there is something. -/
def lookAt (tree : FileTree) (p : Path) : IO FileTree := do
  let mut tree := tree
  for length in List.range p.parts.length do
    let here : Path := ⟨p.root, p.parts.take (length + 1)⟩
    match ← nodeAt? here with
    | none => return tree
    | some (.file content) => return tree.insert here (.file content)
    | some .directory => tree := tree.insert here .directory
  return tree

/-- The variables of the environment that hold settings. -/
def environment : IO (List (Text × Text)) :=
  Settings.Key.all.filterMapM fun key => do
    return (← IO.getEnv key.variable.asString).map fun value => (key.variable, value.toList)

/-- Everything that a stream has behind some bytes. -/
partial def readAll (stream : IO.FS.Stream) (bytes : ByteArray) : IO ByteArray := do
  let more ← stream.read 65536
  if more.isEmpty then return bytes else readAll stream (bytes ++ more)

/-- The world of an action, with further paths to look at. -/
def worldOf (action : Action) (more : List Path) : IO World := do
  let files ← (action.readPaths ++ more).foldlM lookAt {}
  let input ← if action.readsInput then readAll (← IO.getStdin) .empty else pure .empty
  return { files, environment := ← environment, input := input.toList.map UInt8.toNat,
           directory := (← IO.currentDir).toString.toList }

/-- Writes the files that are not as they were. -/
def writeChanges (old new : FileTree) : IO Unit :=
  for (place, content) in new.changedSince old do
    IO.FS.createDirAll place.parent.text.asString
    IO.FS.writeBinFile place.text.asString ⟨(content.map Nat.toUInt8).toArray⟩

/-- Prints an outcome and gives its exit code. -/
def finish (w : World) : Outcome → IO UInt32
  | .finished output => do
    writeChanges w.files output.files
    IO.print output.stdout.asString
    IO.eprint output.stderr.asString
    return output.exitCode.toUInt32
  | .help => do
    IO.println ("Commands: " ++ ", ".intercalate (Command.all.map (·.name.asString)))
    return 0
  | .usage e => do
    IO.eprintln ("Error: " ++ ((e.message?.map Text.asString).getD "malformed command line"))
    return 2
  | .crashed failure => do
    IO.eprintln ("Crash: " ++ (failure.message?.map Text.asString).getD "something of an unknown form or too deep")
    return 1

/-- Runs the command line. -/
def main (arguments : List String) : IO UInt32 := do
  let words := arguments.map String.toList
  match CommandLine.read words with
  | .error e => finish ⟨{}, [], [], []⟩ (.usage e)
  | .ok invocation =>
    let w ← worldOf invocation.action []
    match CommandLine.run w words with
    | .finished output =>
      let written := (output.files.changedSince w.files).map (·.1)
      let files ← written.foldlM lookAt w.files
      let w := { w with files }
      finish w (CommandLine.run w words)
    | other => finish w other
