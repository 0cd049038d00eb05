import Thesaurus.CommandLine.Run

/-!
# The program

Reads from disk what a run may look at, runs, and writes back what the run has changed. The
configuration file is looked for in the directory that the program stands in.
-/

set_option autoImplicit false

open Thesaurus

def variableNames : List Text :=
  Settings.pathVariable :: [Switch.expand, .dedup, .lowercase].map Switch.variableName

def readEnvironment : IO Environment := do
  let found ← variableNames.filterMapM fun name => do
    return (← IO.getEnv (String.ofList name)).map fun value => (name, value.toList)
  return .ofList found

/-- A tree with what is found on disk at a path. -/
def look (tree : FileTree) (p : Path) : IO FileTree := do
  let names := (p.settled tree.workingDirectory).names
  try
    let onDisk ← IO.FS.realPath (String.ofList p.text)
    if ← onDisk.isDir then return { tree with directories := names :: tree.directories }
    let content ← IO.FS.readBinFile onDisk
    return { tree with files := tree.files.insert names content.toList }
  catch _ => return tree

/-- A tree with what is found on disk at a path and on the way to it. -/
def lookAlong (tree : FileTree) (p : Path) : IO FileTree :=
  (List.range (p.names.length + 1)).foldlM
    (fun tree n => look tree { p with names := p.names.take n }) tree

def store (names : List Text) (content : Bytes) : IO Unit :=
  IO.FS.writeBinFile (String.ofList (Path.text ⟨"/", names⟩)) ⟨content.toArray⟩

def usage : String :=
  "usage: [-h] [-v] [--log-file LOG_FILE] (parse | validate | stats)\n" ++
  "       [--[no-]expand] [--[no-]dedup] [--[no-]lowercase] [--output OUTPUT] [input]"

def main (arguments : List String) : IO UInt32 := do
  let words := arguments.map String.toList
  let env ← readEnvironment
  let here := Path.ofText (← IO.currentDir).toString.toList
  let directory ← IO.appDir
  let configFile := directory.toString.toList ++ '/' :: Settings.fileName
  let start ← lookAlong { workingDirectory := here.names } (.ofText configFile)
  let before ← (CommandLine.mentionedPaths start env words configFile).foldlM lookAlong start
  let (outcome, console) := CommandLine.run before env words configFile
  for (names, content) in console.files.changesSince before do
    store names content
  IO.print (String.ofList console.stdout)
  IO.eprint (String.ofList console.stderr)
  match outcome with
  | .ok () => return 0
  | .error halt =>
    match halt with
    | .message t => IO.eprintln (String.ofList t)
    | .refused .help => IO.println usage
    | .refused (.usage _) => IO.eprintln usage
    | .failure cause => IO.eprintln (String.ofList cause.message)
    return halt.exitCode.toUInt32
