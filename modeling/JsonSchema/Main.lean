import JsonSchema.Cli

/-!
# The program

The commands see a file system as a value, so the program first reads the files that its arguments
name, runs the command, reads the files that the command asked for in vain, and runs it again until
nothing new is asked for.
-/

namespace JsonSchema.Main

/-- The text of a path from the root. -/
def rooted (names : List String) : String :=
  "/" ++ String.intercalate "/" names

/-- Adds what the disk holds at the end of some names to a file system: a file, or a directory,
with everything below it if `deep`. -/
partial def readPlace (deep : Bool) (files : Files) (names : List String) : IO Files := do
  let add (tree : FileTree) : Files := { files with root := FileTree.insert tree names files.root }
  try
    return add (.file (← IO.FS.readBinFile (rooted names)).toList)
  catch _ =>
    try
      let entries ← (← IO.FS.realPath (rooted names)).readDir
      let files := add (.directory [])
      if deep then
        entries.foldlM (fun files e => readPlace true files (names ++ [e.fileName])) files
      else return files
    catch _ => return files

/-- Adds what the disk holds at a path to a file system, and at every place on the way to it. -/
def load (deep : Bool) (files : Files) (path : String) : IO Files := do
  let mut here := if path.startsWith "/" then [] else files.home
  let mut files := files
  for name in (Path.parse path.toList).segments.map String.ofList do
    if name == ".." then
      here := here.dropLast
    else if name != "" && name != "." then
      here := here ++ [name]
      files ← readPlace false files here
  if deep then readPlace true files here else return files

/-- The path of the local file behind a locator. -/
def localPath (r : Reference) : Option String :=
  let url :=
    match Fetcher.splitArchive r with
    | .ok (archive, _) => archive
    | .error _ => r.locator
  (filePath url).toOption.map fun path => String.ofList (Utf8.decodeLossy path)

/-- The paths that a command names itself. -/
def ownPaths : Cli.Command → List String
  | .validate document schema _ =>
    [String.ofList document, String.ofList (Cli.splitSource schema).1]
  | .check schema => [String.ofList (Cli.splitSource schema).1]
  | .lint path _ _ _ => [String.ofList path]

/-- Whether a command looks at everything below its paths. -/
def isDeep : Cli.Command → Bool
  | .lint _ _ _ _ => true
  | _ => false

/-- Runs a command until it asks for no file that was not read. -/
partial def settle (arguments : List String) (files : Files) (known : List String) :
    IO Cli.Output := do
  let output := Cli.run files arguments
  let missing := (output.requests.filterMap localPath).filter fun p => !known.contains p
  if missing.isEmpty then
    return output
  let files ← missing.foldlM (load false) files
  settle arguments files (missing ++ known)

end JsonSchema.Main

open JsonSchema in
/-- Runs a command line. -/
def main (arguments : List String) : IO UInt32 := do
  let home := ((← IO.currentDir).toString.splitOn "/").filter (· != "")
  let files : Files := ⟨.directory [], home⟩
  let files ← Main.load false files (Main.rooted home)
  let (paths, deep) :=
    match Cli.read arguments with
    | .ok command => (Main.ownPaths command, Main.isDeep command)
    | .error _ => ([], false)
  let files ← paths.foldlM (Main.load deep) files
  let output ← Main.settle arguments files []
  IO.print (Cli.written output.stdout)
  IO.eprint (Cli.written output.stderr)
  return output.code.toUInt32
