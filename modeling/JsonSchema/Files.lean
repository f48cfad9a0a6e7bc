import JsonSchema.Files.Path

/-!
# File systems

A file system is a tree of directories and files with a current directory. `Files.find?` follows a
path to what stands there: `..` leads to the parent, and everything before a slash must be a
directory. `Files.documents` collects the files below a directory whose extension is `json`.
-/

namespace JsonSchema

/-- A file or a directory. -/
inductive FileTree
  | file (content : List UInt8)
  | directory (entries : List (String × FileTree))

/-- A file system. -/
structure Files where
  root : FileTree
  /-- The names that lead to the current directory. -/
  home : List String

namespace FileTree

/-- The entry of a directory called `name`. -/
def child? : FileTree → String → Option FileTree
  | directory entries, name => entries.lookup name
  | file _, _ => none

/-- Whether this is a directory. -/
def isDirectory : FileTree → Bool
  | directory _ => true
  | file _ => false

/-- What a place holds once a tree is put there: an empty directory leaves a directory alone. -/
def place (leaf old : FileTree) : FileTree :=
  match leaf, old with
  | directory [], directory entries => directory entries
  | leaf, _ => leaf

/-- A tree with one file, or empty directory, put below directories of the given names. -/
def insert (leaf : FileTree) : List String → FileTree → FileTree
  | [], old => place leaf old
  | name :: names, tree =>
    let entries :=
      match tree with
      | directory entries => entries
      | file _ => []
    let below := insert leaf names ((entries.lookup name).getD (directory []))
    directory ((entries.filter fun e => e.1 != name) ++ [(name, below)])

mutual

/-- The files below a directory whose extension is `json`, as the names that lead to them. -/
def documents : FileTree → List (List String)
  | file _ => []
  | directory entries => documentsIn entries

/-- The same for the entries of a directory. -/
def documentsIn : List (String × FileTree) → List (List String)
  | [] => []
  | (name, file _) :: rest =>
    (if Path.extension? name.toList = some "json".toList then [[name]] else []) ++
      documentsIn rest
  | (name, directory entries) :: rest =>
    (documentsIn entries).map (name :: ·) ++ documentsIn rest

end

end FileTree

namespace Files

/-- The way from the root to a place: names and what they lead to, the place itself first. -/
abbrev Way := List (String × FileTree)

/-- What stands at the end of a way. -/
def Way.tree (root : FileTree) (way : Way) : FileTree :=
  (way.head?.map Prod.snd).getD root

/-- Follows one segment of a path from a directory. -/
def step (root : FileTree) (way : Way) (segment : List Char) : Option Way :=
  if (way.tree root).isDirectory then
    if Path.isBlank segment then some way
    else if segment = "..".toList then some way.tail
    else
      let name := String.ofList segment
      ((way.tree root).child? name).map fun tree => (name, tree) :: way
  else none

/-- The way to the place of a path; the empty path has none, and no path holds a NUL. -/
def way? (files : Files) (path : List Char) : Option Way :=
  if path = [] ∨ path.contains '\x00' then none
  else do
    let p := Path.parse path
    let start ←
      if p.rooted then some []
      else (files.home.map String.toList).foldlM (step files.root) []
    p.segments.foldlM (step files.root) start

/-- What stands at a path. -/
def find? (files : Files) (path : List Char) : Option FileTree :=
  (files.way? path).map (Way.tree files.root)

/-- Whether something stands at a path. -/
def contains (files : Files) (path : List Char) : Bool :=
  (files.find? path).isSome

/-- The names that lead from the root to the place of a path. -/
def absolute? (files : Files) (path : List Char) : Option (List String) :=
  (files.way? path).map fun way => way.reverse.map Prod.fst

/-- Whether one sequence of names comes before another or equals it, name by name. -/
def inOrder : List String → List String → Bool
  | [], _ => true
  | _ :: _, [] => false
  | a :: as, b :: bs => if a = b then inOrder as bs else decide (a < b)

/-- The documents at a path: the file itself, if its extension is `json`, or the files below the
directory with that extension, in the order of their names. -/
def documents (files : Files) (path : List Char) : List (List Char) :=
  match files.way? path with
  | none => []
  | some way =>
    match way.tree files.root with
    | .file _ =>
      let name := ((way.head?.map Prod.fst).getD "").toList
      if Path.extension? name = some "json".toList then [path] else []
    | directory =>
      (directory.documents.mergeSort inOrder).map fun names =>
        names.foldl (fun path name => Path.child path name.toList) path

end Files

end JsonSchema
