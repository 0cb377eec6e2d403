import HtmlReflow.CommandLine.Run

namespace HtmlReflow.CommandLine

/-- A place in a tree of files: the names on the way to it from the root. -/
abbrev Place := List Text

inductive Node where
  | file (bytes : Bytes)
  | directory
  deriving DecidableEq, Repr

/-- Files and directories by their places, and the place from which paths start. -/
structure FileTree where
  nodes : List (Place × Node)
  here : Place

namespace FileTree

/-- What is at a place. The root is a directory always. -/
def node? (t : FileTree) (place : Place) : Option Node :=
  if place = [] then some .directory else t.nodes.lookup place

def put (t : FileTree) (place : Place) (bytes : Bytes) : FileTree :=
  { t with nodes := (place, .file bytes) :: t.nodes.filter (fun n => n.1 != place) }

/-- The names of a path. A slash at its end leaves an empty name behind it. -/
def names (path : Text) : List Text := path.splitOn '/'

/-- The place that a name leads to. Empty names and single dots lead nowhere, two dots lead back. -/
def step (place : Place) (name : Text) : Place :=
  if name = [] ∨ name = ['.'] then place
  else if name = ['.', '.'] then place.dropLast
  else place ++ [name]

/-- Follows names from a place. All but the last must lead from directories. -/
def follow (t : FileTree) : Place → List Text → Except Fault Place
  | place, [] => .ok place
  | place, name :: names =>
    match t.node? place with
    | none => .error .notFound
    | some (.file _) => .error .notADirectory
    | some .directory => t.follow (step place name) names

def origin (t : FileTree) : Text → Place
  | '/' :: _ => []
  | _ => t.here

/-- The bytes of the file that a path leads to. -/
def read (t : FileTree) (path : Text) : Except Fault Bytes :=
  match t.follow (t.origin path) (names path) with
  | .error fault => .error fault
  | .ok place =>
    match t.node? place with
    | none => .error .notFound
    | some .directory => .error .isADirectory
    | some (.file bytes) => .ok bytes

def withoutEndSlashes (path : Text) : Text := (path.reverse.dropWhile (· == '/')).reverse

/-- The tree after a file has been written. A path that ends in a slash can only name a directory, so
    nothing is written there, whatever its last name leads to. -/
def write (t : FileTree) (path : Text) (bytes : Bytes) : Except Fault FileTree :=
  match t.follow (t.origin path) (names (withoutEndSlashes path)) with
  | .error fault => .error fault
  | .ok place =>
    if path.getLast? = some '/' ∨ t.node? place = some .directory then .error .isADirectory
    else .ok (t.put place bytes)

/-- The files right at the place from which paths start, by name. -/
def filesHere (t : FileTree) : List (Text × Bytes) :=
  t.nodes.filterMap fun
    | (place, .file bytes) =>
      if place.dropLast = t.here then place.getLast?.map (·, bytes) else none
    | _ => none

/-- The files of `filesHere` that an older tree has not, or has with other bytes. -/
def changesSince (older t : FileTree) : List (Text × Bytes) :=
  t.filesHere.filter fun f => older.node? (t.here ++ [f.1]) != some (.file f.2)

/-- The places that names lead through, the first and the last included. -/
def way (place : Place) : List Text → List Place
  | [] => [place]
  | name :: names => place :: way (step place name) names

/-- A place of its own with these directories and files, given by their paths from it, and with the
    directories on the way to them. No path can spell its name, so none that leaves it comes back. -/
def fresh (directories : List Text) (files : List (Text × Bytes)) : FileTree :=
  let here : Place := [['/']]
  let made := directories.flatMap (fun path => way here (names path)) ++
    files.flatMap (fun f => way here (names f.1).dropLast)
  { nodes := (files.map fun f => ((names f.1).foldl step here, .file f.2)) ++
      (here :: made).map (·, .directory)
    here := here }

end FileTree

/-- What a run can see and change: a tree of files. -/
abbrev Session := StateM FileTree

/-- A tree of files as storage, with the bytes of standard input. A refused write leaves the tree as it
    is. -/
def FileTree.storage (stdin : Bytes) : Storage Session where
  read
    | .standardInput => pure (.ok stdin)
    | .file path => do return (← get).read path
  write path bytes := do
    match (← get).write path bytes with
    | .error fault => pure (.error fault)
    | .ok t => do
      set t
      pure (.ok ())

/-- Does what a command line asks for on a tree of files. -/
def performOn (t : FileTree) (stdin : Bytes) (args : List Text) : Outcome × FileTree :=
  (perform (FileTree.storage stdin) args).run t

end HtmlReflow.CommandLine
