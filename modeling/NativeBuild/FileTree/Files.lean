import NativeBuild.FileTree.Walk

/-
  What the operating system does to files for those who ask by a path: writing what a path leads to,
  making entries and names, moving them and taking them away. Whoever makes or takes an entry needs
  the right to write to its directory; whoever writes a file or reads a directory needs the right to
  that itself.
-/

namespace NativeBuild.FileTree

/-- Nothing, if the owner has a right to what stands at a place. -/
def require (t : FileTree) (place : Location) (r : Right) : Except Errno Unit :=
  if t.permits place r then .ok () else .error .accessDenied

/-- Writes a file, at its end or in place of what it holds. A file that is not there is made with
the given mode. -/
def writeFile (t : FileTree) (cwd : Location) (path : String) (content : List UInt8) (mode : Nat)
    (atEnd : Bool) : Except Errno FileTree :=
  match t.reach cwd true path with
  | .ok (.found place (.file old kept)) => do
    t.require place .write
    return t.rewrite place (.file (if atEnd then old ++ content else content) kept)
  | .ok (.found _ (.directory _)) => .error .isDirectory
  | .ok (.found _ (.pipe _)) => .ok t
  | .ok (.found _ (.link _)) => .error .noEntry
  | .ok (.missing parent name) => do
    t.require parent .write
    return t.add (parent ++ [name]) (.file content mode)
  | .error e => .error e

/-- The tree with a file written, or as it was when that is not possible. -/
def store (t : FileTree) (cwd : Location) (path : String) (content : List UInt8) (mode : Nat) :
    FileTree :=
  (t.writeFile cwd path content mode false).toOption.getD t

/-- Makes an entry where there is none. -/
def makeEntry (t : FileTree) (cwd : Location) (path : String) (node : Node) :
    Except Errno FileTree :=
  match t.reach cwd false path with
  | .ok (.missing parent name) =>
    if t.permits parent .write then .ok (t.add (parent ++ [name]) node) else .error .accessDenied
  | .ok (.found _ _) => .error .fileExists
  | .error e => .error e

/-- Makes a symbolic link. -/
def makeLink (t : FileTree) (cwd : Location) (path target : String) : Except Errno FileTree :=
  t.makeEntry cwd path (.link target)

/-- The tree with a link made, or as it was when that is not possible. -/
def storeLink (t : FileTree) (cwd : Location) (path target : String) : FileTree :=
  (t.makeLink cwd path target).toOption.getD t

/-- Makes another name for a file. A directory has one name only. -/
def makeName (t : FileTree) (cwd : Location) (follow : Bool) (source path : String) :
    Except Errno FileTree :=
  match t.reach cwd follow source, t.reach cwd false path with
  | .ok (.found place node), .ok (.missing parent name) => do
    t.require parent .write
    if node.isDirectory then throw .notPermitted
    return t.addName (parent ++ [name]) ((t.numberAt? place).getD 0) node
  | .ok (.found _ _), .ok (.found _ _) => .error .fileExists
  | .ok (.missing _ _), _ => .error .noEntry
  | .error e, _ => .error e
  | _, .error e => .error e

/-- Takes away a file or a link. -/
def removeFile (t : FileTree) (cwd : Location) (path : String) : Except Errno FileTree :=
  match t.reach cwd false path with
  | .ok (.found place node) => do
    t.require place.dropLast .write
    if node.isDirectory then throw .isDirectory
    return t.erase place
  | .ok (.missing _ _) => .error .noEntry
  | .error e => .error e

/-- A path without the slashes at its end. -/
def withoutEnd (path : String) : String :=
  let short := (path.toList.reverse.dropWhile (· == '/')).reverse
  if short = [] then path else String.ofList short

/-- Takes away an empty directory. -/
def removeDirectory (t : FileTree) (cwd : Location) (path : String) : Except Errno FileTree :=
  let path := withoutEnd path
  if (steps path).getLast? = some "." then .error .invalidArgument
  else if (steps path).getLast? = some ".." then .error .notEmpty
  else
    match t.reach cwd false path with
    | .ok (.found place node) => do
      if place = [] then throw .busy
      t.require place.dropLast .write
      if node.isDirectory = false then throw .notDirectory
      if t.children place ≠ [] then throw .notEmpty
      return t.erase place
    | .ok (.missing _ _) => .error .noEntry
    | .error e => .error e

/-- Lets an entry take another place. A file there gives way, and so does an empty directory to a
directory; two names of one file stay as they are. -/
def rename (t : FileTree) (cwd : Location) (source path : String) : Except Errno FileTree :=
  match t.reach cwd false source, t.reach cwd false path with
  | .ok (.found place node), .ok found => do
    let (target, there) := match found with
      | .found target there => (target, some there)
      | .missing parent name => (parent ++ [name], none)
    if t.numberAt? place = t.numberAt? target ∧ there.isSome then return t
    if place = [] ∨ target = [] then throw .busy
    t.require place.dropLast .write
    t.require target.dropLast .write
    if node.isDirectory ∧ place.isPrefixOf target then throw .invalidArgument
    if node.isDirectory ∧ place.dropLast ≠ target.dropLast then t.require place .write
    match there with
    | none => return t.move place target
    | some old =>
      if old.isDirectory ∧ node.isDirectory = false then throw .isDirectory
      if node.isDirectory ∧ old.isDirectory = false then throw .notDirectory
      if t.children target ≠ [] then throw .notEmpty
      return (t.erase target).move place target
  | .ok (.missing _ _), _ => .error .noEntry
  | .error e, _ => .error e
  | _, .error e => .error e

/-- Gives what a path leads to another mode. -/
def setMode (t : FileTree) (cwd : Location) (path : String) (mode : Nat) : Except Errno FileTree :=
  match t.reach cwd true path with
  | .ok (.found place node) => .ok (t.set place (node.withMode mode))
  | .ok (.missing _ _) => .error .noEntry
  | .error e => .error e

/-- The names in the directory that a path leads to. -/
def list (t : FileTree) (cwd : Location) (path : String) : Except Errno (List String) :=
  match t.reach cwd true path with
  | .ok (.found place (.directory _)) => do
    t.require place .read
    return (t.children place).map (·.1)
  | .ok (.found _ _) => .error .notDirectory
  | .ok (.missing _ _) => .error .noEntry
  | .error e => .error e

end NativeBuild.FileTree
