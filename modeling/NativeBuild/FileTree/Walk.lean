import NativeBuild.FileTree.Basic
import NativeBuild.Fault

/-
  How the operating system finds what a path names: name by name from the root or the working
  directory, following symbolic links. A link is replaced by the names of its target; more than
  forty links on one way are too many. A name may have 255 bytes and a path 4095. Nothing is found
  in a directory that its owner may not search, and nothing but itself and its parent in one that
  has been removed.
-/

namespace NativeBuild.FileTree

/-- Where a path leads. -/
inductive Reached where
  /-- Something stands there. -/
  | found (place : Location) (node : Node)
  /-- The directory is there, but nothing of that name in it. -/
  | missing (parent : Location) (name : String)
  deriving Repr, DecidableEq

/-- The names on the way that a path describes, with `.` and `..`. A slash at the end asks for a
directory and counts as a last `.`. -/
def steps (path : String) : List String :=
  let ps := Path.pieces path
  ps.filter (· != "") ++ if ps.getLast? = some "" then ["."] else []

/-- A path that starts at the root. -/
def isAbsolute (path : String) : Bool := Path.anchorOf (Path.pieces path) != .relative

/-- The longest name, in bytes. -/
def nameLimit : Nat := 255

/-- The length that a path must stay below, in bytes. -/
def pathLimit : Nat := 4096

/-- The most links followed on one way. -/
def linkLimit : Nat := 40

/-- The directory at a place, or what is left of it when it has been removed. -/
def directoryAt (t : FileTree) (place : Location) : Node := (t.find? place).getD (.directory 0o755)

/-- Walks down from a directory. At a link that is to be followed the way goes on with `onLink`,
which gets the directory of the link, its target and the names that remain. -/
def descend (t : FileTree) (follow : Bool)
    (onLink : Location → String → List String → Except Errno Reached) :
    Location → List String → Except Errno Reached
  | here, [] => .ok (.found here (t.directoryAt here))
  | here, name :: rest =>
    if t.permits here .execute = false then .error .accessDenied
    else if name = "." then descend t follow onLink here rest
    else if name = ".." then descend t follow onLink here.dropLast rest
    else if nameLimit < name.utf8ByteSize then .error .nameTooLong
    else
      match t.find? (here ++ [name]) with
      | some (.directory _) => descend t follow onLink (here ++ [name]) rest
      | some (.link target) =>
        if rest = [] ∧ follow = false then .ok (.found (here ++ [name]) (.link target))
        else onLink here target rest
      | some node =>
        if rest = [] then .ok (.found (here ++ [name]) node) else .error .notDirectory
      | none =>
        if rest = [] ∧ (t.find? here).isSome then .ok (.missing here name) else .error .noEntry

/-- Walks down from a directory with at most `links` links to follow. -/
def walk (t : FileTree) (follow : Bool) : Nat → Location → List String → Except Errno Reached
  | 0 => t.descend follow fun _ _ _ => .error .tooManyLinks
  | links + 1 => t.descend follow fun here target rest =>
      walk t follow links (if isAbsolute target then [] else here) (steps target ++ rest)

/-- Where a path leads. With `follow` false a link at its very end is not followed. -/
def reach (t : FileTree) (cwd : Location) (follow : Bool) (path : String) :
    Except Errno Reached :=
  if path = "" then .error .noEntry
  else if pathLimit ≤ path.utf8ByteSize then .error .nameTooLong
  else t.walk follow linkLimit (if isAbsolute path then [] else cwd) (steps path)

/-- A path that leads to something. -/
def pathExists (t : FileTree) (cwd : Location) (path : String) : Bool :=
  match t.reach cwd true path with
  | .ok (.found _ _) => true
  | _ => false

/-- A path that leads to a directory. -/
def leadsToDirectory (t : FileTree) (cwd : Location) (path : String) : Bool :=
  match t.reach cwd true path with
  | .ok (.found _ (.directory _)) => true
  | _ => false

theorem descend_nil (t : FileTree) (follow : Bool)
    (onLink : Location → String → List String → Except Errno Reached) (here : Location) :
    t.descend follow onLink here [] = .ok (.found here (t.directoryAt here)) := rfl

end NativeBuild.FileTree
