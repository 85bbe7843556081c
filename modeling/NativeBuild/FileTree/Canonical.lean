import NativeBuild.FileTree.Walk

/-
  Canonical paths: absolute texts with every symbolic link resolved. What does not exist is kept
  as it is spelled. A link is resolved once and its target remembered under the path that it was
  met by. A link that is met again while its own target is being resolved cannot be resolved: it is
  kept, what follows it is put after it unresolved, and `..` is cancelled by text.
-/

namespace NativeBuild.FileTree

/-- What is known of the links met so far, newest first: the path that each resolves to, or none
while it is being resolved. -/
abbrev KnownLinks := List (Path × Option Path)

/-- How far a path was resolved: the path, whether no link had to be given up, and what is known
of links by then. -/
structure Resolution where
  path : Path
  complete : Bool
  known : KnownLinks
  deriving Repr, DecidableEq

/-- One level up. A relative path may lead above its working directory. -/
def up (p : Path) : Path :=
  match p.names.getLast? with
  | none => if p.anchor = .relative then ⟨p.anchor, [".."]⟩ else p
  | some last => if last = ".." then p.child ".." else p.parent

/-- The target of the link that a path leads to. A path that cannot be looked up leads to none. -/
def linkTarget? (t : FileTree) (cwd : Location) (p : Path) : Option String :=
  match t.reach cwd false p.toString with
  | .ok (.found _ (.link target)) => some target
  | _ => none

/-- Resolves the pieces of a path one after the other. `enter` resolves the target of a link. -/
def resolvePieces (t : FileTree) (cwd : Location)
    (enter : KnownLinks → Path → String → Except Fault Resolution) :
    KnownLinks → Path → List String → Except Fault Resolution
  | known, path, [] => .ok ⟨path, true, known⟩
  | known, path, piece :: rest =>
    if Path.isName piece = false then resolvePieces t cwd enter known path rest
    else if piece = ".." then resolvePieces t cwd enter known (up path) rest
    else if '\x00' ∈ piece.toList then .error .embeddedNul
    else
      let here := path.child piece
      match t.linkTarget? cwd here with
      | none => resolvePieces t cwd enter known here rest
      | some target =>
        match known.lookup here with
        | some (some resolved) => resolvePieces t cwd enter known resolved rest
        | some none => .ok ⟨here.join (Path.ofPieces rest), false, known⟩
        | none =>
          match enter ((here, none) :: known) path target with
          | .error fault => .error fault
          | .ok ⟨resolved, true, known⟩ =>
            resolvePieces t cwd enter ((here, some resolved) :: known) resolved rest
          | .ok ⟨resolved, false, known⟩ => .ok ⟨resolved.join (Path.ofPieces rest), false, known⟩

/-- The path from which a spelled path is resolved: the root, or one seen from `path`. -/
def startOf (path : Path) (pieces : List String) : Path :=
  if Path.anchorOf pieces = .relative then path else ⟨.root, []⟩

/-- Resolves a spelled path; `depth` bounds the number of links that are being resolved at one
time. -/
def resolve (t : FileTree) (cwd : Location) :
    Nat → KnownLinks → Path → List String → Except Fault Resolution
  | 0 => fun known path pieces => .ok ⟨path.join (Path.ofPieces pieces), false, known⟩
  | depth + 1 => fun known path pieces =>
    t.resolvePieces cwd
      (fun known path target => resolve t cwd depth known path (Path.pieces target))
      known (startOf path pieces) pieces

/-- A bound on the links that are being resolved at one time: each was met by a path of its own,
and such a path is told by the place of the link and the number of `..` that it starts with. -/
def depthLimit (t : FileTree) : Nat := t.links.length * (pathLimit / 3 + 2) + 1

/-- The canonical form of a path. One that stays relative has none when the working directory has
been removed. -/
def canonical (t : FileTree) (cwd : Location) (path : String) : Except Fault String := do
  let r ← t.resolve cwd t.depthLimit [] ⟨.relative, []⟩ (Path.pieces path)
  if r.path.anchor = .relative ∧ t.find? cwd = none then throw (.system (.plain .noEntry))
  return ((Path.ofLocation cwd).absolute r.path).toString

end NativeBuild.FileTree
