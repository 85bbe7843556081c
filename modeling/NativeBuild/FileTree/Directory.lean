import NativeBuild.FileTree.Files

/-
  Making directories. A directory is made with all its missing parents; one that is there already
  is taken as it is. A place taken by something else is an error, and so is a way that cannot be
  walked.
-/

namespace NativeBuild.FileTree

/-- Whether a path leads to a directory. A way that ends early or runs in circles leads nowhere;
other errors on the way are errors. -/
def isDirectory (t : FileTree) (cwd : Location) (path : String) : Except SystemError Bool :=
  match t.reach cwd true path with
  | .ok (.found _ (.directory _)) => .ok true
  | .ok _ => .ok false
  | .error .noEntry | .error .notDirectory | .error .tooManyLinks => .ok false
  | .error e => .error (.about e path)

/-- Makes one directory in a directory that exists. -/
def makeDirectory (t : FileTree) (cwd : Location) (path : String) (mode : Nat := 0o755) :
    Except Errno FileTree :=
  t.makeEntry cwd path (.directory mode)

/-- Takes what already stands in the way if it is a directory. -/
def acceptDirectory (t : FileTree) (cwd : Location) (path : String) (e : Errno) :
    Except SystemError Unit :=
  match t.isDirectory cwd path with
  | .ok true => .ok ()
  | .ok false => .error (.about e path)
  | .error other => .error other

/-- Makes a directory and its missing parents; the names stand last first. The tree keeps the
parents that were made before an error. -/
def makeAll (t : FileTree) (cwd : Location) (anchor : Path.Anchor) :
    List String → Except SystemError Unit × FileTree
  | [] =>
    let path := (Path.mk anchor []).toString
    match t.makeDirectory cwd path with
    | .ok made => (.ok (), made)
    | .error .noEntry => (.error (.about .noEntry path), t)
    | .error e => (t.acceptDirectory cwd path e, t)
  | name :: before =>
    let path := (Path.mk anchor (before.reverse ++ [name])).toString
    match t.makeDirectory cwd path with
    | .ok made => (.ok (), made)
    | .error .noEntry =>
      match makeAll t cwd anchor before with
      | (.error e, made) => (.error e, made)
      | (.ok (), made) =>
        match made.makeDirectory cwd path with
        | .ok done => (.ok (), done)
        | .error .noEntry => (.error (.about .noEntry path), made)
        | .error e => (made.acceptDirectory cwd path e, made)
    | .error e => (t.acceptDirectory cwd path e, t)

/-- Makes the directory that a path names, with its missing parents. -/
def makeDirectories (t : FileTree) (cwd : Location) (p : Path) :
    Except SystemError Unit × FileTree :=
  t.makeAll cwd p.anchor p.names.reverse

theorem makeDirectory_eq_ok {t made : FileTree} {cwd : Location} {path : String} {mode : Nat}
    (h : t.makeDirectory cwd path mode = .ok made) :
    ∃ parent name, t.reach cwd false path = .ok (.missing parent name) ∧
      made = t.add (parent ++ [name]) (.directory mode) := by
  unfold makeDirectory makeEntry at h
  split at h
  · next parent name hr =>
    split at h
    · exact ⟨parent, name, hr, by cases h; rfl⟩
    · cases h
  · cases h
  · cases h

end NativeBuild.FileTree
