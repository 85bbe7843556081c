import NativeBuild.Path

/-
  A tree of files: directories, files with content, symbolic links and named pipes. A place in the
  tree is the list of names that leads to it from the root, with no link followed; the root itself
  is always a directory. Entries are kept in the order of their making. Every file has a number of
  its own; several entries of one number are names of one file, and what is changed under one name
  is changed under all of them. The tree knows the time, and dates what is made or changed.
-/

namespace NativeBuild

/-- A place in the tree: the names from the root down. -/
abbrev Location := List String

/-- What stands at a place. -/
inductive Node where
  | directory (mode : Nat)
  | file (content : List UInt8) (mode : Nat)
  | link (target : String)
  /-- A pipe with a name. -/
  | pipe (mode : Nat)
  deriving Repr, DecidableEq

/-- What the owner of a file may do with it. To execute a directory is to look names up in it. -/
inductive Right where
  | read
  | write
  | execute
  deriving Repr, DecidableEq

/-- The bit of a mode that gives its owner a right. -/
def Right.bit : Right → Nat
  | read => 8
  | write => 7
  | execute => 6

namespace Node

/-- The mode of a node; a link has none of its own. -/
def mode : Node → Nat
  | directory mode | file _ mode | pipe mode => mode
  | link _ => 0o777

/-- The node with another mode. -/
def withMode (mode : Nat) : Node → Node
  | directory _ => directory mode
  | file content _ => file content mode
  | pipe _ => pipe mode
  | link target => link target

/-- A node is a directory. -/
def isDirectory : Node → Bool
  | directory _ => true
  | _ => false

/-- A node is a symbolic link. -/
def isLink : Node → Bool
  | link _ => true
  | _ => false

/-- The owner has a right to a node. -/
def allows (n : Node) (r : Right) : Bool := n.mode.testBit r.bit

end Node

/-- A name in the tree, and the file that it names. -/
structure Entry where
  place : Location
  number : Nat
  node : Node
  deriving Repr, DecidableEq

/-- When a file was read and when it was changed last, in nanoseconds from the start of 1970. -/
structure Dates where
  accessed : Int := 0
  modified : Int := 0
  deriving Repr, DecidableEq

/-- A tree of files, as the entries below the root. -/
structure FileTree where
  entries : List Entry := []
  /-- The number of the next file that is made; the root has the number 1. -/
  fresh : Nat := 2
  /-- The time, in nanoseconds from the start of 1970. -/
  now : Int := 0
  /-- The dates of files, by their numbers. -/
  dates : List (Nat × Dates) := []
  deriving Repr, DecidableEq

namespace FileTree

/-- The entry of a place below the root. -/
def entryAt? (t : FileTree) (place : Location) : Option Entry :=
  t.entries.find? fun entry => entry.place == place

/-- What stands at a place, if anything. -/
def find? (t : FileTree) (place : Location) : Option Node :=
  if place = [] then some (.directory 0o755) else (t.entryAt? place).map (·.node)

/-- The number of the file at a place. -/
def numberAt? (t : FileTree) (place : Location) : Option Nat :=
  if place = [] then some 1 else (t.entryAt? place).map (·.number)

/-- A place of the file of a number. -/
def placeOf? (t : FileTree) (number : Nat) : Option Location :=
  if number = 1 then some []
  else (t.entries.find? fun entry => entry.number == number).map (·.place)

/-- How many names the file of a number has. -/
def nameCount (t : FileTree) (number : Nat) : Nat :=
  t.entries.countP fun entry => entry.number == number

/-- The dates of the file of a number. -/
def datesOf (t : FileTree) (number : Nat) : Dates := (t.dates.lookup number).getD {}

/-- The tree with a file dated. -/
def withDates (t : FileTree) (number : Nat) (dates : Dates) : FileTree :=
  { t with dates := (number, dates) :: t.dates.filter fun entry => entry.1 != number }

/-- The tree with the file at a place marked as changed now. -/
def markChanged (t : FileTree) (place : Location) : FileTree :=
  match t.numberAt? place with
  | some number => t.withDates number { t.datesOf number with modified := t.now }
  | none => t

/-- The tree with an entry at a free place. -/
def add (t : FileTree) (place : Location) (node : Node) : FileTree :=
  let made : FileTree := { t with
    entries := t.entries ++ [⟨place, t.fresh, node⟩], fresh := t.fresh + 1 }
  (made.withDates t.fresh ⟨t.now, t.now⟩).markChanged place.dropLast

/-- The tree with another name for a file, at a free place. -/
def addName (t : FileTree) (place : Location) (number : Nat) (node : Node) : FileTree :=
  ({ t with entries := t.entries ++ [⟨place, number, node⟩] } : FileTree).markChanged place.dropLast

/-- The tree with what stands at a place changed, under all names of the file. -/
def set (t : FileTree) (place : Location) (node : Node) : FileTree :=
  match t.entryAt? place with
  | none => t
  | some found => { t with entries := t.entries.map fun entry =>
      if entry.number = found.number then { entry with node := node } else entry }

/-- The tree with the content of the file at a place changed, and the file marked as changed. -/
def rewrite (t : FileTree) (place : Location) (node : Node) : FileTree :=
  (t.set place node).markChanged place

/-- The tree without the entry at a place. -/
def erase (t : FileTree) (place : Location) : FileTree :=
  ({ t with entries := t.entries.filter fun entry => entry.place ≠ place } : FileTree).markChanged
    place.dropLast

/-- The tree with everything at a place and below it moved to another place. -/
def move (t : FileTree) (place target : Location) : FileTree :=
  let carried := fun (entry : Entry) =>
    if place.isPrefixOf entry.place then
      { entry with place := target ++ entry.place.drop place.length }
    else entry
  let moved : FileTree := { t with entries := t.entries.map carried }
  (moved.markChanged place.dropLast).markChanged target.dropLast

/-- The entries right below a place. -/
def children (t : FileTree) (place : Location) : List (String × Node) :=
  t.entries.filterMap fun entry =>
    if entry.place.dropLast = place then entry.place.getLast?.map fun name => (name, entry.node)
    else none

/-- The places of all links. -/
def links (t : FileTree) : List Location :=
  t.entries.filterMap fun entry => match entry.node with
    | .link _ => some entry.place
    | _ => none

/-- The owner has a right to what stands at a place. -/
def permits (t : FileTree) (place : Location) (r : Right) : Bool :=
  (t.find? place).all fun node => node.allows r

/-- The name that a removed directory is remembered by. It holds a slash, so that nothing is ever
found under it. -/
def removedName (name : String) : String := name ++ "/"

/-- Where a directory of an earlier tree is in this one; the names stand last first. One that was
removed stays below the directory that it was in. -/
def followNames (t earlier : FileTree) : List String → Location
  | [] => []
  | name :: before =>
    match earlier.numberAt? (name :: before).reverse with
    | some number =>
      (t.placeOf? number).getD (followNames t earlier before ++ [removedName name])
    | none => followNames t earlier before ++ [name]

/-- Where a directory of an earlier tree is in this one. -/
def follow (t earlier : FileTree) (place : Location) : Location :=
  if (t.numberAt? place).isSome ∧ t.numberAt? place = earlier.numberAt? place then place
  else t.followNames earlier place.reverse

theorem find?_root (t : FileTree) : t.find? [] = some (.directory 0o755) := by simp [find?]

theorem find?_of_ne_nil (t : FileTree) {place : Location} (h : place ≠ []) :
    t.find? place = (t.entryAt? place).map (·.node) := by simp [find?, h]

theorem entries_markChanged (t : FileTree) (place : Location) :
    (t.markChanged place).entries = t.entries := by
  unfold markChanged
  split <;> rfl

theorem entries_add (t : FileTree) (place : Location) (node : Node) :
    (t.add place node).entries = t.entries ++ [⟨place, t.fresh, node⟩] := by
  unfold add
  rw [entries_markChanged]
  rfl

/-- An entry made at a free place is found there. -/
theorem find?_add_self (t : FileTree) {place : Location} (node : Node)
    (h : t.find? place = none) : (t.add place node).find? place = some node := by
  have hne : place ≠ [] := fun e => by simp [find?, e] at h
  rw [find?_of_ne_nil _ hne] at h ⊢
  simp only [entryAt?, Option.map_eq_none_iff] at h
  simp [entryAt?, entries_add, List.find?_append, h]

/-- Making an entry leaves every other place as it was. -/
theorem find?_add_of_ne (t : FileTree) {place other : Location} (node : Node)
    (h : other ≠ place) : (t.add place node).find? other = t.find? other := by
  by_cases hne : other = []
  · simp [find?, hne]
  · rw [find?_of_ne_nil _ hne, find?_of_ne_nil _ hne]
    have : (place == other) = false := by simpa using fun e : place = other => h e.symm
    simp [entryAt?, entries_add, List.find?_append, this]

end FileTree

/-- The place that a path names when no link is followed: `..` drops a name. -/
def Path.locate (cwd : Location) (p : Path) : Location :=
  p.names.foldl (fun place name => if name = ".." then place.dropLast else place ++ [name])
    (if p.anchor = .relative then cwd else [])

/-- The path of a place. -/
def Path.ofLocation (place : Location) : Path := ⟨.root, place⟩

end NativeBuild
