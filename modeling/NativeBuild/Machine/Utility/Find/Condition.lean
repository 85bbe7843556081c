import NativeBuild.Machine.Format
import NativeBuild.Machine.Regex
import NativeBuild.Machine.Utility.Attributes
import NativeBuild.Machine.Utility.Listing

/-
  What a search through a tree asks of files, and what it does with them. Conditions are built up
  from tests, which only look, and from actions, which also do something; both are true or false of
  a file.
-/

namespace NativeBuild.Machine.Find

/-- A file that a search has come to. -/
structure Found where
  path : String
  /-- The operand that it was found below. -/
  start : String
  depth : Nat
  /-- Where its entry is, and where the file is that a link there leads to if it is followed. -/
  place : Location
  goal : Location
  /-- What stands there, as far as that is known. -/
  node : Option Node
  /-- Why nothing else is known of it. -/
  lost : Option Errno := none

namespace Found

/-- The last name of the path. -/
def name (f : Found) : String := lastPiece f.path

/-- What a listing shows of the file. -/
def listed (f : Found) (files : FileTree) : Call.Listed :=
  Call.listedAt files f.path f.goal (f.node.getD (.directory 0))

/-- The letter of the kind of a node. -/
def kindOf (node : Node) : Char :=
  match node with
  | .file _ _ => if Call.isDevice node then 'c' else 'f'
  | node => kindLetter node

/-- What stands at the place when links are followed, or a link that leads nowhere. -/
def followed (f : Found) (files : FileTree) : Option Node :=
  match f.node with
  | some (.link target) =>
    match files.reach f.place.dropLast true target with
    | .ok (.found _ node) => some node
    | _ => f.node
  | node => node

end Found

/-- A number that is to be met, to be passed or to be kept below. -/
structure Measure where
  sign : Char
  bound : Nat
  deriving Repr, DecidableEq

/-- A number is as it should be. -/
def Measure.holds (m : Measure) (n : Nat) : Bool :=
  if m.sign = '+' then m.bound < n else if m.sign = '-' then n < m.bound else n == m.bound

/-- A piece of a format. -/
inductive Piece where
  | text (cs : List Char)
  /-- A part that depends on the file; dates have a letter of their own behind the first one. -/
  | part (shape : Conversion) (inner : Char)

/-- Where something is printed: to standard output unless a file is named. -/
abbrev Outlet := Option String

/-- How a program is started for files. -/
structure Starting where
  tokens : List String
  /-- It is started in the directory of the file. -/
  inside : Bool := false
  /-- It is started once for all files. -/
  together : Bool := false
  /-- It is started only after a yes. -/
  asks : Bool := false
  deriving DecidableEq

/-- What a search does with a file. -/
inductive Action where
  | print (outlet : Outlet) (ending : Char)
  | format (outlet : Outlet) (pieces : List Piece)
  | list (outlet : Outlet)
  | delete
  /-- Nothing below the file is looked at. -/
  | prune
  | quit
  | start (how : Starting)

/-- What is asked of files. -/
inductive Condition where
  /-- Some tests need more than the name and the kind of a file. -/
  | test (needsStatus : Bool) (holds : FileTree → Found → Bool)
  /-- There is nothing in it. -/
  | empty
  | act (action : Action)
  | opposite (c : Condition)
  | both (a b : Condition)
  | either (a b : Condition)
  /-- One is judged for what it does, and then the other one. -/
  | sequence (a b : Condition)

/-- The rules of a search. -/
structure Rules where
  least : Nat := 0
  most : Option Nat := none
  /-- What is in a directory comes before the directory. -/
  insideFirst : Bool := false
  /-- Links are followed. -/
  follows : Bool := false
  /-- Links among the operands are followed. -/
  followsStarts : Bool := false

/-- A date with its fraction of a second, as formats show it. -/
def fraction (instant : Int) : List Char :=
  '.' :: padLeft '0' 9 (decimal (instant.fmod 1000000000).toNat) ++ ['0']

/-- A part of a date. -/
def datePart (zone : Calendar.Zone) (instant : Int) (letter : Char) : List Char :=
  let shown := fun (format : String) => ((zone.shown instant).format format).toList
  match letter with
  | '@' => signed (instant.fdiv 1000000000) ++ fraction instant
  | '+' => shown "%Y-%m-%d+%H:%M:%S" ++ fraction instant
  | 'S' => shown "%S" ++ fraction instant
  | 'T' | 'X' => shown "%H:%M:%S" ++ fraction instant
  | letter => shown (String.ofList ['%', letter])

/-- A date as it stands without a letter of its own. -/
def wholeDate (zone : Calendar.Zone) (instant : Int) : List Char :=
  ((zone.shown instant).format "%a %b %e %H:%M:%S").toList ++ fraction instant ++
    ((zone.shown instant).format " %Y").toList

/-- The letter of the kind that a link leads to. -/
def goalLetter (files : FileTree) (f : Found) : Char :=
  match f.node with
  | some (.link target) =>
    match files.reach f.place.dropLast true target with
    | .ok (.found _ node) => Found.kindOf node
    | .error .tooManyLinks => 'L'
    | .error .accessDenied => '?'
    | _ => 'N'
  | some node => Found.kindOf node
  | none => 'U'

/-- What a letter of a format says about a file. -/
def partText (zone : Calendar.Zone) (files : FileTree) (f : Found) (shape : Conversion)
    (inner : Char) : List Char :=
  let text := fun (s : String) => shape.text s.toList
  let number := fun (n : Nat) => shape.text (decimal n)
  let e := f.listed files
  let front := (f.path.toList.reverse.dropWhile (· != '/')).reverse
  match shape.letter with
  | 'p' => text f.path
  | 'f' => text (if f.depth = 0 then
      (if f.path.toList.all (· == '/') then f.path
        else f.name ++ if f.path.toList.getLast? = some '/' then "/" else "")
      else f.name)
  | 'h' => text (if front = [] then "." else String.ofList front.dropLast)
  | 'P' => text (if f.depth = 0 then ""
      else String.ofList ((f.path.toList.drop f.start.length).dropWhile (· == '/')))
  | 'H' => text f.start
  | 'd' => ({ shape with letter := 'd' } : Conversion).integer f.depth
  | 's' => number (Call.sizeOf e.node)
  | 'm' => ({ shape with letter := 'o' } : Conversion).integer e.node.mode
  | 'M' => text (Call.modeLetters e.node)
  | 'y' => shape.text [(f.node.map Found.kindOf).getD 'U']
  | 'Y' => shape.text [goalLetter files f]
  | 'l' => text (match f.node with
      | some (.link target) => inward target
      | _ => "")
  | 'n' => number e.names
  | 'i' => number e.number
  | 'u' | 'g' => text "root"
  | 'U' | 'G' => number 0
  | 'b' => number (e.room / 512)
  | 'k' => number (e.room / 1024)
  | 'D' => number 42
  | 'F' => text "overlay"
  | 'S' =>
    let size := Call.sizeOf e.node
    let share := if size = 0 then 1 else Float.ofNat e.room / Float.ofNat size
    ({ shape with letter := 'g' } : Conversion).real (Decimal.Double.ofFloat share)
  | 'a' => shape.text (wholeDate zone e.dates.accessed)
  | 't' | 'c' => shape.text (wholeDate zone e.dates.modified)
  | 'A' => shape.text (datePart zone e.dates.accessed inner)
  | 'T' | 'C' => shape.text (datePart zone e.dates.modified inner)
  | _ => []

/-- A format with what it says about a file. -/
def formatText (zone : Calendar.Zone) (files : FileTree) (f : Found) (pieces : List Piece) : String :=
  String.ofList (pieces.flatMap fun piece => match piece with
    | .text cs => cs
    | .part shape inner => partText zone files f shape inner)

/-- A row that shows all that is known of a file. -/
def rowText (zone : Calendar.Zone) (files : FileTree) (f : Found) : String :=
  let e := f.listed files
  let right := fun (width : Nat) (text : String) => String.ofList (padLeft ' ' width text.toList)
  let left := fun (text : String) => String.ofList (padRight 8 text.toList)
  let marks := [('\n', 'n'), ('\t', 't'), (' ', ' '), ('"', '"'), ('\\', '\\')]
  let shown := fun (name : String) => String.ofList (name.toList.flatMap fun ch =>
    match marks.lookup ch with
    | some letter => ['\\', letter]
    | none =>
      if ch.toNat < 32 ∨ 126 < ch.toNat then '\\' :: (octalText 3 ch.toNat).toList else [ch])
  let size := if Call.isDevice e.node then "   1,   3" else right 8 (toString (Call.sizeOf e.node))
  let date := Call.dateShown {} zone files.now e.dates.modified
  let target := match f.node with
    | some (.link target) => " -> " ++ shown (inward target)
    | _ => ""
  right 9 (toString e.number) ++ " " ++ right 6 (toString (e.room / 1024)) ++ " " ++
    Call.modeLetters e.node ++ " " ++ right 3 (toString e.names) ++ " " ++ left "root" ++ " " ++
    left "root" ++ " " ++ size ++ " " ++ date ++ " " ++ shown f.path ++ target ++ "\n"

end NativeBuild.Machine.Find
