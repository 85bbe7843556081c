import NativeBuild.Machine.Utility.Difference.Change

/-
  Changes as they are shown: by themselves, as commands of an editor, or in hunks with the lines
  around them. A hunk takes in changes that stand so near each other that what is shown around them
  would touch.
-/

namespace NativeBuild.Machine.Difference

/-- The ways to show changes. -/
inductive Style where
  | normal
  | context
  | unified
  /-- Commands that an editor takes from the last change to the first. -/
  | editor
  /-- Such commands in the order of the lines. -/
  | forwardEditor
  /-- Commands with counts of lines. -/
  | revisions
  | columns
  | template
  deriving Repr, DecidableEq

/-- How lines are shown, and which of them do not count. -/
structure Display where
  style : Style := .normal
  /-- How many lines are shown around a change. -/
  around : Nat := 0
  tabBehindSign : Bool := false
  expandsTabs : Bool := false
  /-- Nothing stands behind the sign of an empty line. -/
  trimsEmpty : Bool := false
  tabSize : Nat := 8
  /-- Changes of such lines alone do not count. -/
  ignorable : Option (Line → Bool) := none
  /-- Lines that name what follows; the last one before a hunk is shown with it. -/
  title : Option (Line → Bool) := none

/-- The contents of two files. -/
structure Sides where
  left : List Line
  right : List Line

/-- What stands above changes: a command line, if more files are compared, and what tells of each
file. -/
structure Heading where
  command : Option String
  left : String
  right : String

/-- A part of a list. -/
def part {α : Type} (as : List α) (start stop : Nat) : List α := (as.take stop).drop start

namespace Sides

/-- The lines that a change takes. -/
def removed (s : Sides) (d : Change) : List Line := part s.left d.before d.stop

/-- The lines that a change brings. -/
def inserted (s : Sides) (d : Change) : List Line := part s.right d.after d.stopAfter

end Sides

/-- A range of lines by its first and last one, with a sign between them. A range of no lines is
told by the line before it. -/
def rangeText (sign : String) (start stop : Nat) : String :=
  if start + 1 < stop then toString (start + 1) ++ sign ++ toString stop else toString stop

/-- A range of lines by its first one and their count. -/
def countedRange (start stop : Nat) : String :=
  if stop = start + 1 then toString stop
  else if stop ≤ start then toString stop ++ ",0"
  else toString (start + 1) ++ "," ++ toString (stop - start)

namespace Display

/-- What stands behind the text of a line. -/
def ending (line : Line) : List UInt8 :=
  if line.ended then [10] else toBytes "\n\\ No newline at end of file\n".toList

/-- The text of a line. -/
def text (d : Display) (line : Line) : List UInt8 :=
  if d.expandsTabs then withoutTabs d.tabSize 0 line.text else line.text

/-- A line with a sign in front. -/
def signedLine (d : Display) (sign : String) (line : Line) : List UInt8 :=
  let front := if d.trimsEmpty ∧ line.text = [] then (if sign = " " then "" else sign)
    else sign ++ (if d.tabBehindSign then "\t" else " ")
  toBytes front.toList ++ d.text line ++ ending line

/-- A line of a unified hunk. -/
def unifiedLine (d : Display) (sign : String) (line : Line) : List UInt8 :=
  let isBare := d.trimsEmpty && line.text.isEmpty
  let front := if sign = " " then (if isBare then "" else if d.tabBehindSign then "\t" else " ")
    else sign ++ (if d.tabBehindSign && !isBare then "\t" else "")
  toBytes front.toList ++ d.text line ++ ending line

/-- A line without anything added. -/
def plainLine (d : Display) (line : Line) : List UInt8 :=
  d.text line ++ if line.ended then [10] else []

/-- A change counts. -/
def counts (d : Display) (s : Sides) (e : Change) : Bool :=
  match d.ignorable with
  | none => true
  | some ignorable => !((s.removed e).all ignorable && (s.inserted e).all ignorable)

/-- A change by itself. -/
def normalChange (d : Display) (s : Sides) (e : Change) : List UInt8 :=
  let letter := if e.removed = 0 then "a" else if e.inserted = 0 then "d" else "c"
  toBytes (rangeText "," e.before e.stop ++ letter ++ rangeText "," e.after e.stopAfter ++ "\n").toList ++
    (s.removed e).flatMap (d.signedLine "<") ++
    (if e.removed ≠ 0 ∧ e.inserted ≠ 0 then toBytes "---\n".toList else []) ++
    (s.inserted e).flatMap (d.signedLine ">")

/-- A change as a command of an editor. A line with a lone dot would end the text that is put in, so
it is written with two and one of them is taken out again. -/
def editorChange (d : Display) (s : Sides) (e : Change) : List UInt8 :=
  let letter := if e.removed = 0 then "a" else if e.inserted = 0 then "d" else "c"
  let head := toBytes (rangeText "," e.before e.stop ++ letter ++ "\n").toList
  if e.inserted = 0 then head
  else
    let (body, isOpen) := (s.inserted e).foldl (fun (body, isOpen) line =>
      let body := if isOpen then body else body ++ toBytes "a\n".toList
      if line.text = [46] then (body ++ toBytes "..\n.\ns/.//\n".toList, false)
      else (body ++ d.plainLine line, true)) (([] : List UInt8), true)
    head ++ body ++ if isOpen then toBytes ".\n".toList else []

/-- A change as a command that names its lines last. -/
def forwardChange (d : Display) (s : Sides) (e : Change) : List UInt8 :=
  let letter := if e.removed = 0 then "a" else if e.inserted = 0 then "d" else "c"
  let head := toBytes (letter ++ rangeText " " e.before e.stop ++ "\n").toList
  if e.inserted = 0 then head
  else head ++ (s.inserted e).flatMap d.plainLine ++ toBytes ".\n".toList

/-- A change as commands with counts. -/
def revisionChange (d : Display) (s : Sides) (e : Change) : List UInt8 :=
  let command := fun (letter : String) (line count : Nat) =>
    toBytes (letter ++ toString line ++ " " ++ toString count ++ "\n").toList
  (if e.removed = 0 then [] else command "d" (e.before + 1) e.removed) ++
    if e.inserted = 0 then []
    else command "a" e.stop e.inserted ++ (s.inserted e).flatMap d.plainLine

/-- The changes in groups, each to be shown together. A change that does not count is taken in only if
what is shown around the one before reaches it. -/
def hunks (d : Display) (s : Sides) (changes : List Change) : List (List Change) :=
  changes.foldr (fun e (groups : List (List Change)) =>
    match groups with
    | (next :: more) :: rest =>
      let limit := if d.counts s next then 2 * d.around + 1 else d.around
      if next.before < e.stop + limit then (e :: next :: more) :: rest else [e] :: groups
    | _ => [e] :: groups) []

/-- The title of a hunk, if there is one, with a blank in front. -/
def titleText (d : Display) (s : Sides) (start : Nat) : List UInt8 :=
  match d.title.bind fun isTitle => (s.left.take start).reverse.find? isTitle with
  | none => []
  | some line =>
    let shown := (line.text.dropWhile isBlankByte).take 40
    32 :: withoutLastBlanks shown

/-- The places where a hunk starts and stops in both files. -/
def bounds (d : Display) (s : Sides) (first last : Change) : Window where
  left := (first.before - d.around : Nat)
  leftEnd := min s.left.length (last.stop + d.around)
  right := (first.after - d.around : Nat)
  rightEnd := min s.right.length (last.stopAfter + d.around)

/-- A hunk with the lines of both files together. -/
def unifiedHunk (d : Display) (s : Sides) (first last : Change) (hunk : List Change) : List UInt8 :=
  let w := d.bounds s first last
  let head := toBytes ("@@ -" ++ countedRange w.left.toNat w.leftEnd.toNat ++ " +" ++
    countedRange w.right.toNat w.rightEnd.toNat ++ " @@").toList
  let (body, place) := hunk.foldl (fun (body, place) e =>
    (body ++ (part s.left place e.before).flatMap (d.unifiedLine " ") ++
      (s.removed e).flatMap (d.unifiedLine "-") ++ (s.inserted e).flatMap (d.unifiedLine "+"),
      e.stop)) (([] : List UInt8), w.left.toNat)
  head ++ d.titleText s w.left.toNat ++ [10] ++ body ++
    (part s.left place w.leftEnd.toNat).flatMap (d.unifiedLine " ")

/-- A hunk with the lines of the files one after the other. -/
def contextHunk (d : Display) (s : Sides) (first last : Change) (hunk : List Change) : List UInt8 :=
  let w := d.bounds s first last
  let lines := fun (file : List Line) (places : Change → Nat × Nat) (sign : Change → String)
      (start stop : Nat) =>
    let (body, place) := hunk.foldl (fun (body, place) e =>
      let (begun, done) := places e
      (body ++ (part file place begun).flatMap (d.signedLine " ") ++
        (part file begun done).flatMap (d.signedLine (sign e)), done)) (([] : List UInt8), start)
    body ++ (part file place stop).flatMap (d.signedLine " ")
  let old := if hunk.all (·.removed == 0) then []
    else lines s.left (fun e => (e.before, e.stop)) (fun e => if e.inserted = 0 then "-" else "!")
      w.left.toNat w.leftEnd.toNat
  let new := if hunk.all (·.inserted == 0) then []
    else lines s.right (fun e => (e.after, e.stopAfter)) (fun e => if e.removed = 0 then "+" else "!")
      w.right.toNat w.rightEnd.toNat
  toBytes "***************".toList ++ d.titleText s w.left.toNat ++
    toBytes ("\n*** " ++ rangeText "," w.left.toNat w.leftEnd.toNat ++ " ****\n").toList ++ old ++
    toBytes ("--- " ++ rangeText "," w.right.toNat w.rightEnd.toNat ++ " ----\n").toList ++ new

/-- What is shown of changes, without a heading: nothing if no change counts. -/
def body (d : Display) (s : Sides) (changes : List Change) : List UInt8 :=
  let each := fun (shown : Change → List UInt8) => (changes.filter (d.counts s)).flatMap shown
  let grouped := fun (shown : Change → Change → List Change → List UInt8) =>
    ((d.hunks s changes).filter fun hunk => hunk.any (d.counts s)).flatMap fun hunk =>
      match hunk.head?, hunk.getLast? with
      | some first, some last => shown first last hunk
      | _, _ => []
  match d.style with
  | .normal => each (d.normalChange s)
  | .editor => (changes.reverse.filter (d.counts s)).flatMap (d.editorChange s)
  | .forwardEditor => each (d.forwardChange s)
  | .revisions => each (d.revisionChange s)
  | .unified => grouped (d.unifiedHunk s)
  | .context => grouped (d.contextHunk s)
  | .columns | .template => []

end Display

/-- What is shown under a heading. -/
def Heading.above (h : Heading) (style : Style) (body : List UInt8) : List UInt8 :=
  if body = [] then []
  else
    let files := fun (first second : String) =>
      first ++ " " ++ h.left ++ "\n" ++ second ++ " " ++ h.right ++ "\n"
    let names := match style with
      | .unified => files "---" "+++"
      | .context => files "***" "---"
      | _ => ""
    toBytes ((h.command.map (· ++ "\n")).getD "" ++ names).toList ++ body

end NativeBuild.Machine.Difference
