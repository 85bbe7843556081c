import NativeBuild.Machine.Calendar.Format
import NativeBuild.Machine.Utility.Attributes
import NativeBuild.Machine.Utility.Difference.Request

/-
  The difference of two files: which lines of the first have to give way to which lines of the
  second. Directories are compared name by name, in order, and told apart from what they hold.
-/

namespace NativeBuild.Machine.Difference

/-- What is known of one of two files before it is read. -/
inductive Presence where
  /-- It counts as empty. -/
  | absent
  /-- It is standard input. -/
  | stream
  | file (status : Status)
  | failed (e : Errno)

namespace Presence

/-- It is a directory; one that is absent is what the other one is. -/
def isDirectory (p other : Presence) : Bool :=
  match p, other with
  | file st, _ | absent, file st => st.node.isDirectory
  | _, _ => false

/-- It can be compared line by line when it is met in a directory. -/
def isOrdinary (p other : Presence) : Bool :=
  match p, other with
  | file st, _ | absent, file st =>
    match st.node with
    | .file content _ => (markedDevice? content).isNone
    | .link _ => true
    | _ => false
  | _, _ => true

/-- It is there. -/
def isThere : Presence → Bool
  | absent | failed _ => false
  | _ => true

/-- It is an empty file that nobody has a right to. -/
def standsForNothing : Presence → Bool
  | file st => decide (st.node = .file [] 0)
  | _ => false

/-- What it is, in words. -/
def kind : Presence → String
  | file st => kindText st.node
  | stream => "fifo"
  | _ => ""

/-- The number of the file. -/
def number? : Presence → Option Nat
  | file st => some st.number
  | _ => none

end Presence

/-- What has been written, and the exit code so far: the largest one counts. -/
structure Report where
  writes : List (Nat × List UInt8) := []
  status : Nat := 0

namespace Report

/-- One report after the other. -/
def andThen (r s : Report) : Report := ⟨r.writes ++ s.writes, max r.status s.status⟩

/-- A line on standard output. -/
def line (text : String) (status : Nat) : Report := ⟨[(1, toBytes (text ++ "\n").toList)], status⟩

end Report

/-- A name as headings show it: between quotes, with escapes, if anything in it is unusual. -/
def headingName (name : String) : String :=
  let letters := [('\x07', 'a'), ('\x08', 'b'), ('\t', 't'), ('\n', 'n'), ('\x0b', 'v'),
    ('\x0c', 'f'), ('\r', 'r'), ('"', '"'), ('\\', '\\')]
  let shown := name.toList.flatMap fun c =>
    match letters.lookup c with
    | some letter => ['\\', letter]
    | none =>
      if c < ' ' ∨ '\x80' ≤ c then '\\' :: padLeft '0' 3 (Nat.toDigits 8 c.toNat) else [c]
  if shown = name.toList ∧ name.toList.contains ' ' = false then name
  else "\"" ++ String.ofList shown ++ "\""

/-- A comparison: a call, what it asks for, and the options as they were written. -/
structure Comparison where
  call : Call
  request : Request
  options : List String

namespace Comparison

/-- What is known of a file. -/
def presence (k : Comparison) (name : String) : Presence :=
  if Call.isInput name then .stream
  else
    match k.call.statusIn k.call.files k.request.followsLinks name with
    | .ok st => .file st
    | .error e => .failed e

/-- The name of the first or the second file in messages. -/
def label (k : Comparison) (place : Nat) (name : String) : String :=
  (k.request.labels[place]?).getD name

/-- A complaint. -/
def complaint (k : Comparison) (text : String) : Report := ⟨[k.call.message text], 2⟩

/-- When a file was changed last, as headings show it. -/
def dateText (k : Comparison) (p : Presence) : String :=
  let instant := match p with
    | .file st => (k.call.files.datesOf st.number).modified
    | .stream => k.call.files.now
    | _ => 0
  (k.call.zone.shown instant).format
    (if k.request.shownStyle = .context then "%a %b %e %T %Y" else "%Y-%m-%d %H:%M:%S.%N %z")

/-- What stands above the changes of two files. -/
def heading (k : Comparison) (isInside : Bool) (names : String × String)
    (left right : Presence) : Heading :=
  let marked := fun (place : Nat) (name : String) (p : Presence) =>
    (k.request.labels[place]?).getD (headingName name ++ "\t" ++ k.dateText p)
  let command := String.join (("diff" :: k.options.map shownName ++
    [headingName (k.label 0 names.1), headingName (k.label 1 names.2)]).intersperse " ")
  ⟨if isInside then some command else none, marked 0 names.1 left, marked 1 names.2 right⟩

/-- How many bytes of a file are looked at to tell whether it is a text. -/
def probed : Nat := 4096

/-- A content looks like no text. -/
def isBinary (data : List UInt8) : Bool := (data.take probed).contains 0

/-- The lines of a content, without returns at their ends if these are not wanted. -/
def linesIn (k : Comparison) (data : List UInt8) : List Line :=
  (linesOfContent data).map fun line =>
    if k.request.dropsReturns && line.ended && line.text.getLast? == some 13 then
      { line with text := line.text.dropLast }
    else line

/-- The report on two files that differ, without the changes. -/
def differ (k : Comparison) (what : String) (names : String × String) : Report :=
  .line (what ++ k.label 0 names.1 ++ " and " ++ k.label 1 names.2 ++ " differ") 1

/-- The report on changes. -/
def changeReport (k : Comparison) (names : String × String) (h : Heading) (s : Sides)
    (found : List Change) : Report :=
  let r := k.request
  let display := r.display
  let counted := found.filter (display.counts s)
  if r.brief then if counted.isEmpty then {} else k.differ "Files " names
  else
    let body := match r.shownStyle with
      | .columns => r.columns.body s counted
      | .template => r.templates.body s counted
      | _ => display.body s found
    let shown := if counted.isEmpty && r.hidesEqual then [] else h.above r.shownStyle body
    ⟨if shown = [] then [] else [(1, shown)], if counted.isEmpty then 0 else 1⟩

/-- The complaint about a file whose last line has no end. -/
def endReport (k : Comparison) (place : Nat) (name : String) (lines : List Line) : Report :=
  if k.request.losesLastEnd && lines.any (!·.ended) then
    k.complaint (k.label place name ++ ": No newline at end of file\n")
  else {}

/-- The difference of two contents. -/
def contents (k : Comparison) (names : String × String) (h : Heading)
    (left right : List UInt8) : Report :=
  let r := k.request
  if !r.asText && (isBinary left || isBinary right) then
    if left = right then {} else k.differ (if r.brief then "Files " else "Binary files ") names
  else
    let first := k.linesIn left
    let second := k.linesIn right
    let closed := fun (lines : List Line) =>
      if r.losesLastEnd then lines.map fun line => { line with ended := true } else lines
    let s : Sides := ⟨closed first, closed second⟩
    let likeness : Likeness :=
      { r.likeness with lastEnd := r.losesLastEnd, tabSize := r.tabSize.getD 8 }
    let found := changes likeness r.fewest (max r.horizon (r.around.getD 0)) s.left s.right
    ((k.changeReport names h s found).andThen (k.endReport 0 names.1 first)).andThen
      (k.endReport 1 names.2 second)

/-- The content of a file that is compared. -/
def content (k : Comparison) (name : String) : Presence → Call.Content
  | .absent => .bytes []
  | .file ⟨_, .link target, _⟩ => .bytes (toBytes target.toList)
  | _ => k.call.content name

/-- The difference of two files that are no directories. -/
def filePair (k : Comparison) (isInside : Bool) (names : String × String) (left right : Presence) :
    Report :=
  let (a, b) := (k.content names.1 left, k.content names.2 right)
  let fault := fun (name : String) (content : Call.Content) =>
    (content.fault?.map fun text => k.complaint (name ++ ": " ++ text)).getD {}
  if a.fault?.isSome || b.fault?.isSome then (fault names.1 a).andThen (fault names.2 b)
  else k.contents names (k.heading isInside names left right) a.data b.data

/-- What is known of two files, and which of them count as empty. -/
def presences (k : Comparison) (isInside : Bool) (names : String × String)
    (hasLeft hasRight : Bool) : Presence × Presence :=
  let look := fun (isGiven : Bool) (name : String) =>
    if isGiven then k.presence name else Presence.absent
  let left := look hasLeft names.1
  let right := look hasRight names.2
  let emptied := fun (isWanted : Bool) (p other : Presence) =>
    let isLost := match p with
      | .failed e => e == .noEntry && !isInside && other.isThere
      | p => p.standsForNothing
    if isWanted && isLost then Presence.absent else p
  let r := k.request
  let left := emptied (r.newFiles || r.newFirst) left right
  (left, emptied r.newFiles right left)

/-- The names in a directory that are compared. -/
def namesIn (k : Comparison) (isInside : Bool) (name : String) (p : Presence) :
    Except Errno (List String) := do
  match p with
  | .absent => return []
  | _ =>
    let names ← k.call.files.list k.call.cwd (outward name)
    let kept := (names.map inward).filter fun name =>
      !(k.request.excluded.any fun pattern => matchesPattern pattern.toList name.toList)
    let sorted := kept.mergeSort fun a b => !decide (b < a)
    return match k.request.starting with
      | some first => if isInside then sorted else sorted.dropWhile fun name => name < first
      | none => sorted

/-- Two lists of names in order, put together: each name with whether the lists have it. -/
def joinedNames : List String → List String → List (String × Bool × Bool)
  | [], bs => bs.map fun b => (b, false, true)
  | a :: as, bs =>
    let front := bs.takeWhile (· < a)
    let rest := bs.drop front.length
    front.map (fun b => (b, false, true)) ++
      if rest.head? = some a then (a, true, true) :: joinedNames as (rest.drop 1)
      else (a, true, false) :: joinedNames as rest

/-- The difference of two paths; those inside of directories are given with the directories and the
numbers of all that they stand in. -/
def paths (k : Comparison) : Nat → Option (String × String) → List (Option Nat × Option Nat) →
    String × String → Bool → Bool → Report
  | 0, _, _, _, _, _ => {}
  | fuel + 1, parent, outer, names, hasLeft, hasRight =>
    let r := k.request
    let isInside := parent.isSome
    let full := match parent with
      | some (a, b) => (inDirectory a names.1, inDirectory b names.2)
      | none => names
    let onlyIn := fun (isLeft : Bool) =>
      let directory := (parent.map fun p => if isLeft then p.1 else p.2).getD ""
      Report.line ("Only in " ++ directory ++ ": " ++ names.1) 1
    if !(hasLeft && hasRight || (r.newFirst && hasRight) || r.newFiles) then onlyIn hasLeft
    else
      let (left, right) := k.presences isInside full hasLeft hasRight
      let fault := fun (name : String) (p : Presence) => match p with
        | .failed e => k.complaint (name ++ ": " ++ e.text)
        | _ => {}
      let faults := (fault full.1 left).andThen (fault full.2 right)
      let joins := !isInside && left.isDirectory right != right.isDirectory left
      let within := fun (directory name : String) => inDirectory directory (lastPiece name)
      let inputMeetsDirectory := joins && (match left, right with
        | .stream, _ | _, .stream => true
        | _, _ => false)
      let (full, left, right) :=
        if joins = false ∨ inputMeetsDirectory then (full, left, right)
        else if left.isDirectory right then
          ((within full.1 full.2, full.2), k.presence (within full.1 full.2), right)
        else ((full.1, within full.2 full.1), left, k.presence (within full.2 full.1))
      let faults := if faults.status = 0 ∧ joins then (fault full.1 left).andThen (fault full.2 right)
        else faults
      if faults.status = 0 ∧ inputMeetsDirectory then k.complaint "cannot compare '-' to a directory"
      else if faults.status ≠ 0 then faults
      else
        let areSame := full.1 == full.2 && left.isThere && right.isThere ||
          (left.number?.isSome && left.number? == right.number?)
        let bothDirectories := left.isDirectory right && right.isDirectory left
        let report :=
          if !left.isThere && !right.isThere then {}
          else if areSame && r.hidesEqual then {}
          else if bothDirectories then
            if r.shownStyle = .template then
              k.complaint "-D option not supported with directories"
            else if isInside && !r.recursive then
              Report.line ("Common subdirectories: " ++ full.1 ++ " and " ++ full.2) 0
            else
              let isLoop := fun (p : Presence) (select : Option Nat × Option Nat → Option Nat) =>
                !p.isThere || outer.any fun entry => select entry == p.number?
              if isLoop left (·.1) && isLoop right (·.2) then
                k.complaint ((if left.isThere then full.1 else full.2) ++
                  ": recursive directory loop")
              else
                match k.namesIn isInside full.1 left, k.namesIn isInside full.2 right with
                | .ok as, .ok bs =>
                  (joinedNames as bs).foldl (fun report (name, inLeft, inRight) =>
                    report.andThen (paths k fuel (some full)
                      ((left.number?, right.number?) :: outer) (name, name) inLeft inRight)) {}
                | a, b =>
                  let unread := fun (name : String) (names : Except Errno (List String)) =>
                    match names with
                    | .error e => k.complaint (name ++ ": " ++ e.text)
                    | .ok _ => {}
                  (unread full.1 a).andThen (unread full.2 b)
          else if left.isDirectory right || right.isDirectory left ||
              (isInside && !(left.isOrdinary right && right.isOrdinary left)) then
            if !left.isThere then onlyIn false
            else if !right.isThere then onlyIn true
            else Report.line ("File " ++ k.label 0 full.1 ++ " is a " ++ left.kind ++ " while file " ++
              k.label 1 full.2 ++ " is a " ++ right.kind) 1
          else
            match left, right with
            | .file ⟨_, .link a, _⟩, .file ⟨_, .link b, _⟩ =>
              if a = b then {}
              else Report.line ("Symbolic links " ++ full.1 ++ " and " ++ full.2 ++ " differ") 1
            | _, _ =>
              if left.kind = "symbolic link" ∨ right.kind = "symbolic link" then
                Report.line ("File " ++ k.label 0 full.1 ++ " is a " ++ left.kind ++
                  " while file " ++ k.label 1 full.2 ++ " is a " ++ right.kind) 1
              else k.filePair isInside full left right
        if report.status = 0 ∧ r.reportsEqual ∧ left.isDirectory right = false then
          report.andThen (Report.line ("Files " ++ k.label 0 full.1 ++ " and " ++
            k.label 1 full.2 ++ " are identical") 0)
        else report

end Comparison

end NativeBuild.Machine.Difference

namespace NativeBuild.Machine.Call

open Difference

/-- The options of `diff`. -/
def diffGrammar : Grammar where
  letters := "0123456789abBcC:dD:eEfF:hHiI:lL:nNpPqrsS:tTuU:vwW:x:X:yZα::β:γ:δ:εζηθ:ικλ:μ:ν:ξ:ο:π:ρ:στυφ:χ:ψωΓ::Δ::ΘΛ"
  names := [("binary", 'ω'), ("brief", 'q'), ("changed-group-format", 'ρ'), ("color", 'α'),
    ("context", 'Γ'), ("ed", 'e'), ("exclude", 'x'), ("exclude-from", 'X'), ("expand-tabs", 't'),
    ("forward-ed", 'f'), ("from-file", 'β'), ("horizon-lines", 'δ'), ("ifdef", 'D'),
    ("ignore-all-space", 'w'), ("ignore-blank-lines", 'B'), ("ignore-case", 'i'),
    ("ignore-file-name-case", 'ε'), ("ignore-matching-lines", 'I'), ("ignore-space-change", 'b'),
    ("ignore-tab-expansion", 'E'), ("ignore-trailing-space", 'Z'), ("inhibit-hunk-merge", 'ψ'),
    ("initial-tab", 'T'), ("label", 'L'), ("left-column", 'η'), ("line-format", 'θ'),
    ("minimal", 'd'), ("new-file", 'N'), ("new-group-format", 'ο'), ("new-line-format", 'μ'),
    ("no-dereference", 'ι'), ("no-ignore-file-name-case", 'ζ'), ("normal", 'κ'),
    ("old-group-format", 'ξ'), ("old-line-format", 'λ'), ("paginate", 'l'), ("palette", 'χ'),
    ("presume-output-tty", 'Θ'), ("rcs", 'n'), ("recursive", 'r'),
    ("report-identical-files", 's'), ("sdiff-merge-assist", 'Λ'), ("show-c-function", 'p'),
    ("show-function-line", 'F'), ("side-by-side", 'y'), ("speed-large-files", 'H'),
    ("starting-file", 'S'), ("strip-trailing-cr", 'σ'), ("suppress-blank-empty", 'τ'),
    ("suppress-common-lines", 'υ'), ("tabsize", 'φ'), ("text", 'a'), ("to-file", 'γ'),
    ("unchanged-group-format", 'π'), ("unchanged-line-format", 'ν'),
    ("unidirectional-new-file", 'P'), ("unified", 'Δ'), ("width", 'W')]

/-- Compares pairs of files. -/
def comparePairs (c : Call) (r : Request) (pairs : List (String × String)) : Progress :=
  let k : Comparison := ⟨c, r, diffGrammar.optionWords (c.arguments.length + 1) c.arguments⟩
  let operands := pairs.flatMap fun (a, b) => [a, b]
  let isLost := operands.any fun name => match k.presence name with
    | .failed _ => !r.newFiles && !r.newFirst
    | _ => false
  if (c.load operands).2 = false ∧ isLost = false then c.waits []
  else
    let fuel := 2 * c.files.entries.length + 4
    let report := pairs.foldl (fun (report : Report) names =>
      report.andThen (k.paths fuel none [] names true true)) {}
    c.ends report.status report.writes

/-- Shows how two files differ. -/
def diff (c : Call) : Progress :=
  let lastWord := (c.arguments.getLast?).getD c.title
  match diffGrammar.read (c.arguments.length + 1) c.arguments [] [] with
  | .error fault => c.misusedByName 2 fault.text
  | .ok o =>
    let patterns := o.given.flatMap fun (letter, value) =>
      if letter = 'X' then (linesOf true (c.content value).data).1.map fun line =>
        ('x', String.ofList (ofBytes line))
      else [(letter, value)]
    match Request.takeAll patterns with
    | .error (.misuse text) => c.misusedByName 2 text
    | .error (.fatal text) => c.fails 2 text
    | .ok r =>
      match r.fromFile, r.toFile with
      | some _, some _ => c.fails 2 "--from-file and --to-file both specified"
      | some file, none => c.comparePairs r (o.operands.map fun name => (file, name))
      | none, some file => c.comparePairs r (o.operands.map fun name => (name, file))
      | none, none =>
        match o.operands with
        | [a, b] => c.comparePairs r [(a, b)]
        | _ :: _ :: extra :: _ => c.misusedByName 2 ("extra operand '" ++ extra ++ "'")
        | _ => c.misusedByName 2 ("missing operand after '" ++ lastWord ++ "'")

/-- Shows two files side by side. -/
def sdiff (c : Call) : Progress :=
  let g : Grammar := {
    letters := "abBdEHiI:lo:stvw:WZσφ:"
    names := [("expand-tabs", 't'), ("ignore-all-space", 'W'), ("ignore-blank-lines", 'B'),
      ("ignore-case", 'i'), ("ignore-matching-lines", 'I'), ("ignore-space-change", 'b'),
      ("ignore-tab-expansion", 'E'), ("ignore-trailing-space", 'Z'), ("left-column", 'l'),
      ("minimal", 'd'), ("output", 'o'), ("speed-large-files", 'H'), ("strip-trailing-cr", 'σ'),
      ("suppress-common-lines", 's'), ("tabsize", 'φ'), ("text", 'a'), ("width", 'w')] }
  match g.read (c.arguments.length + 1) c.arguments [] [] with
  | .error fault => c.misusedByName 2 fault.text
  | .ok o =>
    let passed := o.given.flatMap fun (letter, value) =>
      match letter with
      | 'I' => ["-I", value]
      | 'l' => ["--left-column"]
      | 's' => ["--suppress-common-lines"]
      | 'w' => ["-W", value]
      | 'W' => ["-w"]
      | 'σ' => ["--strip-trailing-cr"]
      | 'φ' => ["--tabsize=" ++ value]
      | 'o' => []
      | letter => [String.ofList ['-', letter]]
    match o.operands with
    | [a, b] =>
      ({ c with title := "diff", arguments := passed ++ ["-y", "--", a, b] } : Call).diff
    | _ :: _ :: extra :: _ => c.misusedByName 2 ("extra operand '" ++ extra ++ "'")
    | _ => c.misusedByName 2 ("missing operand after '" ++ (c.arguments.getLast?).getD c.title ++ "'")

end NativeBuild.Machine.Call
