import NativeBuild.Machine.Utility.Deed

/-
  Counts of what files hold: lines, words, characters and bytes, and the width of the longest line.
-/

namespace NativeBuild.Machine.Call

/-- What has been counted, and where the count stands. -/
structure Tally where
  lines : Nat := 0
  words : Nat := 0
  bytes : Nat := 0
  /-- The width of the longest line so far, and of this one. -/
  longest : Nat := 0
  column : Nat := 0
  inWord : Bool := false

namespace Tally

/-- The word that a count stands in ends. -/
def endWord (t : Tally) : Tally := { t with words := t.words + t.inWord.toNat, inWord := false }

/-- The line that a count stands in ends. -/
def endLine (t : Tally) : Tally := { t with longest := max t.longest t.column, column := 0 }

/-- Counts a byte. Only bytes that are printed make words. -/
def add (t : Tally) (b : UInt8) : Tally :=
  let t := { t with bytes := t.bytes + 1 }
  match b.toNat with
  | 10 => ({ t with lines := t.lines + 1 } : Tally).endLine.endWord
  | 12 | 13 => t.endLine.endWord
  | 9 => ({ t with column := t.column + 8 - t.column % 8 } : Tally).endWord
  | 32 => ({ t with column := t.column + 1 } : Tally).endWord
  | 11 => t.endWord
  | n => if 32 < n ∧ n < 127 then { t with column := t.column + 1, inWord := true } else t

/-- Counts the bytes of a file. -/
def ofBytes (bytes : List UInt8) : Tally := (bytes.foldl add {}).endLine.endWord

/-- The count of two files together. -/
def sum (s t : Tally) : Tally :=
  { lines := s.lines + t.lines, words := s.words + t.words, bytes := s.bytes + t.bytes
    longest := max s.longest t.longest }

end Tally

/-- The width of numbers in a column: as wide as the sizes of all files together need it, and more if
one is no regular file. -/
def countWidth (c : Call) (columns : Nat) (names : List String) : Nat :=
  if names = [] ∨ (names.length = 1 ∧ columns = 1) then 1
  else
    let sizes := names.map fun name =>
      if name = "-" then
        if c.inputFault.isSome then some 0 else c.inputSize
      else
        match c.statusIn c.files true name with
        | .ok ⟨_, .file content _, _⟩ =>
          if (markedDevice? content).isSome then none else some content.length
        | .ok _ => none
        | .error _ => some 0
    let width := (decimal (total (sizes.filterMap id))).length
    if sizes.contains none then max 7 width else width

/-- Counts lines, words and bytes, or only what is asked for. -/
def wc (c : Call) : Progress :=
  let g : Grammar := {
    letters := "clLmwα:"
    names := [("bytes", 'c'), ("chars", 'm'), ("files0-from", 'α'), ("lines", 'l'),
      ("max-line-length", 'L'), ("words", 'w')] }
  c.withOptions 1 g fun o =>
    let asked := fun (letter : Char) =>
      o.has letter || (!"clLmw".toList.any o.has && "lwc".toList.contains letter)
    let counts := fun (t : Tally) =>
      (if asked 'l' then [t.lines] else []) ++ (if asked 'w' then [t.words] else []) ++
        (if asked 'm' then [t.bytes] else []) ++ (if asked 'c' then [t.bytes] else []) ++
        (if asked 'L' then [t.longest] else [])
    let columns := (counts {}).length
    let count := fun (width : Nat) (names : List (String × Option (Nat × List UInt8))) =>
      let line := fun (t : Tally) (name : String) =>
        (1, toBytes (" ".intercalate ((counts t).map fun n =>
          String.ofList (padLeft ' ' width (decimal n))) ++
          (if name = "" then "" else " " ++ name) ++ "\n").toList)
      let (writes, total, failed) := names.foldl (fun (writes, total, failed) (name, refusal) =>
        match refusal with
        | some refusal => (writes ++ [refusal], total, true)
        | none =>
          let content := c.content (if name = "" then "-" else name)
          let t := Tally.ofBytes content.data
          match content.fault? with
          | none => (writes ++ [line t name], total.sum t, failed)
          | some text =>
            let complaint := c.message (shownName (inputName name) ++ ": " ++ text)
            let isOpen := name = "" ∨ isInput name ∨ text = Errno.isDirectory.text
            (writes ++ complaint :: if isOpen then [line {} name] else [], total, true))
        (([] : List (Nat × List UInt8)), ({} : Tally), false)
      c.ends (if failed then 1 else 0)
        (writes ++ if 1 < names.length then [line total "total"] else [])
    let empty := fun (front : String) => c.message (front ++ "invalid zero-length file name")
    match o.value? 'α', o.operands with
    | some list, operand :: _ =>
      let _ := list
      c.ends 1 [c.message ("extra operand " ++ quotedName operand),
        (2, toBytes "file operands cannot be combined with --files0-from\n".toList), c.advice]
    | some list, [] =>
      let (contents, complete) := c.load [list]
      if complete = false then c.waits []
      else
        match contents.findSome? fun (_, content) => content.fault? with
        | some text =>
          if text = Errno.isDirectory.text then c.fails 1 (shownName list ++ ": read error: " ++ text)
          else c.fails 1 ("cannot open " ++ quotedName list ++ " for reading: " ++ text)
        | none =>
          let data := contents.flatMap fun (_, content) => content.data
          let names := (linesOf true data 0).1.map fun name => String.ofList (ofBytes name)
          let width := if isInput list ∧ c.inputSize.isNone then 1 else c.countWidth columns names
          count width (names.zipIdx.map fun (name, k) =>
            if name = "" then
              (name, some (empty (shownName list ++ ":" ++ toString (k + 1) ++ ": ")))
            else if name = "-" ∧ list = "-" then
              (name, some (c.message
                "when reading file names from stdin, no file name of '-' allowed"))
            else (name, none))
    | none, operands =>
      if (c.load operands).2 = false then c.waits []
      else if operands = [] then count (c.countWidth columns ["-"]) [("", none)]
      else count (c.countWidth columns operands) (operands.map fun name =>
        (name, if name = "" then some (empty "") else none))

end NativeBuild.Machine.Call
