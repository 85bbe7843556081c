import NativeBuild.Machine.Utility.Amount
import NativeBuild.Machine.Utility.Deed

/-
  Runs of equal lines: `uniq` keeps one line of each run, or some of the runs, or puts empty lines
  between them.
-/

namespace NativeBuild.Machine.Call

/-- Small letters made great. -/
def upperBytes (bytes : List UInt8) : List UInt8 :=
  bytes.map fun b => if 97 ≤ b ∧ b ≤ 122 then b - 32 else b

/-- What of a line is compared. -/
structure LineKey where
  fields : Nat := 0
  characters : Nat := 0
  limit : Option Nat := none
  ignoresCase : Bool := false

namespace LineKey

/-- A line without its first fields. -/
def dropFields : Nat → List UInt8 → List UInt8
  | 0, line => line
  | n + 1, line =>
    if line = [] then []
    else
      let isBlank := fun (b : UInt8) => b == 32 || b == 9 || b == 10
      dropFields n ((line.dropWhile isBlank).dropWhile fun b => !isBlank b)

/-- The part of a line that is compared. -/
def part (k : LineKey) (line : List UInt8) : List UInt8 :=
  let rest := (dropFields (min k.fields (line.length + 1)) line).drop k.characters
  let rest := match k.limit with
    | some n => rest.take n
    | none => rest
  if k.ignoresCase then upperBytes rest else rest

end LineKey

/-- Digits among the options are a number of fields to skip, unless a later option says it. -/
def skippedFields (given : List (Char × String)) : Nat :=
  (given.foldl (fun ((n, isOld) : Nat × Bool) (letter, value) =>
    if letter = 'f' then (((amount? "" value).toOption).getD (Nat.pow 2 64), false)
    else if letter.isDigit then ((if isOld then n else 0) * 10 + digitValue letter, true)
    else (n, isOld)) (0, true)).1

/-- Arguments of which one with a plus sign and a number is an option. -/
def plusCounts : List String → List String
  | "--" :: rest => "--" :: rest
  | a :: rest =>
    match a.toList with
    | '+' :: digits =>
      if (natural? digits).isSome then ("-s" ++ String.ofList digits) :: plusCounts rest
      else a :: plusCounts rest
    | _ => a :: plusCounts rest
  | [] => []

/-- Prints each run of equal lines once, or only some of the runs. -/
def uniq (c : Call) : Progress :=
  let g : Grammar := {
    letters := "0123456789cdDf:is:uw:zα::β::"
    names := [("count", 'c'), ("repeated", 'd'), ("all-repeated", 'α'), ("group", 'β'),
      ("ignore-case", 'i'), ("unique", 'u'), ("skip-fields", 'f'), ("skip-chars", 's'),
      ("check-chars", 'w'), ("zero-terminated", 'z')] }
  let delimits := ["none", "prepend", "separate"]
  let groups := ["prepend", "append", "separate", "both"]
  let refuse := fun (letter : Char) (value : String) =>
    let number := fun (what : String) => match amount? "" value with
      | .ok _ | .error .tooLarge => none
      | .error _ => some (c.fails 1 (value ++ ": invalid number of " ++ what))
    match letter with
    | 'f' => number "fields to skip"
    | 's' => number "bytes to skip"
    | 'w' => number "bytes to compare"
    | 'α' => if value = "" ∨ (wordChoice? delimits value).isSome then none
      else some (c.refusesWord 1 "--all-repeated" value delimits)
    | 'β' => if value = "" ∨ (wordChoice? groups value).isSome then none
      else some (c.refusesWord 1 "--group" value groups)
    | _ => none
  ({ c with arguments := plusCounts c.arguments } : Call).withChecked 1 g refuse fun o =>
    let all := o.has 'D' || o.has 'α'
    match o.operands with
    | _ :: _ :: extra :: _ => c.misused 1 ("extra operand " ++ quotedText extra)
    | operands =>
      if o.has 'β' ∧ ['c', 'd', 'D', 'α', 'u'].any o.has then
        c.misused 1 "--group is mutually exclusive with -c/-d/-D/-u"
      else if o.has 'c' ∧ all then
        c.misused 1 "printing all duplicated lines and repeat counts is meaningless"
      else
        let name := operands.headD "-"
        let (contents, complete) := c.load [name]
        match contents.findSome? fun (_, content) => content.fault? with
        | some text =>
          if text = Errno.isDirectory.text ∨ isInput name then
            c.fails 1 ("error reading " ++ quotedName name ++ ": " ++ text)
          else c.fails 1 (shownName name ++ ": " ++ text)
        | none =>
          if complete = false then c.waits []
          else
            let stop : UInt8 := if o.has 'z' then 0 else 10
            let number := fun (letter : Char) => (o.value? letter).map fun v =>
              ((amount? "" v).toOption).getD (Nat.pow 2 64)
            let key : LineKey := {
              fields := skippedFields o.given, characters := (number 's').getD 0
              limit := number 'w', ignoresCase := o.has 'i' }
            let lines := (linesOf true (contents.flatMap fun (_, content) => content.data) stop).1
            let runs := lines.splitBy fun a b => key.part a == key.part b
            let chosen := runs.filter fun run =>
              if run.length = 1 then !o.has 'd' && !all else all || !o.has 'u'
            let shown := chosen.map fun run =>
              if all ∨ o.has 'β' then
                -- Of a run that is kept whole for its repetition, `-u` leaves out the first line.
                if all ∧ o.has 'u' then run.drop 1 else run
              else if o.has 'c' then
                [toBytes (padLeft ' ' 7 (decimal run.length) ++ [' ']) ++ run.headD []]
              else run.take 1
            let word := fun (letter : Char) (words : List String) (unsaid : String) =>
              (o.value? letter).map fun v => if v = "" then unsaid else (wordChoice? words v).getD ""
            let spaced := match (word 'β' groups "separate").or (word 'α' delimits "none") with
              | some "prepend" => shown.flatMap fun run => [] :: run
              | some "append" => shown.flatMap fun run => run ++ [[]]
              | some "separate" => List.intercalate [[]] shown
              | some "both" => shown.flatMap (fun run => [] :: run) ++ if shown = [] then [] else [[]]
              | _ => shown.flatten
            let output := unlines spaced false stop
            match operands[1]? with
            | none | some "-" => c.ends 0 [(1, output)]
            | some path =>
              match c.files.writeFile c.cwd (outward path) output c.newMode false with
              | .ok files => ⟨[], files, .done 0 0⟩
              | .error e => c.fails 1 (shownName path ++ ": " ++ e.text)

end NativeBuild.Machine.Call
