import NativeBuild.Machine.Utility.Amount
import NativeBuild.Machine.Utility.Waiting

/-
  Parts of files: `head` prints their first lines or bytes, `tail` their last ones.
-/

namespace NativeBuild.Machine.Call

/-- How much is taken from one end of a content. -/
structure Share where
  bytewise : Bool := false
  /-- All is taken but so much at the other end. -/
  allBut : Bool := false
  amount : Nat := 10
  /-- The end of a line. -/
  stop : UInt8 := 10

namespace Share

/-- The front of a content. -/
def front (s : Share) (bytes : List UInt8) : List UInt8 :=
  if s.bytewise then bytes.take (if s.allBut then bytes.length - s.amount else s.amount)
  else
    let (lines, lacksEnd) := linesOf true bytes s.stop
    let kept := if s.allBut then lines.length - s.amount else s.amount
    unlines (lines.take kept) (lacksEnd && decide (lines.length ≤ kept)) s.stop

/-- The end of a content. -/
def back (s : Share) (bytes : List UInt8) : List UInt8 :=
  if s.bytewise then bytes.drop (if s.allBut then s.amount - 1 else bytes.length - s.amount)
  else
    let (lines, lacksEnd) := linesOf true bytes s.stop
    unlines (lines.drop (if s.allBut then s.amount - 1 else lines.length - s.amount)) lacksEnd s.stop

/-- A content has all of its front, whatever comes behind it. -/
def hasFront (s : Share) (bytes : List UInt8) : Bool :=
  !s.allBut && (if s.bytewise then decide (s.amount ≤ bytes.length)
    else decide (s.amount ≤ bytes.count s.stop))

end Share

/-- The line that stands above the part of a file. -/
def partTitle (isFirst : Bool) (name : String) : List UInt8 :=
  toBytes ((if isFirst then "" else "\n") ++ "==> " ++ inputName name ++ " <==\n").toList

/-- Parts have titles. -/
def isTitled (o : Options) (operands : List String) : Bool :=
  match o.last? ['q', 'v'] with
  | some letter => letter == 'v'
  | none => 1 < operands.length

/-- What is written for contents that can be opened, each under its title, and whether one could
not be read. -/
def writeParts (c : Call) (titled : Bool) (part : Content → List UInt8)
    (contents : List (String × Content)) : List (Nat × List UInt8) × Bool :=
  let (writes, failed, _) := contents.foldl (fun (writes, failed, isFirst) (name, content) =>
    let title := if titled then [(1, partTitle isFirst name)] else []
    match content.fault? with
    | none => (writes ++ title ++ [(1, part content)], failed, false)
    | some text =>
      if text = Errno.isDirectory.text ∨ isInput name then
        (writes ++ title ++
          [c.message ("error reading " ++ quotedName (inputName name) ++ ": " ++ text)], true, false)
      else
        (writes ++ [c.message ("cannot open " ++ quotedName name ++ " for reading: " ++ text)],
          true, isFirst)) (([] : List (Nat × List UInt8)), false, true)
  (writes, failed)

/-- A first argument with a count right behind the dash, as the options that it means, or the letter
in it that means nothing. -/
def countOption (a : List Char) : Except Char (List String) :=
  let digits := a.takeWhile Char.isDigit
  let letters := a.drop digits.length
  match letters.find? fun l => !"cbklmqvz".toList.contains l with
  | some l => .error l
  | none =>
    let unit := letters.foldl (fun unit l => if l = 'c' then [] else
      if ['b', 'k', 'm'].contains l then [l] else unit) []
    let bytewise := letters.foldl (fun b l =>
      if ['c', 'b', 'k', 'm'].contains l then true else b && l != 'l') false
    let flags := (letters.filter fun l => ['q', 'v', 'z'].contains l).map fun l =>
      String.ofList ['-', l]
    .ok (((if bytewise then "-c" else "-n") ++ String.ofList (digits ++ unit)) :: flags)

/-- Letters for units of lines and bytes. -/
def shareUnits : String := "bkKmMGTPEZY0"

/-- Refuses an amount of lines or bytes. -/
def refuseShare (c : Call) (letter : Char) (text : String) : Option Progress :=
  match amount? shareUnits text with
  | .ok _ => none
  | .error fault =>
    some (c.refusesAmount 1
      ("invalid number of " ++ if letter = 'c' then "bytes" else "lines") text fault)

/-- A text without a character in front. -/
def withoutFront (mark : Char) (text : String) : String :=
  match text.toList with
  | c :: rest => if c = mark then String.ofList rest else text
  | [] => text

/-- Prints the first lines, or the first bytes. -/
def head (c : Call) : Progress :=
  let g : Grammar := {
    letters := "c:n:qvz0123456789"
    names := [("bytes", 'c'), ("lines", 'n'), ("quiet", 'q'), ("silent", 'q'), ("verbose", 'v'),
      ("zero-terminated", 'z')] }
  let first := match c.arguments with
    | a :: rest =>
      match a.toList with
      | '-' :: d :: ds => if d.isDigit then (countOption (d :: ds)).map (· ++ rest) else .ok c.arguments
      | _ => .ok c.arguments
    | [] => .ok []
  match first with
  | .error letter => c.misused 1 ("invalid trailing option -- " ++ String.ofList [letter])
  | .ok arguments =>
    let refuse := fun (letter : Char) (value : String) =>
      if letter.isDigit then
        some (c.misused 1 ("invalid trailing option -- " ++ String.ofList [letter]))
      else if letter = 'n' ∨ letter = 'c' then c.refuseShare letter (withoutFront '-' value)
      else none
    ({ c with arguments := arguments } : Call).withChecked 1 g refuse fun o =>
      let kind := (o.last? ['c', 'n']).getD 'n'
      let text := (o.value? kind).getD "10"
      let share : Share := {
        bytewise := kind == 'c', allBut := text.toList.head? == some '-'
        amount := ((amount? shareUnits (withoutFront '-' text)).toOption).getD 0
        stop := if o.has 'z' then 0 else 10 }
      let operands := if o.operands = [] then ["-"] else o.operands
      let (contents, complete) := c.load operands
      let part := fun (content : Content) => match content with
        | .endless => List.replicate (if share.bytewise then share.amount else 0) 0
        | content => share.front content.data
      let (writes, failed) := c.writeParts (isTitled o operands) part contents
      let last := (contents.getLast?.map (·.2.data)).getD []
      if complete ∨ (share.hasFront last ∧ contents.length = operands.length) then
        let readsInput := contents.any fun (name, content) => isInput name && content.fault?.isNone
        let surplus := if readsInput then c.input.length - (share.front c.input).length else 0
        ⟨writes, c.files, .done (if failed then 1 else 0) surplus⟩
      else c.waits []

/-- Arguments in front of which a count stands right behind a dash or a plus sign, as the options
that it means. There may be one more argument at most. -/
def tailCount (arguments : List String) : List String :=
  let short := match arguments with
    | [_] => true
    | [_, b] => b == "--" || b == "-" || b.toList.head? != some '-'
    | [_, b, _] => b == "--"
    | _ => false
  match arguments, short with
  | a :: rest, true =>
    let (sign, body) := match a.toList with
      | '+' :: body => ("+", body)
      | '-' :: body => ("", body)
      | _ => ("", ['?'])
    let digits := body.takeWhile Char.isDigit
    let isModern := a.toList.head? == some '-' && (body == [] || body == ['c'])
    let (unit, follows) := match body.drop digits.length with
      | [] => (some 'l', false)
      | ['f'] => (some 'l', true)
      | [l] => (some l, false)
      | [l, 'f'] => (some l, true)
      | _ => (none, false)
    let number := fun (unit : String) =>
      sign ++ String.ofList (if digits = [] then ['1', '0'] else digits) ++ unit
    let follow := if follows then ["-f"] else []
    if isModern then arguments
    else
      match unit with
      | some 'l' => ("-n" ++ number "") :: follow ++ rest
      | some 'c' => ("-c" ++ number "") :: follow ++ rest
      | some 'b' => ("-c" ++ number "b") :: follow ++ rest
      | _ => arguments
  | _, _ => arguments

/-- How long `tail` waits before it looks for more, in microseconds. -/
def followTime : Nat := 20000

/-- Prints the last lines, or the last bytes, and may go on with what is added. -/
def tail (c : Call) : Progress :=
  let g : Grammar := {
    letters := "c:fFn:qs:vzα::β:γδ:0123456789"
    names := [("bytes", 'c'), ("follow", 'α'), ("lines", 'n'), ("max-unchanged-stats", 'δ'),
      ("pid", 'β'), ("quiet", 'q'), ("retry", 'γ'), ("silent", 'q'), ("sleep-interval", 's'),
      ("verbose", 'v'), ("zero-terminated", 'z')] }
  let refuse := fun (letter : Char) (value : String) =>
    if letter.isDigit then
      some (c.fails 1 ("option used in invalid context -- " ++ String.ofList [letter]))
    else if letter = 'n' ∨ letter = 'c' then c.refuseShare letter (withoutFront '-' value)
    else if letter = 'β' ∨ letter = 'δ' then
      let what := if letter = 'β' then "invalid PID"
        else "invalid maximum number of unchanged stats between opens"
      match amount? "" value with
      | .ok _ => none
      | .error fault => some (c.refusesAmount 1 what value fault)
    else if letter = 's' ∧ (time? value).isNone then
      some (c.fails 1 ("invalid number of seconds: " ++ quotedText value))
    else none
  ({ c with arguments := tailCount c.arguments } : Call).withChecked 1 g refuse fun o =>
    let kind := (o.last? ['c', 'n']).getD 'n'
    let text := (o.value? kind).getD "10"
    let fromStart := o.given.any fun (letter, value) =>
      (letter == 'c' || letter == 'n') && value.toList.head? == some '+'
    let share : Share := {
      bytewise := kind == 'c', allBut := fromStart
      amount := ((amount? shareUnits (withoutFront '-' text)).toOption).getD 0
      stop := if o.has 'z' then 0 else 10 }
    let follows := o.has 'f' || o.has 'F' || o.has 'α'
    let byName := o.has 'F' || o.value? 'α' == some "name"
    let retries := o.has 'F' || o.has 'γ'
    let warnings :=
      (if retries && !follows then
        [c.message "warning: --retry ignored; --retry is useful only when following"]
      else if retries && !byName then
        [c.message "warning: --retry only effective for the initial open"] else []) ++
      (if o.has 'β' && !follows then
        [c.message "warning: PID ignored; --pid=PID is useful only when following"] else [])
    let operands := if o.operands = [] then ["-"] else o.operands
    if operands.contains "-" && follows && byName then
      c.ends 1 (warnings ++ [c.message "cannot follow '-' by name"])
    else if share.amount = 0 ∧ !follows ∧ !fromStart then c.ends 0 warnings
    else
      let early : Call := { c with files := c.before }
      let (contents, complete) := early.load operands
      if complete = false then c.waits []
      else
        let (writes, failed) := c.writeParts (isTitled o operands)
          (fun content => share.back content.data) contents
        let writes := warnings ++ writes
        let alive := contents.filter fun (name, content) =>
          content.fault?.isNone && (!isInput name || c.inputSize.isSome)
        if follows = false then c.ends (if failed then 1 else 0) writes
        else
          let giveUps := contents.filterMap fun (name, content) =>
            if content.fault? = some Errno.isDirectory.text then
              some (c.message (shownName name ++
                ": cannot follow end of this type of file; giving up on this name"))
            else none
          if alive = [] ∧ !retries then
            let onlyInput := contents.any fun (name, content) => isInput name && content.fault?.isNone
            if onlyInput then c.ends (if failed then 1 else 0) writes
            else c.ends 1 (writes ++ giveUps ++ [c.message "no files remaining"])
          else
            let added := alive.map fun (name, content) =>
              (1, ((c.content name).data).drop content.data.length)
            ⟨writes ++ giveUps ++ added, c.files, .nap followTime⟩

end NativeBuild.Machine.Call
