import NativeBuild.Machine.Regex
import NativeBuild.Machine.Utility.Amount

/-
  Lines with numbers in front of them. Pages have a head, a body and a foot, each of which begins
  with a line of marks and is numbered in a way of its own.
-/

namespace NativeBuild.Machine.Call

/-- Which lines have numbers. -/
inductive NumberedLines where
  | all
  | filled
  | none
  | matching (pattern : Regex)

/-- The lines that a text chooses. -/
def numberedLines? (text : String) : Option (Except String NumberedLines) :=
  match text.toList with
  | 'a' :: _ => some (.ok .all)
  | 't' :: _ => some (.ok .filled)
  | 'n' :: _ => some (.ok .none)
  | 'p' :: pattern => some (match Regex.parse {} pattern with
    | .error e => .error e
    | .ok parsed => .ok (.matching parsed.regex))
  | _ => Option.none

/-- How lines are numbered, and where the numbers stand. -/
structure LineNumbering where
  head : NumberedLines
  body : NumberedLines
  foot : NumberedLines
  first : Int
  step : Int
  /-- The number does not begin anew with each page. -/
  goesOn : Bool
  /-- So many empty lines count as one. -/
  blanks : Nat
  between : List Char
  width : Nat
  form : String
  /-- The two characters of the marks of a part of a page. -/
  mark : List UInt8
  part : Nat := 1
  number : Int
  blanksSeen : Nat := 0

namespace LineNumbering

/-- A line with its number. -/
def numbered (n : LineNumbering) (line : List UInt8) : LineNumbering × List UInt8 :=
  let text := signed n.number
  let shown := match n.form with
    | "ln" => padRight n.width text
    | "rz" =>
      if n.number < 0 then '-' :: padLeft '0' (n.width - 1) (text.drop 1) else padLeft '0' n.width text
    | _ => padLeft ' ' n.width text
  ({ n with number := n.number + n.step }, toBytes (shown ++ n.between) ++ line)

/-- A line without a number. -/
def plain (n : LineNumbering) (line : List UInt8) : List UInt8 :=
  toBytes (List.replicate (n.width + n.between.length) ' ') ++ line

/-- The part of a page that begins with a line: its head, body or foot. -/
def partOf? (n : LineNumbering) (line : List UInt8) : Option Nat :=
  if n.mark.length < 2 then Option.none
  else if line = n.mark ++ n.mark ++ n.mark then some 0
  else if line = n.mark ++ n.mark then some 1
  else if line = n.mark then some 2
  else Option.none

/-- Takes a line. -/
def take (n : LineNumbering) (line : List UInt8) : LineNumbering × List UInt8 :=
  match n.partOf? line with
  | some k => ({ n with part := k, number := if n.goesOn then n.number else n.first }, [])
  | Option.none =>
    match [n.head, n.body, n.foot].getD n.part n.body with
    | .all =>
      if n.blanks ≤ 1 ∨ line ≠ [] then
        n.numbered line |> fun (n, shown) => ({ n with blanksSeen := 0 }, shown)
      else if n.blanksSeen + 1 = n.blanks then
        n.numbered line |> fun (n, shown) => ({ n with blanksSeen := 0 }, shown)
      else ({ n with blanksSeen := n.blanksSeen + 1 }, n.plain line)
    | .filled => if line = [] then (n, n.plain line) else n.numbered line
    | .none => (n, n.plain line)
    | .matching pattern =>
      if pattern.isIn (ofBytes line) then n.numbered line else (n, n.plain line)

end LineNumbering

/-- Prints lines with numbers. -/
def nl (c : Call) : Progress :=
  let g : Grammar := {
    letters := "b:d:f:h:i:l:n:ps:v:w:"
    names := [("header-numbering", 'h'), ("body-numbering", 'b'), ("footer-numbering", 'f'),
      ("starting-line-number", 'v'), ("line-increment", 'i'), ("no-renumber", 'p'),
      ("join-blank-lines", 'l'), ("number-separator", 's'), ("number-width", 'w'),
      ("number-format", 'n'), ("section-delimiter", 'd')] }
  let whole := fun (text : String) => integer? (text.toList.dropWhile isSpace)
  let refuse := fun (letter : Char) (value : String) =>
    let bad := fun (what : String) => some (c.fails 1 (what ++ ": " ++ quotedText value))
    let range := fun (what : String) => some (c.fails 1 (what ++ ": " ++ quotedText value ++
      ": Numerical result out of range"))
    let number := fun (what : String) (least : Option Int) => match whole value, least with
      | Option.none, _ => bad what
      | some n, some m => if n < m then range what else Option.none
      | some _, Option.none => Option.none
    match letter with
    | 'v' => number "invalid starting line number" Option.none
    | 'i' => number "invalid line number increment" Option.none
    | 'l' => number "invalid line number of blank lines" (some 1)
    | 'w' => number "invalid line number field width" (some 1)
    | 'h' | 'b' | 'f' => match numberedLines? value with
      | some (.error e) => some (c.fails 1 e)
      | _ => Option.none
    | _ => Option.none
  c.withChecked 1 g refuse fun o =>
    let complaints := o.given.filterMap fun (letter, value) =>
      let style := fun (part : String) => if (numberedLines? value).isSome then Option.none
        else some (c.message ("invalid " ++ part ++ " numbering style: " ++ quotedText value))
      match letter with
      | 'h' => style "header"
      | 'b' => style "body"
      | 'f' => style "footer"
      | 'n' => if ["ln", "rn", "rz"].contains value then Option.none
        else some (c.message ("invalid line numbering format: " ++ quotedText value))
      | _ => Option.none
    if complaints ≠ [] then c.ends 1 (complaints ++ [c.advice])
    else
      let lines := fun (letter : Char) (usual : NumberedLines) =>
        match (o.value? letter).bind numberedLines? with
        | some (.ok chosen) => chosen
        | _ => usual
      let number := fun (letter : Char) (usual : Int) => ((o.value? letter).bind whole).getD usual
      let first := number 'v' 1
      let mark := match (o.value? 'd').map fun v => toBytes v.toList with
        | Option.none => [92, 58]
        | some [b] => [b, 58]
        | some mark => mark
      let n : LineNumbering := {
        head := lines 'h' .none, body := lines 'b' .filled, foot := lines 'f' .none
        first := first, step := number 'i' 1, goesOn := o.has 'p', blanks := (number 'l' 1).toNat
        between := ((o.value? 's').getD "\t").toList, width := (number 'w' 6).toNat
        form := (o.value? 'n').getD "rn", mark := mark, number := first }
      let (contents, complete) := c.load o.operands
      if complete = false then c.waits []
      else
        let (writes, _, failed) := contents.foldl (fun (writes, n, failed) (name, content) =>
          match content.fault? with
          | some text => (writes ++ [c.message (shownName name ++ ": " ++ text)], n, true)
          | Option.none =>
            let (n, shown) := (linesOf true content.data).1.foldl
              (fun ((n, shown) : LineNumbering × List (List UInt8)) line =>
                let (n, text) := n.take line
                (n, text :: shown)) (n, [])
            (writes ++ [(1, unlines shown.reverse false)], n, failed))
          (([] : List (Nat × List UInt8)), n, false)
        c.ends (if failed then 1 else 0) writes

end NativeBuild.Machine.Call
