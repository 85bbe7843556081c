import NativeBuild.Machine.Calendar.Format
import NativeBuild.Machine.Utility.Attributes

/-
  The date: `date` shows a time by a format.
-/

namespace NativeBuild.Machine.Call

/-- The format of a date in the order of its parts, up to one that a word names. -/
def ordered (separator : String) (word : String) : Option String :=
  match word with
  | "date" => some "%Y-%m-%d"
  | "hours" => some ("%Y-%m-%d" ++ separator ++ "%H%:z")
  | "minutes" => some ("%Y-%m-%d" ++ separator ++ "%H:%M%:z")
  | "seconds" => some ("%Y-%m-%d" ++ separator ++ "%H:%M:%S%:z")
  | "ns" => some ("%Y-%m-%d" ++ separator ++ "%H:%M:%S" ++ (if separator = "T" then "," else ".") ++ "%N%:z")
  | _ => none

/-- The format that options ask for, or what is wrong with them. -/
def dateFormat (o : Options) : Except String (Option String) :=
  let bad := fun (option word : String) (words : List String) =>
    (.error ("invalid argument " ++ quotedText word ++ " for '" ++ option ++
      "'\nValid arguments are:\n" ++ "\n".intercalate (words.map fun w => "  - '" ++ w ++ "'")) :
      Except String (Option String))
  let abbreviated := fun (words : List String) (word : String) =>
    match words.filter fun w => word.toList.isPrefixOf w.toList with
    | [w] => some w
    | ws => if ws.contains word then some word else none
  match o.given.filter fun entry => ['I', 'R', 'α'].contains entry.1 with
  | [] => .ok none
  | [('I', word)] =>
    let words := ["hours", "minutes", "date", "seconds", "ns"]
    match abbreviated words (if word = "" then "date" else word) with
    | some w => .ok (ordered "T" w)
    | none => bad "--iso-8601" word words
  | [('α', word)] =>
    let words := ["date", "seconds", "ns"]
    match abbreviated words word with
    | some w => .ok (ordered " " w)
    | none => bad "--rfc-3339" word words
  | [_] => .ok (some "%a, %d %b %Y %H:%M:%S %z")
  | _ => .error "multiple output formats specified"

/-- Shows a time: this one, the one that a text names, or the one at which a file was changed. -/
def date (c : Call) : Progress :=
  let g : Grammar := {
    letters := "d:f:I::r:Rs:uα:βγ"
    names := [("date", 'd'), ("file", 'f'), ("iso-8601", 'I'), ("reference", 'r'),
      ("rfc-email", 'R'), ("rfc-822", 'R'), ("rfc-2822", 'R'), ("rfc-3339", 'α'), ("set", 's'),
      ("utc", 'u'), ("universal", 'u'), ("uct", 'u'), ("debug", 'β'), ("resolution", 'γ')] }
  c.withOptions 1 g fun o =>
    let zone := if o.has 'u' then Calendar.universal else c.zone
    let sources := ['d', 'f', 'r', 'γ'].filter o.has
    match dateFormat o with
    | .error text => c.misused 1 text
    | .ok asked =>
      let given := match o.operands.head? with
        | some text => if text.toList.head? = some '+' then some (String.ofList (text.toList.drop 1)) else none
        | none => none
      let show_ := fun (instant : Int) =>
        (zone.shown instant).format ((given.or asked).getD Calendar.usualFormat) ++ "\n"
      if 1 < sources.length then
        c.misused 1 "the options to specify dates for printing are mutually exclusive"
      else if o.has 's' ∧ sources ≠ [] then
        c.misused 1 "the options to print and set the time may not be used together"
      else
        match o.operands with
        | _ :: extra :: _ => c.misused 1 ("extra operand " ++ quotedText extra)
        | operands =>
          match operands, given with
          | [text], none =>
            if sources ≠ [] ∨ o.has 's' then
              c.misused 1 ("the argument " ++ quotedText text ++ " lacks a leading '+';\n" ++
                "when using an option to specify date(s), any non-option\n" ++
                "argument must be a format string beginning with '+'")
            else
              match Calendar.readStamp zone c.files.now text.toList with
              | some instant => ⟨[c.message ("cannot set date: " ++ Errno.notPermitted.text),
                  (1, toBytes (show_ instant).toList)], c.files, .done 1 0⟩
              | none => c.fails 1 ("invalid date " ++ quotedText text)
          | _, _ =>
            if given.isSome ∧ asked.isSome then c.fails 1 "multiple output formats specified"
            else
              match o.value? 'd', o.value? 'r', o.value? 's', o.value? 'f' with
              | some text, _, _, _ =>
                match Calendar.readDate zone c.files.now text.toList with
                | some instant => c.prints (show_ instant)
                | none => c.fails 1 ("invalid date " ++ quotedText text)
              | _, some file, _, _ =>
                match c.statusIn c.files true file with
                | .ok st => c.prints (show_ (c.files.datesOf st.number).modified)
                | .error e => c.fails 1 (shownName file ++ ": " ++ e.text)
              | _, _, some text, _ =>
                match Calendar.readDate zone c.files.now text.toList with
                | some instant => ⟨[c.message ("cannot set date: " ++ Errno.notPermitted.text),
                    (1, toBytes (show_ instant).toList)], c.files, .done 1 0⟩
                | none => c.fails 1 ("invalid date " ++ quotedText text)
              | _, _, _, some file =>
                let (contents, complete) := c.load [file]
                if complete = false then c.waits []
                else
                  match contents with
                  | [(_, .bytes data)] => c.perform do
                    for line in linesIn (ofBytes data) do
                      match Calendar.readDate zone c.files.now line with
                      | some instant => Work.print (show_ instant)
                      | none => c.complain ("invalid date " ++ quotedText (String.ofList line))
                  | [(_, .fault text)] => c.fails 1 (shownName file ++ ": " ++ text)
                  | _ => c.ends 0 []
              | none, none, none, none => c.prints (show_ c.files.now)

end NativeBuild.Machine.Call
