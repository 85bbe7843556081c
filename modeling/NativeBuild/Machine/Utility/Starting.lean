import NativeBuild.Machine.Shell.Act
import NativeBuild.Machine.Utility.Deed
import NativeBuild.Machine.Utility.Printing
import NativeBuild.Machine.Utility.Waiting

/-
  Utilities that start programs: in another environment, with another standing, for a limited time,
  or as often as arguments come from standard input.
-/

namespace NativeBuild.Machine.Call

/-- It becomes another program in the environment of the call. -/
def becomes (c : Call) (tokens : List String) : Progress :=
  ⟨[], c.files, .become { tokens := tokens, environment := c.environment }⟩

/-- How a text is taken apart into arguments for `env`. -/
structure Splitting where
  /-- The arguments that are complete, last first. -/
  arguments : List String := []
  /-- The one that has begun, last character first. -/
  current : Option (List Char) := none
  /-- The quote that is open. -/
  quote : Option Char := none

namespace Splitting

/-- A character belongs to the argument. -/
def put (s : Splitting) (ch : Char) : Splitting :=
  { s with current := some (ch :: s.current.getD []) }

/-- The argument is complete. -/
def close (s : Splitting) : Splitting :=
  match s.current with
  | some cs => { s with arguments := String.ofList cs.reverse :: s.arguments, current := none }
  | none => s

end Splitting

/-- Takes a text apart into arguments: quotes, escapes and variables in braces have a meaning. -/
def splitText (environment : Variables) : Nat → List Char → Splitting → Except String (List String)
  | 0, _, s => .ok s.close.arguments.reverse
  | fuel + 1, cs, s =>
    match cs with
    | [] =>
      if s.quote.isSome then .error "no terminating quote in -S string"
      else .ok s.close.arguments.reverse
    | ch :: rest =>
      if s.quote = some ch then splitText environment fuel rest { s with quote := none }
      else if (ch = '\'' ∨ ch = '"') ∧ s.quote.isNone then
        splitText environment fuel rest
          { s with quote := some ch, current := some (s.current.getD []) }
      else if ch = '\\' then
        match rest with
        | [] =>
          if s.quote = some '\'' then splitText environment fuel rest (s.put ch)
          else .error "invalid backslash at end of string in -S"
        | next :: more =>
          if s.quote = some '\'' then
            if next = '\'' ∨ next = '\\' then splitText environment fuel more (s.put next)
            else splitText environment fuel more ((s.put ch).put next)
          else if "\"#$'\\".toList.contains next then splitText environment fuel more (s.put next)
          else if next = '_' then
            splitText environment fuel more (if s.quote.isSome then s.put ' ' else s.close)
          else if next = 'c' then
            if s.quote.isSome then .error "'\\c' must not appear in double-quoted -S string"
            else .ok s.close.arguments.reverse
          else
            match if "fnrtv".toList.contains next then escapeLetter next else none with
            | some shown => splitText environment fuel more (s.put shown)
            | none => .error ("invalid sequence '\\" ++ String.ofList [next] ++ "' in -S")
      else if s.quote = some '\'' then splitText environment fuel rest (s.put ch)
      else if ch = '$' then
        let name := (rest.drop 1).takeWhile inName
        if rest.head? = some '\x7b' ∧ isName name ∧ (rest.drop (name.length + 1)).head? = some '\x7d' then
          let value := (environment.get? (String.ofList name)).getD ""
          splitText environment fuel (rest.drop (name.length + 2)) (value.toList.foldl Splitting.put s)
        else .error ("only $\x7bVARNAME\x7d expansion is supported, error at: " ++ String.ofList cs)
      else if isSpace ch ∧ s.quote.isNone then splitText environment fuel rest s.close
      else if ch = '#' ∧ s.quote.isNone ∧ s.current.isNone then .ok s.close.arguments.reverse
      else splitText environment fuel rest (s.put ch)

/-- Arguments in which texts that are to be taken apart have been replaced by what is in them. -/
def splitArguments (environment : Variables) : Nat → List String → Except String (List String)
  | 0, arguments => .ok arguments
  | fuel + 1, arguments =>
    let cut := fun (text : String) =>
      splitText environment (text.length + 1) text.toList {}
    match arguments with
    | [] => .ok []
    | a :: rest =>
      match a.toList with
      | '-' :: '-' :: 's' :: cs =>
        let value := (('s' :: cs).dropWhile (· ≠ '=')).drop 1
        if ('s' :: cs).contains '=' then do
          splitArguments environment fuel ((← cut (String.ofList value)) ++ rest)
        else
          match rest with
          | text :: rest => do splitArguments environment fuel ((← cut text) ++ rest)
          | [] => .ok [a]
      | '-' :: '-' :: _ => (splitArguments environment fuel rest).map (a :: ·)
      | '-' :: l :: ls =>
        let flags := (l :: ls).takeWhile fun ch => ch == 'i' || ch == '0' || ch == 'v'
        let front := if flags = [] then [] else [String.ofList ('-' :: flags)]
        match (l :: ls).drop flags.length with
        | 'S' :: text =>
          if text ≠ [] then do
            return front ++ (← splitArguments environment fuel ((← cut (String.ofList text)) ++ rest))
          else
            match rest with
            | text :: rest => do
              return front ++ (← splitArguments environment fuel ((← cut text) ++ rest))
            | [] => .ok [a]
        | ['u'] | ['C'] =>
          (splitArguments environment fuel (rest.drop 1)).map fun more => a :: (rest.take 1 ++ more)
        | _ => (splitArguments environment fuel rest).map (a :: ·)
      | _ => .ok arguments

/-- Prints the environment, or starts a program in another one. -/
def env (c : Call) : Progress :=
  let g : Grammar := {
    letters := "0iu:C:S:vα::β", anywhere := false
    names := [("null", '0'), ("ignore-environment", 'i'), ("unset", 'u'), ("chdir", 'C'),
      ("split-string", 'S'), ("debug", 'v'), ("block-signal", 'α'), ("ignore-signal", 'α'),
      ("default-signal", 'α'), ("list-signal-handling", 'β')] }
  match splitArguments c.environment (c.arguments.length + 40) c.arguments with
  | .error text => c.fails 125 text
  | .ok arguments =>
    ({ c with arguments := arguments } : Call).withOptions 125 g fun o =>
      let (clears, operands) := match o.operands with
        | "-" :: rest => (true, rest)
        | operands => (o.has 'i', operands)
      let base := if clears then [] else c.environment
      let removed := (o.given.filter (·.1 == 'u')).map (·.2)
      let bad := if clears then none
        else removed.find? fun name => name == "" || name.toList.contains '='
      let base := base.filter fun entry => !removed.contains entry.1
      let isAssignment := fun (a : String) => a.toList.contains '='
      let environment := (operands.takeWhile isAssignment).foldl
        (fun (environment : Variables) a =>
          let name := String.ofList (a.toList.takeWhile (· ≠ '='))
          environment.put name (String.ofList (a.toList.drop (name.length + 1)))) base
      let note := fun (text : String) =>
        if o.has 'v' then [(2, toBytes (text ++ "\n").toList)] else []
      let preparing := (if clears then note "cleaning environ"
          else removed.flatMap fun name => note ("unset:    " ++ name)) ++
        (operands.takeWhile isAssignment).flatMap fun a => note ("setenv:   " ++ a)
      let failing := fun (front : List (Nat × List UInt8)) (p : Progress) =>
        ({ p with writes := front ++ p.writes } : Progress)
      match bad, operands.dropWhile isAssignment with
      | some name, _ => c.fails 125 ("cannot unset " ++ quotedName name ++ ": Invalid argument")
      | none, [] =>
        failing preparing (if o.has 'C' then c.misused 125 "must specify command with --chdir (-C)"
          else c.prints (shownEnvironment environment (if o.has '0' then '\x00' else '\n')))
      | none, tokens =>
        let start : Start := { tokens := tokens, environment := environment }
        let moving := (o.value? 'C').toList.flatMap fun directory =>
          note ("chdir:    " ++ quotedName directory)
        let executing := note ("executing: " ++ tokens.headD "") ++
          tokens.zipIdx.flatMap fun (token, k) =>
            note ("   arg[" ++ toString k ++ "]= " ++ quotedText token)
        let starts := fun (start : Start) =>
          (⟨preparing ++ moving ++ executing, c.files, .become start⟩ : Progress)
        if o.has '0' then
          failing preparing (c.misused 125 "cannot specify --null (-0) with command")
        else
          match o.value? 'C' with
          | none => starts start
          | some directory =>
            let refused := fun (e : Errno) => failing (preparing ++ moving)
              (c.fails 125 ("cannot change directory to " ++ quotedName directory ++ ": " ++ e.text))
            match c.statusIn c.files true directory with
            | .ok st =>
              if st.node.isDirectory = false then refused .notDirectory
              else if st.node.allows .execute = false then refused .accessDenied
              else starts { start with place := some st.place }
            | .error e => refused e

/-- Starts a program that stands back for others, or tells how far it does so itself. -/
def nice (c : Call) : Progress :=
  let isShort := fun (a : String) => match a.toList with
    | '-' :: '-' :: d :: _ | '-' :: '+' :: d :: _ | '-' :: d :: _ => d.isDigit
    | _ => false
  let shorts := c.arguments.takeWhile isShort
  let arguments := match shorts.getLast? with
    | some a => ("-n" ++ String.ofList (a.toList.drop 1)) :: c.arguments.drop shorts.length
    | none => c.arguments
  ({ c with arguments := arguments } : Call).withOptions 125
      { letters := "n:", names := [("adjustment", 'n')], anywhere := false } fun o =>
    let text := o.value? 'n'
    match o.operands, text.map fun t => integer? t.toList with
    | _, some none => c.fails 125 ("invalid adjustment " ++ quotedName (text.getD ""))
    | [], some _ => c.misused 125 "a command must be given with an adjustment"
    | [], none => c.prints (String.ofList (signed c.niceness) ++ "\n")
    | tokens, change =>
      let wanted := min 19 (c.niceness + ((change.getD none).getD 10))
      let refused := wanted < c.niceness
      let start : Start := {
        tokens := tokens, environment := c.environment
        niceness := if refused then none else some wanted }
      let note := if refused then [c.message "cannot set niceness: Permission denied"] else []
      ⟨note, c.files, .become start⟩

/-- Starts a program that goes on when those who have started it leave. -/
def nohup (c : Call) : Progress :=
  c.withOptions 125 { letters := "", anywhere := false } fun o =>
    match o.operands with
    | [] => c.misused 125 "missing operand"
    | tokens => ⟨[], c.files,
        .become { tokens := tokens, environment := c.environment, ignored := [1] }⟩

/-- Starts a program in a session of its own. -/
def setsid (c : Call) : Progress :=
  c.withOptions 1 { letters := "cfw", anywhere := false } fun o =>
    match o.operands with
    | [] => c.misused 1 "no command specified"
    | tokens => c.becomes tokens

/-- Starts a program whose streams hold back what is written to them in another way. -/
def stdbuf (c : Call) : Progress :=
  let g : Grammar := {
    letters := "i:o:e:", anywhere := false
    names := [("input", 'i'), ("output", 'o'), ("error", 'e')] }
  c.withOptions 125 g fun o =>
    let isMode := fun (mode : String) => mode == "L" ||
      (mode.toList.head?.any Char.isDigit && mode.toList.all Char.isAlphanum)
    match o.given.find? fun e => !isMode e.2, o.given, o.operands with
    | some (_, mode), _, _ => c.fails 125 ("invalid mode " ++ quotedName mode)
    | none, _, [] => c.misused 125 "missing operand"
    | none, [], _ => c.misused 125 "you must specify a buffering mode option"
    | none, _, tokens => c.becomes tokens

/-- The signal that a text names, with or without the letters that all names begin with. -/
def signalNamed? (text : String) : Option Nat :=
  let upper := text.toUpper
  let short := if "SIG".isPrefixOf upper then String.ofList (upper.toList.drop 3) else upper
  if short = "EXIT" then some 0 else signalNumber? 0 short

/-- Starts a program that has to end in time. -/
def timeout (c : Call) : Progress :=
  let g : Grammar := {
    letters := "k:s:pfv", anywhere := false
    names := [("kill-after", 'k'), ("signal", 's'), ("preserve-status", 'p'), ("foreground", 'f'),
      ("verbose", 'v')] }
  c.withOptions 125 g fun o =>
    let badTime := fun (text : String) => c.misused 125 ("invalid time interval " ++ quotedName text)
    let kill := (o.value? 'k').map fun text => (text, time? text)
    let signal := ((o.value? 's').map fun text => (text, signalNamed? text)).getD ("TERM", some 15)
    match kill, signal, o.operands with
    | some (text, none), _, _ => badTime text
    | _, (text, none), _ => c.misused 125 (quotedName text ++ ": invalid signal")
    | _, (_, some number), limit :: command :: rest =>
      match time? limit with
      | none => badTime limit
      | some time =>
        let later := match kill with
          | some (_, some more) => if more = 0 then [] else [(time + more, 9)]
          | _ => []
        let alarms := if time = 0 then [] else
          (if number = 0 then [] else [(time, number)]) ++ later
        let own := if o.has 'f' then [] else alarms.filter fun alarm => alarm.2 == 9
        let name := signalNames.getD number "0"
        let note := if o.has 'v' then
            [c.message ("sending signal " ++ name ++ " to command " ++ quotedName command)]
          else []
        match c.replies with
        | [] => ⟨[], c.files, .spawn {
            tokens := command :: rest, environment := c.environment, alarms := alarms
            ownAlarms := own }⟩
        | reply :: _ =>
          let late := c.isLate && time != 0
          let note := if late then note else []
          if reply < 256 then
            c.ends (if late && !o.has 'p' then 124 else reply) note
          else if late then
            let ended := reply - 256
            c.ends (if o.has 'p' ∨ ended = 9 then 128 + ended else 124) note
          else ⟨note, c.files, .die (reply - 256)⟩
    | _, _, _ => c.ends 125 [c.advice]

/-- The words of a text as `xargs` takes it apart, and the kind of a quote that does not close.
Outside of quotes the words end at blanks and line ends, or at line ends alone. -/
def quotedWords (byLines : Bool) : Nat → List Char → Option (List Char) → List String →
    List String × Option String
  | 0, _, _, words => (words.reverse, none)
  | fuel + 1, cs, word, words =>
    let closed := match word with
      | some w => String.ofList w.reverse :: words
      | none => words
    let begun := word.getD []
    match cs with
    | [] => (closed.reverse, none)
    | '\\' :: ch :: rest => quotedWords byLines fuel rest (some (ch :: begun)) words
    | q :: rest =>
      if q = '\'' ∨ q = '"' then
        let quoted := rest.takeWhile fun ch => ch ≠ q ∧ ch ≠ '\n'
        let kind := if q = '"' then "double" else "single"
        match rest.drop quoted.length with
        | d :: more =>
          if d = q then quotedWords byLines fuel more (some (quoted.reverse ++ begun)) words
          else (words.reverse, some kind)
        | [] => (words.reverse, some kind)
      else if q = '\n' then quotedWords byLines fuel rest none closed
      else if q = ' ' ∨ q = '\t' then
        if byLines then quotedWords byLines fuel rest (word.map (q :: ·)) words
        else quotedWords byLines fuel rest none closed
      else quotedWords byLines fuel rest (some (q :: begun)) words

/-- Lines that go on where one ends with a blank, without those that are empty. -/
def continuedLines : List (List Char) → List (List Char)
  | [] => []
  | line :: rest =>
    let isEmpty := line.all fun ch => ch == ' ' || ch == '\t'
    match continuedLines rest with
    | next :: more =>
      if isEmpty then next :: more
      else if line.getLast?.any fun ch => ch == ' ' || ch == '\t' then (line ++ next) :: more
      else line :: next :: more
    | [] => if isEmpty then [] else [line]

/-- Words in groups of so many at most, which keep within a number of bytes; nothing if a word has
more by itself. -/
def wordGroups (most : Option Nat) (room : Nat) : List String → List String → Nat →
    Option (List (List String))
  | [], [], _ => some []
  | [], group, _ => some [group.reverse]
  | word :: rest, group, used =>
    let size := (toBytes word.toList).length + 1
    if room < size then none
    else if group ≠ [] ∧ (room < used + size ∨ most.any (· ≤ group.length)) then
      (wordGroups most room rest [word] size).map (group.reverse :: ·)
    else wordGroups most room rest (word :: group) (used + size)

/-- The most bytes of the arguments that `xargs` puts together. -/
def argumentRoom : Nat := 131072

/-- What `xargs` reads: words, and the kind of a quote that does not close. -/
def argumentWords (o : Options) (byLines : Bool) (text : List Char) :
    Except String (List String × Option String) :=
  let ended := fun (stop : Char) =>
    let pieces := piecesAt (· == stop) text
    (((if pieces.getLast? = some [] then pieces.dropLast else pieces).map String.ofList, none) :
      List String × Option String)
  let fault := fun (d : String) => "Invalid input delimiter specification " ++ d ++
    ": the delimiter must be either a single character or an escape sequence starting with \\."
  match o.last? ['0', 'd'], o.value? 'd' with
  | some '0', _ => .ok (ended '\x00')
  | some _, some d =>
    match d.toList with
    | [ch] => .ok (ended ch)
    | '\\' :: rest =>
      match unescapeAll ('\\' :: rest) with
      | ([ch], _) => .ok (ended ch)
      | _ => .error (fault d)
    | _ => .error (fault d)
  | _, _ =>
    let (words, fault) := quotedWords byLines (text.length + 2) text none []
    let stop := (o.value? 'E').or (o.value? 'e')
    .ok (match stop with
      | some mark => if mark = "" then (words, fault) else (words.takeWhile (· ≠ mark), fault)
      | none => (words, fault))

/-- Starts a program with arguments from standard input, as often as needed. -/
def xargs (c : Call) : Progress :=
  let g : Grammar := {
    letters := "0a:d:E:e::I:i::L:l::n:P:prs:txα:", anywhere := false
    names := [("null", '0'), ("arg-file", 'a'), ("delimiter", 'd'), ("eof", 'e'), ("replace", 'i'),
      ("max-lines", 'l'), ("max-args", 'n'), ("max-procs", 'P'), ("interactive", 'p'),
      ("no-run-if-empty", 'r'), ("max-chars", 's'), ("verbose", 't'), ("exit", 'x'),
      ("process-slot-var", 'α')] }
  c.withOptions 1 g fun o =>
    let given := o.given.find? fun (letter, value) =>
      "nLPs".toList.contains letter && (natural? value.toList).isNone
    let tooSmall := o.given.find? fun (letter, value) =>
      "nLs".toList.contains letter && natural? value.toList == some 0
    let file := o.value? 'a'
    let source := (file.map c.content).getD (c.content "-")
    match given, tooSmall, source with
    | some (letter, value), _, _ => c.misused 1 ("invalid number \"" ++ value ++ "\" for -" ++
        String.ofList [letter] ++ " option")
    | none, some (letter, _), _ => c.misused 1 ("value 0 for -" ++ String.ofList [letter] ++
        " option should be >= 1")
    | _, _, .fault text =>
      if file.isSome then c.fails 1 ("Cannot open input file " ++ quotedName (file.getD "") ++ ": " ++ text)
      else c.ends 0 []
    | _, _, source =>
      let text := match source with
        | .bytes data => ofBytes data
        | _ => []
      let command := if o.operands = [] then ["echo"] else o.operands
      let limiting := o.last? ['I', 'i', 'L', 'l', 'n']
      let limiting := if limiting = some 'n' ∧ o.number? 'n' = some 1 ∧ (o.has 'I' ∨ o.has 'i') then
          o.last? ['I', 'i'] else limiting
      let replaces := limiting = some 'I' ∨ limiting = some 'i'
      if file.isNone ∧ c.ended = false then c.waits []
      else
        match argumentWords o replaces text with
        | .error text => c.fails 1 text
        | .ok (words, unclosed) =>
          let mark := match limiting with
            | some 'I' => (o.value? 'I').getD ""
            | _ => match o.value? 'i' with
              | some "" | none => "\x7b\x7d"
              | some mark => mark
          let size := fun (texts : List String) =>
            total (texts.map fun t => (toBytes t.toList).length + 1)
          let room := (o.number? 's').getD argumentRoom - size command
          let calls : Option (List (List String)) :=
            if replaces then some (words.map fun word => command.map (substituted mark word))
            else if (limiting = some 'L' ∨ limiting = some 'l') ∧ !(o.has '0' || o.has 'd') then
              let count := match limiting with
                | some 'L' => (o.number? 'L').getD 1
                | _ => (o.number? 'l').getD 1
              let lines := continuedLines (linesIn text)
              some ((inGroups count (lines.length + 1) lines).map fun group =>
                let joined := List.intercalate ['\n'] group
                command ++ (quotedWords false (joined.length + 2) joined none []).1)
            else
              let most := if limiting = some 'n' then o.number? 'n'
                else if limiting = some 'L' then o.number? 'L' else none
              (wordGroups most room words [] 0).map fun groups => groups.map (command ++ ·)
          let warning := if text.contains '\x00' ∧ !o.has '0' ∧ !o.has 'd' then
              [c.message ("WARNING: a NUL character occurred in the input.  It cannot be passed " ++
                "through in the argument list.  Did you mean to use the --null option?")]
            else []
          let complaint := match unclosed with
            | some kind => [c.message ("unmatched " ++ kind ++
                " quote; by default quotes are special to xargs unless you use the -0 option")]
            | none => []
          let writes := warning ++ complaint
          match calls with
          | none => c.ends 1 (writes ++ [c.message "argument line too long"])
          | some calls =>
            let calls := if words = [] then
                (if o.has 'r' ∨ replaces ∨ unclosed.isSome then [] else [command])
              else calls
            let calls := if unclosed.isSome ∧ replaces = false ∧ words = [] then [] else calls
            let status := c.replies.foldl (fun status reply =>
              if reply = 0 then status else 123) (if unclosed.isSome then 1 else 0)
            let shownCall := fun (call : List String) => " ".intercalate (call.map shownName)
            let traces := if o.has 't' then
                (calls.take (c.replies.length + 1)).map fun call =>
                  (2, toBytes (shownCall call ++ "\n").toList)
              else []
            let title := command.headD ""
            if o.has 'p' ∧ calls ≠ [] then
              c.ends 1 (writes ++ [(2, toBytes (shownCall (calls.headD [])).toList),
                c.message "failed to open /dev/tty for reading: No such device or address"])
            else
              match c.replies.getLast? with
              | some reply =>
                if reply = 255 then c.ends 124 (writes ++ traces ++
                  [c.message (title ++ ": exited with status 255; aborting")])
                else if 256 ≤ reply then c.ends 125 (writes ++ traces ++
                  [c.message (title ++ ": terminated by signal " ++ toString (reply - 256))])
                else if reply = 126 ∨ reply = 127 then c.ends reply (writes ++ traces)
                else
                  match calls[c.replies.length]? with
                  | none => c.ends status (writes ++ traces)
                  | some call => ⟨writes ++ traces, c.files, .spawn {
                      tokens := call, environment := c.environment
                      input := if file.isSome then none else some [] }⟩
              | none =>
                match calls with
                | [] => c.ends status (writes ++ traces)
                | call :: _ => ⟨writes ++ traces, c.files, .spawn {
                    tokens := call, environment := c.environment
                    input := if file.isSome then none else some [] }⟩

end NativeBuild.Machine.Call
