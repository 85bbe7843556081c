import NativeBuild.Machine.Utility.Find.Reading

/-
  Searching a tree. Every file is judged in its turn, a directory before or after what is in it. A
  search that has to start a program stops there and is made again once the exit code has come; the
  tree is then taken to be what the program has left behind.
-/

namespace NativeBuild.Machine.Find

/-- How far a search has come. -/
structure Progressed extends Deed where
  /-- The exit codes that have come and are not used yet, with the trees after them. -/
  replies : List (Nat × FileTree)
  /-- The paths for which programs are started together, newest first. -/
  gathered : List (Starting × Option Location × String) := []
  /-- What is written to files, newest first. -/
  sheets : List (String × String) := []
  /-- The program that has to be started before the search can go on. -/
  request : Option Start := none
  isPruned : Bool := false
  isEnded : Bool := false

/-- A step of a search; it gives nothing when the search stops. -/
abbrev Searching := OptionT (StateM Progressed)

/-- Does something as a step of a search. -/
def doing {α : Type} (work : Work α) : Searching α := do
  let p ← get
  let (result, deed) := work.run.run p.toDeed
  set { p with toDeed := deed }
  match result with
  | some a => return a
  | none => failure

instance (priority := low) : MonadLift Work Searching := ⟨doing⟩

/-- What a search is made for. -/
structure Task where
  call : Call
  rules : Rules
  condition : Condition

namespace Task

/-- Complains about a file. -/
def complain (k : Task) (path : String) (e : Errno) : Searching Unit :=
  k.call.complain (quotedText path ++ ": " ++ e.text)

/-- Prints a text. -/
def put (k : Task) (outlet : Outlet) (text : String) : Searching Unit :=
  match outlet with
  | none => Work.print text
  | some "/dev/stderr" => do
    let _ := k
    Work.flush
    Work.writeError text
  | some path => modify fun p => { p with sheets := (path, text) :: p.sheets }

/-- Takes a file away. -/
def delete (k : Task) (f : Found) : Searching Bool := do
  if f.path = "." then return true
  let files ← Work.files
  let removed := match f.node with
    | some (.directory _) => files.removeDirectory k.call.cwd (outward f.path)
    | _ => files.removeFile k.call.cwd (outward f.path)
  match ← Work.attempt removed with
  | none => return true
  | some e =>
    k.call.complain ("cannot delete " ++ quotedText f.path ++ ": " ++ e.text)
    return false

/-- Starts a program for a file: the exit code is its answer. -/
def start (k : Task) (f : Found) (how : Starting) : Searching Bool := do
  let shown := if how.inside then
      (if f.name = "/" then "/" else "./" ++ f.name)
    else f.path
  let place := if how.inside then some f.place.dropLast else none
  if how.together then
    modify fun p => { p with gathered := (how, place, shown) :: p.gathered }
    return true
  if how.asks then
    Work.flush
    Work.writeError ("< " ++ how.tokens.headD "" ++ " ... " ++ f.path ++ " > ? ")
    let answers := (← get).answers
    let line := answers.takeWhile (· ≠ 10)
    if line.length = answers.length ∧ k.call.ended = false then failure
    modify fun p => { p with answers := answers.drop (line.length + 1) }
    unless line.head?.any fun b => b == 121 || b == 89 do return false
  let p ← get
  match p.replies with
  | (status, files) :: rest =>
    set { p with replies := rest, files := files }
    return status == 0
  | [] =>
    Work.flush
    let tokens := how.tokens.map (substituted "\x7b\x7d" shown)
    modify fun p => { p with request := some {
      tokens := tokens, environment := k.call.environment, place := place
      input := if how.asks then some [] else none } }
    failure

/-- Does something with a file. -/
def act (k : Task) (f : Found) : Action → Searching Bool
  | .print outlet ending => do
    k.put outlet (f.path ++ String.ofList [ending])
    return true
  | .format outlet pieces => do
    k.put outlet (formatText k.call.zone (← Work.files) f pieces)
    return true
  | .list outlet => do
    match f.lost with
    | some e =>
      k.complain f.path e
      return false
    | none =>
      k.put outlet (rowText k.call.zone (← Work.files) f)
      return true
  | .delete => k.delete f
  | .prune => do
    modify fun p => { p with isPruned := true }
    return true
  | .quit => do
    modify fun p => { p with isEnded := true }
    failure
  | .start how => k.start f how

/-- Judges a file. -/
def judge (k : Task) (f : Found) : Condition → Searching Bool
  | .test needsStatus holds => do
    match f.lost with
    | some e =>
      if needsStatus then
        k.complain f.path e
        return false
      return holds (← Work.files) f
    | none => return holds (← Work.files) f
  | .empty => do
    let files ← Work.files
    match f.lost, f.node with
    | some e, _ =>
      k.complain f.path e
      return false
    | none, some (.directory _) =>
      if files.permits f.goal .read then return (files.children f.goal).isEmpty
      else
        k.complain f.path .accessDenied
        return false
    | none, some (.file content _) => return content.isEmpty
    | none, _ => return false
  | .act action => k.act f action
  | .opposite a => return !(← k.judge f a)
  | .both a b => do
    if ← k.judge f a then k.judge f b else return false
  | .either a b => do
    if ← k.judge f a then return true else k.judge f b
  | .sequence a b => do
    let _ ← k.judge f a
    k.judge f b

/-- Judges a file that is deep enough. -/
def visit (k : Task) (f : Found) : Searching Unit := do
  if k.rules.least ≤ f.depth then
    let _ ← k.judge f k.condition

/-- What an entry is by now, when links are followed or not. -/
def look (k : Task) (files : FileTree) (follows : Bool) (f : Found) : Found :=
  let _ := k
  let above := f.place.dropLast
  let isBelow := f.depth ≠ 0
  if isBelow ∧ files.permits above .execute = false then { f with lost := some .accessDenied }
  else
    match files.find? f.place with
    | none => { f with lost := some .noEntry }
    | some (.link target) =>
      let kept := { f with node := some (.link target), goal := f.place }
      if follows = false then kept
      else
        match files.reach above true target with
        | .ok (.found goal node) => { f with node := some node, goal := goal }
        | .error .tooManyLinks => { kept with lost := some .tooManyLinks }
        | _ => kept
    | some node => { f with node := some node, goal := f.place }

/-- Judges a file and all below it. The directories above it are known by their numbers. -/
def search (k : Task) : Nat → Found → List (Nat × String) → Searching Unit
  | 0, _, _ => return
  | fuel + 1, f, above => do
    let files ← Work.files
    match f.lost, f.node with
    | some .tooManyLinks, _ => k.complain f.path .tooManyLinks
    | some e, some (.directory _) =>
      k.complain f.path e
      k.visit { f with node := none }
    | some _, _ => k.visit f
    | none, some (.directory _) =>
      let number := (files.numberAt? f.goal).getD 0
      match above.lookup number with
      | some other =>
        k.call.complain ("File system loop detected; " ++ quotedText f.path ++
          " is part of the same file system loop as " ++ quotedText other ++ ".")
      | none =>
        modify fun p => { p with isPruned := false }
        unless k.rules.insideFirst do k.visit f
        let isPruned := (← get).isPruned
        modify fun p => { p with isPruned := false }
        let descends := (k.rules.insideFirst || !isPruned) && k.rules.most.all (f.depth < ·)
        if descends then
          let files ← Work.files
          if files.numberAt? f.goal ≠ some number then k.complain f.path .noEntry
          else if files.permits f.goal .read = false then k.complain f.path .accessDenied
          else
            for (name, node) in files.children f.goal do
              let path := inDirectory f.path (inward name)
              let entry : Found := {
                path := path, start := f.start, depth := f.depth + 1, place := f.goal ++ [name]
                goal := f.goal ++ [name], node := some node }
              let files ← Work.files
              search k fuel (k.look files k.rules.follows entry) ((number, f.path) :: above)
        if k.rules.insideFirst then k.visit f
    | none, _ => k.visit f

/-- Searches from an operand on. -/
def searchFrom (k : Task) (start : String) : Searching Unit := do
  let files ← Work.files
  let follows := k.rules.follows || k.rules.followsStarts
  let begun := fun (place goal : Location) (node : Node) =>
    ({ path := start, start := start, depth := 0, place := place, goal := goal
       node := some node } : Found)
  match k.call.statusIn files follows start, k.call.statusIn files false start with
  | .ok st, .ok own =>
    k.search (files.entries.length + 50) (begun own.place st.place st.node) []
  | .error .noEntry, .ok own => k.search 1 (begun own.place own.place own.node) []
  | .error e, _ | _, .error e => k.complain start e

end Task

/-- The programs that are started for many files together, with the files, in order. -/
def gatheredCalls (gathered : List (Starting × Option Location × String)) :
    List (Option Location × List String) :=
  ((gathered.map fun e => (e.1, e.2.1)).eraseDups).map fun (how, place) =>
    (place, how.tokens ++ (gathered.filter fun e => e.1 == how && e.2.1 == place).map (·.2.2))

/-- The tree with what has been written to files in it. -/
def withSheets (c : Call) (files : FileTree) (sheets : List (String × String)) : FileTree :=
  sheets.foldr (fun (path, text) files =>
    (files.writeFile c.cwd (outward path) (toBytes text.toList) c.newMode true).toOption.getD files)
    files

/-- Ends a search, or starts the programs that were put off. -/
def conclude (c : Call) (p : Progressed) : Progress :=
  let held := p.held.reverse.flatten
  let writes := (if held = [] then p.writes else (1, held) :: p.writes).reverse
  match p.request with
  | some start => ⟨writes, p.files, .spawn start⟩
  | none =>
    let calls := gatheredCalls p.gathered.reverse
    match calls[p.replies.length]? with
    | some (place, tokens) =>
      ⟨writes, (p.replies.getLast?.map (·.2)).getD p.files,
        .spawn { tokens := tokens, environment := c.environment, place := place }⟩
    | none =>
      let failed := p.failed || p.replies.any (·.1 != 0)
      let files := withSheets c ((p.replies.getLast?.map (·.2)).getD p.files) p.sheets
      ⟨writes, files, .done (if failed then 1 else 0) p.answers.length⟩

/-- The options in front of a search: whether links are followed, all of them or those among the
operands, and the other arguments. -/
def leadingOptions (c : Call) : Nat → List String → Rules → List String →
    Except String (Rules × List String × List String)
  | 0, rest, rules, warnings => .ok (rules, rest, warnings)
  | fuel + 1, arguments, rules, warnings =>
    match arguments with
    | "-P" :: rest =>
      leadingOptions c fuel rest { rules with follows := false, followsStarts := false } warnings
    | "-L" :: rest =>
      leadingOptions c fuel rest { rules with follows := true, followsStarts := false } warnings
    | "-H" :: rest =>
      leadingOptions c fuel rest { rules with follows := false, followsStarts := true } warnings
    | "--" :: rest => .ok (rules, rest, warnings)
    | "-D" :: flag :: rest =>
      leadingOptions c fuel rest rules
        (warnings ++ ["Ignoring unrecognised debug flag " ++ quotedText flag])
    | ["-D"] => .error "Missing argument after the -D option."
    | word :: rest =>
      match word.toList with
      | '-' :: 'O' :: level =>
        if level = [] then
          .error "The -O option must be immediately followed by a decimal integer"
        else if level.all Char.isDigit = false then
          .error "Please specify a decimal number immediately after -O"
        else leadingOptions c fuel rest rules warnings
      | _ => .ok (rules, arguments, warnings)
    | [] => .ok (rules, [], warnings)

end NativeBuild.Machine.Find

namespace NativeBuild.Machine.Call

/-- Searches trees for files. -/
def find (c : Call) : Progress :=
  match Find.leadingOptions c (c.arguments.length + 1) c.arguments {} [] with
  | .error text => c.fails 1 text
  | .ok (rules, arguments, warnings) =>
    let starts := arguments.takeWhile fun a => !Find.isExpression true a
    let trees := c.before :: c.snapshots
    let trees := trees.dropLast ++ [c.files]
    let (result, r) := (Find.readSearch c).run.run {
      words := arguments.drop starts.length, files := trees.headD c.files, rules := rules
      dayEnd := c.before.now - 86400 * 1000000000 }
    let warnings := (warnings ++ r.warnings).map c.message
    match result with
    | .error text => ⟨warnings ++ [c.message text], r.files, .done 1 0⟩
    | .ok condition =>
      let k : Find.Task := ⟨c, r.rules, condition⟩
      let (done, p) := (((if starts = [] then ["."] else starts).forM k.searchFrom).run).run {
        files := r.files, writes := warnings.reverse, answers := c.input
        replies := c.replies.zip (trees.drop 1) }
      let isWaiting := done.isNone && p.request.isNone && !p.isEnded
      if isWaiting then c.waits p.writes.reverse else Find.conclude c p

end NativeBuild.Machine.Call
