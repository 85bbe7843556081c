import NativeBuild.Machine.Utility.Deed

/-
  Whole contents: `cat` prints files one after the other, and `tee` prints what it reads and keeps
  it in files.
-/

namespace NativeBuild.Machine.Call

/-- A byte as `cat` shows it. -/
def visibleByte (tabs : Bool) (b : UInt8) : List UInt8 :=
  let plain := fun (b : UInt8) =>
    if b = 9 then (if tabs then [94, 73] else [9])
    else if b < 32 then [94, b + 64] else if b = 127 then [94, 63] else [b]
  if b = 10 then [10]
  else if b < 128 then plain b
  else if b - 128 = 9 then [77, 45, 94, 73]
  else [77, 45] ++ (if b - 128 = 10 then [94, 74] else plain (b - 128))

/-- Prints lines with numbers and marks. -/
def decorate (o : Options) (bytes : List UInt8) : List UInt8 :=
  let all := o.has 'A'
  let visible := all || o.has 'v' || o.has 'e' || o.has 't'
  let ends := all || o.has 'E' || o.has 'e'
  let tabs := all || o.has 'T' || o.has 't'
  let (lines, lacksEnd) := linesOf true bytes
  let lines := if o.has 's' then
      lines.foldr (fun line (rest : List (List UInt8)) =>
        if line = [] ∧ rest.head? = some [] then rest else line :: rest) []
    else lines
  let numbered := (lines.foldl (fun (taken, n) (line : List UInt8) =>
    let counts := o.has 'b' && line != [] || !o.has 'b' && o.has 'n'
    let shown := line.flatMap fun b =>
      if visible then visibleByte tabs b else if tabs && b = 9 then [94, 73] else [b]
    let front := if counts then toBytes (padLeft ' ' 6 (decimal n) ++ ['\t']) else []
    ((front ++ shown ++ if ends then [36] else []) :: taken, if counts then n + 1 else n))
    (([] : List (List UInt8)), 1)).1.reverse
  if lacksEnd ∧ ends then (unlines numbered false).dropLast.dropLast
  else unlines numbered lacksEnd

/-- Prints files one after the other. -/
def cat (c : Call) : Progress :=
  let g : Grammar := {
    letters := "AbeEnstTuv"
    names := [("show-all", 'A'), ("number-nonblank", 'b'), ("show-ends", 'E'), ("number", 'n'),
      ("squeeze-blank", 's'), ("show-tabs", 'T'), ("show-nonprinting", 'v')] }
  c.withOptions 1 g fun o =>
    let (contents, complete) := c.load o.operands
    let failed := contents.any fun (_, content) => match content with
      | .fault _ => true
      | _ => false
    let endless := contents.any fun (_, content) => content == .endless
    let plain := o.given.all fun entry => entry.1 == 'u'
    let writes := if plain then contents.map fun (name, content) =>
        match content with
        | .bytes data => (1, data)
        | .endless => (1, List.replicate (c.made + 65536) 0)
        | .fault text => c.message (shownName name ++ ": " ++ text)
      else
        let (bytes, messages) := c.joinContents contents
        messages ++ [(1, decorate o bytes)]
    if endless then ⟨writes, c.files, .again⟩
    else if complete = false ∧ (plain = true) then c.waits writes
    else if complete = false then c.waits []
    else c.ends (if failed then 1 else 0) writes

/-- Prints its input and writes it to files. -/
def tee (c : Call) : Progress :=
  let g : Grammar := {
    letters := "aipα::"
    names := [("append", 'a'), ("ignore-interrupts", 'i'), ("output-error", 'α')] }
  c.withOptions 1 g fun o =>
    let streams := [("/dev/stdout", 1), ("/dev/stderr", 2)]
    let isStream := fun (operand : String) => (streams.lookup operand).isSome || operand = "-"
    let fresh := c.input.drop c.made
    let act : Work Unit := o.operands.forM fun operand => do
      unless isStream operand do
        let files ← Work.files
        let old := match ({ c with files := files } : Call).statusIn files true operand with
          | .ok ⟨_, .file content _, _⟩ => content
          | _ => []
        unless (markedDevice? old).isSome do
          let content := if o.has 'a' then old ++ fresh else c.input
          let written := files.writeFile c.cwd (outward operand) content c.newMode false
          if let some e ← Work.attempt written then
            c.complain (shownName operand ++ ": " ++ e.text)
    let done := c.perform act
    let copies := o.operands.filterMap fun operand =>
      ((("-", 1) :: streams).lookup operand).map fun descriptor => (descriptor, c.input)
    let complaints := if c.ended then done.writes else []
    ⟨(1, c.input) :: copies ++ complaints, done.files, if c.ended then
      (match done.next with
        | .done status _ => .done status 0
        | next => next) else .more⟩

end NativeBuild.Machine.Call
