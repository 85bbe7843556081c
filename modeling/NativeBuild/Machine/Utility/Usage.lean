import NativeBuild.Machine.Pattern
import NativeBuild.Machine.Utility.Amount
import NativeBuild.Machine.Utility.Listing

/-
  The room that files take: `du` adds up what is in directories, and tells it for each directory,
  for each file, or for each operand. A file that has been counted is not counted again under
  another name.
-/

namespace NativeBuild.Machine.Call

/-- How amounts of room are shown: in parts of a size with something behind them, or with a letter
for what fits best. -/
inductive RoomUnit where
  | parts (size : Nat) (ending : String)
  | fitting (base : Nat)
  deriving Repr, DecidableEq

/-- An amount in a unit, rounded up. -/
def RoomUnit.shown (u : RoomUnit) (n : Nat) : String :=
  match u with
  | parts size ending => toString ((n + size - 1) / size) ++ ending
  | fitting base => humanSize base n

/-- The unit that a text names. A unit without a number stands behind the amounts. -/
def readRoomUnit (text : String) : Except AmountFault RoomUnit :=
  let cs := text.toList.dropWhile (· == '\'')
  let text := String.ofList cs
  if text ≠ "" ∧ "human-readable".startsWith text then .ok (.fitting 1024)
  else if text = "si" then .ok (.fitting 1000)
  else
    match amount? "EGgkKMmPTtYZ0" text with
    | .error fault => .error fault
    | .ok 0 => .error .invalid
    | .ok size =>
      if cs.any Char.isDigit then .ok (.parts size "")
      else
        let letter := cs.headD 'K'
        let isDecimal := cs.drop 1 == ['B'] || cs.drop 1 == ['D']
        let shown := if isDecimal ∧ letter.toUpper = 'K' then 'k' else letter.toUpper
        .ok (.parts size (String.ofList (shown :: if isDecimal then ['B'] else cs.drop 1)))

/-- The unit of amounts when no option names one. -/
def usualUnit (c : Call) (own : List String) : RoomUnit :=
  let named := (own ++ ["BLOCK_SIZE", "BLOCKSIZE"]).findSome? c.environment.get?
  match named.map readRoomUnit with
  | some (.ok unit) => unit
  | _ => .parts (if (c.environment.get? "POSIXLY_CORRECT").isSome then 512 else 1024) ""

/-- What is counted and told. -/
structure UsageStyle where
  showsFiles : Bool := false
  /-- Directories farther below are not told. -/
  depth : Option Nat := none
  /-- What is counted is the size that files show, or the files themselves. -/
  bySize : Bool := false
  byNumber : Bool := false
  countsAgain : Bool := false
  /-- The sizes of directories are without those in them. -/
  isSeparate : Bool := false
  followsAll : Bool := false
  followsStarts : Bool := false
  /-- Every file is remembered, and not only those with several names. -/
  remembersAll : Bool := false
  least : Int := 0
  unit : RoomUnit := .parts 1024 ""
  ending : Char := '\n'
  excluded : List String := []

/-- What has been counted. -/
structure Usage where
  /-- The numbers of the files. -/
  seen : List Nat := []
  total : Nat := 0

/-- Counting files. -/
abbrev Counting := StateT Usage Work

namespace Counting

/-- A path is one that is passed over. -/
def isExcluded (s : UsageStyle) (path : String) : Bool :=
  let cs := path.toList
  let ends := (List.range (cs.length + 1)).filterMap fun k =>
    if k = 0 ∨ (cs[k - 1]? = some '/' ∧ cs[k]? ≠ some '/') then some (cs.drop k) else none
  s.excluded.any fun pattern => ends.any fun tail => matchesPattern pattern.toList tail

/-- Tells an amount. -/
def tell (s : UsageStyle) (amount : Nat) (name : String) : Counting Unit := do
  let isShown := if s.least < 0 then (amount : Int) ≤ -s.least else s.least ≤ (amount : Int)
  if isShown then
    (Work.print ((if s.byNumber then toString amount else s.unit.shown amount) ++ "\t" ++ name ++
      String.ofList [s.ending]) : Work Unit)

/-- What a file counts. -/
def ownAmount (s : UsageStyle) (e : Listed) : Nat :=
  if s.byNumber then 1 else if s.bySize then sizeOf e.node else e.room

/-- A file is counted if it is not passed over and has not been counted. -/
def isCounted (s : UsageStyle) (path : String) (e : Listed) : Counting Bool := do
  if isExcluded s path then return false
  if s.countsAgain ∨ (s.remembersAll = false ∧ (e.node.isDirectory = true ∨ e.names ≤ 1)) then return true
  let u ← get
  if u.seen.contains e.number then return false
  set { u with seen := e.number :: u.seen }
  return true

/-- Counts a file and all below it. What it gives counts in the directory that it is in, and in
those above. -/
def count (c : Call) (s : UsageStyle) : Nat → Nat → String → Bool → Counting (Nat × Nat)
  | 0, _, _, _ => return (0, 0)
  | fuel + 1, depth, path, follows => do
    let files ← (Work.files : Work FileTree)
    match c.statusIn files follows path with
    | .error e =>
      (c.complain ("cannot access " ++ quotedName path ++ ": " ++ e.text) : Work Unit)
      return (0, 0)
    | .ok st =>
      let e := listedAt files path st.place st.node
      unless ← isCounted s path e do return (0, 0)
      let own := ownAmount s e
      let isTold := depth == 0 || s.depth.all (depth ≤ ·)
      if e.node.isDirectory then
        let mut entries := 0
        let mut below := 0
        if files.permits st.place .read then
          for (name, _) in files.children st.place do
            let (ofEntry, ofThose) ← count c s fuel (depth + 1) (inDirectory path (inward name)) s.followsAll
            entries := entries + ofEntry
            below := below + ofThose
        else
          (c.complain ("cannot read directory " ++ quotedName path ++ ": " ++ Errno.accessDenied.text) :
            Work Unit)
        modify fun u => { u with total := u.total + own }
        if isTold then tell s (own + entries + if s.isSeparate then 0 else below) path
        return (if s.isSeparate then 0 else own, entries + below)
      else
        modify fun u => { u with total := u.total + own }
        if depth = 0 ∨ s.showsFiles ∧ isTold then tell s own path
        return (own, 0)

end Counting

/-- A path with at most one slash behind it. -/
def withOneSlash (path : String) : String :=
  let short := path.toList.reverse.dropWhile (· == '/')
  if path.length < short.length + 2 ∨ short = [] then path
  else String.ofList (short.reverse ++ ['/'])

/-- The patterns and the unit that options give, the last unit counting. -/
def usageUnit (c : Call) (o : Options) : RoomUnit :=
  o.given.foldl (fun unit (letter, value) =>
    match letter with
    | 'b' => .parts 1 ""
    | 'k' => .parts 1024 ""
    | 'm' => .parts (1024 * 1024) ""
    | 'h' => .fitting 1024
    | 'ι' => .fitting 1000
    | 'B' => (readRoomUnit value).toOption.getD unit
    | _ => unit) (c.usualUnit ["DU_BLOCK_SIZE"])

/-- Why an amount is refused that an option takes. -/
def refusedAmount (c : Call) (option value : String) : AmountFault → Progress
  | .invalid => c.fails 1 ("invalid " ++ option ++ " argument " ++ quotedText value)
  | .strange => c.fails 1 ("invalid suffix in " ++ option ++ " argument " ++ quotedText value)
  | .tooLarge => c.fails 1 (option ++ " argument " ++ quotedText value ++ " too large")

/-- The amount behind a sign. -/
def signedAmount (text : String) : Except AmountFault Int :=
  match text.toList with
  | '-' :: cs => (amount? "kKmMGTPEZY0" (String.ofList cs)).map fun n => -(n : Int)
  | _ => (amount? "kKmMGTPEZY0" text).map Int.ofNat

/-- Tells how much room files take. -/
def du (c : Call) : Progress :=
  let g : Grammar := {
    letters := "0abcd:hHklmst:xB:DLPSX:αβ:γ:δι"
    names := [("all", 'a'), ("apparent-size", 'α'), ("block-size", 'B'), ("bytes", 'b'),
      ("count-links", 'l'), ("dereference", 'L'), ("dereference-args", 'D'), ("exclude", 'β'),
      ("exclude-from", 'X'), ("files0-from", 'γ'), ("human-readable", 'h'), ("inodes", 'δ'),
      ("si", 'ι'), ("max-depth", 'd'), ("null", '0'), ("no-dereference", 'P'),
      ("one-file-system", 'x'), ("separate-dirs", 'S'), ("summarize", 's'), ("total", 'c'),
      ("threshold", 't')] }
  let refuse := fun (letter : Char) (value : String) => match letter with
    | 'B' =>
      match readRoomUnit value with
      | .ok _ => none
      | .error fault => some (c.refusedAmount "-B" value fault)
    | 't' =>
      match signedAmount value with
      | .ok n =>
        if n = 0 ∧ value.toList.head? = some '-' then
          some (c.fails 1 ("invalid -t argument " ++ quotedText value))
        else none
      | .error fault => some (c.refusedAmount "-t" value fault)
    | _ => none
  c.withChecked 1 g refuse fun o =>
    let depths := o.given.filterMap fun (l, value) => if l = 'd' then some value else none
    let badDepths := depths.filter fun v => (natural? v.toList).isNone
    let depth := (depths.getLast?).bind fun v => natural? v.toList
    let last := o.last? ['L', 'P', 'D', 'H']
    let operands := if o.operands = [] then ["."] else o.operands.map withOneSlash
    if badDepths ≠ [] then
      c.ends 1 ((badDepths.map fun v => c.message ("invalid maximum depth " ++ quotedText v)) ++ [c.advice])
    else if o.has 'a' ∧ o.has 's' then c.misused 1 "cannot both summarize and show all entries"
    else if o.has 's' ∧ (depth.any fun n => n != 0) then
      c.misused 1 ("warning: summarizing conflicts with --max-depth=" ++ toString (depth.getD 0))
    else
      let s : UsageStyle := {
        showsFiles := o.has 'a', depth := if o.has 's' then some 0 else depth
        bySize := o.has 'b' || o.has 'α', byNumber := o.has 'δ', countsAgain := o.has 'l'
        isSeparate := o.has 'S', followsAll := last == some 'L'
        followsStarts := last == some 'L' || last == some 'D' || last == some 'H'
        remembersAll := 1 < operands.length || last == some 'L'
        least := ((o.value? 't').bind fun v => (signedAmount v).toOption).getD 0
        unit := c.usageUnit o, ending := if o.has '0' then '\x00' else '\n'
        excluded := o.given.filterMap fun (l, value) => if l = 'β' then some value else none }
      c.perform do
        if o.has 's' ∧ depth = some 0 then
          c.warn "warning: summarizing is the same as using --max-depth=0"
        let count : Counting Unit := operands.forM fun operand => do
          let _ ← Counting.count c s (c.files.entries.length + 50) 0 operand s.followsStarts
        let (_, u) ← (count.run {} : Work (Unit × Usage))
        if o.has 'c' then
          let (_, _) ← ((Counting.tell { s with least := 0 } u.total "total").run {} : Work (Unit × Usage))

end NativeBuild.Machine.Call
