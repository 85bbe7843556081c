import NativeBuild.Machine.Utility.Amount

/-
  Lines and the columns in them: `cut` takes parts out, `paste` puts lines next to each other, `fold`
  breaks them, `expand` and `unexpand` change between tabs and blanks, and `nl` numbers them.
-/

namespace NativeBuild.Machine.Call

/-- What a reader of places has seen of a list. -/
structure PlaceReading where
  ranges : List (Nat × Option Nat) := []
  first : Nat := 1
  value : Nat := 0
  isRange : Bool := false
  hasLeft : Bool := false
  hasRight : Bool := false
  /-- The number that is being read. -/
  digits : List Char := []

/-- The complaints about a list of fields, or of other places. -/
def placeWords (fields : Bool) (ofFields ofPlaces : String) : String :=
  if fields then ofFields else ofPlaces

/-- Numbers of places begin with one. -/
def zeroPlace (fields : Bool) : String :=
  placeWords fields "fields are numbered from 1" "byte/character positions are numbered from 1"

/-- Ends a member of a list. -/
def endMember (fields : Bool) (p : PlaceReading) : Except String PlaceReading :=
  if p.isRange then
    if p.hasLeft = false ∧ p.hasRight = false then .error "invalid range with no endpoint: -"
    else if p.hasRight = false then .ok { ranges := (p.first, none) :: p.ranges }
    else if p.value < p.first then .error "invalid decreasing range"
    else .ok { ranges := (p.first, some p.value) :: p.ranges }
  else if p.value = 0 then .error (zeroPlace fields)
  else .ok { ranges := (p.value, some p.value) :: p.ranges }

/-- Reads a list of places. -/
def readPlaces (fields : Bool) : List Char → PlaceReading → Except String (List (Nat × Option Nat))
  | [], p => (endMember fields p).map fun p => p.ranges.reverse
  | ch :: rest, p =>
    if ch = '-' then
      if p.isRange then
        .error (placeWords fields "invalid field range" "invalid byte or character range")
      else if p.hasLeft ∧ p.value = 0 then .error (zeroPlace fields)
      else readPlaces fields rest { p with
        isRange := true, first := if p.hasLeft then p.value else 1, value := 0, digits := [] }
    else if ch = ',' ∨ ch = ' ' ∨ ch = '\t' then
      match endMember fields p with
      | .error text => .error text
      | .ok p => readPlaces fields rest p
    else if ch.isDigit then
      let value := p.value * 10 + digitValue ch
      let digits := if p.digits = [] then (ch :: rest).takeWhile Char.isDigit else p.digits
      if Nat.pow 2 64 - 1 ≤ value then
        .error (placeWords fields "field number " "byte/character offset " ++
          quotedText (String.ofList digits) ++ " is too large")
      else readPlaces fields rest { p with
        value := value, digits := digits, hasLeft := p.hasLeft || !p.isRange
        hasRight := p.hasRight || p.isRange }
    else
      .error (placeWords fields "invalid field value " "invalid byte/character position " ++
        quotedText (String.ofList (ch :: rest)))

/-- A place is in one of some ranges. -/
def inRanges (ranges : List (Nat × Option Nat)) (k : Nat) : Bool :=
  ranges.any fun (first, last) => first ≤ k && !(last.any (· < k))

/-- Ranges in order, those that share places made into one. -/
def mergeRanges (ranges : List (Nat × Option Nat)) : List (Nat × Option Nat) :=
  let sorted := ranges.mergeSort fun a b => a.1 ≤ b.1
  (sorted.foldl (fun (kept : List (Nat × Option Nat)) range =>
    match kept with
    | (first, last) :: more =>
      if last.any (· < range.1) then range :: kept
      else
        let both := match last, range.2 with
          | some a, some b => some (max a b)
          | _, _ => none
        (first, both) :: more
    | [] => [range]) []).reverse

/-- The places between ranges that are in order. -/
def gapsBetween : Nat → List (Nat × Option Nat) → List (Nat × Option Nat)
  | from1, [] => [(from1, none)]
  | from1, (first, last) :: rest =>
    let front := if from1 < first then [(from1, some (first - 1))] else []
    match last with
    | none => front
    | some last => front ++ gapsBetween (last + 1) rest

/-- Prints chosen fields or bytes of each line. -/
def cut (c : Call) : Progress :=
  let g : Grammar := {
    letters := "b:c:d:f:nszα:β"
    names := [("bytes", 'b'), ("characters", 'c'), ("fields", 'f'), ("delimiter", 'd'),
      ("only-delimited", 's'), ("output-delimiter", 'α'), ("complement", 'β'),
      ("zero-terminated", 'z')] }
  let refuse := fun (letter : Char) (value : String) =>
    if letter = 'd' ∧ 1 < (toBytes value.toList).length then
      some (c.misused 1 "the delimiter must be a single character")
    else none
  c.withChecked 1 g refuse fun o =>
    let lists := o.given.filter fun (l, _) => ['b', 'c', 'f'].contains l
    match lists with
    | _ :: _ :: _ => c.misused 1 "only one list may be specified"
    | [] => c.misused 1 "you must specify a list of bytes, characters, or fields"
    | [(kind, text)] =>
      let fields := kind == 'f'
      if !fields ∧ o.has 'd' then
        c.misused 1 "an input delimiter may be specified only when operating on fields"
      else if !fields ∧ o.has 's' then
        c.misused 1
          "suppressing non-delimited lines makes sense\n\tonly when operating on fields"
      else
        match readPlaces fields text.toList {} with
        | .error text => c.misused 1 text
        | .ok ranges =>
          let ranges := mergeRanges ranges
          let ranges := if o.has 'β' then gapsBetween 1 ranges else ranges
          let stop : UInt8 := if o.has 'z' then 0 else 10
          let byteOf := fun (text : String) => (toBytes text.toList).headD 0
          let separator := byteOf ((o.value? 'd').getD "\t")
          let given := (o.value? 'α').map fun text =>
            if text = "" then [0] else toBytes text.toList
          let joiner := given.getD [separator]
          let partsOf := fun (items : List (List UInt8)) => ranges.filterMap fun (first, last) =>
            let taken := match last with
              | some last => (items.take last).drop (first - 1)
              | none => items.drop (first - 1)
            if taken = [] then none else some taken
          let shorten := fun (line : List UInt8) =>
            if fields then
              let pieces := piecesAt (· == separator) line
              if pieces.length ≤ 1 then (if o.has 's' then none else some line)
              else some (List.intercalate joiner (partsOf pieces).flatten)
            else
              let parts := (partsOf (line.map ([·]))).map List.flatten
              some (List.intercalate (given.getD []) parts)
          let (contents, complete) := c.load o.operands
          let writes := contents.map fun (name, content) => match content.fault? with
            | none => (1, unlines ((linesOf complete content.data stop).1.filterMap shorten) false stop)
            | some text => c.message (shownName name ++ ": " ++ text)
          let failed := contents.any fun (_, content) => content.fault?.isSome
          if complete then c.ends (if failed then 1 else 0) writes else c.waits writes

/-- The delimiters of `paste`, which may be empty. -/
def readDelimiters : List Char → Option (List (List UInt8))
  | [] => some []
  | ['\\'] => none
  | '\\' :: c :: rest =>
    let known := [('0', []), ('b', [8]), ('f', [12]), ('n', [10]), ('r', [13]), ('t', [9]), ('v', [11])]
    (readDelimiters rest).map (((known.lookup c).getD (toBytes [c])) :: ·)
  | c :: rest => (readDelimiters rest).map (toBytes [c] :: ·)

/-- Pieces with delimiters between them, which are used in turn. -/
def alternate (delimiters : List (List UInt8)) (pieces : List (List UInt8)) : List UInt8 :=
  (pieces.zipIdx.map fun (piece, k) =>
    if k = 0 then piece
    else delimiters.getD ((k - 1) % delimiters.length) [] ++ piece).flatten

/-- The next lines of sources, one after the other; two sources of one number share their lines. -/
def takeRow (lines : List (List (List UInt8))) : List Nat → List (Option (List UInt8)) ×
    List (List (List UInt8))
  | [] => ([], lines)
  | k :: rest =>
    let line := (lines.getD k []).head?
    let (row, lines) := takeRow (lines.modify k (List.drop 1)) rest
    (line :: row, lines)

/-- All rows that can be taken. -/
def takeRows (sources : List Nat) : Nat → List (List (List UInt8)) →
    List (List (Option (List UInt8)))
  | 0, _ => []
  | fuel + 1, lines =>
    let (row, lines) := takeRow lines sources
    if row.all Option.isNone then [] else row :: takeRows sources fuel lines

/-- Puts the lines of files next to each other, or those of each file on one line. -/
def paste (c : Call) : Progress :=
  let g : Grammar := {
    letters := "d:sz"
    names := [("serial", 's'), ("delimiters", 'd'), ("zero-terminated", 'z')] }
  c.withOptions 1 g fun o =>
    let text := (o.value? 'd').getD "\t"
    match readDelimiters (if text = "" then ['\\', '0'] else text.toList) with
    | none => c.fails 1 ("delimiter list ends with an unescaped backslash: " ++ text)
    | some delimiters =>
      let operands := if o.operands = [] then ["-"] else o.operands
      let (contents, complete) := c.load operands
      let opening := contents.filterMap fun (name, content) => match content.fault? with
        | some text =>
          if text = Errno.isDirectory.text ∨ isInput name then none
          else some (c.message (shownName name ++ ": " ++ text))
        | none => none
      let reading := contents.filterMap fun (name, content) => content.fault?.map fun text =>
        c.message (shownName name ++ ": " ++ text)
      if o.has 's' = false ∧ opening ≠ [] then c.ends 1 (opening.take 1)
      else if complete = false then c.waits []
      else
        let stop : UInt8 := if o.has 'z' then 0 else 10
        let status := if reading = [] then 0 else 1
        if o.has 's' then
          let (writes, _) := contents.foldl (fun (writes, taken) (name, content) =>
            match content.fault? with
            | some text =>
              let line := if text = Errno.isDirectory.text then [(1, [stop])] else []
              (writes ++ c.message (shownName name ++ ": " ++ text) :: line, taken)
            | none =>
              let data := if isInput name && taken then [] else content.data
              let line := alternate delimiters (linesOf true data stop).1
              (writes ++ [(1, line ++ [stop])], taken || isInput name))
            (([] : List (Nat × List UInt8)), false)
          c.ends status writes
        else
          let lines := contents.map fun (_, content) => (linesOf true content.data stop).1
          let input := operands.idxOf "-"
          let sources := operands.zipIdx.map fun (name, k) => if name = "-" then input else k
          let fuel := total (lines.map List.length) + 1
          let rows := (takeRows sources fuel lines).map fun row =>
            alternate delimiters (row.map (·.getD []))
          c.ends status (reading ++ [(1, unlines rows false stop)])

/-- The column behind a byte. -/
def columnBehind (bytewise : Bool) (column : Nat) (b : UInt8) : Nat :=
  if bytewise then column + 1
  else match b.toNat with
    | 8 => column - 1
    | 13 => 0
    | 9 => column + 8 - column % 8
    | _ => column + 1

/-- How lines are broken, and the line that is being written, its last byte first. -/
structure Folding where
  width : Nat
  bytewise : Bool
  atBlanks : Bool
  line : List UInt8 := []
  column : Nat := 0
  /-- What has been written, newest first. -/
  written : List (List UInt8) := []

namespace Folding

/-- Puts a byte on the line, and breaks it before if there is no room. -/
def put : Nat → UInt8 → Folding → Folding
  | 0, _, f => f
  | fuel + 1, b, f =>
    let column := columnBehind f.bytewise f.column b
    if column ≤ f.width then { f with line := b :: f.line, column := column }
    else
      let tail := f.line.takeWhile fun x => x != 32 && x != 9
      if f.atBlanks ∧ tail.length < f.line.length then
        let f := { f with
          written := [10] :: (f.line.drop tail.length).reverse :: f.written, line := tail
          column := tail.reverse.foldl (columnBehind f.bytewise) 0 }
        put fuel b f
      else if f.line = [] then { f with line := [b], column := column }
      else put fuel b { f with
        written := [10] :: f.line.reverse :: f.written, line := [], column := 0 }

/-- Writes bytes. -/
def run (f : Folding) (bytes : List UInt8) : List UInt8 :=
  let f := bytes.foldl (fun (f : Folding) b =>
    if b = 10 then { f with written := (10 :: f.line).reverse :: f.written, line := [], column := 0 }
    else f.put (f.line.length + 3) b) f
  (f.line.reverse :: f.written).reverse.flatten

end Folding

/-- Prints what files hold, changed, and complains about those that cannot be read. -/
def reshape (c : Call) (operands : List String) (change : List UInt8 → List UInt8)
    (complaint : String → String → String) : Progress :=
  let (contents, complete) := c.load operands
  if complete = false then c.waits []
  else
    let writes := contents.map fun (name, content) => match content.fault? with
      | none => (1, change content.data)
      | some text => c.message (complaint name text)
    let failed := contents.any fun (_, content) => content.fault?.isSome
    c.ends (if failed then 1 else 0) writes

/-- A name with what is wrong about it. -/
def namedFault (name text : String) : String := shownName name ++ ": " ++ text

/-- Breaks long lines. -/
def fold (c : Call) : Progress :=
  let g : Grammar := {
    letters := "bsw:0123456789", names := [("bytes", 'b'), ("spaces", 's'), ("width", 'w')] }
  let arguments := c.arguments.map fun a => match a.toList with
    | '-' :: d :: ds => if d.isDigit then "-w" ++ String.ofList (d :: ds) else a
    | _ => a
  let refuse := fun (letter : Char) (value : String) =>
    if letter ≠ 'w' then none
    else match amount? "" value with
      | .ok 0 => some (c.fails 1 ("invalid number of columns: " ++ quotedText value ++
          ": Numerical result out of range"))
      | .ok _ => none
      | .error fault => some (c.refusesAmount 1 "invalid number of columns" value fault)
  ({ c with arguments := arguments } : Call).withChecked 1 g refuse fun o =>
    let width := ((o.value? 'w').bind fun v => (amount? "" v).toOption).getD 80
    let f : Folding := { width := width, bytewise := o.has 'b', atBlanks := o.has 's' }
    c.reshape o.operands f.run namedFault

/-- Places of tabs: a list, and then a distance to go on with. -/
structure TabStops where
  list : List Nat := []
  /-- Behind the list: a stop at every multiple, or counted from the last one of the list. -/
  step : Option Nat := none
  extends1 : Bool := false

namespace TabStops

/-- The next stop behind a column. -/
def next? (t : TabStops) (column : Nat) : Option Nat :=
  match t.list, t.step with
  | [], step =>
    let n := step.getD 8
    some (column + n - column % n)
  | list, step =>
    match list.find? (column < ·), step with
    | some stop, _ => some stop
    | none, some n =>
      let last := if t.extends1 then list.getLastD 0 else 0
      some (column + n - (column - last) % n)
    | none, none => none

/-- Reads a list of places. -/
def read (text : String) (t : TabStops) : Except String TabStops :=
  let pieces := (piecesAt (fun c => c == ',' || c == ' ' || c == '\t') text.toList).filter (· ≠ [])
  pieces.foldlM (fun (t : TabStops) piece =>
    match piece with
    | '/' :: digits => match natural? digits with
      | some n => .ok { t with step := some n }
      | none => .error ("tab size contains invalid character(s): " ++ quotedText (String.ofList digits))
    | '+' :: digits => match natural? digits with
      | some n => .ok { t with step := some n, extends1 := true }
      | none => .error ("tab size contains invalid character(s): " ++ quotedText (String.ofList digits))
    | digits => match natural? digits with
      | some n => .ok { t with list := t.list ++ [n] }
      | none => .error ("tab size contains invalid character(s): " ++
          quotedText (String.ofList (digits.dropWhile Char.isDigit)))) t

/-- The stops that were given, if they go up from one on. -/
def finish (t : TabStops) : Except String TabStops :=
  if t.list.any (· == 0) ∨ t.step = some 0 ∧ t.list = [] then .error "tab size cannot be 0"
  else if (t.list.zip (t.list.drop 1)).any fun (a, b) => b ≤ a then
    .error "tab sizes must be ascending"
  else
    match t.list, t.step with
    | [n], none => .ok { step := some n }
    | _, some 0 => .ok { t with step := none }
    | _, _ => .ok t

end TabStops

/-- A line with its tabs made into blanks. -/
def expandLine (t : TabStops) (initialOnly : Bool) (line : List UInt8) : List UInt8 :=
  (line.foldl (fun ((taken, column, converts) : List UInt8 × Nat × Bool) b =>
    if converts && b == 9 then
      let next := (t.next? column).getD (column + 1)
      (List.replicate (next - column) 32 ++ taken, next, converts)
    else if b = 8 then (b :: taken, column - 1, converts && (!initialOnly || b == 32))
    else (b :: taken, column + 1, converts && (!initialOnly || b == 32))) ([], 0, true)).1.reverse

/-- A line whose blanks are made into tabs: what has been written, last byte first, and blanks that
may still become a tab. -/
structure Tabbing where
  stops : TabStops
  initialOnly : Bool
  written : List UInt8 := []
  pending : List UInt8 := []
  column : Nat := 0
  converts : Bool := true
  afterBlank : Bool := true
  /-- The first blank that waits stands right in front of a stop. -/
  atStop : Bool := false

namespace Tabbing

/-- The first of the blanks that wait becomes a tab. -/
def withTab (pending : List UInt8) : List UInt8 :=
  match pending with
  | [] => []
  | _ :: rest => 9 :: rest

/-- Writes what waits, and then a byte. -/
def write (b : UInt8) (isBlank : Bool) (t : Tabbing) : Tabbing :=
  let waiting := if 1 < t.pending.length && t.atStop then withTab t.pending else t.pending
  { t with
    written := b :: waiting.reverse ++ t.written, pending := []
    atStop := t.atStop && t.pending == [], afterBlank := isBlank
    converts := t.converts && (!t.initialOnly || isBlank) }

/-- Takes a byte. -/
def put (t : Tabbing) (b : UInt8) : Tabbing :=
  if !t.converts then { t with written := b :: t.written }
  else if b = 32 ∨ b = 9 then
    match t.stops.next? t.column with
    | none => { t with converts := false }.write b true
    | some next =>
      let kept := fun (t : Tabbing) => { t with pending := t.pending.take t.atStop.toNat }
      if b = 9 then (kept { t with column := next, pending := withTab t.pending }).write 9 true
      else
        let t := { t with column := t.column + 1 }
        if t.afterBlank && t.column == next then
          (kept { t with pending := withTab (if t.pending = [] then [] else t.pending) }).write 9 true
        else { t with
          atStop := t.atStop || t.column == next, pending := t.pending ++ [b], afterBlank := true }
  else if b = 8 then { t with column := t.column - 1 }.write b false
  else { t with column := t.column + 1 }.write b false

/-- A line with its blanks made into tabs. -/
def line (t : Tabbing) (bytes : List UInt8) : List UInt8 :=
  let t := bytes.foldl put t
  let waiting := if 1 < t.pending.length && t.atStop then withTab t.pending else t.pending
  (waiting.reverse ++ t.written).reverse

end Tabbing

/-- The tab stops of a call. -/
def tabStops (o : Options) : Except String TabStops :=
  let texts := o.given.filterMap fun (l, value) =>
    if l = 't' then some value else if l.isDigit then some (String.ofList [l]) else none
  match texts.foldlM (fun t text => TabStops.read text t) {} with
  | .error text => .error text
  | .ok t => t.finish

/-- Arguments of which those with digits behind a dash are lists of tab stops. -/
def tabArguments (arguments : List String) : List String :=
  arguments.map fun a => match a.toList with
    | '-' :: d :: ds =>
      if d.isDigit ∧ ds.all (fun x => x.isDigit || x == ',') then "-t" ++ String.ofList (d :: ds) else a
    | _ => a

/-- Makes tabs into blanks. -/
def expand (c : Call) : Progress :=
  let g : Grammar := { letters := "it:", names := [("tabs", 't'), ("initial", 'i')] }
  ({ c with arguments := tabArguments c.arguments } : Call).withOptions 1 g fun o =>
    match tabStops o with
    | .error text => c.fails 1 text
    | .ok t =>
      c.reshape o.operands (fun data =>
        let (lines, lacksEnd) := linesOf true data
        unlines (lines.map (expandLine t (o.has 'i'))) lacksEnd) namedFault

/-- Makes blanks into tabs. -/
def unexpand (c : Call) : Progress :=
  let g : Grammar := {
    letters := "at:α", names := [("tabs", 't'), ("all", 'a'), ("first-only", 'α')] }
  ({ c with arguments := tabArguments c.arguments } : Call).withOptions 1 g fun o =>
    match tabStops o with
    | .error text => c.fails 1 text
    | .ok t =>
      let all := (o.has 'a' || o.has 't') && !o.has 'α'
      c.reshape o.operands (fun data =>
        let (lines, lacksEnd) := linesOf true data
        unlines (lines.map ({ stops := t, initialOnly := !all } : Tabbing).line) lacksEnd) namedFault

end NativeBuild.Machine.Call
