import NativeBuild.Machine.Pattern
import NativeBuild.Machine.Utility.Amount

/-
  Paragraphs: `fmt` breaks their lines anew. Each way to break a paragraph has a cost: lines should
  come near to a width, lines that follow each other should be alike in length, and a sentence
  should not lose its first or its last word to another line. The cheapest way is found from the
  end of the paragraph on.
-/

namespace NativeBuild.Machine.Call

/-- A word with what matters for breaks near it. -/
structure Worded where
  text : List UInt8
  /-- The blanks behind it. -/
  space : Nat := 0
  /-- It opens a bracket or a quotation. -/
  opens : Bool := false
  /-- It ends with a mark of some kind, or with one that may end a sentence. -/
  hasMark : Bool := false
  hasPeriod : Bool := false
  /-- It ends a sentence. -/
  isLast : Bool := false

/-- A word for some bytes. -/
def Worded.of (text : List UInt8) : Worded :=
  let cs := ofBytes text
  let inside := (cs.drop 1).reverse.dropWhile (")]'\"".toList.contains ·)
  let ending := inside.head?.or cs.head?
  { text := text
    opens := cs.head?.any ("(['\x60\"".toList.contains ·)
    hasMark := cs.getLast?.any isPunctuation
    hasPeriod := ending.any (".?!".toList.contains ·) }

/-- The square of ten times a difference: what a line costs that misses the goal by it. -/
def missCost (n : Int) : Int := n * 10 * (n * 10)

/-- What two lines cost that differ in length. -/
def raggedCost (n : Int) : Int := missCost n / 2

/-- How a paragraph is broken from each of its words on. -/
structure Breaks where
  /-- What the lines from a word on cost, the word behind the line that begins with it, and how long
  that line is. -/
  costs : Array Int
  nexts : Array Nat
  lengths : Array Int

/-- What is wanted of paragraphs. -/
structure ParagraphStyle where
  width : Nat := 75
  goal : Nat := 70
  /-- The first line has an indent of its own, told by the second line, or only if they differ. -/
  isCrown : Bool := false
  isTagged : Bool := false
  onlySplits : Bool := false
  isUniform : Bool := false
  /-- What lines begin with, the blanks before it, and its length with the blanks behind it. -/
  front : List UInt8 := []
  frontBlanks : Nat := 0
  frontWidth : Nat := 0

/-- What has been read and written of paragraphs. -/
structure Paragraphs where
  rest : List UInt8
  /-- The column that has been read up to. -/
  column : Nat := 0
  hasTabs : Bool := false
  /-- The columns at which the front of the line that comes next and that of the paragraph stand. -/
  nextFront : Nat := 0
  front : Nat := 0
  /-- The indents of the first line and of the others. -/
  first : Nat := 0
  other : Nat := 0
  words : Array Worded := #[]
  /-- How many bytes the words have. -/
  bytes : Nat := 0
  lastLength : Nat := 0
  outColumn : Nat := 0
  /-- What is written, newest first. -/
  written : List (List UInt8) := []

namespace Paragraphs

/-- The most bytes and words of a paragraph that is broken as a whole. -/
def byteLimit : Nat := 5000

/-- The most words of a paragraph that is broken as a whole. -/
def wordLimit : Nat := 998

/-- Writes bytes. -/
def write (bytes : List UInt8) (p : Paragraphs) : Paragraphs :=
  { p with written := bytes :: p.written }

/-- Writes blanks, with tabs among them if there were some. -/
def writeSpace (count : Nat) (p : Paragraphs) : Paragraphs :=
  let target := p.outColumn + count
  let stop := target / 8 * 8
  let tabs := if p.hasTabs ∧ p.outColumn + 1 < stop then stop / 8 - p.outColumn / 8 else 0
  let column := if tabs = 0 then p.outColumn else stop
  { p with
    written := (List.replicate tabs 9 ++ List.replicate (target - column) 32) :: p.written
    outColumn := target }

/-- Reads blanks. -/
def readSpace (p : Paragraphs) : Paragraphs :=
  let blanks := p.rest.takeWhile fun b => b == 32 || b == 9
  { p with
    rest := p.rest.drop blanks.length
    hasTabs := p.hasTabs || blanks.contains 9
    column := blanks.foldl (fun column b => if b = 9 then (column / 8 + 1) * 8 else column + 1) p.column }

/-- How many items two lists have in common at their beginnings. -/
def commonLength : List UInt8 → List UInt8 → Nat
  | a :: as, b :: bs => if a = b then commonLength as bs + 1 else 0
  | _, _ => 0

/-- Reads the front of a line. -/
def readFront (s : ParagraphStyle) (p : Paragraphs) : Paragraphs :=
  let p := { p with column := 0 }.readSpace
  if s.front = [] then { p with nextFront := min s.frontBlanks p.column }
  else
    let shared := commonLength s.front p.rest
    let p := { p with
      nextFront := p.column, column := p.column + shared, rest := p.rest.drop shared }
    if shared < s.front.length then p else p.readSpace

/-- The line is over here. -/
def atEnd (p : Paragraphs) : Bool := p.rest.head?.all (· == 10)

/-- The line that comes next may belong to the paragraph. -/
def continues (s : ParagraphStyle) (p : Paragraphs) : Bool :=
  p.nextFront == p.front && p.nextFront + s.frontWidth ≤ p.column && !p.atEnd

/-- Settles the indent of the lines behind the first one. -/
def settleIndent (s : ParagraphStyle) (isSame : Bool) (p : Paragraphs) : Paragraphs :=
  { p with
    other := if s.onlySplits then p.first
      else if s.isCrown then (if isSame then p.column else p.first)
      else if s.isTagged then
        if isSame ∧ p.column ≠ p.first then p.column
        else if p.other = p.first then (if p.first = 0 then 3 else 0)
        else p.other
      else p.first }

/-- What a line costs whatever its length, for a break before a word. -/
def baseCost (words : Array Worded) (k : Nat) : Int :=
  let word := fun (i : Nat) => words.getD i { text := [] }
  let before : Int := if k = 0 then 0
    else
      let previous := word (k - 1)
      if previous.hasPeriod then (if previous.isLast then -2500 else 360000)
      else if previous.hasMark then -1600
      else if 1 < k ∧ (word (k - 2)).isLast = true then 40000 / ((previous.text.length : Int) + 2)
      else 0
  let here : Int := if (word k).opens then -1600
    else if (word k).isLast then 22500 / (((word k).text.length : Int) + 2) else 0
  4900 + before + here

/-- What a line costs by its length, for a break before a word. -/
def lineCost (s : ParagraphStyle) (count : Nat) (b : Breaks) (next : Nat) (length : Int) : Int :=
  if next = count then 0
  else
    missCost (s.goal - length) +
      if b.nexts.getD next 0 = count then 0 else raggedCost (length - b.lengths.getD next 0)

/-- The cheapest line that begins with a word: its cost, the word behind it, its length. -/
def bestLine (s : ParagraphStyle) (p : Paragraphs) (b : Breaks) (start : Nat) :
    Nat → Nat → Int → Option (Int × Nat × Int) → Option (Int × Nat × Int)
  | 0, _, _, best => best
  | fuel + 1, next, length, best =>
    let count := p.words.size
    let cost := lineCost s count b next length + b.costs.getD next 0 +
      if start = 0 ∧ 0 < p.lastLength then raggedCost (length - p.lastLength) else 0
    let best := match best with
      | some found => if cost < found.1 then some (cost, next, length) else best
      | none => some (cost, next, length)
    if next = count then best
    else
      let word := fun (i : Nat) => p.words.getD i { text := [] }
      let length := length + (word (next - 1)).space + (word next).text.length
      if length < s.width then bestLine s p b start fuel (next + 1) length best else best

/-- Finds the cheapest breaks of the words that have been read. -/
def breaks (s : ParagraphStyle) (p : Paragraphs) : Breaks :=
  let count := p.words.size
  let empty : Breaks := ⟨Array.replicate (count + 1) 0, Array.replicate (count + 1) 0,
    Array.replicate (count + 1) 0⟩
  (List.range count).foldl (fun (b : Breaks) k =>
    let start := count - 1 - k
    let indent : Int := if start = 0 then p.first else p.other
    let length := indent + (p.words.getD start { text := [] }).text.length
    match bestLine s p b start (count + 1) (start + 1) length none with
    | none => b
    | some (cost, next, length) =>
      { costs := b.costs.setIfInBounds start (cost + baseCost p.words start)
        nexts := b.nexts.setIfInBounds start next
        lengths := b.lengths.setIfInBounds start length }) empty

/-- Writes a line of words. -/
def writeLine (s : ParagraphStyle) (indent : Nat) (words : List Worded) (p : Paragraphs) : Paragraphs :=
  let p := ({ p with outColumn := 0 }.writeSpace p.front).write s.front
  let p := { p with outColumn := p.outColumn + s.front.length }
  let p := p.writeSpace (indent - p.outColumn)
  let p := words.zipIdx.foldl (fun (p : Paragraphs) (word, k) =>
    let p := { p.write word.text with outColumn := p.outColumn + word.text.length }
    if k + 1 < words.length then p.writeSpace word.space else p) p
  { p.write [10] with lastLength := p.outColumn }

/-- Writes the lines from a word up to another one. -/
def writeLines (s : ParagraphStyle) (b : Breaks) (stop : Nat) : Nat → Nat → Paragraphs → Paragraphs
  | 0, _, p => p
  | fuel + 1, start, p =>
    if stop ≤ start ∧ start ≠ 0 then p
    else
      let next := b.nexts.getD start stop
      let p := p.writeLine s (if start = 0 then p.first else p.other)
        ((p.words.toList.drop start).take (next - start))
      writeLines s b stop fuel next p

/-- The word up to which the lines are written when a paragraph is too long: the breaks before it
are not likely to become others. -/
def splitPoint (b : Breaks) (count : Nat) : Nat → Nat → Option Int → Nat → Nat
  | 0, _, _, found => found
  | fuel + 1, k, best, found =>
    if count ≤ k then found
    else
      let gain := b.costs.getD k 0 - b.costs.getD (b.nexts.getD k count) 0
      let better := best.all (gain < ·)
      let best := if better then some gain else best
      splitPoint b count fuel (b.nexts.getD k count) (best.map (· + 9)) (if better then k else found)

/-- Writes the first lines of a paragraph that is too long. -/
def relieve (s : ParagraphStyle) (p : Paragraphs) : Paragraphs :=
  let p := p.settleIndent s true
  let b := p.breaks s
  let count := p.words.size
  let point := splitPoint b count (count + 1) (b.nexts.getD 0 count) none count
  let q := p.writeLines s b point (count + 1) 0
  let kept := (q.words.toList.drop point).toArray
  { q with words := kept, bytes := total (kept.toList.map fun w => w.text.length) }

/-- Reads the bytes of a word into the paragraph. -/
def readWord (s : ParagraphStyle) : Nat → List UInt8 → Paragraphs → List UInt8 × Paragraphs
  | 0, taken, p => (taken.reverse, p)
  | fuel + 1, taken, p =>
    match p.rest with
    | [] => (taken.reverse, p)
    | c :: rest =>
      let isBlank := fun (b : UInt8) => isSpace (Char.ofNat b.toNat)
      let next := fun (taken : List UInt8) (p : Paragraphs) =>
        let p := { p with rest := rest }
        if rest.head?.all isBlank then ((c :: taken).reverse, p) else readWord s fuel (c :: taken) p
      if p.bytes + taken.length < byteLimit then next taken p
      else if p.words.size = 0 then next [] ((p.settleIndent s true).write taken.reverse)
      else next taken (p.relieve s)

/-- Reads the words of a line, and the front of the next one. -/
def readLine (s : ParagraphStyle) : Nat → Paragraphs → Paragraphs
  | 0, p => p
  | fuel + 1, p =>
    let (text, p) := readWord s (p.rest.length + 1) [] p
    let start := p.column + text.length
    let p := { p with column := start }.readSpace
    let word := Worded.of text
    let space := p.column - start
    let isLast : Bool := p.rest == [] || word.hasPeriod && (p.atEnd || decide (1 < space))
    let space := if p.atEnd ∨ s.isUniform = true then (if isLast then 2 else 1) else space
    let p := if p.words.size = wordLimit then p.relieve s else p
    let p := { p with
      words := p.words.push { word with space := space, isLast := isLast }
      bytes := p.bytes + text.length }
    if p.atEnd then { p with rest := p.rest.drop 1 }.readFront s else readLine s fuel p

/-- Reads lines while they belong to the paragraph. -/
def readLines (s : ParagraphStyle) : Nat → Paragraphs → Paragraphs
  | 0, p => p
  | fuel + 1, p =>
    if p.continues s ∧ p.column = p.other then readLines s fuel (p.readLine s (p.rest.length + 1)) else p

/-- Copies a line that belongs to no paragraph. -/
def copyLine (s : ParagraphStyle) (p : Paragraphs) : Paragraphs :=
  let p := { p with outColumn := 0 }
  let isOver := p.rest == []
  let p := if p.nextFront < p.column ∨ p.atEnd = false then
      let p := p.writeSpace p.nextFront
      let shown := s.front.take (p.column - p.outColumn)
      let p := { p.write shown with outColumn := p.outColumn + shown.length }
      let p := if p.atEnd then p else p.writeSpace (p.column - p.outColumn)
      if isOver ∧ p.nextFront + s.front.length ≤ p.column then p.write [10] else p
    else p
  let line := p.rest.takeWhile (· != 10)
  { p.write line with rest := p.rest.drop line.length }

/-- Breaks all paragraphs that are left. -/
def run (s : ParagraphStyle) : Nat → Paragraphs → Paragraphs
  | 0, p => p
  | fuel + 1, p =>
    if p.atEnd ∨ p.nextFront < s.frontBlanks ∨ p.column < p.nextFront + s.frontWidth then
      let p := { p with lastLength := 0 }.copyLine s
      if p.rest = [] then p
      else run s fuel ({ p.write [10] with rest := p.rest.drop 1 }.readFront s)
    else
      let p := { p with
        lastLength := 0, front := p.nextFront, first := p.column, words := #[], bytes := 0 }
      let size := p.rest.length + 1
      let p := p.readLine s size
      let p := p.settleIndent s (p.continues s)
      let p := if s.onlySplits then p
        else if s.isCrown then
          if p.continues s then (p.readLine s size).readLines s size else p
        else if s.isTagged then
          if p.continues s ∧ p.column ≠ p.first then (p.readLine s size).readLines s size else p
        else p.readLines s size
      let p := { p with
        words := p.words.modify (p.words.size - 1) fun w => { w with hasPeriod := true, isLast := true } }
      let b := p.breaks s
      run s fuel (p.writeLines s b p.words.size (p.words.size + 1) 0)

end Paragraphs

/-- The paragraphs of a content, broken anew. -/
def ParagraphStyle.broken (s : ParagraphStyle) (data : List UInt8) : List UInt8 :=
  let p := ({ rest := data } : Paragraphs).readFront s
  ((p.run s (2 * data.length + 2)).written.reverse).flatten

/-- The width that an option gives, if it is not too large. -/
def readWidth (c : Call) (most : Nat) (value : String) : Except Progress Nat :=
  match amount? "" value with
  | .error fault => .error (c.refusesAmount 1 "invalid width" value fault)
  | .ok n =>
    if most < n then
      .error (c.fails 1 ("invalid width: " ++ quotedText value ++ ": Numerical result out of range"))
    else .ok n

/-- Breaks the lines of paragraphs anew. -/
def fmt (c : Call) : Progress :=
  let g : Grammar := {
    letters := "0123456789cstuw:p:g:"
    names := [("crown-margin", 'c'), ("prefix", 'p'), ("split-only", 's'), ("tagged-paragraph", 't'),
      ("uniform-spacing", 'u'), ("width", 'w'), ("goal", 'g')] }
  let (old, arguments) := match c.arguments with
    | a :: rest =>
      match a.toList with
      | '-' :: d :: ds => if d.isDigit then (some (String.ofList (d :: ds)), rest) else (none, a :: rest)
      | _ => (none, a :: rest)
    | [] => (none, [])
  let refuse := fun (letter : Char) (_ : String) =>
    if letter.isDigit then
      some (c.misused 1 ("invalid option -- " ++ String.ofList [letter] ++
        "; -WIDTH is recognized only when it is the first\noption; use -w N instead"))
    else none
  ({ c with arguments := arguments } : Call).withChecked 1 g refuse fun o =>
    let asked := (o.value? 'w').or old
    let width := match asked with
      | some value => c.readWidth 2500 value
      | none => .ok 75
    match width with
    | .error refusal => refusal
    | .ok width =>
      let goal := match o.value? 'g' with
        | some value => c.readWidth width value
        | none => .ok (width * 187 / 200)
      match goal with
      | .error refusal => refusal
      | .ok goal =>
        let width := if o.has 'g' ∧ asked.isNone then goal + 10 else width
        let given := ((o.value? 'p').getD "").toList
        let bare := given.dropWhile (· == ' ')
        let front := (bare.reverse.dropWhile (· == ' ')).reverse
        let s : ParagraphStyle := {
          width := width, goal := goal, isCrown := o.has 'c', isTagged := o.has 't'
          onlySplits := o.has 's', isUniform := o.has 'u', front := toBytes front
          frontBlanks := given.length - bare.length, frontWidth := bare.length }
        let (contents, complete) := c.load o.operands
        if complete = false then c.waits []
        else
          let writes := contents.map fun (name, content) => match content.fault? with
            | none => (1, s.broken content.data)
            | some text =>
              if text = Errno.isDirectory.text ∨ isInput name = true then c.message "read error"
              else c.message ("cannot open " ++ quotedName name ++ " for reading: " ++ text)
          let failed := contents.any fun (_, content) => content.fault?.isSome
          c.ends (if failed then 1 else 0) writes

end NativeBuild.Machine.Call
