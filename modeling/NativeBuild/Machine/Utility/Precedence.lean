import NativeBuild.Machine.Utility.Call

/-
  An order in which everything comes behind what it depends on. Where there is none, `tsort` names a
  loop and takes one of its relations away.
-/

namespace NativeBuild.Machine.Call

/-- Something that is put in order. -/
structure Ranked where
  name : List UInt8
  /-- How many relations say that something has to come before it. -/
  count : Nat := 0
  /-- What has to come behind it, the newest relation first. -/
  successors : List (List UInt8) := []
  isDone : Bool := false
  /-- The next one on the way back from it, where a loop is looked for. -/
  link : Option (List UInt8) := none

/-- All that is put in order, by name. -/
abbrev Ranking := List Ranked

namespace Ranking

/-- The one of a name. -/
def get? (r : Ranking) (name : List UInt8) : Option Ranked := r.find? (·.name == name)

/-- Changes the one of a name. -/
def change (r : Ranking) (name : List UInt8) (f : Ranked → Ranked) : Ranking :=
  r.map fun x => if x.name == name then f x else x

/-- One more, in its place. -/
def insert (name : List UInt8) : Ranking → Ranking
  | [] => [{ name := name }]
  | x :: rest =>
    if x.name = name then x :: rest
    else if name.map UInt8.toNat < x.name.map UInt8.toNat then { name := name } :: x :: rest
    else x :: insert name rest

/-- One comes before another. -/
def relate (r : Ranking) (a b : List UInt8) : Ranking :=
  let r := insert b (insert a r)
  if a = b then r
  else (r.change b fun x => { x with count := x.count + 1 }).change a fun x =>
    { x with successors := b :: x.successors }

/-- Takes those off a queue that nothing has to come before, one after the other. -/
def release : Nat → List (List UInt8) → Ranking → List (List UInt8) → Ranking × List (List UInt8)
  | 0, _, r, out => (r, out)
  | _, [], r, out => (r, out)
  | fuel + 1, name :: queue, r, out =>
    let successors := ((r.get? name).map (·.successors)).getD []
    let r := r.change name fun x => { x with isDone := true }
    let (r, freed) := successors.foldl (fun ((r, freed) : Ranking × List (List UInt8)) s =>
      let r := r.change s fun x => { x with count := x.count - 1 }
      (r, if ((r.get? s).map (·.count)) == some 0 then s :: freed else freed)) (r, [])
    release fuel (queue ++ freed.reverse) r (name :: out)

/-- The names on the way of links from one on, up to another. -/
def wayTo (r : Ranking) (last : List UInt8) : Nat → List UInt8 → List (List UInt8)
  | 0, _ => []
  | fuel + 1, name =>
    if name = last then [name]
    else match (r.get? name).bind (·.link) with
      | some next => name :: wayTo r last fuel next
      | none => [name]

/-- Goes through all once, to find a loop that leads to a place; in the end the loop, or where the
way has got to. -/
def searchLoop (r : Ranking) : List Ranked → Option (List UInt8) →
    Ranking × Option (List UInt8) × Option (List (List UInt8))
  | [], head => (r, head, none)
  | k :: rest, head =>
    match r.get? k.name, head with
    | some k, none => searchLoop r rest (if 0 < k.count then some k.name else none)
    | some k, some goal =>
      if k.count = 0 ∨ !k.successors.contains goal then searchLoop r rest head
      else if k.link.isSome then
        let loop := wayTo r k.name (r.length + 1) goal
        let r := r.change goal fun x => { x with count := x.count - 1 }
        let r := r.change k.name fun x => { x with successors := x.successors.erase goal }
        (r.map fun x => { x with link := none }, none, some loop)
      else searchLoop (r.change k.name fun x => { x with link := some goal }) rest (some k.name)
    | none, _ => searchLoop r rest head

/-- Finds a loop and breaks it. -/
def breakLoop : Nat → Ranking → Option (List UInt8) → Ranking × List (List UInt8)
  | 0, r, _ => (r, [])
  | fuel + 1, r, head =>
    match searchLoop r r head with
    | (r, _, some loop) => (r, loop)
    | (r, head, none) => breakLoop fuel r head

/-- Puts all in order: the names in it, and the loops that were broken, in the order of events. -/
def ordered : Nat → Ranking → List (Bool × List (List UInt8))
  | 0, _ => []
  | fuel + 1, r =>
    let free := (r.filter fun x => x.count == 0 && !x.isDone).map (·.name)
    let (r, out) := r.release (r.length + 1) free []
    if r.all (·.isDone) then [(true, out.reverse)]
    else
      let (r, loop) := breakLoop (2 * r.length + 2) r none
      (true, out.reverse) :: (false, loop) :: ordered fuel r

end Ranking

/-- Puts words in an order that their relations allow. -/
def tsort (c : Call) : Progress :=
  c.withOptions 1 { letters := "" } fun o =>
    match o.operands with
    | _ :: extra :: _ => c.misused 1 ("extra operand " ++ quotedText extra)
    | operands =>
      let name := operands.headD "-"
      let (contents, complete) := c.load [name]
      match contents.findSome? fun (_, content) => content.fault? with
      | some text =>
        c.fails 1 (shownName name ++ ": " ++
          (if text = Errno.isDirectory.text then "read error: " else "") ++ text)
      | none =>
        if complete = false then c.waits []
        else
          let data := contents.flatMap fun (_, content) => content.data
          let words := (piecesAt (fun b => b == 32 || b == 9 || b == 10) data).filter (· ≠ [])
          if words.length % 2 = 1 then
            c.fails 1 (shownName name ++ ": input contains an odd number of tokens")
          else
            let ranking := (inGroups 2 words.length words).foldl (fun (r : Ranking) pair =>
              r.relate (pair.headD []) (pair.getLastD [])) []
            let relations := total (ranking.map fun x => x.successors.length)
            let events := ranking.ordered (relations + 1)
            let writes := events.flatMap fun (isOutput, names) =>
              if isOutput then names.map fun n => (1, n ++ [10])
              else c.message (shownName name ++ ": input contains a loop:") ::
                names.map fun n => (2, toBytes (c.title ++ ": ").toList ++ n ++ [10])
            c.ends (if events.any fun e => !e.1 then 1 else 0) writes

end NativeBuild.Machine.Call
