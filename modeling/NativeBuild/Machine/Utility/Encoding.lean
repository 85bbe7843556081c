import NativeBuild.Machine.Utility.Amount

/-
  Other writings of bytes, in digits of some bits each. The bits of a few bytes fill a group of
  digits, and what is missing of the last group is marked.
-/

namespace NativeBuild.Machine

/-- A writing of bytes. -/
structure Encoding where
  digits : List Char
  /-- How many bits a digit holds. -/
  bits : Nat
  /-- How many digits stand for whole bytes. -/
  group : Nat
  /-- The digit of the lowest bits comes first. -/
  lowFirst : Bool := false

namespace Encoding

/-- The capital letters. -/
def capitals : List Char := "ABCDEFGHIJKLMNOPQRSTUVWXYZ".toList

/-- All letters and the digits. -/
def letters : List Char := capitals ++ capitals.map Char.toLower ++ "0123456789".toList

/-- Base 64. -/
def base64 : Encoding := { digits := letters ++ ['+', '/'], bits := 6, group := 4 }

/-- Base 64 with digits that a name of a file may have. -/
def base64url : Encoding := { digits := letters ++ ['-', '_'], bits := 6, group := 4 }

/-- Base 32. -/
def base32 : Encoding := { digits := capitals ++ "234567".toList, bits := 5, group := 8 }

/-- Base 32 with digits in the order of their codes. -/
def base32hex : Encoding :=
  { digits := "0123456789".toList ++ capitals.take 22, bits := 5, group := 8 }

/-- Base 16. -/
def base16 : Encoding := { digits := "0123456789ABCDEF".toList, bits := 4, group := 2 }

/-- Base 2, from the highest bit on. -/
def base2 : Encoding := { digits := ['0', '1'], bits := 1, group := 8 }

/-- Base 2, from the lowest bit on. -/
def base2low : Encoding := { digits := ['0', '1'], bits := 1, group := 8, lowFirst := true }

/-- The bits of a byte, the highest first. -/
def bitsOf (b : UInt8) : List Bool := (List.range 8).map fun k => b.toNat.testBit (7 - k)

/-- The number that bits spell. -/
def ofBits (bits : List Bool) : Nat := bits.foldl (fun n b => 2 * n + b.toNat) 0

/-- A group of bytes in digits. -/
def encodeGroup (e : Encoding) (bytes : List UInt8) : List Char :=
  let bits := bytes.flatMap fun b => if e.lowFirst then (bitsOf b).reverse else bitsOf b
  let sextets := inGroups e.bits (bits.length + 1) bits
  let cs := sextets.map fun s =>
    e.digits.getD (ofBits (s ++ List.replicate (e.bits - s.length) false)) '?'
  cs ++ List.replicate (e.group - cs.length) '='

/-- Bytes in digits. -/
def encode (e : Encoding) (bytes : List UInt8) : List Char :=
  (inGroups (e.group * e.bits / 8) (bytes.length + 1) bytes).flatMap e.encodeGroup

/-- The bytes of a group of digits, and whether nothing is wrong with them. -/
def decodeGroup (e : Encoding) (cs : List Char) : List UInt8 × Bool :=
  let front := cs.takeWhile e.digits.contains
  let bits := front.flatMap fun c =>
    let n := (e.digits.idxOf? c).getD 0
    (List.range e.bits).map fun k => n.testBit (e.bits - 1 - k)
  let count := bits.length / 8
  let bytes := (inGroups 8 (count + 1) bits).take count
  let isWhole := cs.length = e.group ∧ cs.all fun c => c == '=' || e.digits.contains c
  -- No mark stands for a digit that the bytes do without.
  let isShort := front.length = (count * 8 + e.bits - 1) / e.bits ∧ 0 < count
  (bytes.map fun bits => (ofBits (if e.lowFirst then bits.reverse else bits)).toUInt8,
    decide (isWhole ∧ isShort) && (cs.drop front.length).all (· == '='))

/-- The bytes of digits, up to the first that is wrong, and whether none is. -/
def decode (e : Encoding) (cs : List Char) : List UInt8 × Bool :=
  let groups := (inGroups e.group (cs.length + 1) cs).map e.decodeGroup
  let good := groups.takeWhile (·.2)
  let bytes := good.flatMap (·.1)
  match groups.drop good.length with
  | [] => (bytes, true)
  | (more, _) :: _ => (bytes ++ more, false)

end Encoding

namespace Call

/-- Writes bytes in digits, or reads them. -/
def encodes (c : Call) (e : Encoding) (o : Options) : Progress :=
  match o.operands with
  | _ :: extra :: _ => c.misused 1 ("extra operand " ++ quotedText extra)
  | operands =>
    let name := operands.headD "-"
    let (contents, complete) := c.load [name]
    match contents.findSome? fun (_, content) => content.fault? with
    | some text =>
      c.fails 1 (if text = Errno.isDirectory.text ∨ isInput name then "read error: " ++ text
        else shownName name ++ ": " ++ text)
    | none =>
      if complete = false then c.waits []
      else
        let bytes := contents.flatMap fun (_, content) => content.data
        if o.has 'd' then
          let cs := (ofBytes bytes).filter (· ≠ '\n')
          let cs := if o.has 'i' then cs.filter fun ch => ch == '=' || e.digits.contains ch else cs
          let (decoded, good) := e.decode cs
          if good then c.ends 0 [(1, decoded)] else c.ends 1 [(1, decoded), c.message "invalid input"]
        else
          let width := match (o.value? 'w').map (amount? "") with
            | none => 76
            | some (.ok n) => n
            | some (.error _) => 0
          let cs := e.encode bytes
          let lines := if width = 0 then [cs] else inGroups width (cs.length + 1) cs
          let ending := if width = 0 ∨ cs = [] then [] else ['\n']
          c.ends 0 [(1, toBytes (List.intercalate ['\n'] lines ++ ending))]

/-- The options of writings. -/
def encodingNames : List (String × Char) :=
  [("decode", 'd'), ("wrap", 'w'), ("ignore-garbage", 'i')]

/-- Refuses a width of lines that is none. -/
def refuseWidth (c : Call) (letter : Char) (value : String) : Option Progress :=
  if letter ≠ 'w' then none
  else match amount? "" value with
    | .ok _ | .error .tooLarge => none
    | .error _ => some (c.fails 1 ("invalid wrap size: " ++ quotedText value))

/-- Writes bytes in one writing, or reads them. -/
def encoded (c : Call) (e : Encoding) : Progress :=
  c.withChecked 1 { letters := "diw:", names := encodingNames } c.refuseWidth fun o => c.encodes e o

/-- Writes bytes in a writing that an option chooses, or reads them. -/
def basenc (c : Call) : Progress :=
  let kinds := [('α', Encoding.base64), ('β', .base64url), ('γ', .base32), ('δ', .base32hex),
    ('ε', .base16), ('ζ', .base2), ('η', .base2low)]
  let g : Grammar := {
    letters := "diw:αβγδεζη"
    names := encodingNames ++ [("base64", 'α'), ("base64url", 'β'), ("base32", 'γ'),
      ("base32hex", 'δ'), ("base16", 'ε'), ("base2msbf", 'ζ'), ("base2lsbf", 'η')] }
  c.withChecked 1 g c.refuseWidth fun o =>
    match (o.last? (kinds.map (·.1))).bind fun l => kinds.lookup l with
    | some e => c.encodes e o
    | none => c.misused 1 "missing encoding type"

end Call

end NativeBuild.Machine
