import NativeBuild.Environment
import NativeBuild.Machine.Bytes

/-
  The variables of a shell. A variable may be known without a value, so that it is exported or
  protected once it gets one. The order in which a shell passes variables on is that of a table of
  39 rows, in which a name falls into a row by its characters.
-/

namespace NativeBuild.Machine

/-- A variable of a shell. -/
structure Variable where
  name : String
  value : Option String
  exported : Bool := false
  readOnly : Bool := false
  /-- It stays known when it is unset. -/
  fixed : Bool := false
  deriving Repr, DecidableEq, Inhabited

/-- What a variable gets together with a value. -/
structure Marking where
  exported : Bool := false
  readOnly : Bool := false
  fixed : Bool := false

/-- The variables of a shell, in the order in which they became known. -/
abbrev VariableTable := List Variable

namespace VariableTable

/-- The variable of a name. -/
def find? (t : VariableTable) (name : String) : Option Variable := List.find? (·.name == name) t

/-- The value of a variable. -/
def value? (t : VariableTable) (name : String) : Option String :=
  (t.find? name).bind (·.value)

/-- The table with the variable of a name changed. -/
def modify (t : VariableTable) (name : String) (f : Variable → Variable) : VariableTable :=
  t.map fun v => if v.name == name then f v else v

/-- The table without a variable. -/
def erase (t : VariableTable) (name : String) : VariableTable := t.filter (·.name != name)

/-- The table with a value given to a variable, or taken from it; nothing if it is protected. -/
def assign? (t : VariableTable) (name : String) (value : Option String) (m : Marking) :
    Option VariableTable :=
  match t.find? name with
  | some v =>
    if v.readOnly then none
    else if value = none ∧ !m.exported ∧ !m.readOnly ∧ !m.fixed ∧ !v.fixed then some (t.erase name)
    else some (t.modify name fun v =>
      { v with
        value := value, exported := v.exported || m.exported, readOnly := m.readOnly,
        fixed := v.fixed || m.fixed })
  | none =>
    if value = none ∧ !m.exported ∧ !m.readOnly ∧ !m.fixed then some t
    else some (t ++ [⟨name, value, m.exported, m.readOnly, m.fixed⟩])

/-- The row of a name. -/
def row (name : String) : Nat :=
  let codes := name.toList.map Char.toNat
  (codes.headD 0 * 16 + total codes) % 39

/-- The variables in the order of the table. -/
def ordered (t : VariableTable) : VariableTable := t.mergeSort fun a b => row a.name ≤ row b.name

/-- The variables in the order of their names. -/
def sorted (t : VariableTable) : VariableTable := t.mergeSort fun a b => !(b.name < a.name)

/-- What programs started by the shell get. -/
def environment (t : VariableTable) : Variables :=
  t.ordered.filterMap fun v => if v.exported then v.value.map fun value => (v.name, value) else none

end VariableTable

/-- The options of a shell: their names and letters, in the order in which they are listed. -/
def shellOptions : List (String × Option Char) :=
  [("errexit", some 'e'), ("noglob", some 'f'), ("ignoreeof", some 'I'), ("interactive", some 'i'),
    ("monitor", some 'm'), ("noexec", some 'n'), ("stdin", some 's'), ("xtrace", some 'x'),
    ("verbose", some 'v'), ("vi", some 'V'), ("emacs", some 'E'), ("noclobber", some 'C'),
    ("allexport", some 'a'), ("notify", some 'b'), ("nounset", some 'u'),
    ("privileged", some 'p'), ("nolog", none), ("debug", none)]

end NativeBuild.Machine
