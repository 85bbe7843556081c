import NativeBuild.Fault

/-
  Environments of processes and the settings that overlay them. A setting whose value is absent or
  empty says nothing: it is left out wherever settings are applied. Names are unique, and the order
  of settings is kept.
-/

namespace NativeBuild

/-- Named values that may be absent, in the order they were given. -/
abbrev Settings := List (String × Option String)

/-- The variables of a process. -/
abbrev Variables := List (String × String)

namespace Settings

/-- The settings that say something: those with a value that is not empty. -/
def effective (s : Settings) : Variables :=
  s.filterMap fun (name, value?) =>
    match value? with
    | some value => if value = "" then none else some (name, value)
    | none => none

/-- Two settings agree on every name, in whatever order they stand. -/
def agree (a b : Settings) : Bool :=
  a.length == b.length && a.all fun (name, value?) => b.lookup name == some value?

/-- Settings as they stand in the build log, one to a line between braces; an absent value shows
as an empty one. -/
def render (s : Settings) : String :=
  if s = [] then "\x7b\x7d"
  else
    let lines := s.map fun (name, value?) => "  " ++ name ++ " = '" ++ value?.getD "" ++ "'"
    "\x7b\n" ++ "\n".intercalate lines ++ "\n\x7d"

theorem mem_effective {s : Settings} {name value : String} :
    (name, value) ∈ s.effective ↔ (name, some value) ∈ s ∧ value ≠ "" := by
  unfold effective
  rw [List.mem_filterMap]
  constructor
  · rintro ⟨⟨n, v?⟩, hm, h⟩
    cases v? with
    | none => simp at h
    | some v =>
      by_cases hv : v = ""
      · simp [hv] at h
      · simp [hv] at h
        obtain ⟨rfl, rfl⟩ := h
        exact ⟨hm, hv⟩
  · rintro ⟨hm, hv⟩
    exact ⟨(name, some value), hm, by simp [hv]⟩

end Settings

namespace Variables

/-- The value of a variable. -/
def get? (env : Variables) (name : String) : Option String := env.lookup name

/-- The environment with one variable set, in its place if it is there already. -/
def put (env : Variables) (name value : String) : Variables :=
  match env with
  | [] => [(name, value)]
  | (n, v) :: rest => if n = name then (name, value) :: rest else (n, v) :: put rest name value

/-- The environment without a variable. -/
def unset (env : Variables) (name : String) : Variables := env.filter fun entry => entry.1 ≠ name

/-- The environment with a variable set as a process sets its own. A name may not be empty or hold an
equals sign, and nothing may hold the character zero. -/
def assign (env : Variables) (name value : String) : Except Fault Variables :=
  if '\x00' ∈ name.toList ∨ '\x00' ∈ value.toList then .error .embeddedNul
  else if '=' ∈ name.toList then .error .variableName
  else if name = "" then .error (.system (.plain .invalidArgument))
  else .ok (env.put name value)

/-- The environment with settings applied in order, up to the first that cannot be; a setting
without a value unsets its variable. -/
def apply (env : Variables) : Settings → Option Fault × Variables
  | [] => (none, env)
  | (name, none) :: rest => apply (env.unset name) rest
  | (name, some value) :: rest =>
    match env.assign name value with
    | .ok env => apply env rest
    | .error fault => (some fault, env)

/-- The environment with further variables set, one after the other. -/
def overlay (env more : Variables) : Variables :=
  more.foldl (fun env entry => env.put entry.1 entry.2) env

theorem get?_put_self (env : Variables) (name value : String) :
    (env.put name value).get? name = some value := by
  induction env with
  | nil => simp [put, get?]
  | cons entry rest ih =>
    obtain ⟨n, v⟩ := entry
    by_cases h : n = name
    · simp [put, h, get?]
    · have h' : (name == n) = false := by simpa using fun e : name = n => h e.symm
      simpa [put, h, get?, List.lookup_cons, h'] using ih

theorem get?_put_of_ne (env : Variables) {name other : String} (value : String)
    (h : other ≠ name) : (env.put name value).get? other = env.get? other := by
  induction env with
  | nil =>
    have : (other == name) = false := by simpa using h
    simp [put, get?, List.lookup_cons, this]
  | cons entry rest ih =>
    obtain ⟨n, v⟩ := entry
    by_cases hn : n = name
    · have : (other == name) = false := by simpa using h
      subst hn
      simp [put, get?, List.lookup_cons, this]
    · simp only [put, hn, if_false]
      simp only [get?, List.lookup_cons]
      cases other == n
      · exact ih
      · rfl

end Variables

end NativeBuild
