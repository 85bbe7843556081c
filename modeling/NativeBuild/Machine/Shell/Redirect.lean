import NativeBuild.Machine.Shell.Builtin

/-
  Redirections: opening what they name, and keeping what a descriptor led to before, so that it can
  be put back after the command.
-/

namespace NativeBuild.Machine.Redirect

open Act Doing

/-- A path leads to a file that holds something of its own. -/
def leadsToFile (h : Here) (path : String) : Bool :=
  match h.system.files.reach h.self.cwd true (outward path) with
  | .ok (.found _ (.file content _)) => (markedDevice? content).isNone
  | _ => false

/-- Opens the target of a redirection. -/
def openTarget (path : String) (opening : Opening) : Doing Nat := do
  let h ← getThe Here
  if opening = .write ∧ h.shell.has "noclobber" ∧ leadsToFile h path then
    fail ("cannot create " ++ path ++ ": " ++ Errno.fileExists.text)
  match ← (openPath path opening : Act _) with
  | .ok id => return id
  | .error e =>
    let making := opening ≠ .read
    fail ((if making then "cannot create " else "cannot open ") ++ path ++ ": " ++
      Builtin.openingFault e making)

/-- Keeps where a descriptor leads, unless the same command has changed it before. -/
def keep (descriptor : Nat) : Act Unit := do
  let was ← channel? descriptor
  onShell fun s =>
    match s.redirections with
    | [] => s
    | saved :: rest =>
      if saved.any fun entry => entry.1 == descriptor then s
      else { s with redirections := (saved ++ [(descriptor, was)]) :: rest }

/-- Lets a descriptor lead somewhere else. -/
def direct (descriptor opened : Nat) (keeps : Bool) : Act Unit := do
  if keeps then keep descriptor
  Act.direct descriptor opened

/-- Carries redirections out, up to a document that has to be expanded first. -/
def apply (keeps : Bool) : List Resolved → Doing Unit
  | [] => pure ()
  | .file descriptor opening path :: rest => do
    let id ← openTarget path opening
    (direct descriptor id keeps : Act Unit)
    if (← getThe Here).self.wake = .now then apply keeps rest
    else push [.apply rest keeps]
  | .duplicate descriptor none :: rest => do
    if keeps then (keep descriptor : Act Unit)
    (shut descriptor : Act Unit)
    apply keeps rest
  | .duplicate descriptor (some source) :: rest => do
    if source ≠ descriptor then
      match ← (channel? source : Act _) with
      | some id => (direct descriptor id keeps : Act Unit)
      | none => fail (toString source ++ ": Bad file descriptor")
    apply keeps rest
  | .document descriptor number :: rest => do
    match (← shell).documents.lookup number with
    | none => apply keeps rest
    | some document =>
      if document.literal then
        onShell fun s => { s with fields := [String.ofList (document.body.flatMap fun piece =>
          match piece with
          | .text cs _ => cs
          | _ => [])] }
        push [.applyDocument descriptor rest keeps]
      else push [.expand document.body .document, .applyDocument descriptor rest keeps]

/-- Lets a descriptor lead to the text that was expanded last. -/
def applyDocument (descriptor : Nat) (rest : List Resolved) (keeps : Bool) : Doing Unit := do
  let text := (← shell).fields.headD ""
  let id ← modifyGetThe Here fun h =>
    let (reader, _, system) := h.system.newPipe (toBytes text.toList)
    (reader, { h with system := system })
  (direct descriptor id keeps : Act Unit)
  push [.apply rest keeps]

/-- The redirection that a redirection becomes once its target has been expanded. -/
def resolve (r : Redirection) (text : String) : Doing Resolved := do
  match r with
  | .file descriptor opening _ => return .file descriptor opening text
  | .duplicate descriptor source => return .duplicate descriptor source
  | .document descriptor number => return .document descriptor number
  | .computed descriptor _ =>
    match text.toList with
    | ['-'] => return .duplicate descriptor none
    | [d] =>
      if d.isDigit then return .duplicate descriptor (some (digitValue d))
      else fail "Syntax error: Bad fd number"
    | _ => fail "Syntax error: Bad fd number"

/-- Expands the targets of redirections one after the other; what they are is left in the shell. -/
def expandTargets (done : List Resolved) : List Redirection → Doing Unit
  | [] => onShell fun s => { s with resolved := done.reverse }
  | r :: rest =>
    match r with
    | .file _ _ word => push [.expand word .text, .target r rest done]
    | .computed _ word => push [.expand word .fields, .target r rest done]
    | .duplicate descriptor source => expandTargets (.duplicate descriptor source :: done) rest
    | .document descriptor number => expandTargets (.document descriptor number :: done) rest

end NativeBuild.Machine.Redirect
