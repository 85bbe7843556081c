import NativeBuild.Text.Quoted

/-
  Faults: errors that come from outside the build itself, from the operating system, from the user
  who interrupts it, or from a value that an operation cannot use. The errors that the build
  raises on its own account are in `NativeBuild.Error`.
-/

namespace NativeBuild

/-- The errors of the operating system that files and programs give rise to. -/
inductive Errno where
  | notPermitted
  | noEntry
  | argumentsTooLong
  | execFormat
  | accessDenied
  | busy
  | fileExists
  | notDirectory
  | isDirectory
  | invalidArgument
  | nameTooLong
  | notEmpty
  | tooManyLinks
  deriving Repr, DecidableEq

/-- The number of an error. -/
def Errno.number : Errno → Int
  | notPermitted => 1
  | noEntry => 2
  | argumentsTooLong => 7
  | execFormat => 8
  | accessDenied => 13
  | busy => 16
  | fileExists => 17
  | notDirectory => 20
  | isDirectory => 21
  | invalidArgument => 22
  | nameTooLong => 36
  | notEmpty => 39
  | tooManyLinks => 40

/-- The text of an error. -/
def Errno.text : Errno → String
  | notPermitted => "Operation not permitted"
  | noEntry => "No such file or directory"
  | argumentsTooLong => "Argument list too long"
  | execFormat => "Exec format error"
  | accessDenied => "Permission denied"
  | busy => "Device or resource busy"
  | fileExists => "File exists"
  | notDirectory => "Not a directory"
  | isDirectory => "Is a directory"
  | invalidArgument => "Invalid argument"
  | nameTooLong => "File name too long"
  | notEmpty => "Directory not empty"
  | tooManyLinks => "Too many levels of symbolic links"

/-- An error reported by the operating system, with the file it is about if there is one. -/
structure SystemError where
  number : Int
  text : String
  file : Option String := none
  deriving Repr, DecidableEq

namespace SystemError

/-- An error about a file. -/
def about (e : Errno) (file : String) : SystemError := ⟨e.number, e.text, some file⟩

/-- An error that is about no file. -/
def plain (e : Errno) : SystemError := ⟨e.number, e.text, none⟩

/-- The number, the text and the quoted file name. -/
def message (e : SystemError) : String :=
  let head := "[Errno " ++ toString e.number ++ "] " ++ e.text
  match e.file with
  | some file => head ++ ": " ++ Text.quoted file
  | none => head

end SystemError

/-- What can go wrong outside the build's own errors. -/
inductive Fault where
  | system (error : SystemError)
  /-- The user's interrupt. -/
  | interrupt (text : String)
  | runtime (text : String)
  /-- A value that cannot be used, with the caller's words. -/
  | invalid (text : String)
  /-- A duration that is not a number. -/
  | durationUndefined
  | durationInfinite
  /-- A slice that would never advance. -/
  | zeroStep
  /-- A line that was searched for and is not there. -/
  | lineAbsent
  | indexOutOfRange
  /-- An index beyond the range of a machine word. -/
  | indexTooWide
  /-- A text that must end up in a system call and holds the character zero. -/
  | embeddedNul
  /-- A variable whose name holds an equals sign. -/
  | variableName
  | unknownState (name : String)
  | tooFewPasses (given : Int)
  | tooLittleParallelism (given : Int)
  deriving Repr, DecidableEq

namespace Fault

/-- The families of faults, as handlers tell them apart. -/
inductive Family where
  | system
  | interrupt
  | runtime
  | value
  | index
  | overflow
  deriving Repr, DecidableEq

/-- The family of a fault. -/
def family : Fault → Family
  | system _ => .system
  | interrupt _ => .interrupt
  | runtime _ => .runtime
  | durationInfinite => .overflow
  | indexOutOfRange | indexTooWide => .index
  | invalid _ | durationUndefined | zeroStep | lineAbsent | embeddedNul | variableName
  | unknownState _ | tooFewPasses _ | tooLittleParallelism _ => .value

/-- The text of a fault. -/
def message : Fault → String
  | system e => e.message
  | interrupt text | runtime text | invalid text => text
  | durationUndefined => "cannot convert float NaN to integer"
  | durationInfinite => "cannot convert float infinity to integer"
  | zeroStep => "slice step cannot be zero"
  | lineAbsent => ""
  | indexOutOfRange => "list index out of range"
  | indexTooWide => "cannot fit 'int' into an index-sized integer"
  | embeddedNul => "embedded null byte"
  | variableName => "illegal environment variable name"
  | unknownState name => Text.quoted name ++ " is not a valid PipelineState"
  | tooFewPasses given => "compile_passes must be at least 1, got " ++ toString given
  | tooLittleParallelism given => "parallelism must be at least 1, got " ++ toString given

end Fault

end NativeBuild
