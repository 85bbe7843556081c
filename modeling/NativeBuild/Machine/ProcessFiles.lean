import NativeBuild.Machine.Program
import NativeBuild.Machine.System

/-
  The directory in which processes show themselves as files: where they work, what they have open,
  how they were started and how they are doing. It is made anew before each step of a process, for
  programs that look at it, and it is no part of the tree that is left in the end.
-/

namespace NativeBuild.Machine

/-- A text that leads to the files of processes. -/
def processMark : List UInt8 := "/proc".toUTF8.toList

/-- Bytes contain other bytes. -/
def mentions (part : List UInt8) : List UInt8 → Bool
  | [] => part.isEmpty
  | b :: rest => part.isPrefixOf (b :: rest) || mentions part rest

namespace Process

/-- The name that a process goes by. -/
def shortName (p : Process) : String :=
  let full := match p.image with
    | .shell s => s.name
    | .utility u => u.title
  let last := ((piecesAt (· == '/') full.toList).getLast?).getD []
  String.ofList (last.take 15)

/-- How a process was started: each token with a NUL behind it. -/
def startText (p : Process) : String :=
  let tokens := match p.image with
    | .shell s => s.name :: s.parameters
    | .utility u => u.title :: u.arguments
  String.join (tokens.map (· ++ "\x00"))

/-- The environment of a process, each variable with a NUL behind it. -/
def environmentText (p : Process) : String :=
  match p.image with
  | .shell _ => ""
  | .utility u => String.join (u.environment.map fun (name, value) => name ++ "=" ++ value ++ "\x00")

/-- How a process is doing, a line for each thing that is known. -/
def statusText (p : Process) : String :=
  let number := toString p.pid
  let mask := fun (signals : List Nat) =>
    String.ofList (padLeft '0' 16 (Nat.toDigits 16 (signals.foldl (fun bits n => bits + Nat.pow 2 (n - 1)) 0)))
  let lines := [("Name", p.shortName), ("Umask", octalText 4 p.umask), ("State", "R (running)"),
    ("Tgid", number), ("Ngid", "0"), ("Pid", number), ("PPid", toString p.parent),
    ("TracerPid", "0"), ("Uid", "0\t0\t0\t0"), ("Gid", "0\t0\t0\t0"), ("FDSize", "64"),
    ("Groups", "0 "), ("NStgid", number), ("NSpid", number), ("NSpgid", number), ("NSsid", number),
    ("VmPeak", "    2576 kB"), ("VmSize", "    2576 kB"), ("VmLck", "       0 kB"),
    ("VmPin", "       0 kB"), ("VmHWM", "    1024 kB"), ("VmRSS", "    1024 kB"),
    ("RssAnon", "       0 kB"), ("RssFile", "    1024 kB"), ("RssShmem", "       0 kB"),
    ("VmData", "     220 kB"), ("VmStk", "     132 kB"), ("VmExe", "      80 kB"),
    ("VmLib", "    1456 kB"), ("VmPTE", "      44 kB"), ("VmSwap", "       0 kB"),
    ("HugetlbPages", "       0 kB"), ("CoreDumping", "0"), ("THP_enabled", "1"), ("Threads", "1"),
    ("SigQ", "0/127454"), ("SigPnd", mask p.pending), ("ShdPnd", mask []), ("SigBlk", mask []),
    ("SigIgn", mask (p.ignored.filter (0 < ·))), ("SigCgt", mask []), ("CapInh", mask []),
    ("CapPrm", mask []), ("CapEff", mask []), ("CapBnd", mask []), ("CapAmb", mask []),
    ("NoNewPrivs", "0"), ("Seccomp", "0"), ("Seccomp_filters", "0"), ("Cpus_allowed", "f"),
    ("Cpus_allowed_list", "0-3"), ("Mems_allowed", "1"), ("Mems_allowed_list", "0"),
    ("voluntary_ctxt_switches", "1"), ("nonvoluntary_ctxt_switches", "0")]
  String.join (lines.map fun (name, value) => name ++ ":\t" ++ value ++ "\n")

end Process

namespace System

/-- What stands in the directory of a process for an open file: a link to it, if it has a path. -/
def openedNode (s : System) (id : Nat) : Node :=
  let link := fun (place : Location) => Node.link (Path.ofLocation place).toString
  match s.opened.lookup id with
  | none => .pipe 0o600
  | some o =>
    match o.target with
    | .null => .link "/dev/null"
    | .zero => .link "/dev/zero"
    | .full => .link "/dev/full"
    | .pipe _ | .outlet _ => .pipe 0o600
    | .file number => ((s.files.placeOf? number).map link).getD (.pipe 0o600)
    | .loose content => .file content 0o600
    | .directory place => link place

/-- The files of a process. -/
def filesOf (s : System) (p : Process) : List (Location × Node) :=
  let own := ["proc", toString p.pid]
  let file := fun (name text : String) => (own ++ [name], Node.file text.toUTF8.toList 0o444)
  let directory := if p.cwd.getLast?.any fun name => name.toList.getLast? == some '/' then
      (Path.ofLocation (p.cwd.dropLast ++ [String.ofList (p.cwd.getLastD "").toList.dropLast])).toString ++
        " (deleted)"
    else (Path.ofLocation p.cwd).toString
  let program := match p.image with
    | .shell _ => "/usr/bin/dash"
    | .utility u => "/usr/bin/" ++ u.program
  [(own, .directory 0o555), (own ++ ["cwd"], .link directory), (own ++ ["root"], .link "/"),
    (own ++ ["exe"], .link program), file "status" p.statusText, file "comm" (p.shortName ++ "\n"),
    file "cmdline" p.startText, file "environ" p.environmentText, (own ++ ["fd"], .directory 0o500)] ++
    p.channels.map fun (descriptor, id) =>
      (own ++ ["fd", toString descriptor], s.openedNode id)

/-- The number of the first of the files of processes. -/
def processFileNumber : Nat := 4026531840

/-- A tree without the files of processes. -/
def withoutProcessFiles (files : FileTree) : FileTree :=
  { files with entries := files.entries.filter fun e => e.number < processFileNumber }

/-- The system with files for its processes, as one of them sees them. -/
def withProcessFiles (s : System) (self : Nat) : System :=
  let ended := s.ended.map fun (pid, _, _) => (["proc", toString pid], Node.directory 0o555)
  let nodes := (["proc", "self"], Node.link (toString self)) :: ended ++ s.processes.flatMap s.filesOf
  let entries := nodes.zipIdx.map fun ((place, node), k) => Entry.mk place (processFileNumber + k) node
  let files := withoutProcessFiles s.files
  { s with files := { files with entries := files.entries ++ entries } }

end System

end NativeBuild.Machine
