import NativeBuild.FileTree.Walk
import NativeBuild.Environment
import NativeBuild.Machine.Pattern

/-
  Finding the program of a command. A name without a slash is looked for in the directories of the
  search path. The programs of the system are files with a mark of their own; any other program is
  a file with execute permission whose first line names the interpreter that reads it.
-/

namespace NativeBuild.Machine

/-- The programs of the system. -/
def systemPrograms : List String :=
  ["[", "addpart", "apt", "apt-cache", "apt-cdrom", "apt-config", "apt-get", "apt-key", "apt-mark",
    "arch", "awk", "b2sum", "base32", "base64", "basename", "basenc", "bash", "bashbug",
    "captoinfo", "cat", "chage", "chattr", "chcon", "chfn", "chgrp", "chmod", "choom", "chown",
    "chrt", "chsh", "cksum", "clear", "clear_console", "cmp", "comm", "cp", "csplit", "cut", "dash",
    "date", "dd", "debconf", "delpart", "df", "diff", "diff3", "dir", "dircolors", "dirname",
    "dmesg", "dnsdomainname", "domainname", "dpkg", "dpkg-deb", "dpkg-divert", "dpkg-query",
    "dpkg-split", "du", "echo", "egrep", "env", "expand", "expiry", "expr", "factor", "faillog",
    "fallocate", "false", "fgrep", "fincore", "find", "findmnt", "flock", "fmt", "fold", "getconf",
    "getent", "getopt", "gpasswd", "gpgv", "grep", "groups", "gunzip", "gzexe", "gzip", "hardlink",
    "head", "hostid", "hostname", "i386", "iconv", "id", "infocmp", "infotocap", "install",
    "ionice", "ipcmk", "ipcrm", "ipcs", "ischroot", "join", "last", "lastb", "lastlog",
    "ldd", "link", "linux32", "linux64", "ln", "locale", "localedef", "logger", "login", "logname",
    "ls", "lsattr", "lsblk", "lscpu", "lsipc", "lslocks", "lslogins", "lsmem", "lsns", "mawk",
    "mcookie", "md5sum", "mesg", "mkdir", "mkfifo", "mknod", "mktemp", "more", "mount",
    "mountpoint", "mv", "namei", "nawk", "newgrp", "nice", "nl", "nohup", "nproc", "nsenter",
    "numfmt", "od", "pager", "partx", "passwd", "paste", "pathchk", "perl", "pinky", "pr",
    "printenv", "printf", "prlimit", "ptx", "pwd", "rbash", "readlink", "realpath", "rename.ul",
    "renice", "reset", "resizepart", "rev", "rgrep", "rm", "rmdir", "run-parts", "runcon",
    "savelog", "script", "scriptlive", "scriptreplay", "sdiff", "sed", "seq", "setarch", "setpriv",
    "setsid", "setterm", "sg", "sha1sum", "sha224sum", "sha256sum", "sha384sum", "sha512sum",
    "shred", "shuf", "sleep", "sort", "split", "stat", "stdbuf", "stty", "su", "sum", "sync",
    "tabs", "tac", "tail", "tar", "taskset", "tee", "tempfile", "test", "tic", "timeout", "toe",
    "touch", "tput", "tr", "true", "truncate", "tset", "tsort", "tty", "tzselect", "umount",
    "uname", "uncompress", "unexpand", "uniq", "unlink", "unshare", "update-alternatives", "users",
    "utmpdump", "vdir", "wall", "wc", "wdctl", "whereis", "which", "who", "whoami", "x86_64",
    "xargs", "yes", "ypdomainname", "zcat", "zcmp", "zdiff", "zdump", "zegrep", "zfgrep", "zforce",
    "zgrep", "zless", "zmore", "znew"]

/-- The content of a file that is a program of the system. -/
def programMark (name : String) : List UInt8 := 127 :: ("ELF " ++ name).toUTF8.toList

/-- The program of the system that a content is. -/
def markedProgram? (content : List UInt8) : Option String :=
  if content.take 5 = programMark "" then
    let name := String.ofList (ofBytes (content.drop 5))
    if systemPrograms.contains name then some name else none
  else none

/-- The content of a device. -/
def deviceMark (name : String) : List UInt8 := 127 :: ("DEV " ++ name).toUTF8.toList

/-- The devices of the system. -/
def systemDevices : List String := ["null", "zero", "full", "random", "urandom", "tty"]

/-- The device that a content is. -/
def markedDevice? (content : List UInt8) : Option String :=
  systemDevices.find? fun name => content == deviceMark name

/-- The time at which a machine is started, in nanoseconds from the start of 1970. -/
def startTime : Int := 1768478400 * 1000000000

/-- The directories of a system, with the modes of those that are not for everybody to read and
their owner to write. -/
def systemDirectories : List (Location × Nat) :=
  let plain := [["dev"], ["etc"], ["home"], ["media"], ["mnt"], ["opt"], ["run"], ["srv"],
    ["usr"], ["usr", "bin"], ["usr", "lib"], ["usr", "lib64"], ["usr", "local"],
    ["usr", "local", "bin"], ["usr", "local", "lib"], ["usr", "sbin"], ["usr", "share"],
    ["usr", "include"], ["usr", "src"], ["var"], ["var", "lib"], ["var", "log"],
    ["var", "cache"], ["boot"]]
  plain.map (·, 0o755) ++ [(["proc"], 0o555), (["sys"], 0o555), (["root"], 0o700),
    (["tmp"], 0o1777), (["var", "tmp"], 0o1777), (["run", "lock"], 0o1777)]

/-- The files of a system on which nothing has been done. -/
def standardTree : FileTree :=
  let links := [(["bin"], "usr/bin"), (["lib"], "usr/lib"), (["lib64"], "usr/lib64"),
    (["sbin"], "usr/sbin"), (["usr", "bin", "sh"], "dash"), (["var", "run"], "/run"),
    (["var", "lock"], "/run/lock")]
  let programs := systemPrograms.map fun name =>
    (["usr", "bin", name], Node.file (programMark name) 0o755)
  let devices := systemDevices.map fun name => (["dev", name], Node.file (deviceMark name) 0o666)
  let nodes := systemDirectories.map (fun (place, mode) => (place, Node.directory mode)) ++
    links.map (fun (place, target) => (place, Node.link target)) ++ programs ++ devices
  nodes.foldl (fun t (place, node) => t.add place node) { now := startTime }

/-- A program of the system and the tokens that it is started with, its own name first. -/
structure Program where
  name : String
  tokens : List String
  deriving Repr, DecidableEq

/-- The search path of an environment that has none. -/
def defaultSearchPath : String := "/bin:/usr/bin"

/-- A name in a directory; the empty directory is the working directory. -/
def inDirectory (directory name : String) : String :=
  if directory = "" then name
  else if directory.toList.getLast? = some '/' then directory ++ name
  else directory ++ "/" ++ name

/-- The directories of a search path. -/
def searchDirectories (path : String) : List String :=
  (piecesAt (· == ':') path.toList).map String.ofList

/-- The files that a command may mean, in the order they are tried. -/
def candidates (path program : String) : List String :=
  if '/' ∈ program.toList then [program]
  else (searchDirectories path).map fun directory => inDirectory directory program

/-- How much of a file is read to find the interpreter that it names. -/
def interpreterRoom : Nat := 256

/-- The interpreter of a script and the argument for it, from the first line after `#!`. Of a line
that does not end within the room for it, the argument is cut off; a name that goes on up to there
is none. -/
def interpreterLine (content : List UInt8) : Option (List UInt8 × List (List UInt8)) :=
  match content with
  | 35 :: 33 :: _ =>
    let blank := fun (b : UInt8) => b == 32 || b == 9
    let room := (content ++ List.replicate interpreterRoom 0).take interpreterRoom
    let front : List UInt8 := room.takeWhile fun b => b ≠ 10 ∧ b ≠ 0
    let ends := (room.drop front.length).head? == some (10 : UInt8)
    let line : List UInt8 := (if ends then front else room.take (interpreterRoom - 1)).drop 2
    let line := ((line.reverse.dropWhile blank).reverse).dropWhile blank
    let interpreter := line.takeWhile fun b => !blank b && b != 0
    let after := line.drop interpreter.length
    let isCut := front.length = interpreterRoom ∧ after = [] ∧ !room.getLast?.any blank
    let argument := if after.head? == some (0 : UInt8) then [] else (after.dropWhile blank).takeWhile (· ≠ 0)
    if interpreter = [] ∨ isCut then none
    else some (interpreter, if argument = [] then [] else [argument])
  | _ => none

/-- How many files may be read to find a program: a script's interpreter may be a script itself. -/
def interpreterDepth : Nat := 6

/-- What a file is started as: a program of the system, or the interpreter of a script. -/
def startFile (files : FileTree) (cwd : Location) :
    Nat → String → List String → Except Errno Program
  | 0, _, _ => .error .tooManyLinks
  | depth + 1, path, tokens =>
    match files.reach cwd true (outward path) with
    | .error e => .error e
    | .ok (.found _ (.file content mode)) =>
      if (Node.file content mode).allows .execute = false then .error .accessDenied
      else
        match markedProgram? content with
        | some name => .ok ⟨name, tokens⟩
        | none =>
          match interpreterLine content with
          | none => .error .execFormat
          | some (interpreter, argument) =>
            let text := fun (bytes : List UInt8) => String.ofList (ofBytes bytes)
            startFile files cwd depth (text interpreter)
              (text interpreter :: argument.map text ++ path :: tokens.drop 1)
    | .ok (.found _ _) => .error .accessDenied
    | .ok (.missing _ _) => .error .noEntry

/-- The most bytes of one argument or variable, the byte behind it included. -/
def textLimit : Nat := 131072

/-- The most bytes of all arguments and variables. -/
def textsLimit : Nat := 2097152

/-- The arguments and variables are too much for a program to be started with. -/
def exceedsLimits (tokens : List String) (environment : Variables) : Bool :=
  let sizes := tokens.map (fun text => (toBytes text.toList).length + 1) ++
    environment.map fun (name, value) => (toBytes (name ++ value).toList).length + 2
  sizes.any (textLimit < ·) || textsLimit < total sizes + 8 * sizes.length

/-- The first candidate that can be started. Otherwise the first error that says more than that
nothing is there, or else the last one. -/
def firstStarted (files : FileTree) (cwd : Location) (tokens : List String) :
    Option Errno → Errno → List String → Except Errno Program
  | kept, last, [] => .error (kept.getD last)
  | kept, _, path :: rest =>
    match startFile files cwd interpreterDepth path tokens with
    | .ok program => .ok program
    | .error e =>
      let kept := if kept = none ∧ e ≠ .noEntry ∧ e ≠ .notDirectory then some e else kept
      firstStarted files cwd tokens kept e rest

/-- The program that a command starts. -/
def findProgram (files : FileTree) (cwd : Location) (environment : Variables)
    (tokens : List String) : Except Errno Program :=
  if exceedsLimits tokens environment then .error .argumentsTooLong else
  let path := (environment.get? "PATH").getD defaultSearchPath
  firstStarted files cwd tokens none .noEntry (candidates path (tokens.headD ""))

/-- The first file among candidates that can be started, or else what is wrong. -/
def firstExecutable (files : FileTree) (cwd : Location) : Errno → List String → Except Errno String
  | e, [] => .error e
  | e, file :: rest =>
    match files.reach cwd true (outward file) with
    | .ok (.found _ (.file content mode)) =>
      if (Node.file content mode).allows .execute ∨ mode &&& 0o111 = 0o111 then .ok file
      else firstExecutable files cwd .accessDenied rest
    | .ok (.found _ _) => firstExecutable files cwd .accessDenied rest
    | .error e' =>
      let unusual := e' ≠ .noEntry ∧ e' ≠ .notDirectory
      firstExecutable files cwd (if unusual then e' else e) rest
    | .ok (.missing _ _) => firstExecutable files cwd e rest

/-- The file of a program on a search path. -/
def findOnPath (files : FileTree) (cwd : Location) (path name : String) : Except Errno String :=
  firstExecutable files cwd .noEntry
    ((searchDirectories path).map fun directory => inDirectory directory name)

end NativeBuild.Machine
