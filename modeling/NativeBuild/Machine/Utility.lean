import NativeBuild.Machine.Utility.Arguments
import NativeBuild.Machine.Utility.Awk.Run
import NativeBuild.Machine.Utility.Blocks
import NativeBuild.Machine.Utility.Checksum
import NativeBuild.Machine.Utility.Columns
import NativeBuild.Machine.Utility.Comparison
import NativeBuild.Machine.Utility.Contents
import NativeBuild.Machine.Utility.Copying
import NativeBuild.Machine.Utility.Count
import NativeBuild.Machine.Utility.Date
import NativeBuild.Machine.Utility.Deciding
import NativeBuild.Machine.Utility.Difference
import NativeBuild.Machine.Utility.Directories
import NativeBuild.Machine.Utility.Dump
import NativeBuild.Machine.Utility.Encoding
import NativeBuild.Machine.Utility.Excerpt
import NativeBuild.Machine.Utility.Expression
import NativeBuild.Machine.Utility.Find.Search
import NativeBuild.Machine.Utility.Grep
import NativeBuild.Machine.Utility.Identity
import NativeBuild.Machine.Utility.Links
import NativeBuild.Machine.Utility.Listing
import NativeBuild.Machine.Utility.Names
import NativeBuild.Machine.Utility.Numbering
import NativeBuild.Machine.Utility.Numbers
import NativeBuild.Machine.Utility.Pairing
import NativeBuild.Machine.Utility.Paragraphs
import NativeBuild.Machine.Utility.Precedence
import NativeBuild.Machine.Utility.Printing
import NativeBuild.Machine.Utility.Reversal
import NativeBuild.Machine.Utility.Runs
import NativeBuild.Machine.Utility.Scaling
import NativeBuild.Machine.Utility.Sections
import NativeBuild.Machine.Utility.Sed.Run
import NativeBuild.Machine.Utility.Shuffle
import NativeBuild.Machine.Utility.Sorting
import NativeBuild.Machine.Utility.Splitting
import NativeBuild.Machine.Utility.Starting
import NativeBuild.Machine.Utility.Translation
import NativeBuild.Machine.Utility.Usage

/-
  The utilities of the system by name: small programs that read arguments and standard input, write
  their output, and read or change files.
-/

namespace NativeBuild.Machine.Call

/-- Runs a utility. `sh` is none: it is the shell itself. -/
def run (c : Call) (name : String) : Progress :=
  match name with
  | "true" => c.ends 0 []
  | "false" => c.ends 1 []
  | "[" => c.test true
  | "arch" => c.withoutArguments (c.prints "x86_64\n")
  | "awk" | "mawk" | "nawk" => c.awk
  | "b2sum" => c.b2sum
  | "base32" => c.encoded .base32
  | "base64" => c.encoded .base64
  | "basename" => c.basename
  | "basenc" => c.basenc
  | "cat" => c.cat
  | "chmod" => c.chmod
  | "cksum" => c.cksum
  | "cmp" => c.cmp
  | "comm" => c.comm
  | "chgrp" => c.chown true
  | "chown" => c.chown false
  | "cp" => c.cp
  | "csplit" => c.csplit
  | "cut" => c.cut
  | "date" => c.date
  | "dd" => c.dd
  | "diff" => c.diff
  | "dir" => ({ c with arguments := "-C" :: "-b" :: c.arguments } : Call).ls
  | "dirname" => c.dirname
  | "du" => c.du
  | "echo" => c.echo
  | "env" => c.env
  | "expand" => c.expand
  | "expr" => c.expr
  | "factor" => c.factor
  | "find" => c.find
  | "fmt" => c.fmt
  | "fold" => c.fold
  | "getconf" => c.getconf
  | "getopt" => c.getopt
  | "grep" | "egrep" | "fgrep" => c.grep
  | "groups" => c.groups
  | "head" => c.head
  | "hostid" => c.withoutArguments (c.prints "007f0101\n")
  | "hostname" => c.prints "localhost\n"
  | "id" => c.id
  | "install" => c.install
  | "link" => c.plainLink false
  | "join" => c.join
  | "ln" => c.ln
  | "logname" => c.withoutArguments (c.fails 1 "no login name")
  | "ls" => c.ls
  | "md5sum" => c.digests .md5
  | "sha1sum" => c.digests .sha1
  | "sha224sum" => c.digests .sha224
  | "sha256sum" => c.digests .sha256
  | "sha384sum" => c.digests .sha384
  | "sha512sum" => c.digests .sha512
  | "mkdir" => c.mkdir
  | "mkfifo" => c.mkfifo
  | "mktemp" => c.mktemp
  | "mv" => c.mv
  | "nice" => c.nice
  | "nl" => c.nl
  | "nohup" => c.nohup
  | "nproc" => c.nproc
  | "numfmt" => c.numfmt
  | "setsid" => c.setsid
  | "stdbuf" => c.stdbuf
  | "od" => c.od
  | "paste" => c.paste
  | "pathchk" => c.pathchk
  | "printenv" => c.printenv
  | "printf" => c.printf
  | "pwd" => c.pwd
  | "readlink" => c.readlink
  | "realpath" => c.realpath
  | "rev" => c.rev
  | "rgrep" => ({ c with title := "grep", arguments := "-r" :: c.arguments } : Call).grep
  | "rm" => c.rm
  | "rmdir" => c.rmdir
  | "sdiff" => c.sdiff
  | "sed" => c.sed
  | "seq" => c.seq
  | "shuf" => c.shuf
  | "sleep" => c.sleep
  | "sort" => c.sort
  | "split" => c.split
  | "stat" => c.stat
  | "sum" => c.sum
  | "sync" => c.sync
  | "tac" => c.tac
  | "tail" => c.tail
  | "tee" => c.tee
  | "test" => c.test false
  | "timeout" => c.timeout
  | "touch" => c.touch
  | "tsort" => c.tsort
  | "unexpand" => c.unexpand
  | "tr" => c.tr
  | "truncate" => c.truncate
  | "tty" => c.tty
  | "uname" => c.uname
  | "uniq" => c.uniq
  | "unlink" => c.plainLink true
  | "vdir" => ({ c with arguments := "-l" :: "-b" :: c.arguments } : Call).ls
  | "wc" => c.wc
  | "which" => c.which
  | "whoami" => c.withoutArguments (c.prints "root\n")
  | "xargs" => c.xargs
  | "yes" => c.yes
  | _ => c.ends 0 []

end NativeBuild.Machine.Call
