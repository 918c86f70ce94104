import DeviceLab.Shell.Start
import DeviceLab.Tools.Blocks
import DeviceLab.Tools.Columns
import DeviceLab.Tools.Dump
import DeviceLab.Tools.Edit
import DeviceLab.Tools.Find
import DeviceLab.Tools.Indented
import DeviceLab.Tools.Pages
import DeviceLab.Tools.Records

/-!
# The programs of a bench

* `Tools.table`: what each program does with its words and its variables.
-/

namespace DeviceLab.Tools

/-- A program that does not look at its variables. -/
def plain (body : List String → Tool Unit) : Program := Tool.program fun words _ => body words

/-- Programs that write what is in files. -/
def textPrograms : List (String × Program) :=
  [("cat", plain Cat.run), ("tac", plain Tac.run), ("rev", plain rev), ("nl", plain Nl.run),
    ("head", plain Head.run), ("tail", plain Tail.run), ("wc", plain Wc.run), ("tee", plain Tee.run),
    ("fold", plain Fold.run), ("expand", plain Expand.run), ("unexpand", plain Unexpand.run),
    ("od", plain Od.run)]

/-- Programs about the bytes of files. -/
def bytePrograms : List (String × Program) :=
  let digest (kind : Digest.Kind) : Program := plain (Digest.run kind)
  [("md5sum", digest ⟨"MD5", 16, Digest.md5⟩), ("sha1sum", digest ⟨"SHA1", 20, Digest.sha1⟩),
    ("sha224sum", digest ⟨"SHA224", 28, Digest.sha2 224⟩),
    ("sha256sum", digest ⟨"SHA256", 32, Digest.sha2 256⟩),
    ("sha384sum", digest ⟨"SHA384", 48, Digest.sha2 384⟩),
    ("sha512sum", digest ⟨"SHA512", 64, Digest.sha2 512⟩), ("b2sum", plain Digest.runBlake),
    ("cksum", plain Digest.runCheckSum), ("sum", plain Digest.runSum),
    ("base64", plain (Letters.run Letters.base64)), ("base32", plain (Letters.run Letters.base32)),
    ("dd", plain Copy.run), ("split", Tool.program Split.run)]

/-- Programs that work on lines. -/
def linePrograms : List (String × Program) :=
  [("sort", plain Order.run), ("uniq", plain Uniq.run), ("cut", plain Cut.run),
    ("paste", plain Paste.run), ("comm", plain Comm.run), ("tr", plain Tr.run),
    ("seq", plain Seq.run), ("yes", plain Yes.run), ("grep", plain (Grep.run .basic)),
    ("egrep", plain (Grep.run .extended)), ("fgrep", plain (Grep.run .plain)),
    ("sed", Tool.program Edit.run), ("mawk", Tool.program Records.run)]

/-- Programs that change the tree of files. -/
def treePrograms : List (String × Program) :=
  [("cp", plain Cp.run), ("mv", plain Mv.run), ("rm", plain Rm.run), ("mkdir", plain Mkdir.run),
    ("rmdir", plain Rmdir.run), ("touch", plain Touch.run), ("ln", plain Ln.run),
    ("link", plain link), ("unlink", plain unlink), ("chmod", plain Chmod.run),
    ("mkfifo", plain NamedPipe.run), ("mknod", plain NamedPipe.runOne),
    ("truncate", plain Truncate.run), ("mktemp", Tool.program Mktemp.run)]

/-- Programs that show what is known about files. -/
def listingPrograms : List (String × Program) :=
  [("ls", plain Ls.run), ("stat", plain Stat.run), ("readlink", plain Readlink.run),
    ("realpath", plain Realpath.run), ("basename", plain basename), ("dirname", plain dirname),
    ("pwd", plain pwd), ("find", Tool.program Find.run), ("cmp", plain Facts.cmp),
    ("which.debianutils", Tool.program Facts.which), ("sync", plain Facts.sync)]

/-- Programs that start others, wait, and send signals. -/
def runPrograms : List (String × Program) :=
  [("env", Tool.program Runs.env), ("printenv", Tool.program Runs.printenv),
    ("nohup", Tool.program Runs.nohup), ("nice", Tool.program Runs.nice),
    ("setsid", Tool.program Runs.setsid), ("timeout", Tool.program Runs.timeout),
    ("python3.12", Tool.program Indented.run),
    ("xargs", Tool.program Xargs.run), ("sleep", plain Runs.sleep), ("kill", plain Runs.kill)]

/-- Programs about words, numbers and facts. -/
def valuePrograms : List (String × Program) :=
  [("echo", plain Values.echo), ("printf", plain Values.printf), ("test", plain (Test.run false)),
    ("[", plain (Test.run true)), ("expr", plain Expression.run),
    ("true", plain (Values.nothing 0)), ("false", plain (Values.nothing 1)),
    ("date", plain Facts.date), ("id", plain Facts.id), ("whoami", plain Facts.whoami),
    ("groups", plain Facts.groups), ("logname", plain Facts.logname), ("uname", plain Facts.uname),
    ("arch", plain (Facts.fact "x86_64")), ("nproc", plain (Facts.fact "1")),
    ("hostname", plain (Facts.fact "localhost")), ("tty", plain Facts.tty)]

/-- The programs by their names. -/
def table : List (String × Program) :=
  [("dash", Shell.program)] ++ textPrograms ++ bytePrograms ++ linePrograms ++
    treePrograms ++ listingPrograms ++ runPrograms ++ valuePrograms

end DeviceLab.Tools
