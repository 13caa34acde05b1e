import SvgSkeleton.Shell.Builtin
import SvgSkeleton.Shell.Utility.Arrange
import SvgSkeleton.Shell.Utility.Awk
import SvgSkeleton.Shell.Utility.Batches
import SvgSkeleton.Shell.Utility.Blocks
import SvgSkeleton.Shell.Utility.Cat
import SvgSkeleton.Shell.Utility.Checksum
import SvgSkeleton.Shell.Utility.Columns
import SvgSkeleton.Shell.Utility.Compare
import SvgSkeleton.Shell.Utility.Copy
import SvgSkeleton.Shell.Utility.Difference
import SvgSkeleton.Shell.Utility.Dump
import SvgSkeleton.Shell.Utility.Encode
import SvgSkeleton.Shell.Utility.Ends
import SvgSkeleton.Shell.Utility.Expression
import SvgSkeleton.Shell.Utility.Figures
import SvgSkeleton.Shell.Utility.Grep
import SvgSkeleton.Shell.Utility.Interpreter
import SvgSkeleton.Shell.Utility.Layout
import SvgSkeleton.Shell.Utility.Lines
import SvgSkeleton.Shell.Utility.Listing
import SvgSkeleton.Shell.Utility.Numbers
import SvgSkeleton.Shell.Utility.Pages
import SvgSkeleton.Shell.Utility.Paragraph
import SvgSkeleton.Shell.Utility.Pieces
import SvgSkeleton.Shell.Utility.Precedence
import SvgSkeleton.Shell.Utility.Search
import SvgSkeleton.Shell.Utility.Sed
import SvgSkeleton.Shell.Utility.Shuffle
import SvgSkeleton.Shell.Utility.Sort
import SvgSkeleton.Shell.Utility.Status
import SvgSkeleton.Shell.Utility.System
import SvgSkeleton.Shell.Utility.Test
import SvgSkeleton.Shell.Utility.Translate
import SvgSkeleton.Shell.Utility.Usage

/-!
The programs that are there, and how a program is found. A program that runs no other one is a
utility; those that do are given a way to run a command.
-/

namespace SvgSkeleton.Shell

namespace Program

/-! ### Small programs -/

/-- How often a line is written that should be written without end. -/
def manyTimes : Nat := 20000

def yes : Utility := fun _ args => do
  let line := (if args.isEmpty then ['y'] else Bytes.join [' '] args) ++ ['\n']
  write 1 (List.replicate manyTimes line).flatten
  return 0

def workingFolderProgram : Utility := withOptions (switches "LP") fun name a => do
  unless a.operands.isEmpty do utilityError name "ignoring non-option arguments".toList
  write 1 ((← workingFolder) ++ ['\n'])
  return 0

/-- The paths of programs. -/
def which : Utility := fun _ args => do
  let names := args.dropWhile fun a => a.head? = some '-' && a != ['-']
  if names.isEmpty then return 1
  forEach names fun name => do
    match ← path? name with
    | some path =>
      write 1 (path ++ ['\n'])
      return true
    | none => return false

/-- A program that only leaves a status. -/
def silent (n : Nat) : Utility := fun _ _ => return n

/-- The utilities by their names. -/
def utilities : List (String × Utility) :=
  [("cat", cat), ("tee", tee), ("head", head), ("tail", tail), ("wc", wc), ("tr", tr), ("rev", rev),
   ("tac", tac), ("nl", nl), ("fold", Layout.fold), ("expand", Layout.expand),
   ("unexpand", Layout.unexpand), ("fmt", fmt), ("dd", dd), ("base64", base64), ("base32", base32),
   ("basenc", basenc), ("b2sum", Checksum.b2sum), ("shasum", Checksum.shasum),
   ("sum", Checksum.sum), ("cksum", Checksum.cksum), ("sort", sort), ("uniq", uniq),
   ("cut", Columns.cut), ("paste", Columns.paste), ("comm", Sorted.comm), ("join", Sorted.join),
   ("seq", Sequence.seq), ("grep", grep), ("egrep", grep), ("fgrep", grep), ("rgrep", grep),
   ("ls", Listing.ls), ("mkdir", mkdir), ("rmdir", rmdir), ("rm", rm), ("unlink", unlink),
   ("touch", touch), ("od", Dump.od), ("csplit", Pieces.csplit), ("truncate", truncate),
   ("mkfifo", mkfifo), ("mktemp", mktemp), ("chmod", chmod), ("chown", chown "user"),
   ("chgrp", chown "group"), ("cp", Copying.cp), ("mv", Copying.mv), ("ln", Copying.ln),
   ("link", Copying.link), ("install", Copying.install), ("stat", Status.stat),
   ("date", System.date), ("id", System.id), ("whoami", System.saying "root"),
   ("groups", System.groups), ("logname", System.logname), ("tty", System.tty),
   ("uname", System.uname), ("arch", System.saying "x86_64"), ("nproc", System.nproc),
   ("hostname", System.saying "localhost"), ("basename", basename), ("dirname", dirname),
   ("readlink", readlink), ("realpath", realpath), ("expr", expr),
   ("printenv", Environment.printenv), ("cmp", cmp), ("diff", diff), ("yes", yes),
   ("pwd", workingFolderProgram), ("tsort", tsort), ("factor", factor), ("numfmt", numfmt),
   ("shuf", shuf), ("pr", pr), ("getopt", getopt), ("du", du), ("dir", Listing.dir),
   ("vdir", Listing.vdir),
   ("stty", System.stty), ("who", silent 0), ("users", silent 0), ("true", silent 0),
   ("false", silent 1), ("sleep", Launching.sleep), ("which", which), ("sync", silent 0),
   ("echo", echoProgram), ("printf", printfProgram), ("test", test), ("[", test)]

/-- The utilities that show digests. -/
def digestSums : List (String × Utility) :=
  (Checksum.kinds.filter (·.short != "blake2b")).map fun kind =>
    (kind.short ++ "sum", Checksum.digestSum kind)

/-- The names under which a shell is called. -/
def shellNames : List String := ["sh", "dash"]

/-! ### Programs that run others -/

/-- The programs that run others, by their names. -/
def runningTable (call : Caller) : List (String × Utility) :=
  [("awk", awk call), ("mawk", awk call), ("nawk", awk call), ("env", Environment.env call),
   ("find", Search.find call), ("sed", sed call), ("split", Pieces.split call),
   ("python3", python call), ("nohup", Launching.nohup call), ("nice", Launching.nice call),
   ("setsid", Launching.setsid call), ("stdbuf", Launching.stdbuf call),
   ("timeout", Launching.timeout call), ("xargs", Batches.xargs call)]

/-- The program of a name, given a way to call others. -/
def utility (call : Caller) (kind : String) : Utility :=
  (((utilities ++ digestSums).lookup kind).or ((runningTable call).lookup kind)).getD (silent 127)

/-- The names of all programs. -/
def names : List String :=
  (utilities ++ digestSums).map (·.1) ++ shellNames ++ (runningTable fun _ _ => return 0).map (·.1)

end Program

/-! ### The files of the system

They are the programs, and the files that the system answers for itself.
-/

namespace BaseFiles

def named (name : String) (node : FileTree) : FileName × FileTree := (Text.bytesOf name, node)

/-- The folder of all programs. -/
def programFolder : FileTree :=
  .folder (Program.names.map fun name => named name (.special (.program name)))

def channelFolder : FileTree :=
  .folder (["0", "1", "2"].zipIdx.map fun (name, n) => named name (.special (.stream n)))

def deviceFolder : FileTree :=
  .folder [named "fd" channelFolder, named "full" (.special .full), named "null" (.special .null),
    named "random" (.special .random), named "stderr" (.special (.stream 2)),
    named "stdin" (.special (.stream 0)), named "stdout" (.special (.stream 1)),
    named "tty" (.special .terminal), named "urandom" (.special .random),
    named "zero" (.special .zero)]

def link (target : String) : FileTree := .link (Text.bytesOf target)

/-- The folders that hold programs, and the devices. -/
def entries : List (FileName × FileTree) :=
  [named "bin" (link "usr/bin"), named "dev" deviceFolder,
   named "proc" (.folder [named "self" (.folder [named "fd" channelFolder])]),
   named "sbin" (link "usr/sbin"),
   named "usr" (.folder [named "bin" programFolder, named "sbin" (.folder []),
     named "local" (.folder [named "bin" (.folder []), named "sbin" (.folder [])])])]

/-- The tree with the entries of the system at its top. -/
def addTo (tree : FileTree) : FileTree := entries.foldl (fun t e => t.put e.2 [e.1]) tree

/-- The variables that programs are given. -/
def environment : List (Bytes × Bytes) :=
  [("HOME", "/root"),
   ("PATH", "/usr/local/sbin:/usr/local/bin:/usr/sbin:/usr/bin:/sbin:/bin")].map
    fun (name, value) => (name.toList, value.toList)

end BaseFiles

end SvgSkeleton.Shell
