import Metamorph.Sandbox.Tool.Columns
import Metamorph.Sandbox.Tool.Condition
import Metamorph.Sandbox.Tool.Blocks
import Metamorph.Sandbox.Tool.Printing
import Metamorph.Sandbox.Tool.Describing
import Metamorph.Sandbox.Tool.Duplicating
import Metamorph.Sandbox.Tool.Dump
import Metamorph.Sandbox.Tool.Editing
import Metamorph.Sandbox.Tool.Environment
import Metamorph.Sandbox.Tool.Expression
import Metamorph.Sandbox.Tool.Finding
import Metamorph.Sandbox.Tool.Wrapping
import Metamorph.Sandbox.Tool.Target
import Metamorph.Sandbox.Tool.Order
import Metamorph.Sandbox.Tool.Passing
import Metamorph.Sandbox.Records.Run
import Metamorph.Sandbox.Tool.Search
import Metamorph.Sandbox.Tool.Folders
import Metamorph.Sandbox.Tool.Mode

/-! # Programs

The programs that can be found by their names, and where the running program finds them. -/

namespace Metamorph.Sandbox

/-- The tools by their names. -/
def tools : List (String × Tool) :=
  [("echo", Tool.echo), ("printf", Tool.printf), ("yes", Tool.yes), ("seq", Tool.seq),
    ("test", Tool.test), ("[", Tool.bracket), ("true", fun _ _ => return 0),
    ("false", fun _ _ => return 1), ("cat", Tool.cat), ("tac", Tool.tac), ("rev", Tool.rev),
    ("head", Tool.head), ("tail", Tool.tail), ("tee", Tool.tee), ("wc", Tool.wc),
    ("nl", Tool.nl), ("od", Tool.od), ("dd", Tool.dd), ("fold", Tool.fold), ("cut", Tool.cut),
    ("paste", Tool.paste), ("tr", Tool.tr), ("sort", Tool.sort), ("uniq", Tool.uniq),
    ("comm", Tool.comm), ("join", Tool.join), ("mkdir", Tool.mkdir), ("rmdir", Tool.rmdir),
    ("touch", Tool.touch), ("truncate", Tool.truncate), ("rm", Tool.rm), ("unlink", Tool.unlink),
    ("cp", Tool.cp), ("mv", Tool.mv), ("ln", Tool.ln), ("link", Tool.link),
    ("mkfifo", Tool.mkfifo), ("chmod", Tool.chmod), ("basename", Tool.basename),
    ("dirname", Tool.dirname), ("pwd", Tool.pwd), ("readlink", Tool.readlink),
    ("realpath", Tool.realpath), ("mktemp", Tool.mktemp), ("ls", Tool.ls), ("stat", Tool.stat),
    ("find", Tool.find), ("env", Tool.env), ("printenv", Tool.printenv), ("sleep", Tool.sleep),
    ("timeout", Tool.timeout), ("nohup", Tool.nohup), ("nice", Tool.nice),
    ("setsid", Tool.setsid), ("stdbuf", Tool.stdbuf), ("xargs", Tool.xargs), ("id", Tool.id),
    ("groups", Tool.groups), ("whoami", Tool.whoami), ("uname", Tool.uname), ("arch", Tool.arch),
    ("tty", Tool.tty), ("date", Tool.date), ("expr", Tool.expr), ("grep", Tool.grep),
    ("egrep", Tool.egrep), ("fgrep", Tool.fgrep), ("sed", Tool.sed), ("awk", Tool.awk),
    ("mawk", Tool.awk)]

/-- The shells by their names. -/
def shells : List (String × Shell.Dialect) :=
  [("sh", .plain), ("dash", .plain), ("bash", .rich), ("rbash", .rich)]

/-- What is found under the name of a program. -/
inductive Found where
  | tool (tool : Tool)
  | shell (dialect : Shell.Dialect)
  /-- The tool that looks for programs itself. -/
  | finder
  /-- A file that may be run. -/
  | file (trail : Trail)
  /-- A file or folder that may not be run. -/
  | denied
  | missing

/-- The names of all programs. -/
def programNames : List String :=
  tools.map (·.1) ++ shells.map (·.1) ++ ["which"]

/-- What the file of a program begins with. -/
def programMark : String := "\x7fELF"

/-- The text in the file of a program. -/
def programText (name : String) : List Char :=
  (programMark ++ name).toList

namespace Found

/-- The program with a name. -/
def ofName? (name : String) : Option Found :=
  match tools.lookup name, shells.lookup name with
  | some run, _ => some (.tool run)
  | none, some dialect => some (.shell dialect)
  | none, none => if name = "which" then some .finder else none

/-- The program whose file has some text in it. -/
def ofText? (text : List Char) : Option Found :=
  if programMark.toList.isPrefixOf text then
    ofName? (String.ofList (text.drop programMark.length))
  else none

/-- What is at the end of a trail. -/
def atTrail (files : Files) (trail : Trail) : Found :=
  match files.find? trail with
  | some (.file bytes mode) =>
    if mode / 64 % 2 = 1 || mode / 8 % 2 = 1 || mode % 2 = 1 then
      (ofText? (Text.ofOctets bytes)).getD (.file trail)
    else .denied
  | some _ => .denied
  | none => .missing

/-- Whether something was found. -/
def isMissing : Found → Bool
  | .missing => true
  | _ => false

/-- Whether what was found can be run. -/
def isRunnable : Found → Bool
  | .missing => false
  | .denied => false
  | _ => true

end Found

/-- The folders that programs are looked for in where nothing else is said. -/
def usualPath : String := "/usr/local/sbin:/usr/local/bin:/usr/sbin:/usr/bin:/sbin:/bin"

/-- What a path leads to as a program. -/
def findAt (files : Files) (folder : Trail) (path : String) : Found :=
  match files.resolve true folder path with
  | .ok trail => Found.atTrail files trail
  | .error _ => .missing

/-- Look for a program: a name with a slash is a path, and any other is looked for in the
folders of a search path. The path that was found comes with it. -/
def findProgram (files : Files) (folder : Trail) (search name : String) : String × Found :=
  if name.contains '/' then (name, findAt files folder name)
  else
    let candidates := (search.splitOn ":").map fun place =>
      let path := if place.isEmpty then name else if place.endsWith "/" then place ++ name
        else place ++ "/" ++ name
      (path, findAt files folder path)
    match candidates.find? fun entry => entry.2.isRunnable with
    | some found => found
    | none => (candidates.find? fun entry => !entry.2.isMissing).getD (name, .missing)

/-- The folders that the running program looks for programs in. A shell has no others than those that
it is told. -/
def Process.searchPath (process : Process) : String :=
  (process.value? "PATH").getD (if process.isShell then "" else usualPath)

/-- Look for a program where the running program looks for it. -/
def locateProgram (name : String) : Step (String × Found) := do
  let process ← Step.process
  if name.isEmpty then return ("", .missing)
  else
    return findProgram (← Step.files) process.trail process.searchPath name

end Metamorph.Sandbox
