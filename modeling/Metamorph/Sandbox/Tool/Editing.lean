import Metamorph.Sandbox.Editing.Reader
import Metamorph.Sandbox.Editing.Run

/-! # The tool that edits lines

Scripts come from options, from files, or from the first argument. Lines come from the files that
are named, one after the other, or from the input. -/

namespace Metamorph.Sandbox.Tool

/-- The options of editing. -/
def editingOptions : OptionSet :=
  { flags := "nErsuzbhVDPS", valued := "efl",
    long := [("quiet", 'n'), ("silent", 'n'), ("expression", 'e'), ("file", 'f'),
      ("regexp-extended", 'E'), ("separate", 's'), ("unbuffered", 'u'), ("null-data", 'z'),
      ("zero-terminated", 'z'), ("line-length", 'l'), ("help", 'h'), ("version", 'V'),
      ("debug", 'D'), ("posix", 'P'), ("sandbox", 'S'), ("binary", 'b'), ("follow-symlinks", 'b')] }

/-- How the tool is used. -/
def editingUsage : List String :=
  ["Usage: sed [OPTION]... \x7bscript-only-if-no-other-script\x7d [input-file]...",
    "",
    "  -n, --quiet, --silent",
    "                 suppress automatic printing of pattern space",
    "      --debug",
    "                 annotate program execution",
    "  -e script, --expression=script",
    "                 add the script to the commands to be executed",
    "  -f script-file, --file=script-file",
    "                 add the contents of script-file to the commands to be executed",
    "  --follow-symlinks",
    "                 follow symlinks when processing in place",
    "  -i[SUFFIX], --in-place[=SUFFIX]",
    "                 edit files in place (makes backup if SUFFIX supplied)",
    "  -l N, --line-length=N",
    "                 specify the desired line-wrap length for the " ++ Editing.Reading.quote "l"
      ++ " command",
    "  --posix",
    "                 disable all GNU extensions.",
    "  -E, -r, --regexp-extended",
    "                 use extended regular expressions in the script",
    "                 (for portability use POSIX -E).",
    "  -s, --separate",
    "                 consider files as separate rather than as a single,",
    "                 continuous long stream.",
    "      --sandbox",
    "                 operate in sandbox mode (disable e/r/w commands).",
    "  -u, --unbuffered",
    "                 load minimal amounts of data from the input files and flush",
    "                 the output buffers more often",
    "  -z, --null-data",
    "                 separate lines by NUL characters",
    "      --help     display this help and exit",
    "      --version  output version information and exit",
    "",
    "If no -e, --expression, -f, or --file option is given, then the first",
    "non-option argument is taken as the sed script to interpret.  All",
    "remaining arguments are names of input files; if no input files are",
    "specified, then the standard input is read.",
    "",
    "GNU sed home page: <https://www.gnu.org/software/sed/>.",
    "General help using GNU software: <https://www.gnu.org/gethelp/>."]

/-- Take the option that asks for files to be replaced out of the arguments, with what is to be
added to the names of the old ones. The option may stand behind others in one argument. -/
def takeInPlace : List String → Option String × List String
  | [] => (none, [])
  | "--" :: rest => (none, "--" :: rest)
  | word :: rest =>
    let (found, others) := takeInPlace rest
    let text := word.toList
    let letters := text.drop 1
    let front := letters.takeWhile fun c => ['n', 'E', 'r', 's', 'u', 'z', 'b'].contains c
    if word = "--in-place" then (found.orElse fun _ => some "", others)
    else if word.startsWith "--in-place=" then
      (some (String.ofList (text.drop "--in-place=".length)), others)
    else if text.head? = some '-' && letters[front.length]? = some 'i' then
      (some (String.ofList (letters.drop (front.length + 1))),
        if front.isEmpty then others else String.ofList ('-' :: front) :: others)
    else if ["-e", "-f", "-l", "--expression", "--file", "--line-length"].contains word then
      match rest with
      | value :: rest =>
        let (found, others) := takeInPlace rest
        (found, word :: value :: others)
      | [] => (none, [word])
    else (found, word :: others)

/-- Show how the tool is used, because it cannot be called so. -/
def refuseEditing (text : Option String) : Step Nat := do
  match text with
  | some text => complain "sed" text
  | none => pure ()
  editingUsage.forM Step.complain
  return 1

/-- The texts of the script that options name, or the first argument; and the files. -/
def scriptTexts (options : Options) :
    Step (Except String (List Editing.ScriptText × List String)) := do
  let given := options.given.filter fun option => option.1 = 'e' || option.1 = 'f'
  let texts : List (Except String Editing.ScriptText) ← given.mapM fun (letter, value) => do
    if letter = 'e' then return .ok { text := value.toList }
    else
      match ← readOperand value with
      | .ok text => return .ok { text, file := some value }
      | .error why => return .error ("couldn't open file " ++ value ++ ": " ++ why.reason)
  match texts.mapM (fun text => text), given, options.operands with
  | .error why, _, _ => return .error why
  | .ok texts, _ :: _, operands => return .ok (texts, operands)
  | .ok _, [], script :: operands => return .ok ([{ text := script.toList }], operands)
  | .ok _, [], [] => return .ok ([], [])

/-- A label that a command goes to but that no command sets. -/
def missingLabel? (commands : Array Editing.Command) : Option String :=
  let set := commands.toList.filterMap fun command =>
    match command.action with
    | .label name => some name
    | _ => none
  commands.toList.findSome? fun command =>
    let missing (label : String) : Option String :=
      if label.isEmpty || set.contains label then none else some label
    match command.action with
    | .branch label => missing label
    | .branchIf _ label => missing label
    | _ => none

/-- Empty the files that a script writes to, and tell the first one that cannot be written. -/
def emptyFiles : List String → Step (Option (String × Refusal))
  | [] => return none
  | path :: rest => do
    match ← Step.writeFile path [] with
    | .ok () => emptyFiles rest
    | .error why => return some (path, why)

/-- The files that a script writes to. -/
def writtenFiles (commands : Array Editing.Command) : List String :=
  commands.toList.filterMap fun command =>
    match command.action with
    | .writeFile path _ => some path
    | .substitute how => how.file
    | _ => none

/-- Edit the lines of files. -/
def editFiles (manner : Editing.Manner) (paths : List String) : Step Nat := do
  let work : Editing.Edit Nat := do
    let code ← Editing.Edit.runLines manner Editing.Edit.most true
    Editing.Edit.finishFile manner
    Editing.Edit.leaveInput manner
    return code
  let (result, editor) ← (work.run.run (manner.editor paths) : Step _)
  Step.write 1 editor.output.text
  editor.others.forM fun (path, output) => do
    let _ ← Step.writeFile path output.text
  match result with
  | .ok code => return if code = 0 then editor.failure else code
  | .error why => fail "sed" 1 why

/-- Whether a script begins with a comment that asks for lines to be shown by commands only. -/
def asksForQuiet (texts : List Editing.ScriptText) : Bool :=
  match texts.map (·.text) with
  | ('#' :: 'n' :: rest) :: _ => rest.isEmpty || rest.head? = some '\n'
  | _ => false

/-- Edit lines by a script. -/
def sed : Tool := fun runner arguments => do
  let (inPlace, arguments) := takeInPlace arguments
  match editingOptions.read arguments with
  | .error why => refuseEditing (some why)
  | .ok options =>
    if options.has 'h' then do
      outLines (editingUsage.map String.toList)
      return 0
    else if options.has 'V' then do
      outLines ["sed (GNU sed) 4.9".toList]
      return 0
    else
      match ← scriptTexts options with
      | .error why => fail "sed" 4 why
      | .ok ([], _) => refuseEditing none
      | .ok (texts, paths) =>
        match Editing.readScript (options.has 'E' || options.has 'r') texts with
        | .error why => fail "sed" 1 why
        | .ok commands =>
          match missingLabel? commands, inPlace.isSome && paths.isEmpty with
          | some label, _ =>
            fail "sed" 4 ("can't find label for jump to " ++ Editing.Reading.quote label)
          | none, true => fail "sed" 4 "no input files"
          | none, false =>
            let width := ((options.value? 'l').bind natural?).getD 70
            let manner : Editing.Manner :=
              { commands, quiet := options.has 'n' || asksForQuiet texts
                separate := options.has 's' || inPlace.isSome, inPlace
                delimiter := if options.has 'z' then Char.ofNat 0 else '\n'
                unbuffered := options.has 'u', width, runner }
            match ← emptyFiles (writtenFiles commands) with
            | some (path, why) =>
              fail "sed" 4 ("couldn't open file " ++ path ++ ": " ++ why.reason)
            | none => editFiles manner (if paths.isEmpty then ["-"] else paths)

end Metamorph.Sandbox.Tool
