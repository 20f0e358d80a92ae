import Metamorph.Checkout.Install
import Metamorph.Text.Basic

/-! # Checkouts by git

How a machine with the program `git` does what installing asks for. -/

namespace Metamorph.Git

/-- Refuse a revision that the program would read as an option. -/
def checkRevision (revision : String) : Except Error Unit :=
  if revision.isEmpty || revision.startsWith "-" then .error (.repository (.revision revision))
  else .ok ()

/-- What a program wrote about its failure. -/
def failureText (ending : Ending) : String :=
  String.ofList (Text.trim (Text.ofBytes ending.stderr).toList)

/-- Run the program, which must end well. -/
def run (program : String) (folder : Option String) (arguments : List String) : Work Unit := do
  match ← Work.ask (.launch { program, arguments, folder }) with
  | .error why => throw (.repository (.unstartable program why))
  | .ok ending =>
    if ending.status.isSuccess then return ()
    else
      throw (.repository (.failed program arguments ending.status.display (failureText ending)))

/-- Run the program in turn for each list of arguments. -/
def runAll (program : String) (folder : Option String) : List (List String) → Work Unit
  | [] => return ()
  | arguments :: rest => do
    run program folder arguments
    runAll program folder rest

/-- Make a repository from a remote one, and switch it to a revision. -/
def clone (program path remoteUrl revision : String) : Work Unit := do
  checkRevision revision
  run program none ["clone", "--", remoteUrl, path]
  run program (some path) ["checkout", "--force", revision]

/-- Undo all changes in a repository, and switch it to a revision. -/
def reset (program path revision : String) : Work Unit := do
  checkRevision revision
  runAll program (some path) [["reset", "--hard"], ["clean", "-fdx"], ["fetch", "--all", "--tags"],
    ["checkout", "--force", revision]]

/-- Do on a machine what installing asks for. -/
def partner (program : String) :
    (action : Checkout.Action) → Procedure Machine.interface (Checkout.Reply action)
  | .isRepository path =>
    Procedure.perform (I := Machine.interface) (.isPresent (inside path ".git"))
  | .clone path remoteUrl revision => (clone program path remoteUrl revision).run
  | .reset path revision => (reset program path revision).run
  | .createFolders path => (Work.createFolders path).run
  | .write path bytes => (Work.write path bytes).run

/-- Install a target on a machine. -/
def install (program : String) (request : InstallRequest) (registry : Registry) :
    Work InstallReport :=
  ExceptT.mk ((request.install registry).run.carryOut (partner program))

end Metamorph.Git
