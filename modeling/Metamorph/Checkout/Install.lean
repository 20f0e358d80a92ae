import Metamorph.Machine.Basic
import Metamorph.Target.Registry
import Metamorph.Text.Utf8

/-! # Installing a target

A checkout is brought to a revision and, if faults are to be injected, given the hooks of
that revision. The hooks are looked up before anything is touched. -/

namespace Metamorph

namespace Checkout

/-- What installing asks for. -/
inductive Action where
  /-- Whether there is a repository at a path. -/
  | isRepository (path : String)
  /-- Make a repository from a remote one, and switch it to a revision. -/
  | clone (path remoteUrl revision : String)
  /-- Undo all changes in a repository, and switch it to a revision. -/
  | reset (path revision : String)
  | createFolders (path : String)
  | write (path : String) (bytes : List UInt8)
  deriving DecidableEq, Repr

/-- What the replies are. -/
abbrev Reply : Action → Type
  | .isRepository _ => Bool
  | .clone _ _ _ => Except Error Unit
  | .reset _ _ => Except Error Unit
  | .createFolders _ => Except Error Unit
  | .write _ _ => Except Error Unit

/-- The interface of checkouts. -/
abbrev interface : Interface := ⟨Action, Reply⟩

/-- Work on a checkout that may fail. -/
abbrev Work (α : Type) : Type :=
  ExceptT Error (Procedure interface) α

/-- Ask for something. -/
def ask (action : Action) : Work (Reply action) :=
  ExceptT.lift (Procedure.perform (I := interface) action)

/-- Stop if a reply is an error. -/
def orFail (reply : Except Error Unit) : Work Unit :=
  ExceptT.mk (pure reply)

end Checkout

/-- What to install, and where. -/
structure InstallRequest where
  target : Target
  /-- Where the checkout lies. -/
  path : String
  remoteUrl : String
  revision : String
  faultInjection : Bool
  deriving Repr

/-- What was done. -/
structure InstallReport where
  /-- Whether the checkout was made anew. -/
  cloned : Bool
  /-- The path of the hooks, if they were written. -/
  injected : Option String
  deriving DecidableEq, Repr

namespace InstallRequest

/-- The hooks that a request calls for. -/
def hooks (request : InstallRequest) (registry : Registry) : Except Error (Option HookModule) :=
  if request.faultInjection then (registry.lookup request.target request.revision).map some
  else .ok none

/-- Bring the checkout to its revision, and say whether it was made anew. -/
def switch (request : InstallRequest) : Checkout.Work Bool := do
  if ← Checkout.ask (.isRepository request.path) then
    Checkout.orFail (← Checkout.ask (.reset request.path request.revision))
    return false
  else
    Checkout.orFail (← Checkout.ask (.clone request.path request.remoteUrl request.revision))
    return true

/-- Write hooks into the checkout. -/
def writeHooks (request : InstallRequest) (hooks : HookModule) : Checkout.Work String := do
  let path := inside request.path hooks.path
  Checkout.orFail (← Checkout.ask (.createFolders (folderOf path)))
  Checkout.orFail (← Checkout.ask (.write path (Text.utf8 hooks.text)))
  return path

/-- Bring the checkout to its revision and write its hooks. -/
def install (request : InstallRequest) (registry : Registry) : Checkout.Work InstallReport := do
  let hooks ← request.hooks registry
  let cloned ← request.switch
  match hooks with
  | none => return ⟨cloned, none⟩
  | some hooks => return ⟨cloned, some (← request.writeHooks hooks)⟩

end InstallRequest

end Metamorph
