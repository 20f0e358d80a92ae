import Metamorph.Bundle.Basic
import Metamorph.Expr.Json
import Metamorph.Json.Printer
import Metamorph.Json.Reader

/-! # Bundles as JSON text

Records are written with their fields in order; a bundle is written in the pretty form. -/

namespace Metamorph

namespace Input

/-- The JSON form of an input. -/
def toJson (input : Input) : Json :=
  .object [("name", .text input.name), ("kind", input.kind.toJson),
    ("value", .nat input.value.toNat)]

/-- Read an input. -/
def ofJson? (value : Json) : Option Input := do
  match ← value.record? ["name", "kind", "value"] with
  | [name, kind, value] =>
    return ⟨← Json.required? Json.string? name, ← Json.required? Kind.ofJson? kind,
      ← Json.required? Json.word32? value⟩
  | _ => none

end Input

namespace Circuit

/-- The JSON form of a circuit. -/
def toJson (circuit : Circuit) : Json :=
  .object [("name", .text circuit.name), ("inputs", .list Input.toJson circuit.inputs),
    ("output_kind", circuit.outputKind.toJson), ("root", circuit.root.toJson),
    ("rewrites", .list Json.text circuit.rewrites), ("perturbed", .bool circuit.perturbed)]

/-- Read a circuit. -/
def ofJson? (value : Json) : Option Circuit := do
  match ← value.record? ["name", "inputs", "output_kind", "root", "rewrites", "perturbed"] with
  | [name, inputs, outputKind, root, rewrites, perturbed] =>
    return ⟨← Json.required? Json.string? name, ← Json.required? (Json.list? Input.ofJson?) inputs,
      ← Json.required? Kind.ofJson? outputKind, ← Json.required? Expr.ofJson? root,
      ← Json.required? (Json.list? Json.string?) rewrites,
      ← Json.required? Json.bool? perturbed⟩
  | _ => none

end Circuit

namespace Bundle

/-- The JSON form of a bundle. -/
def toJson (bundle : Bundle) : Json :=
  .object [("circuits", .list Circuit.toJson bundle.circuits),
    ("expected", .nat bundle.expected.toNat)]

/-- Read a bundle. -/
def ofJson? (value : Json) : Option Bundle := do
  match ← value.record? ["circuits", "expected"] with
  | [circuits, expected] =>
    return ⟨← Json.required? (Json.list? Circuit.ofJson?) circuits,
      ← Json.required? Json.word32? expected⟩
  | _ => none

/-- The JSON text of a bundle. -/
def toText (bundle : Bundle) : String :=
  bundle.toJson.pretty

/-- Read a bundle from JSON text. -/
def ofText? (text : String) : Option Bundle :=
  (Json.parseShallow? text).bind ofJson?

end Bundle

end Metamorph
