import Metamorph.Binary.Codec
import Metamorph.Bundle.Basic

/-! # Bundles as bytes

The binary form of a bundle: its parts one after the other in the order of their fields,
and the shape of a node as the number of its case. What follows a bundle is left aside. -/

namespace Metamorph

namespace Codec

/-- Kinds, by number. -/
def kind : Codec Kind := numbered Kind.all

/-- Unary operators, by number. -/
def unaryOp : Codec UnaryOp := numbered UnaryOp.all

/-- Binary operators, by number. -/
def binaryOp : Codec BinaryOp := numbered BinaryOp.all

/-- The bytes of a tree: the number of the case, then its fields. -/
def encodeExpr : Expr → List UInt8
  | .const k value => littleEndian 4 0 ++ kind.encode k ++ word32.encode value
  | .var k name => littleEndian 4 1 ++ kind.encode k ++ text.encode name
  | .unary k op operand =>
    littleEndian 4 2 ++ kind.encode k ++ unaryOp.encode op ++ encodeExpr operand
  | .binary k op lhs rhs =>
    littleEndian 4 3 ++ kind.encode k ++ binaryOp.encode op ++ encodeExpr lhs ++ encodeExpr rhs
  | .cast k operand => littleEndian 4 4 ++ kind.encode k ++ encodeExpr operand

/-- Read a tree that is at most as deep as the fuel says. -/
def decodeExpr : Nat → List UInt8 → Option (Expr × List UInt8)
  | 0, _ => none
  | fuel + 1, bytes => do
    let (number, rest) ← readLittleEndian 4 bytes
    let (k, rest) ← kind.decode rest
    match number with
    | 0 =>
      let (value, rest) ← word32.decode rest
      return (.const k value, rest)
    | 1 =>
      let (name, rest) ← text.decode rest
      return (.var k name, rest)
    | 2 =>
      let (op, rest) ← unaryOp.decode rest
      let (operand, rest) ← decodeExpr fuel rest
      return (.unary k op operand, rest)
    | 3 =>
      let (op, rest) ← binaryOp.decode rest
      let (lhs, rest) ← decodeExpr fuel rest
      let (rhs, rest) ← decodeExpr fuel rest
      return (.binary k op lhs rhs, rest)
    | 4 =>
      let (operand, rest) ← decodeExpr fuel rest
      return (.cast k operand, rest)
    | _ => none

/-- Trees. Every node takes a byte at least, so that the number of bytes is fuel enough. -/
def expr : Codec Expr where
  encode := encodeExpr
  decode bytes := decodeExpr bytes.length bytes

/-- Inputs, field by field. -/
def input : Codec Input :=
  (text.pair (kind.pair word32)).via
    (fun i => (i.name, i.kind, i.value))
    (fun (name, kind, value) => ⟨name, kind, value⟩)

/-- Circuits, field by field. -/
def circuit : Codec Circuit :=
  (text.pair ((list input).pair (kind.pair (expr.pair ((list text).pair bool))))).via
    (fun c => (c.name, c.inputs, c.outputKind, c.root, c.rewrites, c.perturbed))
    (fun (name, inputs, outputKind, root, rewrites, perturbed) =>
      ⟨name, inputs, outputKind, root, rewrites, perturbed⟩)

/-- Bundles, field by field. -/
def bundle : Codec Bundle :=
  ((list circuit).pair word32).via
    (fun b => (b.circuits, b.expected))
    (fun (circuits, expected) => ⟨circuits, expected⟩)

end Codec

namespace Bundle

/-- The bytes of a bundle. -/
def toBytes (bundle : Bundle) : List UInt8 :=
  Codec.bundle.encode bundle

/-- The bundle at the front of some bytes; it has one circuit at least. -/
def ofBytes (bytes : List UInt8) : Except Error Bundle :=
  match Codec.bundle.decode bytes with
  | none => .error .unreadable
  | some (bundle, _) =>
    if bundle.circuits.isEmpty then .error (.emptyInput .bundle) else .ok bundle

end Bundle

end Metamorph
