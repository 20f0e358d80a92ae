import Metamorph.Bundle.Binary
import Metamorph.Proofs.Binary.Exactness

/-! # The bytes of a bundle

The codecs of trees, inputs, circuits and bundles are exact on the values whose texts and lists
have lengths of 64 bits. So bytes are read as a bundle if and only if its own bytes stand at their
front; no bundle's bytes begin another's, and a file that was cut short is refused. -/

namespace Metamorph

/-- A text that has as many bytes as a word can count. -/
def Text.Fits (text : String) : Prop :=
  text.utf8ByteSize < 2 ^ 64

/-- The names in a tree fit. -/
def Expr.Fits (e : Expr) : Prop :=
  ∀ name ∈ e.variableNames, Text.Fits name

/-- The name of an input fits. -/
def Input.Fits (input : Input) : Prop :=
  Text.Fits input.name

/-- The texts and lists of a circuit fit. -/
@[mk_iff]
structure Circuit.Fits (circuit : Circuit) : Prop where
  name : Text.Fits circuit.name
  inputs : circuit.inputs.length < 2 ^ 64 ∧ ∀ input ∈ circuit.inputs, input.Fits
  root : circuit.root.Fits
  rewrites : circuit.rewrites.length < 2 ^ 64 ∧ ∀ rewrite ∈ circuit.rewrites, Text.Fits rewrite

/-- The circuits of a bundle fit, and so does their number. -/
def Bundle.Fits (bundle : Bundle) : Prop :=
  bundle.circuits.length < 2 ^ 64 ∧ ∀ circuit ∈ bundle.circuits, circuit.Fits

instance : DecidablePred Text.Fits :=
  fun text => inferInstanceAs (Decidable (text.utf8ByteSize < 2 ^ 64))

instance : DecidablePred Expr.Fits :=
  fun e => inferInstanceAs (Decidable (∀ name ∈ e.variableNames, Text.Fits name))

instance : DecidablePred Input.Fits :=
  fun input => inferInstanceAs (Decidable (Text.Fits input.name))

instance : DecidablePred Circuit.Fits :=
  fun circuit => decidable_of_iff' _ circuit.fits_iff

instance : DecidablePred Bundle.Fits := fun bundle =>
  inferInstanceAs (Decidable (bundle.circuits.length < 2 ^ 64 ∧
    ∀ circuit ∈ bundle.circuits, circuit.Fits))

namespace Expr

variable {k : Kind}

@[simp] theorem fits_const {value : UInt32} : (const k value).Fits := by
  simp [Fits, variableNames]

@[simp] theorem fits_var {name : String} : (var k name).Fits ↔ Text.Fits name := by
  simp [Fits, variableNames]

@[simp] theorem fits_unary {op : UnaryOp} {operand : Expr} :
    (unary k op operand).Fits ↔ operand.Fits :=
  Iff.rfl

@[simp] theorem fits_binary {op : BinaryOp} {lhs rhs : Expr} :
    (binary k op lhs rhs).Fits ↔ lhs.Fits ∧ rhs.Fits := by
  simp [Fits, variableNames, or_imp, forall_and]

@[simp] theorem fits_cast {operand : Expr} : (cast k operand).Fits ↔ operand.Fits :=
  Iff.rfl

end Expr

namespace Codec

theorem kind_exact : kind.Exact fun _ => True :=
  numbered_exact (by decide) (by rintro ⟨⟩ <;> decide) (by decide)

theorem unaryOp_exact : unaryOp.Exact fun _ => True :=
  numbered_exact (by decide) (by rintro ⟨⟩ <;> decide) (by decide)

theorem binaryOp_exact : binaryOp.Exact fun _ => True :=
  numbered_exact (by decide) (by rintro ⟨⟩ <;> decide) (by decide)

/-- Every level of a tree takes bytes. -/
theorem depth_lt_length_encodeExpr (e : Expr) : e.depth < (encodeExpr e).length := by
  induction e with
  | const | var => simp [Expr.depth, encodeExpr, littleEndian]
  | unary k op operand ih | cast k operand ih =>
    simp [Expr.depth, encodeExpr, littleEndian]
    omega
  | binary k op lhs rhs left right =>
    simp [Expr.depth, encodeExpr, littleEndian]
    omega

/-- With fuel for its levels, a tree is read off the front of its bytes. -/
theorem decodeExpr_encodeExpr {e : Expr} (fits : e.Fits) {fuel : Nat} (enough : e.depth < fuel)
    (rest : List UInt8) : decodeExpr fuel (encodeExpr e ++ rest) = some (e, rest) := by
  have number (n : Nat) (small : n < 256 ^ 4) (rest : List UInt8) :
      readLittleEndian 4 (littleEndian 4 n ++ rest) = some (n, rest) :=
    readLittleEndian_eq_some.mpr ⟨small, rfl⟩
  have kinds (k : Kind) := kind_exact.decode_encode (a := k) trivial
  induction fuel generalizing e rest with
  | zero => contradiction
  | succ fuel ih =>
    cases e with
    | const k value =>
      simp [decodeExpr, encodeExpr, number, kinds, word32_exact.decode_encode]
    | var k name =>
      have short : Text.Fits name := Expr.fits_var.mp fits
      simp [decodeExpr, encodeExpr, number, kinds, text_exact.decode_encode short]
    | unary k op operand =>
      have read := ih (Expr.fits_unary.mp fits) (Nat.lt_of_succ_lt_succ enough)
      simp [decodeExpr, encodeExpr, number, kinds, unaryOp_exact.decode_encode, read]
    | binary k op lhs rhs =>
      obtain ⟨left, right⟩ := Expr.fits_binary.mp fits
      have deep : max lhs.depth rhs.depth < fuel := Nat.lt_of_succ_lt_succ enough
      have readLeft := ih left (by omega)
      have readRight := ih right (by omega)
      simp [decodeExpr, encodeExpr, number, kinds, binaryOp_exact.decode_encode, readLeft,
        readRight]
    | cast k operand =>
      have read := ih (Expr.fits_cast.mp fits) (Nat.lt_of_succ_lt_succ enough)
      simp [decodeExpr, encodeExpr, number, kinds, read]

/-- What is read as a tree are its bytes. -/
theorem eq_encodeExpr_of_decodeExpr {fuel : Nat} {bytes rest : List UInt8} {e : Expr}
    (read : decodeExpr fuel bytes = some (e, rest)) :
    e.Fits ∧ bytes = encodeExpr e ++ rest := by
  induction fuel generalizing bytes rest e with
  | zero => cases read
  | succ fuel ih =>
    simp only [decodeExpr, Option.bind_eq_bind, Option.bind_eq_some_iff, Prod.exists,
      readLittleEndian_eq_some, kind_exact _ _ _] at read
    obtain ⟨number, _, ⟨-, rfl⟩, k, fields, ⟨-, rfl⟩, read⟩ := read
    -- one case for each shape of a node; no other number is read
    split at read <;>
      simp only [Option.bind_eq_some_iff, Prod.exists, Option.pure_def, Option.some.injEq,
        Prod.mk.injEq, word32_exact _ _ _, text_exact _ _ _, unaryOp_exact _ _ _,
        binaryOp_exact _ _ _, reduceCtorEq] at read
    · obtain ⟨value, rest, ⟨-, rfl⟩, rfl, rfl⟩ := read
      simp [encodeExpr]
    · obtain ⟨name, rest, ⟨short, rfl⟩, rfl, rfl⟩ := read
      exact ⟨Expr.fits_var.mpr short, by simp [encodeExpr]⟩
    · obtain ⟨op, middle, ⟨-, rfl⟩, operand, rest, read, rfl, rfl⟩ := read
      obtain ⟨fits, rfl⟩ := ih read
      exact ⟨Expr.fits_unary.mpr fits, by simp [encodeExpr]⟩
    · obtain ⟨op, _, ⟨-, rfl⟩, lhs, _, readLeft, rhs, rest, readRight, rfl, rfl⟩ := read
      obtain ⟨left, rfl⟩ := ih readLeft
      obtain ⟨right, rfl⟩ := ih readRight
      exact ⟨Expr.fits_binary.mpr ⟨left, right⟩, by simp [encodeExpr]⟩
    · obtain ⟨operand, rest, read, rfl, rfl⟩ := read
      obtain ⟨fits, rfl⟩ := ih read
      exact ⟨Expr.fits_cast.mpr fits, by simp [encodeExpr]⟩

theorem expr_exact : expr.Exact Expr.Fits := by
  intro bytes e rest
  constructor
  · exact eq_encodeExpr_of_decodeExpr
  · rintro ⟨fits, rfl⟩
    -- the fuel is the number of bytes, of which those of the tree alone are enough
    refine decodeExpr_encodeExpr fits ?_ rest
    have deep := depth_lt_length_encodeExpr e
    rw [List.length_append]
    exact Nat.lt_add_right _ deep

theorem input_exact : input.Exact Input.Fits :=
  ((text_exact.pair (kind_exact.pair word32_exact)).via (fun _ => rfl) (fun _ => rfl)).congr
    fun input => by simp [Input.Fits, Text.Fits]

theorem circuit_exact : circuit.Exact Circuit.Fits :=
  ((text_exact.pair (input_exact.list.pair (kind_exact.pair (expr_exact.pair
    (text_exact.list.pair bool_exact))))).via (fun _ => rfl) (fun _ => rfl)).congr
    fun circuit => by simp [Circuit.fits_iff, Text.Fits]

theorem bundle_exact : bundle.Exact Bundle.Fits :=
  ((circuit_exact.list.pair word32_exact).via (fun _ => rfl) (fun _ => rfl)).congr
    fun bundle => by simp [Bundle.Fits]

end Codec

namespace Bundle

theorem ofBytes_eq_ok {bytes : List UInt8} {bundle : Bundle} : ofBytes bytes = .ok bundle ↔
    bundle.circuits ≠ [] ∧ ∃ rest, Codec.bundle.decode bytes = some (bundle, rest) := by
  unfold ofBytes
  cases Codec.bundle.decode bytes with
  | none => simp
  | some read =>
    obtain ⟨found, rest⟩ := read
    by_cases empty : found.circuits = [] <;> simp [empty] <;> grind

/-- Bytes are read as a bundle if and only if it has a circuit, fits, and its own bytes stand at
their front. Of one that fits, the bytes begin those of no other, no part of them that breaks off
is read, and they are refused as empty if it has no circuit. -/
theorem ofBytes_exact (bytes : List UInt8) (bundle : Bundle) :
    (ofBytes bytes = .ok bundle ↔
      bundle.circuits ≠ [] ∧ bundle.Fits ∧ bundle.toBytes <+: bytes) ∧
    (bundle.Fits →
      (∀ other : Bundle, other.Fits → bundle.toBytes <+: other.toBytes → bundle = other) ∧
      (bytes <+: bundle.toBytes → bytes ≠ bundle.toBytes → ofBytes bytes = .error .unreadable) ∧
      (bundle.circuits = [] → ofBytes bundle.toBytes = .error (.emptyInput .bundle))) := by
  refine ⟨?_, fun fits => ⟨fun other fitsToo => ?_, fun within short => ?_, fun empty => ?_⟩⟩
  · rw [ofBytes_eq_ok]
    refine and_congr_right fun _ => ⟨?_, ?_⟩
    · rintro ⟨rest, read⟩
      obtain ⟨fits, rfl⟩ := (Codec.bundle_exact ..).mp read
      exact ⟨fits, List.prefix_append ..⟩
    · rintro ⟨fits, rest, rfl⟩
      exact ⟨rest, Codec.bundle_exact.decode_encode fits rest⟩
  · exact Codec.bundle_exact.eq_of_encode_prefix fits fitsToo
  · simp [ofBytes, Codec.bundle_exact.decode_truncated fits within short]
  · have read := Codec.bundle_exact.decode_encode fits []
    rw [List.append_nil] at read
    simp [ofBytes, toBytes, read, empty]

/-- One circuit with a node of every shape and a name beyond ASCII. -/
def varied : Bundle where
  circuits := [{
    name := "größe \"0\"\n"
    inputs := [⟨"f0", .field, 0xFFFFFFFF⟩, ⟨"b0", .bool, 1⟩]
    outputKind := .field
    root := .binary .field .shl (.unary .field .neg (.const .field 300))
      (.cast .field (.unary .bool .not (.var .bool "b0")))
    rewrites := ["add_zero", ""]
    perturbed := true }]
  expected := 65536

theorem ofBytes_exact_varied : ofBytes (varied.toBytes ++ [0, 255]) = .ok varied ∧
    ofBytes (varied.toBytes.take 40) = .error .unreadable := by
  have fits : varied.Fits := by decide +kernel
  refine ⟨(ofBytes_exact _ varied).1.mpr ⟨by decide, fits, List.prefix_append ..⟩, ?_⟩
  exact ((ofBytes_exact _ varied).2 fits).2.1 (List.take_prefix ..) (by decide +kernel)

end Bundle

end Metamorph
