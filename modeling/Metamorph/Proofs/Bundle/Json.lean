import Metamorph.Bundle.Json
import Metamorph.Proofs.Bundle.Binary
import Metamorph.Proofs.Json.Record
import Metamorph.Proofs.Json.RoundTrip

/-! # The JSON text of a bundle

Every part of a bundle is read from the JSON that it is written as, and this JSON is exact. So the
text of a bundle gives the bundle again, whatever its texts are and however deep its trees. -/

namespace Metamorph

theorem Kind.ofJson?_toJson (kind : Kind) : Kind.ofJson? kind.toJson = some kind := by
  cases kind <;> rfl

theorem UnaryOp.ofJson?_toJson (op : UnaryOp) : UnaryOp.ofJson? op.toJson = some op := by
  cases op <;> rfl

theorem BinaryOp.ofJson?_toJson (op : BinaryOp) : BinaryOp.ofJson? op.toJson = some op := by
  cases op <;> rfl

namespace Expr

/-- A tree is nested at least as deep in JSON. -/
theorem depth_le_depth_toJson (e : Expr) : e.depth ≤ e.toJson.depth := by
  induction e <;> simp [depth, toJson, Json.depth, Json.depthFields] <;> omega

/-- The parts of a node are read by their names. -/
theorem readTree_object {fuel : Nat} {shape : String} {parts : List (String × Json)}
    (named : parts.map Prod.fst = partNames shape) (once : (partNames shape).Nodup) :
    readTree (fuel + 1) (.object [(shape, .object parts)]) =
      ofParts? (readTree fuel) shape (parts.map Prod.snd) := by
  have all : (parts.map fun part => some part.2).mapM id = some (parts.map Prod.snd) :=
    List.mapM_map.trans List.mapM_pure
  simp [readTree, Json.record?_object named once, all]

/-- With fuel for its levels, a tree is read from its JSON form. -/
theorem readTree_toJson {e : Expr} {fuel : Nat} (enough : e.depth < fuel) :
    readTree fuel e.toJson = some e := by
  induction fuel generalizing e with
  | zero => contradiction
  | succ fuel ih =>
    cases e with
    | const k value =>
      rw [toJson, readTree_object rfl (by decide)]
      simp [ofParts?, Kind.ofJson?_toJson, Json.word32?_nat]
    | var k name =>
      rw [toJson, readTree_object rfl (by decide)]
      simp [ofParts?, Kind.ofJson?_toJson, Json.string?_text]
    | unary k op operand =>
      have read := ih (Nat.lt_of_succ_lt_succ enough)
      rw [toJson, readTree_object rfl (by decide)]
      simp [ofParts?, Kind.ofJson?_toJson, UnaryOp.ofJson?_toJson, read]
    | binary k op lhs rhs =>
      have deep : max lhs.depth rhs.depth < fuel := Nat.lt_of_succ_lt_succ enough
      have left : readTree fuel lhs.toJson = some lhs := ih (by omega)
      have right : readTree fuel rhs.toJson = some rhs := ih (by omega)
      rw [toJson, readTree_object rfl (by decide)]
      simp [ofParts?, Kind.ofJson?_toJson, BinaryOp.ofJson?_toJson, left, right]
    | cast k operand =>
      have read := ih (Nat.lt_of_succ_lt_succ enough)
      rw [toJson, readTree_object rfl (by decide)]
      simp [ofParts?, Kind.ofJson?_toJson, read]

theorem exact_toJson (e : Expr) : e.toJson.Exact := by
  induction e with
  | const k value => exact ⟨⟨trivial, Json.exact_nat value, trivial⟩, trivial⟩
  | var k name => exact ⟨⟨trivial, trivial, trivial⟩, trivial⟩
  | unary k op operand ih => exact ⟨⟨trivial, trivial, ih, trivial⟩, trivial⟩
  | binary k op lhs rhs left right => exact ⟨⟨trivial, trivial, left, right, trivial⟩, trivial⟩
  | cast k operand ih => exact ⟨⟨trivial, ih, trivial⟩, trivial⟩

theorem ofJson?_toJson (e : Expr) : ofJson? e.toJson = some e :=
  readTree_toJson (Nat.lt_succ_of_le e.depth_le_depth_toJson)

end Expr

theorem Input.ofJson?_toJson (input : Input) : Input.ofJson? input.toJson = some input := by
  rw [toJson, ofJson?, Json.record?_object (by rfl) (by decide)]
  simp [Json.required?, Json.string?_text, Kind.ofJson?_toJson, Json.word32?_nat]

theorem Input.exact_toJson (input : Input) : input.toJson.Exact :=
  ⟨trivial, trivial, Json.exact_nat input.value, trivial⟩

theorem Circuit.ofJson?_toJson (circuit : Circuit) :
    Circuit.ofJson? circuit.toJson = some circuit := by
  rw [toJson, ofJson?, Json.record?_object (by rfl) (by decide)]
  simp [Json.required?, Json.string?_text, Kind.ofJson?_toJson, Json.bool?, Expr.ofJson?_toJson,
    Json.list?_list Input.ofJson?_toJson, Json.list?_list Json.string?_text]

theorem Circuit.exact_toJson (circuit : Circuit) : circuit.toJson.Exact :=
  ⟨trivial, Json.exact_list Input.exact_toJson _, trivial, circuit.root.exact_toJson,
    Json.exact_list (fun s => show (Json.text s).Exact from trivial) _, trivial, trivial⟩

namespace Bundle

theorem ofJson?_toJson (bundle : Bundle) : ofJson? bundle.toJson = some bundle := by
  rw [toJson, ofJson?, Json.record?_object (by rfl) (by decide)]
  simp [Json.required?, Json.list?_list Circuit.ofJson?_toJson, Json.word32?_nat]

theorem exact_toJson (bundle : Bundle) : bundle.toJson.Exact :=
  ⟨Json.exact_list Circuit.exact_toJson _, Json.exact_nat bundle.expected, trivial⟩

/-- The whole text of a bundle is one value, which gives the bundle. -/
theorem parse?_toText (bundle : Bundle) :
    (Json.parse? bundle.toText).bind ofJson? = some bundle := by
  rw [toText, Json.parse?_pretty bundle.exact_toJson]
  exact bundle.ofJson?_toJson

/-- The text of a bundle gives the bundle, whatever its texts are and however deep its trees, and
no other bundle has this text. What its bytes give, if it fits into them, is the same. A reader
that limits the nesting gives it too where the trees are as deep as the limit allows. -/
theorem toText_lossless (bundle : Bundle) :
    (Json.parse? bundle.toText).bind ofJson? = some bundle ∧
      (∀ other : Bundle, bundle.toText = other.toText → bundle = other) ∧
      (bundle.Fits → bundle.circuits ≠ [] → ∃ decoded, ofBytes bundle.toBytes = .ok decoded ∧
        (Json.parse? bundle.toText).bind ofJson? = some decoded) ∧
      (bundle.toJson.depth ≤ Json.depthLimit → ofText? bundle.toText = some bundle) := by
  refine ⟨bundle.parse?_toText, fun other same => ?_, fun fits nonempty => ?_, fun shallow => ?_⟩
  · have read := bundle.parse?_toText
    rw [same, other.parse?_toText] at read
    exact (Option.some.inj read).symm
  · have read := Codec.bundle_exact.decode_encode fits []
    rw [List.append_nil] at read
    exact ⟨bundle, ofBytes_eq_ok.mpr ⟨nonempty, [], read⟩, bundle.parse?_toText⟩
  · rw [ofText?, toText, Json.parseShallow?_pretty bundle.exact_toJson shallow]
    exact bundle.ofJson?_toJson

theorem toText_lossless_varied : ∃ decoded, ofBytes varied.toBytes = .ok decoded ∧
    (Json.parse? varied.toText).bind ofJson? = some decoded :=
  (toText_lossless varied).2.2.1 (by decide +kernel) (by decide)

end Bundle

end Metamorph
