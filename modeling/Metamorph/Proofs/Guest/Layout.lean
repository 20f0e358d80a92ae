import Metamorph.Guest.Module
import Metamorph.Proofs.Guest.Lines
import Metamorph.Proofs.Text.Lines

/-! # The items of a bundle

The module that is written for a bundle is read back as its items, one group of lines after the
other: the expected value, the record of inputs and what is recorded in it, the helpers, a
function for each circuit, and the function that calls all of them. The texts of the bundle have
to be names, and what is said of its rewrites has to stay in one line. -/

namespace Metamorph.Guest

variable {alphabet : Alphabet}

/-! ## Groups of lines -/

theorem Spells.lex_eq {text : String} {tokens : List Token} {t : Term}
    (spells : Spells alphabet text tokens t) : lex alphabet text.toList = some tokens := by
  simpa using spells.cut [] (by simp [Parted])

/-- The tokens of an expression, if it has any. -/
def bodyTokens (alphabet : Alphabet) (e : Expr) : List Token :=
  (lex alphabet (render e).toList).getD []

theorem bodyTokens_spells {e : Expr}
    (identifiers : ∀ name ∈ e.variableNames, isIdentifier alphabet name = true) :
    Spells alphabet (render e) (bodyTokens alphabet e) e.toTerm := by
  obtain ⟨tokens, spells⟩ := Expr.spells identifiers
  rwa [bodyTokens, spells.lex_eq]

/-- The function of a circuit. -/
def circuitItem (alphabet : Alphabet) (circuit : Circuit) : Item :=
  .function circuit.name "inputs" "Inputs" (bodyTokens alphabet circuit.root)

open Items

theorem newline_notMem_of_isPlain {text : String} (plain : isPlain text = true) :
    '\n' ∉ text.toList := by
  intro inside
  simp only [isPlain, Bool.and_eq_true, List.all_eq_true] at plain
  exact absurd (plain.2 _ inside) (by decide)

theorem prints_header (bundle : Bundle) : Prints alphabet (header bundle)
    (tokens .allowance ++ tokens (.constant "EXPECTED" bundle.expected)) := by
  have first : Scans alphabet
      ("// Generated bundle: 1 seed, " ++ toString (bundle.size - 1) ++ " variants").toList [] := by
    have digits := newline_notMem_of_isPlain (isPlain_number (bundle.size - 1))
    refine .comment ?_ ?_
    · simp
    · simpa using digits
  have lines := Prints.ofLines (.cons first (.cons (Piece.scans .allowance) (.cons scans_empty
    (.cons (scans_expected bundle.expected) (.cons scans_empty .nil)))))
  rw [header]
  simpa [tokens, Piece.text, Piece.tokens] using lines

theorem prints_inputRecord {inputs : List Input}
    (plain : ∀ input ∈ inputs, isPlain input.name = true) :
    Prints alphabet (inputRecord inputs) (tokens (.record "Inputs" (inputs.map (·.name)))) := by
  have front : Prints alphabet _ _ :=
    .ofLines (.cons (Piece.scans .derived) (.cons (Piece.scans .record) .nil))
  have fields := Prints.map fun input member =>
    @scans_field alphabet _ (plain input member)
  have back : Prints alphabet _ _ := .ofLines (.cons (Piece.scans .brace) (.cons scans_empty .nil))
  have all := (front.append fields).append back
  rw [inputRecord, Text.ofLines_append, Text.ofLines_append]
  simpa [tokens, Piece.text, Piece.tokens, List.flatMap_map] using all

theorem prints_recordedInputs {inputs : List Input}
    (plain : ∀ input ∈ inputs, isPlain input.name = true) :
    Prints alphabet (recordedInputs inputs) (tokens
      (.recorded "Inputs" "recorded" (inputs.map fun input => (input.name, input.value)))) := by
  have front : Prints alphabet _ _ := .ofLines
    (.cons (Piece.scans .impl) (.cons (Piece.scans .method) (.cons (Piece.scans .self) .nil)))
  have values := Prints.map fun input member =>
    @scans_value alphabet _ (plain input member) input.value
  have inner : Scans alphabet "        \x7d".toList [.mark "\x7d"] := (Piece.scans .brace).blanks 8
  have outer : Scans alphabet "    \x7d".toList [.mark "\x7d"] := (Piece.scans .brace).blanks 4
  have back := Prints.ofLines
    (.cons inner (.cons outer (.cons (Piece.scans .brace) (.cons scans_empty .nil))))
  have all := (front.append values).append back
  rw [recordedInputs, Text.ofLines_append, Text.ofLines_append]
  simpa [tokens, Piece.text, Piece.tokens, List.flatMap_map] using all

theorem prints_helpers :
    Prints alphabet helpers (tokens (.helper quotient) ++ tokens (.helper remainder)) := by
  exact Prints.ofLines (.cons (Piece.scans .inlined) (.cons (Piece.scans .quotientHead)
    (.cons (Piece.scans .quotientBody) (.cons (Piece.scans .brace) (.cons scans_empty
      (.cons (Piece.scans .inlined) (.cons (Piece.scans .remainderHead)
        (.cons (Piece.scans .remainderBody) (.cons (Piece.scans .brace) .nil)))))))))

theorem notMem_intercalate {c : Char} {separator : String} {texts : List String}
    (apart : c ∉ separator.toList) (inside : ∀ text ∈ texts, c ∉ text.toList) :
    c ∉ (separator.intercalate texts).toList := by
  induction texts with
  | nil => simp
  | cons text texts ih =>
      obtain ⟨first, others⟩ := List.forall_mem_cons.mp inside
      cases texts with
      | nil => simpa using first
      | cons next texts =>
          rw [String.intercalate_cons_cons, String.toList_append, String.toList_append,
            List.mem_append, List.mem_append]
          rintro ((here | between) | later)
          · exact first here
          · exact apart between
          · exact ih others later

/-- What is said of rewrites is a comment. -/
theorem prints_provenance {circuit : Circuit}
    (oneLine : ∀ rule ∈ circuit.rewrites, '\n' ∉ rule.toList) :
    Prints alphabet (Text.ofLines (provenance circuit)) [] := by
  unfold provenance
  split
  · exact .ofLines .nil
  · have names : '\n' ∉ (", ".intercalate circuit.rewrites).toList :=
      notMem_intercalate (by simp) oneLine
    refine .ofLines (.cons (.comment ?_ ?_) .nil)
    · simp
    · rw [String.toList_append, List.mem_append]
      rintro (front | back)
      · simp at front
      · exact names back

theorem prints_circuitFunction {circuit : Circuit} (plain : isPlain circuit.name = true)
    (identifiers : ∀ name ∈ circuit.root.variableNames, isIdentifier alphabet name = true)
    (oneLine : ∀ rule ∈ circuit.rewrites, '\n' ∉ rule.toList) :
    Prints alphabet (circuitFunction circuit) (tokens (circuitItem alphabet circuit)) := by
  have comment := @prints_provenance alphabet _ oneLine
  have body : Scans alphabet ("    " ++ render circuit.root).toList
      (bodyTokens alphabet circuit.root) := by
    rw [String.toList_append]
    exact Scans.blanks (scan_of_lex (bodyTokens_spells identifiers).lex_eq) 4
  have function := Prints.ofLines
    (.cons (scans_function plain) (.cons body (.cons (Piece.scans .brace) .nil)))
  rw [circuitFunction, Text.ofLines_append]
  simpa [circuitItem, tokens, Piece.text, Piece.tokens] using comment.append function

theorem prints_entryFunction {name : String} {bundle : Bundle} (plain : isPlain name = true)
    (plains : ∀ name ∈ bundle.names, isPlain name = true) :
    Prints alphabet (entryFunction name bundle) (tokens
      (.entry name "inputs" "Inputs" bundle.size (bundle.names.map (·, "inputs")))) := by
  have calls : Scans alphabet
      ("    [" ++ ", ".intercalate (bundle.names.map (· ++ "(inputs)")) ++ "]").toList
      (.mark "[" :: callTokens (bundle.names.map (·, "inputs"))) := scans_array plains
  have function := Prints.ofLines (.cons scans_empty (.cons (scans_entry plain bundle.size)
    (.cons calls (.cons (Piece.scans .brace) .nil))))
  rw [entryFunction]
  simpa [tokens, Piece.text, Piece.tokens] using function

/-! ## Modules -/

/-- Expressions have no marks. -/
theorem Reads.noMarks {level : Nat} {tokens : List Token} {t : Term}
    (reads : Reads alphabet level tokens t) (text : String) : Token.mark text ∉ tokens := by
  induction reads with
  | literal | input => simp
  | paren _ ih | neg _ ih => simp [ih]
  | wrapping _ _ _ ihr iha => simp [ihr, iha]
  | call _ _ _ iha ihb => simp [iha, ihb]
  | cast _ _ ih => simp [castTokens, ih]
  | sign _ _ _ _ _ ihl ihr => simp [ihl, ihr]

/-- The items of the module of a bundle. -/
def bundleItems (alphabet : Alphabet) (bundle : Bundle) : List Item :=
  [.allowance, .constant "EXPECTED" bundle.expected, .record "Inputs" (bundle.inputs.map (·.name)),
    .recorded "Inputs" "recorded" (bundle.inputs.map fun input => (input.name, input.value)),
    .helper quotient, .helper remainder] ++
  bundle.circuits.map (circuitItem alphabet) ++
  [.entry "run_all" "inputs" "Inputs" bundle.size (bundle.names.map (·, "inputs"))]

/-- A bundle of valid circuits whose texts are fit for a module. -/
structure Presentable (bundle : Bundle) : Prop where
  valid : ∀ circuit ∈ bundle.circuits, circuit.validate = .ok ()
  circuitNames : ∀ circuit ∈ bundle.circuits, IsName circuit.name
  inputNames : ∀ input ∈ bundle.inputs, IsName input.name
  variableNames : ∀ circuit ∈ bundle.circuits, ∀ name ∈ circuit.root.variableNames, IsName name
  oneLine : ∀ circuit ∈ bundle.circuits, ∀ rule ∈ circuit.rewrites, '\n' ∉ rule.toList

namespace Presentable

variable {bundle : Bundle} (h : Presentable bundle)

include h

theorem emits : bundle.circuits.mapM emitCircuit =
    .ok (bundle.circuits.map circuitFunction) := by
  have valid := h.valid
  generalize bundle.circuits = circuits at valid
  induction circuits with
  | nil => rfl
  | cons circuit circuits ih =>
      obtain ⟨first, others⟩ := List.forall_mem_cons.mp valid
      rw [List.mapM_cons, ih others, emitCircuit, first]
      rfl

theorem spells (alphabet : Alphabet) {circuit : Circuit} (contained : circuit ∈ bundle.circuits) :
    Spells alphabet (render circuit.root) (bodyTokens alphabet circuit.root) circuit.root.toTerm :=
  bodyTokens_spells fun name used => (h.variableNames circuit contained name used).isIdentifier

theorem proper : ∀ item ∈ bundleItems alphabet bundle, Proper alphabet item := by
  have expected : IsName "EXPECTED" := by rfl
  have inputs : IsName "Inputs" := by rfl
  have recorded : IsName "recorded" := by rfl
  have parameter : IsName "inputs" := by rfl
  have entry : IsName "run_all" := by rfl
  have named : ∀ input ∈ bundle.inputs, isIdentifier alphabet input.name = true :=
    fun input declared => (h.inputNames input declared).isIdentifier
  have functions : ∀ item ∈ bundle.circuits.map (circuitItem alphabet), Proper alphabet item := by
    intro item member
    obtain ⟨circuit, contained, rfl⟩ := List.mem_map.mp member
    have spells := h.spells alphabet contained
    exact ⟨(h.circuitNames circuit contained).isIdentifier, parameter.isIdentifier,
      inputs.isIdentifier, spells.reads.noMarks⟩
  simp only [bundleItems, List.forall_mem_append, List.forall_mem_cons]
  exact ⟨⟨⟨trivial, expected.isIdentifier, ⟨inputs.isIdentifier, List.forall_mem_map.mpr named⟩,
    ⟨inputs.isIdentifier, recorded.isIdentifier, List.forall_mem_map.mpr named⟩, trivial, trivial,
    by simp⟩, functions⟩,
    ⟨entry.isIdentifier, parameter.isIdentifier, inputs.isIdentifier⟩, by simp⟩

theorem prints_functions : Prints alphabet
    (String.join ((bundle.circuits.map circuitFunction).map ("\n" ++ ·)))
    (bundle.circuits.flatMap fun circuit => tokens (circuitItem alphabet circuit)) := by
  have each : ∀ circuit ∈ bundle.circuits, Prints alphabet ("\n" ++ circuitFunction circuit)
      (tokens (circuitItem alphabet circuit)) := by
    intro circuit contained
    have blank : Prints alphabet ("" ++ "\n") [] := .line scans_empty
    exact blank.append (prints_circuitFunction (h.circuitNames circuit contained).isPlain
      (fun name used => (h.variableNames circuit contained name used).isIdentifier)
      (h.oneLine circuit contained))
  rw [List.map_map]
  exact .joinMap each

/-- The module of a bundle consists of its items, whatever table of letters it is read with. -/
theorem items?_emitBundle : ∃ text, emitBundle {} bundle = .ok text ∧
    ∀ alphabet, items? alphabet text = some (bundleItems alphabet bundle) := by
  have plainInputs : ∀ input ∈ bundle.inputs, isPlain input.name = true :=
    fun input member => (h.inputNames input member).isPlain
  have plainNames : ∀ name ∈ bundle.names, isPlain name = true := by
    intro name member
    obtain ⟨circuit, contained, rfl⟩ := List.mem_map.mp member
    exact (h.circuitNames circuit contained).isPlain
  refine ⟨_, by rw [emitBundle, h.emits]; rfl, fun alphabet => items?_eq ?_ h.proper⟩
  have entry : Prints alphabet (entryFunction "run_all" bundle) _ :=
    prints_entryFunction (by rfl) plainNames
  have whole := (((((prints_header bundle).append (prints_inputRecord plainInputs)).append
    (prints_recordedInputs plainInputs)).append prints_helpers).append h.prints_functions).append
    entry
  simpa [bundleItems, List.flatMap_append, List.flatMap_map] using whole.scans

end Presentable

end Metamorph.Guest
