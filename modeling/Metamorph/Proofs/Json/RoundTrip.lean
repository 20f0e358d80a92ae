import Metamorph.Proofs.Json.Tokens

/-! # Reading what was written as JSON

What is written of a value is read as that value, with what follows it left over, whatever blanks
are put between the parts; the pretty form puts line feeds and spaces there. The values meant are
those that have a form of their own: whole numbers are of 64 bits, floats are left out, and every
part has a value. The limits of the reader, its fuel and the room for nesting, are met by the
length of the text. -/

namespace Metamorph.Json

mutual
/-- The value has a form that no other value has. -/
def Exact : Json → Prop
  | .number (.whole n) => -2 ^ 63 ≤ n ∧ n < 2 ^ 64
  | .number (.real _) => False
  | .array items => ExactItems items
  | .object fields => ExactFields fields
  | .unusable => False
  | _ => True

/-- All items are exact. -/
def ExactItems : List Json → Prop
  | [] => True
  | item :: rest => Exact item ∧ ExactItems rest

/-- The values of all fields are exact. -/
def ExactFields : List (String × Json) → Prop
  | [] => True
  | (_, value) :: rest => Exact value ∧ ExactFields rest
end

-- The equations of the readers are derived here, ahead of the proofs that open them.
attribute [local grind =] skipSpace readValue readItems readFields

theorem exact_nat (word : UInt32) : (nat word.toNat).Exact := by
  have small := word.toNat_lt
  constructor <;> omega

theorem exact_list {α : Type} {write : α → Json} (each : ∀ a, (write a).Exact) (as : List α) :
    (list write as).Exact := by
  induction as with
  | nil => trivial
  | cons a as ih => exact ⟨each a, ih⟩

/-! ## Blanks -/

theorem skipSpace_cons {c : Char} (solid : isSpace c = false) (rest : List Char) :
    skipSpace (c :: rest) = c :: rest := by
  simp [skipSpace, solid]

theorem skipSpace_skipSpace (input : List Char) :
    skipSpace (skipSpace input) = skipSpace input := by
  induction input with
  | nil => rfl
  | cons c rest ih =>
    cases solid : isSpace c with
    | true => simpa [skipSpace, solid] using ih
    | false => simp [skipSpace, solid]

/-- What may stand between the parts of a value. -/
def Blank (gap : List Char) : Prop :=
  ∀ c ∈ gap, isSpace c = true

theorem blank_nil : Blank [] := by
  simp [Blank]

theorem blank_space : Blank [' '] := by
  simp [Blank, isSpace]

theorem blank_newLine (level : Nat) : Blank (newLine level) := by
  intro c blank
  simp only [newLine, List.mem_cons, List.mem_replicate] at blank
  obtain rfl | ⟨-, rfl⟩ := blank <;> rfl

/-- A number ends at a blank, and at what is no part of a number. -/
theorem endsNumber_blank {gap rest : List Char} (blank : Blank gap) (ends : EndsNumber rest) :
    EndsNumber (gap ++ rest) := by
  cases gap with
  | nil => exact ends
  | cons c gap =>
    have space := blank c List.mem_cons_self
    simp only [isSpace, Bool.or_eq_true, decide_eq_true_eq] at space
    rw [List.cons_append, endsNumber_cons]
    obtain ((rfl | rfl) | rfl) | rfl := space <;> decide

theorem skipSpace_blank {gap : List Char} (blank : Blank gap) (input : List Char) :
    skipSpace (gap ++ input) = skipSpace input :=
  List.dropWhile_append_of_pos blank

theorem readValue_skipSpace (fuel room : Nat) (input : List Char) :
    readValue fuel room (skipSpace input) = readValue fuel room input := by
  cases fuel with
  | zero => rfl
  | succ fuel => rw [readValue, readValue, skipSpace_skipSpace]

theorem readItems_skipSpace (fuel room : Nat) (input : List Char) :
    readItems fuel room (skipSpace input) = readItems fuel room input := by
  cases fuel with
  | zero => rfl
  | succ fuel => rw [readItems, readItems, readValue_skipSpace]

theorem readFields_skipSpace (fuel room : Nat) (input : List Char) :
    readFields fuel room (skipSpace input) = readFields fuel room input := by
  cases fuel with
  | zero => rfl
  | succ fuel => rw [readFields, readFields, skipSpace_skipSpace]

theorem readValue_blank {gap : List Char} (blank : Blank gap) (fuel room : Nat)
    (input : List Char) : readValue fuel room (gap ++ input) = readValue fuel room input := by
  rw [← readValue_skipSpace, skipSpace_blank blank, readValue_skipSpace]

theorem readItems_blank {gap : List Char} (blank : Blank gap) (fuel room : Nat)
    (input : List Char) : readItems fuel room (gap ++ input) = readItems fuel room input := by
  rw [← readItems_skipSpace, skipSpace_blank blank, readItems_skipSpace]

theorem readFields_blank {gap : List Char} (blank : Blank gap) (fuel room : Nat)
    (input : List Char) : readFields fuel room (gap ++ input) = readFields fuel room input := by
  rw [← readFields_skipSpace, skipSpace_blank blank, readFields_skipSpace]

/-! ## Values -/

theorem readValue_number {n : Int} {fuel room : Nat} {rest : List Char} (least : -2 ^ 63 ≤ n)
    (greatest : n < 2 ^ 64) (ends : EndsNumber rest) :
    readValue (fuel + 1) room (writeNumber (.whole n) ++ rest) =
      some (.number (.whole n), rest) := by
  have starts : ∃ c cs, writeNumber (.whole n) = c :: cs ∧ (c.isDigit = true ∨ c = '-') := by
    cases n with
    | ofNat n =>
      obtain ⟨c, cs, digits, digit⟩ := exists_head_toDigits n
      exact ⟨c, cs, digits, .inl digit⟩
    | negSucc n => exact ⟨_, _, rfl, .inr rfl⟩
  have read := readNumber_writeNumber least greatest ends
  obtain ⟨c, cs, text, starts⟩ := starts
  rw [text, List.cons_append] at read ⊢
  have differs {d : Char} (other : d.isDigit = false ∧ d ≠ '-') : c ≠ d := by
    rintro rfl
    simp [other] at starts
  have solid : isSpace c = false := by
    simp [isSpace, differs]
  simp [readValue, skipSpace_cons solid, differs, read, ofNumber]

theorem readValue_text {s : String} {fuel room : Nat} {rest : List Char}
    (enough : s.length < fuel) :
    readValue (fuel + 1) room (writeText s ++ rest) = some (.text s, rest) := by
  have read := readText_escaped s.toList rest enough
  simp [readValue, writeText, skipSpace_cons, isSpace, read, ofText]

variable {fuel room : Nat} {input left next rest : List Char} {item : Json}
  {items : List Json} {key : String} {fields : List (String × Json)}

/-! ## Arrays -/

/-- An array is read if its items are. -/
theorem readValue_array (read : readItems fuel room input = some (items, rest)) :
    readValue (fuel + 1) (room + 1) ('[' :: input) = some (.array items, rest) := by
  rw [← readItems_skipSpace] at read
  -- nothing is read as items where the bracket closes at once
  have opens : ∀ rest, skipSpace input = ']' :: rest → False := by
    intro rest closed
    rw [closed] at read
    obtain _ | _ | fuel := fuel <;>
      simp [readItems, readValue, skipSpace, isSpace, readNumber, readUnsigned] at read
  simp [readValue, skipSpace_cons, isSpace, read, nested]

theorem readItems_last (read : readValue fuel room input = some (item, left))
    (closed : skipSpace left = ']' :: rest) :
    readItems (fuel + 1) room input = some ([item], rest) := by
  simp [readItems, read, closed]

theorem readItems_more (read : readValue fuel room input = some (item, left))
    (comma : skipSpace left = ',' :: next)
    (others : readItems fuel room next = some (items, rest)) :
    readItems (fuel + 1) room input = some (item :: items, rest) := by
  simp [readItems, read, comma, others]

/-! ## Objects -/

/-- An object is read if its fields are. -/
theorem readValue_object (read : readFields fuel room input = some (some fields, rest)) :
    readValue (fuel + 1) (room + 1) ('\x7b' :: input) = some (.object fields, rest) := by
  rw [← readFields_skipSpace] at read
  have opens : ∀ rest, skipSpace input = '\x7d' :: rest → False := by
    intro rest closed
    rw [closed] at read
    obtain _ | fuel := fuel <;> simp [readFields, skipSpace, isSpace] at read
  simp [readValue, skipSpace_cons, isSpace, read, nested, ofFields]

variable {value : Json}

/-- The key of a field, as it is written, is read in front of the value. -/
theorem readFields_last (enough : key.length < fuel)
    (read : readValue fuel room next = some (value, left))
    (closed : skipSpace left = '\x7d' :: rest) :
    readFields (fuel + 1) room (writeText key ++ ':' :: next) =
      some (some [(key, value)], rest) := by
  have named := readText_escaped key.toList (':' :: next) enough
  simp [readFields, writeText, skipSpace_cons, isSpace, named, read, closed]

theorem readFields_more {more : List Char} (enough : key.length < fuel)
    (read : readValue fuel room next = some (value, left)) (comma : skipSpace left = ',' :: more)
    (others : readFields fuel room more = some (some fields, rest)) :
    readFields (fuel + 1) room (writeText key ++ ':' :: next) =
      some (some ((key, value) :: fields), rest) := by
  have named := readText_escaped key.toList (':' :: next) enough
  simp [readFields, writeText, skipSpace_cons, isSpace, named, read, comma, others]

/-! ## Whole values -/

theorem length_le_length_writeText (s : String) : s.length + 2 ≤ (writeText s).length := by
  have inside := length_le_length_escaped s.toList
  rw [String.length_toList] at inside
  simpa [writeText] using inside

variable {text tail gap space : List Char}

/-- With two steps for every character and room for its nesting, a text is read as a value. -/
structure ReadsBack (value : Json) (text : List Char) : Prop where
  read : ∀ ⦃fuel room : Nat⦄ ⦃rest : List Char⦄, 2 * text.length ≤ fuel → value.depth ≤ room →
    EndsNumber rest → readValue fuel room (text ++ rest) = some (value, rest)
  /-- Every level of nesting takes characters. -/
  deep : value.depth ≤ text.length

/-- Once an item is read, so are those behind it. -/
structure ReadsItems (items : List Json) (tail : List Char) : Prop where
  read : ∀ ⦃item : Json⦄ ⦃fuel room : Nat⦄ ⦃input rest : List Char⦄,
    readValue fuel room input = some (item, tail ++ rest) → 2 * tail.length ≤ fuel →
    depthItems items ≤ room → readItems (fuel + 1) room input = some (item :: items, rest)
  deep : depthItems items ≤ tail.length
  ends : ∀ rest, EndsNumber (tail ++ rest)

/-- Once a field is read, so are those behind it. -/
structure ReadsFields (fields : List (String × Json)) (tail : List Char) : Prop where
  read : ∀ ⦃key : String⦄ ⦃value : Json⦄ ⦃fuel room : Nat⦄ ⦃input rest : List Char⦄,
    key.length < fuel → readValue fuel room input = some (value, tail ++ rest) →
    2 * tail.length ≤ fuel → depthFields fields ≤ room →
    readFields (fuel + 1) room (writeText key ++ ':' :: input) =
      some (some ((key, value) :: fields), rest)
  deep : depthFields fields ≤ tail.length
  ends : ∀ rest, EndsNumber (tail ++ rest)

/-- Where something is written there is fuel to read it. -/
theorem readsBack_of_succ {c : Char} {cs : List Char} (deep : value.depth ≤ cs.length + 1)
    (reads : ∀ ⦃fuel room : Nat⦄ ⦃rest : List Char⦄, 2 * cs.length ≤ fuel → value.depth ≤ room →
      EndsNumber rest → readValue (fuel + 2) room (c :: cs ++ rest) = some (value, rest)) :
    ReadsBack value (c :: cs) := by
  refine ⟨fun fuel room rest enough roomy ends => ?_, deep⟩
  rw [List.length_cons] at enough
  obtain ⟨fuel, rfl⟩ := Nat.exists_eq_add_of_le' (show 2 ≤ fuel by omega)
  exact reads (by omega) roomy ends

theorem readsBack_null : ReadsBack .null "null".toList :=
  readsBack_of_succ (Nat.zero_le _) fun _ _ _ _ _ _ => rfl

theorem readsBack_bool {b : Bool} : ReadsBack (.bool b) (writeScalar (.bool b)) := by
  cases b <;> exact readsBack_of_succ (Nat.zero_le _) fun _ _ _ _ _ _ => rfl

theorem readsBack_number {n : Int} (least : -2 ^ 63 ≤ n) (greatest : n < 2 ^ 64) :
    ReadsBack (.number (.whole n)) (writeNumber (.whole n)) := by
  have nonempty : writeNumber (.whole n) ≠ [] := by
    cases n with
    | ofNat n => exact Nat.toDigits_ne_nil
    | negSucc n => exact List.cons_ne_nil _ _
  obtain ⟨c, cs, written⟩ := List.exists_cons_of_ne_nil nonempty
  rw [written]
  refine readsBack_of_succ (Nat.zero_le _) fun _ _ _ _ _ ends => ?_
  rw [← written]
  exact readValue_number least greatest ends

theorem readsBack_text {s : String} : ReadsBack (.text s) (writeText s) := by
  refine readsBack_of_succ (Nat.zero_le _) fun fuel room rest enough _ _ => ?_
  have short := length_le_length_escaped s.toList
  rw [String.length_toList] at short
  simp only [List.append_eq, List.length_append] at enough
  exact readValue_text (by omega)

theorem readsBack_array_nil : ReadsBack (.array []) ['[', ']'] := by
  refine readsBack_of_succ (by decide) fun _ room _ _ deep _ => ?_
  obtain ⟨room, rfl⟩ := Nat.exists_eq_add_of_le' (show 1 ≤ room from deep)
  simp [readValue, skipSpace_cons, isSpace, nested]

theorem ReadsBack.array (blank : Blank gap) (first : ReadsBack item text)
    (others : ReadsItems items tail) :
    ReadsBack (.array (item :: items)) ('[' :: (gap ++ (text ++ tail))) := by
  have itemDeep := first.deep
  have othersDeep := others.deep
  refine readsBack_of_succ ?_ fun fuel room rest enough deep _ => ?_
  · simp only [depth, depthItems, List.length_append]
    omega
  simp only [List.length_append] at enough
  rw [depth, depthItems] at deep
  obtain ⟨room, rfl⟩ := Nat.exists_eq_add_of_le' (show 1 ≤ room by omega)
  simp only [List.cons_append, List.append_assoc]
  refine readValue_array ?_
  rw [readItems_blank blank]
  exact others.read (first.read (by omega) (by omega) (others.ends rest)) (by omega) (by omega)

theorem readsItems_nil (blank : Blank gap) : ReadsItems [] (gap ++ [']']) := by
  refine ⟨fun item fuel room input rest read _ _ => ?_, Nat.zero_le _, fun rest => ?_⟩
  · refine readItems_last read ?_
    rw [List.append_assoc, skipSpace_blank blank]
    exact skipSpace_cons rfl _
  · rw [List.append_assoc]
    exact endsNumber_blank blank (endsNumber_cons.mpr (by decide))

theorem ReadsItems.cons (blank : Blank gap) (first : ReadsBack item text)
    (others : ReadsItems items tail) :
    ReadsItems (item :: items) (',' :: (gap ++ (text ++ tail))) := by
  have itemDeep := first.deep
  have othersDeep := others.deep
  refine ⟨fun before fuel room input rest read enough deep => ?_, ?_, fun rest => ?_⟩
  · simp only [List.length_cons, List.length_append] at enough
    rw [depthItems] at deep
    obtain ⟨fuel, rfl⟩ := Nat.exists_eq_add_of_le' (show 1 ≤ fuel by omega)
    simp only [List.cons_append, List.append_assoc] at read
    refine readItems_more read (skipSpace_cons rfl _) ?_
    rw [readItems_blank blank]
    exact others.read (first.read (by omega) (by omega) (others.ends rest)) (by omega) (by omega)
  · simp only [depthItems, List.length_cons, List.length_append]
    omega
  · exact endsNumber_cons.mpr (by decide)

theorem readsBack_object_nil : ReadsBack (.object []) ['\x7b', '\x7d'] := by
  refine readsBack_of_succ (by decide) fun _ room _ _ deep _ => ?_
  obtain ⟨room, rfl⟩ := Nat.exists_eq_add_of_le' (show 1 ≤ room from deep)
  simp [readValue, skipSpace_cons, isSpace, nested]

theorem ReadsBack.object (blank : Blank gap) (apart : Blank space) (first : ReadsBack value text)
    (others : ReadsFields fields tail) :
    ReadsBack (.object ((key, value) :: fields))
      ('\x7b' :: (gap ++ (writeText key ++ ':' :: (space ++ (text ++ tail))))) := by
  have valueDeep := first.deep
  have othersDeep := others.deep
  have short := length_le_length_writeText key
  refine readsBack_of_succ ?_ fun fuel room rest enough deep _ => ?_
  · simp only [depth, depthFields, List.length_cons, List.length_append]
    omega
  simp only [List.length_cons, List.length_append] at enough
  rw [depth, depthFields] at deep
  obtain ⟨room, rfl⟩ := Nat.exists_eq_add_of_le' (show 1 ≤ room by omega)
  simp only [List.cons_append, List.append_assoc]
  refine readValue_object ?_
  rw [readFields_blank blank]
  refine others.read (by omega) ?_ (by omega) (by omega)
  rw [readValue_blank apart]
  exact first.read (by omega) (by omega) (others.ends rest)

theorem readsFields_nil (blank : Blank gap) : ReadsFields [] (gap ++ ['\x7d']) := by
  refine ⟨fun key value fuel room input rest named read _ _ => ?_, Nat.zero_le _, fun rest => ?_⟩
  · refine readFields_last named read ?_
    rw [List.append_assoc, skipSpace_blank blank]
    exact skipSpace_cons rfl _
  · rw [List.append_assoc]
    exact endsNumber_blank blank (endsNumber_cons.mpr (by decide))

theorem ReadsFields.cons (blank : Blank gap) (apart : Blank space) (first : ReadsBack value text)
    (others : ReadsFields fields tail) :
    ReadsFields ((key, value) :: fields)
      (',' :: (gap ++ (writeText key ++ ':' :: (space ++ (text ++ tail))))) := by
  have valueDeep := first.deep
  have othersDeep := others.deep
  have short := length_le_length_writeText key
  refine ⟨fun before item fuel room input rest named read enough deep => ?_, ?_, fun rest => ?_⟩
  · simp only [List.length_cons, List.length_append] at enough
    rw [depthFields] at deep
    obtain ⟨fuel, rfl⟩ := Nat.exists_eq_add_of_le' (show 1 ≤ fuel by omega)
    simp only [List.cons_append, List.append_assoc] at read
    refine readFields_more named read (skipSpace_cons rfl _) ?_
    rw [readFields_blank blank]
    refine others.read (by omega) ?_ (by omega) (by omega)
    rw [readValue_blank apart]
    exact first.read (by omega) (by omega) (others.ends rest)
  · simp only [depthFields, List.length_cons, List.length_append]
    omega
  · exact endsNumber_cons.mpr (by decide)

/-! ## The pretty form -/

-- The induction goes as the printer does: what is left of a list is printed and read as a whole.
mutual
/-- An exact value is read as it was written. -/
theorem Exact.readsBack (level : Nat) :
    ∀ value : Json, value.Exact → ReadsBack value (writePretty level value)
  | .null, _ => readsBack_null
  | .bool _, _ => readsBack_bool
  | .number (.whole _), exact => readsBack_number exact.1 exact.2
  | .text _, _ => readsBack_text
  | .array [], _ => readsBack_array_nil
  | .array (item :: items), exact =>
    ReadsBack.array (blank_newLine _) (Exact.readsBack (level + 1) item exact.1)
      (ExactItems.readsItems level items exact.2)
  | .object [], _ => readsBack_object_nil
  | .object ((_, value) :: fields), exact =>
    ReadsBack.object (blank_newLine _) blank_space (Exact.readsBack (level + 1) value exact.1)
      (ExactFields.readsFields level fields exact.2)

theorem ExactItems.readsItems (level : Nat) :
    ∀ items : List Json, ExactItems items → ReadsItems items (prettyItems level items)
  | [], _ => readsItems_nil (blank_newLine _)
  | item :: items, exact =>
    ReadsItems.cons (blank_newLine _) (Exact.readsBack (level + 1) item exact.1)
      (ExactItems.readsItems level items exact.2)

theorem ExactFields.readsFields (level : Nat) :
    ∀ fields : List (String × Json), ExactFields fields →
      ReadsFields fields (prettyFields level fields)
  | [], _ => readsFields_nil (blank_newLine _)
  | (_, value) :: fields, exact =>
    ReadsFields.cons (blank_newLine _) blank_space (Exact.readsBack (level + 1) value exact.1)
      (ExactFields.readsFields level fields exact.2)
end

/-- A text that is read back is one whole text of its value. -/
theorem ReadsBack.ofChars? (reads : ReadsBack value text) (deep : value.depth ≤ room) :
    ofChars? room text = some value := by
  have read := reads.read (Nat.le_succ _) deep endsNumber_nil
  rw [List.append_nil] at read
  simp [Json.ofChars?, read, skipSpace]

theorem parse?_pretty (exact : value.Exact) : parse? value.pretty = some value := by
  have reads := Exact.readsBack 0 value exact
  rw [parse?, pretty, String.toList_ofList]
  exact reads.ofChars? reads.deep

theorem parseShallow?_pretty (exact : value.Exact) (shallow : value.depth ≤ depthLimit) :
    parseShallow? value.pretty = some value := by
  rw [parseShallow?, pretty, String.toList_ofList]
  exact (Exact.readsBack 0 value exact).ofChars? shallow

end Metamorph.Json
