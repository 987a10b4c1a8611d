import ClassSynth.Proofs.Inference.Naming

/-!
# Looking up fields

A field is asked for by its identifier or by its key, and the first field that answers is found.  In
a class that comes out of a synthesis, whatever name a field answers to, the identifier of the field
is that name made an identifier.  Identifiers are told apart, so no two fields answer to one name.
-/

set_option autoImplicit false

namespace ClassSynth

/-- Whether a field has a name as its identifier or as its key. -/
def Field.Answers (field : Field) (name : Text) : Prop := field.name = name ∨ field.jsonName = name

def FieldsNamedByKey (spec : ClassSpec) : Prop :=
  ∀ field ∈ spec.fields, field.name = field.jsonName.sanitize

section

variable {spec : ClassSpec} {field : Field} {name : Text}

theorem Field.name_of_answers (named : field.name = field.jsonName.sanitize)
    (answers : Field.Answers field name) : field.name = name.sanitize := by
  rcases answers with rfl | rfl
  · have identifier : field.name.isIdentifier = true := by
      rw [named]
      exact Text.isIdentifier_sanitize _
    exact (Text.sanitize_of_isIdentifier identifier).symm
  · exact named

theorem place_eq_of_answers (apart : FieldsApart spec) (named : FieldsNamedByKey spec)
    {other : Field} {place elsewhere : Nat} (here : spec.fields[place]? = some field)
    (there : spec.fields[elsewhere]? = some other) (answers : Field.Answers field name)
    (otherAnswers : Field.Answers other name) : place = elsewhere := by
  have sameName : field.name = other.name := by
    rw [Field.name_of_answers (named field (List.mem_of_getElem? here)) answers,
      Field.name_of_answers (named other (List.mem_of_getElem? there)) otherAnswers]
  have within : place < (spec.fields.map FieldOver.name).length := by
    rw [List.length_map]
    exact (List.getElem?_eq_some_iff.mp here).1
  apply (List.getElem?_inj within apart).mp
  rw [List.getElem?_map, List.getElem?_map, here, there, Option.map_some, Option.map_some, sameName]

/-- The look-up of a name comes to the field that answers to it, wherever it stands. -/
theorem field?_eq_some (apart : FieldsApart spec) (named : FieldsNamedByKey spec) {place : Nat}
    (here : spec.fields[place]? = some field) (answers : Field.Answers field name) :
    spec.field? name = some field := by
  obtain ⟨within, atPlace⟩ := List.getElem?_eq_some_iff.mp here
  have asked : ∀ other : Field, (NameEquality.equal other.name name ||
      NameEquality.equal other.jsonName name) = true ↔ Field.Answers other name := by
    intro other
    simp [NameEquality.equal, Field.Answers]
  rw [ClassOver.field?, List.find?_eq_some_iff_getElem]
  refine ⟨(asked field).mpr answers, place, within, atPlace, ?_⟩
  intro earlier before
  rw [Bool.not_eq_true', ← Bool.not_eq_true, asked]
  intro earlierAnswers
  have there := List.getElem?_eq_getElem (Nat.lt_trans before within)
  have same := place_eq_of_answers apart named here there answers earlierAnswers
  omega

end

theorem Mirrors.fieldsNamedByKey {policy : EmptyArrays} {naming : NestedNaming}
    {members : List (Text × Json)} {spec : ClassSpec}
    (mirrored : Mirrors policy naming members spec) : FieldsNamedByKey spec := by
  cases mirrored with
  | intro fields names nested =>
    intro field present
    obtain ⟨member, -, mirrors⟩ := exists_related_of_mem fields present
    rw [mirrors.name, mirrors.jsonName]

/-- In every class of a tree that comes out of a synthesis, each field is found under its identifier
and under its key, and no other field of the class has either of them as its identifier or key. -/
theorem synthesized_fields_are_found (o : Options) (document : Json) (className : Option Text)
    (names after : NameTable) (spec : ClassSpec)
    (success : synthesize o document className names = (.ok spec, after)) :
    ∀ cls ∈ spec.walk, ∀ (place : Nat) (field : Field), cls.fields[place]? = some field →
      cls.field? field.name = some field ∧ cls.field? field.jsonName = some field ∧
      ∀ (elsewhere : Nat) (other : Field), cls.fields[elsewhere]? = some other →
        elsewhere ≠ place →
        ∀ name ∈ [field.name, field.jsonName], other.name ≠ name ∧ other.jsonName ≠ name := by
  obtain ⟨root, members, rfl, -, rfl, tree, rfl, -⟩ :=
    (synthesize_eq_ok_iff o document className names after spec).mp success
  have mirrored := mirrors_ofObject root members tree
  intro cls present place field here
  have apart := tree.fieldsApart cls present
  obtain ⟨object, mirrors⟩ := mirrored.exists_of_mem_walk present
  have named := mirrors.fieldsNamedByKey
  have byName : Field.Answers field field.name := .inl rfl
  have byKey : Field.Answers field field.jsonName := .inr rfl
  refine ⟨field?_eq_some apart named here byName, field?_eq_some apart named here byKey, ?_⟩
  intro elsewhere other there different name asked
  have answers : Field.Answers field name := by
    simp only [List.mem_cons, List.not_mem_nil, or_false] at asked
    rcases asked with rfl | rfl
    · exact byName
    · exact byKey
  have silent : ¬ Field.Answers other name := fun otherAnswers =>
    different (place_eq_of_answers apart named here there answers otherAnswers).symm
  exact not_or.mp silent

/-- A document with keys that are no identifiers, one of them empty. -/
def wareMembers : List (Text × Json) :=
  [("list price", .integer 12), ("2nd", .array [.object [("a-b", .null), ([], .bool true)]])]

def bareField : Field := ⟨"field", .primitive .boolean, []⟩

def innerWareSpec : ClassSpec :=
  ⟨"WareA_b", [⟨"a_b", .primitive .string, "a-b"⟩, bareField], []⟩

def wareSpec : ClassSpec :=
  ⟨"Ware",
    [⟨"list_price", .primitive .int, "list price"⟩, ⟨"_2nd", .list (.reference "WareA_b"), "2nd"⟩],
    [innerWareSpec]⟩

theorem bareField_is_found :
    synthesize orderOptions (.object wareMembers) (some "Ware") [] =
      (.ok wareSpec, .issueAll [] ["Ware", "WareA_b"]) ∧
    innerWareSpec ∈ wareSpec.walk ∧ innerWareSpec.fields[1]? = some bareField ∧
    innerWareSpec.field? (Text.ofString "field") = some bareField ∧
    innerWareSpec.field? (Text.ofString "") = some bareField := by
  have success : synthesize orderOptions (.object wareMembers) (some "Ware") [] =
      (.ok wareSpec, .issueAll [] ["Ware", "WareA_b"]) := rfl
  have inner : innerWareSpec ∈ wareSpec.walk :=
    ClassOver.mem_walk_of_mem_nested List.mem_cons_self
  have found := synthesized_fields_are_found _ _ _ _ _ _ success innerWareSpec inner 1 bareField rfl
  exact ⟨success, inner, rfl, found.1, found.2.1⟩

end ClassSynth
