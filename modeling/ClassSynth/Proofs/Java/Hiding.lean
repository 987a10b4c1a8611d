import ClassSynth.Proofs.Java.ImportScan

/-!
# Classes that hide types

Within its unit a class hides every type of its simple name from elsewhere, so that a field type or
an annotation of that name means the class.  The names of classes come from files and keys, and
nothing keeps them from those of the types that a unit uses.  The main statement says exactly which
class trees hide a type.
-/

set_option autoImplicit false

namespace ClassSynth.Java

def simpleName (name : Text) : Text := ((name.cutAt (CodePoint.ofChar '.')).getLast?).getD []

/-- The types of `java.lang` that fields can have. -/
def langTypes : List Text :=
  List.map Text.ofString ["String", "Integer", "Long", "Boolean", "Double"]

def labelMark (label : Text) : Text × Text :=
  (CodePoint.ofChar '@' :: label, "lombok." ++ label)

theorem simpleName_labelMark : ∀ label ∈ annotationsFor true true,
    simpleName (labelMark label).2 = label := by
  decide

namespace Generator

/-- The simple names that mean types from elsewhere in the unit of a class model: those of its
imports, and those of `java.lang`. -/
def typeNames (g : Generator) (model : ClassModel) : List Text :=
  (g.importsFor (g.definition model)).map simpleName ++ langTypes

/-- Whether no class of a unit hides a type from elsewhere. -/
def HidesNothing (g : Generator) (model : ClassModel) : Prop :=
  ∀ inner ∈ model.walk, inner.name ∉ g.typeNames model

/-- The names that hide a type when a class of the tree has them. -/
inductive Clashes (g : Generator) (spec : ClassSpec) : Text → Prop where
  | langType {name : Text} (listed : name ∈ langTypes) : Clashes g spec name
  /-- The class itself makes its unit import the type. -/
  | bigInteger : Clashes g spec "BigInteger"
  | list (mentioned : MentionsList g.jackson spec) : Clashes g spec "List"
  | jsonProperty (jackson : g.jackson = true) (fields : HasFields spec) :
      Clashes g spec "JsonProperty"
  /-- An annotation that every class has: `Data` or `NoArgsConstructor`. -/
  | everyClass {name : Text} (lombok : g.lombok = true)
      (listed : name ∈ annotationsFor true false) : Clashes g spec name
  /-- An annotation of classes with fields; beside the others `Builder` or `AllArgsConstructor`. -/
  | classWithFields {name : Text} (lombok : g.lombok = true)
      (listed : name ∈ annotationsFor true true) (fields : HasFields spec) : Clashes g spec name

theorem mem_importMarks_iff (g : Generator) (mark : Text × Text) :
    mark ∈ g.importMarks ↔
      (g.jackson = true ∧ mark = (Text.ofString "@JsonProperty",
        Text.ofString "com.fasterxml.jackson.annotation.JsonProperty")) ∨
      mark = (Text.ofString "BigInteger", Text.ofString "java.math.BigInteger") ∨
      mark = (Text.ofString "List<", Text.ofString "java.util.List") ∨
      (g.lombok = true ∧ mark ∈ (annotationsFor true true).map labelMark) := by
  obtain ⟨package, lombok, jackson⟩ := g
  -- The marks are in the order of the imports, not in that of the annotations.
  have reordered : List.Perm
      ([("@AllArgsConstructor", "lombok.AllArgsConstructor"), ("@Builder", "lombok.Builder"),
        ("@Data", "lombok.Data"), ("@NoArgsConstructor", "lombok.NoArgsConstructor")] :
          List (Text × Text)) ((annotationsFor true true).map labelMark) := by
    decide
  cases lombok <;> cases jackson <;>
    simp only [importMarks, List.mem_append, List.mem_cons, List.not_mem_nil, or_false, false_or,
      false_and, true_and, if_true, if_false, Bool.false_eq_true, ← reordered.mem_iff, or_assoc]

theorem mem_typeNames_iff (g : Generator) (model : ClassModel) (name : Text) :
    name ∈ g.typeNames model ↔ name ∈ langTypes ∨
      ∃ mark ∈ g.importMarks, Text.hasInfix mark.1 (g.definition model) = true ∧
        simpleName mark.2 = name := by
  simp [typeNames, importsFor, and_assoc, or_comm]

end Generator

section

variable {g : Generator} {spec : ClassSpec} {model : ClassModel}

theorem clashes_of_mem_typeNames (modelled : g.model spec = .ok model)
    (words : ∀ inner ∈ spec.walk, HasWords inner) {name : Text} (used : name ∈ g.typeNames model) :
    g.Clashes spec name := by
  rcases (g.mem_typeNames_iff model name).mp used with lang | ⟨mark, listed, found, rfl⟩
  · exact .langType lang
  · rcases (g.mem_importMarks_iff mark).mp listed with
      ⟨jackson, rfl⟩ | rfl | rfl | ⟨lombok, offered⟩
    · exact .jsonProperty jackson ((scan_jsonProperty_iff modelled words jackson).mp found)
    · exact .bigInteger
    · exact .list ((scan_list_iff modelled words).mp found)
    · obtain ⟨label, ofClass, rfl⟩ := List.mem_map.mp offered
      rw [simpleName_labelMark label ofClass]
      rcases (scan_label_iff modelled words lombok ofClass).mp found with always | fields
      · exact .everyClass lombok always
      · exact .classWithFields lombok ofClass fields

theorem mem_typeNames_of_clashes (modelled : g.model spec = .ok model)
    (words : ∀ inner ∈ spec.walk, HasWords inner) {cls : ClassSpec} (within : cls ∈ spec.walk)
    (clash : g.Clashes spec cls.name) : cls.name ∈ g.typeNames model := by
  have annotated : ∀ {label : Text}, g.lombok = true → label ∈ annotationsFor true true →
      (label ∈ annotationsFor true false ∨ HasFields spec) → label ∈ g.typeNames model := by
    intro label lombok offered needed
    refine (g.mem_typeNames_iff model label).mpr (.inr ⟨labelMark label, ?_, ?_, ?_⟩)
    · exact (g.mem_importMarks_iff _).mpr (.inr (.inr (.inr ⟨lombok, List.mem_map_of_mem offered⟩)))
    · exact (scan_label_iff modelled words lombok offered).mpr needed
    · exact simpleName_labelMark label offered
  generalize same : cls.name = name at clash
  cases clash with
  | langType listed => exact (g.mem_typeNames_iff model name).mpr (.inl listed)
  | bigInteger =>
    -- The heading of the class is an occurrence of the mark.
    have found := scan_className modelled within
      (by rw [same]; exact ⟨by decide, by decide, by decide⟩)
    rw [same] at found
    exact (g.mem_typeNames_iff model _).mpr
      (.inr ⟨_, (g.mem_importMarks_iff _).mpr (.inr (.inl rfl)), found, rfl⟩)
  | list mentioned =>
    have found := (scan_list_iff modelled words).mpr mentioned
    exact (g.mem_typeNames_iff model _).mpr
      (.inr ⟨_, (g.mem_importMarks_iff _).mpr (.inr (.inr (.inl rfl))), found, rfl⟩)
  | jsonProperty jackson fields =>
    have found := (scan_jsonProperty_iff modelled words jackson).mpr fields
    exact (g.mem_typeNames_iff model _).mpr
      (.inr ⟨_, (g.mem_importMarks_iff _).mpr (.inl ⟨jackson, rfl⟩), found, rfl⟩)
  | everyClass lombok listed =>
    have offered : ∀ label ∈ annotationsFor true false, label ∈ annotationsFor true true := by
      decide
    exact annotated lombok (offered name listed) (.inl listed)
  | classWithFields lombok listed fields => exact annotated lombok listed (.inr fields)

theorem hidesNothing_iff_of_words (modelled : g.model spec = .ok model)
    (words : ∀ inner ∈ spec.walk, HasWords inner) :
    g.HidesNothing model ↔ ∀ inner ∈ spec.walk, ¬ g.Clashes spec inner.name := by
  constructor
  · intro hidesNothing cls within clash
    obtain ⟨inner, present, models⟩ := exists_model_of_mem_walk modelled within
    have used := mem_typeNames_of_clashes modelled words within clash
    exact hidesNothing inner present (by rwa [models.name])
  · intro noClash inner present used
    obtain ⟨cls, within, models⟩ := exists_class_of_mem_walk modelled present
    rw [models.name] at used
    exact noClash cls within (clashes_of_mem_typeNames modelled words used)

end

/-- The names of types that hold a capital behind their first letter. -/
def compoundTypes : List Text :=
  List.map Text.ofString ["BigInteger", "JsonProperty", "NoArgsConstructor", "AllArgsConstructor"]

/-- A name of a type that has lower-case letters only behind its first letter is not compound. -/
theorem not_isCompound_of_tail {name : Text}
    (lower : name.tail.all CodePoint.isAsciiLower = true) : ¬ IsCompound name := by
  rintro ⟨owner, c, rest, nonempty, rfl, noLower⟩
  obtain ⟨first, more, rfl⟩ := List.exists_cons_of_ne_nil nonempty
  have letter := List.all_eq_true.mp lower c (by simp)
  rw [noLower] at letter
  cases letter

theorem mem_compoundTypes_of_clashes {g : Generator} {spec : ClassSpec} {name : Text}
    (compound : IsCompound name) (clash : g.Clashes spec name) : name ∈ compoundTypes := by
  have simple : ∀ {types : List Text},
      (types.all fun type => decide (type ∈ compoundTypes) ||
        type.tail.all CodePoint.isAsciiLower) = true → name ∈ types → name ∈ compoundTypes := by
    intro types each listed
    have one := List.all_eq_true.mp each name listed
    rw [Bool.or_eq_true, decide_eq_true_eq] at one
    exact one.resolve_right fun lower => not_isCompound_of_tail lower compound
  cases clash with
  | langType listed => exact simple (by decide) listed
  | bigInteger => decide
  | list mentioned => exact absurd compound (not_isCompound_of_tail (by decide))
  | jsonProperty jackson fields => decide
  | everyClass lombok listed => exact simple (by decide) listed
  | classWithFields lombok listed fields => exact simple (by decide) listed

/-- The unit of a class tree that comes out of a synthesis for a file hides nothing just when no
class of the tree has a name that clashes.  The name of a nested class clashes only with a type
whose own name is compound; any other clash is that of the root, by the name of its file. -/
theorem hidesNothing_iff (g : Generator) (o : Options) (document : Json) (path : Text)
    (spec : ClassSpec) (model : ClassModel)
    (success : synthesizeFresh o document (some (ClassName.ofFile path)) = .ok spec)
    (modelled : g.model spec = .ok model) :
    (g.HidesNothing model ↔ ∀ inner ∈ spec.walk, ¬ g.Clashes spec inner.name) ∧
    ∀ inner ∈ ClassOver.walkAll spec.nested, g.Clashes spec inner.name →
      inner.name ∈ compoundTypes := by
  obtain ⟨identifier, members, mirrored⟩ := mirrors_of_synthesizeFresh success
  have word : spec.name.IsWord := Text.isWord_of_isIdentifier identifier
  have nonempty : spec.name ≠ [] := by
    intro empty
    rw [empty] at identifier
    cases identifier
  refine ⟨hidesNothing_iff_of_words modelled (mirrored.hasWords_of_mem_walk word), ?_⟩
  intro inner nested clash
  exact mem_compoundTypes_of_clashes (mirrored.isCompound_of_mem_nested nonempty inner nested) clash

/-- Every name that clashes in some unit. -/
def knownTypes : List Text :=
  langTypes ++ [Text.ofString "BigInteger", Text.ofString "List", Text.ofString "JsonProperty"] ++
    annotationsFor true true

theorem Generator.Clashes.mem_knownTypes {g : Generator} {spec : ClassSpec} {name : Text}
    (clash : g.Clashes spec name) : name ∈ knownTypes := by
  have offered : ∀ label ∈ annotationsFor true false, label ∈ annotationsFor true true := by
    decide
  simp only [knownTypes, List.mem_append]
  cases clash with
  | langType listed => exact .inl (.inl listed)
  | bigInteger => exact .inl (.inr (by decide))
  | list mentioned => exact .inl (.inr (by decide))
  | jsonProperty jackson fields => exact .inl (.inr (by decide))
  | everyClass lombok listed => exact .inr (offered name listed)
  | classWithFields lombok listed fields => exact .inr listed

def usualGenerator : Generator := ⟨.unnamed, true, true⟩

/-- A document with a big integer and an object under a key that completes the name of its file to
that of the type. -/
def bigMembers : List (Text × Json) :=
  [("integer", .object [("id", .integer 1)]), ("amount", .integer 0x8000000000000000)]

def bigSpec : ClassSpec :=
  ⟨"Big", [⟨"integer", .reference "BigInteger", "integer"⟩,
      ⟨"amount", .primitive .bigInteger, "amount"⟩],
    [⟨"BigInteger", [⟨"id", .primitive .int, "id"⟩], []⟩]⟩

/-- The nested class of the document hides a type; from a file of another name nothing is hidden. -/
theorem bigSpec_hides_bigInteger :
    synthesizeFresh .default (.object bigMembers) (some (ClassName.ofFile "big.json")) =
      .ok bigSpec ∧
    (∃ model, usualGenerator.model bigSpec = .ok model ∧ ¬ usualGenerator.HidesNothing model) ∧
    ∃ spec model,
      synthesizeFresh .default (.object bigMembers) (some (ClassName.ofFile "large.json")) =
        .ok spec ∧
      usualGenerator.model spec = .ok model ∧ usualGenerator.HidesNothing model := by
  have big : synthesizeFresh .default (.object bigMembers)
      (some (ClassName.ofFile "big.json")) = .ok bigSpec := rfl
  have large : synthesizeFresh .default (.object bigMembers)
      (some (ClassName.ofFile "large.json")) = .ok (.ofObject .byField "Large" bigMembers) := rfl
  refine ⟨big, ⟨_, rfl, ?_⟩, _, _, large, rfl, ?_⟩
  · intro hidesNothing
    have noClash := (hidesNothing_iff usualGenerator _ _ _ _ _ big rfl).1.mp hidesNothing
    exact noClash ⟨"BigInteger", [⟨"id", .primitive .int, "id"⟩], []⟩
      (List.mem_cons_of_mem _ List.mem_cons_self) .bigInteger
  · refine (hidesNothing_iff usualGenerator _ _ _ _ _ large rfl).1.mpr ?_
    have unknown : ((ClassSpec.ofObject .byField "Large" bigMembers).walk.all fun cls =>
        decide (cls.name ∉ knownTypes)) = true := by decide
    intro cls within clash
    exact of_decide_eq_true (List.all_eq_true.mp unknown cls within) clash.mem_knownTypes

/-- A document with a list in a file named after the type of lists. -/
theorem list_hides_import :
    ∃ spec model,
      synthesizeFresh .default (.object [("tags", .array [.string "x"])])
        (some (ClassName.ofFile "list.json")) = .ok spec ∧
      usualGenerator.model spec = .ok model ∧ model.name = "List" ∧
      Text.ofString "java.util.List" ∈
        usualGenerator.importsFor (usualGenerator.definition model) ∧
      ¬ usualGenerator.HidesNothing model := by
  refine ⟨_, _, rfl, rfl, rfl, by decide, ?_⟩
  intro hidesNothing
  exact hidesNothing _ List.mem_cons_self (by decide)

end ClassSynth.Java
