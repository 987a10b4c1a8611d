import ClassSynth.Proofs.Identifier
import ClassSynth.Proofs.Inference.Reference

/-!
# The names in a tree

Every name that a synthesis makes up holds code points of identifiers only, and the name of a nested
class goes on from that of the class around it with a capital, a digit or an underscore.
-/

set_option autoImplicit false

namespace ClassSynth

/-- Whether the names of a class and of its fields, and those its fields refer to, are words. -/
structure HasWords (spec : ClassSpec) : Prop where
  name : spec.name.IsWord
  fieldNames : ∀ field ∈ spec.fields, field.name.IsWord
  references : ∀ field ∈ spec.fields, ∀ name, field.type.reference? = some name → name.IsWord

/-- Whether a name goes on from a shorter one with something else than a lower-case letter. -/
def IsCompound (name : Text) : Prop :=
  ∃ owner c rest, owner ≠ [] ∧ name = owner ++ c :: rest ∧ c.isAsciiLower = false

theorem NestedNaming.isWord_className (naming : NestedNaming) {owner : Text} (word : owner.IsWord)
    (key : Text) (object : List (Text × Json)) : (naming.className owner key object).IsWord := by
  rw [NestedNaming.className, Text.isWord_append_iff]
  exact ⟨word, Text.isWord_capitalizeFirst (Text.isWord_sanitize _)⟩

theorem NestedNaming.isCompound_className (naming : NestedNaming) {owner : Text}
    (nonempty : owner ≠ []) (key : Text) (object : List (Text × Json)) :
    IsCompound (naming.className owner key object) := by
  obtain ⟨c, rest, segment, noLower⟩ :=
    Text.exists_capitalizeFirst_sanitize (naming.segment key object)
  exact ⟨owner, c, rest, nonempty, by rw [NestedNaming.className, segment], noLower⟩

theorem IsCompound.ne_nil {name : Text} (compound : IsCompound name) : name ≠ [] := by
  obtain ⟨owner, c, rest, -, rfl, -⟩ := compound
  simp

section

variable {policy : EmptyArrays} {naming : NestedNaming}

/-- What nesting keeps holds of the names of all classes once it holds of that of the root. -/
theorem Mirrors.forall_names (P : Text → Prop) {members : List (Text × Json)} {spec : ClassSpec}
    (mirrored : Mirrors policy naming members spec)
    (nests : ∀ owner key object, P owner → P (naming.className owner key object))
    (root : P spec.name) : ∀ inner ∈ spec.walk, P inner.name := by
  induction mirrored with
  | @intro members spec fields names nested ih =>
    intro inner present
    rw [ClassOver.walk_eq] at present
    rcases List.mem_cons.mp present with rfl | below
    · exact root
    · obtain ⟨child, listed, below⟩ := (ClassOver.mem_walkAll_iff inner _).mp below
      obtain ⟨held, paired⟩ := exists_mem_zip_of_forall₂ names listed
      have named : child.name = naming.className spec.name held.1 held.2 :=
        List.forall₂_zip names paired
      exact ih held child paired (named ▸ nests _ _ _ root) inner below

theorem Mirrors.hasWords {members : List (Text × Json)} {spec : ClassSpec}
    (mirrored : Mirrors policy naming members spec) (word : spec.name.IsWord) : HasWords spec := by
  cases mirrored with
  | intro fields names nested =>
    refine ⟨word, ?_, ?_⟩
    · intro field present
      obtain ⟨member, -, mirrors⟩ := exists_related_of_mem fields present
      rw [mirrors.name]
      exact Text.isWord_sanitize _
    · intro field present name referred
      obtain ⟨member, -, mirrors⟩ := exists_related_of_mem fields present
      rw [mirrors.type.reference?_eq] at referred
      obtain ⟨object, -, rfl⟩ := Option.map_eq_some_iff.mp referred
      exact naming.isWord_className word _ _

theorem Mirrors.hasWords_of_mem_walk {members : List (Text × Json)} {spec : ClassSpec}
    (mirrored : Mirrors policy naming members spec) (word : spec.name.IsWord) :
    ∀ inner ∈ spec.walk, HasWords inner := by
  intro inner present
  obtain ⟨object, mirrors⟩ := mirrored.exists_of_mem_walk present
  refine mirrors.hasWords (mirrored.forall_names Text.IsWord ?_ word inner present)
  intro owner key held ownerWord
  exact naming.isWord_className ownerWord key held

theorem Mirrors.isCompound_of_mem_nested {members : List (Text × Json)} {spec : ClassSpec}
    (mirrored : Mirrors policy naming members spec) (nonempty : spec.name ≠ []) :
    ∀ inner ∈ ClassOver.walkAll spec.nested, IsCompound inner.name := by
  intro inner present
  obtain ⟨child, listed, below⟩ := (ClassOver.mem_walkAll_iff inner _).mp present
  cases mirrored with
  | intro fields names nested =>
    obtain ⟨held, paired⟩ := exists_mem_zip_of_forall₂ names listed
    have named : child.name = naming.className spec.name held.1 held.2 :=
      List.forall₂_zip names paired
    have root : IsCompound child.name := by
      rw [named]
      exact naming.isCompound_className nonempty _ _
    refine (nested held child paired).forall_names IsCompound ?_ root inner below
    intro owner key object compound
    exact naming.isCompound_className compound.ne_nil key object

end

/-- What a fresh synthesis comes to when it succeeds. -/
theorem tree_of_synthesizeFresh {o : Options} {document : Json} {className : Option Text}
    {spec : ClassSpec} (success : synthesizeFresh o document className = .ok spec) :
    ∃ name members, className = some name ∧ name.isIdentifier = true ∧
      HasClassTree o.withinRoom name members ∧ spec = .ofObject o.nestedNaming name members := by
  have outcome : synthesize o document className [] =
      (.ok spec, (synthesize o document className []).2) := Prod.ext success rfl
  obtain ⟨name, members, given, identifier, -, tree, built, -⟩ :=
    (synthesize_eq_ok_iff o document className [] _ spec).mp outcome
  exact ⟨name, members, given, identifier, tree, built⟩

theorem name_of_synthesizeFresh {o : Options} {document : Json} {name : Text} {spec : ClassSpec}
    (success : synthesizeFresh o document (some name) = .ok spec) : spec.name = name := by
  obtain ⟨given, members, same, -, -, rfl⟩ := tree_of_synthesizeFresh success
  exact (Option.some.inj same).symm

theorem mirrors_of_synthesizeFresh {o : Options} {document : Json} {className : Option Text}
    {spec : ClassSpec} (success : synthesizeFresh o document className = .ok spec) :
    spec.name.isIdentifier = true ∧
      ∃ members, Mirrors o.emptyArrays o.nestedNaming members spec := by
  obtain ⟨name, members, -, identifier, tree, rfl⟩ := tree_of_synthesizeFresh success
  have mirrored := mirrors_ofObject name members tree
  exact ⟨identifier, members, mirrored⟩

/-! ## The names of fields -/

section

variable {o : Options}

/-- Whether no two fields of a class share a name. -/
def FieldsApart (spec : ClassSpec) : Prop := (spec.fields.map FieldOver.name).Nodup

theorem map_name_ofMember (naming : NestedNaming) (owner : Text) (members : List (Text × Json)) :
    (members.map (Field.ofMember naming owner)).map FieldOver.name = fieldNames members := by
  rw [List.map_map]
  rfl

mutual

theorem fieldsApart_of_mem_classes : (value : Json) → (owner key : Text) → (level : Int) →
    Admitted o (value.skeleton level) →
    ∀ inner ∈ ClassOver.walkAll (value.classes o.nestedNaming owner key), FieldsApart inner
  | .null, _, _, _, _ => by simp [Json.classes, ClassOver.walkAll]
  | .bool _, _, _, _, _ => by simp [Json.classes, ClassOver.walkAll]
  | .integer _, _, _, _, _ => by simp [Json.classes, ClassOver.walkAll]
  | .number _, _, _, _, _ => by simp [Json.classes, ClassOver.walkAll]
  | .string _, _, _, _, _ => by simp [Json.classes, ClassOver.walkAll]
  | .foreign _, _, _, _, _ => by simp [Json.classes, ClassOver.walkAll]
  | .array [], _, _, _, _ => by simp [Json.classes, ClassOver.walkAll]
  | .array (first :: _), owner, key, level, admitted => by
    simp only [Json.skeleton, admitted_cons_iff] at admitted
    rw [Json.classes]
    exact fieldsApart_of_mem_classes first owner key (level + 1) admitted.2
  | .object members, owner, key, level, admitted => by
    simp only [Json.skeleton, admitted_cons_iff, Placed.Admitted] at admitted
    intro inner present
    rw [Json.classes, ClassOver.walkAll, ClassOver.walkAll, List.append_nil, ClassOver.walk_eq]
      at present
    rcases List.mem_cons.mp present with rfl | below
    · rw [FieldsApart, map_name_ofMember]
      exact admitted.1.2
    · exact fieldsApart_of_mem_classesOfMembers members _ (level + 1) admitted.2 inner below

theorem fieldsApart_of_mem_classesOfMembers : (members : List (Text × Json)) → (owner : Text) →
    (level : Int) → Admitted o (Json.skeletonOfMembers level members) →
    ∀ inner ∈ ClassOver.walkAll (classesOfMembers o.nestedNaming owner members), FieldsApart inner
  | [], _, _, _ => by simp [classesOfMembers, ClassOver.walkAll]
  | (key, value) :: rest, owner, level, admitted => by
    simp only [Json.skeletonOfMembers, admitted_append_iff] at admitted
    intro inner present
    rw [classesOfMembers, ClassOver.walkAll_append, List.mem_append] at present
    rcases present with here | later
    · exact fieldsApart_of_mem_classes value owner key level admitted.1 inner here
    · exact fieldsApart_of_mem_classesOfMembers rest owner level admitted.2 inner later

end

theorem HasClassTree.fieldsApart {name : Text} {members : List (Text × Json)}
    (tree : HasClassTree o name members) :
    ∀ inner ∈ (ClassSpec.ofObject o.nestedNaming name members).walk, FieldsApart inner := by
  have admitted := tree.admitted
  simp only [Json.skeleton, admitted_cons_iff, Placed.Admitted] at admitted
  intro inner present
  rw [ClassOver.walk_eq] at present
  rcases List.mem_cons.mp present with rfl | below
  · rw [FieldsApart, ClassSpec.ofObject, map_name_ofMember]
    exact admitted.1.2
  · exact fieldsApart_of_mem_classesOfMembers members name (0 + 1) admitted.2 inner below

end

theorem fieldsApart_of_synthesizeFresh {o : Options} {document : Json} {className : Option Text}
    {spec : ClassSpec} (success : synthesizeFresh o document className = .ok spec) :
    ∀ inner ∈ spec.walk, FieldsApart inner := by
  obtain ⟨name, members, -, -, tree, rfl⟩ := tree_of_synthesizeFresh success
  exact tree.fieldsApart

end ClassSynth
