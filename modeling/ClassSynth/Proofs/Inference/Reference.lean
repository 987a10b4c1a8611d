import Mathlib.Data.List.Nodup
import ClassSynth.Proofs.ClassTree.Walk
import ClassSynth.Proofs.Inference.Mirror

/-!
# References between the classes of a tree

A field refers to a class by name, through any number of list layers.  The correspondence between
the fields of a class and the classes nested in it is local, while names are looked up in the whole
tree, the first match deciding.  The main statement is that a look-up always comes to the nested
class that the field stands for: the names of a tree are told apart even without regard to case.
-/

set_option autoImplicit false

namespace ClassSynth

/-- The class that a type refers to, through all list layers. -/
def TypeOver.reference? {Name : Type} : TypeOver Name → Option Name
  | .primitive _ => none
  | .list element => element.reference?
  | .reference className => some className

theorem TypeOver.core_of_reference? {type : FieldType} {name : Text}
    (refers : type.reference? = some name) : type.core = .reference name := by
  induction type with
  | primitive kind => cases refers
  | list element ih => exact ih refers
  | reference className => exact congrArg TypeOver.reference (Option.some.inj refers)

/-- The classes that the fields of a class refer to, in order. -/
def ClassOver.references {Name : Type} (spec : ClassOver Name) : List Name :=
  spec.fields.filterMap fun field => field.type.reference?

section

variable {policy : EmptyArrays} {naming : NestedNaming}

theorem HasType.reference?_eq {owner key : Text} {value : Json} {type : FieldType}
    (typed : HasType policy naming owner key value type) :
    type.reference? = value.heldObject?.map (naming.className owner key) := by
  induction typed with
  | list first rest element typed ih => simpa [TypeOver.reference?, Json.heldObject?] using ih
  | _ => simp [TypeOver.reference?, Json.heldObject?]

theorem references_of_fieldMirrors {owner : Text} {members : List (Text × Json)}
    {fields : List Field}
    (mirrored : List.Forall₂ (FieldMirrors policy naming owner) members fields) :
    (fields.filterMap fun field => field.type.reference?) =
      (heldObjects members).map fun held => naming.className owner held.1 held.2 := by
  induction mirrored with
  | nil => rfl
  | @cons member field members fields first rest ih =>
    obtain ⟨key, value⟩ := member
    rw [heldObjects_cons, List.map_append, ← ih, List.filterMap_cons, first.type.reference?_eq]
    cases value.heldObject? with
    | none => rfl
    | some object => rfl

theorem names_of_namedFor {owner : Text} {held : List (Text × List (Text × Json))}
    {nested : List ClassSpec} (named : List.Forall₂ (NamedFor naming owner) held nested) :
    nested.map ClassOver.name = held.map fun one => naming.className owner one.1 one.2 := by
  induction named with
  | nil => rfl
  | cons first rest ih => rw [List.map_cons, List.map_cons, first, ih]

/-- The fields of a class refer to its nested classes, one for one and in order. -/
theorem Mirrors.references_eq {members : List (Text × Json)} {spec : ClassSpec}
    (mirrored : Mirrors policy naming members spec) :
    spec.references = spec.nested.map ClassOver.name := by
  cases mirrored with
  | intro fields names nested =>
    rw [ClassOver.references, references_of_fieldMirrors fields, names_of_namedFor names]

theorem exists_mem_zip_of_forall₂ {Left Right : Type} {R : Left → Right → Prop}
    {lefts : List Left} {rights : List Right} (related : List.Forall₂ R lefts rights)
    {right : Right} (member : right ∈ rights) : ∃ left, (left, right) ∈ lefts.zip rights := by
  induction related with
  | nil => cases member
  | @cons first other lefts rights _ _ ih =>
    rcases List.mem_cons.mp member with rfl | later
    · exact ⟨first, List.mem_cons_self⟩
    · obtain ⟨left, paired⟩ := ih later
      exact ⟨left, List.mem_cons_of_mem _ paired⟩

theorem exists_related_of_mem {Left Right : Type} {R : Left → Right → Prop} {lefts : List Left}
    {rights : List Right} (related : List.Forall₂ R lefts rights) {right : Right}
    (member : right ∈ rights) : ∃ left ∈ lefts, R left right := by
  obtain ⟨left, paired⟩ := exists_mem_zip_of_forall₂ related member
  exact ⟨left, (List.of_mem_zip paired).1, List.forall₂_zip related paired⟩

/-- Every class of a tree that mirrors an object mirrors an object itself. -/
theorem Mirrors.exists_of_mem_walk {members : List (Text × Json)} {spec : ClassSpec}
    (mirrored : Mirrors policy naming members spec) {inner : ClassSpec}
    (member : inner ∈ spec.walk) : ∃ object, Mirrors policy naming object inner := by
  induction mirrored generalizing inner with
  | @intro members spec fields names nested ih =>
    rw [ClassOver.walk_eq] at member
    rcases List.mem_cons.mp member with rfl | below
    · exact ⟨members, .intro fields names nested⟩
    · -- The class lies below a nested class, which mirrors the object at its place.
      obtain ⟨child, present, below⟩ := (ClassOver.mem_walkAll_iff inner _).mp below
      obtain ⟨held, paired⟩ := exists_mem_zip_of_forall₂ names present
      exact ih held child paired below

end

/-! ## The names of a tree -/

mutual

theorem names_walkAll_classes (naming : NestedNaming) : (value : Json) → (owner key : Text) →
    (ClassOver.walkAll (value.classes naming owner key)).map ClassOver.name =
      value.classNames naming owner key
  | .null, _, _ => rfl
  | .bool _, _, _ => rfl
  | .integer _, _, _ => rfl
  | .number _, _, _ => rfl
  | .string _, _, _ => rfl
  | .foreign _, _, _ => rfl
  | .array [], _, _ => rfl
  | .array (first :: _), owner, key => names_walkAll_classes naming first owner key
  | .object members, owner, key => by
    have below := names_walkAll_classesOfMembers naming members
      (naming.className owner key members)
    simp [Json.classes, Json.classNames, ClassOver.walkAll, ClassOver.walk, below]

theorem names_walkAll_classesOfMembers (naming : NestedNaming) :
    (members : List (Text × Json)) → (owner : Text) →
    (ClassOver.walkAll (classesOfMembers naming owner members)).map ClassOver.name =
      Json.classNamesOfMembers naming owner members
  | [], _ => rfl
  | (key, value) :: rest, owner => by
    have first := names_walkAll_classes naming value owner key
    have later := names_walkAll_classesOfMembers naming rest owner
    rw [classesOfMembers, Json.classNamesOfMembers, ClassOver.walkAll_append, List.map_append,
      first, later]

end

theorem classNames_ofObject (naming : NestedNaming) (name : Text) (members : List (Text × Json)) :
    (ClassSpec.ofObject naming name members).classNames =
      name :: Json.classNamesOfMembers naming name members := by
  simp [ClassOver.classNames, ClassSpec.ofObject, ClassOver.walk, names_walkAll_classesOfMembers]

/-- In a class tree that comes out of a synthesis all names are told apart without regard to case;
the fields of each class refer to its nested classes, one for one and in order; and the look-up of a
name that a field refers to comes to the nested class at its place, the only one with that name. -/
theorem synthesize_references_resolve (o : Options) (document : Json) (className : Option Text)
    (names after : NameTable) (spec : ClassSpec)
    (success : synthesize o document className names = (.ok spec, after)) :
    (spec.classNames.map Text.fold).Nodup ∧
    ∀ outer ∈ spec.walk, outer.references = outer.nested.map ClassOver.name ∧
      ∀ (place : Nat) (name : Text), outer.references[place]? = some name →
        ∃ inner, outer.nested[place]? = some inner ∧ spec.find? name = some inner ∧
          (spec.walk.filter fun other => decide (other.name = name)) = [inner] := by
  obtain ⟨root, members, rfl, -, rfl, tree, rfl, -⟩ :=
    (synthesize_eq_ok_iff o document className names after spec).mp success
  have mirrored := mirrors_ofObject root members tree
  have folded := tree.namesDistinct
  rw [← classNames_ofObject] at folded
  have distinct : (ClassSpec.ofObject o.nestedNaming root members).classNames.Nodup :=
    List.Nodup.of_map Text.fold folded
  refine ⟨folded, ?_⟩
  intro outer present
  obtain ⟨object, mirrors⟩ := mirrored.exists_of_mem_walk present
  have references := mirrors.references_eq
  refine ⟨references, ?_⟩
  intro place name referred
  rw [references, List.getElem?_map] at referred
  obtain ⟨inner, nested, rfl⟩ := Option.map_eq_some_iff.mp referred
  have within := ClassOver.walk_trans _ outer inner present
    (ClassOver.mem_walk_of_mem_nested (List.mem_of_getElem? nested))
  exact ⟨inner, nested, ClassSpec.find?_eq_some distinct within,
    ClassSpec.filter_walk distinct within⟩

theorem order_references_resolve :
    synthesize orderOptions (.object orderMembers) (some "Order") [] =
      (.ok orderSpec, .issueAll [] ["Order", "OrderSku"]) ∧
    orderSpec.references = ["OrderSku"] ∧
    ∃ inner, orderSpec.nested[0]? = some inner ∧
      orderSpec.find? (Text.ofString "OrderSku") = some inner ∧
      (orderSpec.walk.filter fun other => decide (other.name = Text.ofString "OrderSku")) =
        [inner] := by
  have resolve := synthesize_references_resolve _ _ _ _ _ _ synthesize_order
  have root := resolve.2 orderSpec (ClassOver.mem_walk_self orderSpec)
  exact ⟨synthesize_order, rfl, root.2 0 "OrderSku" rfl⟩

end ClassSynth
