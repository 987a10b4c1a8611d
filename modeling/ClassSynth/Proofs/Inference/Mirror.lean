import Mathlib.Algebra.Group.Int.Defs
import Mathlib.Data.List.Forall2
import ClassSynth.Proofs.Inference.Walk

/-!
# Class trees mirror their documents

A class tree mirrors an object when its fields are the members of the object, one for one and in
order, each with the type that its value calls for, and when its nested classes mirror the objects
that the members hold.  The relation speaks of no table, path or depth.  The main statement is that
every class tree that comes out of a synthesis mirrors its document.
-/

set_option autoImplicit false

namespace ClassSynth

/-- Whether a signed integer of some width can hold a number. -/
def FitsSigned (bits : Nat) (n : Int) : Prop := -2 ^ (bits - 1) ≤ n ∧ n < 2 ^ (bits - 1)

section

variable (policy : EmptyArrays) (naming : NestedNaming)

/-- The type that a value under a key in a class calls for. -/
inductive HasType (owner key : Text) : Json → FieldType → Prop where
  | string (text : Text) : HasType owner key (.string text) (.primitive .string)
  | null : HasType owner key .null (.primitive .string)
  | boolean (value : Bool) : HasType owner key (.bool value) (.primitive .boolean)
  | int (n : Int) (fits : FitsSigned 32 n) : HasType owner key (.integer n) (.primitive .int)
  | long (n : Int) (wide : ¬ FitsSigned 32 n) (fits : FitsSigned 64 n) :
      HasType owner key (.integer n) (.primitive .long)
  | bigInteger (n : Int) (wide : ¬ FitsSigned 64 n) :
      HasType owner key (.integer n) (.primitive .bigInteger)
  | double (value : Binary64) : HasType owner key (.number value) (.primitive .double)
  | emptyList (assumed : policy = .assumeStrings) :
      HasType owner key (.array []) (.list (.primitive .string))
  | list (first : Json) (rest : List Json) (element : FieldType)
      (typed : HasType owner key first element) :
      HasType owner key (.array (first :: rest)) (.list element)
  | reference (members : List (Text × Json)) :
      HasType owner key (.object members) (.reference (naming.className owner key members))

/-- Whether a field of a class mirrors a member of its object. -/
structure FieldMirrors (owner : Text) (member : Text × Json) (field : Field) : Prop where
  jsonName : field.jsonName = member.1
  name : field.name = member.1.sanitize
  type : HasType policy naming owner member.1 member.2 field.type

/-- Whether a nested class has the name for an object that a member holds. -/
def NamedFor (owner : Text) (held : Text × List (Text × Json)) (inner : ClassSpec) : Prop :=
  inner.name = naming.className owner held.1 held.2

/-- Whether a class tree mirrors an object. -/
inductive Mirrors : List (Text × Json) → ClassSpec → Prop where
  | intro {members : List (Text × Json)} {spec : ClassSpec}
      (fields : List.Forall₂ (FieldMirrors policy naming spec.name) members spec.fields)
      (names : List.Forall₂ (NamedFor naming spec.name) (heldObjects members) spec.nested)
      (nested : ∀ held inner, (held, inner) ∈ (heldObjects members).zip spec.nested →
        Mirrors held.2 inner) :
      Mirrors members spec

end

theorem fitsSigned_32_iff (n : Int) : FitsSigned 32 n ↔ -0x80000000 ≤ n ∧ n ≤ 0x7FFFFFFF := by
  unfold FitsSigned
  omega

theorem fitsSigned_64_iff (n : Int) :
    FitsSigned 64 n ↔ -0x8000000000000000 ≤ n ∧ n ≤ 0x7FFFFFFFFFFFFFFF := by
  unfold FitsSigned
  omega

theorem hasType_ofInt (policy : EmptyArrays) (naming : NestedNaming) (owner key : Text) (n : Int) :
    HasType policy naming owner key (.integer n) (.primitive (Primitive.ofInt n)) := by
  unfold Primitive.ofInt
  split
  · rename_i fits
    exact .int n ((fitsSigned_32_iff n).mpr fits)
  · rename_i wide
    rw [← fitsSigned_32_iff] at wide
    split
    · rename_i fits
      exact .long n wide ((fitsSigned_64_iff n).mpr fits)
    · rename_i wider
      exact .bigInteger n (mt (fitsSigned_64_iff n).mp wider)

section

variable {o : Options}

theorem hasType_fieldType : (value : Json) → (owner key : Text) → (level : Int) →
    Admitted o (value.skeleton level) →
    HasType o.emptyArrays o.nestedNaming owner key value
      (value.fieldType o.nestedNaming owner key)
  | .null, _, _, _, _ => .null
  | .bool value, _, _, _, _ => .boolean value
  | .integer n, _, _, _, _ => hasType_ofInt _ _ _ _ n
  | .number value, _, _, _, _ => .double value
  | .string text, _, _, _, _ => .string text
  | .foreign _, _, _, _, admitted => by simp [Json.skeleton, Placed.Admitted] at admitted
  | .array [], _, _, _, admitted => by
    simp only [Json.skeleton, admitted_cons_iff, Placed.Admitted, true_implies] at admitted
    exact .emptyList admitted.1.2
  | .array (first :: rest), owner, key, level, admitted => by
    simp only [Json.skeleton, admitted_cons_iff] at admitted
    exact .list first rest _ (hasType_fieldType first owner key (level + 1) admitted.2)
  | .object members, _, _, _, _ => .reference members

theorem admitted_of_mem_skeletonOfMembers {level : Int} {members : List (Text × Json)}
    (admitted : Admitted o (Json.skeletonOfMembers level members)) :
    ∀ member ∈ members, Admitted o (member.2.skeleton level) := by
  induction members with
  | nil => simp
  | cons member rest ih =>
    simp only [Json.skeletonOfMembers, admitted_append_iff] at admitted
    intro other present
    rcases List.mem_cons.mp present with rfl | later
    · exact admitted.1
    · exact ih admitted.2 other later

theorem fieldMirrors_ofMember (owner : Text) {level : Int} {members : List (Text × Json)}
    (admitted : Admitted o (Json.skeletonOfMembers level members)) :
    List.Forall₂ (FieldMirrors o.emptyArrays o.nestedNaming owner) members
      (members.map (Field.ofMember o.nestedNaming owner)) := by
  rw [List.forall₂_map_right_iff, List.forall₂_same]
  intro member present
  have below := admitted_of_mem_skeletonOfMembers admitted member present
  exact ⟨rfl, rfl, hasType_fieldType member.2 owner member.1 level below⟩

/-- Whether a nested class belongs to an object that a member holds. -/
abbrev BelongsTo (o : Options) (owner : Text) (held : Text × List (Text × Json))
    (inner : ClassSpec) : Prop :=
  NamedFor o.nestedNaming owner held inner ∧ Mirrors o.emptyArrays o.nestedNaming held.2 inner

theorem mirrors_of_belongsTo {name : Text} {members : List (Text × Json)} {fields : List Field}
    {nested : List ClassSpec}
    (mirrored : List.Forall₂ (FieldMirrors o.emptyArrays o.nestedNaming name) members fields)
    (belonging : List.Forall₂ (BelongsTo o name) (heldObjects members) nested) :
    Mirrors o.emptyArrays o.nestedNaming members ⟨name, fields, nested⟩ :=
  .intro mirrored (belonging.imp fun _ _ both => both.1)
    fun _ _ paired => (List.forall₂_zip belonging paired).2

/-- The objects that one member holds, under its key. -/
theorem heldObjects_cons (key : Text) (value : Json) (rest : List (Text × Json)) :
    heldObjects ((key, value) :: rest) =
      (value.heldObject?.toList.map fun object => (key, object)) ++ heldObjects rest := by
  cases held : value.heldObject? <;> simp [heldObjects, held]

mutual

theorem classes_belongTo : (value : Json) → (owner key : Text) → (level : Int) →
    Admitted o (value.skeleton level) →
    List.Forall₂ (BelongsTo o owner) (value.heldObject?.toList.map fun object => (key, object))
      (value.classes o.nestedNaming owner key)
  | .null, _, _, _, _ => .nil
  | .bool _, _, _, _, _ => .nil
  | .integer _, _, _, _, _ => .nil
  | .number _, _, _, _, _ => .nil
  | .string _, _, _, _, _ => .nil
  | .foreign _, _, _, _, _ => .nil
  | .array [], _, _, _, _ => .nil
  | .array (first :: _), owner, key, level, admitted => by
    simp only [Json.skeleton, admitted_cons_iff] at admitted
    simpa only [Json.heldObject?, Json.classes] using
      classes_belongTo first owner key (level + 1) admitted.2
  | .object members, owner, key, level, admitted => by
    simp only [Json.skeleton, admitted_cons_iff] at admitted
    have belonging := classesOfMembers_belongTo members (o.nestedNaming.className owner key members)
      (level + 1) admitted.2
    have mirrored := mirrors_of_belongsTo (fieldMirrors_ofMember _ admitted.2) belonging
    simp only [Json.heldObject?, Json.classes, Option.toList_some, List.map_cons, List.map_nil]
    exact .cons ⟨rfl, mirrored⟩ .nil

theorem classesOfMembers_belongTo : (members : List (Text × Json)) → (owner : Text) →
    (level : Int) → Admitted o (Json.skeletonOfMembers level members) →
    List.Forall₂ (BelongsTo o owner) (heldObjects members)
      (classesOfMembers o.nestedNaming owner members)
  | [], _, _, _ => .nil
  | (key, value) :: rest, owner, level, admitted => by
    simp only [Json.skeletonOfMembers, admitted_append_iff] at admitted
    rw [heldObjects_cons, classesOfMembers]
    exact List.rel_append (classes_belongTo value owner key level admitted.1)
      (classesOfMembers_belongTo rest owner level admitted.2)

end

theorem mirrors_ofObject (name : Text) (members : List (Text × Json))
    (tree : HasClassTree o name members) :
    Mirrors o.emptyArrays o.nestedNaming members (.ofObject o.nestedNaming name members) := by
  have admitted := tree.admitted
  simp only [Json.skeleton, admitted_cons_iff] at admitted
  exact mirrors_of_belongsTo (fieldMirrors_ofMember name admitted.2)
    (classesOfMembers_belongTo members name (0 + 1) admitted.2)

end

/-- Every class tree that comes out of a synthesis has the name that was asked for and mirrors the
document, whatever names were issued before. -/
theorem synthesize_mirrors (o : Options) (members : List (Text × Json)) (name : Text)
    (names after : NameTable) (spec : ClassSpec)
    (success : synthesize o (.object members) (some name) names = (.ok spec, after)) :
    spec.name = name ∧ Mirrors o.emptyArrays o.nestedNaming members spec := by
  obtain ⟨_, _, same, -, document, tree, rfl, -⟩ :=
    (synthesize_eq_ok_iff o (.object members) (some name) names after spec).mp success
  cases same
  cases document
  have mirrored := mirrors_ofObject name members tree
  exact ⟨rfl, mirrored⟩

theorem order_mirrors :
    synthesize orderOptions (.object orderMembers) (some "Order") [] =
      (.ok orderSpec, .issueAll [] ["Order", "OrderSku"]) ∧
    orderSpec.name = "Order" ∧ Mirrors .assumeStrings .byFirstKey orderMembers orderSpec :=
  ⟨synthesize_order, synthesize_mirrors _ _ _ _ _ _ synthesize_order⟩

end ClassSynth
