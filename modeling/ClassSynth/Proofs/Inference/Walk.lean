import ClassSynth.Proofs.Inference.NameTable
import ClassSynth.Proofs.Inference.Skeleton

/-!
# The walk over a document

Inference threads a table of names through a document and stops at the first violation.  When
nothing is violated, what it finds is a function of the document alone.  The main statements are
that the walk comes to that result when the skeleton is admitted and its class names are free
(`infer_of_admitted`), and that it comes to no result otherwise (`admitted_of_infer`).
-/

set_option autoImplicit false

namespace ClassSynth

namespace Json

/-- The type of a field that holds a value under a key in a class. -/
def fieldType (naming : NestedNaming) (owner key : Text) : Json → FieldType
  | .bool _ => .primitive .boolean
  | .integer n => .primitive (Primitive.ofInt n)
  | .number _ => .primitive .double
  | .array [] => .list (.primitive .string)
  | .array (first :: _) => .list (fieldType naming owner key first)
  | .object members => .reference (naming.className owner key members)
  | _ => .primitive .string
termination_by structural value => value

end Json

def Field.ofMember (naming : NestedNaming) (owner : Text) (member : Text × Json) : Field :=
  ⟨member.1.sanitize, member.2.fieldType naming owner member.1, member.1⟩

mutual

/-- The classes nested in a class for a value under a key: one for the object that the value holds,
if it holds one. -/
def Json.classes (naming : NestedNaming) (owner key : Text) : Json → List ClassSpec
  | .array (first :: _) => Json.classes naming owner key first
  | .object members =>
    let name := naming.className owner key members
    [⟨name, members.map (Field.ofMember naming name), classesOfMembers naming name members⟩]
  | _ => []
termination_by structural value => value

def classesOfMembers (naming : NestedNaming) (owner : Text) : List (Text × Json) → List ClassSpec
  | [] => []
  | (key, value) :: rest =>
    Json.classes naming owner key value ++ classesOfMembers naming owner rest
termination_by structural members => members

end

/-- The class tree of an object under a name. -/
def ClassSpec.ofObject (naming : NestedNaming) (name : Text) (members : List (Text × Json)) :
    ClassSpec :=
  ⟨name, members.map (Field.ofMember naming name), classesOfMembers naming name members⟩

def Inferred.ofValue (naming : NestedNaming) (owner key : Text) (value : Json) : Inferred :=
  ⟨value.fieldType naming owner key, value.classes naming owner key⟩

/-- The class being built, once several members have been visited. -/
def ClassBuilder.visit (naming : NestedNaming) (builder : ClassBuilder)
    (members : List (Text × Json)) : ClassBuilder :=
  ⟨builder.name, builder.fields ++ members.map (Field.ofMember naming builder.name),
    builder.nested ++ classesOfMembers naming builder.name members⟩

/-- Whether members can become fields of the class being built: no two share an identifier, and none
has that of a field that is there. -/
structure ClassBuilder.Accepts (builder : ClassBuilder) (members : List (Text × Json)) : Prop where
  distinct : (fieldNames members).Nodup
  unused : ∀ member ∈ members, builder.hasField member.1.sanitize = false

theorem ClassBuilder.accepts_start_iff (name : Text) (members : List (Text × Json)) :
    (ClassBuilder.start name).Accepts members ↔ (fieldNames members).Nodup :=
  ⟨Accepts.distinct, fun distinct => ⟨distinct, fun _ _ => rfl⟩⟩

abbrev ClassBuilder.after (builder : ClassBuilder) (key : Text) (found : Inferred) : ClassBuilder :=
  (builder.addNested found.nested).addField ⟨key.sanitize, found.type, key⟩

theorem ClassBuilder.accepts_cons_iff (builder : ClassBuilder) (key : Text) (value : Json)
    (rest : List (Text × Json)) (found : Inferred) :
    builder.Accepts ((key, value) :: rest) ↔
      builder.hasField key.sanitize = false ∧ (builder.after key found).Accepts rest := by
  have used : ∀ name, (builder.after key found).hasField name =
      (builder.hasField name || decide (key.sanitize = name)) := by
    intro name
    simp [hasField, addField, addNested]
  constructor
  · rintro ⟨distinct, unused⟩
    obtain ⟨apart, distinct⟩ := List.nodup_cons.mp distinct
    refine ⟨unused (key, value) List.mem_cons_self, distinct, ?_⟩
    intro member later
    have different : key.sanitize ≠ member.1.sanitize := by
      intro same
      exact apart (List.mem_map.mpr ⟨member, later, same.symm⟩)
    simp [used, unused member (List.mem_cons_of_mem _ later), different]
  · rintro ⟨fresh, distinct, unused⟩
    simp only [used, Bool.or_eq_false_iff, decide_eq_false_iff_not] at unused
    refine ⟨List.nodup_cons.mpr ⟨?_, distinct⟩, ?_⟩
    · intro repeated
      obtain ⟨member, later, same⟩ := List.mem_map.mp repeated
      exact (unused member later).2 same.symm
    · intro member present
      rcases List.mem_cons.mp present with rfl | later
      · exact fresh
      · exact (unused member later).1

theorem ClassBuilder.visit_cons (naming : NestedNaming) (builder : ClassBuilder) (key : Text)
    (value : Json) (rest : List (Text × Json)) :
    builder.visit naming ((key, value) :: rest) =
      (builder.after key (Inferred.ofValue naming builder.name key value)).visit naming rest := by
  simp [visit, classesOfMembers, addField, addNested, Inferred.ofValue, Field.ofMember]

theorem ClassBuilder.build_visit_start (naming : NestedNaming) (name : Text)
    (members : List (Text × Json)) :
    ((ClassBuilder.start name).visit naming members).build =
      ClassSpec.ofObject naming name members := by
  simp [visit, start, build, ClassSpec.ofObject]

theorem Options.checkDepth_eq_ok_iff (o : Options) (depth : Int) (path : Text) :
    o.checkDepth depth path = .ok () ↔ depth ≤ o.maxDepth := by
  unfold Options.checkDepth
  split
  · rename_i deeper
    simp only [reduceCtorEq, false_iff]
    omega
  · rename_i within
    simp only [true_iff]
    omega

/-! ## An admitted document has a class tree -/

section

variable (o : Options)

mutual

theorem infer_of_admitted : (value : Json) → (owner key path : Text) → (depth : Int) →
    (names : NameTable) → Admitted o (value.skeleton (depth + 1)) →
    names.Free (value.classNames o.nestedNaming owner key) →
    infer o owner key path depth value names =
      (.ok (.ofValue o.nestedNaming owner key value),
        names.issueAll (value.classNames o.nestedNaming owner key))
  | .null, _, _, _, _, _, _, _ => by
    simp [infer, Inferred.ofValue, Json.fieldType, Json.classes, Json.classNames]
  | .bool _, _, _, _, _, _, _, _ => by
    simp [infer, Inferred.ofValue, Json.fieldType, Json.classes, Json.classNames]
  | .integer _, _, _, _, _, _, _, _ => by
    simp [infer, Inferred.ofValue, Json.fieldType, Json.classes, Json.classNames]
  | .number _, _, _, _, _, _, _, _ => by
    simp [infer, Inferred.ofValue, Json.fieldType, Json.classes, Json.classNames]
  | .string _, _, _, _, _, _, _, _ => by
    simp [infer, Inferred.ofValue, Json.fieldType, Json.classes, Json.classNames]
  | .foreign _, _, _, _, _, _, admitted, _ => by
    simp [Json.skeleton, Placed.Admitted] at admitted
  | .array [], _, _, path, depth, _, admitted, _ => by
    simp only [Json.skeleton, admitted_cons_iff, admitted_nil, and_true, Placed.Admitted,
      true_implies] at admitted
    have shallow := (o.checkDepth_eq_ok_iff (depth + 1) path).mpr admitted.1
    simp [infer, shallow, inferItems, admitted.2, Inferred.ofValue, Json.fieldType, Json.classes,
      Json.classNames]
  | .array (first :: _), owner, key, path, depth, names, admitted, free => by
    simp only [Json.skeleton, admitted_cons_iff, Placed.Admitted] at admitted
    have shallow := (o.checkDepth_eq_ok_iff (depth + 1) path).mpr admitted.1.1
    simp only [Json.classNames] at free
    have below := infer_of_admitted first owner key (Step.firstItem.below path) (depth + 1) names
      admitted.2 free
    simp [infer, shallow, inferItems, below, Inferred.ofValue, Json.fieldType, Json.classes,
      Json.classNames]
  | .object members, owner, key, path, depth, names, admitted, free => by
    simp only [Json.skeleton, admitted_cons_iff, Placed.Admitted] at admitted
    have shallow := (o.checkDepth_eq_ok_iff (depth + 1) path).mpr admitted.1.1
    simp only [Json.classNames, NameTable.free_cons_iff] at free
    have reserved := NameTable.reserve_of_untaken free.1 path
    have accepts := (ClassBuilder.accepts_start_iff
      (o.nestedNaming.className owner key members) members).mpr admitted.1.2
    have below := buildClass_of_admitted members path (depth + 1)
      (.start (o.nestedNaming.className owner key members))
      (names.issue (o.nestedNaming.className owner key members)) admitted.2 accepts free.2
    simp only [infer, shallow, o.nestedName_eq_className, reserved, below,
      ClassBuilder.build_visit_start]
    simp [ClassBuilder.start, Inferred.ofValue, Json.fieldType, Json.classes, Json.classNames,
      ClassSpec.ofObject]

theorem buildClass_of_admitted : (members : List (Text × Json)) → (path : Text) → (depth : Int) →
    (builder : ClassBuilder) → (names : NameTable) →
    Admitted o (Json.skeletonOfMembers (depth + 1) members) → builder.Accepts members →
    names.Free (Json.classNamesOfMembers o.nestedNaming builder.name members) →
    buildClass o path depth builder members names =
      (.ok (builder.visit o.nestedNaming members).build,
        names.issueAll (Json.classNamesOfMembers o.nestedNaming builder.name members))
  | [], _, _, _, _, _, _, _ => by
    simp [buildClass, ClassBuilder.visit, ClassBuilder.build, classesOfMembers,
      Json.classNamesOfMembers]
  | (key, value) :: rest, path, depth, builder, names, admitted, accepts, free => by
    simp only [Json.skeletonOfMembers, admitted_append_iff] at admitted
    simp only [Json.classNamesOfMembers, NameTable.free_append_iff] at free
    have found := infer_of_admitted value builder.name key ((Step.member key).below path) depth
      names admitted.1 free.1
    have accepted := (builder.accepts_cons_iff key value rest
      (.ofValue o.nestedNaming builder.name key value)).mp accepts
    have later := buildClass_of_admitted rest path depth
      (builder.after key (.ofValue o.nestedNaming builder.name key value))
      (names.issueAll (value.classNames o.nestedNaming builder.name key)) admitted.2 accepted.2
      free.2
    simp only [buildClass, accepted.1, found, Bool.false_eq_true, if_false]
    rw [later, ← builder.visit_cons]
    simp [ClassBuilder.addField, ClassBuilder.addNested, Json.classNamesOfMembers]

end

/-! ## A document with a class tree is admitted -/

mutual

theorem admitted_of_infer : (value : Json) → (owner key path : Text) → (depth : Int) →
    (names after : NameTable) → (found : Inferred) →
    infer o owner key path depth value names = (.ok found, after) →
    Admitted o (value.skeleton (depth + 1)) ∧
      names.Free (value.classNames o.nestedNaming owner key)
  | .null, _, _, _, _, names, _, _, _ => by
    simp [Json.skeleton, Placed.Admitted, Json.classNames, names.free_nil]
  | .bool _, _, _, _, _, names, _, _, _ => by
    simp [Json.skeleton, Placed.Admitted, Json.classNames, names.free_nil]
  | .integer _, _, _, _, _, names, _, _, _ => by
    simp [Json.skeleton, Placed.Admitted, Json.classNames, names.free_nil]
  | .number _, _, _, _, _, names, _, _, _ => by
    simp [Json.skeleton, Placed.Admitted, Json.classNames, names.free_nil]
  | .string _, _, _, _, _, names, _, _, _ => by
    simp [Json.skeleton, Placed.Admitted, Json.classNames, names.free_nil]
  | .foreign _, _, _, _, _, _, _, _, success => by
    simp [infer] at success
  | .array items, owner, key, path, depth, names, after, found, success => by
    simp only [infer] at success
    cases checked : o.checkDepth (depth + 1) path with
    | error e => simp [checked] at success
    | ok passed =>
      have shallow := (o.checkDepth_eq_ok_iff (depth + 1) path).mp checked
      simp only [checked] at success
      cases items with
      | nil =>
        cases policy : o.emptyArrays with
        | refuse => simp [inferItems, policy] at success
        | assumeStrings =>
          simp [Json.skeleton, Placed.Admitted, shallow, policy, Json.classNames, names.free_nil]
      | cons first rest =>
        simp only [inferItems] at success
        cases inner : infer o owner key (Step.firstItem.below path) (depth + 1) first names with
        | mk outcome mid =>
          cases outcome with
          | error e => simp [inner] at success
          | ok element =>
            obtain ⟨admitted, free⟩ := admitted_of_infer first owner key
              (Step.firstItem.below path) (depth + 1) names mid element inner
            simp only [Json.skeleton, admitted_cons_iff, Placed.Admitted, Json.classNames]
            exact ⟨⟨⟨shallow, by simp⟩, admitted⟩, free⟩
  | .object members, owner, key, path, depth, names, after, found, success => by
    simp only [infer, o.nestedName_eq_className] at success
    cases checked : o.checkDepth (depth + 1) path with
    | error e => simp [checked] at success
    | ok passed =>
      have shallow := (o.checkDepth_eq_ok_iff (depth + 1) path).mp checked
      simp only [checked] at success
      cases reserved : names.reserve (o.nestedNaming.className owner key members) path with
      | error e => simp [reserved] at success
      | ok issued =>
        obtain ⟨untaken, rfl⟩ := NameTable.untaken_of_reserve reserved
        simp only [reserved] at success
        cases inner : buildClass o path (depth + 1)
            (.start (o.nestedNaming.className owner key members)) members
            (names.issue (o.nestedNaming.className owner key members)) with
        | mk outcome mid =>
          cases outcome with
          | error e => simp [inner] at success
          | ok spec =>
            obtain ⟨admitted, accepts, free⟩ := admitted_of_buildClass members path (depth + 1)
              _ _ mid spec inner
            have distinct := (ClassBuilder.accepts_start_iff _ members).mp accepts
            simp only [Json.skeleton, admitted_cons_iff, Placed.Admitted, Json.classNames,
              NameTable.free_cons_iff]
            exact ⟨⟨⟨shallow, distinct⟩, admitted⟩, untaken, free⟩

theorem admitted_of_buildClass : (members : List (Text × Json)) → (path : Text) →
    (depth : Int) → (builder : ClassBuilder) → (names after : NameTable) → (spec : ClassSpec) →
    buildClass o path depth builder members names = (.ok spec, after) →
    Admitted o (Json.skeletonOfMembers (depth + 1) members) ∧ builder.Accepts members ∧
      names.Free (Json.classNamesOfMembers o.nestedNaming builder.name members)
  | [], _, _, _, names, _, _, _ => by
    refine ⟨by simp [Json.skeletonOfMembers], ⟨List.nodup_nil, by simp⟩, ?_⟩
    simpa [Json.classNamesOfMembers] using names.free_nil
  | (key, value) :: rest, path, depth, builder, names, after, spec, success => by
    simp only [buildClass] at success
    cases used : builder.hasField key.sanitize with
    | true => simp [used] at success
    | false =>
      simp only [used, Bool.false_eq_true, if_false] at success
      cases inner : infer o builder.name key ((Step.member key).below path) depth value names with
      | mk outcome mid =>
        cases outcome with
        | error e => simp [inner] at success
        | ok found =>
          simp only [inner] at success
          obtain ⟨admitted, free⟩ := admitted_of_infer value builder.name key
            ((Step.member key).below path) depth names mid found inner
          -- The table that the rest starts from is known, as the member has come to its result.
          have result := infer_of_admitted o value builder.name key
            ((Step.member key).below path) depth names admitted free
          obtain ⟨-, midExact⟩ := Prod.mk.inj (inner.symm.trans result)
          obtain ⟨restAdmitted, accepts, restFree⟩ := admitted_of_buildClass rest path depth
            (builder.after key found) mid after spec success
          rw [midExact] at restFree
          simp only [Json.skeletonOfMembers, admitted_append_iff, Json.classNamesOfMembers,
            NameTable.free_append_iff]
          exact ⟨⟨admitted, restAdmitted⟩,
            (builder.accepts_cons_iff key value rest found).mpr ⟨used, accepts⟩, free, restFree⟩

end

end

/-! ## Documents -/

/-- What a document needs for a class tree under a name: its skeleton is admitted, and no two of its
class names agree without regard to case. -/
structure HasClassTree (o : Options) (name : Text) (members : List (Text × Json)) : Prop where
  admitted : Admitted o ((Json.object members).skeleton 0)
  namesDistinct :
    ((name :: Json.classNamesOfMembers o.nestedNaming name members).map Text.fold).Nodup

theorem synthesizeClass_eq_ok_iff (o : Options) (name : Text) (members : List (Text × Json))
    (spec : ClassSpec) (after : NameTable) :
    synthesizeClass o name rootPath 0 members (.issue [] name) = (.ok spec, after) ↔
      HasClassTree o name members ∧ spec = .ofObject o.nestedNaming name members ∧
        after = .issueAll [] (name :: Json.classNamesOfMembers o.nestedNaming name members) := by
  have rootAdmitted : Admitted o ((Json.object members).skeleton 0) ↔
      (fieldNames members).Nodup ∧ Admitted o (Json.skeletonOfMembers (0 + 1) members) := by
    simp [Json.skeleton, Placed.Admitted]
  have complete : HasClassTree o name members →
      synthesizeClass o name rootPath 0 members (.issue [] name) =
        (.ok (.ofObject o.nestedNaming name members),
          .issueAll [] (name :: Json.classNamesOfMembers o.nestedNaming name members)) := by
    rintro ⟨admitted, namesDistinct⟩
    obtain ⟨fieldsDistinct, below⟩ := rootAdmitted.mp admitted
    have built := buildClass_of_admitted o members rootPath 0 (.start name) (.issue [] name) below
      ((ClassBuilder.accepts_start_iff name members).mpr fieldsDistinct)
      ((NameTable.free_issue_empty_iff name _).mpr namesDistinct)
    rw [ClassBuilder.build_visit_start] at built
    rw [NameTable.issueAll_cons]
    exact built
  constructor
  · intro success
    obtain ⟨below, accepts, free⟩ := admitted_of_buildClass o members rootPath 0 (.start name) _
      after spec success
    have tree : HasClassTree o name members :=
      ⟨rootAdmitted.mpr ⟨(ClassBuilder.accepts_start_iff name members).mp accepts, below⟩,
        (NameTable.free_issue_empty_iff name _).mp free⟩
    obtain ⟨specExact, afterExact⟩ := Prod.mk.inj (success.symm.trans (complete tree))
    exact ⟨tree, Except.ok.inj specExact, afterExact⟩
  · rintro ⟨tree, rfl, rfl⟩
    exact complete tree

/-- A synthesis succeeds just when an object is given under an identifier and has a class tree
within the room of the walk.  Then it comes to that tree, with all its names issued in order,
whatever was issued before. -/
theorem synthesize_eq_ok_iff (o : Options) (document : Json) (className : Option Text)
    (names after : NameTable) (spec : ClassSpec) :
    synthesize o document className names = (.ok spec, after) ↔
      ∃ name members, className = some name ∧ name.isIdentifier = true ∧
        document = .object members ∧ HasClassTree o.withinRoom name members ∧
        spec = .ofObject o.nestedNaming name members ∧
        after = .issueAll [] (name :: Json.classNamesOfMembers o.nestedNaming name members) := by
  have walk := fun name members => synthesizeClass_eq_ok_iff o.withinRoom name members spec after
  constructor
  · intro success
    cases className with
    | none => simp [synthesize] at success
    | some name =>
      cases identifier : name.isIdentifier with
      | false => simp [synthesize, identifier] at success
      | true =>
        cases document with
        | object members =>
          simp only [synthesize, identifier, if_true] at success
          cases outcome : synthesizeClass o.withinRoom name rootPath 0 members
              (.issue [] name) with
          | mk result table =>
            cases result with
            | error e => simp [outcome] at success
            | ok built =>
              simp only [outcome] at success
              exact ⟨name, members, rfl, identifier, rfl,
                (walk name members).mp (outcome.trans success)⟩
        | _ => simp [synthesize, identifier] at success
  · rintro ⟨name, members, rfl, identifier, rfl, tree⟩
    have success := (walk name members).mpr tree
    simp [synthesize, identifier, success]

/-- A document with an object behind two arrays and an array without items. -/
def orderMembers : List (Text × Json) :=
  [("id", .integer 1), ("total", .integer 1099511627776),
    ("lines", .array [.array [.object [("Sku", .string "a-1"), ("paid", .bool true)]], .null]),
    ("notes", .array [])]

def orderOptions : Options := ⟨3, .assumeStrings, .byFirstKey, defaultRoom⟩

/-- The class tree of the document, in which an inner class is named after its first key. -/
def orderSpec : ClassSpec :=
  ⟨"Order",
    [⟨"id", .primitive .int, "id"⟩, ⟨"total", .primitive .long, "total"⟩,
      ⟨"lines", .list (.list (.reference "OrderSku")), "lines"⟩,
      ⟨"notes", .list (.primitive .string), "notes"⟩],
    [⟨"OrderSku",
      [⟨"Sku", .primitive .string, "Sku"⟩, ⟨"paid", .primitive .boolean, "paid"⟩], []⟩]⟩

theorem synthesize_order : synthesize orderOptions (.object orderMembers) (some "Order") [] =
    (.ok orderSpec, .issueAll [] ["Order", "OrderSku"]) := rfl

end ClassSynth
