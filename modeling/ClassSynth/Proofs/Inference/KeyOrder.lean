import ClassSynth.Proofs.Inference.Reference

/-!
# The order of keys

Two documents are reorderings of each other when they differ in the order of keys alone, in any of
their objects.  Two class trees are reorderings of each other when they differ in the order of
fields alone, in any of their classes; a field takes the class it refers to along.

The walk meets names in the order of keys and stops at the first violation, so reordered documents
may fail in different ways.  The main statement is that they fail together as long as classes are
named after the keys that lead to them, and that otherwise their class trees are reordered likewise.
-/

set_option autoImplicit false

namespace ClassSynth

/-- One document comes out of another by putting members of its objects in another order. -/
inductive Json.Reordered : Json → Json → Prop where
  | refl (value : Json) : Reordered value value
  | trans {first second third : Json} (former : Reordered first second)
      (latter : Reordered second third) : Reordered first third
  | permute {members others : List (Text × Json)} (order : members.Perm others) :
      Reordered (.object members) (.object others)
  /-- In the value of a member. -/
  | member (before : List (Text × Json)) (key : Text) {value other : Json}
      (after : List (Text × Json)) (below : Reordered value other) :
      Reordered (.object (before ++ (key, value) :: after))
        (.object (before ++ (key, other) :: after))
  /-- In an item of an array. -/
  | item (before : List Json) {value other : Json} (after : List Json)
      (below : Reordered value other) :
      Reordered (.array (before ++ value :: after)) (.array (before ++ other :: after))

/-- A field together with the classes it refers to. -/
structure Part where
  field : Field
  classes : List ClassSpec
  refers : classes.map ClassOver.name = field.type.reference?.toList

/-- The class that consists of parts in an order. -/
def ClassSpec.ofParts (name : Text) (parts : List Part) : ClassSpec :=
  ⟨name, parts.map Part.field, parts.flatMap Part.classes⟩

/-- One class tree comes out of another by putting parts of its classes in another order. -/
inductive ClassSpec.Reordered : ClassSpec → ClassSpec → Prop where
  | refl (spec : ClassSpec) : Reordered spec spec
  | trans {first second third : ClassSpec} (former : Reordered first second)
      (latter : Reordered second third) : Reordered first third
  | permute (name : Text) {parts others : List Part} (order : parts.Perm others) :
      Reordered (.ofParts name parts) (.ofParts name others)
  /-- In a nested class. -/
  | nested (name : Text) (fields : List Field) (before : List ClassSpec) {inner other : ClassSpec}
      (after : List ClassSpec) (below : Reordered inner other) :
      Reordered ⟨name, fields, before ++ inner :: after⟩ ⟨name, fields, before ++ other :: after⟩

namespace ClassSpec

/-! ## What reordering keeps of a class tree -/

theorem Reordered.name_eq {spec other : ClassSpec} (reordered : Reordered spec other) :
    spec.name = other.name := by
  induction reordered with
  | refl spec => rfl
  | trans former latter ih ih' => exact ih.trans ih'
  | permute name order => rfl
  | nested name fields before after below ih => rfl

theorem Reordered.fields_perm {spec other : ClassSpec} (reordered : Reordered spec other) :
    spec.fields.Perm other.fields := by
  induction reordered with
  | refl spec => exact .refl _
  | trans former latter ih ih' => exact ih.trans ih'
  | permute name order => exact order.map Part.field
  | nested name fields before after below ih => exact .refl _

theorem walkAll_eq_flatMap (specs : List ClassSpec) :
    ClassOver.walkAll specs = specs.flatMap ClassOver.walk := by
  induction specs with
  | nil => rfl
  | cons spec rest ih => rw [ClassOver.walkAll, ih, List.flatMap_cons]

theorem classNames_eq (spec : ClassSpec) :
    spec.classNames = spec.name :: spec.nested.flatMap ClassOver.classNames := by
  rw [ClassOver.classNames, ClassOver.walk_eq, walkAll_eq_flatMap, List.map_cons, List.map_flatMap]
  rfl

theorem Reordered.classNames_perm {spec other : ClassSpec} (reordered : Reordered spec other) :
    spec.classNames.Perm other.classNames := by
  induction reordered with
  | refl spec => exact .refl _
  | trans former latter ih ih' => exact ih.trans ih'
  | permute name order =>
    rw [classNames_eq, classNames_eq]
    exact ((order.flatMap_right Part.classes).flatMap_right ClassOver.classNames).cons name
  | nested name fields before after below ih =>
    simp only [classNames_eq ⟨_, _, _⟩, List.flatMap_append, List.flatMap_cons]
    exact ((ih.append_right _).append_left _).cons name

/-- The classes of a tree are found in a reordered one, each reordered itself. -/
theorem Reordered.exists_mem_walk {spec other : ClassSpec} (reordered : Reordered spec other) :
    ∀ inner ∈ spec.walk, ∃ inner' ∈ other.walk, Reordered inner inner' := by
  induction reordered with
  | refl spec => exact fun inner present => ⟨inner, present, .refl inner⟩
  | trans former latter ih ih' =>
    intro inner present
    obtain ⟨middle, between, first⟩ := ih inner present
    obtain ⟨last, found, second⟩ := ih' middle between
    exact ⟨last, found, .trans first second⟩
  | permute name order =>
    intro inner present
    rw [ClassOver.walk_eq] at present
    rcases List.mem_cons.mp present with rfl | below
    · exact ⟨_, ClassOver.mem_walk_self _, .permute name order⟩
    · refine ⟨inner, ?_, .refl inner⟩
      rw [walkAll_eq_flatMap] at below
      rw [ClassOver.walk_eq, walkAll_eq_flatMap]
      have kept := (order.flatMap_right Part.classes).flatMap_right ClassOver.walk
      exact List.mem_cons_of_mem _ (kept.mem_iff.mp below)
  | @nested name fields before child child' after reorders ih =>
    intro inner present
    rw [ClassOver.walk_eq] at present
    rcases List.mem_cons.mp present with rfl | below
    · exact ⟨_, ClassOver.mem_walk_self _, .nested name fields before after reorders⟩
    · simp only [ClassOver.walk_eq ⟨_, _, _⟩, ClassOver.walkAll_append, ClassOver.walkAll,
        List.mem_cons, List.mem_append] at below ⊢
      rcases below with left | here | right
      · exact ⟨inner, Or.inr (Or.inl left), .refl inner⟩
      · obtain ⟨inner', found, reordered⟩ := ih inner here
        exact ⟨inner', Or.inr (Or.inr (Or.inl found)), reordered⟩
      · exact ⟨inner, Or.inr (Or.inr (Or.inr right)), .refl inner⟩

end ClassSpec

/-! ## Classes part by part -/

theorem Json.classes_eq (naming : NestedNaming) (owner key : Text) : (value : Json) →
    value.classes naming owner key = value.heldObject?.toList.map fun members =>
      ClassSpec.ofObject naming (naming.className owner key members) members
  | .null | .bool _ | .integer _ | .number _ | .string _ | .foreign _ | .array [] => rfl
  | .array (first :: _) => Json.classes_eq naming owner key first
  | .object _ => rfl

theorem Json.reference?_fieldType (naming : NestedNaming) (owner key : Text) : (value : Json) →
    (value.fieldType naming owner key).reference? =
      value.heldObject?.map (naming.className owner key)
  | .null | .bool _ | .integer _ | .number _ | .string _ | .foreign _ | .array [] => rfl
  | .array (first :: _) => Json.reference?_fieldType naming owner key first
  | .object _ => rfl

/-- The part of a class that a member of its object becomes. -/
def Part.ofMember (naming : NestedNaming) (owner : Text) (member : Text × Json) : Part where
  field := .ofMember naming owner member
  classes := member.2.classes naming owner member.1
  refers := by
    rw [Field.ofMember, Json.reference?_fieldType, Json.classes_eq]
    cases member.2.heldObject? <;> rfl

theorem ClassSpec.ofObject_eq_ofParts (naming : NestedNaming) (name : Text)
    (members : List (Text × Json)) :
    ClassSpec.ofObject naming name members =
      .ofParts name (members.map (.ofMember naming name)) := by
  have nested : classesOfMembers naming name members =
      (members.map (Part.ofMember naming name)).flatMap Part.classes := by
    induction members with
    | nil => rfl
    | cons member rest ih =>
      rw [classesOfMembers, ih, List.map_cons, List.flatMap_cons]
      rfl
  rw [ofObject, ofParts, nested, List.map_map]
  rfl

theorem classesOfMembers_append (naming : NestedNaming) (owner : Text)
    (first second : List (Text × Json)) :
    classesOfMembers naming owner (first ++ second) =
      classesOfMembers naming owner first ++ classesOfMembers naming owner second := by
  induction first with
  | nil => rfl
  | cons member rest ih =>
    rw [List.cons_append, classesOfMembers, classesOfMembers, ih, List.append_assoc]

/-! ## Reordered documents -/

section

variable (o : Options)

theorem admitted_skeletonOfMembers_iff (level : Int) (members : List (Text × Json)) :
    Admitted o (Json.skeletonOfMembers level members) ↔
      ∀ member ∈ members, Admitted o (member.2.skeleton level) := by
  induction members with
  | nil => simp [Json.skeletonOfMembers]
  | cons member rest ih => simp [Json.skeletonOfMembers, ih]

/-- Inference finds the same for two values but for the order of parts. -/
structure FoundAlike (value other : Json) : Prop where
  admitted : ∀ level, Admitted o (value.skeleton level) ↔ Admitted o (other.skeleton level)
  type : ∀ owner key, value.fieldType .byField owner key = other.fieldType .byField owner key
  held : Option.Rel (fun members others => ∀ name, ClassSpec.Reordered
    (.ofObject .byField name members) (.ofObject .byField name others))
    value.heldObject? other.heldObject?

variable {o}

theorem FoundAlike.refl (value : Json) : FoundAlike o value value where
  admitted _ := Iff.rfl
  type _ _ := rfl
  held := by
    cases value.heldObject? with
    | none => exact .none
    | some members => exact .some fun _ => .refl _

theorem FoundAlike.trans {first second third : Json} (former : FoundAlike o first second)
    (latter : FoundAlike o second third) : FoundAlike o first third where
  admitted level := (former.admitted level).trans (latter.admitted level)
  type owner key := (former.type owner key).trans (latter.type owner key)
  held := by
    have left := former.held
    have right := latter.held
    revert left right
    cases first.heldObject? <;> cases second.heldObject? <;> cases third.heldObject?
    all_goals rintro ⟨⟩ ⟨⟩
    · exact .none
    · next former latter => exact .some fun name => .trans (former name) (latter name)

theorem FoundAlike.permute {members others : List (Text × Json)} (order : members.Perm others) :
    FoundAlike o (.object members) (.object others) where
  admitted level := by
    have names : (fieldNames members).Nodup ↔ (fieldNames others).Nodup :=
      (order.map fun member : Text × Json => member.1.sanitize).nodup_iff
    simp only [Json.skeleton, admitted_cons_iff, Placed.Admitted, names,
      admitted_skeletonOfMembers_iff, order.mem_iff]
  type _ _ := rfl
  held := .some fun name => by
    rw [ClassSpec.ofObject_eq_ofParts, ClassSpec.ofObject_eq_ofParts]
    exact .permute name (order.map _)

theorem FoundAlike.member (before : List (Text × Json)) (key : Text) {value other : Json}
    (after : List (Text × Json)) (alike : FoundAlike o value other) :
    FoundAlike o (.object (before ++ (key, value) :: after))
      (.object (before ++ (key, other) :: after)) where
  admitted level := by
    have names : fieldNames (before ++ (key, value) :: after) =
        fieldNames (before ++ (key, other) :: after) := by
      simp [fieldNames]
    simp only [Json.skeleton, admitted_cons_iff, Placed.Admitted, names,
      admitted_skeletonOfMembers_iff, List.forall_mem_append, List.forall_mem_cons,
      alike.admitted (level + 1)]
  type _ _ := rfl
  held := .some fun name => by
    have field : Field.ofMember .byField name (key, value) =
        Field.ofMember .byField name (key, other) := by
      simp only [Field.ofMember, alike.type]
    have held := alike.held
    simp only [ClassSpec.ofObject, List.map_append, List.map_cons, field, classesOfMembers_append,
      classesOfMembers, Json.classes_eq]
    revert held
    cases value.heldObject? <;> cases other.heldObject?
    all_goals rintro ⟨⟩
    · exact .refl _
    · next reordered => exact .nested name _ _ _ (reordered _)

theorem FoundAlike.item (before : List Json) {value other : Json} (after : List Json)
    (alike : FoundAlike o value other) :
    FoundAlike o (.array (before ++ value :: after)) (.array (before ++ other :: after)) := by
  cases before with
  | nil =>
    refine ⟨fun level => ?_, fun owner key => ?_, alike.held⟩
    · simp [Json.skeleton, Placed.Admitted, alike.admitted (level + 1)]
    · simp [Json.fieldType, alike.type]
  | cons first rest =>
    refine ⟨fun level => ?_, fun owner key => rfl, (FoundAlike.refl (o := o) first).held⟩
    simp [Json.skeleton, Placed.Admitted]

theorem foundAlike_of_reordered {value other : Json} (reordered : value.Reordered other) :
    FoundAlike o value other := by
  induction reordered with
  | refl value => exact .refl value
  | trans former latter ih ih' => exact ih.trans ih'
  | permute order => exact .permute order
  | member before key after below ih => exact .member before key after ih
  | item before after below ih => exact .item before after ih

end

/-- Among reordered values an object stays an object. -/
theorem Json.Reordered.exists_object {value other : Json} (reordered : value.Reordered other) :
    (∃ members, value = .object members) → ∃ others, other = .object others := by
  induction reordered with
  | refl value => exact id
  | trans former latter ih ih' => exact fun object => ih' (ih object)
  | permute order => exact fun _ => ⟨_, rfl⟩
  | member before key after below ih => exact fun _ => ⟨_, rfl⟩
  | item before after below ih => rintro ⟨members, object⟩; cases object

theorem ofObject_reordered {members others : List (Text × Json)}
    (reordered : (Json.object members).Reordered (.object others)) (name : Text) :
    ClassSpec.Reordered (.ofObject .byField name members) (.ofObject .byField name others) := by
  have held := (foundAlike_of_reordered (o := .default) reordered).held
  simp only [Json.heldObject?] at held
  cases held with
  | some all => exact all name

theorem hasClassTree_iff_of_reordered (o : Options) (byField : o.nestedNaming = .byField)
    (name : Text) {members others : List (Text × Json)}
    (reordered : (Json.object members).Reordered (.object others)) :
    HasClassTree o name members ↔ HasClassTree o name others := by
  have admitted := (foundAlike_of_reordered (o := o) reordered).admitted 0
  have names := (ofObject_reordered reordered name).classNames_perm
  rw [classNames_ofObject, classNames_ofObject, ← byField] at names
  have distinct := (names.map Text.fold).nodup_iff
  constructor
  · rintro ⟨skeleton, namesDistinct⟩
    exact ⟨admitted.mp skeleton, distinct.mp namesDistinct⟩
  · rintro ⟨skeleton, namesDistinct⟩
    exact ⟨admitted.mpr skeleton, distinct.mpr namesDistinct⟩

theorem synthesize_object_eq_ok_iff (o : Options) (members : List (Text × Json)) (name : Text)
    (names : NameTable) (spec : ClassSpec) :
    (synthesize o (.object members) (some name) names).1 = .ok spec ↔
      name.isIdentifier = true ∧ HasClassTree o.withinRoom name members ∧
        spec = .ofObject o.nestedNaming name members := by
  have outcome := fun after =>
    synthesize_eq_ok_iff o (.object members) (some name) names after spec
  constructor
  · intro success
    obtain ⟨_, _, same, identifier, document, tree, built, -⟩ :=
      (outcome _).mp (Prod.ext success rfl)
    cases same
    cases document
    exact ⟨identifier, tree, built⟩
  · rintro ⟨identifier, tree, built⟩
    exact congrArg Prod.fst
      ((outcome _).mpr ⟨name, members, rfl, identifier, rfl, tree, built, rfl⟩)

/-- While classes are named after the keys that lead to them, the order of keys does not decide
whether a synthesis succeeds, and the class trees of reordered documents are reordered likewise:
they have the same class names, and a class has the same fields in both. -/
theorem synthesize_of_reordered (o : Options) (byField : o.nestedNaming = .byField)
    {members : List (Text × Json)} {other : Json}
    (reordered : (Json.object members).Reordered other) (name : Text)
    (names otherNames : NameTable) :
    ((∃ spec, (synthesize o (.object members) (some name) names).1 = .ok spec) ↔
      ∃ spec, (synthesize o other (some name) otherNames).1 = .ok spec) ∧
    ∀ spec otherSpec, (synthesize o (.object members) (some name) names).1 = .ok spec →
      (synthesize o other (some name) otherNames).1 = .ok otherSpec →
        ClassSpec.Reordered spec otherSpec ∧ spec.classNames.Perm otherSpec.classNames ∧
          ∀ inner ∈ spec.walk, ∃ inner' ∈ otherSpec.walk,
            inner'.name = inner.name ∧ inner.fields.Perm inner'.fields := by
  obtain ⟨others, rfl⟩ := reordered.exists_object ⟨members, rfl⟩
  have trees : HasClassTree o.withinRoom name members ↔ HasClassTree o.withinRoom name others :=
    hasClassTree_iff_of_reordered o.withinRoom byField name reordered
  have root := ofObject_reordered reordered name
  simp only [synthesize_object_eq_ok_iff, byField, trees, exists_and_left]
  refine ⟨by simp, ?_⟩
  rintro spec otherSpec ⟨-, -, rfl⟩ ⟨-, -, rfl⟩
  refine ⟨root, root.classNames_perm, fun inner present => ?_⟩
  obtain ⟨inner', found, reorders⟩ := root.exists_mem_walk inner present
  exact ⟨inner', found, reorders.name_eq.symm, reorders.fields_perm⟩

def visitMembers : List (Text × Json) :=
  [("guest", .object [("name", .string "Ada"), ("age", .integer 36)]),
    ("rooms", .array [.object [("number", .integer 3), ("view", .bool true)], .null])]

/-- The same visit with its keys and those of the room in another order. -/
def visitReordered : Json :=
  .object [("rooms", .array [.object [("view", .bool true), ("number", .integer 3)], .null]),
    ("guest", .object [("name", .string "Ada"), ("age", .integer 36)])]

theorem visitReordered_reordered : (Json.object visitMembers).Reordered visitReordered :=
  .trans (.member [("guest", .object [("name", .string "Ada"), ("age", .integer 36)])] "rooms" []
      (.item [] [.null] (.permute (.swap _ _ []))))
    (.permute (.swap _ _ []))

/-- The class tree of the visit. -/
def visitSpec : ClassSpec :=
  ⟨"Visit", [⟨"guest", .reference "VisitGuest", "guest"⟩,
      ⟨"rooms", .list (.reference "VisitRooms"), "rooms"⟩],
    [⟨"VisitGuest", [⟨"name", .primitive .string, "name"⟩, ⟨"age", .primitive .int, "age"⟩], []⟩,
      ⟨"VisitRooms", [⟨"number", .primitive .int, "number"⟩,
        ⟨"view", .primitive .boolean, "view"⟩], []⟩]⟩

def visitReorderedSpec : ClassSpec :=
  ⟨"Visit", [⟨"rooms", .list (.reference "VisitRooms"), "rooms"⟩,
      ⟨"guest", .reference "VisitGuest", "guest"⟩],
    [⟨"VisitRooms", [⟨"view", .primitive .boolean, "view"⟩,
        ⟨"number", .primitive .int, "number"⟩], []⟩,
      ⟨"VisitGuest", [⟨"name", .primitive .string, "name"⟩, ⟨"age", .primitive .int, "age"⟩], []⟩]⟩

theorem synthesize_visit_reordered :
    (synthesize ⟨2, .refuse, .byField, defaultRoom⟩ (.object visitMembers) (some "Visit") []).1 =
        .ok visitSpec ∧
      (synthesize ⟨2, .refuse, .byField, defaultRoom⟩ visitReordered (some "Visit") []).1 =
        .ok visitReorderedSpec ∧
      ClassSpec.Reordered visitSpec visitReorderedSpec ∧
      visitSpec.classNames.Perm visitReorderedSpec.classNames := by
  have laws := synthesize_of_reordered ⟨2, .refuse, .byField, defaultRoom⟩ rfl
    visitReordered_reordered "Visit" [] []
  have both := laws.2 visitSpec visitReorderedSpec rfl rfl
  exact ⟨rfl, rfl, both.1, both.2.1⟩

end ClassSynth
