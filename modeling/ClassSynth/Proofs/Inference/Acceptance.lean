import ClassSynth.Proofs.Inference.Walk
import ClassSynth.Proofs.Json.Plain

/-!
# Which documents have a class tree

The walk finds collisions with a table that grows as it goes, and stops at the first violation.
Whether it stops at one is nevertheless a matter of the document alone: of the levels, the arrays
and the keys in its skeleton, and of the names of its classes, in whatever order.  The main
statement is that these conditions hold exactly when a synthesis succeeds.
-/

set_option autoImplicit false

namespace ClassSynth

/-- What a document has to meet for a class tree under a name. -/
structure Acceptable (o : Options) (name : Text) (members : List (Text × Json)) : Prop where
  shallow : ∀ placed ∈ (Json.object members).skeleton 0,
    placed.value.isContainer = true → placed.level ≤ o.maxDepth
  noEmptyArray : o.emptyArrays = .refuse → ∀ placed ∈ (Json.object members).skeleton 0,
    placed.value ≠ .array []
  keysDistinct : ∀ placed ∈ (Json.object members).skeleton 0,
    ∀ inner, placed.value = .object inner → (fieldNames inner).Nodup
  namesDistinct :
    ((name :: Json.classNamesOfMembers o.nestedNaming name members).map Text.fold).Nodup

/-- Whether no container of a document lies deeper than there is room for. -/
def WithinRoom (room : Nat) (members : List (Text × Json)) : Prop :=
  ∀ placed ∈ (Json.object members).skeleton 0,
    placed.value.isContainer = true → placed.level ≤ room

/-! ## Skeletons of plain values -/

mutual

theorem isPlain_of_mem_skeleton : (value : Json) → (level : Int) → value.isPlain = true →
    ∀ placed ∈ value.skeleton level, placed.value.isPlain = true
  | .null, _, _ => by simp [Json.skeleton, Json.isPlain]
  | .bool _, _, _ => by simp [Json.skeleton, Json.isPlain]
  | .integer _, _, _ => by simp [Json.skeleton, Json.isPlain]
  | .number _, _, _ => by simp [Json.skeleton, Json.isPlain]
  | .string _, _, _ => by simp [Json.skeleton, Json.isPlain]
  | .foreign _, _, plain => by simp [Json.isPlain] at plain
  | .array [], _, plain => by simp [Json.skeleton, plain]
  | .array (first :: rest), level, plain => by
    have parts := plain
    simp only [Json.isPlain, Json.arePlain, Bool.and_eq_true] at parts
    simp only [Json.skeleton, List.forall_mem_cons]
    exact ⟨plain, isPlain_of_mem_skeleton first (level + 1) parts.1⟩
  | .object members, level, plain => by
    simp only [Json.skeleton, List.forall_mem_cons]
    exact ⟨plain, isPlain_of_mem_skeletonOfMembers members (level + 1) plain⟩

theorem isPlain_of_mem_skeletonOfMembers : (members : List (Text × Json)) → (level : Int) →
    Json.membersArePlain members = true →
    ∀ placed ∈ Json.skeletonOfMembers level members, placed.value.isPlain = true
  | [], _, _ => by simp [Json.skeletonOfMembers]
  | (_, value) :: rest, level, plain => by
    simp only [Json.membersArePlain, Bool.and_eq_true] at plain
    simp only [Json.skeletonOfMembers, List.forall_mem_append]
    exact ⟨isPlain_of_mem_skeleton value level plain.1,
      isPlain_of_mem_skeletonOfMembers rest level plain.2⟩

end

/-! ## The conditions, one value at a time and all together -/

theorem Placed.admitted_iff (o : Options) (placed : Placed) (plain : placed.value.isPlain = true) :
    placed.Admitted o ↔
      (placed.value.isContainer = true → placed.level ≤ o.maxDepth) ∧
      (o.emptyArrays = .refuse → placed.value ≠ .array []) ∧
      ∀ inner, placed.value = .object inner → (fieldNames inner).Nodup := by
  have policies : o.emptyArrays = .assumeStrings ↔ ¬ o.emptyArrays = .refuse := by
    cases o.emptyArrays <;> simp
  obtain ⟨level, value⟩ := placed
  cases value with
  | array items =>
    cases items with
    | nil => simp [Placed.Admitted, Json.isContainer, policies]
    | cons first rest => simp [Placed.Admitted, Json.isContainer]
  | object members => simp [Placed.Admitted, Json.isContainer]
  | foreign typeName => simp [Json.isPlain] at plain
  | _ => simp [Placed.Admitted, Json.isContainer]

theorem hasClassTree_iff_acceptable (o : Options) (name : Text) (members : List (Text × Json))
    (plain : (Json.object members).isPlain = true) :
    HasClassTree o name members ↔ Acceptable o name members := by
  have each : ∀ placed ∈ (Json.object members).skeleton 0, placed.Admitted o ↔ _ :=
    fun placed member =>
      placed.admitted_iff o (isPlain_of_mem_skeleton (.object members) 0 plain placed member)
  constructor
  · rintro ⟨admitted, namesDistinct⟩
    refine ⟨?_, ?_, ?_, namesDistinct⟩
    · intro placed member
      exact ((each placed member).mp (admitted placed member)).1
    · intro refused placed member
      exact ((each placed member).mp (admitted placed member)).2.1 refused
    · intro placed member
      exact ((each placed member).mp (admitted placed member)).2.2
  · rintro ⟨shallow, noEmptyArray, keysDistinct, namesDistinct⟩
    refine ⟨?_, namesDistinct⟩
    intro placed member
    exact (each placed member).mpr ⟨shallow placed member,
      fun refused => noEmptyArray refused placed member, keysDistinct placed member⟩

theorem acceptable_withinRoom_iff (o : Options) (name : Text) (members : List (Text × Json)) :
    Acceptable o.withinRoom name members ↔
      Acceptable o name members ∧ WithinRoom o.room members := by
  constructor
  · rintro ⟨shallow, noEmptyArray, keysDistinct, namesDistinct⟩
    refine ⟨⟨?_, noEmptyArray, keysDistinct, namesDistinct⟩, ?_⟩
    · intro placed member container
      exact ((o.le_withinRoom_iff placed.level).mp (shallow placed member container)).1
    · intro placed member container
      exact ((o.le_withinRoom_iff placed.level).mp (shallow placed member container)).2
  · rintro ⟨⟨shallow, noEmptyArray, keysDistinct, namesDistinct⟩, within⟩
    refine ⟨?_, noEmptyArray, keysDistinct, namesDistinct⟩
    intro placed member container
    exact (o.le_withinRoom_iff placed.level).mpr
      ⟨shallow placed member container, within placed member container⟩

theorem synthesizeClass_succeeds_iff (o : Options) (name : Text) (members : List (Text × Json)) :
    (∃ spec, (synthesizeClass o name rootPath 0 members (.issue [] name)).1 = .ok spec) ↔
      HasClassTree o name members := by
  constructor
  · rintro ⟨spec, success⟩
    have outcome := synthesizeClass_eq_ok_iff o name members spec
      (synthesizeClass o name rootPath 0 members (.issue [] name)).2
    exact (outcome.mp (Prod.ext success rfl)).1
  · intro tree
    exact ⟨_, congrArg Prod.fst ((synthesizeClass_eq_ok_iff o name members _ _).mpr
      ⟨tree, rfl, rfl⟩)⟩

/-- A document of the data model has a class tree exactly when it is acceptable.  The first part is
about the walk by itself; the second about a synthesis, which has room for so many levels only. -/
theorem synthesize_succeeds_iff (o : Options) (name : Text) (members : List (Text × Json))
    (names : NameTable) (identifier : name.isIdentifier = true)
    (plain : (Json.object members).isPlain = true) :
    ((∃ spec, (synthesizeClass o name rootPath 0 members (.issue [] name)).1 = .ok spec) ↔
      Acceptable o name members) ∧
    ((∃ spec, (synthesize o (.object members) (some name) names).1 = .ok spec) ↔
      Acceptable o name members ∧ WithinRoom o.room members) := by
  have walk := synthesizeClass_succeeds_iff o name members
  have walkInRoom := synthesizeClass_succeeds_iff o.withinRoom name members
  rw [hasClassTree_iff_acceptable _ name members plain] at walk walkInRoom
  refine ⟨walk, ?_⟩
  rw [← acceptable_withinRoom_iff, ← walkInRoom]
  constructor
  · rintro ⟨spec, success⟩
    obtain ⟨_, _, same, -, document, tree, -, -⟩ := (synthesize_eq_ok_iff o (.object members)
      (some name) names _ spec).mp (Prod.ext success rfl)
    cases same
    cases document
    exact (synthesizeClass_succeeds_iff o.withinRoom name members).mpr tree
  · rintro ⟨spec, success⟩
    have tree := (synthesizeClass_succeeds_iff o.withinRoom name members).mp ⟨spec, success⟩
    have outcome := (synthesize_eq_ok_iff o (.object members) (some name) names _ _).mpr
      ⟨name, members, rfl, identifier, rfl, tree, rfl, rfl⟩
    exact ⟨_, congrArg Prod.fst outcome⟩

theorem order_acceptable :
    Text.isIdentifier "Order" = true ∧ (Json.object orderMembers).isPlain = true ∧
    Acceptable orderOptions "Order" orderMembers ∧
      WithinRoom orderOptions.room orderMembers := by
  have identifier : Text.isIdentifier "Order" = true := rfl
  have plain : (Json.object orderMembers).isPlain = true := rfl
  have succeeds := synthesize_succeeds_iff orderOptions "Order" orderMembers [] identifier plain
  exact ⟨identifier, plain, succeeds.2.mp ⟨orderSpec, congrArg Prod.fst synthesize_order⟩⟩

end ClassSynth
