import ClassSynth.Proofs.Inference.Mirror

/-!
# What a synthesis depends on

Two documents have one shape when they agree on what inference is there to find out: which values
are containers, the keys of an object in order, whether an array has items, the shape of its first
item, and of every other value no more than its kind and, for an integer, its width.  A container
beyond a limit need agree with nothing but another container.

The main statement is that documents of one shape have one outcome, be it a class tree or a failure:
neither the data in a document nor what lies beyond the limit can be told from what comes out.
-/

set_option autoImplicit false

namespace ClassSynth

instance (bits : Nat) (n : Int) : Decidable (FitsSigned bits n) :=
  inferInstanceAs (Decidable (_ ∧ _))

/-- Two integers need the same number of bits, among 32, 64 and any number. -/
def SameWidth (n m : Int) : Prop :=
  (FitsSigned 32 n ↔ FitsSigned 32 m) ∧ (FitsSigned 64 n ↔ FitsSigned 64 m)

instance (n m : Int) : Decidable (SameWidth n m) := inferInstanceAs (Decidable (_ ∧ _))

mutual

/-- Two values at a level have one shape, down to the containers beyond a limit. -/
inductive SameShape (limit : Int) : Int → Json → Json → Prop where
  | null {level : Int} : SameShape limit level .null .null
  | bool {level : Int} (value other : Bool) : SameShape limit level (.bool value) (.bool other)
  | integer {level : Int} {value other : Int} (width : SameWidth value other) :
      SameShape limit level (.integer value) (.integer other)
  | number {level : Int} (value other : Binary64) :
      SameShape limit level (.number value) (.number other)
  | string {level : Int} (value other : Text) :
      SameShape limit level (.string value) (.string other)
  | foreign {level : Int} (typeName : Text) :
      SameShape limit level (.foreign typeName) (.foreign typeName)
  /-- Of containers beyond the limit not even the contents count. -/
  | beyond {level : Int} {value other : Json} (deep : limit < level)
      (container : value.isContainer = true) (otherContainer : other.isContainer = true) :
      SameShape limit level value other
  | emptyArray {level : Int} : SameShape limit level (.array []) (.array [])
  /-- Of an array with items the first one counts and no other. -/
  | array {level : Int} {first otherFirst : Json} (rest otherRest : List Json)
      (firsts : SameShape limit (level + 1) first otherFirst) :
      SameShape limit level (.array (first :: rest)) (.array (otherFirst :: otherRest))
  | object {level : Int} {members others : List (Text × Json)}
      (below : SameMembers limit (level + 1) members others) :
      SameShape limit level (.object members) (.object others)

/-- The members of two objects have the same keys in the same order and values of one shape. -/
inductive SameMembers (limit : Int) : Int → List (Text × Json) → List (Text × Json) → Prop where
  | nil {level : Int} : SameMembers limit level [] []
  | cons {level : Int} (key : Text) {value other : Json} {rest others : List (Text × Json)}
      (values : SameShape limit level value other) (rests : SameMembers limit level rest others) :
      SameMembers limit level ((key, value) :: rest) ((key, other) :: others)

end

theorem SameWidth.ofInt_eq {n m : Int} (width : SameWidth n m) :
    Primitive.ofInt n = Primitive.ofInt m := by
  obtain ⟨narrow, wide⟩ := width
  rw [fitsSigned_32_iff, fitsSigned_32_iff] at narrow
  rw [fitsSigned_64_iff, fitsSigned_64_iff] at wide
  simp only [Primitive.ofInt, narrow, wide]

/-! ## A narrower limit -/

mutual

/-- A container within the limit may lie beyond a narrower one, where less is asked of it. -/
theorem SameShape.mono {limit narrower : Int} (le : narrower ≤ limit) : {level : Int} →
    {value other : Json} → SameShape limit level value other → SameShape narrower level value other
  | _, _, _, .null => .null
  | _, _, _, .bool _ _ => .bool _ _
  | _, _, _, .integer width => .integer width
  | _, _, _, .number _ _ => .number _ _
  | _, _, _, .string _ _ => .string _ _
  | _, _, _, .foreign _ => .foreign _
  | _, _, _, .beyond deep container otherContainer =>
    .beyond (Int.lt_of_le_of_lt le deep) container otherContainer
  | _, _, _, .emptyArray => .emptyArray
  | _, _, _, .array rest otherRest firsts => .array rest otherRest (SameShape.mono le firsts)
  | _, _, _, .object below => .object (SameMembers.mono le below)

theorem SameMembers.mono {limit narrower : Int} (le : narrower ≤ limit) : {level : Int} →
    {members others : List (Text × Json)} → SameMembers limit level members others →
      SameMembers narrower level members others
  | _, _, _, .nil => .nil
  | _, _, _, .cons key values rests =>
    .cons key (SameShape.mono le values) (SameMembers.mono le rests)

end

/-! ## Two runs -/

theorem Options.nestedName_eq_of_sameMembers (o : Options) (owner hint : Text) {limit level : Int}
    {members others : List (Text × Json)} (shape : SameMembers limit level members others) :
    o.nestedName owner hint members = o.nestedName owner hint others := by
  cases shape with
  | nil => rfl
  | cons key values rests =>
    unfold Options.nestedName Options.segment
    cases o.nestedNaming <;> rfl

/-- Beyond the limit a container fails the check of its depth, whatever it contains. -/
theorem infer_of_beyond (o : Options) (owner hint path : Text) (depth : Int) {value : Json}
    (names : NameTable) (deep : (o.maxDepth : Int) < depth + 1)
    (container : value.isContainer = true) :
    infer o owner hint path depth value names =
      (.error (Violation.at (.depthExceeded o.maxDepth) path), names) := by
  cases value <;> simp_all [Json.isContainer, infer, Options.checkDepth]

mutual

theorem infer_eq_of_sameShape (o : Options) (owner hint path : Text) (depth : Int) :
    {value other : Json} → SameShape o.maxDepth (depth + 1) value other → (names : NameTable) →
      infer o owner hint path depth value names = infer o owner hint path depth other names
  | _, _, .null, _ | _, _, .bool _ _, _ | _, _, .number _ _, _ | _, _, .string _ _, _
  | _, _, .foreign _, _ | _, _, .emptyArray, _ => rfl
  | _, _, .integer width, names => by rw [infer, infer, width.ofInt_eq]
  | _, _, .beyond deep container otherContainer, names => by
    rw [infer_of_beyond o owner hint path depth names deep container,
      infer_of_beyond o owner hint path depth names deep otherContainer]
  | _, _, .array rest otherRest firsts, names => by
    have same := infer_eq_of_sameShape o owner hint (Step.firstItem.below path) (depth + 1) firsts
    simp only [infer, inferItems, same]
  | _, _, .object below, names => by
    have sameName := o.nestedName_eq_of_sameMembers owner hint below
    have same := fun builder =>
      buildClass_eq_of_sameMembers o path (depth + 1) builder below
    simp only [infer, sameName, same]

theorem buildClass_eq_of_sameMembers (o : Options) (path : Text) (depth : Int)
    (builder : ClassBuilder) :
    {members others : List (Text × Json)} → SameMembers o.maxDepth (depth + 1) members others →
      (names : NameTable) →
      buildClass o path depth builder members names = buildClass o path depth builder others names
  | _, _, .nil, _ => rfl
  | _, _, .cons key values rests, names => by
    have sameValue := infer_eq_of_sameShape o builder.name key ((Step.member key).below path) depth
      values
    have sameRest := fun next => buildClass_eq_of_sameMembers o path depth next rests
    simp only [buildClass, sameValue, sameRest]

end

/-- Documents of one shape have one outcome, a class tree or a failure with all that it says, and
leave behind the same names. -/
theorem synthesize_eq_of_sameShape (o : Options) {document other : Json}
    (className : Option Text) (names : NameTable) (shape : SameShape o.maxDepth 0 document other) :
    synthesize o document className names = synthesize o other className names := by
  cases shape with
  | beyond deep => exact absurd deep (by omega)
  | object below =>
    have within : (o.withinRoom.maxDepth : Int) ≤ o.maxDepth :=
      ((o.le_withinRoom_iff _).mp (Int.le_refl _)).1
    have same := fun builder =>
      buildClass_eq_of_sameMembers o.withinRoom rootPath 0 builder (below.mono within)
    simp only [synthesize, synthesizeClass, same]
  | _ => rfl

/-- Two samples of one reading: other numbers, another text, other items after the first, and other
contents below the depth that is allowed. -/
def reading : Json :=
  .object [("station", .string "north"), ("samples", .array [.integer 7, .string "late"]),
    ("quality", .object [("codes", .array [.array [.null]])])]

def laterReading : Json :=
  .object [("station", .string ""), ("samples", .array [.integer (-40), .array [], .foreign "set"]),
    ("quality", .object [("codes", .object [("codes", .foreign "set")])])]

/-- With one level allowed both samples fail at the codes, and in the same way. -/
theorem synthesize_laterReading :
    SameShape 1 0 reading laterReading ∧
      synthesize ⟨1, .refuse, .byField, defaultRoom⟩ reading (some "Reading") [] =
        synthesize ⟨1, .refuse, .byField, defaultRoom⟩ laterReading (some "Reading") [] ∧
      (synthesize ⟨1, .refuse, .byField, defaultRoom⟩ reading (some "Reading") []).1 =
        .error (Violation.at (.depthExceeded 1) "$.quality.codes") := by
  have codes : SameShape 1 2 (.array [.array [.null]]) (.object [("codes", .foreign "set")]) :=
    .beyond (by decide) rfl rfl
  have shape : SameShape 1 0 reading laterReading :=
    .object (.cons "station" (.string _ _)
      (.cons "samples" (.array _ _ (.integer (by decide)))
        (.cons "quality" (.object (.cons "codes" codes .nil)) .nil)))
  have same := synthesize_eq_of_sameShape ⟨1, .refuse, .byField, defaultRoom⟩ (some "Reading") []
    shape
  exact ⟨shape, same, rfl⟩

end ClassSynth
