import ClassSynth.Inference.Bench
import ClassSynth.Proofs.ClassTree.Draft
import ClassSynth.Proofs.Inference.Session

/-!
# Classes under construction

An inference on a bench changes classes where they stand.  The main statement is that the class
around the value cannot tell the difference.  A failure leaves it as it was; a success adds the
class of the object at the end of the chain of first items, and nothing else; and no other class
that stood on the bench is touched.
-/

set_option autoImplicit false

namespace ClassSynth

/-! ## Builders taken as drafts -/

def ClassBuilder.draft (builder : ClassBuilder) : DraftBuilder :=
  ⟨builder.name, builder.fields.map (FieldOver.map Json.string),
    builder.nested.map ClassOver.draft⟩

namespace ClassBuilder

variable (builder : ClassBuilder)

theorem hasField_draft (name : Text) :
    builder.draft.hasField (.string name) = builder.hasField name := by
  have same : ∀ field : Field,
      Json.equal (field.map Json.string).name (.string name) = decide (field.name = name) := by
    intro field
    rw [Bool.eq_iff_iff, FieldOver.map, Json.equal_string_iff, decide_eq_true_iff]
    simp [eq_comm]
  rw [DraftBuilder.hasField, hasField, draft, List.any_map]
  simp only [Function.comp_def, same]

theorem draft_addNested (specs : List ClassSpec) :
    (builder.addNested specs).draft = builder.draft.addNested (specs.map ClassOver.draft) := by
  simp [draft, addNested, DraftBuilder.addNested]

theorem draft_addField (field : Field) :
    (builder.addField field).draft = builder.draft.addField (field.map Json.string) := by
  simp [draft, addField, DraftBuilder.addField]

theorem draft_start (name : Text) : (start name).draft = .start name := rfl

theorem build_draft : builder.draft.build = builder.build.draft := by
  rw [ClassOver.draft, build, ClassOver.map, ClassSpec.mapAll_eq_map]
  rfl

end ClassBuilder

/-! ## Agreement with the walk -/

/-- Whether a run on a bench comes to what a walk finds.  The classes found have been added to the
class at its place, the others stand as before, and those begun on the way stand behind them. -/
def ComesTo (before behind : List DraftBuilder) (enclosing : DraftBuilder)
    (run : Except SynthesisError FieldType × Bench) : Naming Inferred → Prop
  | (.error e, names) =>
    ∃ begun, run = (.error e, ⟨before ++ enclosing :: (behind ++ begun), names⟩)
  | (.ok found, names) =>
    let left := enclosing.addNested (found.nested.map ClassOver.draft)
    ∃ begun, run = (.ok found.type, ⟨before ++ left :: (behind ++ begun), names⟩)

/-- Whether a run on a bench finishes the class at its place like a walk that builds it.  After a
failure the class may be in any state. -/
def Finishes (before behind : List DraftBuilder) (run : Except SynthesisError Unit × Bench) :
    Naming ClassSpec → Prop
  | (.error e, names) =>
    ∃ left begun, run = (.error e, ⟨before ++ left :: (behind ++ begun), names⟩)
  | (.ok spec, names) =>
    ∃ finished begun, finished.build = spec.draft ∧
      run = (.ok (), ⟨before ++ finished :: (behind ++ begun), names⟩)

theorem Finishes.of_append {before behind begun : List DraftBuilder}
    {run : Except SynthesisError Unit × Bench} {walked : Naming ClassSpec}
    (finishes : Finishes before (behind ++ begun) run walked) :
    Finishes before behind run walked := by
  obtain ⟨outcome, names⟩ := walked
  cases outcome with
  | error e =>
    obtain ⟨left, later, same⟩ := finishes
    exact ⟨left, begun ++ later, by rw [same, List.append_assoc]⟩
  | ok spec =>
    obtain ⟨finished, later, built, same⟩ := finishes
    exact ⟨finished, begun ++ later, built, by rw [same, List.append_assoc]⟩

section

variable (o : Options)

-- By induction on the value.  The class of an object stands behind all others, so that whatever
-- happens to it and further behind, the class around it keeps its place.
mutual

theorem comesTo_inferInPlace : (value : Json) → (hint path : Text) → (depth : Int) →
    (before behind : List DraftBuilder) → (enclosing : DraftBuilder) → (names : NameTable) →
    ComesTo before behind enclosing
      (inferInPlace o before.length hint path depth value ⟨before ++ enclosing :: behind, names⟩)
      (infer o enclosing.name hint path depth value names)
  | .null, _, _, _, _, _, _, _ | .bool _, _, _, _, _, _, _, _ | .integer _, _, _, _, _, _, _, _
  | .number _, _, _, _, _, _, _, _ | .string _, _, _, _, _, _, _, _
  | .foreign _, _, _, _, _, _, _, _ =>
    ⟨[], by simp [inferInPlace, DraftBuilder.addNested]⟩
  | .array items, hint, path, depth, before, behind, enclosing, names => by
    rw [inferInPlace, infer]
    cases o.checkDepth (depth + 1) path with
    | error e => exact ⟨[], by simp⟩
    | ok passed =>
      exact comesTo_inferItemsInPlace items hint path (depth + 1) before behind enclosing names
  | .object members, hint, path, depth, before, behind, enclosing, names => by
    rw [inferInPlace, infer, Bench.builderAt_length]
    cases o.checkDepth (depth + 1) path with
    | error e => exact ⟨[], by simp⟩
    | ok passed =>
      dsimp only
      cases names.reserve (o.nestedName enclosing.name hint members) path with
      | error e => exact ⟨[], by simp⟩
      | ok issued =>
        have finishes := finishes_fillInPlace members path (depth + 1)
          (before ++ enclosing :: behind) [] (.start (o.nestedName enclosing.name hint members))
          issued
        dsimp only
        cases built : buildClass o path (depth + 1)
            (.start (o.nestedName enclosing.name hint members)) members issued with
        | mk outcome after =>
          rw [built] at finishes
          cases outcome with
          | error e =>
            obtain ⟨left, begun, run⟩ := finishes
            refine ⟨left :: begun, ?_⟩
            rw [Bench.begin, ← ClassBuilder.draft_start, run]
            simp
          | ok spec =>
            obtain ⟨finished, begun, same, run⟩ := finishes
            refine ⟨finished :: begun, ?_⟩
            rw [Bench.begin, ← ClassBuilder.draft_start, run]
            dsimp only
            rw [Bench.builderAt_length, same, List.append_assoc, List.cons_append,
              Bench.alter_length]
            rfl

theorem comesTo_inferItemsInPlace : (items : List Json) → (hint path : Text) → (depth : Int) →
    (before behind : List DraftBuilder) → (enclosing : DraftBuilder) → (names : NameTable) →
    ComesTo before behind enclosing
      (inferItemsInPlace o before.length hint path depth items
        ⟨before ++ enclosing :: behind, names⟩)
      (inferItems o enclosing.name hint path depth items names)
  | [], _, _, _, _, _, _, _ => by
    rw [inferItemsInPlace, inferItems]
    cases o.emptyArrays <;> exact ⟨[], by simp [DraftBuilder.addNested]⟩
  | first :: _, hint, path, depth, before, behind, enclosing, names => by
    have below := comesTo_inferInPlace first hint (Step.firstItem.below path) depth before behind
      enclosing names
    rw [inferItemsInPlace, inferItems]
    cases inferred : infer o enclosing.name hint (Step.firstItem.below path) depth first names with
    | mk outcome after =>
      rw [inferred] at below
      cases outcome <;>
      · obtain ⟨begun, run⟩ := below
        rw [run]
        exact ⟨begun, rfl⟩

theorem finishes_fillInPlace : (members : List (Text × Json)) → (path : Text) → (depth : Int) →
    (before behind : List DraftBuilder) → (builder : ClassBuilder) → (names : NameTable) →
    Finishes before behind
      (fillInPlace o before.length path depth members ⟨before ++ builder.draft :: behind, names⟩)
      (buildClass o path depth builder members names)
  | [], _, _, _, behind, builder, _ =>
    ⟨builder.draft, [], builder.build_draft, by rw [fillInPlace, List.append_nil]⟩
  | (key, value) :: rest, path, depth, before, behind, builder, names => by
    have first : ComesTo before behind builder.draft _ (infer o builder.name key _ _ _ _) :=
      comesTo_inferInPlace value key ((Step.member key).below path) depth before behind
        builder.draft names
    rw [fillInPlace, buildClass]
    dsimp only
    rw [Bench.builderAt_length, builder.hasField_draft]
    cases builder.hasField key.sanitize with
    | true =>
      rw [if_pos rfl, if_pos rfl]
      exact ⟨builder.draft, [], by rw [List.append_nil]; rfl⟩
    | false =>
      simp only [Bool.false_eq_true, if_false]
      cases inferred : infer o builder.name key ((Step.member key).below path) depth value
          names with
      | mk outcome after =>
        rw [inferred] at first
        cases outcome with
        | error e =>
          obtain ⟨begun, run⟩ := first
          rw [run]
          exact ⟨builder.draft, begun, rfl⟩
        | ok found =>
          obtain ⟨begun, run⟩ := first
          have later := finishes_fillInPlace rest path depth before (behind ++ begun)
            ((builder.addNested found.nested).addField ⟨key.sanitize, found.type, key⟩) after
          rw [ClassBuilder.draft_addField, ClassBuilder.draft_addNested] at later
          rw [run]
          dsimp only
          rw [Bench.alter_length]
          exact later.of_append

end

end

/-! ## What the class around the value sees -/

/-- What an inference finds besides the type: one class, which the type refers to, if the chain of
first items ends in an object, and else none. -/
theorem nested_of_infer {o : Options} {value : Json} {owner hint path : Text} {depth : Int}
    {names after : NameTable} {found : Inferred}
    (success : infer o owner hint path depth value names = (.ok found, after)) :
    match value.heldObject? with
    | none => found.nested = []
    | some _ => ∃ built : ClassSpec, found.type.core = .reference built.name ∧
        found.nested = [built] := by
  obtain ⟨rfl, -⟩ := infer_eq_of_success o success
  have refers := value.reference?_fieldType o.nestedNaming owner hint
  simp only [Inferred.ofValue, Json.classes_eq]
  cases held : value.heldObject? with
  | none => rfl
  | some members =>
    rw [held] at refers
    exact ⟨.ofObject o.nestedNaming (o.nestedNaming.className owner hint members) members,
      TypeOver.core_of_reference? refers, rfl⟩

/-- What an inference in a session comes to, told from the walk. -/
theorem Session.infer_cases (s : Session) (value : Json) (hint path : Text) (depth : Int) :
    let walked := ClassSynth.infer s.options s.builder.name hint path depth value s.names
    (∃ e names, walked = (.error e, names) ∧
      s.infer value hint path depth = (.error e, ⟨s.options, names, s.builder⟩)) ∨
    ∃ found names, walked = (.ok found, names) ∧
      s.infer value hint path depth = (.ok found.type,
        ⟨s.options, names, s.builder.addNested (found.nested.map ClassOver.draft)⟩) := by
  dsimp only
  rw [infer]
  cases ClassSynth.infer s.options s.builder.name hint path depth value s.names with
  | mk outcome names =>
    cases outcome with
    | error e => exact .inl ⟨e, names, rfl, rfl⟩
    | ok found => exact .inr ⟨found, names, rfl, rfl⟩

/-- An inference that changes classes where they stand is atomic on the class around the value,
whatever else stands on the bench, and leaves the other classes as they are.  It comes to what a
session comes to, which adds at the end what has been found.  However many classes have been begun
and added to each other further down, a failure of any kind leaves the class as it was; the limit
that is exceeded may be that of the room (`Options.withinRoom`).  A success adds the one class that
the type refers to, if the chain of first items ends in an object, and else nothing. -/
theorem inferInPlace_is_atomic (s : Session) (value : Json) (hint path : Text) (depth : Int)
    (before behind : List DraftBuilder) :
    let run := inferInPlace s.options before.length hint path depth value
      ⟨before ++ s.builder :: behind, s.names⟩
    ∃ left begun, run.2.builders = before ++ left :: (behind ++ begun) ∧
      s.infer value hint path depth = (run.1, ⟨s.options, run.2.names, left⟩) ∧
      match run.1 with
      | .error _ => left = s.builder
      | .ok type =>
        left.name = s.builder.name ∧ left.fields = s.builder.fields ∧
        match value.heldObject? with
        | none => left.nested = s.builder.nested
        | some _ => ∃ built : ClassSpec, type.core = .reference built.name ∧
            left.nested = s.builder.nested ++ [built.draft] := by
  have comesTo := comesTo_inferInPlace s.options value hint path depth before behind s.builder
    s.names
  dsimp only
  rcases s.infer_cases value hint path depth with
    ⟨e, names, walked, inferred⟩ | ⟨found, names, walked, inferred⟩
  · rw [walked] at comesTo
    obtain ⟨begun, run⟩ := comesTo
    rw [run, inferred]
    exact ⟨s.builder, begun, rfl, rfl, rfl⟩
  · rw [walked] at comesTo
    obtain ⟨begun, run⟩ := comesTo
    rw [run, inferred]
    refine ⟨_, begun, rfl, rfl, rfl, rfl, ?_⟩
    have classes := nested_of_infer walked
    cases held : value.heldObject? with
    | none =>
      simp only [held] at classes
      rw [DraftBuilder.addNested, classes]
      exact List.append_nil _
    | some members =>
      simp only [held] at classes
      obtain ⟨built, refers, single⟩ := classes
      exact ⟨built, refers, by rw [DraftBuilder.addNested, single]; rfl⟩

-- The second member is refused when the class of the object has a field and a nested class already.
example :
    let value : Json := .object [("a", .object []), ("b", .array [])]
    let run := inferInPlace .default 0 "log" rootPath 0 value ⟨[.start "Root"], []⟩
    run.2.builders.map (fun builder => (builder.fields.length, builder.nested.length)) =
      [(0, 0), (1, 1), (0, 0)] := by
  decide +kernel

end ClassSynth
