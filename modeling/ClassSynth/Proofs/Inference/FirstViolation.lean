import ClassSynth.Proofs.Inference.Check
import ClassSynth.Proofs.Inference.Walk
import ClassSynth.Proofs.Json.Plain

/-!
# The first violation

A walk makes the checks that the document calls for one after the other, with the names issued so
far in its table, and stops at the first that is violated.  The main statement is that a synthesis
fails just when some check is violated, and then reports the first such check at its location.
-/

set_option autoImplicit false

namespace ClassSynth

/-! ## The walk makes the checks in order -/

/-- Whether the outcome of a walk, begun with certain names issued, is what a list of checks comes
to: the first violation at its location, or else a result and the names of all checks issued. -/
def Reports {α : Type} (o : Options) (issued : List Text) (checkpoints : List Checkpoint)
    (outcome : Naming α) : Prop :=
  match firstViolation? o issued checkpoints with
  | some (place, violation) => outcome.1 = .error (violation.at (pathText place.steps))
  | none => ∃ result, outcome = (.ok result, .issueAll [] (issued ++ issuedIn checkpoints))

section

variable {α β : Type} {o : Options} {issued : List Text}

theorem reports_nil (result : α) : Reports o issued [] (.ok result, .issueAll [] issued) :=
  ⟨result, by simp [issuedIn]⟩

theorem Reports.violated {place : Checkpoint} {violation : Violation} {outcome : Naming α}
    (rest : List Checkpoint) (violated : place.check.violation? o issued = some violation)
    (failure : outcome.1 = .error (violation.at (pathText place.steps))) :
    Reports o issued (place :: rest) outcome := by
  simp only [Reports, firstViolation?, violated]
  exact failure

theorem Reports.passed {place : Checkpoint} {rest : List Checkpoint} {outcome : Naming α}
    (passed : place.check.violation? o issued = none)
    (later : Reports o (issued ++ place.check.issues) rest outcome) :
    Reports o issued (place :: rest) outcome := by
  simp only [Reports, firstViolation?, passed, issuedIn_cons]
  rw [← List.append_assoc]
  exact later

/-- A walk goes on with the second checks once it has come to a result with the first ones. -/
theorem Reports.append {first second : List Checkpoint} {outcome : Naming α} {whole : Naming β}
    (before : Reports o issued first outcome)
    (stops : ∀ e after, outcome = (.error e, after) → whole.1 = .error e)
    (goesOn : ∀ result, outcome = (.ok result, .issueAll [] (issued ++ issuedIn first)) →
      Reports o (issued ++ issuedIn first) second whole) :
    Reports o issued (first ++ second) whole := by
  unfold Reports at before
  cases found : firstViolation? o issued first with
  | some violated =>
    simp only [found] at before
    simp only [Reports, firstViolation?_append, found]
    exact stops _ outcome.2 (Prod.ext before rfl)
  | none =>
    simp only [found] at before
    obtain ⟨result, success⟩ := before
    have after := goesOn result success
    simp only [Reports, firstViolation?_append, found, Option.none_or, issuedIn_append]
    rw [← List.append_assoc]
    exact after

end

theorem pathText_append_singleton (steps : List Step) (step : Step) :
    pathText (steps ++ [step]) = step.below (pathText steps) := by
  simp [pathText]

theorem ClassBuilder.hasField_eq_true_iff (builder : ClassBuilder) (name : Text) :
    builder.hasField name = true ↔ name ∈ builder.fields.map FieldOver.name := by
  simp [hasField]

section

variable (o : Options)

theorem depth_passed_or_violated (issued : List Text) (steps : List Step) (level : Int) :
    ((Check.depth level).violation? o issued = none ∧
      o.checkDepth level (pathText steps) = .ok ()) ∨
    ((Check.depth level).violation? o issued = some (.depthExceeded o.maxDepth) ∧
      o.checkDepth level (pathText steps) =
        .error (Violation.at (.depthExceeded o.maxDepth) (pathText steps))) := by
  by_cases deeper : (o.maxDepth : Int) < level
  · exact .inr ⟨by simp [Check.violation?, deeper], by simp [Options.checkDepth, deeper]⟩
  · exact .inl ⟨by simp [Check.violation?, deeper], by simp [Options.checkDepth, deeper]⟩

theorem className_passed_or_violated (issued : List Text) (steps : List Step) (name : Text) :
    ((Check.className name).violation? o issued = none ∧
      NameTable.reserve (.issueAll [] issued) name (pathText steps) =
        .ok (.issueAll [] (issued ++ [name]))) ∨
    ((Check.className name).violation? o issued = some (.nameCollision name) ∧
      NameTable.reserve (.issueAll [] issued) name (pathText steps) =
        .error (Violation.at (.nameCollision name) (pathText steps))) := by
  have known : NameTable.isTaken (.issueAll [] issued) name = true ↔
      name.fold ∈ issued.map Text.fold := by
    rw [NameTable.isTaken_eq_true_iff]
    simp [NameTable.issueAll]
  by_cases taken : name.fold ∈ issued.map Text.fold
  · refine .inr ⟨by simp only [Check.violation?, taken, if_true], ?_⟩
    simp [NameTable.reserve, known.mpr taken]
  · have untaken := Bool.eq_false_iff.mpr (mt known.mp taken)
    refine .inl ⟨by simp only [Check.violation?, taken, if_false], ?_⟩
    rw [NameTable.reserve_of_untaken untaken, NameTable.issueAll_append]
    simp

-- By induction on the document.  The table holds exactly the names issued so far, and the fields of
-- the class being built have exactly the identifiers of the earlier keys.
mutual

theorem infer_reports : (value : Json) → (owner key : Text) → (steps : List Step) →
    (depth : Int) → (issued : List Text) → value.isPlain = true →
    Reports o issued (value.checks o.nestedNaming owner key steps (depth + 1))
      (infer o owner key (pathText steps) depth value (.issueAll [] issued))
  | .null, _, _, _, _, _, _ => reports_nil _
  | .bool _, _, _, _, _, _, _ => reports_nil _
  | .integer _, _, _, _, _, _, _ => reports_nil _
  | .number _, _, _, _, _, _, _ => reports_nil _
  | .string _, _, _, _, _, _, _ => reports_nil _
  | .foreign _, _, _, _, _, _, plain => by simp [Json.isPlain] at plain
  | .array [], owner, key, steps, depth, issued, _ => by
    simp only [infer, Json.checks]
    rcases depth_passed_or_violated o issued steps (depth + 1) with
      ⟨passed, checked⟩ | ⟨violated, checked⟩
    · simp only [checked]
      refine .passed passed ?_
      cases policy : o.emptyArrays with
      | refuse =>
        have refused : Check.emptyArray.violation? o issued = some .emptyArray := by
          simp [Check.violation?, policy]
        simp only [inferItems, policy, Check.issues, List.append_nil]
        exact .violated [] refused rfl
      | assumeStrings =>
        refine .passed (by simp [Check.violation?, policy]) ?_
        simp only [inferItems, policy, Check.issues, List.append_nil]
        exact reports_nil _
    · simp only [checked]
      exact .violated _ violated rfl
  | .array (first :: rest), owner, key, steps, depth, issued, plain => by
    simp only [Json.isPlain, Json.arePlain, Bool.and_eq_true] at plain
    simp only [infer, Json.checks]
    rcases depth_passed_or_violated o issued steps (depth + 1) with
      ⟨passed, checked⟩ | ⟨violated, checked⟩
    · have below := infer_reports first owner key (steps ++ [.firstItem]) (depth + 1) issued plain.1
      simp only [checked, inferItems, ← pathText_append_singleton]
      refine .passed passed ?_
      simp only [Check.issues, List.append_nil]
      rw [← List.append_nil (Json.checks _ _ _ _ _ first)]
      refine below.append ?_ ?_
      · intro e after failure
        simp only [failure]
      · intro found success
        rw [success]
        exact reports_nil _
    · simp only [checked]
      exact .violated _ violated rfl
  | .object members, owner, key, steps, depth, issued, plain => by
    simp only [infer, Json.checks, o.nestedName_eq_className]
    rcases depth_passed_or_violated o issued steps (depth + 1) with
      ⟨passed, checked⟩ | ⟨violated, checked⟩
    · simp only [checked]
      refine .passed passed ?_
      simp only [Check.issues, List.append_nil]
      rcases className_passed_or_violated o issued steps
        (o.nestedNaming.className owner key members) with ⟨passed, reserved⟩ | ⟨violated, reserved⟩
      · have below := buildClass_reports members steps (depth + 1)
          (.start (o.nestedNaming.className owner key members))
          (issued ++ [o.nestedNaming.className owner key members]) plain
        simp only [reserved]
        refine .passed passed ?_
        simp only [Check.issues]
        rw [← List.append_nil (Json.checksOfMembers _ _ _ _ _ members)]
        refine below.append ?_ ?_
        · intro e after failure
          simp only [failure]
        · intro spec success
          rw [success]
          exact reports_nil _
      · simp only [reserved]
        exact .violated _ violated rfl
    · simp only [checked]
      exact .violated _ violated rfl

theorem buildClass_reports : (members : List (Text × Json)) → (steps : List Step) →
    (depth : Int) → (builder : ClassBuilder) → (issued : List Text) →
    Json.membersArePlain members = true →
    Reports o issued
      (Json.checksOfMembers o.nestedNaming builder.name steps (depth + 1)
        (builder.fields.map FieldOver.name) members)
      (buildClass o (pathText steps) depth builder members (.issueAll [] issued))
  | [], _, _, builder, _, _ => reports_nil builder.build
  | (key, value) :: rest, steps, depth, builder, issued, plain => by
    simp only [Json.membersArePlain, Bool.and_eq_true] at plain
    simp only [buildClass, Json.checksOfMembers, ← pathText_append_singleton]
    by_cases used : builder.hasField key.sanitize = true
    · have repeated := (builder.hasField_eq_true_iff key.sanitize).mp used
      rw [if_pos used]
      exact .violated _ (by simp only [Check.violation?, repeated, if_true]) rfl
    · have fresh := mt (builder.hasField_eq_true_iff key.sanitize).mpr used
      have below := infer_reports value builder.name key (steps ++ [.member key]) depth issued
        plain.1
      rw [if_neg used]
      refine .passed (by simp only [Check.violation?, fresh, if_false]) ?_
      simp only [Check.issues, List.append_nil]
      refine below.append ?_ ?_
      · intro e after failure
        simp only [failure]
      · intro found success
        have later := buildClass_reports rest steps depth (builder.after key found)
          (issued ++ issuedIn (value.checks o.nestedNaming builder.name key
            (steps ++ [.member key]) (depth + 1))) plain.2
        simp only [ClassBuilder.addField, ClassBuilder.addNested, List.map_append, List.map_cons,
          List.map_nil] at later
        rw [success]
        exact later

end

end

/-! ## Documents -/

/-- The checks for a document whose root class has a name. -/
def documentChecks (naming : NestedNaming) (name : Text) (members : List (Text × Json)) :
    List Checkpoint :=
  Json.checksOfMembers naming name [] 1 [] members

/-- Whether an error is the report of the first violation in a document, at its location. -/
def IsFirstReport (o : Options) (name : Text) (members : List (Text × Json)) (e : SynthesisError) :
    Prop :=
  ∃ place violation,
    FirstViolated o [name] (documentChecks o.nestedNaming name members) place violation ∧
      e = violation.at (pathText place.steps)

/-- Whether a synthesis descends beyond its room before anything is violated. -/
def RunsOutOfRoom (o : Options) (name : Text) (members : List (Text × Json)) : Prop :=
  o.room < o.maxDepth ∧ ∃ place,
    FirstViolated o.withinRoom [name] (documentChecks o.nestedNaming name members) place
      (.depthExceeded o.room)

theorem synthesizeClass_fails_iff (o : Options) (name : Text) (members : List (Text × Json))
    (plain : (Json.object members).isPlain = true) (e : SynthesisError) :
    (synthesizeClass o name rootPath 0 members (.issue [] name)).1 = .error e ↔
      IsFirstReport o name members e := by
  have walk : Reports o [name] (documentChecks o.nestedNaming name members)
      (synthesizeClass o name rootPath 0 members (.issue [] name)) :=
    buildClass_reports o members [] 0 (.start name) [name] plain
  simp only [IsFirstReport, ← firstViolation?_eq_some_iff]
  unfold Reports at walk
  cases found : firstViolation? o [name] (documentChecks o.nestedNaming name members) with
  | some violated =>
    obtain ⟨place, violation⟩ := violated
    simp only [found] at walk
    rw [walk, Except.error.injEq]
    constructor
    · rintro rfl
      exact ⟨place, violation, rfl, rfl⟩
    · rintro ⟨_, _, same, rfl⟩
      cases same
      rfl
  | none =>
    simp only [found] at walk
    obtain ⟨result, success⟩ := walk
    simp [success]

/-! ## The room of a synthesis -/

theorem Check.limit_of_violation? {o : Options} {issued : List Text} {check : Check} {limit : Int}
    (violated : check.violation? o issued = some (.depthExceeded limit)) :
    limit = o.maxDepth := by
  cases check <;> simp only [Check.violation?] at violated <;> split at violated <;> cases violated
  rfl

/-- The room makes no difference to a check unless its level exceeds the limit in the room. -/
theorem Check.violation?_withinRoom (o : Options) (issued : List Text) (check : Check) :
    check.violation? o.withinRoom issued = check.violation? o issued ∨
      check.violation? o.withinRoom issued = some (.depthExceeded o.withinRoom.maxDepth) := by
  cases check with
  | depth level =>
    by_cases deeper : (o.withinRoom.maxDepth : Int) < level
    · exact .inr (by simp only [Check.violation?, deeper, if_true])
    · have shallow : ¬ (o.maxDepth : Int) < level :=
        Int.not_lt.mpr ((o.le_withinRoom_iff level).mp (Int.not_lt.mp deeper)).1
      exact .inl (by simp only [Check.violation?, deeper, shallow, if_false])
  | _ => exact .inl rfl

theorem firstViolation?_withinRoom (o : Options) (issued : List Text)
    (checkpoints : List Checkpoint) :
    firstViolation? o.withinRoom issued checkpoints = firstViolation? o issued checkpoints ∨
      ∃ place, firstViolation? o.withinRoom issued checkpoints =
        some (place, .depthExceeded o.withinRoom.maxDepth) := by
  induction checkpoints generalizing issued with
  | nil => exact .inl rfl
  | cons place rest ih =>
    simp only [firstViolation?]
    rcases place.check.violation?_withinRoom o issued with same | exceeded
    · rw [same]
      cases place.check.violation? o issued with
      | some violation => exact .inl rfl
      | none => exact ih _
    · rw [exceeded]
      exact .inr ⟨place, rfl⟩

theorem firstViolation?_of_not_runsOutOfRoom {o : Options} {name : Text}
    {members : List (Text × Json)} (roomy : ¬ RunsOutOfRoom o name members) :
    firstViolation? o.withinRoom [name] (documentChecks o.nestedNaming name members) =
      firstViolation? o [name] (documentChecks o.nestedNaming name members) := by
  by_cases deeper : o.room < o.maxDepth
  · rcases firstViolation?_withinRoom o [name] (documentChecks o.nestedNaming name members) with
      same | ⟨place, exceeded⟩
    · exact same
    · have limit : o.withinRoom.maxDepth = o.room := Nat.min_eq_right (Nat.le_of_lt deeper)
      rw [limit] at exceeded
      exact absurd ⟨deeper, place, (firstViolation?_eq_some_iff _ _ _ _ _).mp exceeded⟩ roomy
  · have same : o.withinRoom = o := by
      have limit : min o.maxDepth o.room = o.maxDepth := Nat.min_eq_left (Nat.le_of_not_lt deeper)
      simp only [Options.withinRoom, limit]
    rw [same]

theorem Options.outOfRoom_of_violation? {o : Options} {issued : List Text} {check : Check}
    {violation : Violation} (violated : check.violation? o issued = some violation) (path : Text) :
    o.outOfRoom (violation.at path) = violation.at path := by
  cases violation with
  | depthExceeded limit =>
    have exact := Check.limit_of_violation? violated
    simp [Options.outOfRoom, Violation.at, exact]
  | _ => rfl

theorem synthesize_fails_iff (o : Options) (name : Text) (members : List (Text × Json))
    (names : NameTable) (identifier : name.isIdentifier = true) (e : SynthesisError) :
    (synthesize o (.object members) (some name) names).1 = .error e ↔
      ∃ cause,
        (synthesizeClass o.withinRoom name rootPath 0 members (.issue [] name)).1 = .error cause ∧
          e = o.outOfRoom cause := by
  simp only [synthesize, identifier, if_true]
  cases synthesizeClass o.withinRoom name rootPath 0 members (.issue [] name) with
  | mk outcome after => cases outcome <;> simp [eq_comm]

/-- A synthesis of plain members fails just when a check of the document is violated, and reports
the first violation at its location.  The first part is about the walk by itself; a synthesis does
the same unless it runs out of room, which it reports at the root.  Every location that is reported
leads to the value that was checked there. -/
theorem synthesize_reports_first_violation (o : Options) (name : Text)
    (members : List (Text × Json)) (names : NameTable) (identifier : name.isIdentifier = true)
    (plain : (Json.object members).isPlain = true) :
    (∀ e, (synthesizeClass o name rootPath 0 members (.issue [] name)).1 = .error e ↔
      IsFirstReport o name members e) ∧
    (¬ RunsOutOfRoom o name members →
      ∀ e, (synthesize o (.object members) (some name) names).1 = .error e ↔
        IsFirstReport o name members e) ∧
    (RunsOutOfRoom o name members →
      (synthesize o (.object members) (some name) names).1 =
        .error (Violation.at (.depthExceeded o.maxDepth) rootPath)) ∧
    (KeysDistinct ((Json.object members).skeleton 0) →
      ∀ place ∈ documentChecks o.nestedNaming name members,
        (Json.object members).follow? place.steps = some place.value) := by
  have inRoom := synthesizeClass_fails_iff o.withinRoom name members plain
  refine ⟨synthesizeClass_fails_iff o name members plain, ?_, ?_, ?_⟩
  · intro roomy e
    have same : ∀ place violation,
        FirstViolated o.withinRoom [name] (documentChecks o.nestedNaming name members) place
          violation ↔
        FirstViolated o [name] (documentChecks o.nestedNaming name members) place violation := by
      intro place violation
      rw [← firstViolation?_eq_some_iff, ← firstViolation?_eq_some_iff,
        firstViolation?_of_not_runsOutOfRoom roomy]
    rw [synthesize_fails_iff o name members names identifier]
    constructor
    · rintro ⟨cause, failure, rfl⟩
      obtain ⟨place, violation, first, rfl⟩ := (inRoom cause).mp failure
      have reported := (same place violation).mp first
      have ⟨_, _, _, _, violated⟩ := reported
      exact ⟨place, violation, reported, Options.outOfRoom_of_violation? violated _⟩
    · rintro ⟨place, violation, first, rfl⟩
      have ⟨_, _, _, _, violated⟩ := first
      exact ⟨_, (inRoom _).mpr ⟨place, violation, (same place violation).mpr first, rfl⟩,
        (Options.outOfRoom_of_violation? violated _).symm⟩
  · rintro ⟨deeper, place, first⟩
    rw [synthesize_fails_iff o name members names identifier]
    refine ⟨_, (inRoom _).mpr ⟨place, _, first, rfl⟩, ?_⟩
    have other : (o.maxDepth : Int) ≠ o.room := by omega
    simp [Options.outOfRoom, Violation.at, other]
  · intro distinct
    simp only [Json.skeleton, keysDistinct_cons_iff] at distinct
    refine follow?_of_mem_checksOfMembers (.object members) o.nestedNaming members name [] 1 []
      distinct.2 ?_
    intro member present
    rw [Json.follow?_append_singleton]
    exact Keyed.get?_of_mem (distinct.1 members rfl) present

/-- A document with several violations: two keys of one identifier in an object and two in the root,
arrays without items, and containers beyond a depth of two. -/
def faultyMembers : List (Text × Json) :=
  [("id", .integer 1),
    ("lines", .array [.object [("unit price", .integer 3), ("unit-price", .array [])]]),
    ("i d", .null), ("i-d", .array [.array [.array []]])]

def strictOptions : Options := ⟨2, .refuse, .byField, defaultRoom⟩

/-- Where the first violation of the document lies. -/
def faultySteps : List Step := [.member "lines", .firstItem, .member "unit-price"]

theorem faulty_first_reported :
    Text.isIdentifier "Order" = true ∧ (Json.object faultyMembers).isPlain = true ∧
    ¬ RunsOutOfRoom strictOptions "Order" faultyMembers ∧
    KeysDistinct ((Json.object faultyMembers).skeleton 0) ∧
    (synthesize strictOptions (.object faultyMembers) (some "Order") []).1 =
      .error (Violation.at (.nameCollision "OrderLines.unit_price") (pathText faultySteps)) ∧
    (Json.object faultyMembers).follow? faultySteps = some (.array []) := by
  have identifier : Text.isIdentifier "Order" = true := rfl
  have plain : (Json.object faultyMembers).isPlain = true := rfl
  have roomy : ¬ RunsOutOfRoom strictOptions "Order" faultyMembers := by
    rintro ⟨deeper, -⟩
    exact absurd deeper (by decide)
  have distinct : KeysDistinct ((Json.object faultyMembers).skeleton 0) := by
    simp only [faultyMembers, Json.skeleton, Json.skeletonOfMembers, keysDistinct_cons_iff,
      keysDistinct_append_iff, keysDistinct_nil, Json.object.injEq, forall_eq', reduceCtorEq,
      false_implies, implies_true, true_and, and_true]
    exact ⟨by decide, by decide⟩
  obtain ⟨-, reports, -, leads⟩ :=
    synthesize_reports_first_violation strictOptions "Order" faultyMembers [] identifier plain
  have first := (firstViolation?_eq_some_iff strictOptions ["Order"]
    (documentChecks .byField "Order" faultyMembers)
    ⟨faultySteps, .array [], .fieldName "OrderLines" "unit_price" ["unit_price"]⟩
    (.nameCollision "OrderLines.unit_price")).mp rfl
  obtain ⟨_, _, split, -⟩ := id first
  refine ⟨identifier, plain, roomy, distinct, (reports roomy _).mpr ⟨_, _, first, rfl⟩, ?_⟩
  exact leads distinct _ (split ▸ List.mem_append_right _ List.mem_cons_self)

end ClassSynth
