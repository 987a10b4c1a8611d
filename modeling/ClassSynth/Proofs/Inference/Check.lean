import ClassSynth.Proofs.Inference.Skeleton
import ClassSynth.Proofs.Keyed

/-!
# The checks that a document calls for

The checks that a document calls for are listed without making any of them: in the order of the
document, each with its location and the value there.  A check can be judged by the names in the
checks before it, so which one is violated first is a matter of the list alone.
-/

set_option autoImplicit false

namespace ClassSynth

/-- What is checked at a point of a document. -/
inductive Check where
  /-- The identifier of a key, against those of the earlier keys of the object. -/
  | fieldName (owner name : Text) (earlier : List Text)
  /-- The level of a container, against the depth allowed. -/
  | depth (level : Int)
  /-- An array without items, against the policy. -/
  | emptyArray
  /-- The class name of an object, against those issued before. -/
  | className (name : Text)

/-- What a check comes to when certain class names have been issued. -/
def Check.violation? (o : Options) (issued : List Text) : Check → Option Violation
  | .fieldName owner name earlier =>
    if name ∈ earlier then some (.nameCollision (owner ++ "." ++ name)) else none
  | .depth level => if o.maxDepth < level then some (.depthExceeded o.maxDepth) else none
  | .emptyArray => if o.emptyArrays = .refuse then some .emptyArray else none
  | .className name =>
    if name.fold ∈ issued.map Text.fold then some (.nameCollision name) else none

def Check.issues : Check → List Text
  | .className name => [name]
  | _ => []

structure Checkpoint where
  steps : List Step
  value : Json
  check : Check

namespace Json

mutual

/-- The checks for a value at a location and a level that a key leads to in a class. -/
def checks (naming : NestedNaming) (owner key : Text) (steps : List Step) (level : Int) :
    Json → List Checkpoint
  | .array [] => [⟨steps, .array [], .depth level⟩, ⟨steps, .array [], .emptyArray⟩]
  | .array (first :: rest) =>
    ⟨steps, .array (first :: rest), .depth level⟩ ::
      checks naming owner key (steps ++ [.firstItem]) (level + 1) first
  | .object members =>
    let name := naming.className owner key members
    ⟨steps, .object members, .depth level⟩ :: ⟨steps, .object members, .className name⟩ ::
      checksOfMembers naming name steps (level + 1) [] members
  | _ => []
termination_by structural value => value

/-- The checks for the members of the object of a class, their values being at a level, when members
with certain identifiers come before them. -/
def checksOfMembers (naming : NestedNaming) (owner : Text) (steps : List Step) (level : Int)
    (earlier : List Text) : List (Text × Json) → List Checkpoint
  | [] => []
  | (key, value) :: rest =>
    ⟨steps ++ [.member key], value, .fieldName owner key.sanitize earlier⟩ ::
      (checks naming owner key (steps ++ [.member key]) level value ++
        checksOfMembers naming owner steps level (earlier ++ [key.sanitize]) rest)
termination_by structural members => members

end

def enter? : Json → Step → Option Json
  | .object members, .member key => Keyed.get? key members
  | .array (first :: _), .firstItem => some first
  | _, _ => none

def follow? (document : Json) (steps : List Step) : Option Json := steps.foldlM enter? document

end Json

/-- The class names that are issued when all of several checks are passed. -/
def issuedIn (checkpoints : List Checkpoint) : List Text :=
  checkpoints.flatMap fun place => place.check.issues

def AllPassed (o : Options) (issued : List Text) (checkpoints : List Checkpoint) : Prop :=
  ∀ earlier place later, checkpoints = earlier ++ place :: later →
    place.check.violation? o (issued ++ issuedIn earlier) = none

/-- Whether one of several checks is violated and all those before it are passed. -/
def FirstViolated (o : Options) (issued : List Text) (checkpoints : List Checkpoint)
    (place : Checkpoint) (violation : Violation) : Prop :=
  ∃ earlier later, checkpoints = earlier ++ place :: later ∧ AllPassed o issued earlier ∧
    place.check.violation? o (issued ++ issuedIn earlier) = some violation

def firstViolation? (o : Options) (issued : List Text) :
    List Checkpoint → Option (Checkpoint × Violation)
  | [] => none
  | place :: rest =>
    match place.check.violation? o issued with
    | some violation => some (place, violation)
    | none => firstViolation? o (issued ++ place.check.issues) rest

section

variable (o : Options)

@[simp] theorem issuedIn_cons (place : Checkpoint) (rest : List Checkpoint) :
    issuedIn (place :: rest) = place.check.issues ++ issuedIn rest := rfl

@[simp] theorem issuedIn_append (first second : List Checkpoint) :
    issuedIn (first ++ second) = issuedIn first ++ issuedIn second := by simp [issuedIn]

theorem firstViolation?_append (issued : List Text) (first second : List Checkpoint) :
    firstViolation? o issued (first ++ second) =
      (firstViolation? o issued first).or
        (firstViolation? o (issued ++ issuedIn first) second) := by
  induction first generalizing issued with
  | nil => simp [firstViolation?, issuedIn]
  | cons place rest ih =>
    simp only [List.cons_append, firstViolation?, issuedIn_cons]
    cases place.check.violation? o issued with
    | some violation => rfl
    | none =>
      simp only
      rw [ih, List.append_assoc]

theorem allPassed_cons_iff (issued : List Text) (place : Checkpoint) (rest : List Checkpoint) :
    AllPassed o issued (place :: rest) ↔
      place.check.violation? o issued = none ∧
        AllPassed o (issued ++ place.check.issues) rest := by
  constructor
  · intro passed
    refine ⟨?_, ?_⟩
    · have here := passed [] place rest rfl
      simpa [issuedIn] using here
    · intro earlier next later split
      have there := passed (place :: earlier) next later (congrArg (List.cons place) split)
      rwa [issuedIn_cons, ← List.append_assoc] at there
  · rintro ⟨here, passed⟩ earlier next later split
    cases earlier with
    | nil =>
      obtain ⟨rfl, rfl⟩ := List.cons.inj split
      simpa [issuedIn] using here
    | cons first earlier =>
      obtain ⟨rfl, tails⟩ := List.cons.inj split
      rw [issuedIn_cons, ← List.append_assoc]
      exact passed earlier next later tails

theorem firstViolated_cons_iff (issued : List Text) (first : Checkpoint) (rest : List Checkpoint)
    (place : Checkpoint) (violation : Violation) :
    FirstViolated o issued (first :: rest) place violation ↔
      (place = first ∧ first.check.violation? o issued = some violation) ∨
      (first.check.violation? o issued = none ∧
        FirstViolated o (issued ++ first.check.issues) rest place violation) := by
  constructor
  · rintro ⟨earlier, later, split, passed, violated⟩
    cases earlier with
    | nil =>
      obtain ⟨rfl, rfl⟩ := List.cons.inj split
      exact .inl ⟨rfl, by simpa [issuedIn] using violated⟩
    | cons head earlier =>
      obtain ⟨rfl, tails⟩ := List.cons.inj split
      obtain ⟨here, passed⟩ := (allPassed_cons_iff o issued _ _).mp passed
      rw [issuedIn_cons, ← List.append_assoc] at violated
      exact .inr ⟨here, earlier, later, tails, passed, violated⟩
  · rintro (⟨rfl, violated⟩ | ⟨here, earlier, later, split, passed, violated⟩)
    · exact ⟨[], rest, rfl, by simp [AllPassed], by simpa [issuedIn] using violated⟩
    · refine ⟨first :: earlier, later, congrArg (List.cons first) split, ?_, ?_⟩
      · exact (allPassed_cons_iff o issued _ _).mpr ⟨here, passed⟩
      · rwa [issuedIn_cons, ← List.append_assoc]

theorem firstViolation?_eq_some_iff (issued : List Text) (checkpoints : List Checkpoint)
    (place : Checkpoint) (violation : Violation) :
    firstViolation? o issued checkpoints = some (place, violation) ↔
      FirstViolated o issued checkpoints place violation := by
  induction checkpoints generalizing issued with
  | nil => simp [firstViolation?, FirstViolated]
  | cons first rest ih =>
    rw [firstViolated_cons_iff, firstViolation?]
    cases first.check.violation? o issued with
    | some found => simp [eq_comm]
    | none => simpa using ih _

end

/-! ## Locations lead to values -/

/-- Whether no object of a skeleton has a key twice. -/
def KeysDistinct (skeleton : List Placed) : Prop :=
  ∀ placed ∈ skeleton, ∀ members, placed.value = .object members → (Keyed.keys members).Nodup

theorem keysDistinct_nil : KeysDistinct [] := by simp [KeysDistinct]

theorem keysDistinct_cons_iff (placed : Placed) (rest : List Placed) :
    KeysDistinct (placed :: rest) ↔
      (∀ members, placed.value = .object members → (Keyed.keys members).Nodup) ∧
        KeysDistinct rest :=
  List.forall_mem_cons

theorem keysDistinct_append_iff (first second : List Placed) :
    KeysDistinct (first ++ second) ↔ KeysDistinct first ∧ KeysDistinct second :=
  List.forall_mem_append

theorem Json.follow?_append_singleton (document : Json) (steps : List Step) (step : Step) :
    document.follow? (steps ++ [step]) =
      (document.follow? steps).bind fun value => value.enter? step := by
  simp [Json.follow?, List.foldlM_append]

section

variable (document : Json) (naming : NestedNaming)

mutual

theorem follow?_of_mem_checks : (value : Json) → (owner key : Text) → (steps : List Step) →
    (level : Int) → KeysDistinct (value.skeleton level) → document.follow? steps = some value →
    ∀ place ∈ value.checks naming owner key steps level,
      document.follow? place.steps = some place.value
  | .null, _, _, _, _, _, _ => by simp [Json.checks]
  | .bool _, _, _, _, _, _, _ => by simp [Json.checks]
  | .integer _, _, _, _, _, _, _ => by simp [Json.checks]
  | .number _, _, _, _, _, _, _ => by simp [Json.checks]
  | .string _, _, _, _, _, _, _ => by simp [Json.checks]
  | .foreign _, _, _, _, _, _, _ => by simp [Json.checks]
  | .array [], _, _, _, _, _, here => by simp [Json.checks, here]
  | .array (first :: rest), owner, key, steps, level, distinct, here => by
    simp only [Json.skeleton, keysDistinct_cons_iff] at distinct
    have below : document.follow? (steps ++ [.firstItem]) = some first := by
      rw [Json.follow?_append_singleton, here]
      rfl
    simp only [Json.checks, List.forall_mem_cons]
    exact ⟨here, follow?_of_mem_checks first owner key _ (level + 1) distinct.2 below⟩
  | .object members, owner, key, steps, level, distinct, here => by
    simp only [Json.skeleton, keysDistinct_cons_iff] at distinct
    have below : ∀ member ∈ members,
        document.follow? (steps ++ [.member member.1]) = some member.2 := by
      intro member present
      rw [Json.follow?_append_singleton, here]
      exact Keyed.get?_of_mem (distinct.1 members rfl) present
    simp only [Json.checks, List.forall_mem_cons]
    exact ⟨here, here,
      follow?_of_mem_checksOfMembers members _ steps (level + 1) [] distinct.2 below⟩

theorem follow?_of_mem_checksOfMembers : (members : List (Text × Json)) → (owner : Text) →
    (steps : List Step) → (level : Int) → (earlier : List Text) →
    KeysDistinct (Json.skeletonOfMembers level members) →
    (∀ member ∈ members, document.follow? (steps ++ [.member member.1]) = some member.2) →
    ∀ place ∈ Json.checksOfMembers naming owner steps level earlier members,
      document.follow? place.steps = some place.value
  | [], _, _, _, _, _, _ => by simp [Json.checksOfMembers]
  | (key, value) :: rest, owner, steps, level, earlier, distinct, here => by
    simp only [Json.skeletonOfMembers, keysDistinct_append_iff] at distinct
    obtain ⟨first, later⟩ := List.forall_mem_cons.mp here
    simp only [Json.checksOfMembers, List.forall_mem_cons, List.forall_mem_append]
    exact ⟨first, follow?_of_mem_checks value owner key _ level distinct.1 first,
      follow?_of_mem_checksOfMembers rest owner steps level _ distinct.2 later⟩

end

end

end ClassSynth
