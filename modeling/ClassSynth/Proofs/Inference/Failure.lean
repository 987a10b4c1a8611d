import ClassSynth.Inference.Synthesis
import ClassSynth.Proofs.Json.Plain

/-!
# How a synthesis fails

On plain values a synthesis under an identifier fails for one kind of reason only: something in the
document is violated.  The other kinds belong to foreign values and to names that are no
identifiers.
-/

set_option autoImplicit false

namespace ClassSynth

theorem Options.exists_of_checkDepth_eq_error {o : Options} {depth : Int} {path : Text}
    {e : SynthesisError} (refused : o.checkDepth depth path = .error e) :
    ∃ error, e = .inference error := by
  unfold Options.checkDepth at refused
  split at refused
  · cases refused
    exact ⟨_, rfl⟩
  · cases refused

theorem NameTable.exists_of_reserve_eq_error {table : NameTable} {name path : Text}
    {e : SynthesisError} (refused : table.reserve name path = .error e) :
    ∃ error, e = .inference error := by
  unfold NameTable.reserve at refused
  split at refused
  · cases refused
    exact ⟨_, rfl⟩
  · cases refused

section

variable (o : Options)

mutual

theorem exists_of_infer_eq_error : (value : Json) → (owner key path : Text) → (depth : Int) →
    (names after : NameTable) → (e : SynthesisError) → value.isPlain = true →
    infer o owner key path depth value names = (.error e, after) → ∃ error, e = .inference error
  | .null, _, _, _, _, _, _, _, _, failure => by simp [infer] at failure
  | .bool _, _, _, _, _, _, _, _, _, failure => by simp [infer] at failure
  | .integer _, _, _, _, _, _, _, _, _, failure => by simp [infer] at failure
  | .number _, _, _, _, _, _, _, _, _, failure => by simp [infer] at failure
  | .string _, _, _, _, _, _, _, _, _, failure => by simp [infer] at failure
  | .foreign _, _, _, _, _, _, _, _, plain, _ => by simp [Json.isPlain] at plain
  | .array items, owner, key, path, depth, names, after, e, plain, failure => by
    simp only [infer] at failure
    cases checked : o.checkDepth (depth + 1) path with
    | error refusal =>
      simp only [checked, Prod.mk.injEq, Except.error.injEq] at failure
      exact failure.1 ▸ Options.exists_of_checkDepth_eq_error checked
    | ok passed =>
      simp only [checked] at failure
      cases items with
      | nil =>
        cases policy : o.emptyArrays with
        | assumeStrings => simp [inferItems, policy] at failure
        | refuse =>
          simp only [inferItems, policy, Prod.mk.injEq, Except.error.injEq] at failure
          exact ⟨_, failure.1.symm⟩
      | cons first rest =>
        simp only [Json.isPlain, Json.arePlain, Bool.and_eq_true] at plain
        simp only [inferItems] at failure
        cases inner : infer o owner key (Step.firstItem.below path) (depth + 1) first names with
        | mk outcome mid =>
          cases outcome with
          | ok found => simp [inner] at failure
          | error cause =>
            simp only [inner, Prod.mk.injEq, Except.error.injEq] at failure
            exact failure.1 ▸ exists_of_infer_eq_error first owner key _ _ names mid cause plain.1
              inner
  | .object members, owner, key, path, depth, names, after, e, plain, failure => by
    simp only [infer] at failure
    cases checked : o.checkDepth (depth + 1) path with
    | error refusal =>
      simp only [checked, Prod.mk.injEq, Except.error.injEq] at failure
      exact failure.1 ▸ Options.exists_of_checkDepth_eq_error checked
    | ok passed =>
      simp only [checked] at failure
      cases reserved : names.reserve (o.nestedName owner key members) path with
      | error refusal =>
        simp only [reserved, Prod.mk.injEq, Except.error.injEq] at failure
        exact failure.1 ▸ NameTable.exists_of_reserve_eq_error reserved
      | ok issued =>
        simp only [reserved] at failure
        cases inner : buildClass o path (depth + 1) (.start (o.nestedName owner key members))
            members issued with
        | mk outcome mid =>
          cases outcome with
          | ok spec => simp [inner] at failure
          | error cause =>
            simp only [inner, Prod.mk.injEq, Except.error.injEq] at failure
            exact failure.1 ▸ exists_of_buildClass_eq_error members _ _ _ issued mid cause plain
              inner

theorem exists_of_buildClass_eq_error : (members : List (Text × Json)) → (path : Text) →
    (depth : Int) → (builder : ClassBuilder) → (names after : NameTable) → (e : SynthesisError) →
    Json.membersArePlain members = true →
    buildClass o path depth builder members names = (.error e, after) →
    ∃ error, e = .inference error
  | [], _, _, _, _, _, _, _, failure => by simp [buildClass] at failure
  | (key, value) :: rest, path, depth, builder, names, after, e, plain, failure => by
    simp only [Json.membersArePlain, Bool.and_eq_true] at plain
    simp only [buildClass] at failure
    cases used : builder.hasField key.sanitize with
    | true =>
      simp only [used, if_true, Prod.mk.injEq, Except.error.injEq] at failure
      exact ⟨_, failure.1.symm⟩
    | false =>
      simp only [used, Bool.false_eq_true, if_false] at failure
      cases inner : infer o builder.name key ((Step.member key).below path) depth value names with
      | mk outcome mid =>
        cases outcome with
        | ok found =>
          simp only [inner] at failure
          exact exists_of_buildClass_eq_error rest path depth _ mid after e plain.2 failure
        | error cause =>
          simp only [inner, Prod.mk.injEq, Except.error.injEq] at failure
          exact failure.1 ▸ exists_of_infer_eq_error value builder.name key _ depth names mid cause
            plain.1 inner

end

end

theorem Options.exists_of_outOfRoom (o : Options) (error : InferenceError) :
    ∃ reported, o.outOfRoom (.inference error) = .inference reported := by
  unfold Options.outOfRoom
  split
  · split <;> exact ⟨_, rfl⟩
  · exact ⟨_, rfl⟩

theorem exists_of_synthesizeFresh_eq_error {o : Options} {document : Json} {name : Text}
    {e : SynthesisError} (plain : document.isPlain = true) (identifier : name.isIdentifier = true)
    (failure : synthesizeFresh o document (some name) = .error e) :
    ∃ error, e = .inference error := by
  unfold synthesizeFresh synthesize at failure
  simp only [identifier, if_true] at failure
  cases document with
  | object members =>
    simp only at failure
    cases outcome : synthesizeClass o.withinRoom name rootPath 0 members (.issue [] name) with
    | mk result after =>
      cases result with
      | ok spec => simp [outcome] at failure
      | error cause =>
        simp only [outcome, Except.error.injEq] at failure
        obtain ⟨error, rfl⟩ := exists_of_buildClass_eq_error o.withinRoom members rootPath 0
          (.start name) _ after cause plain outcome
        obtain ⟨reported, same⟩ := o.exists_of_outOfRoom error
        exact ⟨reported, failure.symm.trans same⟩
  | _ =>
    simp only [Except.error.injEq] at failure
    exact ⟨_, failure.symm⟩

end ClassSynth
