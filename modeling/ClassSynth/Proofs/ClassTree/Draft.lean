import ClassSynth.ClassTree.Draft

/-!
# Drafts that settle

A draft settles to a finished tree when its names are texts, and then it is nothing but that tree
taken as a draft.  A form can be read as a draft or, with texts for names, as a finished tree.  The
main statement is that the second reading is the first one settled.
-/

set_option autoImplicit false

namespace ClassSynth

theorem Json.text?_eq_some_iff (value : Json) (text : Text) :
    value.text? = some text ↔ value = .string text := by
  cases value <;> simp [Json.text?]

theorem FieldType.eq_map_of_rename? {draft : TypeOver Json} {type : FieldType}
    (settled : draft.rename? Json.text? = some type) : draft = type.map Json.string := by
  induction draft generalizing type with
  | primitive kind =>
    simp only [TypeOver.rename?, Option.some.injEq] at settled
    rw [← settled, TypeOver.map]
  | list element ih =>
    simp only [TypeOver.rename?, Option.map_eq_some_iff] at settled
    obtain ⟨inner, innerSettled, rfl⟩ := settled
    rw [TypeOver.map, ih innerSettled]
  | reference className =>
    simp only [TypeOver.rename?, Option.map_eq_some_iff, Json.text?_eq_some_iff] at settled
    obtain ⟨text, rfl, rfl⟩ := settled
    rfl

theorem Field.eq_map_of_rename? {draft : FieldOver Json} {field : Field}
    (settled : draft.rename? Json.text? = some field) : draft = field.map Json.string := by
  obtain ⟨name, type, key⟩ := draft
  simp only [FieldOver.rename?, Option.bind_eq_bind, Option.bind_eq_some_iff,
    Json.text?_eq_some_iff, Option.some.injEq] at settled
  obtain ⟨nameText, rfl, settledType, typeSettled, keyText, rfl, rfl⟩ := settled
  rw [FieldType.eq_map_of_rename? typeSettled]
  rfl

theorem Field.eq_map_of_mapM_rename? {drafts : List (FieldOver Json)} {fields : List Field}
    (settled : drafts.mapM (FieldOver.rename? Json.text?) = some fields) :
    drafts = fields.map (FieldOver.map Json.string) := by
  induction drafts generalizing fields with
  | nil =>
    simp only [List.mapM_nil, Option.pure_def, Option.some.injEq] at settled
    rw [← settled]
    rfl
  | cons draft rest ih =>
    simp only [List.mapM_cons, Option.pure_def, Option.bind_eq_bind, Option.bind_eq_some_iff,
      Option.some.injEq] at settled
    obtain ⟨field, fieldSettled, others, restSettled, rfl⟩ := settled
    rw [Field.eq_map_of_rename? fieldSettled, ih restSettled]
    rfl

namespace ClassSpec

theorem mapAll_eq_map (specs : List ClassSpec) :
    ClassOver.mapAll Json.string specs = specs.map ClassOver.draft := by
  induction specs with
  | nil => rfl
  | cons spec rest ih =>
    rw [ClassOver.mapAll, ih]
    rfl

mutual

/-- A draft that settles is the finished tree taken as a draft. -/
theorem eq_draft_of_settled? : (draft : Draft) → (spec : ClassSpec) →
    draft.settled? = some spec → draft = spec.draft
  | ⟨name, fields, nested⟩, spec, settled => by
    simp only [ClassOver.settled?, ClassOver.rename?] at settled
    split at settled
    · next text settledFields settledNested nameSettled fieldsSettled nestedSettled =>
      simp only [Option.some.injEq] at settled
      subst settled
      rw [Json.text?_eq_some_iff] at nameSettled
      rw [nameSettled, Field.eq_map_of_mapM_rename? fieldsSettled,
        eq_mapAll_of_renameAll? nested settledNested nestedSettled]
      rfl
    · simp at settled

theorem eq_mapAll_of_renameAll? : (drafts : List Draft) → (specs : List ClassSpec) →
    ClassOver.renameAll? Json.text? drafts = some specs →
    drafts = ClassOver.mapAll Json.string specs
  | [], specs, settled => by
    simp only [ClassOver.renameAll?, Option.some.injEq] at settled
    rw [← settled]
    rfl
  | draft :: rest, specs, settled => by
    simp only [ClassOver.renameAll?] at settled
    split at settled
    · next spec others firstSettled restSettled =>
      simp only [Option.some.injEq] at settled
      subst settled
      have first := eq_draft_of_settled? draft spec firstSettled
      rw [ClassOver.mapAll, first, eq_mapAll_of_renameAll? rest others restSettled]
      rfl
    · simp at settled

end

end ClassSpec

/-! ## A form that is read either way -/

theorem Except.toOption_bind {ε α β : Type} (result : Except ε α) (next : α → Except ε β) :
    (result >>= next).toOption = result.toOption.bind fun value => (next value).toOption := by
  cases result <;> rfl

theorem Except.toOption_eq_some_iff {ε α : Type} (result : Except ε α) (value : α) :
    result.toOption = some value ↔ result = .ok value := by
  cases result <;> simp [Except.toOption]

theorem Except.toOption_pure {ε α : Type} (value : α) :
    (pure value : Except ε α).toOption = some value := rfl

theorem FormName.toOption_ofJson (form : Json) :
    (FormName.ofJson form : Except FormError Text).toOption =
      (FormName.ofJson form).toOption.bind Json.text? := by
  cases form <;> rfl

theorem FormName.toOption_require (members : List (Text × Json)) (key : Text) :
    (FormName.require members key : Except FormError Text).toOption =
      (FormName.require members key).toOption.bind Json.text? := by
  simp only [FormName.require]
  cases Keyed.get? key members with
  | none => rfl
  | some form => exact FormName.toOption_ofJson form

mutual

theorem FieldType.toOption_ofJson : (form : Json) →
    (TypeOver.ofJson form : Except FormError FieldType).toOption =
      (TypeOver.ofJson form).toOption.bind (TypeOver.rename? Json.text?)
  | .object members => by
    have nameRead := FormName.toOption_require members "name"
    simp only [TypeOver.ofJson]
    split
    · split
      · exact FieldType.toOption_ofItems members
      · split
        · generalize (FormName.require members "name" : Except FormError Text) = name at nameRead ⊢
          generalize (FormName.require members "name" : Except FormError Json) = draftName
            at nameRead ⊢
          cases name <;> cases draftName <;> grind [Except.toOption, TypeOver.rename?]
        · split <;> rfl
    · rfl
  | .null | .bool _ | .integer _ | .number _ | .string _ | .array _ | .foreign _ => rfl

theorem FieldType.toOption_ofItems : (members : List (Text × Json)) →
    (TypeOver.ofItems members : Except FormError FieldType).toOption =
      (TypeOver.ofItems members).toOption.bind (TypeOver.rename? Json.text?)
  | [] => rfl
  | (key, form) :: rest => by
    have elementRead := FieldType.toOption_ofJson form
    simp only [TypeOver.ofItems]
    split
    · generalize (TypeOver.ofJson form : Except FormError FieldType) = element at elementRead ⊢
      generalize (TypeOver.ofJson form : Except FormError (TypeOver Json)) = draft at elementRead ⊢
      cases element <;> cases draft <;> grind [Except.toOption, TypeOver.rename?]
    · exact FieldType.toOption_ofItems rest

end

theorem Field.toOption_ofJson (form : Json) :
    (FieldOver.ofJson form : Except FormError Field).toOption =
      (FieldOver.ofJson form).toOption.bind (FieldOver.rename? Json.text?) := by
  cases form with
  | object members =>
    have nameRead := FormName.toOption_require members "name"
    simp only [FieldOver.ofJson, Except.toOption_bind, nameRead, Option.bind_assoc]
    cases Keyed.get? (Text.ofString "type") members with
    | none =>
      cases (FormName.require members "name" : Except FormError Json) with
      | error e => rfl
      | ok name => cases name <;> rfl
    | some typeForm =>
      have typeRead := FieldType.toOption_ofJson typeForm
      simp only [Except.toOption_bind, typeRead, Option.bind_assoc]
      cases (FormName.require members "name" : Except FormError Json) with
      | error e => rfl
      | ok name =>
        cases (TypeOver.ofJson typeForm : Except FormError (TypeOver Json)) with
        | error e => cases name <;> rfl
        | ok type =>
          cases Keyed.get? (Text.ofString "jsonName") members with
          | none => cases name <;> simp [Except.toOption, FieldOver.rename?, Json.text?]
          | some keyForm =>
            cases name <;> cases keyForm <;>
              simp [Except.toOption, Except.map, FormName.ofJson, FieldOver.rename?, Json.text?]
  | _ => rfl

theorem Field.toOption_mapM_ofJson (forms : List Json) :
    (forms.mapM FieldOver.ofJson : Except FormError (List Field)).toOption =
      (forms.mapM FieldOver.ofJson).toOption.bind fun drafts =>
        drafts.mapM (FieldOver.rename? Json.text?) := by
  induction forms with
  | nil => rfl
  | cons form rest ih =>
    simp only [List.mapM_cons, Except.toOption_bind, Field.toOption_ofJson, ih]
    cases (FieldOver.ofJson form : Except FormError (FieldOver Json)).toOption with
    | none => rfl
    | some draft =>
      cases (rest.mapM FieldOver.ofJson : Except FormError (List (FieldOver Json))).toOption with
      | none => simp
      | some drafts =>
        simp only [Option.bind_some, Except.toOption_pure, List.mapM_cons]
        rfl

theorem Field.toOption_listOfJson (form : Option Json) :
    (FieldOver.listOfJson form : Except FormError (List Field)).toOption =
      (FieldOver.listOfJson form).toOption.bind fun drafts =>
        drafts.mapM (FieldOver.rename? Json.text?) := by
  unfold FieldOver.listOfJson
  split
  case h_2 => exact Field.toOption_mapM_ofJson _
  all_goals rfl

section

variable {Name : Type} [FormName Name]

theorem ClassOver.ofJson_object (members : List (Text × Json)) :
    (ClassOver.ofJson (.object members) : Except FormError (ClassOver Name)) = (do
      let fields ← FieldOver.listOfJson (Keyed.get? "fields" members)
      let nested ← ClassOver.ofNestedMember members
      let name ← FormName.require members "name"
      pure ⟨name, fields, nested⟩) := by
  rw [ClassOver.ofJson]
  repeat' split
  all_goals simp_all only [bind, Except.bind, pure, Except.pure]

theorem ClassOver.ofItems_cons (form : Json) (rest : List Json) :
    (ClassOver.ofItems (form :: rest) : Except FormError (List (ClassOver Name))) = (do
      let spec ← ClassOver.ofJson form
      let specs ← ClassOver.ofItems rest
      pure (spec :: specs)) := by
  rw [ClassOver.ofItems]
  repeat' split
  all_goals simp_all only [bind, Except.bind, pure, Except.pure]

end

namespace ClassSpec

mutual

/-- A form describes a finished tree if it describes a draft that settles to that tree. -/
theorem toOption_ofJson : (form : Json) →
    (ClassOver.ofJson form : Except FormError ClassSpec).toOption =
      (ClassOver.ofJson form).toOption.bind ClassOver.settled?
  | .object members => by
    have fieldsRead := Field.toOption_listOfJson (Keyed.get? "fields" members)
    have nestedRead := toOption_ofNestedMember members
    have nameRead := FormName.toOption_require members "name"
    simp only [ClassOver.ofJson_object, Except.toOption_bind, Except.toOption_pure, fieldsRead,
      nestedRead, nameRead]
    cases (FieldOver.listOfJson (Keyed.get? (Text.ofString "fields") members) :
      Except FormError (List (FieldOver Json))).toOption with
    | none => rfl
    | some fields =>
      cases (ClassOver.ofNestedMember members : Except FormError (List Draft)).toOption with
      | none => simp
      | some nested =>
        cases (FormName.require members "name" : Except FormError Json).toOption with
        | none => simp
        | some name =>
          simp only [Option.bind_some, ClassOver.settled?, ClassOver.rename?]
          cases name.text? <;> cases fields.mapM (FieldOver.rename? Json.text?) <;>
            cases ClassOver.renameAll? Json.text? nested <;> rfl
  | .null | .bool _ | .integer _ | .number _ | .string _ | .array _ | .foreign _ => rfl

theorem toOption_ofNestedMember : (members : List (Text × Json)) →
    (ClassOver.ofNestedMember members : Except FormError (List ClassSpec)).toOption =
      (ClassOver.ofNestedMember members).toOption.bind (ClassOver.renameAll? Json.text?)
  | [] => rfl
  | (key, form) :: rest => by
    simp only [ClassOver.ofNestedMember]
    split
    · exact toOption_ofNested form
    · exact toOption_ofNestedMember rest

theorem toOption_ofNested : (form : Json) →
    (ClassOver.ofNested form : Except FormError (List ClassSpec)).toOption =
      (ClassOver.ofNested form).toOption.bind (ClassOver.renameAll? Json.text?)
  | .array items => toOption_ofItems items
  | .string text => by cases text <;> rfl
  | .object members => by cases members <;> rfl
  | .null | .bool _ | .integer _ | .number _ | .foreign _ => rfl

theorem toOption_ofItems : (forms : List Json) →
    (ClassOver.ofItems forms : Except FormError (List ClassSpec)).toOption =
      (ClassOver.ofItems forms).toOption.bind (ClassOver.renameAll? Json.text?)
  | [] => rfl
  | form :: rest => by
    have first := toOption_ofJson form
    have others := toOption_ofItems rest
    simp only [ClassOver.ofItems_cons, Except.toOption_bind, Except.toOption_pure, first, others]
    cases (ClassOver.ofJson form : Except FormError Draft).toOption with
    | none => rfl
    | some draft =>
      cases (ClassOver.ofItems rest : Except FormError (List Draft)).toOption with
      | none => simp
      | some drafts =>
        simp only [Option.bind_some, ClassOver.settled?, ClassOver.renameAll?]
        cases draft.rename? Json.text? <;> cases ClassOver.renameAll? Json.text? drafts <;> rfl

end

end ClassSpec

end ClassSynth
