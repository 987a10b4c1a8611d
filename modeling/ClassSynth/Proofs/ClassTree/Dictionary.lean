import ClassSynth.Proofs.ClassTree.Draft
import ClassSynth.Proofs.Json.Plain
import ClassSynth.Proofs.Keyed

/-!
# Reading the dictionary form back

Writing a class tree leaves out what is implied, and reading fills it in again; each part of a tree
is read back from its own form.  Names may be of any kind that texts can be taken for, so that one
statement holds of finished trees and of drafts.

The main statement is that a tree is the one its form describes, that trees whose forms say the same
are equal, and that a form which describes a finished tree may be replaced by the one in which that
tree is written.
-/

set_option autoImplicit false

namespace ClassSynth

theorem Primitive.ofName?_name (kind : Primitive) : Primitive.ofName? kind.name = some kind := by
  cases kind <;> decide

/-- No primitive kind has the name by which a form tells one of the other two sorts of types. -/
theorem Primitive.name_ne (kind : Primitive) : kind.name ≠ "list" ∧ kind.name ≠ "class" := by
  cases kind <;> decide

/-! ## Forms that are read back -/

section

variable {Name : Type} [FormName Name]

/-- Texts are read as names by a function. -/
def FormName.ReadsTexts (ofText : Text → Name) : Prop :=
  ∀ text, FormName.ofJson (.string text) = .ok (ofText text)

variable {ofText : Text → Name}

theorem FieldType.ofJson_toJson (reads : FormName.ReadsTexts ofText) (type : FieldType) :
    TypeOver.ofJson type.toJson = .ok (type.map ofText) := by
  induction type with
  | primitive kind =>
    obtain ⟨notList, notClass⟩ := kind.name_ne
    simp only [TypeOver.toJson, TypeOver.ofJson, TypeOver.map, Keyed.get?_cons, if_true, notList,
      notClass, if_false, kind.ofName?_name]
  | list element ih =>
    simp +decide only [TypeOver.toJson, TypeOver.ofJson, TypeOver.ofItems, TypeOver.map,
      Keyed.get?_cons, ih, if_true, if_false]
  | reference className =>
    simp +decide only [TypeOver.toJson, TypeOver.ofJson, TypeOver.map, Keyed.get?_cons,
      FormName.require, FormName.toJson, reads className, if_true, if_false]

theorem Field.ofJson_toJson (reads : FormName.ReadsTexts ofText) (field : Field) :
    FieldOver.ofJson field.toJson = .ok (field.map ofText) := by
  obtain ⟨name, type, key⟩ := field
  have typeRead := FieldType.ofJson_toJson reads type
  by_cases implied : key = name
  · subst implied
    simp +decide [FieldOver.toJson, FieldOver.ofJson, FieldOver.map, Keyed.get?_cons,
      FormName.require, NameEquality.equal, FormName.toJson, reads key, typeRead]
    rfl
  · simp +decide [FieldOver.toJson, FieldOver.ofJson, FieldOver.map, Keyed.get?_cons,
      FormName.require, NameEquality.equal, FormName.toJson, reads name, reads key, typeRead,
      implied]
    rfl

theorem Field.mapM_ofJson_toJson (reads : FormName.ReadsTexts ofText) (fields : List Field) :
    (fields.map FieldOver.toJson).mapM FieldOver.ofJson =
      .ok (fields.map (FieldOver.map ofText)) := by
  induction fields with
  | nil => rfl
  | cons field rest ih =>
    simp only [List.map_cons, List.mapM_cons, Field.ofJson_toJson reads, ih]
    rfl

namespace ClassSpec

mutual

theorem ofJson_toJson_map (reads : FormName.ReadsTexts ofText) : (spec : ClassSpec) →
    ClassOver.ofJson spec.toJson = .ok (spec.map ofText)
  | ⟨name, fields, nested⟩ => by
    have fieldsRead := Field.mapM_ofJson_toJson reads fields
    have nestedRead := ofItems_toJsonAll reads nested
    by_cases none : nested.isEmpty
    · rw [List.isEmpty_iff] at none
      subst none
      simp +decide [ClassOver.toJson, ClassOver.ofJson, ClassOver.map, ClassOver.mapAll,
        ClassOver.ofNestedMember, Keyed.get?_cons, FieldOver.listOfJson, FormName.require,
        FormName.toJson, reads name, fieldsRead]
    · simp +decide [ClassOver.toJson, ClassOver.ofJson, ClassOver.map, ClassOver.ofNested,
        ClassOver.ofNestedMember, Keyed.get?_cons, FieldOver.listOfJson, FormName.require,
        FormName.toJson, reads name, fieldsRead, nestedRead, none]

theorem ofItems_toJsonAll (reads : FormName.ReadsTexts ofText) : (specs : List ClassSpec) →
    ClassOver.ofItems (ClassOver.toJsonAll specs) = .ok (ClassOver.mapAll ofText specs)
  | [] => rfl
  | spec :: rest => by
    simp only [ClassOver.toJsonAll, ClassOver.ofItems, ClassOver.mapAll,
      ofJson_toJson_map reads spec, ofItems_toJsonAll reads rest]

end

end ClassSpec

end

/-! ## Texts as names, and drafts -/

theorem FieldType.map_id (type : FieldType) : type.map id = type := by
  induction type with
  | primitive kind => rfl
  | list element ih => rw [TypeOver.map, ih]
  | reference className => rfl

theorem Field.map_id (field : Field) : field.map id = field := by
  rw [FieldOver.map, FieldType.map_id]
  rfl

theorem FieldType.draft_toJson (type : FieldType) :
    (type.map Json.string).toJson = type.toJson := by
  induction type with
  | primitive kind => rfl
  | list element ih => rw [TypeOver.map, TypeOver.toJson, ih, TypeOver.toJson]
  | reference className => rfl

theorem Field.draft_toJson (field : Field) : (field.map Json.string).toJson = field.toJson := by
  have sameKey : NameEquality.equal (Json.string field.jsonName) (Json.string field.name) =
      NameEquality.equal field.jsonName field.name := by
    rw [Bool.eq_iff_iff]
    change Json.equal _ _ = true ↔ decide (field.jsonName = field.name) = true
    rw [Json.equal_string_iff, Json.string.injEq, decide_eq_true_eq]
    exact eq_comm
  rw [FieldOver.toJson, FieldOver.map, FieldType.draft_toJson, sameKey, FieldOver.toJson]
  rfl

namespace ClassSpec

mutual

theorem map_id : (spec : ClassSpec) → spec.map id = spec
  | ⟨name, fields, nested⟩ => by
    have fieldsKept : fields.map (FieldOver.map id) = fields :=
      (List.map_congr_left fun field _ => Field.map_id field).trans (List.map_id fields)
    rw [ClassOver.map, fieldsKept, mapAll_id nested]
    rfl

theorem mapAll_id : (specs : List ClassSpec) → ClassOver.mapAll id specs = specs
  | [] => rfl
  | spec :: rest => by rw [ClassOver.mapAll, map_id spec, mapAll_id rest]

end

mutual

/-- A finished tree is written in the same form when it is taken as a draft. -/
theorem draft_toJson : (spec : ClassSpec) → spec.draft.toJson = spec.toJson
  | ⟨name, fields, nested⟩ => by
    have fieldsKept : (fields.map (FieldOver.map Json.string)).map FieldOver.toJson =
        fields.map FieldOver.toJson := by
      rw [List.map_map]
      exact List.map_congr_left fun field _ => Field.draft_toJson field
    have emptyKept : (ClassOver.mapAll Json.string nested).isEmpty = nested.isEmpty := by
      cases nested <;> rfl
    simp only [ClassOver.draft, ClassOver.map, ClassOver.toJson, fieldsKept, emptyKept,
      toJsonAll_mapAll_string nested]
    rfl

theorem toJsonAll_mapAll_string : (specs : List ClassSpec) →
    ClassOver.toJsonAll (ClassOver.mapAll Json.string specs) = ClassOver.toJsonAll specs
  | [] => rfl
  | spec :: rest => by
    have first := draft_toJson spec
    rw [ClassOver.draft] at first
    rw [ClassOver.mapAll, ClassOver.toJsonAll, first, toJsonAll_mapAll_string rest,
      ClassOver.toJsonAll]

end

/-- A finished tree is read back from its form. -/
theorem ofJson_toJson (spec : ClassSpec) : ClassOver.ofJson spec.toJson = .ok spec := by
  have reads : FormName.ReadsTexts (id : Text → Text) := fun _ => rfl
  have readAs := ofJson_toJson_map reads spec
  rwa [map_id] at readAs

/-- A finished tree that is taken as a draft is read back as one. -/
theorem ofJson_toJson_draft (spec : ClassSpec) :
    ClassOver.ofJson spec.draft.toJson = .ok spec.draft := by
  rw [draft_toJson]
  exact ofJson_toJson_map (fun _ => rfl) spec

end ClassSpec

/-! ## Forms within the data model -/

theorem FieldType.isPlain_toJson (type : FieldType) : type.toJson.isPlain = true := by
  induction type with
  | primitive kind => rfl
  | list element ih => simp [TypeOver.toJson, Json.isPlain, Json.membersArePlain, ih]
  | reference className => rfl

theorem Field.isPlain_toJson (field : Field) : field.toJson.isPlain = true := by
  have texts : ∀ text : Text, (FormName.toJson text).isPlain = true := fun _ => rfl
  rw [FieldOver.toJson]
  split <;> simp [Json.isPlain, Json.membersArePlain, texts, FieldType.isPlain_toJson]

namespace ClassSpec

mutual

theorem isPlain_toJson : (spec : ClassSpec) → spec.toJson.isPlain = true
  | ⟨name, fields, nested⟩ => by
    have texts : (FormName.toJson name).isPlain = true := rfl
    have inFields : Json.arePlain (fields.map FieldOver.toJson) = true := by
      simp [Json.arePlain_iff, Field.isPlain_toJson]
    have inNested := arePlain_toJsonAll nested
    simp only [ClassOver.toJson, Json.isPlain, Json.membersArePlain, texts, inFields]
    split <;> simp [Json.isPlain, Json.membersArePlain, inNested]

theorem arePlain_toJsonAll : (specs : List ClassSpec) →
    Json.arePlain (ClassOver.toJsonAll specs) = true
  | [] => rfl
  | spec :: rest => by
    rw [ClassOver.toJsonAll, Json.arePlain, isPlain_toJson spec, arePlain_toJsonAll rest]
    rfl

end

end ClassSpec

/-! ## Forms that say the same -/

theorem Primitive.name_injective : Function.Injective Primitive.name := by
  intro kind other same
  have found := kind.ofName?_name
  rw [same, other.ofName?_name] at found
  exact (Option.some.inj found).symm

theorem FieldType.alike_toJson_iff (type other : FieldType) :
    type.toJson.alike other.toJson = true ↔ type = other := by
  induction type generalizing other with
  | primitive kind =>
    cases other with
    | primitive kind' =>
      simp [TypeOver.toJson, Json.alike, Json.alikeMembers, Json.alikeScalars, Keyed.get?_cons,
        Primitive.name_injective.eq_iff]
    | list element => simp [TypeOver.toJson, Json.alike]
    | reference className => simp [TypeOver.toJson, Json.alike]
  | list element ih =>
    cases other with
    | primitive kind => simp [TypeOver.toJson, Json.alike]
    | list element' =>
      simp +decide [TypeOver.toJson, Json.alike, Json.alikeMembers, Json.alikeScalars,
        Keyed.get?_cons, ih]
    | reference className =>
      simp +decide [TypeOver.toJson, Json.alike, Json.alikeMembers, Json.alikeScalars,
        Keyed.get?_cons]
  | reference name =>
    cases other with
    | primitive kind => simp [TypeOver.toJson, Json.alike]
    | list element =>
      simp +decide [TypeOver.toJson, Json.alike, Json.alikeMembers, Json.alikeScalars,
        Keyed.get?_cons]
    | reference name' =>
      simp +decide [TypeOver.toJson, Json.alike, Json.alikeMembers, Json.alikeScalars,
        Keyed.get?_cons, FormName.toJson]

/-- A key that is left out is the identifier, so its absence tells as much as its presence. -/
theorem Field.alike_toJson_iff (field other : Field) :
    field.toJson.alike other.toJson = true ↔ field = other := by
  obtain ⟨name, type, key⟩ := field
  obtain ⟨name', type', key'⟩ := other
  by_cases implied : key = name <;> by_cases implied' : key' = name' <;>
    simp +decide [FieldOver.toJson, NameEquality.equal, FormName.toJson, Json.alike,
      Json.alikeMembers, Json.alikeScalars, Keyed.get?_cons, FieldType.alike_toJson_iff, implied,
      implied']
  all_goals grind

theorem Field.alikeItems_toJson_iff (fields others : List Field) :
    Json.alikeItems (fields.map FieldOver.toJson) (others.map FieldOver.toJson) = true ↔
      fields = others := by
  induction fields generalizing others with
  | nil => cases others <;> simp [Json.alikeItems]
  | cons field rest ih => cases others <;> simp [Json.alikeItems, Field.alike_toJson_iff, ih]

namespace ClassSpec

mutual

theorem alike_toJson_iff : (spec other : ClassSpec) →
    (spec.toJson.alike other.toJson = true ↔ spec = other)
  | ⟨name, fields, nested⟩, ⟨name', fields', nested'⟩ => by
    have nestedAlike := alikeItems_toJsonAll_iff nested nested'
    cases nested <;> cases nested' <;>
      simp +decide [ClassOver.toJson, FormName.toJson, Json.alike, Json.alikeMembers,
        Json.alikeScalars, Keyed.get?_cons, Field.alikeItems_toJson_iff] at nestedAlike ⊢
    exact fun _ _ => nestedAlike

theorem alikeItems_toJsonAll_iff : (specs others : List ClassSpec) →
    (Json.alikeItems (ClassOver.toJsonAll specs) (ClassOver.toJsonAll others) = true ↔
      specs = others)
  | [], others => by cases others <;> simp [ClassOver.toJsonAll, Json.alikeItems]
  | _ :: _, [] => by simp [ClassOver.toJsonAll, Json.alikeItems]
  | spec :: rest, other :: others => by
    simp only [ClassOver.toJsonAll, Json.alikeItems, Bool.and_eq_true, alike_toJson_iff spec other,
      alikeItems_toJsonAll_iff rest others, List.cons.injEq]

end

/-- Class trees survive their form: each is read back from it, finished or as a draft; two trees are
equal when their forms say the same; and whatever form describes a finished tree, once that tree has
been written anew its form describes what the first one did. -/
theorem survives_dictionary_form :
    (∀ spec : ClassSpec, ClassOver.ofJson spec.toJson = .ok spec ∧
      ClassOver.ofJson spec.draft.toJson = .ok spec.draft) ∧
    (∀ spec other : ClassSpec, spec.toJson.alike other.toJson = true ↔ spec = other) ∧
    (∀ (form : Json) (draft : Draft) (spec : ClassSpec), ClassOver.ofJson form = .ok draft →
      draft.settled? = some spec →
        ClassOver.ofJson form = .ok spec ∧ draft = spec.draft ∧
          ClassOver.ofJson draft.toJson = .ok draft) := by
  refine ⟨fun spec => ⟨ofJson_toJson spec, ofJson_toJson_draft spec⟩, alike_toJson_iff,
    fun form draft spec described settled => ?_⟩
  have finished := toOption_ofJson form
  rw [described] at finished
  have read := (Except.toOption_eq_some_iff _ spec).mp (finished.trans settled)
  obtain rfl := eq_draft_of_settled? draft spec settled
  exact ⟨read, rfl, ofJson_toJson_draft spec⟩

/-- A form as someone might write it: keys in any order, a key that is given as null, and a class
without a list of fields. -/
def parcelForm : Json :=
  .object [("nestedClasses", .array [.object [("name", .string "ParcelNote")]]),
    ("fields", .array [
      .object [("type", .object [("type", .string "long")]), ("jsonName", .null),
        ("name", .string "weight")],
      .object [("name", .string "notes"), ("jsonName", .string ""),
        ("type", .object [("type", .string "list"),
          ("items", .object [("name", .string "ParcelNote"), ("type", .string "class")])])]]),
    ("name", .string "Parcel")]

def parcelTree : ClassSpec :=
  ⟨"Parcel", [⟨"weight", .primitive .long, "weight"⟩,
    ⟨"notes", .list (.reference "ParcelNote"), ""⟩], [⟨"ParcelNote", [], []⟩]⟩

/-- The form above describes a tree that is written in another form, and both are read alike. -/
theorem parcelForm_survives :
    ClassOver.ofJson parcelForm = .ok parcelTree.draft ∧
      parcelTree.draft.settled? = some parcelTree ∧
      parcelTree.toJson.alike parcelForm = false ∧
      ClassOver.ofJson parcelForm = .ok parcelTree ∧
      ClassOver.ofJson parcelTree.draft.toJson = .ok parcelTree.draft :=
  have described : ClassOver.ofJson parcelForm = .ok parcelTree.draft := rfl
  have settled : parcelTree.draft.settled? = some parcelTree := rfl
  have survives := survives_dictionary_form.2.2 parcelForm _ parcelTree described settled
  ⟨described, settled, by decide, survives.1, survives.2.2⟩

end ClassSpec

end ClassSynth
