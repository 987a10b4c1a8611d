import ClassSynth.ClassTree.Dictionary

/-!
# Drafts

A draft is a class tree whose names need not be texts.  One whose names all are can be settled, and
a finished class tree can stand among drafts.  The main statement is that this loses nothing: a
finished tree that is taken as a draft settles to itself.
-/

set_option autoImplicit false

namespace ClassSynth

/-- The finished tree of a draft whose names are all texts. -/
def ClassOver.settled? (draft : Draft) : Option ClassSpec := draft.rename? Json.text?

def ClassOver.draft (spec : ClassSpec) : Draft := spec.map Json.string

theorem FieldType.rename?_map (type : FieldType) :
    (type.map Json.string).rename? Json.text? = some type := by
  induction type with
  | primitive kind => rfl
  | list element ih => simp [TypeOver.map, TypeOver.rename?, ih]
  | reference className => simp [TypeOver.map, TypeOver.rename?, Json.text?]

theorem Field.rename?_map (field : Field) :
    (field.map Json.string).rename? Json.text? = some field := by
  simp [FieldOver.map, FieldOver.rename?, FieldType.rename?_map, Json.text?]

theorem Field.mapM_rename?_map (fields : List Field) :
    (fields.map (FieldOver.map Json.string)).mapM (FieldOver.rename? Json.text?) = some fields := by
  induction fields with
  | nil => rfl
  | cons field rest ih => simp [Field.rename?_map, ih]

namespace ClassSpec

mutual

theorem settled?_draft : (spec : ClassSpec) → spec.draft.settled? = some spec
  | ⟨name, fields, nested⟩ => by
    simp only [ClassOver.settled?, ClassOver.draft, ClassOver.map, ClassOver.rename?, Json.text?,
      Field.mapM_rename?_map, renameAll?_mapAll nested]

theorem renameAll?_mapAll : (specs : List ClassSpec) →
    ClassOver.renameAll? Json.text? (ClassOver.mapAll Json.string specs) = some specs
  | [] => rfl
  | spec :: rest => by
    have settled := settled?_draft spec
    simp only [ClassOver.settled?, ClassOver.draft] at settled
    simp only [ClassOver.mapAll, ClassOver.renameAll?, settled, renameAll?_mapAll rest]

end

end ClassSpec

end ClassSynth
