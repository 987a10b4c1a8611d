import Mathlib.Data.List.Forall2
import ClassSynth.Java.Model
import ClassSynth.Proofs.ClassTree.Walk

/-!
# Class models, class by class

A class model has a model for every class of the tree, in the order of the walk, and the model of a
class depends on nothing else in the tree.
-/

set_option autoImplicit false

namespace ClassSynth.Java

namespace ClassModel

mutual

/-- The model of a class and those of all classes below it, each before those nested in it. -/
def walk : ClassModel → List ClassModel
  | ⟨name, annotations, fields, nested⟩ => ⟨name, annotations, fields, nested⟩ :: walkAll nested
termination_by structural model => model

def walkAll : List ClassModel → List ClassModel
  | [] => []
  | model :: rest => walk model ++ walkAll rest
termination_by structural models => models

end

end ClassModel

/-- Whether a model is that of a class, whatever is nested in either. -/
structure ModelsClass (lombok : Bool) (spec : ClassSpec) (model : ClassModel) : Prop where
  unreserved : isReservedWord spec.name = false
  name : model.name = spec.name
  annotations : model.annotations = annotationsFor lombok (!spec.fields.isEmpty)
  fields : model.fields = fieldModels [] spec.fields

variable {lombok : Bool}

/-- What a class model is made of. -/
theorem classModel_eq_ok {name : Text} {fields : List Field} {nested : List ClassSpec}
    {model : ClassModel} (modelled : classModel lombok ⟨name, fields, nested⟩ = .ok model) :
    ∃ models, classModels lombok nested = .ok models ∧ isReservedWord name = false ∧
      model = ⟨name, annotationsFor lombok (!fields.isEmpty), fieldModels [] fields, models⟩ := by
  rw [classModel] at modelled
  cases reserved : isReservedWord name with
  | true => simp [reserved] at modelled
  | false =>
    cases below : classModels lombok nested with
    | error e => simp [reserved, below] at modelled
    | ok models =>
      simp only [reserved, below, Bool.false_eq_true, if_false, Except.ok.injEq] at modelled
      exact ⟨models, rfl, rfl, modelled.symm⟩

theorem classModels_cons_eq_ok {spec : ClassSpec} {rest : List ClassSpec}
    {models : List ClassModel} (modelled : classModels lombok (spec :: rest) = .ok models) :
    ∃ model others, classModel lombok spec = .ok model ∧ classModels lombok rest = .ok others ∧
      models = model :: others := by
  rw [classModels] at modelled
  cases first : classModel lombok spec with
  | error e => simp [first] at modelled
  | ok model =>
    cases later : classModels lombok rest with
    | error e => simp [first, later] at modelled
    | ok others =>
      simp only [first, later, Except.ok.injEq] at modelled
      exact ⟨model, others, rfl, rfl, modelled.symm⟩

mutual

theorem models_walk : (spec : ClassSpec) → (model : ClassModel) →
    classModel lombok spec = .ok model → List.Forall₂ (ModelsClass lombok) spec.walk model.walk
  | ⟨name, fields, nested⟩, model, modelled => by
    obtain ⟨models, below, unreserved, rfl⟩ := classModel_eq_ok modelled
    rw [ClassOver.walk, ClassModel.walk]
    exact .cons ⟨unreserved, rfl, rfl, rfl⟩ (models_walkAll nested models below)

theorem models_walkAll : (specs : List ClassSpec) → (models : List ClassModel) →
    classModels lombok specs = .ok models →
    List.Forall₂ (ModelsClass lombok) (ClassOver.walkAll specs) (ClassModel.walkAll models)
  | [], models, modelled => by
    cases modelled
    exact .nil
  | spec :: rest, models, modelled => by
    obtain ⟨model, others, first, later, rfl⟩ := classModels_cons_eq_ok modelled
    rw [ClassOver.walkAll, ClassModel.walkAll]
    exact List.rel_append (models_walk spec model first) (models_walkAll rest others later)

end

/-- Whether the model of a field has its key, its type and a name made from its own. -/
structure ModelsField (field : Field) (model : FieldModel) : Prop where
  name : ∃ taken, model.name = fieldName field.name taken
  keyLiteral : model.keyLiteral = field.jsonName.literal
  type : model.type = typeText false field.type

theorem modelsField_fieldModels (fields : List Field) :
    ∀ taken, List.Forall₂ ModelsField fields (fieldModels taken fields) := by
  induction fields with
  | nil => exact fun _ => .nil
  | cons field rest ih =>
    intro taken
    exact .cons ⟨⟨taken, rfl⟩, rfl, rfl⟩ (ih _)

end ClassSynth.Java
