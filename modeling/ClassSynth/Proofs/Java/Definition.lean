import ClassSynth.Proofs.Java.Bracket
import ClassSynth.Proofs.Java.LegalName

/-!
# Class definitions

The definition of a class is one block below its annotations, whatever the keys of the tree are: a
key stands inside a literal, on a line that ends behind it.  The classes nested in it stand at the
end of the block, each as it would be defined alone but for one word in its heading.
-/

set_option autoImplicit false

namespace ClassSynth.Java

/-! ## Reading definitions -/

/-- The lines of a text, each of which ends with a line feed. -/
def linesOf (text : Text) : List Text := (text.cutAt lineFeed).dropLast

theorem linesOf_textOfLines {lines : List Text} (plain : ∀ line ∈ lines, lineFeed ∉ line) :
    linesOf (textOfLines lines) = lines := by
  have cut := cutAt_textOfLines_append plain []
  rw [List.append_nil] at cut
  rw [linesOf, cut]
  exact List.dropLast_concat

/-- The definition of a class tree, which its source ends with. -/
def Generator.definitionOf (g : Generator) (spec : ClassSpec) : Except ReservedClassName Text :=
  (g.model spec).map g.definition

/-- Whether lines around and inside a block stand where they should: those up to the heading in no
block, those inside in some block, and the last one in none again. -/
structure IsOutline (name : Text) (above inside : List Text) : Prop where
  outside : ∀ before line behind, above ++ [heading false name] = before ++ line :: behind →
    blocksAt before line = 0
  within : ∀ before line behind, inside = before ++ line :: behind →
    0 < blocksAt (above ++ heading false name :: before) line
  after : blocksAt (above ++ heading false name :: inside) ending = 0

theorem isOutline_block {name : Text} {above inside : List Text}
    (flush : ∀ line ∈ above, IsFlush false line) (bracketed : IsBracketed inside) :
    IsOutline name above (inside.map indentLine) := by
  have settled := (isBracketed_of_isFlush flush).settled
  have opens := isFlush_heading false name
  constructor
  · intro before line behind split
    rcases line_of_append split with ⟨more, rfl⟩ | ⟨more, rfl, last⟩
    · rw [List.forall_mem_append, List.forall_mem_cons] at flush
      exact flush.2.1.blocksAt_eq_zero flush.1
    · obtain ⟨rfl, rfl, rfl⟩ := line_of_singleton last
      rw [List.append_nil]
      exact opens.blocksAt_eq_zero flush
  · intro before line behind split
    obtain ⟨level, stands, -⟩ := within_block bracketed opens split
    rw [blocksAt_append, settled, stands]
    omega
  · rw [blocksAt_append, settled, blocksAt_ending bracketed opens]
    rfl

/-! ## Nested classes -/

def publicOpening : Text := "public "

/-- Lines with `static` put behind the `public` of the first of them that begins so. -/
def insertStatic : List Text → List Text
  | [] => []
  | line :: rest =>
    match line.dropPrefix? publicOpening with
    | none => line :: insertStatic rest
    | some behind => (publicOpening ++ "static " ++ behind) :: rest

/-- The lines of a definition as they stand inside another. -/
def nestedForm (lines : List Text) : List Text := (insertStatic lines).map indentLine

theorem insertStatic_append {above : List Text}
    (silent : ∀ line ∈ above, line.dropPrefix? publicOpening = none) (lines : List Text) :
    insertStatic (above ++ lines) = above ++ insertStatic lines := by
  induction above with
  | nil => rfl
  | cons line rest ih =>
    obtain ⟨first, later⟩ := List.forall_mem_cons.mp silent
    rw [List.cons_append, insertStatic, first]
    exact congrArg (line :: ·) (ih later)

section

variable (style : Style)

theorem insertStatic_lines (model : ClassModel) :
    insertStatic (model.lines style false) = model.lines style true := by
  obtain ⟨name, annotations, fields, nested⟩ := model
  have silent : ∀ line ∈ annotations.map (CodePoint.ofChar '@' :: ·),
      line.dropPrefix? publicOpening = none := by
    intro line listed
    obtain ⟨label, -, rfl⟩ := List.mem_map.mp listed
    rfl
  have opens : (heading false name).dropPrefix? publicOpening =
      some ("class " ++ name ++ " \x7b") :=
    List.dropPrefix?_append_of_beq _ (beq_self_eq_true publicOpening)
  rw [ClassModel.lines, ClassModel.lines, List.append_assoc, List.append_assoc,
    insertStatic_append silent, List.singleton_append, insertStatic, opens]
  simp only [List.append_assoc]
  rfl

example : nestedForm ["@Data", "public class A \x7b", [], "\x7d"] =
    (["    @Data", "    public static class A \x7b", [], "    \x7d"] : List Text) := by decide

theorem map_indentLine_nestedLines (models : List ClassModel) :
    (nestedLines style models).map indentLine =
      models.flatMap fun model => [] :: nestedForm (model.lines style false) := by
  induction models with
  | nil => rfl
  | cons model rest ih =>
    rw [nestedLines, List.map_cons, List.map_append, ih, List.flatMap_cons, nestedForm,
      insertStatic_lines]
    rfl

/-- A class has the lines it would have without nested classes, and the lines of these before its
last one. -/
theorem lines_eq_nestedForm (name : Text) (annotations : List Text) (fields : List FieldModel)
    (nested : List ClassModel) : ClassModel.lines style false ⟨name, annotations, fields, nested⟩ =
      (ClassModel.lines style false ⟨name, annotations, fields, []⟩).dropLast ++
        nested.flatMap (fun model => [] :: nestedForm (model.lines style false)) ++ [ending] := by
  rw [← map_indentLine_nestedLines, ClassModel.lines, ClassModel.lines, List.dropLast_concat]
  simp only [nestedLines, List.append_nil, List.map_append, List.append_assoc]

end

/-! ## Definitions of synthesized classes -/

section

variable {g : Generator}

/-- How the definition of a class is laid out. -/
structure Generator.LaysOut (g : Generator) (cls : ClassSpec) (definition : Text) : Prop where
  /-- The last line, too, ends with a line feed. -/
  whole : textOfLines (linesOf definition) = definition
  indented : ∀ before line behind, linesOf definition = before ++ line :: behind →
    ∃ level : Nat, blocksAt before line = level ∧ IsIndented level line
  outline : ∃ above inside,
    linesOf definition = above ++ heading false cls.name :: (inside ++ [ending]) ∧
      IsOutline cls.name above inside
  /-- The nested classes stand last, each below an empty line. -/
  nested : ∃ alone below, g.definitionOf { cls with nested := [] } = .ok alone ∧
    List.Forall₂ (fun inner text => g.definitionOf inner = .ok text) cls.nested below ∧
    linesOf definition = (linesOf alone).dropLast ++
      below.flatMap (fun text => [] :: nestedForm (linesOf text)) ++ [ending]

theorem isFlushAbove_of_model {spec : ClassSpec} {model : ClassModel}
    (modelled : g.model spec = .ok model) : ∀ inner ∈ model.walk, inner.IsFlushAbove := by
  have each : ∀ lombok hasFields, ∀ label ∈ annotationsFor lombok hasFields,
      opensBlock (CodePoint.ofChar '@' :: label) = false := by
    decide
  intro inner present line listed
  obtain ⟨label, carried, rfl⟩ := List.mem_map.mp listed
  obtain ⟨cls, -, models⟩ := exists_class_of_mem_walk modelled present
  rw [models.annotations] at carried
  exact isFlush_cons (by decide) (by decide) (each _ _ label carried)

theorem linesOf_definition {model : ClassModel} (legible : ∀ inner ∈ model.walk, inner.IsLegible) :
    linesOf (g.definition model) = model.lines g.style false :=
  linesOf_textOfLines (ClassModel.lineFeed_not_mem_lines model false legible)

theorem forall₂_model_of_classModels {lombok : Bool} (specs : List ClassSpec) :
    ∀ models, classModels lombok specs = .ok models →
      List.Forall₂ (fun spec model => classModel lombok spec = .ok model) specs models := by
  induction specs with
  | nil =>
    rintro models ⟨⟩
    exact .nil
  | cons spec rest ih =>
    intro models modelled
    obtain ⟨model, others, first, later, rfl⟩ := classModels_cons_eq_ok modelled
    exact .cons first (ih others later)

theorem definitionOf_eq_ok {spec : ClassSpec} {model : ClassModel}
    (modelled : g.model spec = .ok model) : g.definitionOf spec = .ok (g.definition model) :=
  congrArg (Except.map g.definition) modelled

theorem classModel_without_nested {lombok : Bool} {name : Text} {fields : List Field}
    (unreserved : isReservedWord name = false) : classModel lombok ⟨name, fields, []⟩ =
      .ok ⟨name, annotationsFor lombok (!fields.isEmpty), fieldModels [] fields, []⟩ := by
  rw [classModel, unreserved, if_neg Bool.false_ne_true]
  rfl

theorem linesOf_definition_eq_nestedForm {name : Text} {annotations : List Text}
    {fields : List FieldModel} {nested : List ClassModel}
    (legible : ∀ inner ∈ ClassModel.walk ⟨name, annotations, fields, nested⟩, inner.IsLegible) :
    linesOf (g.definition ⟨name, annotations, fields, nested⟩) =
      (linesOf (g.definition ⟨name, annotations, fields, []⟩)).dropLast ++
        (nested.map g.definition).flatMap (fun text => [] :: nestedForm (linesOf text)) ++
          [ending] := by
  have whole := linesOf_definition (g := g) legible
  rw [ClassModel.forall_mem_walk_iff] at legible
  obtain ⟨here, below⟩ := legible
  have alone : ∀ inner ∈ ClassModel.walk ⟨name, annotations, fields, []⟩, inner.IsLegible := by
    rw [ClassModel.forall_mem_walk_iff]
    exact ⟨⟨here.name, here.annotations, here.fieldNames, here.keyLiterals, here.types⟩,
      List.forall_mem_nil _⟩
  have each : (nested.map g.definition).flatMap (fun text => [] :: nestedForm (linesOf text)) =
      nested.flatMap fun model => [] :: nestedForm (model.lines g.style false) := by
    rw [List.flatMap_map]
    apply List.flatMap_congr
    intro model listed
    rw [linesOf_definition (below model listed)]
  rw [whole, linesOf_definition alone, each]
  exact lines_eq_nestedForm g.style name annotations fields nested

theorem laysOut_of_model {cls : ClassSpec} {model : ClassModel}
    (words : ∀ inner ∈ cls.walk, HasWords inner) (modelled : g.model cls = .ok model) :
    g.LaysOut cls (g.definition model) := by
  have legible := isLegible_of_hasWords words modelled
  have flush := isFlushAbove_of_model modelled
  have lines := linesOf_definition (g := g) legible
  obtain ⟨name, fields, nested⟩ := cls
  obtain ⟨models, below, unreserved, rfl⟩ := classModel_eq_ok modelled
  constructor
  · rw [lines]
    rfl
  · rw [lines]
    exact (isBracketed_lines g.style _ false flush).indented
  · rw [ClassModel.forall_mem_walk_iff] at flush
    have inside := (isBracketed_ownLines g.style name (fieldModels [] fields)).append
      (isBracketed_nestedLines g.style models flush.2)
    refine ⟨_, _, ?_, isOutline_block flush.1 inside⟩
    rw [lines, ClassModel.lines, List.append_assoc, List.append_assoc]
    rfl
  · have inner := forall₂_model_of_classModels nested models below
    refine ⟨_, models.map g.definition,
      definitionOf_eq_ok (classModel_without_nested unreserved), ?_,
      linesOf_definition_eq_nestedForm legible⟩
    rw [List.forall₂_map_right_iff]
    exact inner.imp fun _ _ modelled => definitionOf_eq_ok modelled

end

/-- In a synthesized class tree that has a source, the definition of every class is well bracketed:
each line is empty or indented by the number of blocks it stands in, the class is the one block that
begins at the margin, and the classes nested in it stand in it as they would be defined alone, made
static and put one level further in. -/
theorem synthesized_definitions_lay_out (g : Generator) (o : Options) (document : Json)
    (className : Option Text) (spec : ClassSpec) (text : Text)
    (success : synthesizeFresh o document className = .ok spec)
    (sourced : g.source spec = .ok text) :
    (∃ definition, g.definitionOf spec = .ok definition ∧
      text = g.header (g.importsFor definition) ++ definition) ∧
    ∀ cls ∈ spec.walk, ∃ definition, g.definitionOf cls = .ok definition ∧
      g.LaysOut cls definition := by
  obtain ⟨model, modelled, rfl⟩ := exists_model_of_source sourced
  refine ⟨⟨_, definitionOf_eq_ok modelled, rfl⟩, ?_⟩
  obtain ⟨identifier, members, mirrored⟩ := mirrors_of_synthesizeFresh success
  have words := mirrored.hasWords_of_mem_walk (Text.isWord_of_isIdentifier identifier)
  have unreserved := (exists_model_iff g spec).mp ⟨model, modelled⟩
  intro cls within
  have here : ∀ inner ∈ cls.walk, inner ∈ spec.walk :=
    fun inner below => spec.walk_trans cls inner within below
  obtain ⟨inner, modelledHere⟩ :=
    (exists_model_iff g cls).mpr fun inner below => unreserved inner (here inner below)
  exact ⟨_, definitionOf_eq_ok modelledHere,
    laysOut_of_model (fun inner below => words inner (here inner below)) modelledHere⟩

/-- A document whose keys hold braces and a line feed. -/
def bracedDocument : Json :=
  .object [("a \x7b", .object [("\x7d\n", .integer 1)]), ("\x7d", .array [.integer 2])]

def bracedSpec : ClassSpec :=
  ⟨"Braced", [⟨"a__", .reference "BracedA__", "a \x7b"⟩, ⟨"_", .list (.primitive .int), "\x7d"⟩],
    [⟨"BracedA__", [⟨"__", .primitive .int, "\x7d\n"⟩], []⟩]⟩

def bracedModel : ClassModel :=
  ⟨"Braced", [], fieldModels [] bracedSpec.fields,
    bracedSpec.nested.map fun cls => ⟨cls.name, [], fieldModels [] cls.fields, []⟩⟩

theorem bracedSpec_definitions_lay_out :
    synthesizeFresh .default bracedDocument (some "Braced") = .ok bracedSpec ∧
      plainGenerator.source bracedSpec = .ok (plainGenerator.sourceOfModel bracedModel) ∧
      ∀ cls ∈ bracedSpec.walk, ∃ definition, plainGenerator.definitionOf cls = .ok definition ∧
        plainGenerator.LaysOut cls definition := by
  have success : synthesizeFresh .default bracedDocument (some "Braced") = .ok bracedSpec := by
    decide +kernel
  have modelled : plainGenerator.model bracedSpec = .ok bracedModel := rfl
  have sourced : plainGenerator.source bracedSpec =
      .ok (plainGenerator.sourceOfModel bracedModel) :=
    congrArg (Except.map plainGenerator.sourceOfModel) modelled
  exact ⟨success, sourced, (synthesized_definitions_lay_out plainGenerator .default
    bracedDocument (some "Braced") bracedSpec _ success sourced).2⟩

end ClassSynth.Java
